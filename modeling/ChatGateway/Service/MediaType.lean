/-!
# Media types

The type of a body as its header names it: a type, a subtype with a suffix after
its last plus sign, and parameters.  Only the subtype and the suffix matter
here, but a header that is badly formed in any part names no type at all.
-/

namespace ChatGateway.Service

/-- A media type; case does not matter in it. -/
structure MediaType where
  kind : String
  subtype : String
  suffix : Option String
deriving DecidableEq, Repr

namespace MediaType

/-- A character that a name may hold. -/
def isToken (c : Char) : Bool :=
  c.isAlphanum || "!#$%&'*+-.^_`|~".toList.contains c

/-! ## Parameters -/

/-- Where in the parameters a reader stands. -/
inductive ParameterState where
  /-- Before a name. -/
  | start
  | name
  /-- After an equals sign. -/
  | valueStart
  | value
  /-- After an opening quotation mark. -/
  | quotedStart
  | quoted
  /-- After a closing quotation mark. -/
  | quotedEnd
deriving DecidableEq, Repr

/-- Whether a character may stand in quotation marks: the ASCII characters that
are no controls. -/
def isQuotable (c : Char) : Bool := 0x20 ≤ c.toNat && c.toNat < 0x7F

/-- One character of the parameters. -/
def ParameterState.next? (state : ParameterState) (c : Char) : Option ParameterState :=
  match state with
  | .start => if c == ' ' then some .start else if isToken c then some .name else none
  | .name => if isToken c then some .name else if c == '=' then some .valueStart else none
  | .valueStart => if c == '"' then some .quotedStart else if isToken c then some .value else none
  | .value => if isToken c then some .value else if c == ';' then some .start else none
  | .quotedStart => if isQuotable c then some .quoted else none
  | .quoted => if c == '"' then some .quotedEnd else if isQuotable c then some .quoted else none
  | .quotedEnd => if c == ' ' then some .quotedEnd else if c == ';' then some .start else none

/-- Whether the parameters may end there. -/
def ParameterState.mayEnd : ParameterState → Bool
  | .start | .valueStart | .value | .quotedEnd => true
  | .name | .quotedStart | .quoted => false

/-- Whether the text after a semicolon holds well formed parameters. -/
def areParameters (cs : List Char) : Bool :=
  match cs.foldlM ParameterState.next? ParameterState.start with
  | some state => state.mayEnd
  | none => false

/-! ## Types -/

/-- The subtype and the suffix of a name: the suffix follows the last plus sign
that does not begin the name. -/
def splitSuffix (cs : List Char) : String × Option String :=
  match cs.reverse.span (· != '+') with
  | (suffix, _ :: c :: before) =>
    (String.ofList (c :: before).reverse, some (String.ofList suffix.reverse))
  | _ => (String.ofList cs, none)

/-- Reads a media type. -/
def parse? (s : String) : Option MediaType :=
  match s.toLower.toList.span isToken with
  | (c :: kind, '/' :: rest) =>
    let (name, parameters) := rest.span (· != ';')
    if name.all isToken && (parameters.isEmpty || !name.isEmpty) &&
        areParameters (parameters.drop 1) then
      let (subtype, suffix) := splitSuffix name
      some ⟨String.ofList (c :: kind), subtype, suffix⟩
    else none
  | _ => none

/-- Whether a media type is one of JSON. -/
def isJson (m : MediaType) : Bool := m.subtype == "json" || m.suffix == some "json"

end MediaType

end ChatGateway.Service
