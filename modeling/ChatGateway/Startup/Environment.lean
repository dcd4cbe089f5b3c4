import ChatGateway.Text.Alphanumeric
import ChatGateway.Text.Blank
import ChatGateway.Text.Quoted
import ChatGateway.Text.Utf8

/-!
# The environment and the `.env` file

Variables come from the process and, where the process does not set them, from a
file of assignments.  The file is read line by line; a line that is neither
empty, a comment nor an assignment ends the reading, and what stands before it
counts.  A value may be quoted, and may name other variables after a dollar
sign.  A value with a NUL is more than a variable can hold: setting one fails, and
the failure says which value was to go where.
-/

namespace ChatGateway.Startup

/-- The variables that are set, with their values. -/
abbrev Environment := List (String × String)

namespace Environment

/-- The environment of a process: a value that is no UTF-8 counts as unset, and of two
values of one variable the first counts. -/
def ofProcess : List (String × List UInt8) → Environment
  | [] => []
  | (name, value) :: more =>
    let others := (ofProcess more).filter fun (other, _) => other != name
    match Utf8.text? value with
    | some text => (name, text) :: others
    | none => others

/-- The value of a variable. -/
def value? (env : Environment) (name : String) : Option String := env.lookup name

/-- Whether a variable can hold a value. -/
def canHold (value : String) : Bool := !value.toList.contains '\x00'

end Environment

/-- A value that is more than its variable can hold. -/
structure Unheld where
  name : String
  value : String
  /-- The environment in which the variable was to be set. -/
  env : Environment
deriving DecidableEq, Repr

/-- What is wrong, in words. -/
def Unheld.message (unheld : Unheld) : String :=
  "failed to set environment variable `" ++ Text.quotedForSystem unheld.name ++ "` to `" ++
    Text.quotedForSystem unheld.value ++ "`: file name contained an unexpected NUL byte"

/-- Sets a variable that is not set yet, or fails if it cannot hold the value. -/
def Environment.setNew (env : Environment) (name value : String) : Except Unheld Environment :=
  if (env.value? name).isSome then .ok env
  else if canHold value then .ok (env ++ [(name, value)])
  else .error { name, value, env }

/-! ## Values -/

/-- How the characters of a value are quoted. -/
inductive Quoting where
  | none
  /-- Between apostrophes: nothing has a meaning of its own. -/
  | strong
  /-- Between quotation marks: backslashes and dollar signs keep theirs. -/
  | weak
deriving DecidableEq, Repr

/-- A value that is being read. -/
structure ValueDraft where
  /-- The characters so far, the last one first. -/
  chars : List Char := []
  quoting : Quoting := .none
  /-- Whether a backslash stands before the next character. -/
  escaped : Bool := false
  /-- Whether the value has ended and only a comment may follow. -/
  ended : Bool := false
  /-- The name after a dollar sign, last character first, and whether it is in
  braces. -/
  name : Option (Bool × List Char) := Option.none
deriving DecidableEq, Repr

namespace ValueDraft

/-- The draft with one more character. -/
def push (draft : ValueDraft) (c : Char) : ValueDraft := { draft with chars := c :: draft.chars }

/-- Puts the value of the variable that was named into the draft. -/
def substitute (env : Environment) (draft : ValueDraft) : ValueDraft :=
  match draft.name with
  | none => draft
  | some (_, name) =>
    let value := (env.value? (String.ofList name.reverse)).getD ""
    { draft with chars := value.toList.reverse ++ draft.chars, name := none }

/-- A character after a backslash. -/
def escape? (draft : ValueDraft) (c : Char) : Option ValueDraft :=
  let draft := { draft with escaped := false }
  if c == 'n' then some (draft.push '\n')
  else if ['\\', '\x27', '"', '$', ' '].contains c then some (draft.push c)
  else none

/-- A character after a dollar sign: it goes on with the name, or ends it.  The
character that ends a name without braces is taken as it is. -/
def nameStep (env : Environment) (draft : ValueDraft) (braced : Bool) (name : List Char)
    (c : Char) : ValueDraft :=
  if Text.isAlphanumeric c then { draft with name := some (braced, c :: name) }
  else if braced then
    if c == '\x7d' then draft.substitute env
    else { draft with name := some (true, c :: name) }
  else if c == '\x7b' && name.isEmpty then { draft with name := some (true, []) }
  else if c == '$' then { draft.substitute env with name := some (false, []) }
  else (draft.substitute env).push c

/-- One character of a value, outside escapes and names. -/
def plainStep (draft : ValueDraft) (c : Char) : ValueDraft :=
  match draft.quoting with
  | .strong => if c == '\x27' then { draft with quoting := .none } else draft.push c
  | .weak =>
    if c == '$' then { draft with name := some (false, []) }
    else if c == '"' then { draft with quoting := .none }
    else if c == '\\' then { draft with escaped := true }
    else draft.push c
  | .none =>
    if c == '$' then { draft with name := some (false, []) }
    else if c == '\x27' then { draft with quoting := .strong }
    else if c == '"' then { draft with quoting := .weak }
    else if c == '\\' then { draft with escaped := true }
    else if c == ' ' || c == '\t' then { draft with ended := true }
    else draft.push c

/-- Reads the characters of a value; after its end only blanks and a comment may
follow. -/
def read (env : Environment) (draft : ValueDraft) : List Char → Option ValueDraft
  | [] => some draft
  | c :: cs =>
    if draft.ended then
      if c == ' ' || c == '\t' then read env draft cs
      else if c == '#' then some draft
      else none
    else if draft.escaped then
      match draft.escape? c with
      | none => none
      | some draft => read env draft cs
    else
      match draft.name with
      | some (braced, name) => read env (draft.nameStep env braced name c) cs
      | none => read env (draft.plainStep c) cs

/-- The value of a draft, if it is complete. -/
def value? (env : Environment) (draft : ValueDraft) : Option String :=
  if draft.quoting != .none || (draft.name.map (·.1)) == some true then none
  else some (String.ofList (draft.substitute env).chars.reverse)

end ValueDraft

/-! ## Lines -/

/-- What a line says. -/
inductive Line where
  /-- Nothing. -/
  | blank
  | assignment (name value : String)
  /-- The line cannot be read. -/
  | broken
deriving DecidableEq, Repr

namespace Line

/-- Reads the name at the front of a line. -/
def cutName? (cs : List Char) : Option (String × List Char) :=
  match cs with
  | [] => none
  | c :: _ =>
    if c.isAlpha || c == '_' then
      let (name, rest) := cs.span fun c => c.isAlphanum || c == '_' || c == '.'
      some (String.ofList name, rest.dropWhile Text.isBlank)
    else none

/-- Whether nothing but a comment is left. -/
def isDone (cs : List Char) : Bool :=
  match cs with
  | [] => true
  | c :: _ => c == '#'

/-- Reads what follows the equals sign of an assignment. -/
def readValue (env : Environment) (name : String) (cs : List Char) : Line :=
  let cs := cs.dropWhile Text.isBlank
  if isDone cs then .assignment name ""
  else
    match (ValueDraft.read env {} cs).bind (·.value? env) with
    | none => .broken
    | some value => .assignment name value

/-- Reads a line; an assignment may follow the word `export`. -/
def parse (env : Environment) (line : String) : Line :=
  let cs := Text.trimBoth Text.isBlank line.toList
  if isDone cs then .blank
  else
    match cutName? cs with
    | none => .broken
    | some (name, '=' :: rest) => readValue env name rest
    | some (name, rest) =>
      if name == "export" then
        match cutName? rest with
        | some (name, '=' :: rest) => readValue env name rest
        | _ => .broken
      else .broken

end Line

/-! ## Files -/

/-- The lines of a file: line feeds end them, and a carriage return before one
belongs to it. -/
def fileLines (bytes : List UInt8) : List (List UInt8) := bytes.splitOn 0x0A

/-- Sets the variables that lines assign and that are not set yet, up to the
first line that cannot be read; fails where a value cannot be held. -/
def loadLines (env : Environment) : List (List UInt8) → Except Unheld Environment
  | [] => .ok env
  | bytes :: lines =>
    match Utf8.text? bytes with
    | none => .ok env
    | some line =>
      match Line.parse env line with
      | .blank => loadLines env lines
      | .assignment name value =>
        match env.setNew name value with
        | .error unheld => .error unheld
        | .ok env => loadLines env lines
      | .broken => .ok env

/-- The environment with the variables of a file, unless setting them fails. -/
def Environment.withFile (env : Environment) (file : Option (List UInt8)) :
    Except Unheld Environment :=
  match file with
  | none => .ok env
  | some bytes => loadLines env (fileLines bytes)

end ChatGateway.Startup
