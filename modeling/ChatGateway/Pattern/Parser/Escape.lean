import ChatGateway.Pattern.Flags
import ChatGateway.Pattern.Property
import ChatGateway.Text.Ascii

/-!
# Escapes

What a backslash makes of the characters after it: a character, a class or an
assertion.  Punctuation may always be escaped; a letter only if the escape has a
meaning.
-/

namespace ChatGateway.Pattern

/-- What one place in the text of a pattern stands for. -/
inductive Atom where
  /-- A character.  `byte` is whether it is written as two hexadecimal digits, which
  without Unicode name a byte. -/
  | char (c : Char) (byte : Bool)
  /-- A class. -/
  | set (set : CharSet)
  | assertion (assertion : Assertion)

/-! ## Characters by number -/

/-- The value of a hexadecimal digit. -/
def hexDigit? (c : Char) : Option Nat :=
  if c.toNat < 0x80 then Ascii.hexDigit? (Ascii.byte c) else none

/-- The character with a number. -/
def charOfNumber? (n : Nat) : Option Char := if n.isValidChar then some (Char.ofNat n) else none

/-- Takes `count` hexadecimal digits, after those that make `value`. -/
def takeHexDigits (flags : Flags) : (count value : Nat) → Taker Nat
  | 0, value, cs => some (value, cs)
  | _ + 1, _, [] => none
  | count + 1, value, c :: cs =>
    match hexDigit? c with
    | some d => takeHexDigits flags count (value * 16 + d) (flags.skip cs)
    | none => none

/-- Takes one hexadecimal digit, or the brace that closes them; `value` is that of the
digits so far, if there are any. -/
def takeBracedDigit (flags : Flags) (value : Option Nat) : Taker (Turn (Option Nat) Nat)
  | [] => none
  | c :: cs =>
    if c == '\x7d' then value.map fun n => (.done n, flags.skip cs)
    else (hexDigit? c).map fun d => (.again (some (value.getD 0 * 16 + d)), flags.skip cs)

/-- Takes a character by its number: `count` digits, or any number of them in braces. -/
def takeNumbered (flags : Flags) (count : Nat) : Taker Atom := fun cs =>
  match flags.skip cs with
  | '\x7b' :: cs => do
    let (n, rest) ← repeatedly (takeBracedDigit flags) none (flags.skip cs)
    return (.char (← charOfNumber? n) false, rest)
  | cs => do
    let (n, rest) ← takeHexDigits flags count 0 cs
    return (.char (← charOfNumber? n) (count == 2), rest)

/-! ## Classes -/

/-- Takes one character of a class's name, or the brace that closes it. -/
def takeNameChar (flags : Flags) (name : List Char) : Taker (Turn (List Char) String)
  | [] => none
  | c :: cs =>
    if c == '\x7d' then some (.done (String.ofList name.reverse), cs)
    else some (.again (c :: name), flags.skip cs)

/-- Takes the name of a class of Unicode: one character, or any number of them in
braces. -/
def takeProperty (flags : Flags) (negated : Bool) : Taker Atom := fun cs =>
  match flags.skip cs with
  | [] => none
  | '\x7b' :: cs => do
    let (name, rest) ← repeatedly (takeNameChar flags) [] (flags.skip cs)
    return (← atom (← bracedSet? name), rest)
  | c :: cs => do
    if c == '\\' then none
    return (← atom (← propertySet? (String.singleton c)), flags.skip cs)
where
  atom (set : CharSet) : Option Atom :=
    if flags.unicode then some (.set ((flags.fold set).complIf negated)) else none

/-- The class of a letter; a capital letter stands for its complement. -/
def letterClass? (flags : Flags) (c : Char) : Option (Option CharSet) :=
  let set? : Option CharSet := match c.toLower with
    | 'd' => some flags.digit
    | 's' => some flags.blank
    | 'w' => some flags.word
    | _ => none
  set?.map fun set => flags.class? (set.complIf c.isUpper)

/-! ## Assertions -/

/-- The edge that a word in braces names. -/
def namedEdge? : String → Option WordEdge
  | "start" => some .start
  | "end" => some .stop
  | "start-half" => some .startHalf
  | "end-half" => some .stopHalf
  | _ => none

/-- Whether a character may stand in the name of an edge. -/
def isEdgeChar (c : Char) : Bool := c.isAlpha || c == '-'

/-- Takes one character of an edge's name, or the brace that closes it. -/
def takeEdgeChar (flags : Flags) (name : List Char) : Taker (Turn (List Char) WordEdge)
  | [] => none
  | c :: cs =>
    if c == '\x7d' then
      (namedEdge? (String.ofList name.reverse)).map fun edge => (.done edge, cs)
    else if isEdgeChar c then some (.again (c :: name), flags.skip cs)
    else none

/-- Takes what follows the letter of a word boundary: the name of an edge in braces, or
nothing.  Braces that hold no name are a repetition. -/
def takeEdge (flags : Flags) : Taker WordEdge := fun cs =>
  match cs with
  | '\x7b' :: more =>
    match flags.skip more with
    | [] => none
    | c :: name =>
      if isEdgeChar c then repeatedly (takeEdgeChar flags) [] (c :: name)
      else some (.boundary, cs)
  | _ => some (.boundary, cs)

/-! ## All escapes -/

/-- Whether a character stands for itself after a backslash. -/
def isEscapable (c : Char) : Bool :=
  c.toNat < 0x80 && !(c.isAlphanum || c == '<' || c == '>')

/-- The control that a letter stands for. -/
def control? : Char → Option Char
  | 'a' => some '\x07'
  | 'f' => some '\x0c'
  | 't' => some '\t'
  | 'n' => some '\n'
  | 'r' => some '\r'
  | 'v' => some '\x0b'
  | _ => none

/-- Takes an escape, after its backslash. -/
def takeEscape (flags : Flags) : Taker Atom
  | [] => none
  | c :: cs =>
    match c with
    | 'x' => takeNumbered flags 2 cs
    | 'u' => takeNumbered flags 4 cs
    | 'U' => takeNumbered flags 8 cs
    | 'p' => takeProperty flags false cs
    | 'P' => takeProperty flags true cs
    | 'A' => some (.assertion .textStart, cs)
    | 'z' => some (.assertion .textEnd, cs)
    | 'b' => (takeEdge flags cs).map fun (edge, rest) =>
        (.assertion (.wordEdge edge flags.word), rest)
    | 'B' => some (.assertion (.wordEdge .noBoundary flags.word), cs)
    | '<' => some (.assertion (.wordEdge .start flags.word), cs)
    | '>' => some (.assertion (.wordEdge .stop flags.word), cs)
    | c =>
      match letterClass? flags c with
      | some set? => set?.map fun set => (.set set, cs)
      | none =>
        match control? c with
        | some control => some (.char control false, cs)
        | none => if isEscapable c then some (.char c false, cs) else none

end ChatGateway.Pattern
