import ChatGateway.Pattern.Parser.Class

/-!
# Reading patterns

The text of a pattern is read one piece at a time: a character, a class, an assertion,
a repetition of the piece before it, a bar between alternatives, or a bracket of a
group.  A text that is no pattern, or a pattern that would grow too large with its
repetitions written out, is refused.

The groups that are open form a stack, the innermost first.
-/

namespace ChatGateway

namespace Pattern

/-- A piece of a pattern.  What only sets flags cannot be repeated. -/
inductive Piece where
  | pattern (p : Pattern)
  | setting

/-- The pattern of a piece. -/
def Piece.toPattern : Piece → Pattern
  | .pattern p => p
  | .setting => .empty

/-- A group that is open, or the whole text. -/
structure OpenGroup where
  /-- The flags that hold after the group. -/
  outerFlags : Flags := {}
  /-- The alternatives before the last bar, the last one first. -/
  alternatives : List Pattern := []
  /-- The pieces since then, the last one first. -/
  pieces : List Piece := []

namespace OpenGroup

/-- The alternative that is being read. -/
def current (g : OpenGroup) : Pattern := seqOf (g.pieces.reverse.map Piece.toPattern)

/-- The pattern of the group. -/
def pattern (g : OpenGroup) : Pattern := altOf (g.current :: g.alternatives).reverse

/-- Adds a piece. -/
def push (g : OpenGroup) (piece : Piece) : OpenGroup := { g with pieces := piece :: g.pieces }

/-- Goes on with another alternative. -/
def bar (g : OpenGroup) : OpenGroup :=
  { g with alternatives := g.current :: g.alternatives, pieces := [] }

/-- Repeats the last piece. -/
def repeated? (g : OpenGroup) (least : Nat) (more : Option Nat) : Option OpenGroup :=
  match g.pieces with
  | .pattern p :: pieces => some { g with pieces := .pattern (p.times least more) :: pieces }
  | _ => none

end OpenGroup

/-- What has been read of a pattern. -/
structure Draft where
  flags : Flags := {}
  group : OpenGroup := {}
  outer : List OpenGroup := []
  /-- The names of groups so far. -/
  names : List String := []

namespace Draft

/-- Adds a piece. -/
def push (d : Draft) (p : Pattern) : Draft := { d with group := d.group.push (.pattern p) }

/-- Opens a group in which other flags hold. -/
def openGroup (d : Draft) (flags : Flags) : Draft :=
  { d with flags, group := { outerFlags := d.flags }, outer := d.group :: d.outer }

/-- Closes a group. -/
def closeGroup? (d : Draft) : Option Draft :=
  match d.outer with
  | [] => none
  | g :: outer => some { d with
      flags := d.group.outerFlags
      group := g.push (.pattern d.group.pattern)
      outer }

end Draft

/-! ## Groups -/

/-- Takes the letters of flags, after a question mark, up to the colon or the bracket
that ends them.  `seen` are the letters so far, the last one first, and `value` is what
flags are set to.  The answer also says whether a colon ended them. -/
def takeFlags (seen : List Char) (value : Bool) (flags : Flags) : Taker (Flags × Bool)
  | [] => none
  | c :: cs =>
    if c == ':' || c == ')' then
      if seen.head? = some '-' || (c == ')' && seen.isEmpty) then none
      else some ((flags, c == ':'), cs)
    else if seen.contains c then none
    else if c == '-' then takeFlags (c :: seen) false flags cs
    else
      match flags.set? c value with
      | some flags => takeFlags (c :: seen) value flags cs
      | none => none

/-- Whether a character may stand in the name of a group. -/
def isGroupNameChar (first : Bool) (c : Char) : Bool :=
  c == '_' || (if first then CharSet.alphabetic.holds c
    else ['.', '[', ']'].contains c || Text.isAlphanumeric c)

/-- Whether characters are the name of a group. -/
def isGroupName : List Char → Bool
  | [] => false
  | c :: cs => isGroupNameChar true c && cs.all (isGroupNameChar false)

/-- Takes the name of a group, after its opening bracket, and opens the group. -/
def takeGroupName (d : Draft) : Taker Draft := fun cs =>
  match cs.span (· != '>') with
  | (name, _ :: rest) =>
    if isGroupName name && !d.names.contains (String.ofList name) then
      some ({ d.openGroup d.flags with names := String.ofList name :: d.names }, rest)
    else none
  | _ => none

/-- Takes what follows the bracket of a group. -/
def takeGroup (d : Draft) : Taker Draft := fun cs =>
  match d.flags.skip cs with
  | '?' :: 'P' :: '<' :: cs => takeGroupName d cs
  | '?' :: '<' :: cs => takeGroupName d cs
  | '?' :: cs =>
    match takeFlags [] true d.flags cs with
    | some ((flags, true), rest) => some (d.openGroup flags, rest)
    | some ((flags, false), rest) =>
      some ({ d with flags, group := d.group.push .setting }, rest)
    | none => none
  | cs => some (d.openGroup d.flags, cs)

/-! ## Repetitions -/

/-- A text after the question mark that says that fewer times are preferred; whether a
pattern occurs does not hang on it. -/
def skipPreference : List Char → List Char
  | '?' :: cs => cs
  | cs => cs

/-- Takes a decimal digit, or what ends a number; `value` is that of the digits so far, if
there are any. -/
def takeDigit (flags : Flags) (value : Option Nat) : Taker (Turn (Option Nat) (Option Nat))
  | [] => some (.done value, [])
  | c :: cs =>
    if c.isDigit then
      some (.again (some (value.getD 0 * 10 + (c.toNat - '0'.toNat))), flags.skip cs)
    else some (.done value, c :: cs)

/-- Takes a number of times, if there is one, and the blanks around it. -/
def takeCount (flags : Flags) : Taker (Option Nat) := fun cs => do
  let (value, rest) ← repeatedly (takeDigit flags) none (cs.dropWhile Text.isBlank)
  if value.any (UInt32.size ≤ ·) then none
  return (value, flags.skip (rest.dropWhile Text.isBlank))

/-- Takes the numbers of a repetition after its brace: how often at least, and how often
at most, if there is a bound. -/
def takeBounds (flags : Flags) : Taker (Nat × Option Nat) := fun cs => do
  let (least, rest) ← takeCount flags (flags.skip cs)
  match rest with
  | ',' :: cs =>
    match flags.skip cs with
    | '\x7d' :: cs => return ((← least, none), cs)
    | cs =>
      let (most, rest) ← takeCount flags cs
      match rest with
      | '\x7d' :: cs => return ((← least, some (← most)), cs)
      | _ => none
  | '\x7d' :: cs => return ((← least, least), cs)
  | _ => none

/-- Takes the rest of a repetition in braces. -/
def takeRepetition (d : Draft) : Taker Draft := fun cs => do
  let ((least, most), rest) ← takeBounds d.flags cs
  if most.any (· < least) then none
  let group ← d.group.repeated? least (most.map (· - least))
  return ({ d with group }, skipPreference (d.flags.skip rest))

/-! ## Whole patterns -/

/-- The pattern of an atom.  Without Unicode a byte that is no ASCII is no character. -/
def Atom.toPattern? (flags : Flags) : Atom → Option Pattern
  | .char c byte =>
    if byte && !flags.unicode && 0x80 ≤ c.toNat then none
    else some (.char (flags.fold (.single c)))
  | .set s => some (.char s)
  | .assertion a => some (.assertion a)

/-- Takes a repetition of the last piece, given by a sign. -/
def takeSign (d : Draft) (least : Nat) (more : Option Nat) : Taker Draft := fun cs =>
  (d.group.repeated? least more).map fun group => ({ d with group }, skipPreference cs)

/-- Takes one piece, given by its first character. -/
def takePiece (d : Draft) (c : Char) : Taker Draft := fun cs =>
  match c with
  | '(' => takeGroup d cs
  | ')' => d.closeGroup?.map (·, cs)
  | '|' => some ({ d with group := d.group.bar }, cs)
  | '?' => takeSign d 0 (some 1) cs
  | '*' => takeSign d 0 none cs
  | '+' => takeSign d 1 none cs
  | '\x7b' => takeRepetition d cs
  | '[' => (takeClass d.flags cs).map fun (s, rest) => (d.push (.char s), rest)
  | '.' => d.flags.dot?.map fun s => (d.push (.char s), cs)
  | '^' => some (d.push (.assertion d.flags.lineStart), cs)
  | '$' => some (d.push (.assertion d.flags.lineEnd), cs)
  | '\\' => do
    let (atom, rest) ← takeEscape d.flags cs
    return (d.push (← atom.toPattern? d.flags), rest)
  | c => (Atom.toPattern? d.flags (.char c false)).map fun p => (d.push p, cs)

/-- Takes a piece, or ends with the text if no group is open. -/
def takeStep (d : Draft) : Taker (Turn Draft Pattern) := fun cs =>
  match d.flags.skip cs with
  | [] => if d.outer.isEmpty then some (.done d.group.pattern, []) else none
  | c :: cs => (takePiece d c cs).map fun (d, rest) => (.again d, rest)

/-- The largest size that a pattern may have. -/
def maxSize : Nat := 327680

/-- Reads a pattern. -/
def parse? (s : String) : Option Pattern :=
  match repeatedly takeStep {} s.toList with
  | some (p, _) => if p.size ≤ maxSize then some p else none
  | none => none

end Pattern

end ChatGateway
