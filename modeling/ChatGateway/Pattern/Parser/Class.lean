import ChatGateway.Pattern.Parser.Escape

/-!
# Classes in brackets

A class in brackets is a union of characters, ranges, named classes and further classes
in brackets.  Between unions there can be operations on sets, which are all worked from
the left.

The brackets that are open form a stack, the innermost first.
-/

namespace ChatGateway.Pattern

/-- An operation between two sets, written as a sign twice. -/
inductive SetOperation where
  | inter
  | diff
  | symmDiff
deriving DecidableEq

namespace SetOperation

/-- The operation of a sign. -/
def ofSign? : Char → Option SetOperation
  | '&' => some inter
  | '-' => some diff
  | '~' => some symmDiff
  | _ => none

/-- What an operation makes of two sets. -/
def apply : SetOperation → CharSet → CharSet → CharSet
  | inter => CharSet.inter
  | diff => CharSet.diff
  | symmDiff => CharSet.symmDiff

end SetOperation

/-- A class whose bracket is open. -/
structure OpenClass where
  negated : Bool
  /-- The set before the last operation, and that operation. -/
  left : Option (CharSet × SetOperation) := none
  /-- What has been read since then. -/
  items : CharSet := .empty

namespace OpenClass

/-- Adds a set. -/
def add (c : OpenClass) (set : CharSet) : OpenClass := { c with items := .union c.items set }

/-- The set that has been read so far. -/
def content (flags : Flags) (c : OpenClass) : CharSet :=
  match c.left with
  | none => c.items
  | some (left, operation) => operation.apply (flags.fold left) (flags.fold c.items)

/-- Goes on after an operation. -/
def operate (flags : Flags) (c : OpenClass) (operation : SetOperation) : OpenClass :=
  { c with left := some (c.content flags, operation), items := .empty }

/-- The class that has been read. -/
def close? (flags : Flags) (c : OpenClass) : Option CharSet :=
  flags.class? ((flags.fold (c.content flags)).complIf c.negated)

end OpenClass

/-! ## The parts of a class -/

/-- Takes the hyphens at the front of a class, which stand for themselves. -/
def takeHyphens (flags : Flags) (c : OpenClass) : Taker (Turn OpenClass OpenClass)
  | '-' :: cs => some (.again (c.add (.single '-')), flags.skip cs)
  | cs => some (.done c, cs)

/-- Takes the front of a class, after its bracket.  There hyphens stand for themselves,
and without them a closing bracket does. -/
def takeOpening (flags : Flags) : Taker OpenClass := fun cs => do
  let (negated, cs) := match flags.skip cs with
    | '^' :: cs => (true, flags.skip cs)
    | cs => (false, cs)
  let (c, cs) ← repeatedly (takeHyphens flags) { negated } cs
  match c.items, cs with
  | .empty, ']' :: cs => return (c.add (.single ']'), flags.skip cs)
  | _, _ => return (c, cs)

/-- Takes the name of a class of ASCII between `[:` and `:]`, after the bracket. -/
def takeAsciiClass? (flags : Flags) (cs : List Char) : Option (CharSet × List Char) :=
  match cs with
  | ':' :: cs =>
    let (negated, cs) := match cs with
      | '^' :: cs => (true, cs)
      | cs => (false, cs)
    match cs.span (· != ':') with
    | (name, ':' :: ']' :: rest) =>
      (asciiSet? (String.ofList name)).map fun set =>
        ((flags.fold set).complIf negated, rest)
    | _ => none
  | _ => none

/-- Takes an escape or a character. -/
def takeClassAtom (flags : Flags) : Taker Atom
  | [] => none
  | '\\' :: cs => takeEscape flags cs
  | c :: cs => some (.char c false, cs)

/-- The character of an atom. -/
def Atom.char? : Atom → Option Char
  | .char c _ => some c
  | _ => none

/-- The set of an atom; an assertion has none. -/
def Atom.set? : Atom → Option CharSet
  | .char c _ => some (.single c)
  | .set s => some s
  | .assertion _ => none

/-- The range between two characters.  Without Unicode both are ASCII. -/
def range? (flags : Flags) (first last : Char) : Option CharSet :=
  if first.toNat ≤ last.toNat && (flags.unicode || last.toNat < 0x80) then some (.range first last)
  else none

/-- Takes an item of a class: a class, a character or a range of characters. -/
def takeItem (flags : Flags) : Taker CharSet := fun cs => do
  let (atom, rest) ← takeClassAtom flags cs
  match flags.skip rest with
  | [] => none
  | '-' :: more =>
    match flags.skip more with
    | [] => none
    | next :: others =>
      if next == ']' || next == '-' then return (← single? atom, '-' :: more)
      let (last, rest) ← takeClassAtom flags (next :: others)
      return (← range? flags (← atom.char?) (← last.char?), rest)
  | rest => return (← single? atom, rest)
where
  single? (atom : Atom) : Option CharSet :=
    match atom with
    | .char c _ => range? flags c c
    | atom => atom.set?

/-! ## Whole classes -/

/-- Takes an item, an operation or a bracket. -/
def takeClassPart (flags : Flags) : List OpenClass → Taker (Turn (List OpenClass) CharSet)
  | [], _ => none
  | c :: outer, cs =>
    match flags.skip cs with
    | [] => none
    | ']' :: cs =>
      match c.close? flags with
      | none => none
      | some set =>
        match outer with
        | [] => some (.done set, cs)
        | o :: outer => some (.again (o.add set :: outer), cs)
    | '[' :: cs =>
      match takeAsciiClass? flags cs with
      | some (set, rest) => (flags.class? set).map fun set => (.again (c.add set :: outer), rest)
      | none => (takeOpening flags cs).map fun (inner, rest) => (.again (inner :: c :: outer), rest)
    | sign :: cs =>
      match SetOperation.ofSign? sign, cs with
      | some operation, next :: rest =>
        if next == sign then some (.again (c.operate flags operation :: outer), rest)
        else item c outer (sign :: cs)
      | _, _ => item c outer (sign :: cs)
where
  item (c : OpenClass) (outer : List OpenClass) : Taker (Turn (List OpenClass) CharSet) :=
    fun cs => (takeItem flags cs).map fun (set, rest) => (.again (c.add set :: outer), rest)

/-- Takes a class, after its bracket. -/
def takeClass (flags : Flags) : Taker CharSet := fun cs => do
  let (c, rest) ← takeOpening flags cs
  repeatedly (takeClassPart flags) [c] rest

end ChatGateway.Pattern
