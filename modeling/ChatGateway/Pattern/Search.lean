import ChatGateway.Pattern.Basic

/-!
# Searching a text

A pattern leads from positions of a text to positions: from where a match can begin
to where it can end.  `Pattern.reach` follows it from a whole set of positions at
once, so that the work grows only with the length of the text, and a pattern occurs
in the text if it leads anywhere from somewhere.
-/

namespace ChatGateway

namespace Pattern

/-- A set of positions of a text: for each position in order, whether it is in the
set.  A text has one position more than characters. -/
abbrev Marks := List Bool

namespace Marks

/-- The positions in one of two sets. -/
def either (a b : Marks) : Marks := List.zipWith (· || ·) a b

/-- The positions of a set that have a property, which `holds` lists. -/
def keep (marks : Marks) (holds : List Bool) : Marks := List.zipWith (· && ·) marks holds

/-- The positions after a character of `text` from positions in the set, where the
character has a property. -/
def advance (p : Char → Bool) (text : List Char) (marks : Marks) : Marks :=
  false :: marks.keep (text.map p)

/-- The positions reached from a set by going up to `n` steps; each position that a step
adds stays. -/
def grow (step : Marks → Marks) : (n : Nat) → Marks → Marks
  | 0, marks => marks
  | n + 1, marks =>
    let next := marks.either (step marks)
    if next == marks then marks else grow step n next

end Marks

/-- The positions of a text, the first of which follows `before`. -/
def positionsFrom (before : Option Char) : List Char → List Position
  | [] => [⟨before, none⟩]
  | c :: cs => ⟨before, some c⟩ :: positionsFrom (some c) cs

/-- The positions of a text. -/
def positions (text : List Char) : List Position := positionsFrom none text

/-- Where matches of a pattern end that begin at the marked positions of a text. -/
def reach (text : List Char) : Pattern → Marks → Marks
  | empty, marks => marks
  | char set, marks => marks.advance set.holds text
  | assertion a, marks => marks.keep ((positions text).map a.holds)
  | seq a b, marks => reach text b (reach text a marks)
  | alt a b, marks => (reach text a marks).either (reach text b marks)
  | times a least more, marks =>
    Marks.grow (reach text a) (more.getD text.length) (Nat.repeat (reach text a) least marks)

/-- Whether a pattern occurs in a text. -/
def occursIn (p : Pattern) (text : String) : Bool :=
  (p.reach text.toList (List.replicate (text.toList.length + 1) true)).any id

end Pattern

end ChatGateway
