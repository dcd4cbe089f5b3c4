import ChatGateway.Proofs.Json.Reads

/-!
# Values that open no bracket

A value that is no list and no object is read the same way at any depth.  So is a number,
from any text that spells it; that need not be the text the writer has for it.

`members` reads an object without putting its members in order, so that it tells what
stands in the text of an object, and how often.
-/

namespace ChatGateway.Json

open Reader

/-! ## Scalars -/

theorem value_eq_scalar {text rest : List UInt8} {b : UInt8} (hfirst : skipBlanks text = b :: rest)
    (hlist : b ≠ openBracket) (hobject : b ≠ openBrace) (depth : Nat) :
    value depth text = scalar b rest := by
  cases depth with
  | zero => simp [value, hfirst, hlist, hobject]
  | succ depth => simp [value, hfirst, hlist, hobject]

theorem scalar_number {b : UInt8} (hb : b = minus ∨ Ascii.isDigit b) :
    scalar b = Reader.map .number (number b) := by
  rw [scalar, if_neg (ne_of_begins hb (by decide) (by decide)),
    if_neg (ne_of_begins hb (by decide) (by decide)),
    if_neg (ne_of_begins hb (by decide) (by decide)), if_pos (by simpa using hb)]

theorem reads_value_number {text : List UInt8} {n : Number} (h : SpellsNumber text n)
    (depth : Nat) : Reads (value depth) text (.number n) := by
  intro rest hrest
  obtain ⟨b, more, hfirst, hb, hread⟩ := h
  rw [value_eq_scalar (skipBlanks_append hfirst rest) (ne_of_begins hb (by decide) (by decide))
    (ne_of_begins hb (by decide) (by decide)), scalar_number hb, Reader.map, hread rest hrest]

/-! ## Members as they stand -/

/-- Reads an object into its members, in the order of the text and each as often as it
is there. -/
def members : Reader (List (String × Value)) := byFirst fun b =>
  if b = openBrace then objectOf (value (maxDepth - 1)) else mistyped "an object" b

theorem reads_members {ms : List (List UInt8 × String × Value)}
    (hms : ∀ m ∈ ms, Reads (value (maxDepth - 1)) m.1 m.2.2) :
    Reads members (objectText (ms.map fun m => memberText m.2.1 m.1)) (ms.map Prod.snd) := by
  intro rest _
  rw [objectText, List.cons_append, List.append_assoc, List.singleton_append, members, byFirst,
    skipBlanks_cons (by decide)]
  simp [reads_objectOf hms]

end ChatGateway.Json
