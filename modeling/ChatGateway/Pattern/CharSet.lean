import ChatGateway.Text.Alphanumeric
import ChatGateway.Text.Blank
import ChatGateway.Text.Caseless
import ChatGateway.Text.Category

/-!
# Sets of characters

What one place of a pattern stands for: a set of characters, built from ranges and
from classes of Unicode.  `CharSet.holds` says which characters are in it.
-/

namespace ChatGateway

namespace Pattern

/-- A set of characters. -/
inductive CharSet where
  | empty
  /-- The characters from the first to the last. -/
  | range (first last : Char)
  | category (category : Text.Category)
  | alphabetic
  | blank
  | union (a b : CharSet)
  | inter (a b : CharSet)
  | compl (a : CharSet)
  /-- The characters that differ at most by case from one in the set. -/
  | anyCase (a : CharSet)
deriving DecidableEq, Repr

namespace CharSet

/-- Whether a character is in a set. -/
def holds : CharSet → Char → Bool
  | empty, _ => false
  | range first last, c => first.toNat ≤ c.toNat && c.toNat ≤ last.toNat
  | category k, c => Text.Category.ofChar c == k
  | alphabetic, c =>
    Text.isAlphanumeric c &&
      !([.decimalNumber, .otherNumber].contains (Text.Category.ofChar c))
  | blank, c => Text.isBlank c
  | union a b, c => a.holds c || b.holds c
  | inter a b, c => a.holds c && b.holds c
  | compl a, c => !(a.holds c)
  | anyCase a, c => (Text.caseVariants c).any a.holds

/-- The set of one character. -/
def single (c : Char) : CharSet := range c c

/-- The characters that are in one of several sets. -/
def unionOf (sets : List CharSet) : CharSet := sets.foldr union empty

/-- The characters between the ends of several ranges. -/
def ranges (ends : List (Char × Char)) : CharSet :=
  unionOf (ends.map fun (first, last) => range first last)

/-- The characters of several categories. -/
def categories (ks : List Text.Category) : CharSet := unionOf (ks.map category)

/-- The characters of one set that are not in another. -/
def diff (a b : CharSet) : CharSet := inter a (compl b)

/-- The characters in exactly one of two sets. -/
def symmDiff (a b : CharSet) : CharSet := union (diff a b) (diff b a)

/-- A set or its complement. -/
def complIf (negated : Bool) (a : CharSet) : CharSet := if negated then compl a else a

/-! ## Sets with a name -/

/-- All characters. -/
def any : CharSet := compl empty

/-- The characters of ASCII. -/
def ascii : CharSet := range '\x00' '\x7f'

/-- Decimal digits. -/
def digit : CharSet := category .decimalNumber

/-- The characters that words are made of: letters, marks, digits, the underscore and
its kin, and the two invisible joiners. -/
def word : CharSet :=
  unionOf [alphabetic, categories [.nonspacingMark, .spacingMark, .enclosingMark],
    digit, category .connectorPunctuation, range '\u200c' '\u200d']

/-- Decimal digits of ASCII. -/
def asciiDigit : CharSet := range '0' '9'

/-- White space of ASCII. -/
def asciiBlank : CharSet := ranges [('\t', '\r'), (' ', ' ')]

/-- The ASCII characters that words are made of. -/
def asciiWord : CharSet := ranges [('0', '9'), ('A', 'Z'), ('_', '_'), ('a', 'z')]

/-! ## Size -/

/-- Roughly how many ranges of bytes it takes to spell the characters of a set in
UTF-8. -/
def size : CharSet → Nat
  | empty => 1
  | range _ last => if last.toNat < 0x80 then 1 else 4
  | category .decimalNumber => 50
  | category _ => 200
  | alphabetic => 600
  | blank => 12
  | union a b => max a.size b.size
  | inter a b => max a.size b.size
  | compl a => max a.size 12
  | anyCase a => a.size

end CharSet

end Pattern

end ChatGateway
