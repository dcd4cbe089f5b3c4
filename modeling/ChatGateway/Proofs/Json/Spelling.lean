import ChatGateway.Proofs.Json.Tree
import ChatGateway.Text.Utf8

/-!
# How a tree is spelled

One tree has many texts.  `Spelled text tree` is the grammar of JSON with what it leaves
open: blanks between tokens, the members of an object in any order, and four ways to
write a character (raw, with a short escape, as a UTF-16 unit in hexadecimal, as a pair
of such units).  A number is spelled by its literal only.

The grammar does not mention a reader, so that it can be what readers and writers are
measured by.
-/

namespace ChatGateway.Json

open Reader Ascii

/-! ## Blanks and separators -/

/-- Bytes that may stand between tokens. -/
def IsGap (gap : List UInt8) : Prop := ∀ b ∈ gap, isBlank b = true

theorem isGap_nil : IsGap [] := by simp [IsGap]

/-- A text with blanks around it. -/
structure Padded where
  before : List UInt8 := []
  text : List UInt8
  after : List UInt8 := []
  before_isGap : IsGap before := by exact ChatGateway.Json.isGap_nil
  after_isGap : IsGap after := by exact ChatGateway.Json.isGap_nil

namespace Padded

/-- The text with the blanks around it. -/
def bytes (p : Padded) : List UInt8 := p.before ++ (p.text ++ p.after)

/-- A text without blanks around it. -/
def bare (text : List UInt8) : Padded := { text }

end Padded

/-- What stands before an item or a member: a comma, unless it is the first one. -/
def lead (first : Bool) : List UInt8 := if first then [] else [comma]

/-- Pieces with their blanks, each behind what stands before it. -/
def spread (first : Bool) : List Padded → List UInt8
  | [] => []
  | p :: ps => lead first ++ (p.before ++ (p.text ++ (p.after ++ spread false ps)))

/-- A member of an object: its name, the colon, and its value. -/
def memberPiece (key value : Padded) : Padded where
  before := key.before
  text := quote :: (key.text ++ quote :: (key.after ++ colon :: (value.before ++ value.text)))
  after := value.after
  before_isGap := key.before_isGap
  after_isGap := value.after_isGap

/-! ## Characters -/

/-- The letters of the short escapes, and the characters that they stand for. -/
def shortEscapes : List (Char × Char) := [
  ('"', '"'), ('\\', '\\'), ('/', '/'), ('b', '\x08'), ('f', '\x0c'), ('n', '\n'),
  ('r', '\r'), ('t', '\t')]

/-- A hexadecimal digit of either case. -/
def IsHexDigit (b : UInt8) (value : Nat) : Prop :=
  value < 16 ∧ (b = byte value.digitChar ∨ b = byte value.digitChar.toUpper)

/-- Four hexadecimal digits. -/
inductive IsHexUnit : List UInt8 → Nat → Prop where
  | digits {a b c d : UInt8} {w x y z : Nat} (ha : IsHexDigit a w) (hb : IsHexDigit b x)
      (hc : IsHexDigit c y) (hd : IsHexDigit d z) :
      IsHexUnit [a, b, c, d] (((w * 16 + x) * 16 + y) * 16 + z)

/-- The ways to write a character of a text. -/
inductive SpelledChar : List UInt8 → Char → Prop where
  | raw {c : Char} (hquote : c ≠ '"') (hbackslash : c ≠ '\\') (hcontrol : 0x20 ≤ c.toNat) :
      SpelledChar (String.utf8EncodeChar c) c
  | short {letter c : Char} (h : (letter, c) ∈ shortEscapes) :
      SpelledChar [backslash, byte letter] c
  | unit {digits : List UInt8} {c : Char} (h : IsHexUnit digits c.toNat) :
      SpelledChar (backslash :: hexMark :: digits) c
  | pair {leading trailing : List UInt8} {c : Char} (hpast : 0x10000 ≤ c.toNat)
      (hleading : IsHexUnit leading (0xD800 + (c.toNat - 0x10000) / 0x400))
      (htrailing : IsHexUnit trailing (0xDC00 + (c.toNat - 0x10000) % 0x400)) :
      SpelledChar (backslash :: hexMark :: (leading ++ backslash :: hexMark :: trailing)) c

/-- What stands between the marks of a text. -/
def SpelledText (content : List UInt8) (s : String) : Prop :=
  ∃ pieces : List (List UInt8 × Char), (∀ p ∈ pieces, SpelledChar p.1 p.2) ∧
    content = pieces.flatMap Prod.fst ∧ s.toList = pieces.map Prod.snd

/-! ## Numbers -/

/-- Digits, and at least one. -/
def IsDigits (ds : List UInt8) : Prop := ds ≠ [] ∧ ∀ b ∈ ds, isDigit b = true

/-- The digits before the point do not begin with a zero, unless that is all of them. -/
def IsWholePart (ds : List UInt8) : Prop := IsDigits ds ∧ (ds.head? = some 0x30 → ds = [0x30])

/-- A point and the digits after it, or nothing. -/
def IsFraction (text : List UInt8) : Prop := text = [] ∨ ∃ ds, IsDigits ds ∧ text = point :: ds

/-- A letter, a sign and the digits after them, or nothing; the sign may be missing. -/
def IsExponent (text : List UInt8) : Prop :=
  text = [] ∨ ∃ mark sign ds, isExponentMark mark = true ∧
    (sign = [] ∨ sign = [0x2B] ∨ sign = [0x2D]) ∧ IsDigits ds ∧ text = mark :: (sign ++ ds)

/-- A literal without its minus sign. -/
inductive IsMagnitude : List UInt8 → Prop where
  | parts {whole fraction exponent : List UInt8} (hwhole : IsWholePart whole)
      (hfraction : IsFraction fraction) (hexponent : IsExponent exponent) :
      IsMagnitude (whole ++ (fraction ++ exponent))

/-- The text of a number. -/
inductive IsLiteral : List UInt8 → Prop where
  | positive {text : List UInt8} (h : IsMagnitude text) : IsLiteral text
  | negative {text : List UInt8} (h : IsMagnitude text) : IsLiteral (minus :: text)

/-! ## Trees -/

/-- A member of an object as it is spelled. -/
structure SpelledMember where
  /-- The content of its name, with the blanks around the marks. -/
  key : Padded
  name : String
  value : Padded
  tree : Tree

/-- **The texts of a tree.**  The members of an object may come in any order. -/
inductive Spelled : List UInt8 → Tree → Prop where
  | null : Spelled (Utf8.bytes "null") .null
  | bool (b : Bool) : Spelled (Utf8.bytes (if b then "true" else "false")) (.bool b)
  | number {literal : List UInt8} (h : IsLiteral literal) : Spelled literal (.number literal)
  | text {content : List UInt8} {s : String} (h : SpelledText content s) :
      Spelled (quote :: (content ++ [quote])) (.text s)
  | array {items : List (Padded × Tree)} {inside : List UInt8} (hinside : IsGap inside)
      (hitems : ∀ i ∈ items, Spelled i.1.text i.2) :
      Spelled (openBracket :: (spread true (items.map Prod.fst) ++ (inside ++ [closeBracket])))
        (.array (items.map Prod.snd))
  | object {spelled : List SpelledMember} {members : List (String × Tree)} {inside : List UInt8}
      (hinside : IsGap inside) (hnames : ∀ m ∈ spelled, SpelledText m.key.text m.name)
      (hvalues : ∀ m ∈ spelled, Spelled m.value.text m.tree)
      (hperm : (spelled.map fun m => (m.name, m.tree)).Perm members) :
      Spelled (openBrace :: (spread true (spelled.map fun m => memberPiece m.key m.value) ++
        (inside ++ [closeBrace]))) (.object members)

/-- A body that is the text of a tree, with any blanks around it. -/
def SpelledBody (body : List UInt8) (t : Tree) : Prop :=
  ∃ p : Padded, Spelled p.text t ∧ p.bytes = body

end ChatGateway.Json
