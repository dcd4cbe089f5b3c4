/-!
# UTF-8

Reading characters off a byte sequence.  `decodeChar?` takes the first
character and leaves the bytes after it; it answers only where the bytes begin
with the shortest encoding of a Unicode scalar value, so surrogates, overlong
forms and values past U+10FFFF are refused.
-/

namespace ChatGateway.Utf8

/-- The six payload bits of a continuation byte, `10xxxxxx`. -/
def continuation? (b : UInt8) : Option Nat :=
  if 0x80 ≤ b ∧ b < 0xC0 then some (b.toNat % 64) else none

/-- Takes `count` continuation bytes and puts their payloads below `value`. -/
def gather (value : Nat) : (count : Nat) → List UInt8 → Option (Nat × List UInt8)
  | 0, bytes => some (value, bytes)
  | _ + 1, [] => none
  | count + 1, b :: bytes =>
    match continuation? b with
    | some payload => gather (value * 64 + payload) count bytes
    | none => none

/-- The character of a scalar value that needs at least `least`. -/
def scalar? (least value : Nat) : Option Char :=
  if h : least ≤ value ∧ value.isValidChar then some (Char.ofNatAux value h.2) else none

/-- How a first byte opens an encoding: its payload, the number of continuation
bytes, and the least value that needs this length. -/
def lead? (b : UInt8) : Option (Nat × Nat × Nat) :=
  if b < 0x80 then some (b.toNat, 0, 0)
  else if b < 0xC0 then none
  else if b < 0xE0 then some (b.toNat % 32, 1, 0x80)
  else if b < 0xF0 then some (b.toNat % 16, 2, 0x800)
  else if b < 0xF8 then some (b.toNat % 8, 3, 0x10000)
  else none

/-- The first character of a byte sequence and the bytes after it. -/
def decodeChar? : List UInt8 → Option (Char × List UInt8)
  | [] => none
  | b :: bytes => do
    let (payload, count, least) ← lead? b
    let (value, rest) ← gather payload count bytes
    let c ← scalar? least value
    return (c, rest)

/-- The bytes of a text. -/
def bytes (s : String) : List UInt8 := s.toUTF8.data.toList

/-- The text that a byte sequence spells, if it spells one. -/
def text? (bytes : List UInt8) : Option String := String.fromUTF8? ⟨bytes.toArray⟩

end ChatGateway.Utf8
