/-!
# Base64

Bytes as printable text, three bytes to four characters, with padding.
-/

namespace ChatGateway.Base64

/-- The characters for the values 0 to 63. -/
def alphabet : List Char :=
  "ABCDEFGHIJKLMNOPQRSTUVWXYZabcdefghijklmnopqrstuvwxyz0123456789+/".toList

/-- The character for six bits. -/
def symbol (n : Nat) : Char := alphabet.getD (n % 64) '='

/-- The characters for bytes. -/
def encodeChars : List UInt8 → List Char
  | [] => []
  | [a] =>
    let n := a.toNat * 16
    [symbol (n / 64), symbol n, '=', '=']
  | [a, b] =>
    let n := (a.toNat * 256 + b.toNat) * 4
    [symbol (n / 4096), symbol (n / 64), symbol n, '=']
  | a :: b :: c :: rest =>
    let n := (a.toNat * 256 + b.toNat) * 256 + c.toNat
    symbol (n / 262144) :: symbol (n / 4096) :: symbol (n / 64) :: symbol n :: encodeChars rest

/-- The text for bytes. -/
def encode (bytes : List UInt8) : String := String.ofList (encodeChars bytes)

end ChatGateway.Base64
