import ChatGateway.Text.Ascii
import ChatGateway.Text.Utf8

/-!
# Percent encoding

In a URL a byte can be written as `%` and two hexadecimal digits.  Which
characters have to be written so depends on the part of the URL; characters
outside ASCII always are, byte by byte.
-/

namespace ChatGateway.Url

/-- A byte in percent encoding. -/
def percentByte (b : UInt8) : List Char :=
  let digit (n : Nat) : Char := (Nat.digitChar n).toUpper
  ['%', digit (b.toNat / 16), digit (b.toNat % 16)]

/-- Controls are written as bytes in every part of a URL. -/
def encodesControl (c : Char) : Bool := c.toNat < 0x20 || 0x7F ≤ c.toNat

/-- What is written as bytes in a fragment. -/
def encodesFragment (c : Char) : Bool :=
  encodesControl c || [' ', '"', '<', '>', '\x60'].contains c

/-- What is written as bytes in a path. -/
def encodesPath (c : Char) : Bool :=
  encodesFragment c || ['#', '?', '\x7b', '\x7d'].contains c

/-- What is written as bytes in a user name or a password. -/
def encodesUserInfo (c : Char) : Bool :=
  encodesPath c || ['/', ':', ';', '=', '@', '[', '\\', ']', '^', '|'].contains c

/-- What is written as bytes in a query; in the query of a special scheme also
the apostrophe. -/
def encodesQuery (special : Bool) (c : Char) : Bool :=
  encodesControl c || [' ', '"', '#', '<', '>'].contains c || (special && c == '\x27')

/-- The characters with those that `encodes` selects written as bytes. -/
def percentEncode (encodes : Char → Bool) (cs : List Char) : String :=
  String.ofList (cs.flatMap fun c =>
    if encodes c then (Utf8.bytes (String.singleton c)).flatMap percentByte else [c])

/-- The bytes that a percent-encoded text stands for; a `%` without two digits
stands for itself. -/
def percentDecode : List UInt8 → List UInt8
  | 0x25 :: high :: low :: rest =>
    match Ascii.hexDigit? high, Ascii.hexDigit? low with
    | some h, some l => (h * 16 + l).toUInt8 :: percentDecode rest
    | _, _ => 0x25 :: percentDecode (high :: low :: rest)
  | b :: bytes => b :: percentDecode bytes
  | [] => []

end ChatGateway.Url
