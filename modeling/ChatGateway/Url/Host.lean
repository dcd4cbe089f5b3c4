import ChatGateway.Url.Percent

/-!
# Hosts

The host of a URL is a name, an IPv4 address or an IPv6 address.  In the schemes
that name Internet services a host whose last label is a number is an IPv4
address, in any of the old spellings, and a name is compared without regard to
case; in other schemes a host is an opaque text.

A name in plain ASCII is read here.  One with other characters, or with a label
that is coded already, has to be written in ASCII first.  That takes tables of all
scripts, which are given from outside (`Idna`): whatever they say, the rest of the
library goes by it.
-/

namespace ChatGateway.Url

/-- Why a text is no URL. -/
inductive ParseError where
  | emptyHost
  | internationalName
  | portNumber
  | ipv4
  | ipv6
  | hostCharacter
  | noBase
  | opaqueBase
deriving DecidableEq, Repr

/-- The error in words. -/
def ParseError.message : ParseError → String
  | .emptyHost => "empty host"
  | .internationalName => "invalid international domain name"
  | .portNumber => "invalid port number"
  | .ipv4 => "invalid IPv4 address"
  | .ipv6 => "invalid IPv6 address"
  | .hostCharacter => "invalid domain character"
  | .noBase => "relative URL without a base"
  | .opaqueBase => "relative URL with a cannot-be-a-base base"

/-- A host. -/
inductive Host where
  /-- A name, or the opaque host of other schemes; it may be empty. -/
  | name (s : String)
  | ipv4 (address : Nat)
  /-- The eight pieces of an address. -/
  | ipv6 (pieces : List Nat)
deriving DecidableEq, Repr

/-! ## IPv4 -/

/-- The value of digits in a base, if all characters are digits of it. -/
def digitsValue? (base : Nat) (cs : List Char) : Option Nat :=
  cs.foldl (fun value c => do
    let v ← value
    let d ← Ascii.hexDigit? (if c.toNat < 0x80 then Ascii.byte c else 0)
    if d < base then some (v * base + d) else none) (some 0)

/-- The value of a part of an IPv4 address: hexadecimal after `0x`, octal after
`0`, else decimal. -/
def ipv4Number? : List Char → Option Nat
  | [] => none
  | '0' :: 'x' :: cs => digitsValue? 16 cs
  | '0' :: 'X' :: cs => digitsValue? 16 cs
  | '0' :: c :: cs => digitsValue? 8 (c :: cs)
  | cs => digitsValue? 10 cs

/-- The parts of a text between dots. -/
def labels (cs : List Char) : List (List Char) := cs.splitOn '.'

/-- The labels without an empty one at the end. -/
def properLabels (cs : List Char) : List (List Char) :=
  let parts := labels cs
  if parts.getLast? = some [] then parts.dropLast else parts

/-- Whether a host has to be an IPv4 address: its last label is a number. -/
def endsInNumber (cs : List Char) : Bool :=
  match (properLabels cs).getLast? with
  | none => false
  | some label =>
    (!label.isEmpty && label.all Char.isDigit) || (ipv4Number? label).isSome

/-- The address of at most four parts: all but the last are bytes, and the last
fills the bytes that are left. -/
def ipv4Address? (parts : List Nat) : Option Nat :=
  match parts.getLast? with
  | none => none
  | some last =>
    let bytes := parts.dropLast
    let room := Nat.pow 256 (4 - bytes.length)
    if 3 < bytes.length || bytes.any (255 < ·) || room ≤ last then none
    else some (bytes.foldr (fun b (total : Nat × Nat) => (b * total.2 + total.1, total.2 * 256))
      (last, room)).1

/-- The IPv4 address that a host spells. -/
def ipv4? (cs : List Char) : Option Nat :=
  (properLabels cs).mapM ipv4Number? |>.bind ipv4Address?

/-! ## IPv6 -/

/-- A group of one to four hexadecimal digits. -/
def ipv6Group? (cs : List Char) : Option Nat :=
  if cs.isEmpty || 4 < cs.length then none else digitsValue? 16 cs

/-- A decimal byte without leading zeros. -/
def decimalByte? (cs : List Char) : Option Nat := do
  let value ← digitsValue? 10 cs
  if cs.isEmpty || 255 < value || (cs.head? == some '0' && 1 < cs.length) then none else some value

/-- The two pieces of a dotted IPv4 address at the end of an IPv6 address. -/
def dottedPieces? (cs : List Char) : Option (List Nat) :=
  match (labels cs).mapM decimalByte? with
  | some [a, b, c, d] => some [a * 256 + b, c * 256 + d]
  | _ => none

/-- The pieces of groups between colons; the last one may be a dotted address. -/
def ipv6Pieces? (mayBeDotted : Bool) : List (List Char) → Option (List Nat)
  | [] => some []
  | [group] =>
    match ipv6Group? group with
    | some piece => some [piece]
    | none => if mayBeDotted then dottedPieces? group else none
  | group :: groups => do
    let piece ← ipv6Group? group
    return piece :: (← ipv6Pieces? mayBeDotted groups)

/-- The pieces of one side of an address. -/
def ipv6Side? (mayBeDotted : Bool) (cs : List Char) : Option (List Nat) :=
  if cs.isEmpty then some [] else ipv6Pieces? mayBeDotted (cs.splitOn ':')

/-- Cuts at the first double colon. -/
def cutDoubleColon : List Char → Option (List Char × List Char)
  | [] => none
  | ':' :: ':' :: rest => some ([], rest)
  | c :: rest => (cutDoubleColon rest).map fun (left, right) => (c :: left, right)

/-- The IPv6 address that a text spells: eight pieces, or fewer with a double
colon for the missing zeros. -/
def ipv6? (cs : List Char) : Option (List Nat) :=
  match cutDoubleColon cs with
  | none => do
    let pieces ← ipv6Side? true cs
    if pieces.length = 8 then some pieces else none
  | some (left, right) => do
    let before ← ipv6Side? false left
    let after ← ipv6Side? true right
    let count := before.length + after.length
    if count ≤ 7 then some (before ++ List.replicate (8 - count) 0 ++ after) else none

/-! ## Names -/

/-- Characters that no name may hold. -/
def forbiddenInName (b : UInt8) : Bool :=
  b ≤ 0x20 || b == 0x7F || ['%', '#', '/', ':', '<', '>', '?', '@', '[', '\\', ']', '^', '|'].any
    fun c => Ascii.byte c == b

/-- Characters that no opaque host may hold. -/
def forbiddenInOpaque (c : Char) : Bool :=
  ['\x00', '\t', '\n', '\r', ' ', '#', '/', ':', '<', '>', '?', '@', '[', '\\', ']', '^',
    '|'].contains c

/-- How host names are written in ASCII that are not plain.  `toAscii?` takes the bytes of a
whole name, which may be no UTF-8, and has no answer for what is no name. -/
structure Idna where
  toAscii? : List UInt8 → Option String

/-- No names are known but the plain ones. -/
def Idna.plain : Idna where
  toAscii? _ := none

/-- A byte of a name as a character, in lower case. -/
def nameChar (b : UInt8) : Char := (Char.ofNat b.toNat).toLower

/-- Whether a label is coded: it stands for one in other characters. -/
def isCoded (label : List UInt8) : Bool :=
  (label.take 4).map nameChar == ['x', 'n', '-', '-']

/-- Whether a name is not plain: it has a byte outside ASCII, or a label that is coded. -/
def isInternational (bytes : List UInt8) : Bool :=
  bytes.any (0x80 ≤ ·) || (bytes.splitOn (Ascii.byte '.')).any isCoded

/-- A name in ASCII, in lower case, unless a character in it is forbidden. -/
def asciiName? (bytes : List UInt8) : Option String :=
  if bytes.any fun b => 0x80 ≤ b || forbiddenInName b then none
  else some (String.ofList (bytes.map nameChar))

/-- The name that a host spells, in ASCII and in lower case. -/
def name? (idna : Idna) (cs : List Char) : Option String :=
  let bytes := percentDecode (Utf8.bytes (String.ofList cs))
  if isInternational bytes then (idna.toAscii? bytes).bind fun s => asciiName? (Utf8.bytes s)
  else asciiName? bytes

namespace Host

/-- Reads an address in brackets. -/
def ofBrackets (cs : List Char) : Except ParseError Host :=
  if cs.getLast? = some ']' then
    match ipv6? (cs.drop 1).dropLast with
    | some pieces => .ok (.ipv6 pieces)
    | none => .error .ipv6
  else .error .ipv6

/-- Reads the host of a special scheme. -/
def parse (idna : Idna) (cs : List Char) : Except ParseError Host :=
  if cs.head? = some '[' then ofBrackets cs
  else
    match name? idna cs with
    | none => .error .internationalName
    | some s =>
      if s.isEmpty then .error .emptyHost
      else if endsInNumber s.toList then
        match ipv4? s.toList with
        | some address => .ok (.ipv4 address)
        | none => .error .ipv4
      else .ok (.name s)

/-- Reads the host of another scheme. -/
def parseOpaque (cs : List Char) : Except ParseError Host :=
  if cs.head? = some '[' then ofBrackets cs
  else if cs.any forbiddenInOpaque then .error .hostCharacter
  else .ok (.name (percentEncode encodesControl cs))

/-- Whether a host is the empty name. -/
def isEmpty : Host → Bool
  | .name s => s.isEmpty
  | _ => false

/-- A number in hexadecimal. -/
def hexText (n : Nat) : String := String.ofList (Nat.toDigits 16 n)

/-- The start and length of the first longest run of zeros, counting from
`start`; `best` is the longest run before. -/
def longestZeros (start : Nat) (run best : Nat × Nat) : List Nat → Nat × Nat
  | [] => if best.2 < run.2 then run else best
  | piece :: pieces =>
    let best := if best.2 < run.2 then run else best
    if piece = 0 then
      longestZeros (start + 1) (if run.2 = 0 then (start, 1) else (run.1, run.2 + 1)) best pieces
    else longestZeros (start + 1) (0, 0) best pieces

/-- An IPv6 address with its first longest run of at least two zeros left out. -/
def renderIpv6 (pieces : List Nat) : String :=
  let groups (ps : List Nat) : String := String.intercalate ":" (ps.map hexText)
  let (start, length) := longestZeros 0 (0, 0) (0, 0) pieces
  if length < 2 then groups pieces
  else groups (pieces.take start) ++ "::" ++ groups (pieces.drop (start + length))

/-- The host as it stands in a URL. -/
def render : Host → String
  | .name s => s
  | .ipv4 address =>
    String.intercalate "." ([0x1000000, 0x10000, 0x100, 1].map fun unit =>
      toString (address / unit % 256))
  | .ipv6 pieces => "[" ++ renderIpv6 pieces ++ "]"

end Host

end ChatGateway.Url
