import ChatGateway.Json.Reader
import ChatGateway.Text.Ascii
import ChatGateway.Text.Utf8

/-!
# Reading texts

A text in quotation marks is read one character at a time: a raw character, or
an escape.  An escape of a UTF-16 surrogate stands for a character only as the
first half of a pair.  Bytes that are no UTF-8 are refused when the closing mark
is reached.  Their place is counted back from that mark by what the text holds from
the first of them on, where an escape counts with the bytes of its character.

Where the value of a text does not matter it is only skipped: then escapes need
the right form but no meaning, and any bytes from the space on are let through.
-/

namespace ChatGateway.Json.Reader

open Ascii (hexDigit?)

/-! ## Escapes -/

/-- The character of an escape with a single letter. -/
def shortEscape? (b : UInt8) : Option Char :=
  if b = 0x22 then some '"'
  else if b = 0x5C then some '\\'
  else if b = 0x2F then some '/'
  else if b = 0x62 then some '\x08'
  else if b = 0x66 then some '\x0c'
  else if b = 0x6E then some '\n'
  else if b = 0x72 then some '\r'
  else if b = 0x74 then some '\t'
  else none

/-- The letter that opens an escape in hexadecimal. -/
def hexMark : UInt8 := 0x75

/-- The value of four hexadecimal digits. -/
def hexUnit? (a b c d : UInt8) : Option Nat := do
  return (((← hexDigit? a) * 16 + (← hexDigit? b)) * 16 + (← hexDigit? c)) * 16 + (← hexDigit? d)

/-- Reads four hexadecimal digits.  A text with fewer than four bytes left is
taken as ended. -/
def hexUnit : Reader Nat
  | a :: b :: c :: d :: rest =>
    match hexUnit? a b c d with
    | some unit => .ok (unit, rest)
    | none => refuse .invalidEscape rest
  | _ => refuse .endInText []

/-- Whether a UTF-16 unit is the first half of a pair. -/
def isLeading (unit : Nat) : Bool := 0xD800 ≤ unit && unit < 0xDC00

/-- Whether a UTF-16 unit is the second half of a pair. -/
def isTrailing (unit : Nat) : Bool := 0xDC00 ≤ unit && unit < 0xE000

/-- The character of a surrogate pair. -/
def pairedChar (leading trailing : Nat) : Char :=
  Char.ofNat ((leading - 0xD800) * 0x400 + (trailing - 0xDC00) + 0x10000)

/-- Reads the second half of a pair, from its backslash on. -/
def trailingUnit (leading : Nat) : Reader Char
  | [] => refuse .endInText []
  | b :: text =>
    if b = backslash then
      match text with
      | [] => refuse .endInText []
      | b :: text =>
        if b = hexMark then
          match hexUnit text with
          | .error fault => .error fault
          | .ok (unit, rest) =>
            if isTrailing unit then .ok (pairedChar leading unit, rest)
            else refuse .loneSurrogate rest
        else refuse .unpairedSurrogate text
    else refuse .unpairedSurrogate text

/-- Reads an escape in hexadecimal, after its letter. -/
def hexEscape : Reader Char := fun text =>
  match hexUnit text with
  | .error fault => .error fault
  | .ok (unit, rest) =>
    if isTrailing unit then refuse .loneSurrogate rest
    else if isLeading unit then trailingUnit unit rest
    else .ok (Char.ofNat unit, rest)

/-- Reads an escape, after its backslash. -/
def escape : Reader Char
  | [] => refuse .endInText []
  | b :: text =>
    match shortEscape? b with
    | some c => .ok (c, text)
    | none => if b = hexMark then hexEscape text else refuse .invalidEscape text

/-! ## Texts that are read -/

/-- The first byte of a text that is no UTF-8. -/
structure Flaw where
  /-- The input from that byte on. -/
  onward : List UInt8
  /-- How many bytes of content have been read since then, that byte included. -/
  size : Nat := 0

/-- The input from the place of the flaw on, of a text with `rest` after its closing
mark. -/
def Flaw.unread (flaw : Flaw) (rest : List UInt8) : List UInt8 :=
  flaw.onward.drop (flaw.onward.length - (rest.length + flaw.size))

/-- A text that is being read. -/
structure TextDraft where
  /-- The characters so far, the last one first. -/
  chars : List Char := []
  /-- The first byte that is no UTF-8, if there was one. -/
  flaw : Option Flaw := none

/-- Adds a character to the text. -/
def TextDraft.push (draft : TextDraft) (c : Char) : TextDraft where
  chars := c :: draft.chars
  flaw := draft.flaw.map fun flaw => { flaw with size := flaw.size + c.utf8Size }

/-- Passes over a byte that is no UTF-8, the first one of the input `onward`. -/
def TextDraft.skip (draft : TextDraft) (onward : List UInt8) : TextDraft :=
  let flaw := draft.flaw.getD { onward }
  { draft with flaw := some { flaw with size := flaw.size + 1 } }

/-- Reads one character of a text, or its closing mark. -/
def textStep (draft : TextDraft) : Reader (Turn TextDraft String)
  | [] => refuse .endInText []
  | b :: rest =>
    if b = quote then
      match draft.flaw with
      | none => .ok (.done (String.ofList draft.chars.reverse), rest)
      | some flaw => refuse .invalidCharacter (flaw.unread rest)
    else if b = backslash then
      match escape rest with
      | .error fault => .error fault
      | .ok (c, rest) => .ok (.again (draft.push c), rest)
    else if isControl b then refuse .controlCharacter rest
    else
      match Utf8.decodeChar? (b :: rest) with
      | some (c, rest) => .ok (.again (draft.push c), rest)
      | none => .ok (.again (draft.skip (b :: rest)), rest)

/-- Reads a text, after its opening mark. -/
def text : Reader String := repeatedly textStep {}

/-! ## Texts that are skipped -/

/-- Skips an escape, after its backslash. -/
def skipEscape : Reader Unit
  | [] => refuse .endInText []
  | b :: text =>
    if (shortEscape? b).isSome then .ok ((), text)
    else if b = hexMark then
      match hexUnit text with
      | .error fault => .error fault
      | .ok (_, rest) => .ok ((), rest)
    else refuse .invalidEscape text

/-- Skips one byte or escape of a text, or its closing mark.  A control is noticed
before it is taken, so its place is the one before it. -/
def skipTextStep (_ : Unit) : Reader (Turn Unit Unit)
  | [] => refuse .endInText []
  | b :: rest =>
    if b = quote then .ok (.done (), rest)
    else if b = backslash then
      match skipEscape rest with
      | .error fault => .error fault
      | .ok (_, rest) => .ok (.again (), rest)
    else if isControl b then refuse .controlCharacter (b :: rest)
    else .ok (.again (), rest)

/-- Skips a text, after its opening mark. -/
def skipText : Reader Unit := repeatedly skipTextStep ()

end ChatGateway.Json.Reader
