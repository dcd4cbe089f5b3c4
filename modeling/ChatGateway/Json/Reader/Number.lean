import ChatGateway.Json.Reader
import ChatGateway.Decimal.Scaling
import ChatGateway.Text.Ascii

/-!
# Reading numbers

A number is first taken apart into its digits and then given its value.

An integer that fits 64 bits, signed or unsigned, stays an integer.  Every other
number is a float: its digits are gathered into a 64-bit significand for as long
as they fit, the digits left over before the point count towards the power of
ten, those after it are dropped, and the significand is scaled by that power.
-/

namespace ChatGateway.Json.Reader

open Ascii (digit? isDigit)

/-- The digits of a number, taken apart. -/
structure Literal where
  negative : Bool
  /-- The digits before the point. -/
  whole : List Nat
  /-- The digits after the point. -/
  fraction : List Nat := []
  /-- The exponent: whether it is negative, and its digits as they stand in the
  text. -/
  exponent : Option (Bool × List UInt8) := none

/-! ## Digits -/

/-- The values of the digits in `digits`. -/
def digitValues (digits : List UInt8) : List Nat := digits.filterMap digit?

/-- Takes the digits at the front of a text. -/
def digits (text : List UInt8) : List UInt8 × List UInt8 := text.span isDigit

/-- Reads the digits of an exponent, after its letter. -/
def exponentDigits (atEnd : Cause) : Reader (Bool × List UInt8) := fun text =>
  let (negative, text) : Bool × List UInt8 := match text with
    | 0x2B :: rest => (false, rest)
    | 0x2D :: rest => (true, rest)
    | _ => (false, text)
  match text with
  | [] => refuse atEnd []
  | b :: rest =>
    if isDigit b then
      let (more, rest) := digits rest
      .ok ((negative, b :: more), rest)
    else refuse .invalidNumber rest

/-- Whether a byte opens an exponent. -/
def isExponentMark (b : UInt8) : Bool := b == 0x65 || b == 0x45

/-- Reads an exponent, if one follows. -/
def exponent? (atEnd : Cause) : Reader (Option (Bool × List UInt8))
  | [] => .ok (none, [])
  | b :: rest =>
    if isExponentMark b then
      match exponentDigits atEnd rest with
      | .error fault => .error fault
      | .ok (exponent, rest) => .ok (some exponent, rest)
    else .ok (none, b :: rest)

/-- Reads a point and the digits after it, if a point follows. -/
def fraction (atEnd : Cause) : Reader (List Nat)
  | [] => .ok ([], [])
  | b :: text =>
    if b = point then
      match digits text with
      | ([], []) => refuse atEnd []
      | ([], unread) => refuseNext .invalidNumber unread
      | (places, rest) => .ok (digitValues places, rest)
    else .ok ([], b :: text)

/-- Reads the digits before the point: a single zero, or digits that do not
begin with one. -/
def whole (atEnd : Cause) : Reader (List Nat)
  | [] => refuse atEnd []
  | b :: text =>
    if b = 0x30 then
      match text with
      | [] => .ok ([0], [])
      | next :: rest => if isDigit next then refuse .invalidNumber rest else .ok ([0], next :: rest)
    else if isDigit b then
      let (more, rest) := digits text
      .ok (digitValues (b :: more), rest)
    else refuse .invalidNumber text

/-- Takes a number without its minus sign apart.  The cause given is used where
the text ends inside the number. -/
def literal (atEnd : Cause) (negative : Bool) : Reader Literal := fun text =>
  match whole atEnd text with
  | .error fault => .error fault
  | .ok (whole, text) =>
    match fraction atEnd text with
    | .error fault => .error fault
    | .ok (fraction, text) =>
      match exponent? atEnd text with
      | .error fault => .error fault
      | .ok (exponent, text) => .ok (⟨negative, whole, fraction, exponent⟩, text)

/-! ## Values -/

/-- Appends digits to a significand for as long as it fits 64 bits, and leaves
the digits that did not fit. -/
def gather (significand : UInt64) : List Nat → UInt64 × List Nat
  | [] => (significand, [])
  | d :: ds =>
    if significand.toNat * 10 + d < UInt64.size then
      gather (significand * 10 + d.toUInt64) ds
    else (significand, d :: ds)

/-- The greatest absolute value of a written exponent. -/
def maxExponent : Nat := 2147483647

/-- The value of an exponent's digits, or the digits after the one at which it
grows past the greatest exponent. -/
def exponentValue (value : Nat) : List UInt8 → Except (List UInt8) Nat
  | [] => .ok value
  | b :: bs =>
    let value := value * 10 + (digit? b).getD 0
    if value ≤ maxExponent then exponentValue value bs else .error bs

/-- The float `significand · 10^power` with the given sign. -/
def floatOf (negative : Bool) (significand : UInt64) (power : Int) (unread : List UInt8) :
    Except Fault Number :=
  match Decimal.scale? significand power with
  | some x => .ok (.float (if negative then -x else x))
  | none => refuse .numberOutOfRange unread

/-- The value of a number without a point and an exponent whose digits fit
64 bits. -/
def wholeValue (negative : Bool) (magnitude : UInt64) : Number :=
  if negative then
    if magnitude = 0 then .float (-0.0)
    else match Whole.ofInt? (-magnitude.toNat) with
      | some n => .whole n
      | none => .float (-magnitude.toFloat)
  else .whole ⟨magnitude.toNat, by omega, by have := magnitude.toNat_lt; omega⟩

/-- Whether a number is written without a point and an exponent. -/
def Literal.isWhole (number : Literal) : Bool :=
  number.fraction.isEmpty && number.exponent.isNone

/-- The value of a number; `unread` is the text after it. -/
def Literal.value (number : Literal) (unread : List UInt8) : Except Fault Number :=
  let (significand, left) := gather 0 number.whole
  if number.isWhole && left.isEmpty then .ok (wholeValue number.negative significand)
  else
    let (significand, dropped) := gather significand number.fraction
    let power : Int := left.length - (number.fraction.length - dropped.length : Nat)
    match number.exponent with
    | none => floatOf number.negative significand power unread
    | some (negativeExponent, exponentDigits) =>
      match exponentValue 0 exponentDigits with
      | .ok e =>
        floatOf number.negative significand
          (if negativeExponent then power - e else power + e) unread
      | .error moreDigits =>
        if significand = 0 || negativeExponent then
          .ok (.float (if number.negative then -0.0 else 0.0))
        else refuse .numberOutOfRange (moreDigits ++ unread)

/-- Reads a number without its minus sign. -/
def magnitude (negative : Bool) : Reader Number := fun text =>
  match literal .endInValue negative text with
  | .error fault => .error fault
  | .ok (number, rest) =>
    match number.value rest with
    | .error fault => .error fault
    | .ok n => .ok (n, rest)

/-- Reads a number whose first byte is `first`. -/
def number (first : UInt8) : Reader Number := fun text =>
  if first = minus then magnitude true text else magnitude false (first :: text)

/-- Skips a number whose first byte is `first`: its form matters, its range does
not. -/
def skipNumber (first : UInt8) : Reader Unit := fun text =>
  match literal .invalidNumber (first = minus) (if first = minus then text else first :: text) with
  | .error fault => .error fault
  | .ok (_, rest) => .ok ((), rest)

end ChatGateway.Json.Reader
