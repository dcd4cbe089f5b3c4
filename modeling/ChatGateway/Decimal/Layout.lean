import ChatGateway.Decimal.Shortest

/-!
# The written form of a float

A float is written with the fewest digits that read back, as a plain decimal
where its magnitude is moderate and with an exponent elsewhere.  The decisions
that are no matter of arithmetic are one record, `Layout`; `standard` is the
one in use.
-/

namespace ChatGateway.Decimal

/-- How digits are laid out. -/
structure Layout where
  /-- The least power of ten that is written plainly. -/
  plainFrom : Int
  /-- The power of ten from which an exponent is written. -/
  plainBelow : Int
  /-- What a plain whole number ends in. -/
  wholeEnd : String
  /-- What stands before an exponent that is not negative. -/
  exponentMark : String
  /-- What stands before the absolute value of a negative exponent. -/
  negativeExponentMark : String

/-- Plain from `0.00001` up to, and not including, `10^16`; whole numbers end in
`.0`; an exponent always has a sign. -/
def standard : Layout where
  plainFrom := -5
  plainBelow := 16
  wholeEnd := ".0"
  exponentMark := "e+"
  negativeExponentMark := "e-"

/-- `count` zeros. -/
def zeros (count : Nat) : String := String.ofList (List.replicate count '0')

/-- The digits of a positive decimal in the given layout. -/
def Layout.write (layout : Layout) (decimal : Scaled) : String :=
  let digits := Nat.toDigits 10 decimal.digits
  -- the number of digits before the point
  let whole : Int := digits.length + decimal.p
  let power := whole - 1
  if layout.plainFrom ≤ power ∧ power < layout.plainBelow then
    if whole ≤ 0 then
      "0." ++ zeros (-whole).toNat ++ String.ofList digits
    else if decimal.p < 0 then
      String.ofList (digits.take whole.toNat) ++ "." ++ String.ofList (digits.drop whole.toNat)
    else
      String.ofList digits ++ zeros decimal.p.toNat ++ layout.wholeEnd
  else
    let mantissa := match digits with
      | [] => ""
      | [d] => String.singleton d
      | d :: ds => String.singleton d ++ "." ++ String.ofList ds
    mantissa ++ (if power < 0 then layout.negativeExponentMark else layout.exponentMark) ++
      toString power.natAbs

/-- The bits of a negative zero: the greatest bit is the sign. -/
def signBit : Nat := Nat.pow 2 63

/-- The written form of a finite float; zero keeps its sign. -/
def format (x : Float) : String :=
  let bits := x.toBits
  let magnitude := bits.toNat % signBit
  let sign := if bits.toNat < signBit then "" else "-"
  if magnitude = 0 then sign ++ "0" ++ standard.wholeEnd
  else sign ++ standard.write (Binary.ofBits magnitude.toUInt64).shortest

end ChatGateway.Decimal
