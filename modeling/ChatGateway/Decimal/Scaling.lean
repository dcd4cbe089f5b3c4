/-!
# Doubles from scaled integers

`scale? m e` is the double that stands for `m · 10^e`.  It takes one conversion
and one multiplication or division by a power of ten, each rounded to nearest,
so it can differ from the nearest double in the last place.  Below `10^-308` the
power is divided out in steps.
-/

namespace ChatGateway.Decimal

/-- The greatest exponent of a power of ten that is a double. -/
def maxPower : Nat := 308

/-- The double nearest to `10^k`. -/
def power (k : Nat) : Float := Float.ofScientific 1 false k

/-- Divides by `10^k`, by at most `10^308` at a time. -/
def divideByPower (x : Float) (k : Nat) : Float :=
  if k ≤ maxPower then x / power k
  else if x == 0 then x
  else divideByPower (x / power maxPower) (k - maxPower)
termination_by k
decreasing_by
  have : 0 < maxPower := by decide
  omega

/-- Multiplies by `10^k`, unless the product is out of range. -/
def multiplyByPower? (x : Float) (k : Nat) : Option Float :=
  if k ≤ maxPower then
    let product := x * power k
    if product.isInf then none else some product
  else if x == 0 then some x
  else none

/-- The double that stands for `m · 10^e`, or `none` if it is out of range. -/
def scale? (m : UInt64) (e : Int) : Option Float :=
  match e with
  | .ofNat k => multiplyByPower? m.toFloat k
  | .negSucc k => some (divideByPower m.toFloat (k + 1))

end ChatGateway.Decimal
