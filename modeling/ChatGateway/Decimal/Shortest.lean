/-!
# Shortest decimals

A positive double is `m · 2^q`, and every real in an interval around it rounds
to it.  `shortest` gives the decimal `d · 10^p` in that interval with the
fewest digits: it looks for the coarsest decimal grid `10^p` with a point in the
interval and takes the nearer of the double's two neighbours on it.  If a grid
has any point in the interval, one of those two neighbours is such a point, so
no coarser grid is missed.

All comparisons are made between integers, after clearing powers of two and
ten.
-/

namespace ChatGateway.Decimal

/-- A positive double as `m · 2^q`. -/
structure Binary where
  m : Nat
  q : Int
  /-- The double below is half as far away as the double above: `m` is the
  least full significand and `q` is not the least exponent. -/
  narrowBelow : Bool
deriving DecidableEq, Repr

/-- A decimal `digits · 10^p`. -/
structure Scaled where
  digits : Nat
  p : Int
deriving DecidableEq, Repr

namespace Binary

/-- How many fractions there are: a fraction has 52 bits. -/
def fractions : Nat := Nat.pow 2 52

/-- How many exponents there are: an exponent has 11 bits. -/
def exponents : Nat := Nat.pow 2 11

/-- The double with the given bits, without its sign; the bits must not be
those of an infinity or of no number. -/
def ofBits (bits : UInt64) : Binary :=
  let fraction : Nat := bits.toNat % fractions
  let exponent : Nat := bits.toNat / fractions % exponents
  if exponent = 0 then ⟨fraction, -1074, false⟩
  else ⟨fractions + fraction, (exponent : Int) - 1075, fraction == 0 && exponent != 1⟩

/-- `a · 2^i · 10^j ≤ b · 2^k · 10^l`, decided between integers. -/
def scaledLe (a : Nat) (i j : Int) (b : Nat) (k l : Int) : Bool :=
  a * Nat.pow 2 (i - k).toNat * Nat.pow 10 (j - l).toNat ≤
    b * Nat.pow 2 (k - i).toNat * Nat.pow 10 (l - j).toNat

/-- Whether `d · 10^p` rounds to the double.  The bounds are `(4m - 2) · 2^(q-2)`,
or `(4m - 1) · 2^(q-2)` where the double below is nearer, and
`(4m + 2) · 2^(q-2)`; they count as inside exactly if `m` is even. -/
def holds (x : Binary) (d : Nat) (p : Int) : Bool :=
  let low := 4 * x.m - (if x.narrowBelow then 1 else 2)
  let high := 4 * x.m + 2
  if x.m % 2 = 0 then
    scaledLe low (x.q - 2) 0 d 0 p && scaledLe d 0 p high (x.q - 2) 0
  else
    !scaledLe d 0 p low (x.q - 2) 0 && !scaledLe high (x.q - 2) 0 d 0 p

/-- The whole number of steps of `10^p` in the double. -/
def stepsBelow (x : Binary) (p : Int) : Nat :=
  (x.m * Nat.pow 2 x.q.toNat * Nat.pow 10 (-p).toNat) /
    (Nat.pow 2 (-x.q).toNat * Nat.pow 10 p.toNat)

/-- Whether `d · 10^p` is at most as far from the double as `(d + 1) · 10^p`;
an exact tie goes to the even one of the two. -/
def nearerBelow (x : Binary) (d : Nat) (p : Int) : Bool :=
  let twice := 2 * x.m
  if d % 2 = 0 then scaledLe twice x.q 0 (2 * d + 1) 0 p
  else !scaledLe (2 * d + 1) 0 p twice x.q 0

/-- The point of the grid `10^p` that the double is written as, if one rounds
to it. -/
def onGrid? (x : Binary) (p : Int) : Option Scaled :=
  let d := x.stepsBelow p
  match x.holds d p, x.holds (d + 1) p with
  | true, true => some (if x.nearerBelow d p then ⟨d, p⟩ else ⟨d + 1, p⟩)
  | true, false => some ⟨d, p⟩
  | false, true => some ⟨d + 1, p⟩
  | false, false => none

/-- The first grid from `10^p` downwards, within `steps` grids, with a point
that rounds to the double. -/
def firstGrid (x : Binary) (p : Int) : (steps : Nat) → Scaled
  | 0 => ⟨x.stepsBelow p, p⟩
  | steps + 1 =>
    match x.onGrid? p with
    | some decimal => decimal
    | none => firstGrid x (p - 1) steps

/-- A power of ten above the double. -/
def ceiling (x : Binary) : Nat := (Nat.toDigits 10 (x.stepsBelow 0)).length

/-- The shortest decimal that rounds to the double.  On the grid `10^-1075`
each double has a point of its own, so the search ends before it. -/
def shortest (x : Binary) : Scaled := firstGrid x x.ceiling (x.ceiling + 1076)

end Binary

end ChatGateway.Decimal
