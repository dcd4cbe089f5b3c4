/-!
# JSON numbers

A number is either an integer that fits 64 bits, signed or unsigned, or a
double-precision float.  The two never mix: `1` and `1.0` are different
numbers, and a negative zero can only be a float.
-/

namespace ChatGateway.Json

/-- An integer that fits 64 bits, signed or unsigned. -/
structure Whole where
  /-- The integer itself. -/
  toInt : Int
  lower : -9223372036854775808 ≤ toInt := by decide
  upper : toInt < 18446744073709551616 := by decide
deriving DecidableEq

namespace Whole

/-- The integer `n` as a `Whole`, if it fits. -/
def ofInt? (n : Int) : Option Whole :=
  if h : -9223372036854775808 ≤ n ∧ n < 18446744073709551616 then some ⟨n, h.1, h.2⟩ else none

theorem ofInt?_toInt (n : Whole) : ofInt? n.toInt = some n := by
  simp [ofInt?, n.lower, n.upper]

theorem toInt_of_ofInt? {n : Int} {w : Whole} (h : ofInt? n = some w) : w.toInt = n := by
  unfold ofInt? at h
  split at h
  · exact (Option.some.inj h) ▸ rfl
  · simp at h

end Whole

/-- A JSON number. -/
inductive Number where
  | whole (n : Whole)
  | float (x : Float)
deriving DecidableEq

/-- The float nearest to a number. -/
def Number.toFloat : Number → Float
  | .whole n =>
    if n.toInt < 0 then -n.toInt.natAbs.toUInt64.toFloat else n.toInt.toNat.toUInt64.toFloat
  | .float x => x

end ChatGateway.Json
