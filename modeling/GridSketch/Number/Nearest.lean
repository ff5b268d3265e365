import GridSketch.Number.Exact

/-!
# The double nearest to a fraction

The doubles of one sign, in ascending order, have consecutive bit patterns. So the double nearest
to `num / den` is found by counting units: the unit is the largest power of two that leaves 53 bits
before the point (but never below the smallest double), the fraction is rounded to whole units with
ties to the even one, and the pattern is that count plus `2 ^ 52` for every step of the unit.
A count that rounds up into the next unit lands on the right pattern by itself, and everything from
the pattern of infinity on is infinity.
-/

namespace GridSketch.Number

/-- The quotient rounded to the nearest whole number, a tie to the even one. -/
def roundDiv (num den : Nat) : Nat :=
  let down := num / den
  let rest := num % den
  if den < 2 * rest || (2 * rest == den && down % 2 == 1) then down + 1 else down

/-- The exponent of the unit in which `num / den` is counted: 53 bits before the point, but no
    finer than the smallest double. -/
def unitExponent (num den : Nat) : Int :=
  let shift : Int := (num.log2 : Int) - den.log2
  let reached :=
    if 0 ≤ shift then decide (den * twoPow shift.toNat ≤ num)
    else decide (den ≤ num * twoPow (-shift).toNat)
  max Exact.leastExponent (if reached then shift - 52 else shift - 53)

/-- The pattern of positive infinity. -/
def infinityBits : Nat := 2047 * twoPow 52

/-- The pattern of the double nearest to `num / den`, sign bit aside. -/
def nearestBits (num den : Nat) : Nat :=
  let unit := unitExponent num den
  let count :=
    if 0 ≤ unit then roundDiv num (den * twoPow unit.toNat)
    else roundDiv (num * twoPow (-unit).toNat) den
  min infinityBits ((unit - Exact.leastExponent).toNat * twoPow 52 + count)

/-- The double with the given pattern and sign. -/
def signed (negative : Bool) (bits : Nat) : Float :=
  Float.ofBits (UInt64.ofNat (if negative then twoPow 63 + bits else bits))

/-- The double nearest to `num / den`, ties to the even pattern. -/
def nearest (negative : Bool) (num den : Nat) : Float :=
  signed negative (nearestBits num den)

/-- Positive infinity. -/
def infinity : Float := signed false infinityBits

/-- The value that is no number. -/
def notANumber : Float := signed false (infinityBits + twoPow 51)

end GridSketch.Number
