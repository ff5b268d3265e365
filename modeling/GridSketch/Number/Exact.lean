/-!
# The exact value of a double

A finite double is a whole number of units, each a power of two. Everything this library decides
about a number beyond the four operations and the comparisons (its digits, its whole part, its
distance from another) is computed on that exact value, in whole numbers.

* `Exact.ofFloat?` takes a double apart; it answers for finite doubles only.
* `Exact.trunc` is the whole part, `Exact.whole?` the value itself if it is whole.
-/

namespace GridSketch.Number

/-- The powers of two. -/
def twoPow (n : Nat) : Nat := Nat.pow 2 n

/-- The powers of ten. -/
def tenPow (n : Nat) : Nat := Nat.pow 10 n

/-- The value `mantissa · 2 ^ exponent` with a sign. Zero has a sign too. -/
structure Exact where
  negative : Bool
  mantissa : Nat
  exponent : Int
  deriving DecidableEq, Repr

namespace Exact

/-- The exponent of the smallest positive double. -/
def leastExponent : Int := -1074

/-- The exact value of a finite double, from the three fields of its bits: a sign, an eleven-bit
    exponent and a fraction of 52 bits, with a leading one unless the exponent field is zero. -/
def ofFloat? (x : Float) : Option Exact :=
  let bits := x.toBits.toNat
  let fraction := bits % twoPow 52
  let field := bits / twoPow 52 % twoPow 11
  let negative := decide (twoPow 63 ≤ bits)
  if field = 2047 then none
  else if field = 0 then some ⟨negative, fraction, leastExponent⟩
  else some ⟨negative, twoPow 52 + fraction, leastExponent + (field - 1 : Nat)⟩

/-- A number of units of size `2 ^ exponent`, counted in whole ones and rounded down. -/
def floorScaled (mantissa : Nat) (exponent : Int) : Nat :=
  if 0 ≤ exponent then mantissa * twoPow exponent.toNat else mantissa / twoPow (-exponent).toNat

/-- The whole part: the fraction is dropped, on either side of zero. -/
def trunc (e : Exact) : Int :=
  let whole : Int := floorScaled e.mantissa e.exponent
  if e.negative then -whole else whole

/-- Whether nothing is lost by `trunc`. -/
def isWhole (e : Exact) : Bool :=
  0 ≤ e.exponent || e.mantissa % twoPow (-e.exponent).toNat == 0

/-- The value as an integer, if it is one. -/
def whole? (e : Exact) : Option Int :=
  if e.isWhole then some e.trunc else none

/-- The magnitude as a fraction of two whole numbers. -/
def ratio (e : Exact) : Nat × Nat :=
  if 0 ≤ e.exponent then (e.mantissa * twoPow e.exponent.toNat, 1)
  else (e.mantissa, twoPow (-e.exponent).toNat)

end Exact

/-- The whole part of a finite double; an infinity or a NaN has none. -/
def trunc? (x : Float) : Option Int := (Exact.ofFloat? x).map Exact.trunc

end GridSketch.Number
