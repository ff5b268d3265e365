import GridSketch.Number.Numeral

/-!
# The fewest digits that read back

A double is written with the fewest decimal digits that `Numeral` reads back as the same double and,
among those, with the digits nearest to its exact value. Some number of at most 17 digits always
reads back, and on each grid of decimals one of the value's two neighbours is the best candidate.
-/

namespace GridSketch.Number

/-- Decimal digits without leading or trailing zeros, and the power of ten of the first one. The
    digits `[1, 2, 5]` with `lead = 0` are the number 1.25. Zero has no digits. -/
structure Digits where
  digits : List Nat
  lead : Int
  deriving DecidableEq, Repr

/-- The decimal digits of a number, most significant first; zero has none. -/
def decimalDigits (n : Nat) : List Nat :=
  if n = 0 then [] else decimalDigits (n / 10) ++ [n % 10]

/-- The exponent of the power of ten at or below a positive fraction. -/
def decimalExponent (num den : Nat) : Int :=
  if den ≤ num then (decimalDigits (num / den)).length - 1
  else -((decimalDigits ((den - 1) / num)).length : Int)

/-- A number of units of size `10 ^ exponent`, as digits without zeros at the ends. -/
def Digits.ofScaled (n : Nat) (exponent : Int) : Digits :=
  let all := decimalDigits n
  ⟨(all.reverse.dropWhile (· == 0)).reverse, exponent + all.length - 1⟩

/-- The best candidate on the grid of multiples of `10 ^ exponent`: of the two neighbours of
    `num / den` those that read back as `bits`, the nearer first, a tie to the even one. -/
def candidate? (bits num den : Nat) (exponent : Int) : Option Nat :=
  let num := if exponent < 0 then num * tenPow (-exponent).toNat else num
  let den := if exponent < 0 then den else den * tenPow exponent.toNat
  let near := roundDiv num den
  let far := if near = num / den then near + 1 else num / den
  [near, far].find? fun n => Numeral.decimalBits n exponent == bits

/-- The exact decimal expansion of `mantissa · 2 ^ exponent`: a count and a power of ten. -/
def exactDecimal (mantissa : Nat) (exponent : Int) : Nat × Int :=
  if 0 ≤ exponent then (mantissa * twoPow exponent.toNat, 0)
  else (mantissa * Nat.pow 5 (-exponent).toNat, exponent)

/-- The most digits that are ever needed to tell two doubles apart. -/
def maxDigits : Nat := 17

/-- A count and a power of ten that read back as the magnitude of a finite double, with the fewest
    digits. The exact expansion stands by for the case, which does not arise, that no candidate of
    at most `maxDigits` digits reads back. -/
def shortest (e : Exact) : Nat × Int :=
  let (num, den) := e.ratio
  if num = 0 then (0, 0)
  else
    let bits := nearestBits num den
    let lead := decimalExponent num den
    let found := (List.range maxDigits).findSome? fun (n : Nat) =>
      (candidate? bits num den (lead - n)).map (·, lead - n)
    found.getD (exactDecimal e.mantissa e.exponent)

end GridSketch.Number
