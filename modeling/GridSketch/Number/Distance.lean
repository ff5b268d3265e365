import GridSketch.Number.Nearest

/-!
# The length of the hypotenuse

The distance between two points is rounded once, from the exact sum of the squares: there is no
overflow or underflow on the way, and a distance that is a double is met exactly.
-/

namespace GridSketch.Number

/-- The double nearest to `√n · 2 ^ exponent`. The root is cut to at least 64 bits; a cut root
    counts as half a unit more, which lies on the same side of every tie as the root itself. -/
def nearestSqrt (n : Nat) (exponent : Int) : Float :=
  let shift := 66 - n.log2 / 2
  let scaled := n * twoPow (2 * shift)
  let root := Nat.sqrt scaled
  let count := if root * root = scaled then 2 * root else 2 * root + 1
  let unit := exponent - shift - 1
  if 0 ≤ unit then nearest false (count * twoPow unit.toNat) 1
  else nearest false count (twoPow (-unit).toNat)

/-- The length of the hypotenuse over two sides. An infinite side makes it infinite. -/
def hypotenuse (a b : Float) : Float :=
  match Exact.ofFloat? a, Exact.ofFloat? b with
  | some a, some b =>
    let unit := min a.exponent b.exponent
    let m := a.mantissa * twoPow (a.exponent - unit).toNat
    let n := b.mantissa * twoPow (b.exponent - unit).toNat
    if m = 0 && n = 0 then signed false 0 else nearestSqrt (m * m + n * n) unit
  | _, _ => if a.isInf || b.isInf then infinity else notANumber

end GridSketch.Number
