import GridSketch.Number.Shortest

/-!
# How a number is written

* `render` writes a double with the fewest digits that read back: with a point as long as the first
  digit stands between two given places, and with a power of ten otherwise. A whole number written
  with a point keeps `.0`.
* `display` is the form shown to the user: a whole number stands without a point, with all its
  digits, and every other number as `render` has it.
-/

namespace GridSketch.Number

/-- Where the point is placed by hand and how a power of ten is written. -/
structure Layout where
  /-- The least place of the first digit for which the point is written out. -/
  leastPlace : Int
  /-- The first place for which it is not. -/
  placeBound : Int
  /-- The least number of digits of a power of ten. -/
  exponentWidth : Nat

/-- The point is written out from `0.0001` up to below `10 ^ 16`; a power of ten has two digits. -/
def layout : Layout := ⟨-4, 16, 2⟩

/-- Decimal digits as characters. -/
def digitChars (ds : List Nat) : List Char := ds.map Nat.digitChar

/-- A whole number in decimal. -/
def natChars (n : Nat) : List Char := if n = 0 then ['0'] else digitChars (decimalDigits n)

/-- An integer in decimal. -/
def intChars (n : Int) : List Char :=
  if n < 0 then '-' :: natChars n.natAbs else natChars n.natAbs

/-- The text of an integer. -/
def intText (n : Int) : String := String.ofList (intChars n)

/-- Digits around a written point, with zeros up to the point on either side and at least one digit
    after it. -/
def Digits.positional (d : Digits) : List Char :=
  if d.lead < 0 then
    '0' :: '.' :: List.replicate (-d.lead - 1).toNat '0' ++ digitChars d.digits
  else
    let places := d.lead.toNat + 1
    let whole := d.digits.take places
    let fraction := d.digits.drop places
    digitChars whole ++ List.replicate (places - whole.length) '0' ++
      '.' :: (if fraction.isEmpty then ['0'] else digitChars fraction)

/-- The first digit, a point and the other digits if there are any, and the power of ten with its
    sign. -/
def Digits.scientific (width : Nat) (d : Digits) : List Char :=
  let power := natChars d.lead.natAbs
  let fraction := d.digits.drop 1
  digitChars (d.digits.take 1) ++ (if fraction.isEmpty then [] else '.' :: digitChars fraction) ++
    'e' :: (if d.lead < 0 then '-' else '+') :: List.replicate (width - power.length) '0' ++ power

/-- Digits in the form that suits the place of the first one. Zero is `0.0`. -/
def Digits.chars (l : Layout) (d : Digits) : List Char :=
  if d.digits.isEmpty then ['0', '.', '0']
  else if l.leastPlace ≤ d.lead && d.lead < l.placeBound then d.positional
  else d.scientific l.exponentWidth

/-- The text of a double, with the fewest digits that read back. -/
def render (x : Float) : String :=
  match Exact.ofFloat? x with
  | some e =>
    let (n, exponent) := shortest e
    let text := (Digits.ofScaled n exponent).chars layout
    String.ofList (if e.negative then '-' :: text else text)
  | none => if x.isNaN then "nan" else if x < 0 then "-inf" else "inf"

/-- The text of a double as it is shown: a whole number without a point. -/
def display (x : Float) : String :=
  match (Exact.ofFloat? x).bind Exact.whole? with
  | some n => intText n
  | none => render x

end GridSketch.Number
