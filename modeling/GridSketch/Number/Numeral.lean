import GridSketch.Number.Nearest
import GridSketch.Text.Blank
import GridSketch.Text.Digit

/-!
# Numerals

A numeral is the text of a number: an optional sign, digits with an optional point, and an optional
power of ten; or one of the words for infinity and for no number at all. Digits may come from any
script, and a single underscore may stand between two digits.

* `Numeral.ofChars?` reads a numeral, with blanks around it allowed.
* `Numeral.toFloat` is the double nearest to its value, however long the numeral.
* `integer?` reads a whole number of bounded length.
-/

namespace GridSketch.Number

/-- What a numeral says. -/
inductive Numeral where
  /-- `digits · 10 ^ exponent` -/
  | decimal (negative : Bool) (digits : Nat) (exponent : Int)
  | infinite (negative : Bool)
  | notANumber
  deriving DecidableEq, Repr

namespace Numeral

/-- The value of a run of decimal digits, most significant first. Other characters count as zero. -/
def digitsValue (cs : List Char) : Nat :=
  cs.foldl (fun n c => 10 * n + (Text.decimalValue? c).getD 0) 0

/-- The blanks allowed around a numeral: all but the four separators of ASCII. -/
def isMargin (c : Char) : Bool := Text.isBlank c && !(0x1c ≤ c.toNat && c.toNat ≤ 0x1f)

/-- A text without its margins. -/
def trimMargins (cs : List Char) : List Char :=
  ((cs.dropWhile isMargin).reverse.dropWhile isMargin).reverse

/-- Takes the underscores out; `none` if one does not stand between two digits. -/
def dropUnderscores : (afterDigit : Bool) → List Char → Option (List Char)
  | _, [] => some []
  | afterDigit, '_' :: c :: cs =>
    if afterDigit && Text.isDecimalDigit c then (dropUnderscores true cs).map (c :: ·) else none
  | _, c :: cs =>
    if c = '_' then none else (dropUnderscores (Text.isDecimalDigit c) cs).map (c :: ·)

/-- Splits off a leading sign; the flag says that it was a minus. -/
def splitSign : List Char → Bool × List Char
  | '-' :: cs => (true, cs)
  | '+' :: cs => (false, cs)
  | cs => (false, cs)

/-- The power of ten after the digits, zero if there is none. -/
def exponent? : List Char → Option Int
  | [] => some 0
  | mark :: cs =>
    let (negative, digits) := splitSign cs
    if (mark = 'e' || mark = 'E') && !digits.isEmpty && digits.all Text.isDecimalDigit then
      let size : Int := digitsValue digits
      some (if negative then -size else size)
    else none

/-- Digits with an optional point, at least one digit in all, then the power of ten. -/
def decimal? (negative : Bool) (cs : List Char) : Option Numeral :=
  let (whole, afterWhole) := cs.span Text.isDecimalDigit
  let (fraction, rest) :=
    match afterWhole with
    | '.' :: cs => cs.span Text.isDecimalDigit
    | _ => ([], afterWhole)
  if whole.isEmpty && fraction.isEmpty then none
  else (exponent? rest).map fun power =>
    decimal negative (digitsValue (whole ++ fraction)) (power - fraction.length)

/-- Reads a numeral. -/
def ofChars? (cs : List Char) : Option Numeral := do
  let cs ← dropUnderscores false (trimMargins cs)
  let (negative, body) := splitSign cs
  let word := body.map Char.toLower
  if word = ['i', 'n', 'f'] || word = ['i', 'n', 'f', 'i', 'n', 'i', 't', 'y'] then
    some (infinite negative)
  else if word = ['n', 'a', 'n'] then some notANumber
  else decimal? negative body

/-- The double nearest to a value `digits · 10 ^ exponent`. Powers of ten that put the value beyond
    all doubles, or below half the smallest one, are settled by size alone, so that no power is
    formed that the answer does not need. -/
def decimalBits (digits : Nat) (exponent : Int) : Nat :=
  if digits = 0 then 0
  else if 0 ≤ exponent then
    if 1024 ≤ digits.log2 + 3 * exponent.toNat then infinityBits
    else nearestBits (digits * tenPow exponent.toNat) 1
  else if digits.log2 + 1076 < 3 * (-exponent).toNat then 0
  else nearestBits digits (tenPow (-exponent).toNat)

/-- The double nearest to the value of a numeral. -/
def toFloat : Numeral → Float
  | decimal negative digits exponent => signed negative (decimalBits digits exponent)
  | infinite negative => signed negative infinityBits
  | notANumber => Number.notANumber

end Numeral

/-- The double that a text stands for, `none` if it is no numeral. -/
def ofText? (s : String) : Option Float := (Numeral.ofChars? s.toList).map Numeral.toFloat

/-- The most digits a whole number may be written with. -/
def maxIntegerDigits : Nat := 4300

/-- Reads a whole number: an optional sign and decimal digits, with margins and single underscores
    between digits allowed, and no more than `maxIntegerDigits` digits. -/
def integer? (s : String) : Option Int := do
  let cs ← Numeral.dropUnderscores false (Numeral.trimMargins s.toList)
  let (negative, digits) := Numeral.splitSign cs
  if !digits.isEmpty && digits.all Text.isDecimalDigit && digits.length ≤ maxIntegerDigits then
    let size : Int := Numeral.digitsValue digits
    some (if negative then -size else size)
  else none

end GridSketch.Number
