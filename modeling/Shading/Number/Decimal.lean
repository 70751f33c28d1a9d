import Shading.Number.Double

/-!
# Decimal text of a double

The text of a finite double has the fewest digits that read back as the same double, and of those the digits
nearest to it. It is positional for decimal exponents from -4 to 15 and scientific elsewhere.
-/

namespace Shading

def pow10 (n : Nat) : Nat := Nat.pow 10 n

/-- The decimal number `digits * 10 ^ exponent`. -/
structure Decimal where
  digits : Nat
  exponent : Int
deriving DecidableEq

/-- How many decimal digits a natural number is written with. -/
def decimalLength (n : Nat) : Nat :=
  (Nat.toDigits 10 n).length

namespace Double

/-- The magnitude, counted in quarters of the least positive double. -/
def quarters (d : Double) : Nat :=
  4 * d.units

/-- One, counted in quarters of the least positive double. -/
def quarterUnit : Nat :=
  4 * unit

/-- The lower end of the interval; below a power of two the gap is half as wide. -/
def lowerEnd (d : Double) : Nat :=
  if d.fraction = 0 ∧ 1 < d.exponentField then d.quarters - pow2 d.shift
  else d.quarters - 2 * pow2 d.shift

/-- The upper end of the interval. -/
def upperEnd (d : Double) : Nat :=
  d.quarters + 2 * pow2 d.shift

/-- The decimal `digits * 10 ^ exponent` rounds to the magnitude of `d`; the ends of the interval belong to an even
significand. -/
def roundsFrom (d : Double) (digits : Nat) (exponent : Int) : Bool :=
  let value := digits * pow10 exponent.toNat * quarterUnit
  let scale := pow10 (-exponent).toNat
  let low := d.lowerEnd * scale
  let high := d.upperEnd * scale
  if d.significand % 2 = 0 then decide (low ≤ value ∧ value ≤ high)
  else decide (low < value ∧ value < high)

/-- The exponent of the first decimal digit of a positive magnitude. -/
def leadingExponent (d : Double) : Int :=
  if quarterUnit ≤ d.quarters then
    (decimalLength (d.quarters / quarterUnit) : Int) - 1
  else
    -(decimalLength ((quarterUnit - 1) / d.quarters) : Int)

/-- Of the two neighbours of the magnitude among the decimals of `count` digits, the one that rounds to it; of two
such the nearer, and the even one when both are as near. -/
def neighbour? (d : Double) (count : Nat) : Option Decimal :=
  let exponent : Int := d.leadingExponent - ((count : Int) - 1)
  let num := d.quarters * pow10 (-exponent).toNat
  let den := quarterUnit * pow10 exponent.toNat
  let below := num / den
  match d.roundsFrom below exponent, d.roundsFrom (below + 1) exponent with
  | true, true => some ⟨roundDiv num den, exponent⟩
  | true, false => some ⟨below, exponent⟩
  | false, true => some ⟨below + 1, exponent⟩
  | false, false => none

/-- The shortest decimal of a positive magnitude; seventeen digits always suffice. -/
def shortest (d : Double) : Decimal :=
  ((List.range 17).findSome? (fun n => d.neighbour? (n + 1))).getD ⟨0, 0⟩

end Double

namespace Decimal

/-- The digits with the decimal point after the first `point` of them, and with a zero on either side of the
point where no digit stands. -/
def positional (digits : List Char) (point : Int) : List Char :=
  if point ≤ 0 then
    '0' :: '.' :: (List.replicate (-point).toNat '0' ++ digits)
  else if (digits.length : Int) ≤ point then
    digits ++ List.replicate (point - digits.length).toNat '0' ++ ['.', '0']
  else
    digits.take point.toNat ++ '.' :: digits.drop point.toNat

/-- The first digit, the others behind a point, and the signed exponent with at least two digits. -/
def scientific (digits : List Char) (exponent : Int) : List Char :=
  let mantissa :=
    match digits with
    | first :: second :: rest => first :: '.' :: second :: rest
    | short => short
  let size := Nat.toDigits 10 exponent.natAbs
  mantissa ++ 'e' :: (if exponent < 0 then '-' else '+') ::
    (if size.length < 2 then '0' :: size else size)

/-- The digits of a decimal without the zeros at their end. -/
def trimmed (decimal : Decimal) : List Char :=
  ((Nat.toDigits 10 decimal.digits).reverse.dropWhile (· = '0')).reverse

/-- A positive decimal written positionally for leading exponents from -4 to 15, and scientifically otherwise. -/
def layout (decimal : Decimal) : List Char :=
  let point : Int := decimalLength decimal.digits + decimal.exponent
  if -4 ≤ point - 1 ∧ point - 1 < 16 then positional decimal.trimmed point
  else scientific decimal.trimmed (point - 1)

end Decimal

/-- The text of a double; a zero keeps its sign. -/
def Double.text (d : Double) : String :=
  if d.isNaN then "nan"
  else
    let sign := if d.isNegative then "-" else ""
    if !d.isFinite then sign ++ "inf"
    else if d.units = 0 then sign ++ "0.0"
    else sign ++ String.ofList d.shortest.layout

end Shading
