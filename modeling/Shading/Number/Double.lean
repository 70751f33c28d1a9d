/-!
# Double precision numbers

A double is its 64 bits. Its fields are read off by division, so the finite magnitudes are exact multiples of
the least positive double, and rounding a fraction to the nearest double is plain integer arithmetic.
-/

namespace Shading

def pow2 (n : Nat) : Nat := Nat.pow 2 n

/-- A binary floating point number of double precision, given by its bits. -/
structure Double where
  bits : UInt64
deriving DecidableEq

namespace Double

/-- The bits read as one natural number. -/
def code (d : Double) : Nat :=
  d.bits.toNat

/-- The sign bit; zero has one too. -/
def isNegative (d : Double) : Bool :=
  decide (pow2 63 ≤ d.code)

/-- The eleven bits of the exponent. -/
def exponentField (d : Double) : Nat :=
  d.code / pow2 52 % pow2 11

/-- The fifty-two bits of the fraction. -/
def fraction (d : Double) : Nat :=
  d.code % pow2 52

def isFinite (d : Double) : Bool :=
  decide (d.exponentField ≠ 2047)

def isNaN (d : Double) : Bool :=
  decide (d.exponentField = 2047 ∧ d.fraction ≠ 0)

/-- The significand as an integer, with its leading one where there is one. -/
def significand (d : Double) : Nat :=
  if d.exponentField = 0 then d.fraction else d.fraction + pow2 52

/-- How far the significand is shifted above the least positive double. -/
def shift (d : Double) : Nat :=
  d.exponentField - 1

/-- How many of the least positive doubles make one. -/
def unit : Nat :=
  pow2 1074

/-- The magnitude of a finite double, counted in least positive doubles. -/
def units (d : Double) : Nat :=
  d.significand * pow2 d.shift

/-- A quotient rounded to the nearest integer, a tie going to the even one. -/
def roundDiv (num den : Nat) : Nat :=
  let quotient := num / den
  let twice := 2 * (num % den)
  if twice < den then quotient
  else if den < twice then quotient + 1
  else quotient + quotient % 2

/-- The bits, without the sign, of the double nearest to the fraction `num / den`. -/
def nearestCode (num den : Nat) : Nat :=
  let whole := num * unit / den
  let shift := if whole < pow2 53 then 0 else Nat.log2 whole - 52
  shift * pow2 52 + roundDiv (num * unit) (den * pow2 shift)

/-- The double nearest to a signed fraction, a tie going to the even significand, unless it lies
beyond the largest double. -/
def nearest? (negative : Bool) (num den : Nat) : Option Double :=
  let code := nearestCode num den
  if code < 2047 * pow2 52 then
    some ⟨UInt64.ofNat (if negative then pow2 63 + code else code)⟩
  else
    none

/-- The double nearest to an integer. -/
def ofInt? (n : Int) : Option Double :=
  nearest? (decide (n < 0)) n.natAbs 1

/-- The integer part of a finite double, with its sign. -/
def truncate (d : Double) : Int :=
  let whole : Nat := d.units / unit
  if d.isNegative then -(whole : Int) else (whole : Int)

/-- A finite double has the value of an integer. -/
def equalsInt (d : Double) (n : Int) : Bool :=
  d.isFinite && decide (d.units = n.natAbs * unit) && (decide (n = 0) || d.isNegative == decide (n < 0))

/-- Equality of values: the zeros are equal, and a NaN equals nothing. -/
def equals (a b : Double) : Bool :=
  !a.isNaN && (a == b || (a.isFinite && b.isFinite && a.units == 0 && b.units == 0))

end Double

end Shading
