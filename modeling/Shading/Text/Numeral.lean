import Shading.Text.Quoted

/-!
# Reading and writing integers

A text denotes an integer when it is a row of decimal digits of any script, with single underscores allowed
between two digits, a sign allowed before them and blanks allowed around them. Integers of very many digits are neither
read nor written.
-/

namespace Shading.Text

/-- The most digits with which an integer is read or written. -/
def digitLimit : Nat := 4300

/-- An integer has few enough digits to be written. -/
def isWritable (value : Int) : Bool :=
  decide ((Nat.toDigits 10 value.natAbs).length ≤ digitLimit)

/-- The zeros of the rows of ten decimal digits, in order. -/
def digitZeros : List Nat :=
  [0x30, 0x660, 0x6f0, 0x7c0, 0x966, 0x9e6, 0xa66, 0xae6, 0xb66, 0xbe6, 0xc66, 0xce6, 0xd66, 0xde6, 0xe50, 0xed0,
   0xf20, 0x1040, 0x1090, 0x17e0, 0x1810, 0x1946, 0x19d0, 0x1a80, 0x1a90, 0x1b50, 0x1bb0, 0x1c40, 0x1c50, 0xa620,
   0xa8d0, 0xa900, 0xa9d0, 0xa9f0, 0xaa50, 0xabf0, 0xff10, 0x104a0, 0x10d30, 0x11066, 0x110f0, 0x11136, 0x111d0,
   0x112f0, 0x11450, 0x114d0, 0x11650, 0x116c0, 0x11730, 0x118e0, 0x11950, 0x11c50, 0x11d50, 0x11da0, 0x16a60,
   0x16ac0, 0x16b50, 0x1d7ce, 0x1d7d8, 0x1d7e2, 0x1d7ec, 0x1d7f6, 0x1e140, 0x1e2f0, 0x1e950, 0x1fbf0]

/-- The value of a decimal digit of any script. -/
def digitValue? (c : Char) : Option Nat :=
  (digitZeros.find? (fun first => first ≤ c.toNat ∧ c.toNat < first + 10)).map (c.toNat - ·)

/-- The blanks that may surround a numeral. -/
def isBlank (c : Char) : Bool :=
  [0x9, 0xa, 0xb, 0xc, 0xd, 0x20, 0x85, 0xa0, 0x1680, 0x2028, 0x2029, 0x202f, 0x205f, 0x3000].contains c.toNat ||
    decide (0x2000 ≤ c.toNat ∧ c.toNat ≤ 0x200a)

/-- The number that a digit and what follows it denote, `value` being that of the digits before. -/
def digitsValue? (value : Nat) : List Char → Option Nat
  | [] => some value
  | '_' :: c :: rest => do digitsValue? (value * 10 + (← digitValue? c)) rest
  | c :: rest => do digitsValue? (value * 10 + (← digitValue? c)) rest

/-- The number of a row of digits, at least one of them. -/
def naturalValue? : List Char → Option Nat
  | [] => none
  | c :: rest => do digitsValue? (← digitValue? c) rest

/-- A text without the blanks at its two ends. -/
def trimBlanks (chars : List Char) : List Char :=
  ((chars.dropWhile isBlank).reverse.dropWhile isBlank).reverse

/-- The integer that a text denotes. -/
def integerValue? (text : String) : Option Int :=
  match trimBlanks text.toList with
  | '-' :: digits => (naturalValue? digits).map (fun n => -(n : Int))
  | '+' :: digits => (naturalValue? digits).map Int.ofNat
  | digits => (naturalValue? digits).map Int.ofNat

/-- How many digits there are in a text. -/
def digitCount (text : String) : Nat :=
  text.toList.countP (fun c => (digitValue? c).isSome)

end Shading.Text
