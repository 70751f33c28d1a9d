import Shading.Text.Printable

/-!
# Quoted text

Messages show a text between quotes. Single quotes are used unless the text holds a single quote and no double
quote; the backslash and the chosen quote are escaped, and what is not printable is written as a short escape or
as its code point in hexadecimal.
-/

namespace Shading.Text

/-- The hexadecimal digits of a number, at least `width` of them. -/
def hexDigits (width n : Nat) : List Char :=
  let digits := Nat.toDigits 16 n
  List.replicate (width - digits.length) '0' ++ digits

/-- The escape for an unprintable character, in the shortest form that fits its code point. -/
def hexEscape (c : Char) : List Char :=
  if c.toNat ≤ 0xff then '\\' :: 'x' :: hexDigits 2 c.toNat
  else if c.toNat ≤ 0xffff then '\\' :: 'u' :: hexDigits 4 c.toNat
  else '\\' :: 'U' :: hexDigits 8 c.toNat

/-- One character of a quoted text. -/
def quoteChar (mark c : Char) : List Char :=
  if c = mark ∨ c = '\\' then ['\\', c]
  else if c = '\n' then ['\\', 'n']
  else if c = '\r' then ['\\', 'r']
  else if c = '\t' then ['\\', 't']
  else if isPrintable c then [c]
  else hexEscape c

/-- The quote that surrounds a text. -/
def quoteMark (text : List Char) : Char :=
  if text.contains '\'' && !text.contains '"' then '"' else '\''

def quote (text : String) : String :=
  let chars := text.toList
  let mark := quoteMark chars
  String.ofList (mark :: chars.flatMap (quoteChar mark) ++ [mark])

/-- One byte of a quoted sequence. -/
def quoteByte (mark : Char) (byte : UInt8) : List Char :=
  let c := Char.ofNat byte.toNat
  if byte.toNat < 0x80 then quoteChar mark c else hexEscape c

/-- A sequence of bytes between quotes, marked as one. -/
def quoteBytes (bytes : List UInt8) : String :=
  let mark := quoteMark (bytes.map (fun byte => Char.ofNat byte.toNat))
  String.ofList ('b' :: mark :: bytes.flatMap (quoteByte mark) ++ [mark])

end Shading.Text
