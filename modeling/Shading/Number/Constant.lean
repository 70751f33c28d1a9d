import Shading.Number.Decimal
import Shading.Text.Quoted

/-!
# Constants and plain operands

A constant is a truth value, an integer or a double. A plain operand is what a caller may write next to a shader
value: a constant, or a text or nothing at all, with which no operation combines.
-/

namespace Shading

/-- A compile-time constant. -/
inductive Constant where
  | bool (value : Bool)
  | int (value : Int)
  | double (value : Double)
deriving DecidableEq

namespace Constant

/-- A truth value counts as zero or one. -/
def ofTruth (value : Bool) : Int :=
  if value then 1 else 0

/-- The display form of a constant. -/
def text : Constant → String
  | .bool true => "True"
  | .bool false => "False"
  | .int value => Int.repr value
  | .double value => value.text

/-- The name of a constant's own type. -/
def typeName : Constant → String
  | .bool _ => "bool"
  | .int _ => "int"
  | .double _ => "float"

/-- The nearest double, unless it lies beyond the largest one. -/
def toDouble? : Constant → Option Double
  | .bool value => Double.ofInt? (ofTruth value)
  | .int value => Double.ofInt? value
  | .double value => some value

/-- Every constant but a zero counts as true. -/
def isTrue : Constant → Bool
  | .bool value => value
  | .int value => decide (value ≠ 0)
  | .double value => !(value.isFinite && value.units == 0)

/-- Equality of numerical values, whatever the types. -/
def equals : Constant → Constant → Bool
  | .double a, .double b => a.equals b
  | .double a, .bool b => a.equalsInt (ofTruth b)
  | .double a, .int b => a.equalsInt b
  | .bool a, .double b => b.equalsInt (ofTruth a)
  | .int a, .double b => b.equalsInt a
  | .bool a, .bool b => a == b
  | .bool a, .int b => ofTruth a == b
  | .int a, .bool b => a == ofTruth b
  | .int a, .int b => a == b

end Constant

/-- What stands beside a shader value in an expression without being one. -/
inductive Plain where
  | constant (value : Constant)
  | text (value : String)
  | nothing
deriving DecidableEq

namespace Plain

/-- The display form of a plain operand. -/
def display : Plain → String
  | .constant value => value.text
  | .text value => Text.quote value
  | .nothing => "None"

/-- The name of a plain operand's own type. -/
def typeName : Plain → String
  | .constant value => value.typeName
  | .text _ => "str"
  | .nothing => "NoneType"

/-- Zeros, the empty text and nothing count as false. -/
def isTrue : Plain → Bool
  | .constant value => value.isTrue
  | .text value => decide (value ≠ "")
  | .nothing => false

/-- Equality of constants by their numerical values, and of texts. -/
def equals : Plain → Plain → Bool
  | .constant a, .constant b => a.equals b
  | a, b => a == b

end Plain

end Shading
