import Shading.Text.Numeral
import Shading.Value

/-!
# Display forms

The full display form of a value spells out its whole graph; the brief form of a source leaves the operands out. A full
form cannot be put together if there is an integer of too many digits in it, or if values stand too deep inside each
other.
-/

namespace Shading

/-- The display form of an output. -/
def Output.display : Output → String
  | .position => "VertexOutPosition()"
  | .pointSize => "VertexOutPointSize()"
  | .named name => "VertexOut(name=" ++ Text.quote name ++ ")"
  | .color => "FragmentOutColor()"

def Leaf.display : Leaf → String
  | .vertexAttribute slot stream =>
    "VertexInput(slot=" ++ Enumeration.display slot ++ ", geometry_index=" ++ Int.repr stream ++ ")"
  | .output target => target.display
  | .input name => "FragmentIn(name=" ++ Text.quote name ++ ")"
  | .instanceIndex => "InstanceID()"
  | .matrix which => "BuiltinUniform(matrix=" ++ Enumeration.display which ++ ")"
  | .uniform index type =>
    "CustomUniform(index=" ++ Int.repr index ++ ", value_type=" ++ Enumeration.display type ++ ")"
  | .literal value type =>
    "Literal(value=" ++ value.display ++ ", value_type=" ++ Enumeration.display type ++ ")"
  | .material index field =>
    "ChannelProperty(index=" ++ Int.repr index ++ ", prop=" ++ Enumeration.display field ++ ")"
  | .unknown text => Text.quote text

/-- The display form of an operation from those of its operands and its operator. -/
def displayOperation (lhs operator rhs : String) : String :=
  "OperationResult(operation=Operation(lhs=" ++ lhs ++ ", operator=" ++ operator ++ ", rhs=" ++ rhs ++ "))"

/-- A parenthesised sequence; a single item keeps its comma. -/
def displayTuple : List String → String
  | [item] => "(" ++ item ++ ",)"
  | items => "(" ++ ", ".intercalate items ++ ")"

mutual

/-- The full display form of a value. -/
def Value.display : Value → String
  | .mk _ type source => type.kind.name ++ "(" ++ type.name ++ ", " ++ source.display ++ ")"

/-- The full display form of a source. -/
def Source.display : Source → String
  | .leaf origin => origin.display
  | .component parent letters =>
    "Swizzle(parent=" ++ parent.display ++ ", component=" ++ Text.quote letters ++ ")"
  | .arithmetic _ operator lhs rhs =>
    displayOperation lhs.display (Enumeration.display operator) rhs.display
  | .compare _ comparison lhs rhs =>
    displayOperation lhs.display ("Compare(kind=" ++ Enumeration.display comparison ++ ")") rhs.display
  | .branch _ condition success failure =>
    displayOperation success.display ("Branch(condition=" ++ condition.display ++ ")") failure.display
  | .sample _ filter texture coordinate =>
    displayOperation texture.display ("Sample2D(filter=" ++ Enumeration.display filter ++ ")")
      coordinate.display
  | .lerp _ lhs rhs factor =>
    displayOperation lhs.display ("Lerp(factor=" ++ factor.display ++ ")") rhs.display
  | .construct _ type parts =>
    "Construct(value_type=" ++ Enumeration.display type ++ ", components=" ++
      displayTuple (displayValues parts) ++ ")"

/-- The full display forms of several values. -/
def displayValues : List Value → List String
  | [] => []
  | value :: rest => value.display :: displayValues rest

end

theorem Value.display_eq (value : Value) :
    value.display = value.type.kind.name ++ "(" ++ value.type.name ++ ", " ++ value.source.display ++ ")" := by
  cases value
  rfl

private theorem displayValues_eq (values : List Value) : displayValues values = values.map Value.display := by
  induction values with
  | nil => rfl
  | cons value rest ih => exact congrArg (value.display :: ·) ih

theorem Source.display_component (parent : Value) (letters : String) :
    (Source.component parent letters).display =
      "Swizzle(parent=" ++ parent.display ++ ", component=" ++ Text.quote letters ++ ")" := rfl

theorem Source.display_arithmetic (node : Nat) (operator : Arithmetic) (lhs rhs : Value) :
    (Source.arithmetic node operator lhs rhs).display =
      displayOperation lhs.display (Enumeration.display operator) rhs.display := rfl

theorem Source.display_compare (node : Nat) (comparison : Comparison) (lhs rhs : Value) :
    (Source.compare node comparison lhs rhs).display =
      displayOperation lhs.display ("Compare(kind=" ++ Enumeration.display comparison ++ ")") rhs.display := rfl

theorem Source.display_branch (node : Nat) (condition success failure : Value) :
    (Source.branch node condition success failure).display =
      displayOperation success.display ("Branch(condition=" ++ condition.display ++ ")") failure.display := rfl

theorem Source.display_sample (node : Nat) (filter : Filter) (texture coordinate : Value) :
    (Source.sample node filter texture coordinate).display =
      displayOperation texture.display ("Sample2D(filter=" ++ Enumeration.display filter ++ ")")
        coordinate.display := rfl

theorem Source.display_lerp (node : Nat) (lhs rhs factor : Value) :
    (Source.lerp node lhs rhs factor).display =
      displayOperation lhs.display ("Lerp(factor=" ++ factor.display ++ ")") rhs.display := rfl

theorem Source.display_construct (node : Nat) (type : ShaderType) (parts : List Value) :
    (Source.construct node type parts).display =
      "Construct(value_type=" ++ Enumeration.display type ++ ", components=" ++
        displayTuple (parts.map Value.display) ++ ")" := by
  rw [← displayValues_eq]
  rfl

/-- The display form of an operator. -/
def Operator.display : Operator → String
  | .arithmetic operator => Enumeration.display operator
  | .compare comparison => "Compare(kind=" ++ Enumeration.display comparison ++ ")"
  | .branch condition => "Branch(condition=" ++ condition.display ++ ")"
  | .sample filter => "Sample2D(filter=" ++ Enumeration.display filter ++ ")"
  | .lerp factor => "Lerp(factor=" ++ factor.display ++ ")"
  | .unknown text => Text.quote text

/-- Why a display form cannot be put together. -/
inductive DisplayFault where
  /-- An integer has too many digits. -/
  | longNumeral
  /-- There are more values inside each other than can be shown. -/
  | tooDeep
deriving DecidableEq

def DisplayFault.message : DisplayFault → String
  | .longNumeral =>
    "Exceeds the limit (4300 digits) for integer string conversion; use sys.set_int_max_str_digits() to increase the limit"
  | .tooDeep => "maximum recursion depth exceeded"

/-- What keeps an integer from being shown. -/
def numeralFault? (value : Int) : Option DisplayFault :=
  if Text.isWritable value then none else some .longNumeral

/-- The integer that a leaf is shown with. -/
def Leaf.number? : Leaf → Option Int
  | .vertexAttribute _ stream => some stream
  | .uniform index _ | .material index _ => some index
  | .literal (.constant (.int value)) _ => some value
  | _ => none

/-- What keeps a leaf from being shown. -/
def Leaf.displayFault? (leaf : Leaf) : Option DisplayFault :=
  leaf.number?.bind numeralFault?

mutual

/-- What keeps a value from being shown, the values in it being taken in the order of its display form. Where there is a
limit, only so many values can stand inside each other. -/
def Value.displayFault? (levels : Option Nat) : Value → Option DisplayFault
  | .mk _ _ source =>
    if levels = some 0 then some .tooDeep else source.displayFault? (levels.map (· - 1))

/-- What keeps a source from being shown. -/
def Source.displayFault? (levels : Option Nat) : Source → Option DisplayFault
  | .leaf origin => origin.displayFault?
  | .component parent _ => parent.displayFault? levels
  | .arithmetic _ _ lhs rhs | .compare _ _ lhs rhs | .sample _ _ lhs rhs =>
    lhs.displayFault? levels <|> rhs.displayFault? levels
  | .branch _ condition success failure =>
    success.displayFault? levels <|> condition.displayFault? levels <|> failure.displayFault? levels
  | .lerp _ lhs rhs factor =>
    lhs.displayFault? levels <|> factor.displayFault? levels <|> rhs.displayFault? levels
  | .construct _ _ parts => displayFaultOfAll? levels parts

/-- What keeps the first of several values that cannot be shown from it. -/
def displayFaultOfAll? (levels : Option Nat) : List Value → Option DisplayFault
  | [] => none
  | value :: rest => value.displayFault? levels <|> displayFaultOfAll? levels rest

end

/-- What keeps an operator from being shown. -/
def Operator.displayFault? (levels : Option Nat) : Operator → Option DisplayFault
  | .branch value | .lerp value => value.displayFault? levels
  | .arithmetic _ | .compare _ | .sample _ | .unknown _ => none

/-- The brief display form of a source, without its operands. -/
def Source.brief : Source → String
  | .leaf origin => origin.display
  | .component _ letters => "Swizzle(component=" ++ Text.quote letters ++ ")"
  | .construct _ type parts =>
    "Construct(value_type=" ++ Enumeration.display type ++ ", " ++ Nat.repr parts.length ++ ")"
  | .arithmetic _ _ _ _ | .compare _ _ _ _ | .branch _ _ _ _ | .sample _ _ _ _ | .lerp _ _ _ _ =>
    "OperationResult"

end Shading
