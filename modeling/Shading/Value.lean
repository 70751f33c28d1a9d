import Shading.Number.Constant
import Shading.Vocabulary

/-!
# Shader values

A value has a type and a source, which says where it comes from: a leaf, a component of another value, or a node
that computes it from its operands. Values are told apart by their `key` and nodes by their number, so the same
value can be an operand in many places without being copied in the generated code.
-/

namespace Shading

/-- What a stage can write. -/
inductive Output where
  | position
  | pointSize
  | named (name : String)
  | color
deriving DecidableEq

/-- Sources without operands. -/
inductive Leaf where
  /-- A per-vertex attribute of a geometry stream. -/
  | vertexAttribute (slot : Slot) (stream : Int)
  /-- An output read back. -/
  | output (output : Output)
  /-- A named value that the fragment stage receives. -/
  | input (name : String)
  /-- The index of the instance being drawn. -/
  | instanceIndex
  /-- A built-in matrix. -/
  | matrix (matrix : Matrix)
  /-- A declared uniform, identified by its index. -/
  | uniform (index : Int) (type : ShaderType)
  /-- A compile-time constant, or another plain operand in its place, which a backend may refuse. -/
  | literal (value : Plain) (type : ShaderType)
  /-- A field of one slot of the material table. -/
  | material (index : Int) (field : MaterialField)
  /-- Something no backend knows, described by a text. -/
  | unknown (text : String)
deriving DecidableEq

namespace Leaf

/-- Leaves denote the same thing: literals of one type compare by their numerical values. -/
def equals : Leaf → Leaf → Bool
  | .literal a s, .literal b t => a.equals b && s == t
  | a, b => a == b

end Leaf

mutual

/-- A typed value of a shader graph; the key tells it from every other value. -/
inductive Value where
  | mk (key : Nat) (type : ShaderType) (source : Source)

/-- Where a value comes from. Every source but a leaf and a component is a node with a number of its own. -/
inductive Source where
  | leaf (leaf : Leaf)
  | component (parent : Value) (letters : String)
  | arithmetic (node : Nat) (operator : Arithmetic) (lhs rhs : Value)
  | compare (node : Nat) (comparison : Comparison) (lhs rhs : Value)
  | branch (node : Nat) (condition success failure : Value)
  | sample (node : Nat) (filter : Filter) (texture coordinate : Value)
  | lerp (node : Nat) (lhs rhs factor : Value)
  | construct (node : Nat) (type : ShaderType) (parts : List Value)

end

namespace Value

/-- What tells a value from every other value. -/
def key : Value → Nat
  | .mk key _ _ => key

def type : Value → ShaderType
  | .mk _ type _ => type

def source : Value → Source
  | .mk _ _ source => source

def kind (value : Value) : Kind :=
  value.type.kind

end Value

namespace Source

/-- The values a source reads, in the order in which they are computed. -/
def operands : Source → List Value
  | .leaf _ => []
  | .component parent _ => [parent]
  | .arithmetic _ _ lhs rhs => [lhs, rhs]
  | .compare _ _ lhs rhs => [lhs, rhs]
  | .branch _ condition success failure => [condition, success, failure]
  | .sample _ _ texture coordinate => [texture, coordinate]
  | .lerp _ lhs rhs factor => [lhs, rhs, factor]
  | .construct _ _ parts => parts

/-- The number of the node that a value needs a temporary for. -/
def node? : Source → Option Nat
  | .leaf _ | .component _ _ => none
  | .arithmetic node _ _ _ | .compare node _ _ _ | .branch node _ _ _ | .sample node _ _ _
  | .lerp node _ _ _ | .construct node _ _ => some node

/-- Sources denote the same thing: leaves by value, components by their parent and letters, nodes by number. -/
def equals : Source → Source → Bool
  | .leaf a, .leaf b => a.equals b
  | .component p a, .component q b => p.key == q.key && a == b
  | .construct a _ _, .construct b _ _ => a == b
  | .construct _ _ _, _ | _, .construct _ _ _ => false
  | a, b => a.node?.isSome && a.node? == b.node?

end Source

/-- What binds two values to an operation. A branch also reads a condition, an interpolation a factor. -/
inductive Operator where
  | arithmetic (operator : Arithmetic)
  | compare (comparison : Comparison)
  | branch (condition : Value)
  | sample (filter : Filter)
  | lerp (factor : Value)
  /-- Something no operation knows, described by a text. -/
  | unknown (text : String)

namespace Operator

/-- The operation of an operator on two values. -/
def source? (node : Nat) (lhs rhs : Value) : Operator → Option Source
  | .arithmetic operator => some (.arithmetic node operator lhs rhs)
  | .compare comparison => some (.compare node comparison lhs rhs)
  | .branch condition => some (.branch node condition lhs rhs)
  | .sample filter => some (.sample node filter lhs rhs)
  | .lerp factor => some (.lerp node lhs rhs factor)
  | .unknown _ => none

end Operator

/-- The operator and the two values that an operation binds. -/
def Source.operation? : Source → Option (Value × Operator × Value)
  | .arithmetic _ operator lhs rhs => some (lhs, .arithmetic operator, rhs)
  | .compare _ comparison lhs rhs => some (lhs, .compare comparison, rhs)
  | .branch _ condition success failure => some (success, .branch condition, failure)
  | .sample _ filter texture coordinate => some (texture, .sample filter, coordinate)
  | .lerp _ lhs rhs factor => some (lhs, .lerp factor, rhs)
  | .leaf _ | .component _ _ | .construct _ _ _ => none

mutual

/-- How many values the graph below a value unfolds to, the value itself included. -/
def Value.size : Value → Nat
  | .mk _ _ source => source.size + 1

/-- How many values the operands of a source unfold to. -/
def Source.size : Source → Nat
  | .leaf _ => 0
  | .component parent _ => parent.size
  | .arithmetic _ _ lhs rhs | .compare _ _ lhs rhs => lhs.size + rhs.size
  | .branch _ condition success failure => condition.size + success.size + failure.size
  | .sample _ _ texture coordinate => texture.size + coordinate.size
  | .lerp _ lhs rhs factor => lhs.size + rhs.size + factor.size
  | .construct _ _ parts => sizeOfAll parts

/-- How many values several values unfold to together. -/
def sizeOfAll : List Value → Nat
  | [] => 0
  | value :: rest => value.size + sizeOfAll rest

end

theorem sizeOfAll_append (first second : List Value) :
    sizeOfAll (first ++ second) = sizeOfAll first + sizeOfAll second := by
  induction first with
  | nil => rw [List.nil_append, sizeOfAll, Nat.zero_add]
  | cons value rest ih => rw [List.cons_append, sizeOfAll, sizeOfAll, ih, Nat.add_assoc]

/-- The size of a source is that of its operands. -/
theorem Source.size_eq (source : Source) : source.size = sizeOfAll source.operands := by
  cases source <;> simp only [Source.size, Source.operands, sizeOfAll] <;> omega

/-- A value is by one larger than its operands together. -/
theorem Value.size_eq (value : Value) : value.size = sizeOfAll value.source.operands + 1 := by
  cases value with
  | mk key type source => rw [Value.size, Source.size_eq, Value.source]

end Shading
