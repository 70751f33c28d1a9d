import Shading.Error

/-!
# Building values

The operations that callers wire values together with. Each checks its operands, so a value that exists is well
typed. Keys and node numbers are drawn from one counter, so every new value differs from all earlier ones.
-/

namespace Shading

/-- A construction that draws fresh numbers and may fail. -/
abbrev Build := StateT Nat (Except Error)

namespace Build

/-- A number that no earlier value or node has. -/
def fresh : Build Nat :=
  modifyGet (fun next => (next, next + 1))

/-- Stop because of a violated contract. -/
def violate {α : Type} (cause : Violation) : Build α :=
  throw (.violation cause)

end Build

/-- The type of a value of the kind: the one requested, or else the kind's only type. -/
def Kind.resolveType (kind : Kind) (requested : Option ShaderType) : Except Violation ShaderType :=
  match requested with
  | some type => if type ∈ kind.types then .ok type else .error (.typeRefused kind type)
  | none =>
    match kind.onlyType? with
    | some type => .ok type
    | none => .error (.typeNeeded kind)

def Kind.wrap (kind : Kind) (source : Source) (requested : Option ShaderType) : Build Value := do
  match kind.resolveType requested with
  | .ok type => return .mk (← Build.fresh) type source
  | .error cause => Build.violate cause

/-- A new value of the kind that holds a type. -/
def Value.ofType (source : Source) (type : ShaderType) : Build Value :=
  if type ∈ type.kind.types then
    return .mk (← Build.fresh) type source
  else
    Build.violate (.noKind type)

/-- A new value of a leaf whose type is known to have a kind. -/
def Value.ofLeaf (leaf : Leaf) (type : ShaderType) : Build Value :=
  Value.ofType (.leaf leaf) type

def Constant.type : Constant → ShaderType
  | .bool _ => .bool
  | .int _ => .int
  | .double _ => .float

def Value.constant (value : Constant) : Build Value :=
  Value.ofLeaf (.literal (.constant value) value.type) value.type

/-- A constant scalar from a plain operand, which must be a number or a truth value. -/
def Value.literal : Plain → Build Value
  | .constant value => Value.constant value
  | other => Build.violate (.unsupportedLiteral other)

/-- The product of a matrix and a vector of its size. -/
def matrixProduct? : ShaderType → ShaderType → Option ShaderType
  | .mat3, .vec3 => some .vec3
  | .mat4, .vec4 => some .vec4
  | _, _ => none

/-- The type an operation on two types produces, if its operands fit. -/
def Operator.result (operator : Operator) (lhs rhs : ShaderType) : Except Violation ShaderType :=
  match operator with
  | .arithmetic operator =>
    if lhs = rhs ∧ lhs.isNumeric then .ok lhs
    else
      match operator, matrixProduct? lhs rhs with
      | .multiply, some product => .ok product
      | _, _ => .error (.notApplicable operator lhs rhs)
  | .compare comparison =>
    if comparison.isLogical then
      if lhs = .bool ∧ rhs = .bool then .ok .bool else .error (.notLogical comparison lhs rhs)
    else if lhs ≠ rhs ∨ lhs = .sampler then .error (.notComparable lhs rhs)
    else .ok .bool
  | .branch condition =>
    if condition.type ≠ .bool then .error (.conditionType condition.type)
    else if lhs ≠ rhs then .error (.outcomesDiffer lhs rhs)
    else .ok lhs
  | .sample _ =>
    if lhs ≠ .sampler ∨ rhs ≠ .vec2 then .error (.notSampled lhs rhs) else .ok .vec4
  | .lerp factor =>
    if lhs ≠ rhs ∨ !lhs.isFloat then .error (.notInterpolated lhs rhs)
    else if factor.type ≠ .float then .error (.factorType factor.type)
    else .ok lhs
  | .unknown _ => .error (.unknownOperator operator)

def Value.operate (lhs : Value) (operator : Operator) (rhs : Value) : Build Value := do
  match operator.result lhs.type rhs.type with
  | .error cause => Build.violate cause
  | .ok type =>
    let node ← Build.fresh
    match operator.source? node lhs rhs with
    | some source => Value.ofType source type
    | none => Build.violate (.unknownOperator operator)

/-- What an expression can name: a shader value or a plain operand. -/
inductive Operand where
  | value (value : Value)
  | plain (plain : Plain)

/-- An operand next to a value. Beside a scalar a plain number becomes a literal: a double beside a float, never a
truncated one beside an integer, and itself otherwise. -/
def Value.operandBeside (beside : Value) : Operand → Build Value
  | .value value => return value
  | .plain (.constant constant) =>
    if beside.kind = .scalar then
      match beside.type, constant with
      | .float, constant =>
        match constant.toDouble? with
        | some double => Value.constant (.double double)
        | none => throw .intTooLarge
      | .int, .double double => Build.violate (.truncation double)
      | _, constant => Value.constant constant
    else
      Build.violate (.notCombined beside.type (.constant constant))
  | .plain other => Build.violate (.notCombined beside.type other)

/-- Arithmetic with the value on the left. -/
def Value.arithmetic (lhs : Value) (operator : Arithmetic) (rhs : Operand) : Build Value := do
  lhs.operate (.arithmetic operator) (← lhs.operandBeside rhs)

/-- Arithmetic with the value on the right of a plain operand. -/
def Value.arithmeticFrom (rhs : Value) (operator : Arithmetic) (lhs : Plain) : Build Value := do
  (← rhs.operandBeside (.plain lhs)).operate (.arithmetic operator) rhs

/-- A comparison or a logical connective. -/
def Value.compare (lhs : Value) (comparison : Comparison) (rhs : Operand) : Build Value := do
  lhs.operate (.compare comparison) (← lhs.operandBeside rhs)

/-- Linear interpolation by a scalar value. -/
def Value.lerp (lhs rhs factor : Value) : Build Value :=
  lhs.operate (.lerp factor) rhs

/-- Linear interpolation by a constant. -/
def Value.lerpBy (lhs rhs : Value) (factor : Constant) : Build Value := do
  match factor.toDouble? with
  | some double => lhs.lerp rhs (← Value.constant (.double double))
  | none => throw .intTooLarge

/-- One of two values, chosen by a scalar condition. -/
def Value.select (condition success failure : Value) : Build Value :=
  if condition.kind = .scalar then success.operate (.branch condition) failure
  else throw (.noMember condition.kind "select")

/-- A texture looked up at a coordinate. -/
def Value.sample (texture coordinate : Value) (filter : Filter) : Build Value :=
  if texture.kind = .sampler then texture.operate (.sample filter) coordinate
  else throw (.noMember texture.kind "sample")

/-- The letters of the components, in order. -/
def componentLetters : List Char := ['x', 'y', 'z', 'w']

/-- A piece stands somewhere in a text without a gap. -/
def occursIn (piece : List Char) : List Char → Bool
  | [] => piece.isEmpty
  | c :: rest => piece.isPrefixOf (c :: rest) || occursIn piece rest

/-- A run of component letters is selected from a vector. -/
def Value.component (value : Value) (letters : String) : Build Value :=
  let count := value.type.width
  if occursIn letters.toList (componentLetters.take count) ∧ 2 ≤ count ∧ count ≤ 4 then
    Value.ofType (.component value letters) .float
  else
    Build.violate (.noComponent value.type letters)

/-- The kind offers a single component by name. -/
def Kind.hasMember : Kind → Char → Bool
  | .vec2, c => (componentLetters.take 2).contains c
  | .vec3, c => (componentLetters.take 3).contains c
  | .vec4, c => componentLetters.contains c
  | _, _ => false

def Value.member (value : Value) (letter : Char) : Build Value :=
  if value.kind.hasMember letter then value.component letter.toString
  else throw (.noMember value.kind letter.toString)

/-- How many components several types have together. -/
def totalComponents : List ShaderType → Nat
  | [] => 0
  | type :: rest => type.width + totalComponents rest

/-- A composite type is assembled from parts that have components and together have as many as the whole. -/
def checkParts (whole : ShaderType) (parts : List ShaderType) : Except Violation Unit :=
  match parts.find? (fun part => part.width == 0) with
  | some part => .error (.notAPart part whole)
  | none =>
    if parts ≠ [] ∧ totalComponents parts = whole.width then .ok ()
    else .error (.partsMismatch whole parts)

/-- A value of a kind assembled from smaller values. -/
def Kind.construct (kind : Kind) (parts : List Value) : Build Value := do
  match kind, kind.onlyType? with
  | .scalar, _ => Build.violate .scalarFromParts
  | .sampler, _ => Build.violate .samplerFromParts
  | _, none => throw .noSingleType
  | kind, some whole =>
    match checkParts whole (parts.map Value.type) with
    | .error cause => Build.violate cause
    | .ok () =>
      let node ← Build.fresh
      kind.wrap (.construct node whole parts) (some whole)

end Shading
