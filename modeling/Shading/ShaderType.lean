import Shading.Enumeration

/-!
# Types of shader values

`ShaderType` is the logical type of a value, `ScalarType` the choice a scalar declaration makes, and `Kind` the
family of values that share their operations. Every type but `operation` belongs to exactly one kind.
-/

namespace Shading

/-- The logical types; `operation` is the type of an operation node and of no value. -/
inductive ShaderType where
  | bool
  | int
  | float
  | vec2
  | vec3
  | vec4
  | mat3
  | mat4
  | sampler
  | operation
deriving DecidableEq

namespace ShaderType

instance : Enumeration ShaderType where
  title := "ValueType"
  members := [.bool, .int, .float, .vec2, .vec3, .vec4, .mat3, .mat4, .sampler, .operation]
  name
    | .bool => "BOOL"
    | .int => "INT"
    | .float => "FLOAT1"
    | .vec2 => "FLOAT2"
    | .vec3 => "FLOAT3"
    | .vec4 => "FLOAT4"
    | .mat3 => "FLOAT3X3"
    | .mat4 => "FLOAT4X4"
    | .sampler => "TEXTURE2D"
    | .operation => "OPERATION"

/-- The name of a type in messages. -/
def name (type : ShaderType) : String :=
  Enumeration.name type

/-- How many scalar components a value of the type has. -/
def width : ShaderType → Nat
  | .bool | .int | .float => 1
  | .vec2 => 2
  | .vec3 => 3
  | .vec4 => 4
  | .mat3 => 9
  | .mat4 => 16
  | .sampler | .operation => 0

/-- The types made of floating point components. -/
def isFloat : ShaderType → Bool
  | .float | .vec2 | .vec3 | .vec4 | .mat3 | .mat4 => true
  | .bool | .int | .sampler | .operation => false

/-- The types that arithmetic accepts on both sides. -/
def isNumeric : ShaderType → Bool
  | .int => true
  | type => type.isFloat

end ShaderType

/-- The component type of a scalar declaration. -/
inductive ScalarType where
  | bool
  | int
  | float
deriving DecidableEq

namespace ScalarType

instance : Enumeration ScalarType where
  title := "ScalarType"
  members := [.bool, .int, .float]
  name
    | .bool => "BOOL"
    | .int => "INT"
    | .float => "FLOAT"

/-- The type of a scalar declared with this component. -/
def type : ScalarType → ShaderType
  | .bool => .bool
  | .int => .int
  | .float => .float

end ScalarType

/-- The families of values; `generic` is the common family, which holds no type of its own. -/
inductive Kind where
  | scalar
  | vec2
  | vec3
  | vec4
  | mat3
  | mat4
  | sampler
  | generic
deriving DecidableEq

namespace Kind

def all : List Kind :=
  [.scalar, .vec2, .vec3, .vec4, .mat3, .mat4, .sampler, .generic]

def name : Kind → String
  | .scalar => "Scalar"
  | .vec2 => "Vec2"
  | .vec3 => "Vec3"
  | .vec4 => "Vec4"
  | .mat3 => "Mat3"
  | .mat4 => "Mat4"
  | .sampler => "Sampler2D"
  | .generic => "ShaderValue"

def find? (text : String) : Option Kind :=
  all.find? (fun kind => kind.name == text)

/-- The types that values of the kind can have. -/
def types : Kind → List ShaderType
  | .scalar => [.bool, .int, .float]
  | .vec2 => [.vec2]
  | .vec3 => [.vec3]
  | .vec4 => [.vec4]
  | .mat3 => [.mat3]
  | .mat4 => [.mat4]
  | .sampler => [.sampler]
  | .generic => []

/-- The single type of the kind, when it has exactly one. -/
def onlyType? (kind : Kind) : Option ShaderType :=
  match kind.types with
  | [type] => some type
  | _ => none

end Kind

/-- The kind that holds the values of a type; no proper kind holds an operation. -/
def ShaderType.kind : ShaderType → Kind
  | .bool | .int | .float => .scalar
  | .vec2 => .vec2
  | .vec3 => .vec3
  | .vec4 => .vec4
  | .mat3 => .mat3
  | .mat4 => .mat4
  | .sampler => .sampler
  | .operation => .generic

/-- A kind holds a type exactly when it is that type's kind and the type is not `operation`. -/
theorem Kind.mem_types_iff (kind : Kind) (type : ShaderType) :
    type ∈ kind.types ↔ type.kind = kind ∧ type ≠ .operation := by
  cases kind <;> cases type <;> simp [Kind.types, ShaderType.kind]

end Shading
