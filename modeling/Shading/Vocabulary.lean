import Shading.ShaderType

/-!
# The words of a shader program

Stages, attribute slots, built-in matrices, material fields, operators and texture filters.
-/

namespace Shading

/-- The two programmable stages. -/
inductive Stage where
  | vertex
  | fragment
deriving DecidableEq

instance : Enumeration Stage where
  title := "ShaderStage"
  members := [.vertex, .fragment]
  name
    | .vertex => "VERTEX"
    | .fragment => "FRAGMENT"

/-- The per-vertex attributes a geometry stream can carry. -/
inductive Slot where
  | position
  | texCoord0
  | texCoord1
  | normal
  | tangent
  | color
deriving DecidableEq

namespace Slot

instance : Enumeration Slot where
  title := "GeometrySlot"
  members := [.position, .texCoord0, .texCoord1, .normal, .tangent, .color]
  name
    | .position => "POSITION"
    | .texCoord0 => "TEX_COORD0"
    | .texCoord1 => "TEX_COORD1"
    | .normal => "NORMAL"
    | .tangent => "TANGENT"
    | .color => "COLOR"

/-- The type of the attribute in a slot. -/
def type : Slot → ShaderType
  | .position | .normal | .tangent => .vec3
  | .texCoord0 | .texCoord1 => .vec2
  | .color => .vec4

end Slot

/-- The matrices every vertex stage can read. -/
inductive Matrix where
  | model
  | view
  | projection
deriving DecidableEq

instance : Enumeration Matrix where
  title := "BuiltinMatrix"
  members := [.model, .view, .projection]
  name
    | .model => "MODEL"
    | .view => "VIEW"
    | .projection => "PROJECTION"

/-- The fields of one slot of the material table. -/
inductive MaterialField where
  | texture
  | scale
  | offset
  | color
deriving DecidableEq

namespace MaterialField

instance : Enumeration MaterialField where
  title := "MaterialProperty"
  members := [.texture, .scale, .offset, .color]
  name
    | .texture => "TEXTURE"
    | .scale => "SCALE"
    | .offset => "OFFSET"
    | .color => "COLOR"

/-- The type of a material field. -/
def type : MaterialField → ShaderType
  | .texture => .sampler
  | .scale | .offset => .vec2
  | .color => .vec4

end MaterialField

/-- How many slots the material table has. -/
def materialSlots : Nat := 16

/-- The comparisons and the two logical connectives. -/
inductive Comparison where
  | equal
  | notEqual
  | greater
  | greaterEqual
  | less
  | lessEqual
  | and
  | or
deriving DecidableEq

namespace Comparison

instance : Enumeration Comparison where
  title := "Comparison"
  members := [.equal, .notEqual, .greater, .greaterEqual, .less, .lessEqual, .and, .or]
  name
    | .equal => "EQUAL"
    | .notEqual => "NOT_EQUAL"
    | .greater => "GREATER"
    | .greaterEqual => "GREATER_EQUAL"
    | .less => "LESS"
    | .lessEqual => "LESS_EQUAL"
    | .and => "AND"
    | .or => "OR"

/-- The connectives, which take truth values only. -/
def isLogical : Comparison → Bool
  | .and | .or => true
  | _ => false

end Comparison

/-- The ways a texture is sampled between its texels. -/
inductive Filter where
  | linear
  | nearest
deriving DecidableEq

instance : Enumeration Filter where
  title := "Filter"
  members := [.linear, .nearest]
  name
    | .linear => "LINEAR"
    | .nearest => "NEAREST"

/-- The four arithmetic operators. -/
inductive Arithmetic where
  | add
  | subtract
  | multiply
  | divide
deriving DecidableEq

instance : Enumeration Arithmetic where
  title := "Arithmetic"
  members := [.add, .subtract, .multiply, .divide]
  name
    | .add => "ADD"
    | .subtract => "SUBTRACT"
    | .multiply => "MULTIPLY"
    | .divide => "DIVIDE"

end Shading
