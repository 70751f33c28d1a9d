import Shading.Error

/-!
# Spelling of types, leaves and literals

What stands in a source for a type, for a leaf and for a compile-time constant.
-/

namespace Shading.Glsl

def spelling : ShaderType → Except Violation String
  | .bool => .ok "bool"
  | .int => .ok "int"
  | .float => .ok "float"
  | .vec2 => .ok "vec2"
  | .vec3 => .ok "vec3"
  | .vec4 => .ok "vec4"
  | .mat3 => .ok "mat3"
  | .mat4 => .ok "mat4"
  | .sampler => .ok "sampler2D"
  | .operation => .error .untypedOperation

/-- The integer that a constant stands for, without the places behind its point. -/
def wholePart : Constant → Except Error Int
  | .bool value => .ok (Constant.ofTruth value)
  | .int value => .ok value
  | .double value =>
    if value.isNaN then .error .nanToInt
    else if value.isFinite then .ok value.truncate
    else .error .infinityToInt

/-- The integer that a plain operand stands for. -/
def wholeValue : Plain → Except Error Int
  | .constant value => wholePart value
  | .text text =>
    match Text.integerValue? text with
    | some value =>
      if Text.digitCount text ≤ Text.digitLimit then .ok value else .error (.longText (Text.digitCount text))
    | none => .error (.notAnInteger text)
  | .nothing => .error (.integerFrom (Plain.typeName .nothing))

/-- The spelling of a constant as a number with a point or an exponent. -/
def numberText (value : Constant) : Except Error String :=
  match value.toDouble? with
  | none => .error .intTooLarge
  | some double =>
    if double.isFinite then .ok double.text else .error (.violation (.noSpelling value))

/-- The decimal numeral of an integer, unless it has too many digits. -/
def numeral (value : Int) : Except Error String :=
  if Text.isWritable value then .ok (Int.repr value) else .error (.unshown .longNumeral)

/-- The spelling of a plain operand as a literal of a type: a truth value, an integer, or a number with a point or an
exponent. -/
def literalText (value : Plain) : ShaderType → Except Error String
  | .bool => .ok (if value.isTrue then "true" else "false")
  | .int => do numeral (← wholeValue value)
  | _ =>
    match value with
    | .constant constant => numberText constant
    | other => .error (.notANumber other.typeName)

/-- The variable of an attribute. -/
def attributeName (slot : Slot) (stream : Int) : String :=
  match slot with
  | .position => "iPos" ++ Int.repr stream
  | .texCoord0 => "iUV" ++ Int.repr stream ++ "_0"
  | .texCoord1 => "iUV" ++ Int.repr stream ++ "_1"
  | .normal => "iNml" ++ Int.repr stream
  | .tangent => "iTan" ++ Int.repr stream
  | .color => "iClr" ++ Int.repr stream

def matrixName : Matrix → String
  | .model => "mMtx"
  | .view => "vMtx"
  | .projection => "pMtx"

/-- The variable that carries a named value from one stage to the other. -/
def interfaceName (name : String) : String :=
  "io_" ++ name

def outputName : Output → String
  | .position => "gl_Position"
  | .pointSize => "gl_PointSize"
  | .named name => interfaceName name
  | .color => "fClr"

/-- The place of a material field in the table of materials, or of its texture beside it. -/
def materialName (index : Int) : MaterialField → String
  | .texture => "materialTextures[" ++ Int.repr index ++ "]"
  | .scale => "materials[" ++ Int.repr index ++ "].scale"
  | .offset => "materials[" ++ Int.repr index ++ "].offset"
  | .color => "materials[" ++ Int.repr index ++ "].color"

def uniformName (index : Int) : String :=
  "u" ++ Int.repr index

/-- The variable of the instance index. -/
def instanceName : String := "iid"

/-- What stands for a leaf. Any stream can be asked for, so it may have too many digits; the index of a uniform is counted
by its document, and that of a material is below the size of the table. -/
def leafName : Leaf → Except Error String
  | .vertexAttribute slot stream =>
    if Text.isWritable stream then .ok (attributeName slot stream) else .error (.unshown .longNumeral)
  | .output output => .ok (outputName output)
  | .input name => .ok (interfaceName name)
  | .instanceIndex => .ok instanceName
  | .matrix matrix => .ok (matrixName matrix)
  | .uniform index _ => .ok (uniformName index)
  | .literal value type => literalText value type
  | .material index field => .ok (materialName index field)
  | .unknown text => .error (.violation (.unknownSource text))

end Shading.Glsl
