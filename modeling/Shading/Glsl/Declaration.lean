import Shading.Document
import Shading.Glsl.Dialect
import Shading.Glsl.Expression

/-!
# Declarations of a stage

What stands before the body of a stage: its uniforms, the variables at its two ends, and the table of materials.
-/

namespace Shading.Glsl

/-- The word for a side of the interface. -/
def qualifier : Side → String
  | .output => "out"
  | .input => "in"

/-- One declaration: a uniform, a variable at a location, or a variable that crosses from one stage to the other, which a
flat one does without interpolation. -/
inductive Declaration where
  | uniform (type name : String)
  | located (location : Nat) (side : Side) (type name : String)
  | varying (flat : Bool) (side : Side) (type name : String)
deriving DecidableEq

def Declaration.text : Declaration → String
  | .uniform type name => "uniform " ++ type ++ " " ++ name ++ ";"
  | .located location side type name =>
    "layout(location = " ++ Nat.repr location ++ ") " ++ qualifier side ++ " " ++ type ++ " " ++ name ++ ";"
  | .varying flat side type name =>
    (if flat then "flat " else "") ++ qualifier side ++ " " ++ type ++ " " ++ name ++ ";"

/-- The declarations of the uniforms, in the order of their indices. -/
def uniformDeclarations (resources : Resources) : Except Error (List Declaration) :=
  resources.uniformsByIndex.mapM (fun value => do
    let type ← liftViolation (spelling value.type)
    return .uniform type (uniformName value.uniformIndex))

/-- The types that can cross from one stage to the other. -/
def isPassable : ShaderType → Bool
  | .bool | .sampler => false
  | _ => true

/-- The declaration of a variable that crosses; integers do so without interpolation. -/
def varyingDeclaration (side : Side) (leaf : Leaf) (type : ShaderType) : Except Error Declaration := do
  if isPassable type then
    let word ← liftViolation (spelling type)
    return .varying (decide (type = .int)) side word (← leafName leaf)
  else
    throw (.violation (.notPassed leaf type))

/-- The declarations of the attributes at their locations, counted from `location`. -/
def attributeDeclarations (location : Nat) : List Attribute → Except Error (List Declaration)
  | [] => return []
  | binding :: rest => do
    let type ← liftViolation (spelling binding.type)
    let name ← leafName binding.leaf
    let others ← attributeDeclarations (location + 1) rest
    return .located location .input type name :: others

/-- The declarations before a body: the uniforms, the variables at the two ends, and whether textures stand beside the
table of materials. -/
structure Preamble where
  uniforms : List Declaration
  interface : List Declaration
  hasTextures : Bool
deriving DecidableEq

/-- The preamble of a vertex stage. The matrix of an instance follows the last attribute. -/
def vertexPreamble (vertex : VertexShader) (attributes : List Attribute) : Except Error Preamble := do
  let uniforms ← uniformDeclarations vertex.resources
  let inputs ← attributeDeclarations 0 attributes
  let instanceOutput ← varyingDeclaration .output .instanceIndex .int
  let outputs ← vertex.outputTypes.mapM
    (fun entry => varyingDeclaration .output (.output (.named entry.1)) entry.2)
  return {
    uniforms := .uniform "mat4" (matrixName .view) :: .uniform "mat4" (matrixName .projection) :: uniforms
    interface := inputs ++ .located attributes.length .input "mat4" (matrixName .model) :: instanceOutput :: outputs
    hasTextures := false }

/-- The preamble of a fragment stage. -/
def fragmentPreamble (fragment : FragmentShader) : Except Error Preamble := do
  let uniforms ← uniformDeclarations fragment.resources
  let instanceInput ← varyingDeclaration .input .instanceIndex .int
  let inputs ← fragment.inputTypes.mapM (fun entry => varyingDeclaration .input (.input entry.1) entry.2)
  return {
    uniforms := uniforms
    interface := instanceInput :: inputs ++ [.located 0 .output "vec4" (outputName .color)]
    hasTextures := true }

/-- The version directive, the precision statements and a blank line. -/
def headerLines (dialect : Dialect) : List String :=
  dialect.versionLine :: dialect.precision ++ [""]

/-- The structure of a material and the table of materials. -/
def materialLines : List String :=
  ["struct Material \x7b",
    "    vec2 offset;",
    "    vec2 scale;",
    "    vec4 color;",
    "\x7d;",
    "uniform Material materials[" ++ Nat.repr materialSlots ++ "];"]

/-- The textures beside the table of materials. -/
def textureLine : String :=
  "uniform sampler2D materialTextures[" ++ Nat.repr materialSlots ++ "];"

/-- The lines of a preamble, its parts separated by blank lines. -/
def Preamble.lines (preamble : Preamble) (dialect : Dialect) : List String :=
  headerLines dialect ++ preamble.uniforms.map Declaration.text ++ [""] ++
    preamble.interface.map Declaration.text ++ [""] ++ materialLines ++
    (if preamble.hasTextures then [textureLine] else []) ++ [""]

end Shading.Glsl
