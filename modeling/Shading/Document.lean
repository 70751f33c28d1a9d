import Shading.Build
import Shading.Table

/-!
# Stage documents

A document holds what one stage declares and writes: its uniforms and material channels, and the outputs or
inputs that make up its side of the interface. Documents change only through the operations here, and an
operation that fails changes nothing.
-/

namespace Shading

/-- One entry of the vertex attribute list. -/
structure Attribute where
  slot : Slot
  stream : Int
deriving DecidableEq

namespace Attribute

def type (binding : Attribute) : ShaderType :=
  binding.slot.type

/-- The leaf that reads the attribute. -/
def leaf (binding : Attribute) : Leaf :=
  .vertexAttribute binding.slot binding.stream

/-- The display form of an attribute. -/
def display (binding : Attribute) : String :=
  "InputAttribute(slot=" ++ Enumeration.display binding.slot ++ ", geometry_index=" ++
    Int.repr binding.stream ++ ")"

/-- A fresh value that reads the attribute. -/
def read (binding : Attribute) : Build Value :=
  Value.ofLeaf binding.leaf binding.type

end Attribute

/-- One slot of the material table, with a value for each of its fields. -/
structure Channel where
  index : Nat
  texture : Value
  scale : Value
  offset : Value
  color : Value

namespace Channel

def create (index : Nat) : Build Channel := do
  let field (field : MaterialField) : Build Value := Value.ofLeaf (.material index field) field.type
  return ⟨index, ← field .texture, ← field .scale, ← field .offset, ← field .color⟩

/-- The value of a field of the channel. -/
def field (channel : Channel) : MaterialField → Value
  | .texture => channel.texture
  | .scale => channel.scale
  | .offset => channel.offset
  | .color => channel.color

/-- The display form of a channel. -/
def display (channel : Channel) : String :=
  "Channel(" ++ Nat.repr channel.index ++ ")"

end Channel

/-- The uniforms and material channels that a stage declares. -/
structure Resources where
  uniforms : Table Value
  channels : List Channel

/-- The type of a declaration of a kind; only a scalar leaves a choice. -/
def Kind.declaredType (kind : Kind) (component : ScalarType) : Except Error ShaderType :=
  match kind, kind.onlyType? with
  | .scalar, _ => .ok component.type
  | _, some type => .ok type
  | _, none => .error .noSingleType

/-- The kinds a uniform can have. -/
def uniformKinds : List Kind :=
  [.scalar, .vec2, .vec3, .vec4, .mat4]

def Value.uniformIndex (value : Value) : Int :=
  match value.source with
  | .leaf (.uniform index _) => index
  | _ => 0

namespace Resources

/-- A stage that declares nothing. -/
def empty : Resources := ⟨.empty, []⟩

/-- The uniform of a name, declared on the first request; later requests must ask for the same type. -/
def uniform (resources : Resources) (name : String) (kind : Kind) (component : ScalarType) :
    Build (Value × Resources) := do
  if kind ∈ uniformKinds then
    let type ← kind.declaredType component
    match resources.uniforms.get? name with
    | some existing =>
      if existing.type = type then return (existing, resources)
      else Build.violate (.uniformRedeclared name existing.type type)
    | none =>
      let value ← kind.wrap (.leaf (.uniform resources.uniforms.size type)) (some type)
      return (value, { resources with uniforms := resources.uniforms.insert name value })
  else
    Build.violate (.uniformKind kind)

/-- The uniforms in the order of their indices. -/
def uniformsByIndex (resources : Resources) : List Value :=
  resources.uniforms.values.mergeSort (fun a b => decide (a.uniformIndex ≤ b.uniformIndex))

/-- The channel of an index, created on the first request. -/
def channel (resources : Resources) (index : Int) : Build (Channel × Resources) := do
  if 0 ≤ index ∧ index < materialSlots then
    match resources.channels.find? (fun channel => channel.index == index.toNat) with
    | some channel => return (channel, resources)
    | none =>
      let channel ← Channel.create index.toNat
      return (channel, { resources with channels := resources.channels ++ [channel] })
  else
    throw ((Error.violation (.channelIndex index)).raised none)

/-- The channels in the order of their indices. -/
def channelsByIndex (resources : Resources) : List Channel :=
  resources.channels.mergeSort (fun a b => decide (a.index ≤ b.index))

end Resources

/-- The index of the instance being drawn. -/
def Value.instanceIndex : Build Value :=
  Value.ofLeaf .instanceIndex .int

/-- A letter or an underscore, followed by letters, digits and underscores, all of them ASCII. -/
def isIdentifier : List Char → Bool
  | [] => false
  | c :: rest => (c.isAlpha || c == '_') && rest.all (fun d => d.isAlphanum || d == '_')

/-- The names that can follow the interface mark: identifiers without a leading and without a doubled underscore. -/
def isInterfaceName (name : String) : Bool :=
  let chars := name.toList
  isIdentifier chars && !(chars.head? == some '_') && !occursIn ['_', '_'] chars

/-- A name for one side of the interface. -/
def acceptName (side : Side) (name : String) : Except Error Unit :=
  if isInterfaceName name then .ok () else .error (.violation (.invalidName side name))

/-- The document of a vertex stage. -/
structure VertexShader where
  resources : Resources
  position : Option Value
  pointSize : Option Value
  outputs : Table Value

namespace VertexShader

/-- A vertex stage that declares and writes nothing. -/
def empty : VertexShader := ⟨.empty, none, none, .empty⟩

/-- Write the clip-space position. -/
def setPosition (vertex : VertexShader) (value : Value) : Except Error VertexShader :=
  if value.type = .vec4 then .ok { vertex with position := some value }
  else .error (.violation (.positionType value.type))

def setPointSize (vertex : VertexShader) (value : Value) : Except Error VertexShader :=
  if value.type = .float then .ok { vertex with pointSize := some value }
  else .error (.violation (.pointSizeType value.type))

/-- Write a named output; its type is fixed by the first write. -/
def setOutput (vertex : VertexShader) (name : String) (value : Value) : Except Error VertexShader := do
  acceptName .output name
  let written := { vertex with outputs := vertex.outputs.insert name value }
  match vertex.outputs.get? name with
  | none => return written
  | some existing =>
    if existing.type = value.type then return written
    else throw (.violation (.outputRetyped name existing.type value.type))

def readOutput (vertex : VertexShader) (name : String) : Build Value :=
  match vertex.outputs.get? name with
  | some existing => Value.ofLeaf (.output (.named name)) existing.type
  | none => throw (.outputMissing name)

/-- The names and types of the named outputs. -/
def outputTypes (vertex : VertexShader) : List (String × ShaderType) :=
  vertex.outputs.entries.map (fun entry => (entry.1, entry.2.type))

/-- The outputs that are written, with their values: the position, the point size, then the named ones. -/
def writes (vertex : VertexShader) : List (Output × Value) :=
  (vertex.position.map (fun value => (Output.position, value))).toList ++
    (vertex.pointSize.map (fun value => (Output.pointSize, value))).toList ++
    vertex.outputs.entries.map (fun entry => (Output.named entry.1, entry.2))

end VertexShader

/-- Read the clip-space position back. -/
def Value.position : Build Value :=
  Value.ofLeaf (.output .position) .vec4

/-- Read the size of a point back. -/
def Value.pointSize : Build Value :=
  Value.ofLeaf (.output .pointSize) .float

def Value.matrix (matrix : Matrix) : Build Value :=
  Value.ofLeaf (.matrix matrix) .mat4

/-- The document of a fragment stage. -/
structure FragmentShader where
  resources : Resources
  inputs : Table Value
  color : Option Value

namespace FragmentShader

/-- A fragment stage that declares and writes nothing. -/
def empty : FragmentShader := ⟨.empty, .empty, none⟩

/-- The input of a name, declared on the first request; later requests must ask for the same type. -/
def input (fragment : FragmentShader) (name : String) (kind : Kind) (component : ScalarType) :
    Build (Value × FragmentShader) := do
  acceptName .input name
  let type ← kind.declaredType component
  match fragment.inputs.get? name with
  | some existing =>
    if existing.type = type then return (existing, fragment)
    else Build.violate (.inputRedeclared name existing.type type)
  | none =>
    let value ← kind.wrap (.leaf (.input name)) (some type)
    return (value, { fragment with inputs := fragment.inputs.insert name value })

def getInput (fragment : FragmentShader) (name : String) : Except Error Value :=
  match fragment.inputs.get? name with
  | some value => .ok value
  | none => .error (.inputMissing name)

/-- The names and types of the inputs. -/
def inputTypes (fragment : FragmentShader) : List (String × ShaderType) :=
  fragment.inputs.entries.map (fun entry => (entry.1, entry.2.type))

def setColor (fragment : FragmentShader) (value : Value) : Except Error FragmentShader :=
  if value.type = .vec4 then .ok { fragment with color := some value }
  else .error (.violation (.colorType value.type))

/-- The output that is written, with its value. -/
def writes (fragment : FragmentShader) : List (Output × Value) :=
  (fragment.color.map (fun value => (Output.color, value))).toList

end FragmentShader

def Value.color : Build Value :=
  Value.ofLeaf (.output .color) .vec4

/-- The document of a stage. -/
inductive Document where
  | vertex (vertex : VertexShader)
  | fragment (fragment : FragmentShader)

namespace Document

/-- The stage a document describes. -/
def stage : Document → Stage
  | .vertex _ => .vertex
  | .fragment _ => .fragment

def resources : Document → Resources
  | .vertex shader => shader.resources
  | .fragment shader => shader.resources

/-- The document with other resources. -/
def withResources (document : Document) (resources : Resources) : Document :=
  match document with
  | .vertex shader => .vertex { shader with resources := resources }
  | .fragment shader => .fragment { shader with resources := resources }

/-- The outputs that are written, with their values. -/
def writes : Document → List (Output × Value)
  | .vertex shader => shader.writes
  | .fragment shader => shader.writes

end Document

end Shading
