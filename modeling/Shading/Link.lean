import Shading.Reach

/-!
# Linking two stages

A vertex stage, a fragment stage and an attribute list fit together when every input of the fragment stage is an
output of the vertex stage with the same type, no attribute is bound twice, and every attribute the vertex stage
reads is bound.
-/

namespace Shading

/-- The first input that the outputs do not provide with its type. -/
def checkInputs (outputs : List (String × ShaderType)) : List (String × ShaderType) → Except Error Unit
  | [] => .ok ()
  | (name, expected) :: rest =>
    match outputs.lookup name with
    | none => .error (.link ⟨name, some expected, none, .notProduced⟩)
    | some actual =>
      if actual = expected then checkInputs outputs rest
      else .error (.link ⟨name, some expected, some actual, .typeMismatch⟩)

/-- The name of an attribute in messages. -/
def Attribute.label (binding : Attribute) : String :=
  Enumeration.lowerName binding.slot ++ "[" ++ Int.repr binding.stream ++ "]"

/-- The refusal of an attribute for a reason. It names the attribute, so the stream has to be written. -/
def Attribute.refusal (binding : Attribute) (reason : LinkReason) : Error :=
  if Text.isWritable binding.stream then .link ⟨binding.label, some binding.type, none, reason⟩
  else .unshown .longNumeral

/-- The first attribute that an earlier entry of the list binds already. -/
def checkBindings (bound : List Attribute) : List Attribute → Except Error Unit
  | [] => .ok ()
  | binding :: rest =>
    if bound.contains binding then .error (binding.refusal .boundTwice)
    else checkBindings (binding :: bound) rest

/-- The attribute that a source reads. -/
def Source.vertexAttribute? : Source → Option Attribute
  | .leaf (.vertexAttribute slot stream) => some ⟨slot, stream⟩
  | _ => none

/-- The first attribute that is read without being bound. -/
def checkReads (bound : List Attribute) : List Source → Except Error Unit
  | [] => .ok ()
  | source :: rest =>
    match source.vertexAttribute? with
    | none => checkReads bound rest
    | some binding =>
      if bound.contains binding then checkReads bound rest
      else .error (binding.refusal .notBound)

/-- The first reason why two stages and an attribute list do not fit together. -/
def checkLink (vertex : VertexShader) (fragment : FragmentShader) (attributes : List Attribute) :
    Except Error Unit := do
  checkInputs vertex.outputTypes fragment.inputTypes
  checkBindings [] attributes
  checkReads attributes (Document.vertex vertex).reachable

end Shading
