import Shading.Display
import Shading.Exception

/-!
# Errors

Everything that can go wrong while a graph is built, linked and rendered, as causes with the data at fault. The
wording of each is in one place. A violated contract and a failed link are also logged. What is shown in the wording may
be more than can be shown; then this is the error in their place.
-/

namespace Shading

/-- The two sides of the interface between the stages. -/
inductive Side where
  | output
  | input
deriving DecidableEq

/-- The word for a side of the interface. -/
def Side.word : Side → String
  | .output => "output"
  | .input => "input"

/-- The ways in which a graph or a backend breaks its contract. -/
inductive Violation where
  | notApplicable (operator : Arithmetic) (lhs rhs : ShaderType)
  | notLogical (connective : Comparison) (lhs rhs : ShaderType)
  | notComparable (lhs rhs : ShaderType)
  | conditionType (type : ShaderType)
  | outcomesDiffer (success failure : ShaderType)
  | notSampled (texture coordinate : ShaderType)
  | notInterpolated (lhs rhs : ShaderType)
  | factorType (type : ShaderType)
  | unknownOperator (operator : Operator)
  | typeNeeded (kind : Kind)
  | typeRefused (kind : Kind) (type : ShaderType)
  | noKind (type : ShaderType)
  | unsupportedLiteral (value : Plain)
  | truncation (value : Double)
  | notCombined (type : ShaderType) (other : Plain)
  | noComponent (type : ShaderType) (letters : String)
  | scalarFromParts
  | samplerFromParts
  | notAPart (part whole : ShaderType)
  | partsMismatch (whole : ShaderType) (parts : List ShaderType)
  | uniformKind (kind : Kind)
  | uniformRedeclared (name : String) (declared requested : ShaderType)
  | channelIndex (index : Int)
  | invalidName (side : Side) (name : String)
  | positionType (type : ShaderType)
  | pointSizeType (type : ShaderType)
  | colorType (type : ShaderType)
  | outputRetyped (name : String) (declared assigned : ShaderType)
  | inputRedeclared (name : String) (declared requested : ShaderType)
  | declaredTwice (temporary : String)
  | noBranch (backend : String)
  | unavailable (leaf : Leaf) (stage : Stage)
  | foreignUniform (index : Int)
  | textureInVertex
  | neverWritten (output : Output)
  | selfDependent (output : Output)
  | undeclared (value : Value)
  | needsNoDeclaration (value : Value)
  | untypedOperation
  | namelessOperation
  | namelessConstruct
  | unknownSource (text : String)
  | noSpelling (value : Constant)
  | noSymbol (operator : Operator)
  | notPassed (leaf : Leaf) (type : ShaderType)

namespace Violation

def message : Violation → String
  | .notApplicable operator lhs rhs =>
    "Cannot apply " ++ Enumeration.lowerName operator ++ " to " ++ lhs.name ++ " and " ++ rhs.name
  | .notLogical connective lhs rhs =>
    "Logical " ++ Enumeration.lowerName connective ++ " needs BOOL operands, got " ++ lhs.name ++ " and " ++
      rhs.name
  | .notComparable lhs rhs => "Cannot compare " ++ lhs.name ++ " with " ++ rhs.name
  | .conditionType type => "Branch condition must be BOOL, got " ++ type.name
  | .outcomesDiffer success failure => "Branch outcomes differ: " ++ success.name ++ " and " ++ failure.name
  | .notSampled texture coordinate =>
    "Texture sampling needs TEXTURE2D and FLOAT2, got " ++ texture.name ++ " and " ++ coordinate.name
  | .notInterpolated lhs rhs => "Cannot interpolate between " ++ lhs.name ++ " and " ++ rhs.name
  | .factorType type => "Interpolation factor must be FLOAT1, got " ++ type.name
  | .unknownOperator operator => "Unknown operator: " ++ operator.display
  | .typeNeeded kind => kind.name ++ " needs an explicit value type"
  | .typeRefused kind type => kind.name ++ " cannot hold a " ++ type.name ++ " value"
  | .noKind type => "No value kind holds " ++ type.name
  | .unsupportedLiteral value => "Unsupported literal: " ++ value.display
  | .truncation value => "Cannot combine INT with float " ++ value.text ++ " without truncating it"
  | .notCombined type other => "Cannot combine " ++ type.name ++ " with " ++ other.typeName
  | .noComponent type letters => type.name ++ " has no component '" ++ letters ++ "'"
  | .scalarFromParts => "Scalars cannot be constructed from parts"
  | .samplerFromParts => "Samplers cannot be constructed from parts"
  | .notAPart part whole => part.name ++ " cannot be a component of " ++ whole.name
  | .partsMismatch whole parts =>
    "Cannot construct " ++ whole.name ++ " from [" ++
      ", ".intercalate (parts.map (fun part => Text.quote part.name)) ++ "]"
  | .uniformKind kind => "Custom uniforms cannot be of kind " ++ kind.name
  | .uniformRedeclared name declared requested =>
    "Uniform '" ++ name ++ "' is already declared as " ++ declared.name ++ ", cannot redeclare as " ++
      requested.name
  | .channelIndex index =>
    "Channel index " ++ Int.repr index ++ " outside 0.." ++ Nat.repr (materialSlots - 1)
  | .invalidName side name => "Invalid " ++ side.word ++ " name: " ++ Text.quote name
  | .positionType type => "Vertex position must be FLOAT4, got " ++ type.name
  | .pointSizeType type => "Point size must be FLOAT1, got " ++ type.name
  | .colorType type => "Fragment color must be FLOAT4, got " ++ type.name
  | .outputRetyped name declared assigned =>
    "Output '" ++ name ++ "' is already " ++ declared.name ++ ", cannot assign " ++ assigned.name
  | .inputRedeclared name declared requested =>
    "Input '" ++ name ++ "' is already declared as " ++ declared.name ++ ", cannot redeclare as " ++
      requested.name
  | .declaredTwice temporary => "Node declared twice as " ++ temporary
  | .noBranch backend => backend ++ " has no lowering for branch operations"
  | .unavailable leaf stage =>
    leaf.display ++ " is not available in " ++ Enumeration.lowerName stage ++ " stage"
  | .foreignUniform index => "Uniform u" ++ Int.repr index ++ " belongs to another document"
  | .textureInVertex => "Textures can only be sampled in fragment stage"
  | .neverWritten output => output.display ++ " is read but never written"
  | .selfDependent output => output.display ++ " depends on itself"
  | .undeclared value => value.display ++ " is used before it is declared"
  | .needsNoDeclaration value => value.display ++ " needs no declaration"
  | .untypedOperation => "operation has no type"
  | .namelessOperation => "OperationResult values have no name"
  | .namelessConstruct => "Construct values have no name"
  | .unknownSource text => "Unknown representation: " ++ Text.quote text
  | .noSpelling value => "Literal " ++ value.text ++ " has no GLSL spelling"
  | .noSymbol operator => operator.display ++ " has no infix symbol"
  | .notPassed leaf type => leaf.display ++ " cannot be passed between stages as " ++ type.name

/-- What keeps the wording of a violation from being put together. -/
def displayFault? (levels : Option Nat) : Violation → Option DisplayFault
  | .channelIndex index | .foreignUniform index => numeralFault? index
  | .unavailable leaf _ | .notPassed leaf _ => leaf.displayFault?
  | .undeclared value | .needsNoDeclaration value => value.displayFault? levels
  | .unknownOperator operator | .noSymbol operator => operator.displayFault? levels
  | _ => none

end Violation

/-- Why two stages and an attribute list do not fit together. -/
inductive LinkReason where
  | notProduced
  | typeMismatch
  | boundTwice
  | notBound
  /-- A reason that a caller states in its own words. -/
  | stated (text : String)
deriving DecidableEq

def LinkReason.text : LinkReason → String
  | .notProduced => "vertex stage does not produce it"
  | .typeMismatch => "type mismatch"
  | .boundTwice => "attribute bound more than once"
  | .notBound => "attribute is read but not bound"
  | .stated text => text

/-- A failed link: the variable at fault, the type the consumer needs and the type it gets. -/
structure LinkFailure where
  name : String
  expected : Option ShaderType
  actual : Option ShaderType
  reason : LinkReason
deriving DecidableEq

/-- The wording of a failed link; the type it gets is shown only beside the type it needs. -/
def LinkFailure.message (failure : LinkFailure) : String :=
  let types :=
    match failure.expected, failure.actual with
    | none, _ => ""
    | some expected, none => " (expected " ++ expected.name ++ ")"
    | some expected, some actual => " (expected " ++ expected.name ++ ", got " ++ actual.name ++ ")"
  "Link error for '" ++ failure.name ++ "': " ++ failure.reason.text ++ types

/-- Everything that can stop the building, linking or rendering of a program. -/
inductive Error where
  | violation (cause : Violation)
  | link (failure : LinkFailure)
  /-- A named output was read back before it was assigned. -/
  | outputMissing (name : String)
  /-- A named input was looked up before it was declared. -/
  | inputMissing (name : String)
  /-- A value was asked for something its kind does not offer. -/
  | noMember (kind : Kind) (member : String)
  /-- A kind without a single type was asked for it. -/
  | noSingleType
  /-- An integer rounds beyond the largest double. -/
  | intTooLarge
  | infinityToInt
  | nanToInt
  /-- A text that denotes no integer stands for one. -/
  | notAnInteger (text : String)
  /-- Something that is neither a number nor a text stands for an integer. -/
  | integerFrom (typeName : String)
  /-- Something that is no number stands for a double. -/
  | notANumber (typeName : String)
  /-- A text of too many digits stands for an integer. -/
  | longText (digits : Nat)
  /-- Something cannot be shown, in a source or in the wording of another error. -/
  | unshown (fault : DisplayFault)

namespace Error

def message : Error → String
  | .violation cause => cause.message
  | .link failure => failure.message
  | .outputMissing name => "Vertex output '" ++ name ++ "' has not been assigned"
  | .inputMissing name => name
  | .noMember kind member => "'" ++ kind.name ++ "' object has no attribute '" ++ member ++ "'"
  | .noSingleType => "not enough values to unpack (expected 1, got 0)"
  | .intTooLarge => "int too large to convert to float"
  | .infinityToInt => "cannot convert float infinity to integer"
  | .nanToInt => "cannot convert float NaN to integer"
  | .notAnInteger text =>
    "invalid literal for int() with base 10: " ++ String.ofList ((Text.quote text).toList.take 200)
  | .integerFrom typeName =>
    "int() argument must be a string, a bytes-like object or a real number, not '" ++ typeName ++ "'"
  | .notANumber typeName => "must be real number, not " ++ typeName
  | .longText digits =>
    "Exceeds the limit (4300 digits) for integer string conversion: value has " ++ Nat.repr digits ++
      " digits; use sys.set_int_max_str_digits() to increase the limit"
  | .unshown fault => fault.message

def exception : Error → ExceptionClass
  | .violation _ => .contractViolation
  | .link _ => .linkError
  | .outputMissing _ | .inputMissing _ => .keyError
  | .noMember _ _ => .attributeError
  | .noSingleType | .nanToInt | .notAnInteger _ | .longText _ | .unshown .longNumeral => .valueError
  | .integerFrom _ | .notANumber _ => .typeError
  | .intTooLarge | .infinityToInt => .overflowError
  | .unshown .tooDeep => .recursionError

/-- The error that arises in the place of an error where so many levels can be shown: a violation whose wording cannot be
put together gives way to the reason for this. -/
def raised (levels : Option Nat) : Error → Error
  | .violation cause =>
    match cause.displayFault? levels with
    | none => .violation cause
    | some fault => .unshown fault
  | error => error

theorem raised_of_shown {levels : Option Nat} {cause : Violation} (shown : cause.displayFault? levels = none) :
    (Error.violation cause).raised levels = .violation cause := by
  rw [raised, shown]

theorem raised_of_fault {levels : Option Nat} {cause : Violation} {fault : DisplayFault}
    (faulty : cause.displayFault? levels = some fault) : (Error.violation cause).raised levels = .unshown fault := by
  rw [raised, faulty]

end Error

/-- How much a log entry matters. -/
inductive Level where
  | debug
  | info
  | warning
  | error
deriving DecidableEq

def Level.name : Level → String
  | .debug => "DEBUG"
  | .info => "INFO"
  | .warning => "WARNING"
  | .error => "ERROR"

/-- One message written to the log. -/
structure Entry where
  level : Level
  message : String
deriving DecidableEq

/-- The messages of a run, in order. -/
abbrev Log := List Entry

/-- What an error writes to the log when it arises. -/
def Error.log : Error → Log
  | .violation cause => [⟨.error, cause.message⟩]
  | .link failure => [⟨.error, failure.message⟩]
  | _ => []

end Shading
