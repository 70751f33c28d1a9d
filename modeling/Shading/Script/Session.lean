import Shading.Script.Step

/-!
# Scripted sessions

A session holds the registers, documents and generators of a script. Every step answers with a reply or fails; a
failing step ends nothing, leaves the registers as they were, and leaves behind only what a generator keeps.
-/

namespace Shading.Script

/-- Why a step makes no sense in the session. -/
inductive Malformed where
  | noStep (name : String)
  | noRegister (name : String)
  | noDocument (name : String)
  | noGenerator (name : String)
  | noKind (name : String)
  | noMember (set name : String)
  | wrongStage (document : String)
  | wrongNode
  | noShaderOperand
  | badComponent
deriving DecidableEq

/-- The wording of a malformed step. -/
def Malformed.message : Malformed → String
  | .noStep name => "no step " ++ name
  | .noRegister name => "no register " ++ name
  | .noDocument name => "no document " ++ name
  | .noGenerator name => "no generator " ++ name
  | .noKind name => "no kind " ++ name
  | .noMember set name => "no " ++ set ++ " " ++ name
  | .wrongStage document => "wrong stage " ++ document
  | .wrongNode => "wrong node"
  | .noShaderOperand => "no shader operand"
  | .badComponent => "bad component"

/-- Why a step fails. -/
inductive Fault where
  | error (error : Error)
  | malformed (cause : Malformed)

namespace Fault

def message : Fault → String
  | .error cause => cause.message
  | .malformed cause => cause.message

/-- What a fault writes to the log when it arises. -/
def log : Fault → Log
  | .error cause => cause.log
  | .malformed _ => []

end Fault

/-- The name of a value's operator: the arithmetic operator itself, or the family of another one. -/
def operatorName : Operator → String
  | .arithmetic operator => Enumeration.name operator
  | .compare _ => "Compare"
  | .branch _ => "Branch"
  | .sample _ => "Sample2D"
  | .lerp _ => "Lerp"
  | .unknown text => text

/-- A value and the first register that holds it. -/
structure Held where
  value : Value
  register : Option String

/-- What a step answers. -/
inductive Reply where
  | nothing
  | flag (value : Bool)
  | text (text : String)
  | texts (texts : List String)
  | value (value : Value)
  | values (values : List Value)
  | namedValues (values : List (String × Value))
  | operation (operator : String) (result : ShaderType) (operands : List Held)
  | outputs (outputs : List (String × Held))
  | inputs (inputs : List (String × ShaderType))
  | writes (writes : List (Output × Held))
  | vertexAttribute (binding : Attribute)
  | dialect (dialect : Glsl.Dialect)
  | temporaries (stage : Option Stage) (temporaries : List String)
  | statements (statements : List (Statement × Option String))
  | sources (sources : Sources)

/-- The registers, documents and generators of a script, the next fresh number, the log of the current step, and the
number of values that can be shown inside each other, if that is limited. -/
structure Session where
  documents : Table Document
  generators : Table Generator
  registers : Table Value
  next : Nat
  log : Log
  levels : Option Nat

/-- A session has a vertex document `v`, a fragment document `f` and a generator `g`. -/
def Session.start (levels : Option Nat := none) : Session where
  documents := ⟨[("v", .vertex .empty), ("f", .fragment .empty)]⟩
  generators := ⟨[("g", .ofDialect .es300 levels)]⟩
  registers := .empty
  next := 0
  log := []
  levels := levels

/-- What a step does in a session; its effects stay when it fails. -/
abbrev Run := ExceptT Fault (StateM Session)

namespace Run

/-- Stop because the step makes no sense. -/
def malformed {α : Type} (cause : Malformed) : Run α :=
  throw (.malformed cause)

/-- What is found under a name, or a malformed step. -/
def found {α : Type} (entry : Option α) (otherwise : Malformed) : Run α :=
  match entry with
  | some value => return value
  | none => malformed otherwise

def register (name : String) : Run Value := do
  found ((← get).registers.get? name) (.noRegister name)

/-- The values in several registers. -/
def registers (names : List String) : Run (List Value) :=
  names.mapM register

def document (name : String) : Run Document := do
  found ((← get).documents.get? name) (.noDocument name)

/-- The vertex document of a name. -/
def vertexDocument (name : String) : Run VertexShader := do
  match ← document name with
  | .vertex shader => return shader
  | .fragment _ => malformed (.wrongStage name)

/-- The fragment document of a name. -/
def fragmentDocument (name : String) : Run FragmentShader := do
  match ← document name with
  | .fragment shader => return shader
  | .vertex _ => malformed (.wrongStage name)

def generator (name : String) : Run Generator := do
  found ((← get).generators.get? name) (.noGenerator name)

/-- The member of a closed set of a name. -/
def member (α : Type) [Enumeration α] (name : String) : Run α :=
  found (Enumeration.find? α name) (.noMember (Enumeration.title α) name)

/-- The member of a closed set, or the usual one when none is named. -/
def memberOr {α : Type} [Enumeration α] (usual : α) : Option String → Run α
  | none => return usual
  | some name => member α name

def kind (name : String) : Run Kind :=
  found (Kind.find? name) (.noKind name)

/-- Keep a document under a name. -/
def putDocument (name : String) (document : Document) : Run Unit :=
  modify (fun session => { session with documents := session.documents.insert name document })

/-- Keep a generator under a name. -/
def putGenerator (name : String) (generator : Generator) : Run Unit :=
  modify (fun session => { session with generators := session.generators.insert name generator })

def putRegister (name : String) (value : Value) : Run Unit :=
  modify (fun session => { session with registers := session.registers.insert name value })

def write (entries : Log) : Run Unit :=
  modify (fun session => { session with log := session.log ++ entries })

/-- The result of a computation that may fail. -/
def lift {α : Type} (result : Except Error α) : Run α :=
  match result with
  | .ok value => return value
  | .error error => throw (.error error)

/-- The result of a check of a contract. -/
def check {α : Type} (result : Except Violation α) : Run α :=
  lift (Glsl.liftViolation result)

/-- The result of a construction, with fresh numbers of the session. -/
def build {α : Type} (construction : Build α) : Run α := do
  let (value, next) ← lift (construction.run (← get).next)
  modify (fun session => { session with next := next })
  return value

/-- The first register that holds a value. -/
def holder (value : Value) : Run Held := do
  let entry := (← get).registers.entries.find? (fun entry => entry.2.key == value.key)
  return ⟨value, entry.map Prod.fst⟩

/-- The result of a call of a generator, which keeps its temporaries and writes its log even when it fails. -/
def call {α : Type} (name : String) (generator : Generator) (outcome : Outcome α) : Run α := do
  putGenerator name { generator with temporaries := outcome.temporaries }
  write outcome.log
  lift outcome.result

end Run

open Run

/-- The operand that an argument names. -/
def Argument.resolve : Argument → Run Operand
  | .register name => return .value (← Run.register name)
  | .plain value => return .plain value

/-- The source of a description. -/
def SourceSpec.resolve : SourceSpec → Run Source
  | .vertexAttribute slot stream => return .leaf (.vertexAttribute (← Run.member Slot slot) stream)
  | .output target => return .leaf (.output target)
  | .input name => return .leaf (.input name)
  | .instanceIndex => return .leaf .instanceIndex
  | .matrix which => return .leaf (.matrix (← Run.member Matrix which))
  | .uniform index type => return .leaf (.uniform index (← Run.member ShaderType type))
  | .literal value type => return .leaf (.literal value (← Run.member ShaderType type))
  | .material index field => return .leaf (.material index (← Run.member MaterialField field))
  | .component parent letters => return .component (← Run.register parent) letters
  | .construct type parts => do
    let type ← Run.member ShaderType type
    let parts ← Run.registers parts
    return .construct (← Run.build Build.fresh) type parts
  | .ofRegister name => return (← Run.register name).source
  | .unknown text => return .leaf (.unknown text)

/-- The operator of a description. -/
def OperatorSpec.resolve : OperatorSpec → Run Operator
  | .arithmetic name => return .arithmetic (← Run.member Arithmetic name)
  | .compare name => return .compare (← Run.member Comparison name)
  | .branch condition => return .branch (← Run.register condition)
  | .sample filter => return .sample (← Run.memberOr Filter.linear filter)
  | .lerp factor => return .lerp (← Run.register factor)
  | .unknown text => return .unknown text

/-- The attribute of a description. -/
def AttributeSpec.resolve (spec : AttributeSpec) : Run Attribute := do
  return ⟨← Run.member Slot spec.slot, spec.stream⟩

/-- The documents and attributes of a description. -/
def ProgramSpec.resolve (spec : ProgramSpec) : Run (VertexShader × FragmentShader × List Attribute) := do
  let vertex ← vertexDocument spec.vertex
  let fragment ← fragmentDocument spec.fragment
  let attributes ← spec.attributes.mapM AttributeSpec.resolve
  return (vertex, fragment, attributes)

/-- The generator of a description. -/
def GeneratorSpec.resolve : GeneratorSpec → Run Generator
  | .dialect name => return .ofDialect (← Run.member Glsl.Dialect name) (← get).levels
  | .target name => return .ofDialect (← Run.member Target name).dialect (← get).levels
  | .standard => return .ofDialect Target.fallback.dialect (← get).levels
  | .branchless =>
    return { Generator.ofDialect Target.fallback.dialect (← get).levels with
      branching := .refused "NoBranchGenerator" }

/-- Arithmetic on two operands, at least one of which is a shader value. -/
def arithmetic (operator : Arithmetic) : Operand → Operand → Run Value
  | .value lhs, rhs => build (lhs.arithmetic operator rhs)
  | .plain lhs, .value rhs => build (rhs.arithmeticFrom operator lhs)
  | .plain _, .plain _ => malformed .noShaderOperand

/-- Arithmetic with one operand, repeated. -/
def repeatArithmetic (operator : Arithmetic) (operand : Operand) : Nat → Value → Run Value
  | 0, value => return value
  | count + 1, value => do
    repeatArithmetic operator operand count (← build (value.arithmetic operator operand))

/-- A change of a document's uniforms or channels. -/
def withResources {α : Type} (name : String) (change : Resources → Build (α × Resources)) : Run α := do
  let document ← Run.document name
  let (result, resources) ← build (change document.resources)
  putDocument name (document.withResources resources)
  return result

/-- A change of a vertex document. -/
def withVertex (name register : String) (change : VertexShader → Value → Except Error VertexShader) :
    Run Reply := do
  let shader ← vertexDocument name
  let value ← Run.register register
  putDocument name (.vertex (← lift (change shader value)))
  return .nothing

/-- The schedule of a document, written to the log. -/
def scheduleOf (generator : Generator) (document : Document) : Run (List Statement) := do
  let statements ← lift (generator.report (Glsl.liftViolation document.schedule))
  write (Generator.scheduleLog document.stage statements)
  return statements

/-- A statement with the first register that holds its value. -/
def heldStatement (statement : Statement) : Run (Statement × Option String) := do
  match statement with
  | .declare value => return (statement, (← holder value).register)
  | .assign _ value => return (statement, (← holder value).register)

def Step.perform : Step → Run Reply
  | .literal value => return .value (← build (Value.literal value))
  | .arithmetic operator lhs rhs => do
    let lhs ← lhs.resolve
    let rhs ← rhs.resolve
    return .value (← Script.arithmetic operator lhs rhs)
  | .compare comparison lhs rhs => do
    let lhs ← Run.register lhs
    let rhs ← rhs.resolve
    return .value (← build (lhs.compare comparison rhs))
  | .lerp lhs rhs factor => do
    let lhs ← Run.register lhs
    let rhs ← Run.register rhs
    match ← factor.resolve with
    | .value factor => return .value (← build (lhs.lerp rhs factor))
    | .plain (.constant factor) => return .value (← build (lhs.lerpBy rhs factor))
    | .plain _ => malformed .noShaderOperand
  | .select condition success failure => do
    let condition ← Run.register condition
    let success ← Run.register success
    let failure ← Run.register failure
    return .value (← build (condition.select success failure))
  | .sample texture coordinate filter => do
    let texture ← Run.register texture
    let coordinate ← Run.register coordinate
    let filter ← memberOr Filter.linear filter
    return .value (← build (texture.sample coordinate filter))
  | .member value letters => do
    let value ← Run.register value
    match letters.toList with
    | [letter] =>
      if componentLetters.contains letter then return .value (← build (value.member letter))
      else malformed .badComponent
    | _ => malformed .badComponent
  | .component value letters => do
    let value ← Run.register value
    return .value (← build (value.component letters))
  | .construct kind parts => do
    let kind ← Run.kind kind
    let parts ← Run.registers parts
    return .value (← build (kind.construct parts))
  | .wrap kind source type => do
    let kind ← Run.kind kind
    let source ← source.resolve
    let type ← type.mapM (Run.member ShaderType)
    return .value (← build (kind.wrap source type))
  | .wrapAs source type => do
    let source ← source.resolve
    let type ← Run.member ShaderType type
    return .value (← build (Value.ofType source type))
  | .operate lhs operator rhs => do
    let lhs ← Run.register lhs
    let operator ← operator.resolve
    let rhs ← Run.register rhs
    return .value (← build (lhs.operate operator rhs))
  | .chain start operator operand count => do
    let start ← Run.register start
    let operand ← operand.resolve
    return .value (← repeatArithmetic operator operand count start)
  | .inspect value => do
    let value ← Run.register value
    match value.source.operation? with
    | none => return .nothing
    | some (lhs, operator, rhs) =>
      let result ← check (operator.result lhs.type rhs.type)
      return .operation (operatorName operator) result (← value.source.operands.mapM holder)
  | .display value => do
    let value ← Run.register value
    match value.displayFault? (← get).levels with
    | none => return .text value.display
    | some fault => throw (.error (.unshown fault))
  | .sameValue first second => do
    let first ← Run.register first
    let second ← Run.register second
    return .flag (first.key == second.key)
  | .sameSource first second => do
    let first ← Run.register first
    let second ← Run.register second
    return .flag (first.source.equals second.source)
  | .newDocument name stage => do
    let document : Document :=
      match stage with
      | .vertex => .vertex .empty
      | .fragment => .fragment .empty
    putDocument name document
    return .text (Enumeration.name stage)
  | .uniform document name kind scalar => do
    let _ ← Run.document document
    let kind ← match kind with
      | none => pure Kind.scalar
      | some kind => Run.kind kind
    let scalar ← memberOr ScalarType.float scalar
    return .value (← withResources document (fun resources => resources.uniform name kind scalar))
  | .uniforms document => return .namedValues (← Run.document document).resources.uniforms.entries
  | .uniformsByIndex document => return .values (← Run.document document).resources.uniformsByIndex
  | .channel document index field => do
    let channel ← withResources document (fun resources => resources.channel index)
    match field with
    | none => return .text channel.display
    | some field => return .value (channel.field field)
  | .channels document =>
    return .texts ((← Run.document document).resources.channelsByIndex.map Channel.display)
  | .instanceIndex document => do
    let _ ← Run.document document
    return .value (← build Value.instanceIndex)
  | .vertexAttribute document slot stream => do
    let _ ← vertexDocument document
    let slot ← Run.member Slot slot
    return .value (← build (Attribute.read ⟨slot, stream⟩))
  | .vertexInput document slot stream => do
    let _ ← vertexDocument document
    return .value (← build (Attribute.read ⟨slot, stream⟩))
  | .matrix document which => do
    let _ ← vertexDocument document
    return .value (← build (Value.matrix which))
  | .setPosition document value => withVertex document value VertexShader.setPosition
  | .setPointSize document value => withVertex document value VertexShader.setPointSize
  | .setColor document value => do
    let shader ← fragmentDocument document
    let value ← Run.register value
    putDocument document (.fragment (← lift (shader.setColor value)))
    return .nothing
  | .readPosition document => do
    let _ ← vertexDocument document
    return .value (← build Value.position)
  | .readPointSize document => do
    let _ ← vertexDocument document
    return .value (← build Value.pointSize)
  | .readColor document => do
    let _ ← fragmentDocument document
    return .value (← build Value.color)
  | .setOutput document name value =>
    withVertex document value (fun shader value => shader.setOutput name value)
  | .readOutput document name => do
    let shader ← vertexDocument document
    return .value (← build (shader.readOutput name))
  | .hasOutput document name => return .flag ((← vertexDocument document).outputs.contains name)
  | .outputs document => do
    let shader ← vertexDocument document
    return .outputs (← shader.outputs.entries.mapM (fun entry => return (entry.1, ← holder entry.2)))
  | .declareInput document name kind scalar => do
    let shader ← fragmentDocument document
    let kind ← Run.kind kind
    let scalar ← memberOr ScalarType.float scalar
    let (value, shader) ← build (shader.input name kind scalar)
    putDocument document (.fragment shader)
    return .value value
  | .getInput document name => do
    let shader ← fragmentDocument document
    return .value (← lift (shader.getInput name))
  | .hasInput document name => return .flag ((← fragmentDocument document).inputs.contains name)
  | .inputs document => return .inputs (← fragmentDocument document).inputTypes
  | .writes document => do
    let document ← Run.document document
    return .writes (← document.writes.mapM (fun entry => return (entry.1, ← holder entry.2)))
  | .describeAttribute binding => return .vertexAttribute (← binding.resolve)
  | .failLink name expected actual reason => do
    let expected ← expected.mapM (Run.member ShaderType)
    let actual ← actual.mapM (Run.member ShaderType)
    throw (.error (.link ⟨name, expected, actual, .stated reason⟩))
  | .newGenerator name choice => do
    let generator ← choice.resolve
    putGenerator name generator
    return .dialect generator.dialect
  | .spelling generator type => do
    let _ ← Run.generator generator
    let type ← Run.member ShaderType type
    return .text (← check (Glsl.spelling type))
  | .sourceName generator source => do
    let generator ← Run.generator generator
    let source ← source.resolve
    return .text (← lift (generator.report (generator.temporaries.sourceReference source))).text
  | .literalText generator value type => do
    let _ ← Run.generator generator
    let type ← Run.member ShaderType type
    return .text (← lift (Glsl.literalText value type))
  | .symbol generator operator => do
    let generator ← Run.generator generator
    let operator ← operator.resolve
    return .text (← lift (generator.report (Glsl.liftViolation (Glsl.symbol operator))))
  | .operationText generator value => do
    let generator ← Run.generator generator
    let value ← Run.register value
    match ← lift (generator.report
        (Glsl.operationExpression generator.temporaries generator.branching value.source)) with
    | some expression => return .text expression.text
    | none => malformed .wrongNode
  | .constructText generator value => do
    let generator ← Run.generator generator
    let value ← Run.register value
    match ← lift (generator.report (Glsl.constructExpression generator.temporaries value.source)) with
    | some expression => return .text expression.text
    | none => malformed .wrongNode
  | .reference generator value => do
    let generator ← Run.generator generator
    let value ← Run.register value
    return .text (← lift (generator.report (generator.temporaries.reference value))).text
  | .nameTemporary name value => do
    let generator ← Run.generator name
    let value ← Run.register value
    let (text, next) ← check (generator.temporaries.declare value.source.node?)
    putGenerator name { generator with temporaries := next }
    return .text text
  | .declaration name value => do
    let generator ← Run.generator name
    let value ← Run.register value
    let (instruction, next) ←
      lift (generator.report (Glsl.declarationOf generator.temporaries generator.branching value))
    putGenerator name { generator with temporaries := next }
    return .text instruction.text
  | .temporary generator index => do
    let _ ← Run.generator generator
    let _ ← lift (Glsl.numeral index)
    return .text (Glsl.temporary index)
  | .renew name stage => do
    let generator ← Run.generator name
    let stage ← stage.mapM (Run.member Stage)
    putGenerator name (generator.renew stage)
    return .nothing
  | .temporaries generator => do
    let generator ← Run.generator generator
    return .temporaries generator.temporaries.stage generator.temporaries.names
  | .schedule generator document => do
    let generator ← Run.generator generator
    let document ← Run.document document
    return .statements (← (← scheduleOf generator document).mapM heldStatement)
  | .reachable generator document => do
    let _ ← Run.generator generator
    let document ← Run.document document
    return .texts (document.reachable.map Source.brief)
  | .checkLink generator program => do
    let _ ← Run.generator generator
    let (vertex, fragment, attributes) ← program.resolve
    lift (Shading.checkLink vertex fragment attributes)
    return .nothing
  | .generate name program => do
    let generator ← Run.generator name
    let (vertex, fragment, attributes) ← program.resolve
    return .sources (← call name generator (generator.generate vertex fragment attributes))
  | .vertexSource name program => do
    let generator ← Run.generator name
    let (vertex, _, attributes) ← program.resolve
    return .text (← call name generator (generator.vertexSource vertex attributes))
  | .fragmentSource name program => do
    let generator ← Run.generator name
    let (_, fragment, _) ← program.resolve
    return .text (← call name generator (generator.fragmentSource fragment))
  | .body name document => do
    let generator ← Run.generator name
    let document ← Run.document document
    return .text (← call name generator (generator.body document))
  | .unknown name => malformed (.noStep name)

/-- The reply to a command, whose value is kept in its register. -/
def Command.perform (command : Command) : Run Reply := do
  let reply ← command.step.perform
  match command.register, reply with
  | some name, .value value => putRegister name value
  | _, _ => pure ()
  return reply

/-- What a command leaves: its reply or fault, what it logged, and the session after it. -/
structure Performed where
  result : Except Fault Reply
  log : Log
  session : Session

def Session.perform (session : Session) (command : Command) : Performed :=
  let (result, next) := (command.perform.run).run { session with log := [] }
  let faultLog :=
    match result with
    | .ok _ => []
    | .error fault => fault.log
  ⟨result, next.log ++ faultLog, next⟩

/-- Perform all commands, whatever becomes of each. -/
def Session.performAll (session : Session) : List Command → List Performed
  | [] => []
  | command :: rest =>
    let performed := session.perform command
    performed :: performed.session.performAll rest

/-- Perform commands up to the first fault. -/
def Session.performUntilFault (session : Session) : List Command → Except Fault Session × Log
  | [] => (.ok session, [])
  | command :: rest =>
    let performed := session.perform command
    match performed.result with
    | .error fault => (.error fault, performed.log)
    | .ok _ =>
      let (result, log) := performed.session.performUntilFault rest
      (result, performed.log ++ log)

end Shading.Script
