import Shading.CommandLine
import Shading.Presentation
import Shading.Script.Session

/-!
# Program files

A program file offers builders by name. A builder runs a script and returns the two documents and the attribute
list of a program; the program is then generated for a target and presented in a format. Besides the builders it defines,
every program file has members of its own, and a call can name one of them in the place of a builder.
-/

namespace Shading

/-- Why a program cannot be loaded, built, generated or written. -/
inductive Failure where
  | fault (fault : Script.Fault)
  | notLoadable (path : String)
  /-- A file that should be a compiled program starts with other bytes. -/
  | notCompiled (name : String) (start : List UInt8)
  /-- A file cannot be used as native code. -/
  | notNative (path reason : String)
  | noBuilder (builder : String)
  | wrongResult (builder typeName : String)
  | notShaders (builder : String)
  | notAttributes
  | notIterable (typeName : String)
  /-- A member that needs arguments was called without any. -/
  | refused (message : String)
  /-- A failure that a program brings up itself. -/
  | raised (kind : ExceptionClass) (message : String)
  /-- A path holds a null character. -/
  | nullInPath
  | fileMissing
  | fileExists
  | notADirectory
  | isADirectory
  | nameTooLong

namespace Failure

/-- The wording of a failure; those of the file system have none. -/
def message : Failure → String
  | .fault cause => cause.message
  | .notLoadable path => "Could not load module from " ++ path
  | .notCompiled name start => "bad magic number in " ++ Text.quote name ++ ": " ++ Text.quoteBytes start
  | .notNative path reason => path ++ ": " ++ reason
  | .noBuilder builder => "No builder function '" ++ builder ++ "' found in the module"
  | .wrongResult builder typeName =>
    "'" ++ builder ++ "' must return (vertex, fragment, attributes), got " ++ typeName
  | .notShaders builder => "'" ++ builder ++ "' must return a vertex and fragment shader"
  | .notAttributes => "Attributes must be InputAttribute instances"
  | .notIterable typeName => "'" ++ typeName ++ "' object is not iterable"
  | .raised _ text | .refused text => text
  | .nullInPath => "embedded null byte"
  | .fileMissing | .fileExists | .notADirectory | .isADirectory | .nameTooLong => ""

def exception : Failure → ExceptionClass
  | .fault (.error error) => error.exception
  | .fault (.malformed _) => .defined
  | .notLoadable _ | .notCompiled _ _ | .notNative _ _ => .importError
  | .noBuilder _ | .wrongResult _ _ | .notShaders _ | .notAttributes | .nullInPath => .valueError
  | .notIterable _ | .refused _ => .typeError
  | .raised kind _ => kind
  | .fileMissing => .fileNotFoundError
  | .fileExists => .fileExistsError
  | .notADirectory => .notADirectoryError
  | .isADirectory => .isADirectoryError
  | .nameTooLong => .osError

/-- The classes of the failures that are reported in the log. -/
def reportedClasses : List ExceptionClass :=
  [.shaderGraphError, .valueError, .importError]

/-- A failure that is reported in the log; every other one ends the run. -/
def isReported (failure : Failure) : Bool :=
  failure.exception.isCaughtBy reportedClasses

/-- What a failure that a program brings up writes to the log when it arises. -/
def raisedLog : Failure → Log
  | .raised .contractViolation text => [⟨.error, text⟩]
  | _ => []

end Failure

/-- One item of what a builder returns. -/
inductive ReturnItem where
  | document (name : String)
  | attributes (attributes : List Script.AttributeSpec)
  /-- A list with something in it that is no attribute. -/
  | mixedList
  | nothing

/-- How a builder ends. -/
inductive Ending where
  | raises (failure : Failure)
  /-- It returns something of a type of its own. -/
  | other (typeName : String)
  | items (isTuple : Bool) (items : List ReturnItem)

/-- What a program file binds a name to. -/
inductive Builder where
  /-- A value of a type, which cannot be called. -/
  | constant (typeName : String)
  | function (script : List Script.Command) (ending : Ending)

/-- What a builder's item stands for in its session. -/
inductive Returned where
  | document (document : Document)
  | attributes (attributes : List Attribute)
  | mixedList
  | nothing

/-- The item in the session that the builder's script leaves. -/
def ReturnItem.resolve : ReturnItem → Script.Run Returned
  | .document name => return .document (← Script.Run.document name)
  | .attributes specs => return .attributes (← specs.mapM Script.AttributeSpec.resolve)
  | .mixedList => return .mixedList
  | .nothing => return .nothing

/-- The documents and the attribute list of a program. -/
structure Program where
  vertex : VertexShader
  fragment : FragmentShader
  attributes : List Attribute

/-- The program that a builder's items make up. -/
def Program.ofReturned (builder : String) : List Returned → Except Failure Program
  | [.document (.vertex vertex), .document (.fragment fragment), last] =>
    match last with
    | .attributes attributes => .ok ⟨vertex, fragment, attributes⟩
    | .mixedList => .error .notAttributes
    | .nothing => .error (.notIterable "NoneType")
    | .document (.vertex _) => .error (.notIterable "VertexShader")
    | .document (.fragment _) => .error (.notIterable "FragmentShader")
  | [_, _, _] => .error (.notShaders builder)
  | _ => .error (.wrongResult builder "tuple")

/-- The program that a builder ends with. -/
def Ending.program (builder : String) (session : Script.Session) : Ending → Except Failure Program
  | .raises failure => .error failure
  | .other typeName => .error (.wrongResult builder typeName)
  | .items isTuple returns =>
    match ((returns.mapM ReturnItem.resolve).run.run session).1 with
    | .error fault => .error (.fault fault)
    | .ok returned =>
      if isTuple then Program.ofReturned builder returned else .error (.wrongResult builder "list")

/-- The program of a builder, and what building it logs. -/
def Builder.program (levels : Option Nat) (name : String) : Builder → Except Failure Program × Log
  | .constant _ => (.error (.noBuilder name), [])
  | .function script ending =>
    match (Script.Session.start levels).performUntilFault script with
    | (.error fault, log) => (.error (.fault fault), log)
    | (.ok session, log) =>
      match ending.program name session with
      | .error failure => (.error failure, log ++ failure.raisedLog)
      | .ok program =>
        (.ok program,
          log ++ [⟨.info, "Built program with " ++ Nat.repr program.attributes.length ++ " vertex attributes"⟩])

/-- What a member gives when it is called without arguments. -/
inductive Member where
  /-- A value of a type, which is never a program. -/
  | gives (typeName : String)
  /-- A complaint about the missing arguments. -/
  | refuses (message : String)
  /-- Nothing, because the member cannot be called. -/
  | plain
deriving DecidableEq

namespace Member

/-- The members that a program file cannot define anew. -/
def fixed? : String → Option Member
  | "__class__" => some (.refuses "module() missing required argument 'name' (pos 1)")
  | "__dict__" => some .plain
  | _ => none

/-- The members that a program file has as long as it does not define them anew. -/
def inherited? : String → Option Member
  | "__annotations__" | "__builtins__" | "__cached__" | "__doc__" | "__file__" | "__loader__" | "__name__" | "__package__"
  | "__spec__" => some .plain
  | "__dir__" => some (.gives "list")
  | "__getstate__" => some (.gives "dict")
  | "__hash__" | "__sizeof__" => some (.gives "int")
  | "__init_subclass__" => some (.gives "NoneType")
  | "__repr__" | "__str__" => some (.gives "str")
  | "__subclasshook__" => some (.gives "NotImplementedType")
  | "__delattr__" | "__eq__" | "__ge__" | "__getattribute__" | "__gt__" | "__le__" | "__lt__" | "__ne__" =>
    some (.refuses "expected 1 argument, got 0")
  | "__setattr__" => some (.refuses " expected 2 arguments, got 0")
  | "__format__" => some (.refuses "__format__() takes exactly one argument (0 given)")
  | "__reduce_ex__" => some (.refuses "__reduce_ex__() takes exactly one argument (0 given)")
  | "__reduce__" => some (.refuses "cannot pickle 'module' object")
  | "__init__" => some (.refuses "module() missing required argument 'name' (pos 1)")
  | "__new__" => some (.refuses "module.__new__(): not enough arguments")
  | _ => none

/-- Why a member in the place of a builder makes no program. -/
def failure (name : String) : Member → Failure
  | .gives typeName => .wrongResult name typeName
  | .refuses message => .refused message
  | .plain => .noBuilder name

/-- The name under which a program file can define what is asked for names that it does not have. -/
def standIn : String := "__getattr__"

/-- Why a stand-in makes no program. It is asked with the name in question, which no builder takes. -/
def standInFailure : Builder → Failure
  | .constant typeName => .refused ("'" ++ typeName ++ "' object is not callable")
  | .function _ _ => .refused (standIn ++ "() takes 0 positional arguments but 1 was given")

end Member

/-- What a program file offers once it has been run: builders by name. -/
abbrev Offer := Table Builder

/-- A program file, by what running it comes to: builders, or a failure that it brings up. -/
inductive ProgramFile where
  | builders (builders : Offer)
  | broken (failure : Failure)

/-- The program that a builder of an offer makes, and what building it logs. A builder comes before a member of the same
name unless that one is fixed. -/
def Offer.program (levels : Option Nat) (offered : Offer) (builder : String) : Except Failure Program × Log :=
  match Member.fixed? builder, offered.get? builder, Member.inherited? builder, offered.get? Member.standIn with
  | some member, _, _, _ | none, none, some member, _ => (.error (member.failure builder), [])
  | none, some found, _, _ => found.program levels builder
  | none, none, none, some asked => (.error (Member.standInFailure asked), [])
  | none, none, none, none => (.error (.noBuilder builder), [])

/-- The machine that programs run on: how many values it can show inside each other, if that is limited, and what comes
of running a text as a program. -/
structure Host where
  levels : Option Nat
  run : String → Except Failure Offer

/-- How a program is generated: the file as messages name it, the target, the builder and the format. -/
structure Settings where
  file : String
  target : String
  builder : String
  format : String
deriving DecidableEq

def Options.settings (options : Options) (file : String) : Settings :=
  ⟨file, options.target, options.builder, options.format⟩

/-- The presented sources of a program at a time, and what presenting them logs. -/
def Settings.present (settings : Settings) (target : Target) (time : Int) (sources : Sources) : Sources × Log :=
  let origin (stage : String) : Origin := ⟨settings.file, Enumeration.name target, stage, time⟩
  let (vertex, vertexLog) := presentSource settings.format (origin "vertex") sources.vertex
  let (fragment, fragmentLog) := presentSource settings.format (origin "fragment") sources.fragment
  (⟨vertex, fragment⟩, vertexLog ++ fragmentLog)

/-- The presented sources of a loaded file at a time, and everything that is logged on the way. -/
def Settings.generate (settings : Settings) (levels : Option Nat) (time : Int) (loaded : Except Failure Offer) :
    Except Failure Sources × Log :=
  let (target, targetLog) := Target.ofName settings.target
  match loaded with
  | .error failure => (.error failure, targetLog ++ failure.raisedLog)
  | .ok offered =>
    match offered.program levels settings.builder with
    | (.error failure, log) => (.error failure, targetLog ++ log)
    | (.ok program, log) =>
      let outcome :=
        (Generator.ofDialect target.dialect levels).generate program.vertex program.fragment program.attributes
      let begun := targetLog ++ log ++
        ⟨.info, "Generating " ++ Enumeration.name target ++ " source for " ++ settings.file⟩ :: outcome.log
      match outcome.result with
      | .error error => (.error (.fault (.error error)), begun ++ error.log)
      | .ok sources =>
        let (presented, presentLog) := settings.present target time sources
        (.ok presented, begun ++ presentLog)

end Shading
