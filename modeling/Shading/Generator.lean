import Shading.Glsl.Stage
import Shading.Link

/-!
# Generating the sources of a program

A generator renders the two stages of a program in a dialect. What it keeps between its calls are the
temporaries of a stage, which are renewed for each stage and which a failure leaves behind.
-/

namespace Shading

open Glsl

/-- The supported targets. -/
inductive Target where
  | glslEs300
  | glslCore330
deriving DecidableEq

instance : Enumeration Target where
  title := "TargetType"
  members := [.glslEs300, .glslCore330]
  name
    | .glslEs300 => "GLSL_ES300"
    | .glslCore330 => "GLSL_CORE330"

namespace Target

/-- The target that is used when none is named. -/
def fallback : Target := .glslEs300

def dialect : Target → Dialect
  | .glslEs300 => .es300
  | .glslCore330 => .core330

end Target

/-- A generator for a dialect, with what it keeps between its calls, and with the number of values that it can show
inside each other, if that is limited. -/
structure Generator where
  dialect : Dialect
  branching : Branching
  temporaries : Temporaries
  levels : Option Nat

/-- The sources of both stages. -/
structure Sources where
  vertex : String
  fragment : String
deriving DecidableEq

/-- What a call of a generator leaves: its result, the temporaries after it, and what it logged before any error. -/
structure Outcome (α : Type) where
  result : Except Error α
  temporaries : Temporaries
  log : Log

namespace Generator

/-- A new generator for a dialect. -/
def ofDialect (dialect : Dialect) (levels : Option Nat := none) : Generator :=
  ⟨dialect, .ternary, .start none, levels⟩

/-- A result of the generator, with the error that arises in the place of an error that it cannot show. -/
def report {α : Type} (generator : Generator) (result : Except Error α) : Except Error α :=
  result.mapError (Error.raised generator.levels)

/-- The generator with its temporaries renewed for a stage. -/
def renew (generator : Generator) (stage : Option Stage) : Generator :=
  { generator with temporaries := .start stage }

/-- How many statements declare a temporary. -/
def declarationCount (statements : List Statement) : Nat :=
  statements.countP (fun statement => match statement with | .declare _ => true | .assign _ _ => false)

/-- What is logged about a schedule. -/
def scheduleLog (stage : Stage) (statements : List Statement) : Log :=
  let declared := declarationCount statements
  [⟨.debug, "Scheduled " ++ Nat.repr declared ++ " nodes and " ++
    Nat.repr (statements.length - declared) ++ " outputs for " ++ Enumeration.lowerName stage ++ " stage"⟩]

def body (generator : Generator) (document : Document) : Outcome String :=
  match document.schedule with
  | .error cause => ⟨generator.report (.error (.violation cause)), generator.temporaries, []⟩
  | .ok statements =>
    let (rendered, temporaries) := instructionsOf generator.branching generator.temporaries statements
    ⟨generator.report (rendered.map (bodyText document.stage)), temporaries, scheduleLog document.stage statements⟩

/-- The source of a stage from what stands before its body. -/
def source (generator : Generator) (document : Document) (title : String) (preamble : Except Error Preamble) :
    Outcome String :=
  match preamble with
  | .error error => ⟨.error error, generator.temporaries, []⟩
  | .ok preamble =>
    let main := generator.body document
    match main.result with
    | .error error => ⟨.error error, main.temporaries, main.log⟩
    | .ok text =>
      let listing := assemble (preamble.lines generator.dialect) text
      ⟨.ok listing.text, main.temporaries,
        main.log ++ [⟨.debug, title ++ " stage: " ++ Nat.repr listing.lines.length ++ " lines"⟩]⟩

/-- The source of a vertex stage. -/
def vertexSource (generator : Generator) (vertex : VertexShader) (attributes : List Attribute) : Outcome String :=
  generator.source (.vertex vertex) "Vertex" (vertexPreamble vertex attributes)

/-- The source of a fragment stage. -/
def fragmentSource (generator : Generator) (fragment : FragmentShader) : Outcome String :=
  generator.source (.fragment fragment) "Fragment" (fragmentPreamble fragment)

/-- The sources of both stages, once they are known to fit together. -/
def generate (generator : Generator) (vertex : VertexShader) (fragment : FragmentShader)
    (attributes : List Attribute) : Outcome Sources :=
  match checkLink vertex fragment attributes with
  | .error error => ⟨.error error, generator.temporaries, []⟩
  | .ok () =>
    let first := (generator.renew (some .vertex)).vertexSource vertex attributes
    let firstLog := ⟨.debug, "Generating vertex stage"⟩ :: first.log
    match first.result with
    | .error error => ⟨.error error, first.temporaries, firstLog⟩
    | .ok vertexText =>
      let second := (generator.renew (some .fragment)).fragmentSource fragment
      let log := firstLog ++ ⟨.debug, "Generating fragment stage"⟩ :: second.log
      match second.result with
      | .error error => ⟨.error error, second.temporaries, log⟩
      | .ok fragmentText => ⟨.ok ⟨vertexText, fragmentText⟩, .start none, log⟩

/-- The result of a body: the statements are ordered, then rendered. -/
theorem result_body (generator : Generator) (document : Document) :
    (generator.body document).result = generator.report (do
      let statements ← liftViolation document.schedule
      (instructionsOf generator.branching generator.temporaries statements).1.map (bodyText document.stage)) := by
  unfold body
  cases document.schedule <;> rfl

/-- The result of a stage, without what the generator keeps and logs. -/
theorem result_source (generator : Generator) (document : Document) (title : String)
    (preamble : Except Error Preamble) :
    (generator.source document title preamble).result = (do
      let found ← preamble
      let text ← (generator.body document).result
      return (assemble (found.lines generator.dialect) text).text) := by
  cases preamble with
  | error => rfl
  | ok found =>
    unfold source
    dsimp only
    cases (generator.body document).result <;> rfl

/-- The result of a program: the stages fit together, and each of them is rendered with new temporaries. -/
theorem result_generate (generator : Generator) (vertex : VertexShader) (fragment : FragmentShader)
    (attributes : List Attribute) :
    (generator.generate vertex fragment attributes).result = (do
      checkLink vertex fragment attributes
      let vertexText ← ((generator.renew (some .vertex)).vertexSource vertex attributes).result
      let fragmentText ← ((generator.renew (some .fragment)).fragmentSource fragment).result
      return ⟨vertexText, fragmentText⟩) := by
  unfold generate
  cases checkLink vertex fragment attributes with
  | error => rfl
  | ok =>
    dsimp only
    cases ((generator.renew (some .vertex)).vertexSource vertex attributes).result with
    | error => rfl
    | ok vertexText =>
      dsimp only
      cases ((generator.renew (some .fragment)).fragmentSource fragment).result <;> rfl

end Generator

end Shading
