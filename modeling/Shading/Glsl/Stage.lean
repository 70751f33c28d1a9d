import Shading.Glsl.Declaration
import Shading.Listing
import Shading.Schedule

/-!
# Sources of the stages

The instructions of a body from its statements, and the complete source of a stage from its preamble and its
body.
-/

namespace Shading.Glsl

/-- The instruction of a statement, and the temporaries after it. -/
def instructionOf (temporaries : Temporaries) (branching : Branching) : Statement → Except Error (Instruction × Temporaries)
  | .declare value => declarationOf temporaries branching value
  | .assign output value => do return (.assign (outputName output) (← temporaries.reference value), temporaries)

/-- The instructions of statements, and the temporaries that they leave behind even when one of them fails. -/
def instructionsOf (branching : Branching) (temporaries : Temporaries) :
    List Statement → Except Error (List Instruction) × Temporaries
  | [] => (.ok [], temporaries)
  | statement :: rest =>
    match instructionOf temporaries branching statement with
    | .error error => (.error error, temporaries)
    | .ok (instruction, next) =>
      match instructionsOf branching next rest with
      | (.error error, last) => (.error error, last)
      | (.ok instructions, last) => (.ok (instruction :: instructions), last)

/-- The instructions of statements one after the other, without the temporaries. -/
theorem instructionsOf_cons (branching : Branching) (temporaries : Temporaries) (statement : Statement)
    (rest : List Statement) :
    (instructionsOf branching temporaries (statement :: rest)).1 = (do
      let (instruction, next) ← instructionOf temporaries branching statement
      let instructions ← (instructionsOf branching next rest).1
      return instruction :: instructions) := by
  rw [instructionsOf]
  cases instructionOf temporaries branching statement with
  | error => rfl
  | ok rendered =>
    obtain ⟨instruction, next⟩ := rendered
    change _ = (do return instruction :: (← (instructionsOf branching next rest).1))
    dsimp only
    rcases instructionsOf branching next rest with ⟨_ | _, last⟩ <;> rfl

/-- The instructions that the body of a stage begins with: the vertex stage passes the index of the instance on. -/
def openingInstructions : Stage → List Instruction
  | .vertex => [.assign instanceName (.ofName "gl_InstanceID")]
  | .fragment => []

/-- The text of a body from the instructions of its statements, indented by one level. -/
def bodyText (stage : Stage) (instructions : List Instruction) : String :=
  ({ Listing.empty with level := 1 }.pushAll
    ((openingInstructions stage ++ instructions).map Instruction.text)).text

/-- The complete source from the lines before the body and the body itself. -/
def assemble (lines : List String) (body : String) : Listing :=
  let opened := (Listing.empty.pushAll lines).enter "void main()"
  let filled :=
    if body = "" then opened else { opened with written := (Text.lines body).reverse ++ opened.written }
  filled.leave

end Shading.Glsl
