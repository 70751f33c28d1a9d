import Shading.Glsl.Instruction
import Shading.Glsl.Naming
import Shading.NumberSet

/-!
# Temporaries

A node is computed once into a temporary, and every use of it names that temporary. Temporaries are numbered in
the order of their declaration.
-/

namespace Shading.Glsl

/-- The name of the temporary of a number. -/
def temporary (index : Int) : String :=
  "t" ++ Int.repr index

/-- What the rendering of a stage keeps: the stage, and the numbers of the temporaries of nodes. What is no node counts as
one entry of its own. -/
structure Temporaries where
  stage : Option Stage
  numbers : Numbering

namespace Temporaries

/-- The temporaries of a stage before anything is declared: none. -/
def start (stage : Option Stage) : Temporaries := ⟨stage, ∅⟩

/-- How many temporaries there are, which is also the number of the next one. -/
def count (temporaries : Temporaries) : Nat :=
  temporaries.numbers.size

/-- The number of the temporary of a node. -/
def index? (temporaries : Temporaries) (node : Nat) : Option Nat :=
  temporaries.numbers[some node]?

/-- The names of the temporaries, in the order of their declaration. -/
def names (temporaries : Temporaries) : List String :=
  (List.range temporaries.count).map (fun (index : Nat) => temporary index)

/-- Give an entry the next temporary. -/
def declare (temporaries : Temporaries) (entry : Option Nat) : Except Violation (String × Temporaries) :=
  let name := temporary temporaries.count
  if temporaries.numbers.contains entry then .error (.declaredTwice name)
  else .ok (name, { temporaries with numbers := temporaries.numbers.insert entry temporaries.count })

mutual

/-- What stands for a value: the temporary of its node, or what stands for its source. -/
def reference (temporaries : Temporaries) : Value → Except Error Reference
  | .mk key type source =>
    match source.node? with
    | none => temporaries.sourceReference source
    | some node =>
      match temporaries.index? node with
      | some index => .ok (.ofName (temporary index))
      | none => .error (.violation (.undeclared (.mk key type source)))

/-- What stands for a source that is not computed by a node. -/
def sourceReference (temporaries : Temporaries) : Source → Except Error Reference
  | .leaf leaf => (leafName leaf).map Reference.ofName
  | .component parent letters => do return (← temporaries.reference parent).select letters
  | .construct _ _ _ => .error (.violation .namelessConstruct)
  | .arithmetic _ _ _ _ | .compare _ _ _ _ | .branch _ _ _ _ | .sample _ _ _ _ | .lerp _ _ _ _ =>
    .error (.violation .namelessOperation)

end

end Temporaries

end Shading.Glsl
