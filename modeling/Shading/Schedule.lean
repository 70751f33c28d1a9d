import Shading.Document
import Shading.NumberSet

/-!
# Ordering the statements of a stage

The body of a stage declares every node it needs and assigns every output. A node is declared after its
operands, and an output that is read back is assigned before the node that reads it. `Plan.run` walks the graph
with an explicit stack of work; it ends because the work left, and the outputs still to be opened, get less with
every step.
-/

namespace Shading

/-- One statement of a stage body. -/
inductive Statement where
  | declare (value : Value)
  | assign (output : Output) (value : Value)

/-- What a stage has to compute: the values of its outputs, with the uniforms it may read. -/
structure Plan where
  stage : Stage
  targets : List (Output × Value)
  uniforms : List (Int × ShaderType)

/-- The index and type of a uniform. -/
def Source.uniform? : Source → Option (Int × ShaderType)
  | .leaf (.uniform index type) => some (index, type)
  | _ => none

/-- What the document of a stage has to compute. -/
def Document.plan (document : Document) : Plan where
  stage := document.stage
  targets := document.writes
  uniforms := document.resources.uniformsByIndex.filterMap (fun value => value.source.uniform?)

/-- A leaf belongs to the interface of a stage, or to both. -/
def Leaf.isAvailable : Stage → Leaf → Bool
  | .vertex, .input _ | .vertex, .output .color => false
  | .fragment, .vertexAttribute _ _ | .fragment, .matrix _ => false
  | .fragment, .output .position | .fragment, .output .pointSize | .fragment, .output (.named _) => false
  | _, _ => true

/-- A source may be read in the planned stage. -/
def Plan.checkSource (plan : Plan) : Source → Except Violation Unit
  | .leaf leaf =>
    if leaf.isAvailable plan.stage then
      match leaf with
      | .uniform index type =>
        if (index, type) ∈ plan.uniforms then .ok () else .error (.foreignUniform index)
      | .material _ .texture => if plan.stage = .vertex then .error .textureInVertex else .ok ()
      | _ => .ok ()
    else .error (.unavailable leaf plan.stage)
  | _ => .ok ()

/-- An item of work. Closing an output emits its assignment once its value is computed. -/
inductive Work where
  | visit (value : Value)
  | declare (value : Value)
  | assign (output : Output)
  | close (output : Output) (value : Value)

/-- How far a walk has come: the nodes it has entered, the outputs it is computing and those it has assigned, and
the statements it has emitted, the newest first. -/
structure Walk where
  entered : NumberSet
  pending : List Output
  assigned : List Output
  emitted : List Statement

/-- The walk before its first step. -/
def Walk.start : Walk := ⟨∅, [], [], []⟩

/-- The walk after a node is entered. -/
def Walk.enter (walk : Walk) (node : Nat) : Walk :=
  { walk with entered := walk.entered.insert node }

/-- The walk after the computation of an output is begun. -/
def Walk.begin (walk : Walk) (output : Output) : Walk :=
  { walk with pending := output :: walk.pending }

/-- The walk after the declaration of a value is emitted. -/
def Walk.declare (walk : Walk) (value : Value) : Walk :=
  { walk with emitted := .declare value :: walk.emitted }

/-- The walk after the assignment of an output is emitted. -/
def Walk.close (walk : Walk) (output : Output) (value : Value) : Walk :=
  { walk with
    pending := walk.pending.erase output
    assigned := output :: walk.assigned
    emitted := .assign output value :: walk.emitted }

/-- Visit a value. A node that is met for the first time is declared after its operands are visited; a component leads to
its parent, and an output that is read back has to be assigned. -/
def Plan.visit (plan : Plan) (walk : Walk) (value : Value) : Except Violation (List Work × Walk) := do
  plan.checkSource value.source
  match value.source.node? with
  | some node =>
    if walk.entered.contains node then return ([], walk)
    else return (value.source.operands.map .visit ++ [.declare value], walk.enter node)
  | none =>
    match value.source with
    | .component parent _ => return ([.visit parent], walk)
    | .leaf (.output output) => return ([.assign output], walk)
    | _ => return ([], walk)

/-- See to the assignment of an output, which must be written somewhere and must not wait for itself. -/
def Plan.assign (plan : Plan) (walk : Walk) (output : Output) : Except Violation (List Work × Walk) :=
  match plan.targets.lookup output with
  | none => .error (.neverWritten output)
  | some value =>
    if output ∈ walk.assigned then .ok ([], walk)
    else if output ∈ walk.pending then .error (.selfDependent output)
    else .ok ([.visit value, .close output value], walk.begin output)

/-- One item of work: the work it leaves to be done first, and the walk after it. -/
def Plan.step (plan : Plan) (walk : Walk) : Work → Except Violation (List Work × Walk)
  | .visit value => plan.visit walk value
  | .declare value => .ok ([], walk.declare value)
  | .assign output => plan.assign walk output
  | .close output value => .ok ([], walk.close output value)

/-- An item of work counts more than the work it leaves. -/
def Work.weight : Work → Nat
  | .visit value => 2 * value.size
  | .declare _ | .assign _ | .close _ _ => 1

/-- The total of the work that waits. -/
def workWeight : List Work → Nat
  | [] => 0
  | item :: rest => item.weight + workWeight rest

/-- An output that the walk has neither begun nor finished. -/
def Walk.isUnopened (walk : Walk) (output : Output) : Bool :=
  !(decide (output ∈ walk.pending) || decide (output ∈ walk.assigned))

/-- The work that the unopened outputs still bring. -/
def Walk.reserve (walk : Walk) : List (Output × Value) → Nat
  | [] => 0
  | (output, value) :: rest =>
    (if walk.isUnopened output = true then 2 * value.size + 1 else 0) + walk.reserve rest

private theorem workWeight_append (first second : List Work) :
    workWeight (first ++ second) = workWeight first + workWeight second := by
  induction first with
  | nil => exact (Nat.zero_add _).symm
  | cons item rest ih =>
    rw [List.cons_append, workWeight, workWeight, ih, Nat.add_assoc]

private theorem workWeight_visits (values : List Value) :
    workWeight (values.map .visit) = 2 * sizeOfAll values := by
  induction values with
  | nil => rw [List.map_nil, workWeight, sizeOfAll]
  | cons value rest ih => rw [List.map_cons, workWeight, sizeOfAll, ih, Work.weight, Nat.mul_add]

private theorem Walk.reserve_mono (walk next : Walk) (targets : List (Output × Value))
    (fewer : ∀ output, next.isUnopened output = true → walk.isUnopened output = true) :
    next.reserve targets ≤ walk.reserve targets := by
  induction targets with
  | nil => exact Nat.le_refl _
  | cons target rest ih =>
    obtain ⟨output, value⟩ := target
    rw [Walk.reserve, Walk.reserve]
    by_cases after : next.isUnopened output = true
    · rw [if_pos after, if_pos (fewer output after)]
      exact Nat.add_le_add_left ih _
    · rw [if_neg after, Nat.zero_add]
      exact Nat.le_trans ih (Nat.le_add_left _ _)

private theorem Walk.reserve_open (walk next : Walk) {targets : List (Output × Value)} {output : Output} {value : Value}
    (target : targets.lookup output = some value)
    (fewer : ∀ other, next.isUnopened other = true → walk.isUnopened other = true)
    (unopened : walk.isUnopened output = true) (opened : next.isUnopened output = false) :
    next.reserve targets + (2 * value.size + 1) ≤ walk.reserve targets := by
  induction targets with
  | nil => simp at target
  | cons first rest ih =>
    obtain ⟨name, held⟩ := first
    rw [List.lookup_cons] at target
    rw [Walk.reserve, Walk.reserve]
    by_cases same : output = name
    · subst same
      rw [beq_self_eq_true] at target
      obtain rfl : held = value := Option.some.inj target
      have kept := Walk.reserve_mono walk next rest fewer
      rw [if_pos unopened, if_neg (by rw [opened]; exact Bool.false_ne_true)]
      omega
    · have differs : (output == name) = false := by simpa using same
      rw [differs] at target
      have less := ih target
      by_cases after : next.isUnopened name = true
      · rw [if_pos after, if_pos (fewer name after)]
        omega
      · rw [if_neg after]
        omega

private theorem Walk.reserve_enter (walk : Walk) (node : Nat) (targets : List (Output × Value)) :
    (walk.enter node).reserve targets ≤ walk.reserve targets :=
  Walk.reserve_mono walk (walk.enter node) targets (fun _ unopened => unopened)

private theorem Walk.reserve_declare (walk : Walk) (value : Value) (targets : List (Output × Value)) :
    (walk.declare value).reserve targets ≤ walk.reserve targets :=
  Walk.reserve_mono walk (walk.declare value) targets (fun _ unopened => unopened)

theorem Walk.isUnopened_iff (walk : Walk) (output : Output) :
    walk.isUnopened output = true ↔ output ∉ walk.pending ∧ output ∉ walk.assigned := by
  simp [Walk.isUnopened]

/-- Beginning an output leaves the others as they are. -/
theorem Walk.isUnopened_of_begin {walk : Walk} {output other : Output}
    (unopened : (walk.begin output).isUnopened other = true) : walk.isUnopened other = true := by
  rw [Walk.isUnopened_iff] at unopened ⊢
  exact ⟨fun waits => unopened.1 (List.mem_cons_of_mem _ waits), unopened.2⟩

/-- Closing an output opens none again. -/
theorem Walk.isUnopened_of_close {walk : Walk} {output other : Output} {value : Value}
    (unopened : (walk.close output value).isUnopened other = true) : walk.isUnopened other = true := by
  rw [Walk.isUnopened_iff] at unopened ⊢
  obtain ⟨idle, unassigned⟩ := unopened
  have different : other ≠ output := fun same => unassigned (same ▸ List.mem_cons_self)
  refine ⟨fun waits => idle ((List.mem_erase_of_ne different).2 waits), ?_⟩
  exact fun before => unassigned (List.mem_cons_of_mem _ before)

private theorem Walk.reserve_close (walk : Walk) (output : Output) (value : Value) (targets : List (Output × Value)) :
    (walk.close output value).reserve targets ≤ walk.reserve targets :=
  Walk.reserve_mono walk (walk.close output value) targets (fun _ unopened => Walk.isUnopened_of_close unopened)

/-- Beginning an output takes the work of its value out of the reserve. -/
theorem Walk.reserve_begin (walk : Walk) {targets : List (Output × Value)} {output : Output} {value : Value}
    (target : targets.lookup output = some value)
    (unassigned : output ∉ walk.assigned) (idle : output ∉ walk.pending) :
    (walk.begin output).reserve targets + (2 * value.size + 1) ≤ walk.reserve targets := by
  refine Walk.reserve_open walk (walk.begin output) target (fun _ unopened => Walk.isUnopened_of_begin unopened) ?_ ?_
  · rw [Walk.isUnopened_iff]
    exact ⟨idle, unassigned⟩
  · simp [Walk.isUnopened, Walk.begin]

private theorem Plan.visit_decreases {plan : Plan} {walk next : Walk} {value : Value} {pushed : List Work}
    (visited : plan.visit walk value = .ok (pushed, next)) :
    next.reserve plan.targets + workWeight pushed < walk.reserve plan.targets + 2 * value.size := by
  have size := value.size_eq
  simp only [Plan.visit, bind, Except.bind] at visited
  split at visited
  · exact nomatch visited
  · split at visited
    · rename_i node _
      split at visited
      · cases visited
        rw [workWeight]
        omega
      · cases visited
        have kept := Walk.reserve_enter walk node plan.targets
        rw [workWeight_append, workWeight_visits, workWeight, workWeight, Work.weight]
        omega
    · split at visited
      · rename_i parent letters origin
        cases visited
        rw [origin, Source.operands, sizeOfAll] at size
        rw [workWeight, workWeight, Work.weight]
        omega
      · cases visited
        rw [workWeight, workWeight, Work.weight]
        omega
      · cases visited
        rw [workWeight]
        omega

private theorem Plan.assign_decreases {plan : Plan} {walk next : Walk} {output : Output} {pushed : List Work}
    (seen : plan.assign walk output = .ok (pushed, next)) :
    next.reserve plan.targets + workWeight pushed < walk.reserve plan.targets + 1 := by
  rw [Plan.assign] at seen
  split at seen
  · exact nomatch seen
  · rename_i value target
    split at seen
    · cases seen
      rw [workWeight]
      omega
    · rename_i unassigned
      split at seen
      · exact nomatch seen
      · rename_i idle
        cases seen
        have taken := Walk.reserve_begin walk target unassigned idle
        rw [workWeight, workWeight, workWeight, Work.weight, Work.weight]
        omega

private theorem Plan.step_decreases {plan : Plan} {walk next : Walk} {item : Work} {pushed : List Work}
    (stepped : plan.step walk item = .ok (pushed, next)) :
    next.reserve plan.targets + workWeight pushed < walk.reserve plan.targets + item.weight := by
  cases item with
  | visit value => exact Plan.visit_decreases stepped
  | declare value =>
    cases stepped
    have kept := Walk.reserve_declare walk value plan.targets
    rw [workWeight, Work.weight]
    omega
  | assign output => exact Plan.assign_decreases stepped
  | close output value =>
    cases stepped
    have kept := Walk.reserve_close walk output value plan.targets
    rw [workWeight, Work.weight]
    omega

/-- The walk through all the work that waits. -/
def Plan.run (plan : Plan) (work : List Work) (walk : Walk) : Except Violation Walk :=
  match work with
  | [] => .ok walk
  | item :: rest =>
    match _stepped : plan.step walk item with
    | .error cause => .error cause
    | .ok (pushed, next) => plan.run (pushed ++ rest) next
termination_by walk.reserve plan.targets + workWeight work
decreasing_by
  have less := Plan.step_decreases _stepped
  rw [workWeight_append, workWeight]
  omega

/-- A walk does the first item of its work, then what that leaves, then the rest. -/
theorem Plan.run_cons (plan : Plan) (item : Work) (rest : List Work) (walk : Walk) :
    plan.run (item :: rest) walk = (do
      let left ← plan.step walk item
      plan.run (left.1 ++ rest) left.2) := by
  rw [Plan.run]
  split
  · rename_i stopped
    rw [stopped]
    rfl
  · rename_i stepped
    rw [stepped]
    rfl

/-- The statements that a plan asks for, in order. -/
def Plan.schedule (plan : Plan) : Except Violation (List Statement) := do
  let walk ← plan.run (plan.targets.map (fun target => .assign target.1)) .start
  return walk.emitted.reverse

/-- The statements of a stage body, in order. -/
def Document.schedule (document : Document) : Except Violation (List Statement) :=
  document.plan.schedule

end Shading
