import Shading.Proofs.Walk

/-!
# Schedules by recursion

The plain way to order the statements of a stage is to recurse: an output is written after its value is computed, and a
node is declared after its operands are computed. The outputs that are being computed are then those on the path of the
recursion. The stack of the walk holds what the recursion would come back to, so the walk goes through the same steps:
it orders the same statements, or stops for the same reason (`Document.schedule_eq_computed`).
-/

namespace Shading

/-- How far a recursive computation has come: the nodes it has entered, the outputs it has assigned and the statements
it has emitted, in order. -/
structure Progress where
  entered : NumberSet
  assigned : List Output
  statements : List Statement

namespace Progress

/-- The progress before anything is computed. -/
def start : Progress := ⟨∅, [], []⟩

/-- The progress after a node is entered. -/
def enter (progress : Progress) (node : Nat) : Progress :=
  { progress with entered := progress.entered.insert node }

/-- The progress after the declaration of a value. -/
def declare (progress : Progress) (value : Value) : Progress :=
  { progress with statements := progress.statements ++ [.declare value] }

/-- The progress after the assignment of an output. -/
def assign (progress : Progress) (output : Output) (value : Value) : Progress :=
  { progress with
    assigned := output :: progress.assigned
    statements := progress.statements ++ [.assign output value] }

/-- The walk that has come as far as a computation inside the outputs of a path. -/
def walk (progress : Progress) (path : List Output) : Walk :=
  ⟨progress.entered, path, progress.assigned, progress.statements.reverse⟩

end Progress

namespace Document

/-- A source may be read in a document: a uniform is one of its own, a texture is read in the fragment stage, and any other
leaf belongs to the interface of the stage. -/
def permit (document : Document) : Source → Except Violation Unit
  | .leaf (.uniform index type) =>
    if ∃ entry ∈ document.resources.uniforms.entries, entry.2.source.uniform? = some (index, type) then .ok ()
    else .error (.foreignUniform index)
  | .leaf (.material _ .texture) => if document.stage = .vertex then .error .textureInVertex else .ok ()
  | .leaf leaf => if leaf.isAvailable document.stage then .ok () else .error (.unavailable leaf document.stage)
  | _ => .ok ()

private theorem checkSource_eq_permit (document : Document) (source : Source) :
    document.plan.checkSource source = document.permit source := by
  cases source with
  | leaf leaf =>
    cases leaf with
    | uniform index type =>
      have available : (Leaf.uniform index type).isAvailable document.plan.stage = true := by cases document <;> rfl
      simp only [Plan.checkSource, permit, available, if_true, mem_plan_uniforms]
    | material index field => cases field <;> cases document <;> rfl
    | _ => rfl
  | _ => rfl

/-- The work that the outputs off a path can still bring. A computation never comes back to an output on its path. -/
def reserveOff (document : Document) (path : List Output) : Nat :=
  (Progress.start.walk path).reserve document.writes

private theorem reserveOff_cons {document : Document} {path : List Output} {output : Output} {value : Value}
    (target : document.writes.lookup output = some value) (off : output ∉ path) :
    document.reserveOff (output :: path) + (2 * value.size + 1) ≤ document.reserveOff path :=
  Walk.reserve_begin (Progress.start.walk path) target List.not_mem_nil off

mutual

/-- Compute a value while the outputs of a path are being computed. A node is entered once, and declared after its
operands are computed; a component is computed with its parent, and an output that is read back is assigned first. -/
def compute (document : Document) (path : List Output) (value : Value) (progress : Progress) : Except Violation Progress := do
  document.permit value.source
  match value.source.node? with
  | some node =>
    if progress.entered.contains node then return progress
    else return (← document.computeAll path value.source.operands (progress.enter node)).declare value
  | none =>
    match _origin : value.source with
    | .component parent _ => document.compute path parent progress
    | .leaf (.output output) => document.computeOutput path output progress
    | _ => return progress
termination_by document.reserveOff path + 2 * value.size
decreasing_by
  · have size := value.size_eq
    omega
  · have size := value.size_eq
    rw [_origin, Source.operands, sizeOfAll] at size
    omega
  · have size := value.size_eq
    omega

/-- Compute values one after the other. -/
def computeAll (document : Document) (path : List Output) (values : List Value) (progress : Progress) :
    Except Violation Progress :=
  match values with
  | [] => return progress
  | value :: rest => do document.computeAll path rest (← document.compute path value progress)
termination_by document.reserveOff path + (2 * sizeOfAll values + 1)
decreasing_by
  · rw [sizeOfAll]
    omega
  · have size := value.size_eq
    rw [sizeOfAll]
    omega

/-- Assign an output, which must be written somewhere. It is passed over if it is assigned already, and must not wait
for itself; otherwise it is assigned after its value is computed. -/
def computeOutput (document : Document) (path : List Output) (output : Output) (progress : Progress) :
    Except Violation Progress :=
  match _target : document.writes.lookup output with
  | none => .error (.neverWritten output)
  | some value =>
    if output ∈ progress.assigned then return progress
    else if _waits : output ∈ path then .error (.selfDependent output)
    else return (← document.compute (output :: path) value progress).assign output value
termination_by document.reserveOff path
decreasing_by
  have taken := reserveOff_cons _target _waits
  omega

end

/-- The statements that a document asks for, computed output by output. -/
def computed (document : Document) : Except Violation (List Statement) := do
  let progress ← document.writes.foldlM (fun progress target => document.computeOutput [] target.1 progress) .start
  return progress.statements

/-- Doing some work comes to a result: the walk stops for the same reason, or goes on from there with the rest. -/
def ComesTo (document : Document) (path : List Output) (work : List Work) (progress : Progress)
    (result : Except Violation Progress) : Prop :=
  ∀ rest, document.plan.run (work ++ rest) (progress.walk path) = (do
    let next ← result
    document.plan.run rest (next.walk path))

variable {document : Document}

namespace ComesTo

variable {path : List Output} {progress : Progress} {work later : List Work}
  {result : Except Violation Progress}

theorem nil : document.ComesTo path [] progress (.ok progress) :=
  fun _ => rfl

/-- Work that is done in two parts comes to what the second part makes of the first. -/
theorem append {further : Progress → Except Violation Progress} (first : document.ComesTo path work progress result)
    (second : ∀ next, document.ComesTo path later next (further next)) :
    document.ComesTo path (work ++ later) progress (result >>= further) := by
  intro rest
  rw [List.append_assoc, first (later ++ rest), bind_assoc]
  cases result with
  | error cause => rfl
  | ok next => exact second next rest

theorem stop {item : Work} {cause : Violation} (stopped : document.plan.step (progress.walk path) item = .error cause) :
    document.ComesTo path [item] progress (.error cause) := by
  intro rest
  rw [List.singleton_append, Plan.run_cons, stopped]
  rfl

/-- An item comes to what the work that it leaves comes to. -/
theorem step {item : Work} {next : Progress}
    (stepped : document.plan.step (progress.walk path) item = .ok (work, next.walk path))
    (left : document.ComesTo path work next result) : document.ComesTo path [item] progress result := by
  intro rest
  rw [List.singleton_append, Plan.run_cons, stepped]
  exact left rest

theorem declare (value : Value) (progress : Progress) :
    document.ComesTo path [.declare value] progress (.ok (progress.declare value)) := by
  have emitted : (progress.walk path).declare value = (progress.declare value).walk path := by
    simp [Progress.walk, Progress.declare, Walk.declare]
  refine .step ?_ .nil
  rw [← emitted]
  rfl

/-- An output is assigned once its value is computed inside it. -/
theorem assign {output : Output} {value : Value} (target : document.writes.lookup output = some value)
    (unassigned : output ∉ progress.assigned) (off : output ∉ path)
    (inside : document.ComesTo (output :: path) [.visit value] progress result) :
    document.ComesTo path [.assign output] progress (do return (← result).assign output value) := by
  intro rest
  have begun : document.plan.step (progress.walk path) (.assign output) =
      .ok ([.visit value, .close output value], progress.walk (output :: path)) := by
    simp [Plan.step, Plan.assign, targets_plan, target, Progress.walk, unassigned, off, Walk.begin]
  have closed : ∀ next : Progress,
      (next.walk (output :: path)).close output value = (next.assign output value).walk path := by
    intro next
    simp [Progress.walk, Progress.assign, Walk.close]
  rw [List.singleton_append, Plan.run_cons, begun, bind_assoc]
  refine (inside (.close output value :: rest)).trans ?_
  cases result with
  | error cause => rfl
  | ok next =>
    change document.plan.run (.close output value :: rest) (next.walk (output :: path)) =
      document.plan.run rest ((next.assign output value).walk path)
    rw [Plan.run_cons, ← closed next]
    rfl

end ComesTo

private theorem comesTo_value {path : List Output} {value : Value} {progress : Progress}
    (operands : ∀ node, document.ComesTo path (value.source.operands.map .visit) (progress.enter node)
      (document.computeAll path value.source.operands (progress.enter node)))
    (component : ∀ parent letters, value.source = .component parent letters →
      document.ComesTo path [.visit parent] progress (document.compute path parent progress))
    (readBack : ∀ output, document.ComesTo path [.assign output] progress (document.computeOutput path output progress)) :
    document.ComesTo path [.visit value] progress (document.compute path value progress) := by
  rw [compute, ← checkSource_eq_permit]
  rcases document.plan.visit_cases (progress.walk path) value with ⟨work, next, stepped, steps⟩ | ⟨cause, stopped, stops⟩
  · obtain ⟨key, type, source⟩ := value
    cases steps with
    | @known _ node legal isNode entered =>
      have known : progress.entered.contains node = true := entered
      rw [legal, isNode]
      simp only [known, if_true]
      exact .step stepped .nil
    | @enter _ node legal isNode fresh =>
      have new : ¬ progress.entered.contains node = true := fresh
      rw [legal, isNode]
      simp only [new]
      exact .step (show document.plan.step (progress.walk path) (.visit _) = .ok (_, (progress.enter node).walk path) from
        stepped) ((operands node).append (.declare _))
    | @component _ parent letters legal origin =>
      obtain rfl : source = .component parent letters := origin
      exact .step stepped (component parent letters rfl)
    | @readBack _ output legal origin =>
      obtain rfl : source = .leaf (.output output) := origin
      rw [legal]
      exact .step stepped (readBack output)
    | @leaf _ leaf legal origin plain =>
      obtain rfl : source = .leaf leaf := origin
      rw [legal]
      cases leaf with
      | output output => exact absurd rfl (plain output)
      | _ => exact .step stepped .nil
  · cases stops with
    | illegal refused =>
      rw [refused]
      exact .stop stopped

private theorem computeOutput_of_target {path : List Output} {output : Output} {value : Value}
    (target : document.writes.lookup output = some value) (progress : Progress) :
    document.computeOutput path output progress =
      if output ∈ progress.assigned then .ok progress
      else if output ∈ path then .error (.selfDependent output)
      else do return (← document.compute (output :: path) value progress).assign output value := by
  rw [computeOutput]
  split
  · rename_i missing
    exact absurd (missing.symm.trans target) (by simp)
  · rename_i held found
    obtain rfl : held = value := Option.some.inj (found.symm.trans target)
    rfl

private theorem comesTo_compute (document : Document) :
    (∀ path value progress, document.ComesTo path [.visit value] progress (document.compute path value progress)) ∧
      (∀ path output progress,
        document.ComesTo path [.assign output] progress (document.computeOutput path output progress)) ∧
      ∀ path values progress,
        document.ComesTo path (values.map .visit) progress (document.computeAll path values progress) := by
  refine compute.mutual_induct document _ _ _ ?value ?unwritten ?assigned ?waiting ?unassigned ?none ?more
  case value =>
    intro path value progress operands component readBack
    exact comesTo_value operands component readBack
  case unwritten =>
    intro path output progress missing
    have refused : document.computeOutput path output progress = .error (.neverWritten output) := by
      rw [computeOutput]
      split
      · rfl
      · rename_i target
        exact absurd (missing.symm.trans target) (by simp)
    rw [refused]
    exact .stop (by simp [Plan.step, Plan.assign, targets_plan, missing])
  case assigned =>
    intro path output progress value target done
    rw [computeOutput_of_target target, if_pos done]
    exact .step (by simp [Plan.step, Plan.assign, targets_plan, target, Progress.walk, done]) .nil
  case waiting =>
    intro path output progress value target unassigned waits
    rw [computeOutput_of_target target, if_neg unassigned, if_pos waits]
    exact .stop (by simp [Plan.step, Plan.assign, targets_plan, target, Progress.walk, unassigned, waits])
  case unassigned =>
    intro path output progress value target unassigned off inside
    rw [computeOutput_of_target target, if_neg unassigned, if_neg off]
    exact .assign target unassigned off inside
  case none =>
    intro path progress
    rw [computeAll]
    exact .nil
  case more =>
    intro path progress value rest first others
    rw [computeAll]
    exact first.append others

private theorem comesTo_outputs (targets : List (Output × Value)) (progress : Progress) :
    document.ComesTo [] (targets.map (fun target => .assign target.1)) progress
      (targets.foldlM (fun progress target => document.computeOutput [] target.1 progress) progress) := by
  induction targets generalizing progress with
  | nil => exact .nil
  | cons target rest ih =>
    rw [List.foldlM_cons]
    exact (document.comesTo_compute.2.1 [] target.1 progress).append ih

/-- The schedule of a document is what the recursion computes: the same statements in the same order, or the same
reason why there are none. -/
theorem schedule_eq_computed (document : Document) : document.schedule = document.computed := by
  have walked := document.comesTo_outputs document.writes .start []
  rw [List.append_nil] at walked
  have start : Walk.start = Progress.start.walk [] := rfl
  rw [Document.schedule, Plan.schedule, targets_plan, computed, start, walked, bind_assoc]
  refine congrArg (_ >>= ·) (funext fun progress => ?_)
  rw [Plan.run]
  simp [Progress.walk, bind, Except.bind]

end Document

end Shading
