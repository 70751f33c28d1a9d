import Shading.Proofs.Dependence

/-!
# Invariants of the walk

What one step of the walk does is said once (`Plan.Steps`, `Plan.Stops`), and a run keeps whatever every step keeps
(`Plan.run_keeps`). The statements that a walk has emitted and those that its work still holds back are taken
together: a step adds at most one to them, and otherwise only moves one from the work to the emitted ones. Four
invariants are kept: the sets of the walk list these statements (`Tracked`), what waits above a statement is needed
for it (`Stacked`), everything that was ever to be visited is accounted for (`Complete`), and what a statement reads
is settled or waits above it (`Awaited`).
-/

namespace Shading

open Relation

namespace Plan

/-- An item of work is done: the work that it leaves and the walk after it. -/
inductive Steps (plan : Plan) (walk : Walk) : Work → List Work → Walk → Prop where
  | known {value : Value} {node : Nat} (legal : plan.checkSource value.source = .ok ())
      (isNode : value.source.node? = some node) (entered : walk.entered.contains node = true) :
      Steps plan walk (.visit value) [] walk
  | enter {value : Value} {node : Nat} (legal : plan.checkSource value.source = .ok ())
      (isNode : value.source.node? = some node) (fresh : ¬ walk.entered.contains node = true) :
      Steps plan walk (.visit value) (value.source.operands.map .visit ++ [.declare value]) (walk.enter node)
  | component {value parent : Value} {letters : String} (legal : plan.checkSource value.source = .ok ())
      (origin : value.source = .component parent letters) : Steps plan walk (.visit value) [.visit parent] walk
  | readBack {value : Value} {output : Output} (legal : plan.checkSource value.source = .ok ())
      (origin : value.source = .leaf (.output output)) : Steps plan walk (.visit value) [.assign output] walk
  | leaf {value : Value} {leaf : Leaf} (legal : plan.checkSource value.source = .ok ())
      (origin : value.source = .leaf leaf) (plain : ∀ output, leaf ≠ .output output) :
      Steps plan walk (.visit value) [] walk
  | declare {value : Value} : Steps plan walk (.declare value) [] (walk.declare value)
  | assigned {output : Output} {value : Value} (target : plan.targets.lookup output = some value)
      (done : output ∈ walk.assigned) : Steps plan walk (.assign output) [] walk
  | begin {output : Output} {value : Value} (target : plan.targets.lookup output = some value)
      (unassigned : output ∉ walk.assigned) (idle : output ∉ walk.pending) :
      Steps plan walk (.assign output) [.visit value, .close output value] (walk.begin output)
  | close {output : Output} {value : Value} : Steps plan walk (.close output value) [] (walk.close output value)

/-- An item of work cannot be done. -/
inductive Stops (plan : Plan) (walk : Walk) : Work → Violation → Prop where
  | illegal {value : Value} {cause : Violation} (refused : plan.checkSource value.source = .error cause) :
      Stops plan walk (.visit value) cause
  | unwritten {output : Output} (missing : plan.targets.lookup output = none) :
      Stops plan walk (.assign output) (.neverWritten output)
  | circular {output : Output} {value : Value} (target : plan.targets.lookup output = some value)
      (waits : output ∈ walk.pending) : Stops plan walk (.assign output) (.selfDependent output)

/-- A visit is one of five steps, or stops at a source that the stage must not read. -/
theorem visit_cases (plan : Plan) (walk : Walk) (value : Value) :
    (∃ pushed next, plan.visit walk value = .ok (pushed, next) ∧ plan.Steps walk (.visit value) pushed next) ∨
      ∃ cause, plan.visit walk value = .error cause ∧ plan.Stops walk (.visit value) cause := by
  cases legal : plan.checkSource value.source with
  | error cause => exact .inr ⟨cause, by simp [visit, bind, Except.bind, legal], .illegal legal⟩
  | ok _ =>
    left
    cases isNode : value.source.node? with
    | some node =>
      by_cases entered : walk.entered.contains node = true
      · exact ⟨_, _, by simp [visit, bind, Except.bind, legal, isNode, entered, pure, Except.pure],
          .known legal isNode entered⟩
      · exact ⟨_, _, by simp [visit, bind, Except.bind, legal, isNode, entered, pure, Except.pure],
          .enter legal isNode entered⟩
    | none =>
      cases origin : value.source with
      | component parent letters =>
        have checked := origin ▸ legal
        exact ⟨_, _, by simp [visit, bind, Except.bind, checked, origin, Source.node?, pure, Except.pure],
          .component legal origin⟩
      | leaf leaf =>
        have checked := origin ▸ legal
        cases leaf with
        | output output =>
          exact ⟨_, _, by simp [visit, bind, Except.bind, checked, origin, Source.node?, pure, Except.pure],
            .readBack legal origin⟩
        | _ =>
          exact ⟨_, _, by simp [visit, bind, Except.bind, checked, origin, Source.node?, pure, Except.pure],
            .leaf legal origin (by simp)⟩
      | _ => simp [origin, Source.node?] at isNode

private theorem assign_cases (plan : Plan) (walk : Walk) (output : Output) :
    (∃ pushed next, plan.assign walk output = .ok (pushed, next) ∧ plan.Steps walk (.assign output) pushed next) ∨
      ∃ cause, plan.assign walk output = .error cause ∧ plan.Stops walk (.assign output) cause := by
  cases target : plan.targets.lookup output with
  | none => exact .inr ⟨_, by simp [assign, target], .unwritten target⟩
  | some value =>
    by_cases done : output ∈ walk.assigned
    · exact .inl ⟨_, _, by simp [assign, target, done], .assigned target done⟩
    · by_cases waits : output ∈ walk.pending
      · exact .inr ⟨_, by simp [assign, target, done, waits], .circular target waits⟩
      · exact .inl ⟨_, _, by simp [assign, target, done, waits], .begin target done waits⟩

private theorem step_cases (plan : Plan) (walk : Walk) (item : Work) :
    (∃ pushed next, plan.step walk item = .ok (pushed, next) ∧ plan.Steps walk item pushed next) ∨
      ∃ cause, plan.step walk item = .error cause ∧ plan.Stops walk item cause := by
  cases item with
  | visit value => exact visit_cases plan walk value
  | declare value => exact .inl ⟨_, _, rfl, .declare⟩
  | assign output => exact assign_cases plan walk output
  | close output value => exact .inl ⟨_, _, rfl, .close⟩

theorem steps_of_ok {plan : Plan} {walk next : Walk} {item : Work} {pushed : List Work}
    (stepped : plan.step walk item = .ok (pushed, next)) : plan.Steps walk item pushed next := by
  rcases plan.step_cases walk item with ⟨_, _, same, steps⟩ | ⟨_, failed, _⟩
  · rw [stepped] at same
    cases same
    exact steps
  · exact nomatch stepped.symm.trans failed

theorem stops_of_error {plan : Plan} {walk : Walk} {item : Work} {cause : Violation}
    (stepped : plan.step walk item = .error cause) : plan.Stops walk item cause := by
  rcases plan.step_cases walk item with ⟨_, _, worked, _⟩ | ⟨_, same, stops⟩
  · exact nomatch stepped.symm.trans worked
  · rw [stepped] at same
    cases same
    exact stops

/-- How a run can end: with no work left, or at an item that cannot be done. -/
inductive Ends (plan : Plan) (Inv : List Work → Walk → Prop) : Except Violation Walk → Prop where
  | done {walk : Walk} (inv : Inv [] walk) : Ends plan Inv (.ok walk)
  | stopped {walk : Walk} {item : Work} {rest : List Work} {cause : Violation} (inv : Inv (item :: rest) walk)
      (stops : plan.Stops walk item cause) : Ends plan Inv (.error cause)

/-- What every step keeps holds where a run ends. -/
theorem run_keeps {plan : Plan} {Inv : List Work → Walk → Prop}
    (kept : ∀ {item : Work} {rest pushed : List Work} {walk next : Walk}, Inv (item :: rest) walk →
      plan.Steps walk item pushed next → Inv (pushed ++ rest) next)
    (work : List Work) (walk : Walk) (start : Inv work walk) : plan.Ends Inv (plan.run work walk) := by
  fun_induction plan.run work walk with
  | case1 walk => exact .done start
  | case2 walk item rest cause stepped => exact .stopped start (stops_of_error stepped)
  | case3 walk item rest pushed next stepped ih => exact ih (kept start (steps_of_ok stepped))

end Plan

/-- The node that a statement declares. -/
def Statement.node? : Statement → Option Nat
  | .declare value => value.source.node?
  | .assign _ _ => none

/-- The output that a statement writes. -/
def Statement.output? : Statement → Option Output
  | .declare _ => none
  | .assign output _ => some output

/-- The values that a statement names. -/
def Statement.reads : Statement → List Value
  | .declare value => value.source.operands
  | .assign _ value => [value]

/-- The nodes that statements declare. -/
def declaredNodes (statements : List Statement) : List Nat :=
  statements.filterMap Statement.node?

/-- The outputs that statements write. -/
def writtenOutputs (statements : List Statement) : List Output :=
  statements.filterMap Statement.output?

theorem mem_declaredNodes {statements : List Statement} {node : Nat} :
    node ∈ declaredNodes statements ↔ ∃ value, .declare value ∈ statements ∧ value.source.node? = some node := by
  rw [declaredNodes, List.mem_filterMap]
  constructor
  · rintro ⟨statement, member, isNode⟩
    cases statement with
    | declare value => exact ⟨value, member, isNode⟩
    | assign => exact nomatch isNode
  · rintro ⟨value, member, isNode⟩
    exact ⟨.declare value, member, isNode⟩

theorem mem_writtenOutputs {statements : List Statement} {output : Output} :
    output ∈ writtenOutputs statements ↔ ∃ value, .assign output value ∈ statements := by
  rw [writtenOutputs, List.mem_filterMap]
  constructor
  · rintro ⟨statement, member, writes⟩
    cases statement with
    | declare => exact nomatch writes
    | assign other value =>
      obtain rfl : other = output := Option.some.inj writes
      exact ⟨value, member⟩
  · rintro ⟨value, member⟩
    exact ⟨.assign output value, member, rfl⟩

theorem declaredNodes_declare {value : Value} {node : Nat} (isNode : value.source.node? = some node)
    (statements : List Statement) : declaredNodes (.declare value :: statements) = node :: declaredNodes statements :=
  List.filterMap_cons_some isNode

@[simp] theorem declaredNodes_assign (output : Output) (value : Value) (statements : List Statement) :
    declaredNodes (.assign output value :: statements) = declaredNodes statements := rfl

@[simp] theorem writtenOutputs_assign (output : Output) (value : Value) (statements : List Statement) :
    writtenOutputs (.assign output value :: statements) = output :: writtenOutputs statements := rfl

/-- The statement that an item of work ends in. -/
def Work.statement? : Work → Option Statement
  | .declare value => some (.declare value)
  | .close output value => some (.assign output value)
  | .visit _ | .assign _ => none

/-- The statements of a walk: those that its work holds back, and those that it has emitted. -/
def statementsOf (work : List Work) (walk : Walk) : List Statement :=
  work.filterMap Work.statement? ++ walk.emitted

@[simp] theorem statementsOf_visit (value : Value) (rest : List Work) (walk : Walk) :
    statementsOf (.visit value :: rest) walk = statementsOf rest walk := rfl

@[simp] theorem statementsOf_assign (output : Output) (rest : List Work) (walk : Walk) :
    statementsOf (.assign output :: rest) walk = statementsOf rest walk := rfl

@[simp] theorem statementsOf_declare (value : Value) (rest : List Work) (walk : Walk) :
    statementsOf (.declare value :: rest) walk = .declare value :: statementsOf rest walk := rfl

@[simp] theorem statementsOf_close (output : Output) (value : Value) (rest : List Work) (walk : Walk) :
    statementsOf (.close output value :: rest) walk = .assign output value :: statementsOf rest walk := rfl

@[simp] theorem statementsOf_enter (node : Nat) (work : List Work) (walk : Walk) :
    statementsOf work (walk.enter node) = statementsOf work walk := rfl

@[simp] theorem statementsOf_begin (output : Output) (work : List Work) (walk : Walk) :
    statementsOf work (walk.begin output) = statementsOf work walk := rfl

@[simp] theorem statementsOf_visits (values : List Value) (rest : List Work) (walk : Walk) :
    statementsOf (values.map .visit ++ rest) walk = statementsOf rest walk := by
  induction values with
  | nil => rfl
  | cons value values ih => exact ih

/-- A step adds at most one statement; a statement that is emitted was held back before. -/
theorem Plan.Steps.statements {plan : Plan} {walk next : Walk} {item : Work} {pushed : List Work}
    (steps : plan.Steps walk item pushed next) (rest : List Work) :
    ∃ added, (statementsOf (pushed ++ rest) next).Perm (added ++ statementsOf (item :: rest) walk) := by
  cases steps with
  | known | component | readBack | leaf | assigned => exact ⟨[], .refl _⟩
  | @enter value => exact ⟨[.declare value], by simp⟩
  | @begin output value => exact ⟨[.assign output value], by simp⟩
  | declare | close => exact ⟨[], List.perm_middle⟩

private theorem Plan.Steps.mem_statements {plan : Plan} {walk next : Walk} {item : Work} {pushed rest : List Work}
    {statement : Statement} (steps : plan.Steps walk item pushed next)
    (member : statement ∈ statementsOf (item :: rest) walk) : statement ∈ statementsOf (pushed ++ rest) next := by
  obtain ⟨added, same⟩ := steps.statements rest
  exact same.mem_iff.2 (List.mem_append_right _ member)

/-- What a statement of a plan can be: it declares a node that is needed, or writes an output from its value. -/
def Statement.Fits (plan : Plan) : Statement → Prop
  | .declare value => plan.Reached value ∧ ∃ node, value.source.node? = some node
  | .assign output value => plan.targets.lookup output = some value

/-- Why an item of work is there: a value is needed, and an output is written or is read back by such a value. -/
def Work.Due (plan : Plan) : Work → Prop
  | .visit value => plan.Reached value
  | .assign output =>
    (∃ value, plan.targets.lookup output = some value) ∨
      ∃ value, plan.Reached value ∧ value.source = .leaf (.output output)
  | .declare _ | .close _ _ => True

/-- The sets of a walk list its statements, each node and each output once, and only what is needed is seen to. -/
structure Tracked (plan : Plan) (work : List Work) (walk : Walk) : Prop where
  entered : ∀ node, walk.entered.contains node = true ↔ node ∈ declaredNodes (statementsOf work walk)
  pending : walk.pending = writtenOutputs (work.filterMap Work.statement?)
  assigned : walk.assigned = writtenOutputs walk.emitted
  nodesOnce : (declaredNodes (statementsOf work walk)).Nodup
  outputsOnce : (writtenOutputs (statementsOf work walk)).Nodup
  fits : ∀ statement ∈ statementsOf work walk, statement.Fits plan
  due : ∀ item ∈ work, item.Due plan

namespace Tracked

variable {plan : Plan} {walk next : Walk} {work rest pushed : List Work} {item : Work}

private theorem mem_outputs (tracked : Tracked plan work walk) (output : Output) :
    output ∈ writtenOutputs (statementsOf work walk) ↔ output ∈ walk.pending ∨ output ∈ walk.assigned := by
  rw [tracked.pending, tracked.assigned, statementsOf, writtenOutputs, List.filterMap_append, List.mem_append]
  rfl

private theorem emit {statement : Statement} (tracked : Tracked plan (item :: rest) walk)
    (holds : item.statement? = some statement) (emitted : next.emitted = statement :: walk.emitted)
    (entered : next.entered = walk.entered)
    (pending : next.pending = writtenOutputs (rest.filterMap Work.statement?))
    (assigned : next.assigned = writtenOutputs next.emitted) : Tracked plan rest next := by
  have same : (statementsOf rest next).Perm (statementsOf (item :: rest) walk) := by
    rw [statementsOf, emitted, statementsOf, List.filterMap_cons_some holds]
    exact List.perm_middle
  refine ⟨?_, pending, assigned, ?_, ?_, ?_, ?_⟩
  · intro node
    rw [entered]
    exact (tracked.entered node).trans (same.filterMap _).mem_iff.symm
  · exact (same.filterMap _).nodup_iff.2 tracked.nodesOnce
  · exact (same.filterMap _).nodup_iff.2 tracked.outputsOnce
  · exact fun statement member => tracked.fits statement (same.mem_iff.1 member)
  · exact fun item member => tracked.due item (List.mem_cons_of_mem _ member)

theorem enter {value : Value} {node : Nat} (tracked : Tracked plan (.visit value :: rest) walk)
    (isNode : value.source.node? = some node) (fresh : ¬ walk.entered.contains node = true) :
    Tracked plan (value.source.operands.map .visit ++ [.declare value] ++ rest) (walk.enter node) := by
  have reached : plan.Reached value := tracked.due (.visit value) List.mem_cons_self
  have unlisted := fun member => fresh ((tracked.entered node).2 member)
  have statements : statementsOf (value.source.operands.map .visit ++ [.declare value] ++ rest) (walk.enter node) =
      .declare value :: statementsOf rest walk := by simp
  refine ⟨?_, ?_, tracked.assigned, ?_, ?_, ?_, ?_⟩
  · intro other
    have listed := tracked.entered other
    rw [statements, declaredNodes_declare isNode, List.mem_cons, Walk.enter, NumberSet.contains_insert, listed,
      eq_comm]
    rfl
  · have visits : (value.source.operands.map Work.visit).filterMap Work.statement? = [] := by simp [Work.statement?]
    rw [List.append_assoc, List.filterMap_append, visits]
    exact tracked.pending
  · rw [statements, declaredNodes_declare isNode, List.nodup_cons]
    exact ⟨unlisted, tracked.nodesOnce⟩
  · rw [statements]
    exact tracked.outputsOnce
  · rw [statements]
    intro statement member
    rcases List.mem_cons.1 member with rfl | old
    · exact ⟨reached, node, isNode⟩
    · exact tracked.fits statement old
  · intro other member
    simp only [List.mem_append, List.mem_map, List.mem_cons] at member
    rcases member with (⟨operand, read, rfl⟩ | rfl | empty) | old
    · exact reached.operand read
    · trivial
    · exact nomatch empty
    · exact tracked.due other (List.mem_cons_of_mem _ old)

theorem begin {output : Output} {value : Value} (tracked : Tracked plan (.assign output :: rest) walk)
    (target : plan.targets.lookup output = some value) (unassigned : output ∉ walk.assigned)
    (idle : output ∉ walk.pending) :
    Tracked plan (.visit value :: .close output value :: rest) (walk.begin output) := by
  refine ⟨tracked.entered, ?_, tracked.assigned, tracked.nodesOnce, ?_, ?_, ?_⟩
  · rw [Walk.begin, tracked.pending]
    rfl
  · rw [statementsOf_visit, statementsOf_close, writtenOutputs_assign, List.nodup_cons]
    exact ⟨fun member => ((tracked.mem_outputs output).1 member).elim idle unassigned, tracked.outputsOnce⟩
  · intro statement member
    rcases List.mem_cons.1 member with rfl | old
    · exact target
    · exact tracked.fits statement old
  · intro other member
    rcases List.mem_cons.1 member with rfl | later
    · exact Plan.reached_target target
    · rcases List.mem_cons.1 later with rfl | old
      · trivial
      · exact tracked.due other (List.mem_cons_of_mem _ old)

/-- A step that only turns to other values keeps the sets. -/
theorem turn (tracked : Tracked plan (item :: rest) walk) (holds : item.statement? = none)
    (plain : pushed.filterMap Work.statement? = []) (due : ∀ item ∈ pushed, item.Due plan) :
    Tracked plan (pushed ++ rest) walk := by
  have same : statementsOf (pushed ++ rest) walk = statementsOf (item :: rest) walk := by
    rw [statementsOf, List.filterMap_append, plain, statementsOf, List.filterMap_cons_none holds, List.nil_append]
  refine ⟨?_, ?_, tracked.assigned, ?_, ?_, ?_, ?_⟩
  · rw [same]
    exact tracked.entered
  · rw [List.filterMap_append, plain, List.nil_append, tracked.pending, List.filterMap_cons_none holds]
  · rw [same]
    exact tracked.nodesOnce
  · rw [same]
    exact tracked.outputsOnce
  · rw [same]
    exact tracked.fits
  · intro item member
    rcases List.mem_append.1 member with new | old
    · exact due item new
    · exact tracked.due item (List.mem_cons_of_mem _ old)

theorem step (tracked : Tracked plan (item :: rest) walk) (steps : plan.Steps walk item pushed next) :
    Tracked plan (pushed ++ rest) next := by
  cases steps with
  | known | leaf | assigned => exact tracked.turn rfl rfl (by simp)
  | enter _ isNode fresh => exact tracked.enter isNode fresh
  | @component value parent _ _ origin =>
    refine tracked.turn rfl rfl ?_
    have reached : plan.Reached value := tracked.due (.visit value) List.mem_cons_self
    intro item member
    obtain rfl := List.mem_singleton.1 member
    exact reached.operand (by simp [origin, Source.operands])
  | @readBack value output _ origin =>
    refine tracked.turn rfl rfl ?_
    intro item member
    obtain rfl := List.mem_singleton.1 member
    exact .inr ⟨value, tracked.due (.visit value) List.mem_cons_self, origin⟩
  | declare => exact tracked.emit rfl rfl rfl tracked.pending tracked.assigned
  | begin target unassigned idle => exact tracked.begin target unassigned idle
  | @close output value =>
    have pending : walk.pending = output :: writtenOutputs (rest.filterMap Work.statement?) := tracked.pending
    refine tracked.emit rfl rfl rfl ?_ ?_
    · rw [Walk.close, pending, List.erase_cons_head]
    · rw [Walk.close, tracked.assigned]
      rfl

end Tracked

/-- The source that an item of work is about. -/
def Work.source : Work → Source
  | .visit value | .declare value => value.source
  | .assign output | .close output _ => .leaf (.output output)

/-- Whatever waits above a statement is needed for it. -/
def Stacked (plan : Plan) (work : List Work) : Prop :=
  work.Pairwise (fun above below => below.statement? ≠ none → TransGen plan.Needs below.source above.source)

/-- What a step leaves is about the same source, or about one that it needs. -/
theorem Plan.Steps.source {plan : Plan} {walk next : Walk} {item left : Work} {pushed : List Work}
    (steps : plan.Steps walk item pushed next) (member : left ∈ pushed) :
    ReflTransGen plan.Needs item.source left.source := by
  cases steps with
  | known | leaf | declare | assigned | close => exact nomatch member
  | enter =>
    simp only [List.mem_append, List.mem_map, List.mem_singleton] at member
    rcases member with ⟨operand, read, rfl⟩ | rfl
    · exact .single (.operand read)
    · exact .refl
  | @component value parent letters _ origin =>
    obtain rfl : left = .visit parent := by simpa using member
    exact .single (.operand (by simp [Work.source, origin, Source.operands]))
  | @readBack value output _ origin =>
    obtain rfl : left = .assign output := by simpa using member
    rw [Work.source, origin]
    exact .refl
  | begin target =>
    simp only [List.mem_cons, List.not_mem_nil, or_false] at member
    rcases member with rfl | rfl
    · exact .single (.readBack target)
    · exact .refl

namespace Stacked

variable {plan : Plan} {walk next : Walk} {rest pushed : List Work} {item : Work}

private theorem of_steps (steps : plan.Steps walk item pushed next) : Stacked plan pushed := by
  cases steps with
  | known | leaf | declare | assigned | close => exact .nil
  | component | readBack => exact List.pairwise_singleton _ _
  | enter =>
    refine List.pairwise_append.2 ⟨?_, List.pairwise_singleton _ _, ?_⟩
    · refine List.pairwise_map.2 (List.pairwise_of_forall ?_)
      exact fun _ _ ends => absurd rfl ends
    · intro above member below last _
      obtain ⟨operand, read, rfl⟩ := List.mem_map.1 member
      obtain rfl := List.mem_singleton.1 last
      exact .single (.operand read)
  | begin target =>
    refine List.pairwise_cons.2 ⟨?_, List.pairwise_singleton _ _⟩
    intro below last _
    obtain rfl := List.mem_singleton.1 last
    exact .single (.readBack target)

theorem step (stacked : Stacked plan (item :: rest)) (steps : plan.Steps walk item pushed next) :
    Stacked plan (pushed ++ rest) := by
  obtain ⟨top, others⟩ := List.pairwise_cons.1 stacked
  refine List.pairwise_append.2 ⟨Stacked.of_steps steps, others, ?_⟩
  intro above member below low ends
  exact TransGen.trans_left (top below low ends) (steps.source member)

end Stacked

/-- A value that was to be visited is accounted for: it still waits, or the stage may read it and its node, its parent
or the output that it reads back is accounted for. -/
inductive Covered (plan : Plan) (work : List Work) (statements : List Statement) : Value → Prop where
  | waits {value : Value} (member : .visit value ∈ work) : Covered plan work statements value
  | node {value : Value} {node : Nat} (legal : plan.checkSource value.source = .ok ())
      (isNode : value.source.node? = some node) (listed : node ∈ declaredNodes statements) :
      Covered plan work statements value
  | component {value parent : Value} {letters : String} (legal : plan.checkSource value.source = .ok ())
      (origin : value.source = .component parent letters) (covered : Covered plan work statements parent) :
      Covered plan work statements value
  | readBack {value : Value} {output : Output} (legal : plan.checkSource value.source = .ok ())
      (origin : value.source = .leaf (.output output))
      (listed : .assign output ∈ work ∨ output ∈ writtenOutputs statements) : Covered plan work statements value
  | leaf {value : Value} {leaf : Leaf} (legal : plan.checkSource value.source = .ok ())
      (origin : value.source = .leaf leaf) (plain : ∀ output, leaf ≠ .output output) :
      Covered plan work statements value

/-- Every output and everything that a statement reads is accounted for. -/
structure Complete (plan : Plan) (work : List Work) (walk : Walk) : Prop where
  outputs : ∀ target ∈ plan.targets, .assign target.1 ∈ work ∨ target.1 ∈ writtenOutputs (statementsOf work walk)
  reads : ∀ statement ∈ statementsOf work walk, ∀ value ∈ statement.reads,
    Covered plan work (statementsOf work walk) value

namespace Complete

variable {plan : Plan} {walk next : Walk} {rest pushed : List Work} {item : Work}

private theorem output_step (tracked : Tracked plan (item :: rest) walk) (steps : plan.Steps walk item pushed next)
    {output : Output}
    (listed : .assign output ∈ item :: rest ∨ output ∈ writtenOutputs (statementsOf (item :: rest) walk)) :
    .assign output ∈ pushed ++ rest ∨ output ∈ writtenOutputs (statementsOf (pushed ++ rest) next) := by
  rcases listed with waits | written
  · rcases List.mem_cons.1 waits with rfl | later
    · right
      cases steps with
      | assigned _ done => exact (tracked.mem_outputs output).2 (.inr done)
      | begin => exact List.mem_cons_self
    · exact .inl (List.mem_append_right _ later)
  · obtain ⟨value, member⟩ := mem_writtenOutputs.1 written
    exact .inr (mem_writtenOutputs.2 ⟨value, steps.mem_statements member⟩)

/-- The value that a step visits is accounted for after it. -/
theorem visited (tracked : Tracked plan (item :: rest) walk) (steps : plan.Steps walk item pushed next)
    {value : Value} (visit : item = .visit value) :
    Covered plan (pushed ++ rest) (statementsOf (pushed ++ rest) next) value := by
  subst visit
  cases steps with
  | known legal isNode entered => exact .node legal isNode ((tracked.entered _).1 entered)
  | enter legal isNode =>
    refine .node legal isNode (mem_declaredNodes.2 ⟨value, ?_, isNode⟩)
    simp
  | component legal origin => exact .component legal origin (.waits List.mem_cons_self)
  | readBack legal origin => exact .readBack legal origin (.inl List.mem_cons_self)
  | leaf legal origin plain => exact .leaf legal origin plain

private theorem covered_step (tracked : Tracked plan (item :: rest) walk) (steps : plan.Steps walk item pushed next)
    {value : Value} (covered : Covered plan (item :: rest) (statementsOf (item :: rest) walk) value) :
    Covered plan (pushed ++ rest) (statementsOf (pushed ++ rest) next) value := by
  induction covered with
  | waits member =>
    rcases List.mem_cons.1 member with top | later
    · exact visited tracked steps top.symm
    · exact .waits (List.mem_append_right _ later)
  | node legal isNode listed =>
    obtain ⟨declared, member, same⟩ := mem_declaredNodes.1 listed
    exact .node legal isNode (mem_declaredNodes.2 ⟨declared, steps.mem_statements member, same⟩)
  | component legal origin _ ih => exact .component legal origin ih
  | readBack legal origin listed => exact .readBack legal origin (output_step tracked steps listed)
  | leaf legal origin plain => exact .leaf legal origin plain

theorem step (tracked : Tracked plan (item :: rest) walk) (complete : Complete plan (item :: rest) walk)
    (steps : plan.Steps walk item pushed next) : Complete plan (pushed ++ rest) next := by
  have kept : ∀ statement ∈ statementsOf (item :: rest) walk, ∀ value ∈ statement.reads,
      Covered plan (pushed ++ rest) (statementsOf (pushed ++ rest) next) value :=
    fun statement member value read => covered_step tracked steps (complete.reads statement member value read)
  refine ⟨fun target member => output_step tracked steps (complete.outputs target member), ?_⟩
  intro statement member value read
  cases steps with
  | known | component | readBack | leaf | assigned => exact kept statement member value read
  | declare | close => exact kept statement (List.perm_middle.mem_iff.1 member) value read
  | @enter visited =>
    simp only [List.append_assoc, statementsOf_visits, statementsOf_enter, List.singleton_append,
      statementsOf_declare] at member
    rcases List.mem_cons.1 member with rfl | old
    · exact .waits (by simp [show value ∈ visited.source.operands from read])
    · exact kept statement old value read
  | begin =>
    rcases List.mem_cons.1 member with rfl | old
    · obtain rfl := List.mem_singleton.1 read
      exact .waits List.mem_cons_self
    · exact kept statement old value read

end Complete

/-- What is settled once an item of work, and all that it leaves, is done. -/
def Work.goal : Work → Source
  | .visit value => value.root
  | .declare value => value.source
  | .assign output | .close output _ => .leaf (.output output)

/-- Statements declare the node of a source, or write the output that it reads back. Other sources need neither. -/
structure Settled (statements : List Statement) (source : Source) : Prop where
  node : ∀ node, source.node? = some node → node ∈ declaredNodes statements
  output : ∀ output, source = .leaf (.output output) → output ∈ writtenOutputs statements

theorem Settled.mono {first second : List Statement} (more : ∀ statement ∈ first, statement ∈ second) {source : Source}
    (settled : Settled first source) : Settled second source := by
  refine ⟨fun node isNode => ?_, fun output origin => ?_⟩
  · obtain ⟨value, member, same⟩ := mem_declaredNodes.1 (settled.node node isNode)
    exact mem_declaredNodes.2 ⟨value, more _ member, same⟩
  · obtain ⟨value, member⟩ := mem_writtenOutputs.1 (settled.output output origin)
    exact mem_writtenOutputs.2 ⟨value, more _ member⟩

/-- What every statement of the work reads is met already, or is the goal of an item above it. Only the sources that
matter are asked for. -/
def Awaited (Matters Met : Source → Prop) : List Work → Prop
  | [] => True
  | item :: below =>
    (∀ statement, item.statement? = some statement → ∀ value ∈ statement.reads, Matters value.root → Met value.root) ∧
      Awaited Matters (fun source => Met source ∨ source = item.goal) below

/-- What every statement reads is settled by the statements before it; the newest statement comes first. -/
def Ordered (Matters : Source → Prop) : List Statement → Prop
  | [] => True
  | statement :: earlier =>
    (∀ value ∈ statement.reads, Matters value.root → Settled earlier value.root) ∧ Ordered Matters earlier

namespace Awaited

variable {Matters : Source → Prop}

theorem mono {Met More : Source → Prop} {work : List Work} (more : ∀ source, Matters source → Met source → More source)
    (awaited : Awaited Matters Met work) : Awaited Matters More work := by
  induction work generalizing Met More with
  | nil => trivial
  | cons item below ih =>
    refine ⟨fun statement holds value read matters => ?_, ih ?_ awaited.2⟩
    · exact more _ matters (awaited.1 statement holds value read matters)
    · rintro source matters (met | goal)
      · exact .inl (more source matters met)
      · exact .inr goal

theorem append {Met : Source → Prop} {above below : List Work} (upper : Awaited Matters Met above)
    (lower : Awaited Matters (fun source => Met source ∨ ∃ item ∈ above, source = item.goal) below) :
    Awaited Matters Met (above ++ below) := by
  induction above generalizing Met with
  | nil => exact lower.mono (by simp)
  | cons item above ih =>
    refine ⟨upper.1, ih upper.2 (lower.mono ?_)⟩
    rintro source _ (met | ⟨other, member, goal⟩)
    · exact .inl (.inl met)
    · rcases List.mem_cons.1 member with rfl | later
      · exact .inl (.inr goal)
      · exact .inr ⟨other, later, goal⟩

/-- Work without statements awaits nothing. -/
theorem of_plain {Met : Source → Prop} {work : List Work} (plain : ∀ item ∈ work, item.statement? = none) :
    Awaited Matters Met work := by
  induction work generalizing Met with
  | nil => trivial
  | cons item below ih =>
    refine ⟨fun statement holds => ?_, ih (fun other member => plain other (List.mem_cons_of_mem _ member))⟩
    exact nomatch (plain item List.mem_cons_self).symm.trans holds

variable {plan : Plan} {walk next : Walk} {rest pushed : List Work} {item : Work}

private theorem of_steps {Met : Source → Prop} (steps : plan.Steps walk item pushed next) :
    Awaited Matters Met pushed := by
  cases steps with
  | known | leaf | declare | assigned | close => trivial
  | component | readBack => exact of_plain (by simp [Work.statement?])
  | @enter value =>
    refine (of_plain (by simp [Work.statement?])).append ⟨?_, trivial⟩
    rintro statement holds operand read _
    cases holds
    exact .inr ⟨.visit operand, List.mem_map_of_mem read, rfl⟩
  | begin =>
    refine ⟨fun statement holds => (nomatch holds), ?_, trivial⟩
    rintro statement holds value read _
    cases holds
    obtain rfl := List.mem_singleton.1 read
    exact .inr rfl

private theorem goal_of_steps (tracked : Tracked plan (item :: rest) walk) (steps : plan.Steps walk item pushed next) :
    Settled next.emitted item.goal ∨ (∃ left ∈ pushed, item.goal = left.goal) ∨
      ∃ value node, item = .visit value ∧ value.source.node? = some node ∧ walk.entered.contains node = true := by
  cases steps with
  | known _ isNode entered => exact .inr (.inr ⟨_, _, rfl, isNode, entered⟩)
  | @enter value _ _ isNode =>
    exact .inr (.inl ⟨.declare value, by simp, Value.root_of_node isNode⟩)
  | @component value parent _ _ origin =>
    exact .inr (.inl ⟨.visit parent, List.mem_cons_self, Value.root_of_component origin⟩)
  | @readBack value output _ origin =>
    exact .inr (.inl ⟨.assign output, List.mem_cons_self, Value.root_of_leaf origin⟩)
  | @leaf value leaf _ origin plain =>
    have root : (Work.visit value).goal = .leaf leaf := Value.root_of_leaf origin
    refine .inl ⟨fun node isNode => ?_, fun output same => ?_⟩
    · rw [root] at isNode
      exact nomatch isNode
    · rw [root] at same
      exact absurd (Source.leaf.inj same) (plain output)
  | @declare value =>
    obtain ⟨_, node, isNode⟩ := tracked.fits (.declare value) List.mem_cons_self
    refine .inl ⟨fun other same => ?_, fun output same => ?_⟩
    · exact mem_declaredNodes.2 ⟨value, List.mem_cons_self, same⟩
    · rw [show value.source = .leaf (.output output) from same] at isNode
      exact nomatch isNode
  | @assigned output value _ done =>
    refine .inl ⟨fun node isNode => (nomatch isNode), fun other same => ?_⟩
    cases same
    exact tracked.assigned ▸ done
  | begin => exact .inr (.inl ⟨_, List.mem_cons_of_mem _ List.mem_cons_self, rfl⟩)
  | close =>
    refine .inl ⟨fun node isNode => (nomatch isNode), fun other same => ?_⟩
    cases same
    exact List.mem_cons_self

/-- A step keeps the work awaited, as long as nodes that matter are declared when they are met again. -/
theorem step (tracked : Tracked plan (item :: rest) walk)
    (awaited : Awaited Matters (Settled walk.emitted) (item :: rest))
    (steps : plan.Steps walk item pushed next)
    (met : ∀ value node, item = .visit value → value.source.node? = some node → walk.entered.contains node = true →
      Matters value.source → node ∈ declaredNodes walk.emitted) :
    Awaited Matters (Settled next.emitted) (pushed ++ rest) := by
  have grown : ∀ statement ∈ walk.emitted, statement ∈ next.emitted := by
    intro statement member
    cases steps <;> first | exact member | exact List.mem_cons_of_mem _ member
  refine (of_steps steps).append (awaited.2.mono ?_)
  rintro source matters (settled | rfl)
  · exact .inl (settled.mono grown)
  · rcases goal_of_steps tracked steps with settled | left | ⟨value, node, rfl, isNode, entered⟩
    · exact .inl settled
    · exact .inr left
    · have root : (Work.visit value).goal = value.source := Value.root_of_node isNode
      have declared := met value node rfl isNode entered (root ▸ matters)
      refine .inl (Settled.mono grown ⟨fun other same => ?_, fun output same => ?_⟩)
      · rw [root, isNode] at same
        cases same
        exact declared
      · rw [← root, same] at isNode
        exact nomatch isNode

/-- A step keeps the emitted statements ordered. -/
theorem ordered_step (awaited : Awaited Matters (Settled walk.emitted) (item :: rest))
    (ordered : Ordered Matters walk.emitted) (steps : plan.Steps walk item pushed next) :
    Ordered Matters next.emitted := by
  cases steps with
  | declare | close => exact ⟨awaited.1 _ rfl, ordered⟩
  | _ => exact ordered

end Awaited

end Shading
