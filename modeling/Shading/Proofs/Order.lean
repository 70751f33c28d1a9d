import Shading.Proofs.Walk

/-!
# The order of a schedule

A schedule declares every node that is needed and writes every output, each of them once, and an output that is read
back is always written first. Its nodes are declared before they are used exactly if no output depends on itself
(`Plan.Scheduled.nodesFirst_iff`): a cycle is refused only where the walk meets an output that it is still computing,
and a node in that place is passed over as if it had been declared.
-/

namespace Shading

open Relation

/-- Every node that a statement reads, perhaps through components, is declared by an earlier statement. -/
def NodesFirst (statements : List Statement) : Prop :=
  ∀ before statement after, statements = before ++ statement :: after → ∀ value ∈ statement.reads, ∀ node,
    value.root.node? = some node → ∃ declared, .declare declared ∈ before ∧ declared.source.node? = some node

/-- Every output that a statement reads back, perhaps through components, is written by an earlier statement. -/
def OutputsFirst (statements : List Statement) : Prop :=
  ∀ before statement after, statements = before ++ statement :: after → ∀ value ∈ statement.reads, ∀ output,
    value.root = .leaf (.output output) → ∃ written, .assign output written ∈ before

/-- In ordered statements each one has what it reads settled by those before it. -/
theorem Ordered.split {Matters : Source → Prop} {later earlier : List Statement} {statement : Statement}
    (ordered : Ordered Matters (later ++ statement :: earlier)) :
    (∀ value ∈ statement.reads, Matters value.root → Settled earlier value.root) ∧ Ordered Matters earlier := by
  induction later with
  | nil => exact ordered
  | cons _ _ ih => exact ih ordered.2

private theorem ordered_of_split {Matters : Source → Prop} {statements : List Statement}
    (settled : ∀ later statement earlier, statements = later ++ statement :: earlier → ∀ value ∈ statement.reads,
      Matters value.root → Settled earlier value.root) : Ordered Matters statements := by
  induction statements with
  | nil => trivial
  | cons statement earlier ih =>
    refine ⟨settled [] statement earlier rfl, ih ?_⟩
    intro later other before split
    exact settled (statement :: later) other before (by rw [split, List.cons_append])

private theorem reverse_split {before after statements : List Statement} {statement : Statement}
    (split : statements = before ++ statement :: after) :
    statements.reverse = after.reverse ++ statement :: before.reverse := by
  simp [split]

/-- The sources whose order is certain: all of them if no output depends on itself, and otherwise those of no node. -/
def Plan.Matters (plan : Plan) (source : Source) : Prop :=
  source.node? = none ∨ plan.Acyclic

/-- The invariants of a walk together. -/
structure Walks (plan : Plan) (work : List Work) (walk : Walk) : Prop where
  tracked : Tracked plan work walk
  stacked : Stacked plan work
  complete : Complete plan work walk
  awaited : Awaited plan.Matters (Settled walk.emitted) work
  ordered : Ordered plan.Matters walk.emitted

namespace Walks

variable {plan : Plan} {walk next : Walk} {work rest pushed : List Work} {item : Work}

private theorem declared_again (coherent : plan.Coherent) (walks : Walks plan (item :: rest) walk)
    (acyclic : plan.Acyclic) {value : Value} {node : Nat} (visit : item = .visit value)
    (isNode : value.source.node? = some node) (entered : walk.entered.contains node = true) :
    node ∈ declaredNodes walk.emitted := by
  subst visit
  obtain ⟨declared, member, same⟩ := mem_declaredNodes.1 ((walks.tracked.entered node).1 entered)
  rcases List.mem_append.1 member with held | emitted
  · obtain ⟨below, low, holds⟩ := List.mem_filterMap.1 (show _ ∈ rest.filterMap Work.statement? from held)
    have needs := (List.pairwise_cons.1 walks.stacked).1 below low (by simp [holds])
    have source : below.source = declared.source := by
      cases below <;> cases holds
      rfl
    have sameSource := coherent.sameNode (walks.tracked.fits _ member).1
      (walks.tracked.due (.visit value) List.mem_cons_self) same isNode
    rw [source, sameSource] at needs
    exact absurd needs (Plan.needs_irrefl acyclic _)
  · exact mem_declaredNodes.2 ⟨declared, emitted, same⟩

theorem step (coherent : plan.Coherent) (walks : Walks plan (item :: rest) walk)
    (steps : plan.Steps walk item pushed next) : Walks plan (pushed ++ rest) next where
  tracked := walks.tracked.step steps
  stacked := walks.stacked.step steps
  complete := walks.complete.step walks.tracked steps
  awaited := by
    refine walks.awaited.step walks.tracked steps ?_
    intro value node visit isNode entered matters
    rcases matters with leaf | acyclic
    · exact nomatch leaf.symm.trans isNode
    · exact walks.declared_again coherent acyclic visit isNode entered
  ordered := walks.awaited.ordered_step walks.ordered steps

/-- A walk begins with the outputs of the plan. -/
theorem start (coherent : plan.Coherent) :
    Walks plan (plan.targets.map (fun target => .assign target.1)) .start := by
  have plain : ∀ item ∈ plan.targets.map (fun target => Work.assign target.1), item.statement? = none := by
    intro item member
    obtain ⟨target, _, rfl⟩ := List.mem_map.1 member
    rfl
  have none : (plan.targets.map (fun target => Work.assign target.1)).filterMap Work.statement? = [] :=
    List.filterMap_eq_nil_iff.2 plain
  have empty : statementsOf (plan.targets.map (fun target => Work.assign target.1)) .start = [] := by
    rw [statementsOf, none]
    rfl
  refine ⟨⟨?_, ?_, rfl, ?_, ?_, ?_, ?_⟩, ?_, ⟨?_, ?_⟩, Awaited.of_plain plain, trivial⟩
  · intro node
    rw [empty, Walk.start, NumberSet.contains_empty]
    simp [declaredNodes]
  · rw [none]
    rfl
  · rw [empty]
    exact List.nodup_nil
  · rw [empty]
    exact List.nodup_nil
  · rw [empty]
    exact fun statement member => absurd member List.not_mem_nil
  · intro item member
    obtain ⟨target, listed, rfl⟩ := List.mem_map.1 member
    exact .inl ⟨target.2, lookup_of_mem coherent.distinct listed⟩
  · refine List.pairwise_map.2 (List.pairwise_of_forall ?_)
    exact fun _ _ ends => absurd rfl ends
  · exact fun target member => .inl (List.mem_map.2 ⟨target, member, rfl⟩)
  · rw [empty]
    exact fun statement member => absurd member List.not_mem_nil

private theorem covered_of_reached (coherent : plan.Coherent) (walks : Walks plan [] walk) {value : Value}
    (reached : plan.Reached value) : Covered plan [] walk.emitted value := by
  obtain ⟨⟨output, first⟩, target, below⟩ := reached
  induction below with
  | refl =>
    rcases walks.complete.outputs (output, first) target with waits | written
    · exact nomatch waits
    · obtain ⟨value, member⟩ := mem_writtenOutputs.1 written
      have same : plan.targets.lookup output = some value := walks.tracked.fits _ member
      rw [lookup_of_mem coherent.distinct target] at same
      cases same
      exact walks.complete.reads _ member first List.mem_cons_self
  | @tail value operand below read covered =>
    cases covered with
    | waits waits => exact nomatch waits
    | node _ isNode listed =>
      obtain ⟨declared, member, same⟩ := mem_declaredNodes.1 listed
      have sameSource := coherent.sameNode (walks.tracked.fits _ member).1 ⟨_, target, below⟩ same isNode
      exact walks.complete.reads _ member operand (by rw [Statement.reads, sameSource]; exact read)
    | component _ origin covered =>
      rw [origin] at read
      obtain rfl := List.mem_singleton.1 read
      exact covered
    | readBack _ origin => simp [origin, Source.operands] at read
    | leaf _ origin => simp [origin, Source.operands] at read

end Walks

/-- What is known of the statements that a plan is scheduled into. -/
structure Plan.Scheduled (plan : Plan) (statements : List Statement) : Prop where
  nodesOnce : (declaredNodes statements).Nodup
  outputsOnce : (writtenOutputs statements).Nodup
  fits : ∀ statement ∈ statements, statement.Fits plan
  assigned : ∀ target ∈ plan.targets, .assign target.1 target.2 ∈ statements
  covered : ∀ {value : Value}, plan.Reached value → Covered plan [] statements value
  ordered : Ordered plan.Matters statements.reverse

theorem Covered.mono {plan : Plan} {first second : List Statement} (more : ∀ statement ∈ first, statement ∈ second)
    {value : Value} (covered : Covered plan [] first value) : Covered plan [] second value := by
  induction covered with
  | waits waits => exact nomatch waits
  | node legal isNode listed =>
    obtain ⟨declared, member, same⟩ := mem_declaredNodes.1 listed
    exact .node legal isNode (mem_declaredNodes.2 ⟨declared, more _ member, same⟩)
  | component legal origin _ ih => exact .component legal origin ih
  | readBack legal origin listed =>
    rcases listed with waits | written
    · exact nomatch waits
    · obtain ⟨value, member⟩ := mem_writtenOutputs.1 written
      exact .readBack legal origin (.inr (mem_writtenOutputs.2 ⟨value, more _ member⟩))
  | leaf legal origin plain => exact .leaf legal origin plain

theorem Walks.scheduled {plan : Plan} {walk : Walk} (coherent : plan.Coherent) (walks : Walks plan [] walk) :
    plan.Scheduled walk.emitted.reverse where
  nodesOnce := ((List.reverse_perm _).filterMap _).nodup_iff.2 walks.tracked.nodesOnce
  outputsOnce := ((List.reverse_perm _).filterMap _).nodup_iff.2 walks.tracked.outputsOnce
  fits := fun statement member => walks.tracked.fits statement (List.mem_reverse.1 member)
  assigned := by
    intro target member
    rcases walks.complete.outputs target member with waits | written
    · exact nomatch waits
    · obtain ⟨value, emitted⟩ := mem_writtenOutputs.1 written
      have same : plan.targets.lookup target.1 = some value := walks.tracked.fits _ emitted
      rw [lookup_of_mem coherent.distinct member] at same
      cases same
      exact List.mem_reverse.2 emitted
  covered := fun reached =>
    (walks.covered_of_reached coherent reached).mono (fun _ member => List.mem_reverse.2 member)
  ordered := by
    rw [List.reverse_reverse]
    exact walks.ordered

/-- Why a plan cannot be scheduled: it needs a value that the stage must not read, or an output that is never written,
or an output depends on itself. -/
inductive Plan.Unschedulable (plan : Plan) : Violation → Prop where
  | illegal {value : Value} {cause : Violation} (reached : plan.Reached value)
      (refused : plan.checkSource value.source = .error cause) : plan.Unschedulable cause
  | unwritten {value : Value} {output : Output} (reached : plan.Reached value)
      (origin : value.source = .leaf (.output output)) (missing : plan.targets.lookup output = none) :
      plan.Unschedulable (.neverWritten output)
  | circular {output : Output} (cycle : plan.DependsOn output output) : plan.Unschedulable (.selfDependent output)

private theorem Walks.unschedulable {plan : Plan} {walk : Walk} {item : Work} {rest : List Work} {cause : Violation}
    (walks : Walks plan (item :: rest) walk) (stops : plan.Stops walk item cause) : plan.Unschedulable cause := by
  cases stops with
  | @illegal value _ refused => exact .illegal (walks.tracked.due (.visit value) List.mem_cons_self) refused
  | @unwritten output missing =>
    rcases walks.tracked.due (.assign output) List.mem_cons_self with ⟨value, target⟩ | ⟨value, reached, origin⟩
    · exact nomatch missing.symm.trans target
    · exact .unwritten reached origin missing
  | @circular output _ _ waits =>
    rw [walks.tracked.pending] at waits
    obtain ⟨value, held⟩ := mem_writtenOutputs.1 waits
    obtain ⟨below, low, holds⟩ := List.mem_filterMap.1 (show _ ∈ rest.filterMap Work.statement? from held)
    have needs := (List.pairwise_cons.1 walks.stacked).1 below low (by simp [holds])
    cases below <;> cases holds
    exact .circular (Plan.dependsOn_of_chain needs)

/-- A plan is scheduled in full, or there is a reason against it. -/
theorem Plan.schedule_cases {plan : Plan} (coherent : plan.Coherent) :
    (∃ statements, plan.schedule = .ok statements ∧ plan.Scheduled statements) ∨
      ∃ cause, plan.schedule = .error cause ∧ plan.Unschedulable cause := by
  have ends := Plan.run_keeps (fun walks steps => walks.step coherent steps) _ _ (Walks.start coherent)
  rw [Plan.schedule]
  generalize plan.run (plan.targets.map (fun target => .assign target.1)) .start = result at ends ⊢
  cases ends with
  | done walks => exact .inl ⟨_, rfl, walks.scheduled coherent⟩
  | stopped walks stops => exact .inr ⟨_, rfl, walks.unschedulable stops⟩

theorem Plan.scheduled_of_ok {plan : Plan} (coherent : plan.Coherent) {statements : List Statement}
    (done : plan.schedule = .ok statements) : plan.Scheduled statements := by
  rcases Plan.schedule_cases coherent with ⟨_, same, scheduled⟩ | ⟨_, failed, _⟩
  · rw [done] at same
    cases same
    exact scheduled
  · exact nomatch done.symm.trans failed

private theorem ordered_of_first {statements : List Statement} (nodes : NodesFirst statements)
    (outputs : OutputsFirst statements) : Ordered (fun _ => True) statements.reverse := by
  refine ordered_of_split ?_
  intro later statement earlier split value read _
  have whole : statements = earlier.reverse ++ statement :: later.reverse := by
    rw [← statements.reverse_reverse, reverse_split split]
  refine ⟨fun node isNode => ?_, fun output origin => ?_⟩
  · obtain ⟨declared, member, same⟩ := nodes _ _ _ whole value read node isNode
    exact mem_declaredNodes.2 ⟨declared, List.mem_reverse.1 member, same⟩
  · obtain ⟨written, member⟩ := outputs _ _ _ whole value read output origin
    exact mem_writtenOutputs.2 ⟨written, List.mem_reverse.1 member⟩

namespace Plan.Scheduled

variable {plan : Plan} {statements : List Statement}

/-- Outputs that are read back come first, whatever depends on what. -/
theorem outputsFirst (scheduled : plan.Scheduled statements) : OutputsFirst statements := by
  intro before statement after split value read output origin
  have ordered := scheduled.ordered
  rw [reverse_split split] at ordered
  have settled := ordered.split.1 value read (.inl (by rw [origin]; rfl))
  obtain ⟨written, member⟩ := mem_writtenOutputs.1 (settled.output output origin)
  exact ⟨written, List.mem_reverse.1 member⟩

theorem nodesFirst (scheduled : plan.Scheduled statements) (acyclic : plan.Acyclic) : NodesFirst statements := by
  intro before statement after split value read node isNode
  have ordered := scheduled.ordered
  rw [reverse_split split] at ordered
  have settled := ordered.split.1 value read (.inr acyclic)
  obtain ⟨declared, member, same⟩ := mem_declaredNodes.1 (settled.node node isNode)
  exact ⟨declared, List.mem_reverse.1 member, same⟩

private theorem settled_of_reaches (coherent : plan.Coherent) {earlier : List Statement}
    (fits : ∀ statement ∈ earlier, statement.Fits plan) (ordered : Ordered (fun _ => True) earlier) {value read : Value}
    (reached : plan.Reached value) (settled : Settled earlier value.root) (below : value.Reaches read) :
    Settled earlier read.root := by
  induction below with
  | refl => exact settled
  | @tail middle operand below read ih =>
    have needed := reached.reaches below
    cases isNode : middle.source.node? with
    | some node =>
      obtain ⟨declared, listed, same⟩ := mem_declaredNodes.1 (ih.node node (by rw [Value.root_of_node isNode, isNode]))
      obtain ⟨later, before, rfl⟩ := List.append_of_mem listed
      have sameSource := coherent.sameNode (fits _ listed).1 needed same isNode
      have first := ordered.split.1 operand (by rw [Statement.reads, sameSource]; exact read) trivial
      exact first.mono (by simp +contextual)
    | none =>
      cases origin : middle.source with
      | component parent letters =>
        rw [origin] at read
        obtain rfl := List.mem_singleton.1 read
        rw [Value.root_of_component origin] at ih
        exact ih
      | leaf leaf => simp [origin, Source.operands] at read
      | _ => simp [origin, Source.node?] at isNode

private theorem written_before_of_readsBack (coherent : plan.Coherent) (scheduled : plan.Scheduled statements)
    (ordered : Ordered (fun _ => True) statements.reverse) {later earlier : List Statement} {output other : Output}
    {value : Value} (split : statements.reverse = later ++ .assign output value :: earlier)
    (reads : plan.ReadsBack output other) : other ∈ writtenOutputs earlier := by
  obtain ⟨first, read, target, below, origin⟩ := reads
  have fits : ∀ statement ∈ statements.reverse, statement.Fits plan :=
    fun statement member => scheduled.fits statement (List.mem_reverse.1 member)
  rw [split] at ordered fits
  have same : plan.targets.lookup output = some value := fits (.assign output value) (by simp)
  obtain rfl := Option.some.inj ((lookup_of_mem coherent.distinct target).symm.trans same)
  have settled := settled_of_reaches coherent (fun statement member => fits statement (by simp [member]))
    ordered.split.2 ⟨_, target, first.reaches_refl⟩ (ordered.split.1 first List.mem_cons_self trivial) below
  exact settled.output other (Value.root_of_leaf origin)

private theorem written_before (coherent : plan.Coherent) (scheduled : plan.Scheduled statements)
    (ordered : Ordered (fun _ => True) statements.reverse) {later earlier : List Statement} {output other : Output}
    {value : Value} (split : statements.reverse = later ++ .assign output value :: earlier)
    (depends : plan.DependsOn output other) : other ∈ writtenOutputs earlier := by
  induction depends with
  | single reads => exact written_before_of_readsBack coherent scheduled ordered split reads
  | tail _ reads ih =>
    obtain ⟨middle, member⟩ := mem_writtenOutputs.1 ih
    obtain ⟨above, below, rfl⟩ := List.append_of_mem member
    rw [← List.cons_append, ← List.append_assoc] at split
    obtain ⟨last, listed⟩ := mem_writtenOutputs.1
      (written_before_of_readsBack coherent scheduled ordered split reads)
    exact mem_writtenOutputs.2 ⟨last, by simp [listed]⟩

/-- Nodes come before what uses them exactly if no output depends on itself. -/
theorem nodesFirst_iff (coherent : plan.Coherent) (scheduled : plan.Scheduled statements) :
    NodesFirst statements ↔ plan.Acyclic := by
  refine ⟨fun nodes output cycle => ?_, scheduled.nodesFirst⟩
  have ordered := ordered_of_first nodes scheduled.outputsFirst
  obtain ⟨_, reads, _⟩ := TransGen.head'_iff.1 cycle
  obtain ⟨value, _, target, _, _⟩ := reads
  obtain ⟨later, earlier, split⟩ := List.append_of_mem (List.mem_reverse.2 (scheduled.assigned _ target))
  have again := written_before coherent scheduled ordered split cycle
  have once : (writtenOutputs statements.reverse).Nodup :=
    ((List.reverse_perm _).filterMap _).nodup_iff.2 scheduled.outputsOnce
  rw [split, writtenOutputs, List.filterMap_append] at once
  exact (List.nodup_cons.1 (List.nodup_append.1 once).2.1).1 again

theorem legal (scheduled : plan.Scheduled statements) {value : Value} (reached : plan.Reached value) :
    plan.checkSource value.source = .ok () := by
  cases scheduled.covered reached with
  | waits waits => exact nomatch waits
  | node legal | component legal | readBack legal | leaf legal => exact legal

theorem declared (scheduled : plan.Scheduled statements) {value : Value} {node : Nat} (reached : plan.Reached value)
    (isNode : value.source.node? = some node) : node ∈ declaredNodes statements := by
  cases scheduled.covered reached with
  | waits waits => exact nomatch waits
  | node _ same listed =>
    rw [isNode] at same
    cases same
    exact listed
  | component _ origin | readBack _ origin | leaf _ origin =>
    rw [origin] at isNode
    exact nomatch isNode

theorem written (scheduled : plan.Scheduled statements) {value : Value} {output : Output} (reached : plan.Reached value)
    (origin : value.source = .leaf (.output output)) : output ∈ writtenOutputs statements := by
  cases scheduled.covered reached with
  | waits waits => exact nomatch waits
  | node _ isNode =>
    rw [origin] at isNode
    exact nomatch isNode
  | component _ other => exact nomatch origin.symm.trans other
  | readBack _ other listed =>
    cases origin.symm.trans other
    exact listed.resolve_left (fun waits => nomatch waits)
  | leaf _ other plain => exact absurd (Source.leaf.inj (other.symm.trans origin)) (plain output)

/-- What is needed is named by a statement, perhaps through components. -/
theorem exists_read (coherent : plan.Coherent) (scheduled : plan.Scheduled statements) {value : Value}
    (reached : plan.Reached value) : ∃ statement ∈ statements, ∃ read ∈ statement.reads, read.root = value.root := by
  obtain ⟨target, member, below⟩ := reached
  induction below with
  | refl => exact ⟨_, scheduled.assigned target member, target.2, List.mem_cons_self, rfl⟩
  | @tail middle operand below read ih =>
    have needed : plan.Reached middle := ⟨target, member, below⟩
    cases isNode : middle.source.node? with
    | some node =>
      obtain ⟨declared, listed, same⟩ := mem_declaredNodes.1 (scheduled.declared needed isNode)
      have sameSource := coherent.sameNode (scheduled.fits _ listed).1 needed same isNode
      exact ⟨_, listed, operand, by rw [Statement.reads, sameSource]; exact read, rfl⟩
    | none =>
      cases origin : middle.source with
      | component parent letters =>
        rw [origin] at read
        obtain rfl := List.mem_singleton.1 read
        rw [Value.root_of_component origin] at ih
        exact ih
      | leaf leaf => simp [origin, Source.operands] at read
      | _ => simp [origin, Source.node?] at isNode

end Plan.Scheduled

/-- What a statement of a plan names is needed. -/
theorem Statement.Fits.reached {plan : Plan} {statement : Statement} (fits : statement.Fits plan) {value : Value}
    (read : value ∈ statement.reads) : plan.Reached value := by
  cases statement with
  | declare declared => exact fits.1.operand read
  | assign output written =>
    obtain rfl := List.mem_singleton.1 read
    exact Plan.reached_target fits

end Shading
