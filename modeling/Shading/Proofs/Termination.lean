import Mathlib
import Shading.Proofs.Validation
import Shading.Proofs.Walk

/-!
# Why the walks end

The walk that orders statements puts an output on its stack whenever it is read back, and goes through components
without marking them, so neither its stack nor its marks show that it ends. What gets less with every turn is the number
of turns that can still come (`Plan.turnsLeft`): those of the items on the stack, with the components that a visit leads
through, and those that the nodes not yet entered and the outputs not yet opened can bring. A node or an output counts
once there, however often it is read, and whether outputs read each other back does not matter. The walk that looks for
what a document reaches ends for the same reason (`searchLeft`).
-/

namespace Shading

section

variable {State Result : Type}

/-- The result of a loop that takes no more than some turns. A turn goes on with another state, or ends the loop. -/
def loopFor (turn : State → State ⊕ Result) : Nat → State → Option Result
  | 0, _ => none
  | turns + 1, state =>
    match turn state with
    | .inl next => loopFor turn turns next
    | .inr result => some result

private theorem loopFor_eq_some {turn : State → State ⊕ Result} {left : State → Nat} {total : State → Result}
    (lowers : ∀ {state next}, turn state = .inl next → left next < left state)
    (turns_eq : ∀ state, total state = (turn state).elim total id)
    {turns : Nat} {state : State} (enough : left state < turns) : loopFor turn turns state = some (total state) := by
  induction turns generalizing state with
  | zero => exact absurd enough (Nat.not_lt_zero _)
  | succ turns ih =>
    rw [loopFor, turns_eq]
    cases taken : turn state with
    | inl next =>
      have less := lowers taken
      exact ih (by omega)
    | inr result => rfl

end

/-- What the unmarked items can still bring: each of them once, with the most that it is listed with. -/
def outstanding {α : Type} [DecidableEq α] (entries : Finset (α × Nat)) (isMarked : α → Bool) : Nat :=
  ∑ item ∈ entries.image Prod.fst with isMarked item = false, (entries.filter (fun entry => entry.1 = item)).sup Prod.snd

section

variable {α : Type} [DecidableEq α] {entries more : Finset (α × Nat)} {before after : α → Bool}

private theorem outstanding_mono (fewer : entries ⊆ more) (kept : ∀ item, before item = true → after item = true) :
    outstanding entries after ≤ outstanding more before := by
  have unmarked : (entries.image Prod.fst).filter (fun item => after item = false) ⊆
      (more.image Prod.fst).filter (fun item => before item = false) := by
    intro item member
    rw [Finset.mem_filter] at member ⊢
    refine ⟨Finset.image_subset_image fewer member.1, Bool.eq_false_iff.2 (fun marked => ?_)⟩
    exact Bool.eq_false_iff.1 member.2 (kept item marked)
  calc outstanding entries after
      ≤ ∑ item ∈ (entries.image Prod.fst).filter (fun item => after item = false),
          (more.filter (fun entry => entry.1 = item)).sup Prod.snd :=
        Finset.sum_le_sum (fun item _ => Finset.sup_mono (Finset.filter_subset_filter _ fewer))
    _ ≤ outstanding more before := Finset.sum_le_sum_of_subset unmarked

private theorem outstanding_mark {item : α} {cost : Nat} (fewer : entries ⊆ more) (listed : (item, cost) ∈ more)
    (unmarked : before item = false) (marked : after item = true)
    (kept : ∀ other, before other = true → after other = true) :
    outstanding entries after + cost ≤ outstanding more before := by
  have chosen : item ∈ (more.image Prod.fst).filter (fun item => before item = false) :=
    Finset.mem_filter.2 ⟨Finset.mem_image_of_mem Prod.fst listed, unmarked⟩
  have alike : (item, cost) ∈ more.filter (fun entry => entry.1 = item) := Finset.mem_filter.2 ⟨listed, rfl⟩
  have others : (more.image Prod.fst).filter (fun item => after item = false) ⊆
      ((more.image Prod.fst).filter (fun item => before item = false)).erase item := by
    intro other member
    rw [Finset.mem_filter] at member
    rw [Finset.mem_erase, Finset.mem_filter]
    refine ⟨?_, member.1, Bool.eq_false_iff.2 (fun old => Bool.eq_false_iff.1 member.2 (kept other old))⟩
    rintro rfl
    exact Bool.eq_false_iff.1 member.2 marked
  calc outstanding entries after + cost
      ≤ outstanding more after + cost := Nat.add_le_add_right (outstanding_mono fewer (fun _ old => old)) cost
    _ ≤ ∑ other ∈ ((more.image Prod.fst).filter (fun item => before item = false)).erase item,
            (more.filter (fun entry => entry.1 = other)).sup Prod.snd
          + (more.filter (fun entry => entry.1 = item)).sup Prod.snd :=
        Nat.add_le_add (Finset.sum_le_sum_of_subset others) (Finset.le_sup (f := Prod.snd) alike)
    _ = outstanding more before := Finset.sum_erase_add _ _ chosen

end

mutual

/-- The turns that a visit takes, without those for a node that it enters or an output that it opens. -/
def Value.turns : Value → Nat
  | .mk _ _ source => source.turns

/-- The turns that the visit of a source takes: a component leads on to its parent, and an output has to be assigned. -/
def Source.turns : Source → Nat
  | .component parent _ => parent.turns + 1
  | .leaf (.output _) => 2
  | _ => 1

end

private theorem Value.turns_eq (value : Value) : value.turns = value.source.turns := by
  cases value
  rw [Value.turns, Value.source]

private theorem Value.turns_pos (value : Value) : 0 < value.turns := by
  rw [value.turns_eq]
  unfold Source.turns
  split <;> omega

private theorem Value.turns_of_node {value : Value} {node : Nat} (isNode : value.source.node? = some node) :
    value.turns = 1 := by
  rw [value.turns_eq]
  cases origin : value.source <;> simp [origin, Source.node?, Source.turns] at isNode ⊢

/-- The turns that entering a value brings: the visits of its operands, and its declaration. -/
def Value.entryTurns (value : Value) : Nat :=
  (value.source.operands.map Value.turns).sum + 1

/-- The turns of an item of work, without those for nodes that are entered and outputs that are opened. -/
def Work.turns : Work → Nat
  | .visit value => value.turns
  | .declare _ | .assign _ | .close _ _ => 1

private theorem Work.turns_pos (item : Work) : 0 < item.turns := by
  cases item with
  | visit value => exact value.turns_pos
  | _ => exact Nat.one_pos

private theorem sum_turns_visits (values : List Value) :
    ((values.map Work.visit).map Work.turns).sum = (values.map Value.turns).sum := by
  rw [List.map_map]
  rfl

/-- The value that an item of work visits. -/
def Work.visited? : Work → Option Value
  | .visit value => some value
  | _ => none

namespace Plan

/-- The values that a walk can still come to: all that the targets and the visits on its stack depend on. -/
def ahead (plan : Plan) (work : List Work) : List Value :=
  tourOfAll (plan.targets.map Prod.snd ++ work.filterMap Work.visited?)

/-- The nodes that a walk can still come to, with the turns that entering them brings. -/
def nodesAhead (plan : Plan) (work : List Work) : Finset (Nat × Nat) :=
  ((plan.ahead work).filterMap (fun value => value.source.node?.map (fun node => (node, value.entryTurns)))).toFinset

/-- The outputs of a plan, with the turns that opening them brings: the visit of the value, and the assignment. -/
def outputsAhead (plan : Plan) : Finset (Output × Nat) :=
  (plan.targets.map (fun target => (target.1, target.2.turns + 1))).toFinset

/-- The turns that the nodes not yet entered can still bring. -/
def nodeTurns (plan : Plan) (work : List Work) (walk : Walk) : Nat :=
  outstanding (plan.nodesAhead work) (fun node => walk.entered.contains node)

/-- The turns that the outputs not yet opened can still bring. -/
def outputTurns (plan : Plan) (walk : Walk) : Nat :=
  outstanding plan.outputsAhead (fun output => !walk.isUnopened output)

/-- The turns that can still come: those of the stack, of the nodes not yet entered and of the outputs not yet opened. -/
def turnsLeft (plan : Plan) (state : List Work × Walk) : Nat :=
  (state.1.map Work.turns).sum + plan.nodeTurns state.1 state.2 + plan.outputTurns state.2

/-- One turn of the walk: the item on top of the stack is done, and what it leaves takes its place. -/
def turn (plan : Plan) : List Work × Walk → (List Work × Walk) ⊕ Except Violation Walk
  | ([], walk) => .inr (.ok walk)
  | (item :: rest, walk) =>
    match plan.step walk item with
    | .error cause => .inr (.error cause)
    | .ok (pushed, next) => .inl (pushed ++ rest, next)

private theorem mem_ahead {plan : Plan} {work : List Work} {read : Value} :
    read ∈ plan.ahead work ↔
      (∃ target ∈ plan.targets, read ∈ target.2.tour) ∨ ∃ value, .visit value ∈ work ∧ read ∈ value.tour := by
  have visited : ∀ value, value ∈ work.filterMap Work.visited? ↔ Work.visit value ∈ work := by
    intro value
    rw [List.mem_filterMap]
    constructor
    · rintro ⟨item, member, same⟩
      cases item with
      | visit other =>
        cases same
        exact member
      | _ => cases same
    · exact fun member => ⟨_, member, rfl⟩
  simp only [ahead, mem_tourOfAll, List.mem_append, List.mem_map, visited]
  constructor
  · rintro ⟨value, ⟨target, member, rfl⟩ | member, on⟩
    · exact .inl ⟨target, member, on⟩
    · exact .inr ⟨value, member, on⟩
  · rintro (⟨target, member, on⟩ | ⟨value, member, on⟩)
    · exact ⟨target.2, .inl ⟨target, member, rfl⟩, on⟩
    · exact ⟨value, .inr member, on⟩

private theorem mem_ahead_of_mem_tour {plan : Plan} {work : List Work} {value read : Value}
    (upper : value ∈ plan.ahead work) (lower : read ∈ value.tour) : read ∈ plan.ahead work := by
  rcases mem_ahead.1 upper with ⟨target, member, on⟩ | ⟨top, member, on⟩
  · exact mem_ahead.2 (.inl ⟨target, member, Value.mem_tour_trans on lower⟩)
  · exact mem_ahead.2 (.inr ⟨top, member, Value.mem_tour_trans on lower⟩)

private theorem mem_nodesAhead {plan : Plan} {work : List Work} {value : Value} {node : Nat}
    (waits : value ∈ plan.ahead work) (isNode : value.source.node? = some node) : (node, value.entryTurns)
    ∈ plan.nodesAhead work := by
  rw [nodesAhead, List.mem_toFinset, List.mem_filterMap]
  exact ⟨value, waits, by rw [isNode, Option.map_some]⟩

private theorem nodesAhead_subset {plan : Plan} {first second : List Work}
    (fewer : plan.ahead first ⊆ plan.ahead second) :
    plan.nodesAhead first ⊆ plan.nodesAhead second := by
  intro entry member
  rw [nodesAhead, List.mem_toFinset, List.mem_filterMap] at member ⊢
  obtain ⟨value, waits, same⟩ := member
  exact ⟨value, fewer waits, same⟩

namespace Steps

variable {plan : Plan} {walk next : Walk} {item : Work} {pushed : List Work}

private theorem mem_ahead_of_pushed (steps : plan.Steps walk item pushed next) (rest : List Work) {value : Value}
    (left : Work.visit value ∈ pushed) : value ∈ plan.ahead (item :: rest) := by
  cases steps with
  | enter legal isNode fresh =>
    rcases List.mem_append.1 left with operand | last
    · obtain ⟨read, reads, same⟩ := List.mem_map.1 operand
      cases same
      exact mem_ahead.2 (.inr ⟨_, List.mem_cons_self, Value.mem_tour_of_operand reads value.mem_tour_self⟩)
    · cases List.mem_singleton.1 last
  | component legal origin =>
    cases List.mem_singleton.1 left
    refine mem_ahead.2 (.inr ⟨_, List.mem_cons_self, Value.mem_tour_of_operand ?_ value.mem_tour_self⟩)
    simp [origin, Source.operands]
  | begin target unassigned idle =>
    rcases List.mem_cons.1 left with same | last
    · cases same
      exact mem_ahead.2 (.inl ⟨_, mem_of_lookup target, value.mem_tour_self⟩)
    · cases List.mem_singleton.1 last
  | readBack legal origin => cases List.mem_singleton.1 left
  | _ => exact absurd left List.not_mem_nil

private theorem ahead_subset (steps : plan.Steps walk item pushed next) (rest : List Work) :
    plan.ahead (pushed ++ rest) ⊆ plan.ahead (item :: rest) := by
  intro read member
  rcases mem_ahead.1 member with targeted | ⟨value, waits, on⟩
  · exact mem_ahead.2 (.inl targeted)
  · rcases List.mem_append.1 waits with new | old
    · exact mem_ahead_of_mem_tour (steps.mem_ahead_of_pushed rest new) on
    · exact mem_ahead.2 (.inr ⟨value, List.mem_cons_of_mem _ old, on⟩)

private theorem entered_kept (steps : plan.Steps walk item pushed next) (node : Nat)
    (entered : walk.entered.contains node = true) : next.entered.contains node = true := by
  cases steps with
  | enter legal isNode fresh => exact (NumberSet.contains_insert _ _ _).2 (.inr entered)
  | _ => exact entered

private theorem opened_kept (steps : plan.Steps walk item pushed next) (output : Output)
    (opened : (!walk.isUnopened output) = true) : (!next.isUnopened output) = true := by
  rw [Bool.not_eq_true', ← Bool.not_eq_true] at opened ⊢
  cases steps with
  | begin target unassigned idle => exact fun unopened => opened (Walk.isUnopened_of_begin unopened)
  | close => exact fun unopened => opened (Walk.isUnopened_of_close unopened)
  | _ => exact opened

private theorem nodeTurns_le (steps : plan.Steps walk item pushed next) (rest : List Work) :
    plan.nodeTurns (pushed ++ rest) next ≤ plan.nodeTurns (item :: rest) walk :=
  outstanding_mono (nodesAhead_subset (steps.ahead_subset rest)) steps.entered_kept

private theorem outputTurns_le (steps : plan.Steps walk item pushed next) :
    plan.outputTurns next ≤ plan.outputTurns walk :=
  outstanding_mono (Finset.Subset.refl plan.outputsAhead) steps.opened_kept

private theorem nodeTurns_enter {value : Value} {node : Nat}
    (steps : plan.Steps walk (.visit value) pushed (walk.enter node)) (isNode : value.source.node? = some node)
    (fresh : ¬ walk.entered.contains node = true) (rest : List Work) :
    plan.nodeTurns (pushed ++ rest) (walk.enter node) + value.entryTurns ≤
      plan.nodeTurns (.visit value :: rest) walk := by
  have waits : value ∈ plan.ahead (.visit value :: rest) :=
    mem_ahead.2 (.inr ⟨value, List.mem_cons_self, value.mem_tour_self⟩)
  exact outstanding_mark (nodesAhead_subset (steps.ahead_subset rest)) (mem_nodesAhead waits isNode)
    (Bool.eq_false_iff.2 fresh) ((NumberSet.contains_insert walk.entered node node).2 (.inl rfl)) steps.entered_kept

private theorem outputTurns_begin {output : Output} {value : Value}
    (steps : plan.Steps walk (.assign output) pushed (walk.begin output))
    (target : plan.targets.lookup output = some value) (unopened : walk.isUnopened output = true) :
    plan.outputTurns (walk.begin output) + (value.turns + 1) ≤ plan.outputTurns walk := by
  have listed : (output, value.turns + 1) ∈ plan.outputsAhead :=
    List.mem_toFinset.2 (List.mem_map.2 ⟨_, mem_of_lookup target, rfl⟩)
  have opened : (!(walk.begin output).isUnopened output) = true := by simp [Walk.isUnopened, Walk.begin]
  exact outstanding_mark (Finset.Subset.refl plan.outputsAhead) listed (by rw [unopened, Bool.not_true]) opened
    steps.opened_kept

private theorem turnsLeft_lt (steps : plan.Steps walk item pushed next) (rest : List Work) :
    plan.turnsLeft (pushed ++ rest, next) < plan.turnsLeft (item :: rest, walk) := by
  have nodes := steps.nodeTurns_le rest
  have outputs := steps.outputTurns_le
  have once := item.turns_pos
  simp only [turnsLeft, List.map_append, List.sum_append, List.map_cons, List.sum_cons]
  cases steps with
  | @enter value node legal isNode fresh =>
    have taken := nodeTurns_enter (.enter legal isNode fresh) isNode fresh rest
    have plain := Value.turns_of_node isNode
    rw [Value.entryTurns] at taken
    simp only [List.map_append, List.sum_append, sum_turns_visits, List.map_cons, List.map_nil, List.sum_cons,
      List.sum_nil, Work.turns]
    omega
  | @component value parent letters legal origin =>
    have further : value.turns = parent.turns + 1 := by rw [value.turns_eq, origin, Source.turns]
    simp only [List.map_cons, List.map_nil, List.sum_cons, List.sum_nil, Work.turns]
    omega
  | @readBack value output legal origin =>
    have further : value.turns = 2 := by rw [value.turns_eq, origin, Source.turns]
    simp only [List.map_cons, List.map_nil, List.sum_cons, List.sum_nil, Work.turns]
    omega
  | @begin output value target unassigned idle =>
    have taken := outputTurns_begin (.begin target unassigned idle) target
      ((walk.isUnopened_iff output).2 ⟨idle, unassigned⟩)
    simp only [List.map_cons, List.map_nil, List.sum_cons, List.sum_nil, Work.turns]
    omega
  | _ =>
    rw [List.map_nil, List.sum_nil]
    omega

end Steps

private theorem turnsLeft_lt_of_turn {plan : Plan} {state next : List Work × Walk}
    (taken : plan.turn state = .inl next) :
    plan.turnsLeft next < plan.turnsLeft state := by
  obtain ⟨work, walk⟩ := state
  cases work with
  | nil => cases taken
  | cons item rest =>
    rw [turn] at taken
    cases stepped : plan.step walk item with
    | error cause =>
      rw [stepped] at taken
      cases taken
    | ok left =>
      rw [stepped] at taken
      cases taken
      exact (steps_of_ok stepped).turnsLeft_lt rest

private theorem run_eq_of_turn (plan : Plan) (state : List Work × Walk) :
    plan.run state.1 state.2 = (plan.turn state).elim (fun next => plan.run next.1 next.2) id := by
  obtain ⟨work, walk⟩ := state
  cases work with
  | nil =>
    rw [run]
    rfl
  | cons item rest =>
    rw [run_cons, turn]
    cases plan.step walk item <;> rfl

/-- The stack and the walk that ordering the statements starts with. -/
def opening (plan : Plan) : List Work × Walk :=
  (plan.targets.map (fun target => .assign target.1), .start)

/-- The statements that a plan asks for, if the walk takes no more than some turns. -/
def scheduleFor (plan : Plan) (turns : Nat) : Option (Except Violation (List Statement)) :=
  (loopFor plan.turn turns plan.opening).map (fun ended => do
    let walk ← ended
    return walk.emitted.reverse)

private theorem scheduleFor_eq_some {plan : Plan} {turns : Nat} (enough : plan.turnsLeft plan.opening < turns) :
    plan.scheduleFor turns = some plan.schedule := by
  rw [scheduleFor, loopFor_eq_some turnsLeft_lt_of_turn plan.run_eq_of_turn enough]
  rfl

end Plan

/-- How far the walk through what a document reaches has come: the values that wait on its stack, the keys of those that
it has met, and the sources that it has found. -/
structure Search where
  waiting : List Value
  seen : NumberSet
  found : List Source

/-- The keys of what values depend on, with the number of operands that meeting them puts on the stack. -/
def keysAhead (waiting : List Value) : Finset (Nat × Nat) :=
  ((tourOfAll waiting).map (fun value => (value.key, value.source.operands.length))).toFinset

/-- The turns that the values not yet met can still bring. -/
def keyTurns (waiting : List Value) (seen : NumberSet) : Nat :=
  outstanding (keysAhead waiting) (fun key => seen.contains key)

private theorem keysAhead_subset {first second : List Value} (fewer : tourOfAll first ⊆ tourOfAll second) :
    keysAhead first ⊆ keysAhead second := by
  intro entry member
  rw [keysAhead, List.mem_toFinset] at member ⊢
  exact List.map_subset _ fewer member

private theorem keyTurns_skip (value : Value) (rest : List Value) (seen : NumberSet) :
    keyTurns rest seen ≤ keyTurns (value :: rest) seen :=
  outstanding_mono (keysAhead_subset (fun _ later => mem_tour_cons.2 (.inr later))) (fun _ marked => marked)

private theorem keyTurns_meet {value : Value} {seen : NumberSet} (new : ¬ seen.contains value.key = true)
    (rest : List Value) :
    keyTurns (value.source.operands ++ rest) (seen.insert value.key) + value.source.operands.length ≤
      keyTurns (value :: rest) seen := by
  have fewer : tourOfAll (value.source.operands ++ rest) ⊆ tourOfAll (value :: rest) := by
    intro read member
    obtain ⟨top, waits, on⟩ := mem_tourOfAll.1 member
    rcases List.mem_append.1 waits with operand | later
    · exact mem_tour_cons.2 (.inl (Value.mem_tour_of_operand operand on))
    · exact mem_tour_cons.2 (.inr (mem_tourOfAll.2 ⟨top, later, on⟩))
  have listed : (value.key, value.source.operands.length) ∈ keysAhead (value :: rest) :=
    List.mem_toFinset.2 (List.mem_map.2 ⟨value, mem_tour_cons.2 (.inl value.mem_tour_self), rfl⟩)
  exact outstanding_mark (keysAhead_subset fewer) listed (Bool.eq_false_iff.2 new)
    ((NumberSet.contains_insert seen value.key value.key).2 (.inl rfl))
    (fun other met => (NumberSet.contains_insert seen value.key other).2 (.inr met))

namespace Search

/-- The turns that can still come: those of the stack and of the values not yet met. -/
def turnsLeft (search : Search) : Nat :=
  search.waiting.length + keyTurns search.waiting search.seen

/-- One turn of the walk: a value that was not met before is found, and its operands take its place on the stack. -/
def turn : Search → Search ⊕ List Source
  | ⟨[], _, found⟩ => .inr found
  | ⟨value :: rest, seen, found⟩ =>
    if seen.contains value.key then .inl ⟨rest, seen, found⟩
    else .inl ⟨value.source.operands ++ rest, seen.insert value.key, found ++ [value.source]⟩

/-- All that a walk finds: what it has found, and what it still comes to. -/
def total (search : Search) : List Source :=
  search.found ++ reachableFrom search.waiting search.seen

private theorem turnsLeft_lt_of_turn {search next : Search} (taken : search.turn = .inl next) :
    next.turnsLeft < search.turnsLeft := by
  obtain ⟨waiting, seen, found⟩ := search
  cases waiting with
  | nil => cases taken
  | cons value rest =>
    rw [turn] at taken
    by_cases met : seen.contains value.key = true
    · rw [if_pos met] at taken
      cases taken
      have fewer := keyTurns_skip value rest seen
      simp only [turnsLeft, List.length_cons]
      omega
    · rw [if_neg met] at taken
      cases taken
      have fewer := keyTurns_meet met rest
      simp only [turnsLeft, List.length_cons, List.length_append]
      omega

private theorem total_eq_of_turn (search : Search) : search.total = search.turn.elim total id := by
  obtain ⟨waiting, seen, found⟩ := search
  cases waiting with
  | nil => simp [total, turn, reachableFrom]
  | cons value rest =>
    rw [total, turn, reachableFrom]
    by_cases met : seen.contains value.key = true
    · rw [if_pos met, if_pos met]
      rfl
    · rw [if_neg met, if_neg met, Sum.elim_inl, total, List.append_assoc, List.singleton_append]

end Search

namespace Document

/-- The walk through what a document reaches, before its first turn. -/
def search (document : Document) : Search :=
  ⟨document.writes.map Prod.snd, ∅, []⟩

/-- What a document reaches, if the walk takes no more than some turns. -/
def reachableFor (document : Document) (turns : Nat) : Option (List Source) :=
  loopFor Search.turn turns document.search

private theorem reachableFor_eq_some {document : Document} {turns : Nat} (enough : document.search.turnsLeft < turns) :
    document.reachableFor turns = some document.reachable := by
  rw [reachableFor, loopFor_eq_some Search.turnsLeft_lt_of_turn Search.total_eq_of_turn enough]
  rfl

/-- Both walks of a document end, however its outputs read each other back. Whatever is on the stack and whatever is
marked, a turn leaves fewer turns to come than before; and a walk that is cut off behind all the turns that can come at
the start gives the schedule of the document, or the sources that it reaches. -/
theorem walks_end (document : Document) :
    (∀ state next, document.plan.turn state = .inl next →
      document.plan.turnsLeft next < document.plan.turnsLeft state) ∧
    (∀ turns, document.plan.turnsLeft document.plan.opening < turns →
      document.plan.scheduleFor turns = some document.schedule) ∧
    (∀ search next : Search, search.turn = .inl next → next.turnsLeft < search.turnsLeft) ∧
    (∀ turns, document.search.turnsLeft < turns → document.reachableFor turns = some document.reachable) :=
  ⟨fun _ _ taken => Plan.turnsLeft_lt_of_turn taken, fun _ enough => Plan.scheduleFor_eq_some enough,
    fun _ _ taken => Search.turnsLeft_lt_of_turn taken, fun _ enough => reachableFor_eq_some enough⟩

end Document

end Shading
