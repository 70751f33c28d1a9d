import Shading.Proofs.Showing
import Shading.Proofs.Sources

/-!
# Identities

Values are told apart by their keys and nodes by their numbers, and the walks remember both. None of this shows in what
is generated: two programs whose graphs correspond one to one give the same sources, or errors of the same class with
the same message (`generate_alike`). The correspondence is carried through the walk that collects what is reached,
through the walk that orders the statements, and through the numbering of the temporaries.
-/

namespace Shading

open Glsl

/-- Two sources are of the same form: the same leaf, or the same selection, operator or constructor of corresponding
values, in the same order. -/
inductive Source.Alike (values : Value → Value → Prop) (nodes : Nat → Nat → Prop) : Source → Source → Prop where
  | leaf (leaf : Leaf) : Alike values nodes (.leaf leaf) (.leaf leaf)
  | component (letters : String) {parent parent' : Value} (same : values parent parent') :
      Alike values nodes (.component parent letters) (.component parent' letters)
  | arithmetic (operator : Arithmetic) {node node' : Nat} {lhs lhs' rhs rhs' : Value} (number : nodes node node')
      (left : values lhs lhs') (right : values rhs rhs') :
      Alike values nodes (.arithmetic node operator lhs rhs) (.arithmetic node' operator lhs' rhs')
  | compare (comparison : Comparison) {node node' : Nat} {lhs lhs' rhs rhs' : Value} (number : nodes node node')
      (left : values lhs lhs') (right : values rhs rhs') :
      Alike values nodes (.compare node comparison lhs rhs) (.compare node' comparison lhs' rhs')
  | branch {node node' : Nat} {condition condition' success success' failure failure' : Value}
      (number : nodes node node') (asked : values condition condition') (left : values success success')
      (right : values failure failure') :
      Alike values nodes (.branch node condition success failure) (.branch node' condition' success' failure')
  | sample (filter : Filter) {node node' : Nat} {texture texture' coordinate coordinate' : Value}
      (number : nodes node node') (left : values texture texture') (right : values coordinate coordinate') :
      Alike values nodes (.sample node filter texture coordinate) (.sample node' filter texture' coordinate')
  | lerp {node node' : Nat} {lhs lhs' rhs rhs' factor factor' : Value} (number : nodes node node')
      (left : values lhs lhs') (right : values rhs rhs') (by_ : values factor factor') :
      Alike values nodes (.lerp node lhs rhs factor) (.lerp node' lhs' rhs' factor')
  | construct (type : ShaderType) {node node' : Nat} {parts parts' : List Value} (number : nodes node node')
      (each : List.Forall₂ values parts parts') :
      Alike values nodes (.construct node type parts) (.construct node' type parts')

/-- A correspondence between two graphs. It pairs values of the same type and of the same form, and the identities of
values and of nodes one to one, so that what is shared in the one graph is shared in the other. -/
structure Correspondence where
  values : Value → Value → Prop
  nodes : Nat → Nat → Prop
  types : ∀ {first second : Value}, values first second → first.type = second.type
  sources : ∀ {first second : Value}, values first second → first.source.Alike values nodes second.source
  keys : ∀ {first second other another : Value}, values first second → values other another →
    (first.key = other.key ↔ second.key = another.key)
  numbers : ∀ {first second other another : Nat}, nodes first second → nodes other another →
    (first = other ↔ second = another)

section

variable {values : Value → Value → Prop} {nodes : Nat → Nat → Prop} {first second : Source}

theorem Source.Alike.operands (alike : first.Alike values nodes second) :
    List.Forall₂ values first.operands second.operands := by
  cases alike with
  | leaf => exact .nil
  | component _ same => exact .cons same .nil
  | arithmetic _ _ left right | compare _ _ left right | sample _ _ left right => exact .cons left (.cons right .nil)
  | branch _ asked left right => exact .cons asked (.cons left (.cons right .nil))
  | lerp _ left right factor => exact .cons left (.cons right (.cons factor .nil))
  | construct _ _ each => exact each

theorem Source.Alike.node? (alike : first.Alike values nodes second) : Option.Rel nodes first.node? second.node? := by
  cases alike with
  | leaf | component => exact .none
  | arithmetic _ number | compare _ number | branch number | sample _ number | lerp number | construct _ number =>
    exact .some number

private theorem Source.Alike.shape (alike : first.Alike values nodes second) :
    (∃ node other, nodes node other ∧ first.node? = some node ∧ second.node? = some other) ∨
      (∃ leaf, first = .leaf leaf ∧ second = .leaf leaf) ∨
      ∃ parent other letters, values parent other ∧ first = .component parent letters ∧
        second = .component other letters := by
  cases alike with
  | leaf leaf => exact .inr (.inl ⟨leaf, rfl, rfl⟩)
  | component letters same => exact .inr (.inr ⟨_, _, letters, same, rfl, rfl⟩)
  | arithmetic _ number | compare _ number | branch number | sample _ number | lerp number | construct _ number =>
    exact .inl ⟨_, _, number, rfl, rfl⟩

theorem Source.Alike.vertexAttribute? (alike : first.Alike values nodes second) :
    first.vertexAttribute? = second.vertexAttribute? := by
  cases alike <;> rfl

private theorem map_eq_of_forall₂ {α β : Type} {Related : α → α → Prop} {change : α → β} {entries others : List α}
    (pairs : List.Forall₂ Related entries others)
    (same : ∀ entry ∈ entries, ∀ other, Related entry other → change entry = change other) :
    entries.map change = others.map change := by
  induction pairs with
  | nil => rfl
  | cons related _ ih =>
    rw [List.map_cons, List.map_cons, same _ List.mem_cons_self _ related,
      ih (fun entry member => same entry (List.mem_cons_of_mem _ member))]

/-- Sources of the same form look the same if their operands do. -/
theorem Source.Alike.display_eq (alike : first.Alike values nodes second)
    (below : ∀ operand ∈ first.operands, ∀ other, values operand other → operand.display = other.display) :
    first.display = second.display := by
  have read : ∀ {operand other : Value}, operand ∈ first.operands → values operand other →
      operand.display = other.display := fun member same => below _ member _ same
  cases alike with
  | leaf => rfl
  | component letters same =>
    rw [Source.display_component, Source.display_component, read (by simp [Source.operands]) same]
  | arithmetic _ _ left right =>
    rw [Source.display_arithmetic, Source.display_arithmetic, read (by simp [Source.operands]) left,
      read (by simp [Source.operands]) right]
  | compare _ _ left right =>
    rw [Source.display_compare, Source.display_compare, read (by simp [Source.operands]) left,
      read (by simp [Source.operands]) right]
  | branch _ asked left right =>
    rw [Source.display_branch, Source.display_branch, read (by simp [Source.operands]) left,
      read (by simp [Source.operands]) asked, read (by simp [Source.operands]) right]
  | sample _ _ left right =>
    rw [Source.display_sample, Source.display_sample, read (by simp [Source.operands]) left,
      read (by simp [Source.operands]) right]
  | lerp _ left right factor =>
    rw [Source.display_lerp, Source.display_lerp, read (by simp [Source.operands]) left,
      read (by simp [Source.operands]) factor, read (by simp [Source.operands]) right]
  | construct type number each =>
    have shown := map_eq_of_forall₂ each below
    rw [Source.display_construct, Source.display_construct, shown]

/-- Sources of the same form can be shown alike if their operands can. -/
theorem Source.Alike.displayFault?_eq {levels : Option Nat} (alike : first.Alike values nodes second)
    (below : ∀ operand ∈ first.operands, ∀ other, values operand other →
      operand.displayFault? levels = other.displayFault? levels) :
    first.displayFault? levels = second.displayFault? levels := by
  have read : ∀ {operand other : Value}, operand ∈ first.operands → values operand other →
      operand.displayFault? levels = other.displayFault? levels := fun member same => below _ member _ same
  cases alike with
  | leaf => rfl
  | component letters same => exact read (by simp [Source.operands]) same
  | arithmetic _ _ left right | compare _ _ left right | sample _ _ left right =>
    simp only [Source.displayFault?, read (by simp [Source.operands]) left, read (by simp [Source.operands]) right]
  | branch _ asked left right =>
    simp only [Source.displayFault?, read (by simp [Source.operands]) left, read (by simp [Source.operands]) asked,
      read (by simp [Source.operands]) right]
  | lerp _ left right factor =>
    simp only [Source.displayFault?, read (by simp [Source.operands]) left, read (by simp [Source.operands]) factor,
      read (by simp [Source.operands]) right]
  | construct type number each =>
    simp only [Source.displayFault?]
    simp only [Source.operands] at below
    clear read
    induction each with
    | nil => rfl
    | cons related _ ih =>
      simp only [displayFaultOfAll?]
      rw [below _ List.mem_cons_self _ related, ih (fun operand member => below operand (List.mem_cons_of_mem _ member))]

end

/-- Corresponding values look the same, since the display form of a value spells its graph out without its identities. -/
theorem Correspondence.display_eq (c : Correspondence) {first second : Value} (same : c.values first second) :
    first.display = second.display := by
  have below : ∀ operand ∈ first.source.operands, ∀ other, c.values operand other →
      operand.display = other.display := fun operand read other related => c.display_eq related
  rw [first.display_eq, second.display_eq, c.types same, (c.sources same).display_eq below]
termination_by first.source.size
decreasing_by
  exact Source.size_lt_of_operand read

/-- Corresponding values can be shown alike. -/
theorem Correspondence.displayFault?_eq (c : Correspondence) (levels : Option Nat) {first second : Value}
    (same : c.values first second) : first.displayFault? levels = second.displayFault? levels := by
  have below : ∀ operand ∈ first.source.operands, ∀ other, c.values operand other →
      operand.displayFault? (levels.map (· - 1)) = other.displayFault? (levels.map (· - 1)) :=
    fun operand read other related => c.displayFault?_eq _ related
  rw [first.displayFault?_eq, second.displayFault?_eq, (c.sources same).displayFault?_eq below]
termination_by first.source.size
decreasing_by
  exact Source.size_lt_of_operand read

/-- Two errors cannot be told apart: they are of one class and have one message. -/
def Error.Alike (first second : Error) : Prop :=
  first.exception = second.exception ∧ first.message = second.message

private theorem Error.alike_refl (error : Error) : error.Alike error := ⟨rfl, rfl⟩

/-- What arises in the place of two errors cannot be told apart, however much can be shown. -/
def Error.RaisedAlike (first second : Error) : Prop :=
  ∀ levels, (first.raised levels).Alike (second.raised levels)

private theorem Error.raisedAlike_refl (error : Error) : error.RaisedAlike error := fun _ => Error.alike_refl _

private theorem Error.raisedAlike_of_violations {first second : Violation} (messages : first.message = second.message)
    (faults : ∀ levels, first.displayFault? levels = second.displayFault? levels) :
    (Error.violation first).RaisedAlike (.violation second) := by
  intro levels
  cases faulty : second.displayFault? levels with
  | none =>
    rw [Error.raised_of_shown faulty, Error.raised_of_shown ((faults levels).trans faulty)]
    exact ⟨rfl, messages⟩
  | some fault =>
    rw [Error.raised_of_fault faulty, Error.raised_of_fault ((faults levels).trans faulty)]
    exact Error.alike_refl _

private theorem Correspondence.undeclared_alike (c : Correspondence) {first second : Value}
    (same : c.values first second) :
    (Error.violation (.undeclared first)).RaisedAlike (.violation (.undeclared second)) :=
  Error.raisedAlike_of_violations (congrArg (· ++ " is used before it is declared") (c.display_eq same))
    (fun levels => c.displayFault?_eq levels same)

private theorem Correspondence.needsNoDeclaration_alike (c : Correspondence) {first second : Value}
    (same : c.values first second) :
    (Error.violation (.needsNoDeclaration first)).RaisedAlike (.violation (.needsNoDeclaration second)) :=
  Error.raisedAlike_of_violations (congrArg (· ++ " needs no declaration") (c.display_eq same))
    (fun levels => c.displayFault?_eq levels same)

/-- Two results agree: both are there and are related, or both fail with related errors. -/
inductive Agree {ε α β : Type} (Errors : ε → ε → Prop) (Results : α → β → Prop) : Except ε α → Except ε β → Prop where
  | error {first second : ε} (same : Errors first second) : Agree Errors Results (.error first) (.error second)
  | ok {first : α} {second : β} (same : Results first second) : Agree Errors Results (.ok first) (.ok second)

namespace Agree

variable {ε α β γ δ : Type} {Errors : ε → ε → Prop} {Results : α → β → Prop} {Last : γ → δ → Prop}

theorem bind {first : Except ε α} {second : Except ε β} {rest : α → Except ε γ} {others : β → Except ε δ}
    (begun : Agree Errors Results first second)
    (next : ∀ result other, Results result other → Agree Errors Last (rest result) (others other)) :
    Agree Errors Last (first >>= rest) (second >>= others) := by
  cases begun with
  | error same => exact .error same
  | ok same => exact next _ _ same

private theorem bind_eq {first second : Except ε α} {rest : α → Except ε γ} {others : α → Except ε δ}
    (begun : Agree Errors Eq first second) (next : ∀ result, Agree Errors Last (rest result) (others result)) :
    Agree Errors Last (first >>= rest) (second >>= others) := by
  refine begun.bind ?_
  rintro result _ rfl
  exact next result

private theorem map_eq {first second : Except ε α} (begun : Agree Errors Eq first second) (change : α → β) :
    Agree Errors Eq (first.map change) (second.map change) := by
  cases begun with
  | error same => exact .error same
  | ok same => exact .ok (congrArg change same)

theorem mapM {run : α → Except ε γ} {other : β → Except ε γ} {entries : List α} {others : List β}
    (pairs : List.Forall₂ Results entries others)
    (each : ∀ entry another, Results entry another → Agree Errors Eq (run entry) (other another)) :
    Agree Errors Eq (entries.mapM run) (others.mapM other) := by
  induction pairs with
  | nil => exact .ok rfl
  | cons related _ ih =>
    rw [List.mapM_cons, List.mapM_cons]
    exact (each _ _ related).bind_eq (fun result => ih.bind_eq (fun results => .ok rfl))

private theorem of_eq {first second : Except ε α} (refl : ∀ error, Errors error error) (same : first = second) :
    Agree Errors Eq first second := by
  subst same
  cases first with
  | error error => exact .error (refl error)
  | ok => exact .ok rfl

/-- Equal violations are errors that cannot be told apart. -/
theorem liftViolation {first : Except Violation α} {second : Except Violation β} (begun : Agree Eq Results first second) :
    Agree Error.RaisedAlike Results (Glsl.liftViolation first) (Glsl.liftViolation second) := by
  cases begun with
  | error same =>
    subst same
    exact .error (Error.raisedAlike_refl _)
  | ok same => exact .ok same

theorem report (generator : Generator) {first : Except Error α} {second : Except Error β}
    (agree : Agree Error.RaisedAlike Results first second) :
    Agree Error.Alike Results (generator.report first) (generator.report second) := by
  cases agree with
  | error same => exact .error (same generator.levels)
  | ok same => exact .ok same

end Agree

namespace Correspondence

variable (c : Correspondence)

/-- The values met in two walks are the same ones. -/
def SameKeys (seen others : NumberSet) : Prop :=
  ∀ {first second : Value}, c.values first second → (seen.contains first.key = true ↔ others.contains second.key = true)

variable {c}

theorem SameKeys.insert {seen others : NumberSet} (met : c.SameKeys seen others) {first second : Value}
    (same : c.values first second) : c.SameKeys (seen.insert first.key) (others.insert second.key) := by
  intro value another related
  rw [NumberSet.contains_insert, NumberSet.contains_insert, c.keys same related, met related]

private theorem reachableFrom_alike {waiting others : List Value} {seen otherSeen : NumberSet}
    (pairs : List.Forall₂ c.values waiting others) (met : c.SameKeys seen otherSeen) :
    List.Forall₂ (Source.Alike c.values c.nodes) (reachableFrom waiting seen) (reachableFrom others otherSeen) := by
  fun_induction reachableFrom waiting seen generalizing others otherSeen with
  | case1 seen =>
    cases pairs
    rw [reachableFrom]
    exact .nil
  | case2 seen value rest known ih =>
    obtain ⟨other, remaining, same, later, rfl⟩ := List.forall₂_cons_left_iff.1 pairs
    rw [reachableFrom, if_pos ((met same).1 known)]
    exact ih later met
  | case3 seen value rest fresh ih =>
    obtain ⟨other, remaining, same, later, rfl⟩ := List.forall₂_cons_left_iff.1 pairs
    rw [reachableFrom, if_neg (fun known => fresh ((met same).2 known))]
    exact .cons (c.sources same) (ih (List.rel_append (c.sources same).operands later) (met.insert same))

end Correspondence

private theorem checkReads_alike {values : Value → Value → Prop} {nodes : Nat → Nat → Prop}
    {sources others : List Source} (bound : List Attribute)
    (pairs : List.Forall₂ (Source.Alike values nodes) sources others) :
    checkReads bound sources = checkReads bound others := by
  induction pairs with
  | nil => rfl
  | cons alike _ ih =>
    have same := alike.vertexAttribute?
    rw [checkReads, checkReads, same, ih]

section

variable (c : Correspondence)

/-- Plans of corresponding stages. -/
structure Plan.Alike (plan other : Plan) : Prop where
  stage : plan.stage = other.stage
  targets : List.Forall₂ (fun target another => target.1 = another.1 ∧ c.values target.2 another.2) plan.targets
    other.targets
  uniforms : plan.uniforms = other.uniforms

/-- Corresponding statements. -/
inductive Statement.Alike : Statement → Statement → Prop where
  | declare {value other : Value} (same : c.values value other) : Alike (.declare value) (.declare other)
  | assign (output : Output) {value other : Value} (same : c.values value other) :
      Alike (.assign output value) (.assign output other)

/-- Corresponding items of work. -/
inductive Work.Alike : Work → Work → Prop where
  | visit {value other : Value} (same : c.values value other) : Alike (.visit value) (.visit other)
  | declare {value other : Value} (same : c.values value other) : Alike (.declare value) (.declare other)
  | assign (output : Output) : Alike (.assign output) (.assign output)
  | close (output : Output) {value other : Value} (same : c.values value other) :
      Alike (.close output value) (.close output other)

/-- Walks that have come equally far. -/
structure Walk.Alike (walk other : Walk) : Prop where
  entered : ∀ {node another : Nat}, c.nodes node another →
    (walk.entered.contains node = true ↔ other.entered.contains another = true)
  pending : walk.pending = other.pending
  assigned : walk.assigned = other.assigned
  emitted : List.Forall₂ (Statement.Alike c) walk.emitted other.emitted

variable {c}

private theorem Walk.alike_start : Walk.start.Alike c Walk.start :=
  ⟨by simp [Walk.start], rfl, rfl, .nil⟩

theorem Plan.Alike.checkSource {plan other : Plan} (plans : plan.Alike c other) {first second : Source}
    (alike : first.Alike c.values c.nodes second) : plan.checkSource first = other.checkSource second := by
  cases alike with
  | leaf leaf =>
    unfold Plan.checkSource
    rw [plans.stage, plans.uniforms]
  | _ => rfl

/-- The value of an output in one plan corresponds to that in the other. -/
theorem Plan.Alike.lookup {plan other : Plan} (plans : plan.Alike c other) (output : Output) :
    Option.Rel c.values (plan.targets.lookup output) (other.targets.lookup output) := by
  have pairs := plans.targets
  generalize plan.targets = targets at pairs
  generalize other.targets = others at pairs
  induction pairs with
  | nil => exact .none
  | @cons target another _ _ same _ ih =>
    obtain ⟨name, value⟩ := target
    obtain ⟨rfl, related⟩ : name = another.1 ∧ c.values value another.2 := same
    rw [List.lookup_cons, List.lookup_cons]
    by_cases found : output = another.1
    · subst found
      simpa using Option.Rel.some related
    · have differs : (output == another.1) = false := by simpa using found
      simpa [differs] using ih

variable (c) in
/-- What a step leaves in two walks: corresponding work, and walks that have come equally far. -/
structure LeftAlike (left others : List Work × Walk) : Prop where
  work : List.Forall₂ (Work.Alike c) left.1 others.1
  walk : left.2.Alike c others.2

variable {plan other : Plan} {walk another : Walk}

theorem Walk.Alike.enter (walks : walk.Alike c another) {node number : Nat} (same : c.nodes node number) :
    (walk.enter node).Alike c (another.enter number) := by
  refine ⟨fun related => ?_, walks.pending, walks.assigned, walks.emitted⟩
  simp only [Walk.enter, NumberSet.contains_insert]
  rw [c.numbers same related, walks.entered related]

theorem Plan.Alike.visit (plans : plan.Alike c other) (walks : walk.Alike c another) {first second : Value}
    (same : c.values first second) : Agree Eq (LeftAlike c) (plan.visit walk first) (other.visit another second) := by
  have alike := c.sources same
  unfold Plan.visit
  rw [plans.checkSource alike]
  cases other.checkSource second.source with
  | error => exact .error rfl
  | ok =>
    -- Both sources have a node or none, and corresponding nodes were both entered or neither.
    rcases alike.shape with ⟨node, number, related, isNode, isNumber⟩ | ⟨leaf, origin, otherOrigin⟩ |
      ⟨parent, otherParent, letters, parents, origin, otherOrigin⟩
    · simp only [isNode, isNumber, bind, Except.bind]
      by_cases entered : walk.entered.contains node = true
      · rw [if_pos entered, if_pos ((walks.entered related).1 entered)]
        exact .ok ⟨.nil, walks⟩
      · rw [if_neg entered, if_neg (fun known => entered ((walks.entered related).2 known))]
        refine .ok ⟨List.rel_append ?_ (.cons (.declare same) .nil), walks.enter related⟩
        exact List.rel_map (fun _ _ operands => .visit operands) alike.operands
    · rw [origin, otherOrigin]
      cases leaf with
      | output output => exact .ok ⟨.cons (.assign output) .nil, walks⟩
      | _ => exact .ok ⟨.nil, walks⟩
    · rw [origin, otherOrigin]
      exact .ok ⟨.cons (.visit parents) .nil, walks⟩

theorem Plan.Alike.assign (plans : plan.Alike c other) (walks : walk.Alike c another) (output : Output) :
    Agree Eq (LeftAlike c) (plan.assign walk output) (other.assign another output) := by
  have found := plans.lookup output
  unfold Plan.assign
  rw [walks.assigned, walks.pending]
  generalize plan.targets.lookup output = target at found
  generalize other.targets.lookup output = otherTarget at found
  cases found with
  | none => exact .error rfl
  | some same =>
    dsimp only
    by_cases done : output ∈ another.assigned
    · rw [if_pos done, if_pos done]
      exact .ok ⟨.nil, walks⟩
    · rw [if_neg done, if_neg done]
      by_cases waits : output ∈ another.pending
      · rw [if_pos waits, if_pos waits]
        exact .error rfl
      · rw [if_neg waits, if_neg waits]
        refine .ok ⟨.cons (.visit same) (.cons (.close output same) .nil), ?_⟩
        exact ⟨walks.entered, congrArg (output :: ·) walks.pending, walks.assigned, walks.emitted⟩

/-- Corresponding items of work leave corresponding work, or stop for the same reason. -/
theorem Plan.Alike.step (plans : plan.Alike c other) (walks : walk.Alike c another) {item otherItem : Work}
    (items : item.Alike c otherItem) : Agree Eq (LeftAlike c) (plan.step walk item) (other.step another otherItem) := by
  cases items with
  | visit same => exact plans.visit walks same
  | declare same => exact .ok ⟨.nil, walks.entered, walks.pending, walks.assigned, .cons (.declare same) walks.emitted⟩
  | assign output => exact plans.assign walks output
  | close output same =>
    refine .ok ⟨.nil, walks.entered, ?_, ?_, .cons (.assign output same) walks.emitted⟩
    · exact congrArg (List.erase · output) walks.pending
    · exact congrArg (output :: ·) walks.assigned

/-- Walks through corresponding work end equally far, or stop for the same reason. -/
theorem Plan.Alike.run (plans : plan.Alike c other) {work otherWork : List Work}
    (items : List.Forall₂ (Work.Alike c) work otherWork) (walks : walk.Alike c another) :
    Agree Eq (Walk.Alike c) (plan.run work walk) (other.run otherWork another) := by
  fun_induction Plan.run plan work walk generalizing otherWork another with
  | case1 walk =>
    cases items
    rw [Plan.run]
    exact .ok walks
  | case2 walk item rest cause stopped =>
    obtain ⟨otherItem, remaining, same, later, rfl⟩ := List.forall₂_cons_left_iff.1 items
    have left := plans.step walks same
    rw [stopped] at left
    rw [Plan.run_cons]
    generalize other.step another otherItem = otherLeft at left
    cases left with
    | error same => exact .error same
  | case3 walk item rest pushed next stepped ih =>
    obtain ⟨otherItem, remaining, same, later, rfl⟩ := List.forall₂_cons_left_iff.1 items
    have left := plans.step walks same
    rw [stepped] at left
    rw [Plan.run_cons]
    generalize other.step another otherItem = otherLeft at left
    cases left with
    | ok same => exact ih (List.rel_append same.work later) same.walk

theorem Plan.Alike.schedule (plans : plan.Alike c other) :
    Agree Eq (List.Forall₂ (Statement.Alike c)) plan.schedule other.schedule := by
  have items : List.Forall₂ (Work.Alike c) (plan.targets.map (fun target => .assign target.1))
      (other.targets.map (fun target => .assign target.1)) := by
    refine List.rel_map ?_ plans.targets
    rintro ⟨output, value⟩ ⟨name, another⟩ ⟨rfl, _⟩
    exact .assign _
  refine (plans.run items Walk.alike_start).bind ?_
  intro walk another walks
  exact .ok (List.rel_reverse walks.emitted)

end

section

variable {c : Correspondence}

variable (c) in
/-- Temporaries that are given to corresponding nodes. -/
structure Glsl.Temporaries.Alike (temporaries others : Temporaries) : Prop where
  count : temporaries.count = others.count
  numbers : ∀ {entry other : Option Nat}, Option.Rel c.nodes entry other →
    temporaries.numbers[entry]? = others.numbers[other]?

private theorem Glsl.Temporaries.alike_start (stage : Option Stage) :
    (Temporaries.start stage).Alike c (Temporaries.start stage) :=
  ⟨rfl, fun _ => (Numbering.lookup_empty _).trans (Numbering.lookup_empty _).symm⟩

/-- Corresponding entries are the same entry or not. -/
theorem Correspondence.entries {first second other another : Option Nat} (same : Option.Rel c.nodes first second)
    (related : Option.Rel c.nodes other another) : first = other ↔ second = another := by
  cases same with
  | none => cases related <;> simp
  | some same =>
    cases related with
    | none => simp
    | some related => simpa using c.numbers same related

namespace Glsl.Temporaries.Alike

variable {temporaries others : Temporaries}

theorem declare (alike : temporaries.Alike c others) {entry other : Option Nat}
    (same : Option.Rel c.nodes entry other) :
    Agree Eq (fun declared another => declared.1 = another.1 ∧ declared.2.Alike c another.2)
      (temporaries.declare entry) (others.declare other) := by
  have known : temporaries.numbers.contains entry = others.numbers.contains other := by
    rw [Numbering.contains_eq, Numbering.contains_eq, alike.numbers same]
  unfold Temporaries.declare
  rw [alike.count, known]
  cases fresh : others.numbers.contains other with
  | true => exact .error rfl
  | false =>
    refine .ok ⟨rfl, ?_, ?_⟩
    · have size := Numbering.size_insert _ entry others.count (known.trans fresh)
      have otherSize := Numbering.size_insert _ other others.count fresh
      exact size.trans ((congrArg (· + 1) alike.count).trans otherSize.symm)
    · intro node number related
      dsimp only
      rw [Numbering.lookup_insert, Numbering.lookup_insert, alike.numbers related]
      exact if_congr (c.entries same related) rfl rfl

/-- Corresponding values are referred to in the same way. -/
theorem reference (alike : temporaries.Alike c others) {first second : Value}
    (same : c.values first second) :
    Agree Error.RaisedAlike Eq (temporaries.reference first) (others.reference second) := by
  induction first using Value.component_induction generalizing second with
  | plain first plain =>
    rw [Temporaries.reference_eq, Temporaries.reference_eq]
    rcases (c.sources same).shape with ⟨node, number, related, isNode, isNumber⟩ | ⟨leaf, origin, otherOrigin⟩ |
      ⟨parent, otherParent, letters, parents, origin, otherOrigin⟩
    · have index : temporaries.index? node = others.index? number := alike.numbers (.some related)
      simp only [isNode, isNumber, index]
      cases others.index? number with
      | none => exact .error (c.undeclared_alike same)
      | some => exact .ok rfl
    · rw [origin, otherOrigin]
      exact .of_eq Error.raisedAlike_refl rfl
    · exact absurd origin (plain parent letters)
  | component first parent letters origin ih =>
    have sources := c.sources same
    rw [origin] at sources
    generalize otherOrigin : second.source = source at sources
    cases sources with
    | component _ parents =>
      rw [Temporaries.reference_of_component origin, Temporaries.reference_of_component otherOrigin]
      exact (ih parents).bind_eq (fun reference => .ok rfl)

theorem operationExpression (alike : temporaries.Alike c others) (branching : Branching)
    {first second : Source} (sources : first.Alike c.values c.nodes second) :
    Agree Error.RaisedAlike Eq (operationExpression temporaries branching first)
      (operationExpression others branching second) := by
  cases sources with
  | leaf | component | construct => exact .ok rfl
  | arithmetic _ _ left right | compare _ _ left right | sample _ _ left right =>
    exact (alike.reference left).bind_eq (fun _ => (alike.reference right).bind_eq (fun _ => .ok rfl))
  | branch _ asked left right =>
    refine (alike.reference left).bind_eq (fun _ => (alike.reference right).bind_eq (fun _ => ?_))
    cases branching with
    | ternary => exact (alike.reference asked).bind_eq (fun _ => .ok rfl)
    | refused backend => exact .error (Error.raisedAlike_refl _)
  | lerp _ left right factor =>
    refine (alike.reference left).bind_eq (fun _ => (alike.reference right).bind_eq (fun _ => ?_))
    exact (alike.reference factor).bind_eq (fun _ => .ok rfl)

theorem constructExpression (alike : temporaries.Alike c others) {first second : Source}
    (sources : first.Alike c.values c.nodes second) :
    Agree Error.RaisedAlike Eq (constructExpression temporaries first) (constructExpression others second) := by
  cases sources with
  | construct type _ each =>
    have arguments := Agree.mapM each (fun _ _ same => alike.reference same)
    exact arguments.bind_eq (fun _ => (Agree.of_eq Error.raisedAlike_refl rfl).bind_eq (fun _ => .ok rfl))
  | _ => exact .ok rfl

theorem expressionOf (alike : temporaries.Alike c others) (branching : Branching) {first second : Value}
    (same : c.values first second) :
    Agree Error.RaisedAlike Eq (expressionOf temporaries branching first) (expressionOf others branching second) := by
  refine (alike.operationExpression branching (c.sources same)).bind_eq (fun operation => ?_)
  cases operation with
  | some => exact .ok rfl
  | none =>
    refine (alike.constructExpression (c.sources same)).bind_eq (fun construct => ?_)
    cases construct with
    | some => exact .ok rfl
    | none => exact .error (c.needsNoDeclaration_alike same)

end Glsl.Temporaries.Alike

variable (c) in
/-- What a statement is rendered as: the same instruction, and temporaries of corresponding nodes. -/
def RenderedAlike (first second : Instruction × Temporaries) : Prop :=
  first.1 = second.1 ∧ first.2.Alike c second.2

variable {temporaries others : Temporaries}

theorem Statement.Alike.instructionOf (alike : temporaries.Alike c others) (branching : Branching)
    {first second : Statement} (same : first.Alike c second) :
    Agree Error.RaisedAlike (RenderedAlike c) (instructionOf temporaries branching first)
      (instructionOf others branching second) := by
  cases same with
  | declare same =>
    refine (alike.expressionOf branching same).bind_eq (fun expression => ?_)
    refine (alike.declare (c.sources same).node?).liftViolation.bind ?_
    rintro ⟨name, next⟩ ⟨_, another⟩ ⟨rfl, nexts⟩
    rw [c.types same]
    exact (Agree.of_eq Error.raisedAlike_refl rfl).bind_eq (fun type => .ok ⟨rfl, nexts⟩)
  | assign output same => exact (alike.reference same).bind_eq (fun reference => .ok ⟨rfl, alike⟩)

private theorem instructionsOf_alike (branching : Branching) (alike : temporaries.Alike c others)
    {statements another : List Statement} (pairs : List.Forall₂ (Statement.Alike c) statements another) :
    Agree Error.RaisedAlike Eq (instructionsOf branching temporaries statements).1
      (instructionsOf branching others another).1 := by
  induction pairs generalizing temporaries others with
  | nil => exact .ok rfl
  | cons same _ ih =>
    rw [instructionsOf_cons, instructionsOf_cons]
    refine (same.instructionOf alike branching).bind ?_
    rintro ⟨instruction, next⟩ ⟨_, otherNext⟩ ⟨rfl, nexts⟩
    exact (ih nexts).bind_eq (fun instructions => .ok rfl)

end

/-- What is declared of a uniform: its type, and the index and type of its source. -/
def Value.uniformEntry (value : Value) : ShaderType × Option (Int × ShaderType) :=
  (value.type, value.source.uniform?)

/-- The uniforms of a stage in the order of their declaration, without their identities. -/
def Resources.uniformEntries (resources : Resources) : List (ShaderType × Option (Int × ShaderType)) :=
  resources.uniforms.values.map Value.uniformEntry

private theorem Value.uniformIndex_eq (value : Value) : value.uniformIndex =
    (value.uniformEntry.2.map Prod.fst).getD 0 := by
  unfold Value.uniformIndex Value.uniformEntry Source.uniform?
  split <;> simp_all

private theorem Resources.map_uniformsByIndex (resources : Resources) :
    resources.uniformsByIndex.map Value.uniformEntry = resources.uniformEntries.mergeSort
      (fun first second => decide ((first.2.map Prod.fst).getD 0 ≤ (second.2.map Prod.fst).getD 0)) := by
  refine List.map_mergeSort (fun first _ second _ => ?_)
  rw [first.uniformIndex_eq, second.uniformIndex_eq]

section

variable {resources others : Resources} (same : resources.uniformEntries = others.uniformEntries)

include same

private theorem map_uniformsByIndex_eq :
    resources.uniformsByIndex.map Value.uniformEntry = others.uniformsByIndex.map Value.uniformEntry := by
  rw [resources.map_uniformsByIndex, others.map_uniformsByIndex, same]

private theorem filterMap_uniformsByIndex_eq :
    resources.uniformsByIndex.filterMap (fun value => value.source.uniform?) =
      others.uniformsByIndex.filterMap (fun value => value.source.uniform?) := by
  have listed := congrArg (List.filterMap Prod.snd) (map_uniformsByIndex_eq same)
  rw [List.filterMap_map, List.filterMap_map] at listed
  exact listed

private theorem uniformDeclarations_eq : uniformDeclarations resources = uniformDeclarations others := by
  have declared : ∀ found : Resources, uniformDeclarations found =
      (found.uniformsByIndex.map Value.uniformEntry).mapM (fun entry => do
        let type ← liftViolation (spelling entry.1)
        return .uniform type (uniformName ((entry.2.map Prod.fst).getD 0))) := by
    intro found
    rw [List.mapM_map]
    simp only [uniformDeclarations, Value.uniformIndex_eq]
    rfl
  rw [declared, declared, map_uniformsByIndex_eq same]

end

section

variable {c : Correspondence}

variable (c) in
/-- Vertex stages that declare the same and write corresponding values in the same order. -/
structure VertexShader.Alike (vertex other : VertexShader) : Prop where
  uniforms : vertex.resources.uniformEntries = other.resources.uniformEntries
  position : Option.Rel c.values vertex.position other.position
  pointSize : Option.Rel c.values vertex.pointSize other.pointSize
  outputs : List.Forall₂ (fun entry another => entry.1 = another.1 ∧ c.values entry.2 another.2) vertex.outputs.entries
    other.outputs.entries

variable (c) in
/-- Fragment stages that declare the same and write corresponding colors. -/
structure FragmentShader.Alike (fragment other : FragmentShader) : Prop where
  uniforms : fragment.resources.uniformEntries = other.resources.uniformEntries
  inputs : fragment.inputTypes = other.inputTypes
  color : Option.Rel c.values fragment.color other.color

theorem VertexShader.Alike.outputTypes {vertex other : VertexShader} (vertices : vertex.Alike c other) :
    vertex.outputTypes = other.outputTypes := by
  refine map_eq_of_forall₂ vertices.outputs ?_
  rintro ⟨name, value⟩ _ ⟨_, another⟩ ⟨rfl, same⟩
  exact congrArg (Prod.mk name) (c.types same)

private theorem forall₂_toList {values : Value → Value → Prop} {first second : Option Value} (output : Output)
    (same : Option.Rel values first second) :
    List.Forall₂ (fun target another => target.1 = another.1 ∧ values target.2 another.2)
      (first.map (fun value => (output, value))).toList (second.map (fun value => (output, value))).toList := by
  cases same with
  | none => exact .nil
  | some related => exact .cons ⟨rfl, related⟩ .nil

theorem VertexShader.Alike.plan {vertex other : VertexShader} (vertices : vertex.Alike c other) :
    (Document.vertex vertex).plan.Alike c (Document.vertex other).plan := by
  refine ⟨rfl, ?_, filterMap_uniformsByIndex_eq vertices.uniforms⟩
  refine List.rel_append (List.rel_append ?_ ?_) (List.rel_map ?_ vertices.outputs)
  · exact forall₂_toList .position vertices.position
  · exact forall₂_toList .pointSize vertices.pointSize
  · rintro ⟨name, value⟩ ⟨_, another⟩ ⟨rfl, same⟩
    exact ⟨rfl, same⟩

theorem FragmentShader.Alike.plan {fragment other : FragmentShader} (fragments : fragment.Alike c other) :
    (Document.fragment fragment).plan.Alike c (Document.fragment other).plan :=
  ⟨rfl, forall₂_toList .color fragments.color, filterMap_uniformsByIndex_eq fragments.uniforms⟩

/-- Corresponding stages fit the same stages and attributes, or fail to for the same reason. -/
theorem VertexShader.Alike.checkLink {vertex other : VertexShader} (vertices : vertex.Alike c other)
    {fragment another : FragmentShader} (inputs : fragment.inputTypes = another.inputTypes)
    (attributes : List Attribute) :
    checkLink vertex fragment attributes = checkLink other another attributes := by
  have roots : List.Forall₂ c.values (vertex.writes.map Prod.snd) (other.writes.map Prod.snd) :=
    List.rel_map (fun _ _ same => same.2) vertices.plan.targets
  have met : c.SameKeys ∅ ∅ := by
    intro first second _
    rw [NumberSet.contains_empty, NumberSet.contains_empty]
  have reads : checkReads attributes (Document.vertex vertex).reachable =
      checkReads attributes (Document.vertex other).reachable :=
    checkReads_alike attributes (Correspondence.reachableFrom_alike roots met)
  rw [Shading.checkLink, Shading.checkLink, vertices.outputTypes, inputs, reads]

private theorem vertexPreamble_eq {vertex other : VertexShader} (vertices : vertex.Alike c other)
    (attributes : List Attribute) :
    vertexPreamble vertex attributes = vertexPreamble other attributes := by
  unfold vertexPreamble
  rw [uniformDeclarations_eq vertices.uniforms, vertices.outputTypes]

private theorem fragmentPreamble_eq {fragment other : FragmentShader} (fragments : fragment.Alike c other) :
    fragmentPreamble fragment = fragmentPreamble other := by
  unfold fragmentPreamble
  rw [uniformDeclarations_eq fragments.uniforms, fragments.inputs]

namespace Generator

private theorem source_alike (generator : Generator) {document other : Document}
    (plans : document.plan.Alike c other.plan) (stage : Option Stage) (title : String)
    (preamble : Except Error Preamble) :
    Agree Error.Alike Eq ((generator.renew stage).source document title preamble).result
      ((generator.renew stage).source other title preamble).result := by
  have started : (generator.renew stage).temporaries.Alike c (generator.renew stage).temporaries :=
    Temporaries.alike_start stage
  have bodies : Agree Error.Alike Eq ((generator.renew stage).body document).result
      ((generator.renew stage).body other).result := by
    rw [result_body, result_body, show document.stage = other.stage from plans.stage]
    refine Agree.report _ (plans.schedule.liftViolation.bind ?_)
    intro statements another pairs
    exact (instructionsOf_alike _ started pairs).map_eq _
  rw [result_source, result_source]
  exact (Agree.of_eq Error.alike_refl rfl).bind_eq (fun found => bodies.bind_eq (fun text => .ok rfl))

/-- The sources of a program do not depend on the identities of its values and nodes: corresponding programs have the same
sources, or fail with errors of one class and one message. -/
theorem generate_alike (generator : Generator) {c d : Correspondence} {vertex otherVertex : VertexShader}
    {fragment otherFragment : FragmentShader} (vertices : vertex.Alike c otherVertex)
    (fragments : fragment.Alike d otherFragment) (attributes : List Attribute) :
    Agree Error.Alike Eq (generator.generate vertex fragment attributes).result
      (generator.generate otherVertex otherFragment attributes).result := by
  rw [result_generate, result_generate, vertices.checkLink fragments.inputs attributes]
  refine (Agree.of_eq Error.alike_refl rfl).bind_eq (fun _ => ?_)
  have vertexSources : Agree Error.Alike Eq ((generator.renew (some .vertex)).vertexSource vertex attributes).result
      ((generator.renew (some .vertex)).vertexSource otherVertex attributes).result := by
    unfold vertexSource
    rw [vertexPreamble_eq vertices]
    exact generator.source_alike vertices.plan _ _ _
  have fragmentSources : Agree Error.Alike Eq ((generator.renew (some .fragment)).fragmentSource fragment).result
      ((generator.renew (some .fragment)).fragmentSource otherFragment).result := by
    unfold fragmentSource
    rw [fragmentPreamble_eq fragments]
    exact generator.source_alike fragments.plan _ _ _
  exact vertexSources.bind_eq (fun vertexText => fragmentSources.bind_eq (fun fragmentText => .ok rfl))

end Generator

end

namespace Script

/-- The program `tinted` built from its end, among values that nothing reads. -/
def rebuilt : List Command :=
  [⟨.declareInput "f" "tint" "Vec4" none, some "tint"⟩, ⟨.setColor "f" "tint", none⟩, ⟨.instanceIndex "v", some "unread"⟩,
    ⟨.vertexInput "v" .color 0, some "color"⟩, ⟨.setOutput "v" "tint" "color", none⟩,
    ⟨.readOutput "v" "tint", some "read"⟩, ⟨.arithmetic .add (.register "read") (.register "color"), some "unread"⟩,
    ⟨.arithmetic .add (.register "read") (.register "read"), some "sum"⟩, ⟨.setPosition "v" "sum", none⟩]

def rebuilt.read : Value := .mk 3 .vec4 (.leaf (.output (.named "tint")))

def rebuilt.vertex : VertexShader where
  resources := .empty
  position := some (.mk 7 .vec4 (.arithmetic 6 .add read read))
  pointSize := none
  outputs := ⟨[("tint", .mk 2 .vec4 (.leaf (.vertexAttribute .color 0)))]⟩

def rebuilt.fragment : FragmentShader where
  resources := .empty
  inputs := ⟨[("tint", .mk 0 .vec4 (.leaf (.input "tint")))]⟩
  color := some (.mk 0 .vec4 (.leaf (.input "tint")))

/-- The values of the two programs that correspond. -/
inductive rebuilt.Pairs : Value → Value → Prop where
  | color : Pairs (.mk 0 .vec4 (.leaf (.vertexAttribute .color 0))) (.mk 2 .vec4 (.leaf (.vertexAttribute .color 0)))
  | read : Pairs tinted.read rebuilt.read
  | sum : Pairs (.mk 3 .vec4 (.arithmetic 2 .add tinted.read tinted.read))
      (.mk 7 .vec4 (.arithmetic 6 .add rebuilt.read rebuilt.read))
  | tint : Pairs (.mk 4 .vec4 (.leaf (.input "tint"))) (.mk 0 .vec4 (.leaf (.input "tint")))

/-- The only node of the one program corresponds to that of the other. -/
def rebuilt.correspondence : Correspondence where
  values := Pairs
  nodes node other := node = 2 ∧ other = 6
  types same := by cases same <;> rfl
  sources same := by
    cases same with
    | sum => exact .arithmetic .add ⟨rfl, rfl⟩ .read .read
    | _ => exact .leaf _
  keys same related := by cases same <;> cases related <;> decide
  numbers same related := by omega

open rebuilt in
/-- Both scripts leave programs with the same sources. -/
theorem generate_rebuilt :
    (Session.start.after tinted).documents.get? "v" = some (.vertex tinted.vertex) ∧
      (Session.start.after tinted).documents.get? "f" = some (.fragment tinted.fragment) ∧
      (Session.start.after rebuilt).documents.get? "v" = some (.vertex vertex) ∧
      (Session.start.after rebuilt).documents.get? "f" = some (.fragment fragment) ∧
      ∃ sources, ((Generator.ofDialect .es300).generate tinted.vertex tinted.fragment [⟨.color, 0⟩]).result = .ok sources ∧
        ((Generator.ofDialect .es300).generate vertex fragment [⟨.color, 0⟩]).result = .ok sources := by
  refine ⟨by rfl, by rfl, by cbv, by cbv, ?_⟩
  obtain ⟨sources, ran⟩ : ∃ sources,
      ((Generator.ofDialect .es300).generate tinted.vertex tinted.fragment [⟨.color, 0⟩]).result = .ok sources :=
    exists_ok_of_toOption (by decide +kernel)
  have vertices : tinted.vertex.Alike correspondence vertex :=
    ⟨rfl, .some .sum, .none, .cons ⟨rfl, .color⟩ .nil⟩
  have fragments : tinted.fragment.Alike correspondence fragment := ⟨rfl, rfl, .some .tint⟩
  have agree := Generator.generate_alike (.ofDialect .es300) vertices fragments [⟨.color, 0⟩]
  rw [ran] at agree
  generalize ((Generator.ofDialect .es300).generate vertex fragment [⟨.color, 0⟩]).result = result at agree ⊢
  cases agree with
  | ok same => exact ⟨sources, ran, congrArg Except.ok same.symm⟩

end Script

end Shading
