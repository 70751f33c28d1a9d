import Shading.Proofs.Sessions

/-!
# Types of what is built

Whatever builders build is typed as its source asks, and so is all that it is computed from, which never leads back to it.
The type of what many steps reply with is decided by the step alone (`Step.type?`), and so is the kind of what others
declare (`Step.kind?`). An operator that accepts the type of a value can be applied to it (`built_wellTyped`).
-/

namespace Shading

open Relation

section

variable {lhs rhs type : ShaderType}

theorem result_arithmetic {operator : Arithmetic} : (Operator.arithmetic operator).result lhs rhs = .ok type ↔
    (lhs = rhs ∧ lhs.isNumeric = true ∧ type = lhs) ∨ (operator = .multiply ∧ matrixProduct? lhs rhs = some type) := by
  cases operator <;> cases lhs <;> cases rhs <;>
    simp [Operator.result, ShaderType.isNumeric, ShaderType.isFloat, matrixProduct?, eq_comm]

theorem result_compare {comparison : Comparison} : (Operator.compare comparison).result lhs rhs = .ok type ↔
    type = .bool ∧ lhs = rhs ∧ if comparison.isLogical then lhs = .bool else lhs ≠ .sampler := by
  unfold Operator.result
  by_cases logical : comparison.isLogical = true
  · by_cases both : lhs = .bool ∧ rhs = .bool
    · obtain ⟨rfl, rfl⟩ := both
      simp [logical, eq_comm]
    · simp only [logical, if_true, both, if_false, reduceCtorEq, false_iff, not_and]
      rintro _ rfl rfl
      exact both ⟨rfl, rfl⟩
  · by_cases apart : lhs ≠ rhs ∨ lhs = .sampler
    · simp only [logical, apart, if_true, if_false, Bool.false_eq_true, reduceCtorEq, false_iff, not_and]
      rintro _ same differs
      exact apart.elim (fun other => other same) (fun sampler => differs sampler)
    · simp only [not_or, not_not] at apart
      obtain ⟨rfl, other⟩ := apart
      simp [logical, other, eq_comm]

theorem result_branch {condition : Value} : (Operator.branch condition).result lhs rhs = .ok type ↔
    condition.type = .bool ∧ lhs = rhs ∧ type = lhs := by
  unfold Operator.result
  by_cases asked : condition.type = .bool <;> by_cases same : lhs = rhs <;> simp [asked, same, eq_comm]

theorem result_sample {filter : Filter} : (Operator.sample filter).result lhs rhs = .ok type ↔
    lhs = .sampler ∧ rhs = .vec2 ∧ type = .vec4 := by
  unfold Operator.result
  by_cases texture : lhs = .sampler <;> by_cases coordinate : rhs = .vec2 <;> simp [texture, coordinate, eq_comm]

theorem result_lerp {factor : Value} : (Operator.lerp factor).result lhs rhs = .ok type ↔
    lhs = rhs ∧ lhs.isFloat = true ∧ factor.type = .float ∧ type = lhs := by
  unfold Operator.result
  constructor
  · intro fits
    dsimp only at fits
    split at fits
    · exact nomatch fits
    · rename_i alike
      simp only [ne_eq, Bool.not_eq_true', not_or, not_not, Bool.not_eq_false] at alike
      split at fits
      · exact nomatch fits
      · rename_i weight
        cases fits
        exact ⟨alike.1, alike.2, not_not.1 weight, rfl⟩
  · rintro ⟨rfl, float, weight, rfl⟩
    simp [float, weight]

private theorem Operator.result_proper {operator : Operator} (fits : operator.result lhs rhs = .ok type)
    (proper : lhs ≠ .operation) : type ≠ .operation := by
  cases operator with
  | arithmetic operator =>
    rcases result_arithmetic.1 fits with ⟨_, _, rfl⟩ | ⟨_, product⟩
    · exact proper
    · rintro rfl
      cases lhs <;> cases rhs <;> simp [matrixProduct?] at product
  | compare =>
    rw [(result_compare.1 fits).1]
    decide
  | branch =>
    rw [(result_branch.1 fits).2.2]
    exact proper
  | sample =>
    rw [(result_sample.1 fits).2.2]
    decide
  | lerp =>
    rw [(result_lerp.1 fits).2.2.2]
    exact proper
  | unknown => cases fits

end

/-- An operator that accepts the types of two values makes a node of them, numbered before the value that holds it. -/
theorem Value.run_operate_eq {lhs rhs : Value} {operator : Operator} {type : ShaderType} {source : Source} {next : Nat}
    (fits : operator.result lhs.type rhs.type = .ok type) (proper : lhs.type ≠ .operation)
    (made : operator.source? next lhs rhs = some source) :
    (lhs.operate operator rhs).run next = .ok (.mk (next + 1) type source, next + 2) := by
  have own : type ∈ type.kind.types := (Kind.mem_types_iff _ _).2 ⟨rfl, Operator.result_proper fits proper⟩
  have fresh : Build.fresh.run next = .ok (next, next + 1) := rfl
  rw [Value.operate, fits, StateT.run_bind, fresh]
  dsimp only [bind, Except.bind]
  rw [made]
  dsimp only
  rw [Value.ofType, if_pos own]
  rfl

private theorem Value.run_operate {lhs rhs : Value} {operator : Operator} {type : ShaderType}
    (fits : operator.result lhs.type rhs.type = .ok type) (proper : lhs.type ≠ .operation) (next : Nat) :
    ∃ result after, (lhs.operate operator rhs).run next = .ok (result, after) ∧ result.type = type := by
  obtain ⟨source, made⟩ : ∃ source, operator.source? next lhs rhs = some source := by
    cases operator with
    | unknown => cases fits
    | _ => exact ⟨_, rfl⟩
  exact ⟨_, _, Value.run_operate_eq fits proper made, rfl⟩

/-- Parts have components, and together as many as the whole. -/
theorem checkParts_eq_ok {whole : ShaderType} {parts : List ShaderType} (checked : checkParts whole parts = .ok ()) :
    (∀ part ∈ parts, part.width ≠ 0) ∧ totalComponents parts = whole.width := by
  unfold checkParts at checked
  split at checked
  · exact nomatch checked
  · rename_i proper
    split at checked
    · rename_i adds
      refine ⟨fun part member => ?_, adds.2⟩
      simpa using List.find?_eq_none.1 proper part member
    · exact nomatch checked

/-- What the type of a value has to do with its source. -/
structure Value.WellTyped (value : Value) : Prop where
  kind : ∀ kind : Kind, value.type ∈ kind.types ↔ kind = value.kind
  proper : value.type ≠ .operation
  operation : ∀ lhs operator rhs, value.source.operation? = some (lhs, operator, rhs) →
    operator.result lhs.type rhs.type = .ok value.type
  construct : ∀ node whole parts, value.source = .construct node whole parts →
    whole = value.type ∧ (∀ part ∈ parts, 1 ≤ part.type.width) ∧
      totalComponents (parts.map Value.type) = value.type.width
  component : ∀ parent letters, value.source = .component parent letters →
    value.type = .float ∧ parent.type ∈ [ShaderType.vec2, .vec3, .vec4] ∧
      ∃ letter ∈ componentLetters.take parent.type.width, letters = letter.toString
  literal : ∀ plain declared, value.source = .leaf (.literal plain declared) →
    ∃ constant, plain = .constant constant ∧ declared = constant.type ∧ value.type = constant.type

private theorem ShaderType.mem_vectors {type : ShaderType} (least : 2 ≤ type.width) (most : type.width ≤ 4) :
    type ∈ [ShaderType.vec2, .vec3, .vec4] := by
  cases type <;> simp_all [ShaderType.width]

private theorem Value.Typed.wellTyped {value : Value} (typed : value.Typed) : value.WellTyped := by
  obtain ⟨proper, fits⟩ := typed
  refine ⟨fun kind => ?_, proper, ?_, ?_, ?_, ?_⟩
  · rw [Kind.mem_types_iff]
    exact ⟨fun own => own.1.symm, fun same => ⟨same.symm, proper⟩⟩
  · intro lhs operator rhs isOperation
    cases origin : value.source with
    | leaf | component | construct =>
      rw [origin] at isOperation
      cases isOperation
    | _ =>
      rw [origin] at fits isOperation
      obtain ⟨_, _, _, same, result⟩ := fits
      rw [isOperation] at same
      cases same
      exact result
  · intro node whole parts origin
    rw [origin] at fits
    obtain ⟨same, checked⟩ := fits
    obtain ⟨wide, total⟩ := checkParts_eq_ok checked
    refine ⟨same.symm, fun part member => ?_, by rw [total, same]⟩
    exact Nat.one_le_iff_ne_zero.2 (wide _ (List.mem_map.2 ⟨part, member, rfl⟩))
  · intro parent letters origin
    rw [origin] at fits
    obtain ⟨float, least, most, selected⟩ := fits
    exact ⟨float, ShaderType.mem_vectors least most, selected⟩
  · intro plain declared origin
    rw [origin] at fits
    cases plain with
    | constant constant => exact ⟨constant, rfl, fits.1, fits.2.trans fits.1⟩
    | _ => cases fits

/-- The second value is read to compute the first one, at whatever depth. -/
def Value.Needs : Value → Value → Prop :=
  TransGen (fun value operand => operand ∈ value.source.operands)

/-- Nothing below a value is computed from itself: neither from a value of its key nor from one of its node. -/
def Value.Acyclic (value : Value) : Prop :=
  ∀ read below, value.Reaches read → read.Needs below →
    below.key ≠ read.key ∧ ∀ node, read.source.node? = some node → below.source.node? ≠ some node

private theorem Value.Needs.size_lt {value below : Value} (needs : value.Needs below) :
    below.source.size < value.source.size := by
  induction needs with
  | single read => exact Source.size_lt_of_operand read
  | tail _ read ih => exact Nat.lt_trans (Source.size_lt_of_operand read) ih

/-- A number stands for one value or one node, and what is needed is smaller. -/
theorem History.Regular.acyclic {manner : Manner} {history : History} (regular : history.Regular manner) {value : Value}
    (built : history.Has value) : value.Acyclic := by
  intro read below reached needs
  have smaller := needs.size_lt
  have readBuilt := History.has_of_reaches built reached
  have belowBuilt := History.has_of_reaches readBuilt needs.to_reflTransGen
  constructor
  · intro same
    rw [regular.sameKey below read belowBuilt readBuilt same] at smaller
    exact Nat.lt_irrefl _ smaller
  · intro node isNode belowNode
    rw [regular.sameNode below read node belowBuilt readBuilt belowNode isNode] at smaller
    exact Nat.lt_irrefl _ smaller

section

variable {manner : Manner} {history : History}

private theorem Value.yields_operate_type (lhs rhs : Value) (operator : Operator) :
    Build.Yields manner history (lhs.operate operator rhs)
      (fun _ value => operator.result lhs.type rhs.type = .ok value.type) := by
  rw [Value.operate]
  split
  · exact Build.yields_violate _ _
  · rename_i type fits
    refine Build.yields_fresh.bind (fun _ node _ _ => ?_)
    split
    · refine (Value.yields_ofType_eq _ _).weaken ?_
      rintro _ value ⟨same, _⟩
      rw [same]
      exact fits
    · exact Build.yields_violate _ _

private theorem Value.yields_compare_type (lhs : Value) (comparison : Comparison) {rhs : Operand}
    (right : history.Provides rhs) :
    Build.Yields manner history (lhs.compare comparison rhs) (fun _ value => value.type = .bool) := by
  refine (lhs.yields_operandBeside right).bind (fun _ _ _ _ => ?_)
  exact (Value.yields_operate_type _ _ _).weaken (fun _ _ fits => (result_compare.1 fits).1)

private theorem Value.yields_sample_type (texture coordinate : Value) (filter : Filter) :
    Build.Yields manner history (texture.sample coordinate filter) (fun _ value => value.type = .vec4) := by
  rw [Value.sample]
  split
  · exact (Value.yields_operate_type _ _ _).weaken (fun _ _ fits => (result_sample.1 fits).2.2)
  · exact Build.yields_throw _ _

private theorem Value.yields_member_type (value : Value) (letter : Char) :
    Build.Yields manner history (value.member letter) (fun _ selected => selected.type = .float) := by
  rw [Value.member]
  split
  · rw [Value.component]
    split
    · exact (Value.yields_ofType_eq _ _).weaken (fun _ _ same => same.1)
    · exact Build.yields_violate _ _
  · exact Build.yields_throw _ _

theorem Value.yields_ofLeaf_type (leaf : Leaf) (type : ShaderType) :
    Build.Yields manner history (Value.ofLeaf leaf type) (fun _ value => value.type = type) :=
  (Value.yields_ofType_eq _ _).weaken (fun _ _ same => same.1)

private theorem Kind.yields_construct_kind (kind : Kind) (parts : List Value) :
    Build.Yields manner history (kind.construct parts) (fun _ value => value.kind = kind) := by
  unfold Kind.construct
  split
  · exact Build.yields_violate _ _
  · exact Build.yields_violate _ _
  · exact Build.yields_throw _ _
  · split
    · exact Build.yields_violate _ _
    · refine Build.yields_fresh.bind (fun _ node _ _ => (Kind.yields_wrap _ _ _).weaken ?_)
      rintro _ _ ⟨_, key, type, _, resolved, rfl⟩
      exact ((Kind.mem_types_iff _ _).1 (Kind.resolveType_some resolved).2).1

end

namespace Script

open Run

/-- The type of the value that a step replies with, if the step alone decides it. -/
def Step.type? : Step → Option ShaderType
  | .literal (.constant constant) => some constant.type
  | .compare _ _ _ => some .bool
  | .sample _ _ _ | .readPosition _ | .readColor _ => some .vec4
  | .member _ _ | .readPointSize _ => some .float
  | .instanceIndex _ => some .int
  | .vertexInput _ slot _ => some slot.type
  | .matrix _ _ => some .mat4
  | .channel _ _ (some field) => some field.type
  | _ => none

/-- The kind of the value that a step replies with, if the step names it. -/
def Step.kind? : Step → Option Kind
  | .construct kind _ | .declareInput _ _ kind _ | .uniform _ _ (some kind) _ => Kind.find? kind
  | .uniform _ _ none _ => some .scalar
  | _ => none

section

variable {manner : Manner} {history : History}

private theorem keeps_replied {run : Run Value} {Post : Value → Prop}
    (keeps : Keeps manner history run (fun _ value => Post value)) :
    Keeps manner history (do return Reply.value (← run))
      (fun _ reply => ∀ value, reply = .value value → Post value) := by
  refine keeps.bind (fun _ value _ holds => .pure ?_)
  rintro _ ⟨⟩
  exact holds

theorem Step.keeps_type {step : Step} {type : ShaderType} (decided : step.type? = some type) :
    Keeps manner history step.perform (fun _ reply => ∀ value, reply = .value value → value.type = type) := by
  cases step with
  | literal plain =>
    cases plain with
    | constant constant =>
      cases decided
      exact keeps_replied (keeps_build (Value.yields_ofLeaf_type _ _))
    | _ => cases decided
  | compare comparison lhs rhs =>
    cases decided
    refine (reads_register lhs).then (fun lhs _ => ?_)
    refine rhs.reads_resolve.then (fun rhs right => ?_)
    exact keeps_replied (keeps_build (lhs.yields_compare_type comparison right))
  | sample texture coordinate filter =>
    cases decided
    refine (reads_register texture).then (fun texture _ => ?_)
    refine (reads_register coordinate).then (fun coordinate _ => ?_)
    refine (reads_memberOr _ filter).then (fun filter _ => ?_)
    exact keeps_replied (keeps_build (texture.yields_sample_type coordinate filter))
  | member value letters =>
    cases decided
    refine (reads_register value).then (fun value _ => ?_)
    split
    · split
      · exact keeps_replied (keeps_build (value.yields_member_type _))
      · exact keeps_malformed _ _
    · exact keeps_malformed _ _
  | channel document index field =>
    refine (keeps_channel document index).bind (fun _ channel _ formed => ?_)
    cases field with
    | none => cases decided
    | some field =>
      cases decided
      refine .pure ?_
      rintro _ ⟨⟩
      exact (formed.2 field).2
  | instanceIndex document =>
    cases decided
    exact (reads_document document).then (fun _ _ => keeps_replied (keeps_build (Value.yields_ofLeaf_type _ _)))
  | vertexInput document | matrix document | readPosition document | readPointSize document =>
    cases decided
    exact (reads_vertexDocument document).then (fun _ _ => keeps_replied (keeps_build (Value.yields_ofLeaf_type _ _)))
  | readColor document =>
    cases decided
    exact (reads_fragmentDocument document).then (fun _ _ => keeps_replied (keeps_build (Value.yields_ofLeaf_type _ _)))
  | _ => cases decided

private theorem reads_kind_of_name (name : String) :
    Run.Reads manner history (Run.kind name) (fun kind => Kind.find? name = some kind) :=
  reads_found

private theorem Step.keeps_kind {step : Step} {kind : Kind} (named : step.kind? = some kind) :
    Keeps manner history step.perform (fun _ reply => ∀ value, reply = .value value → value.kind = kind) := by
  -- A type that is declared for a kind is one of its own.
  have own : ∀ {kind : Kind} {scalar : ScalarType} {type : ShaderType}, kind.declaredType scalar = .ok type →
      type.kind = kind :=
    fun declared => ((Kind.mem_types_iff _ _).1 (Kind.declaredType_eq_ok declared)).1
  cases step with
  | construct name parts =>
    refine (reads_kind_of_name name).then (fun found same => ?_)
    cases same.symm.trans named
    refine (reads_registers parts).then (fun parts _ => ?_)
    exact keeps_replied (keeps_build (kind.yields_construct_kind parts))
  | uniform document asked name scalar =>
    refine (reads_document document).then (fun _ _ => ?_)
    have declares : Keeps manner history (do
        let scalar ← memberOr ScalarType.float scalar
        return Reply.value (← withResources document (fun resources => resources.uniform asked kind scalar)))
        (fun _ reply => ∀ value, reply = .value value → value.kind = kind) := by
      refine (reads_memberOr _ scalar).then (fun scalar _ => ?_)
      exact keeps_replied ((keeps_uniform document asked kind scalar).weaken (fun _ _ holds => own holds.2))
    cases name with
    | none =>
      cases named
      exact declares
    | some name =>
      refine (reads_kind_of_name name).then (fun found same => ?_)
      cases same.symm.trans named
      exact declares
  | declareInput document asked name scalar =>
    refine (reads_fragmentDocument document).then (fun shader held => ?_)
    refine (reads_kind_of_name name).then (fun found same => ?_)
    cases same.symm.trans named
    refine (reads_memberOr _ scalar).then (fun scalar _ => ?_)
    refine (keeps_build (FragmentShader.yields_input held asked kind scalar)).bind ?_
    rintro further ⟨value, changed⟩ _ installs
    refine (keeps_putDocument installs).bind (fun _ _ _ holds => .pure ?_)
    rintro _ ⟨⟩
    exact own holds.2
  | _ => cases named

end

/-- Whatever a script of builders has done, a value that the next builder replies with is well typed, as is all that it is
computed from, and it is not computed from itself. It has the type or the kind that the builder stands for, if any, and
every operator that accepts its type, with that of another value, can be applied to it. -/
theorem built_wellTyped (script : List Command) (command : Command) (value : Value)
    (builders : ∀ other ∈ script ++ [command], other.step.isBuilder = true)
    (replied : ((Session.start.after script).perform command).result = .ok (.value value)) :
    (∀ read, value.Reaches read → read.WellTyped) ∧ value.Acyclic ∧
      (∀ type, command.step.type? = some type → value.type = type) ∧
      (∀ kind, command.step.kind? = some kind → value.kind = kind) ∧
      ∀ (operator : Operator) (rhs : Value) (type : ShaderType), operator.result value.type rhs.type = .ok type →
        ∀ next, ∃ result after, (value.operate operator rhs).run next = .ok (result, after) ∧ result.type = type := by
  let manner : Manner := ⟨True, fun _ => False⟩
  have follows : ∀ other ∈ script ++ [command], other.step.Follows manner :=
    fun other member => ⟨fun _ => builders other member, fun _ => False.elim⟩
  have last : command.step.Follows manner := follows command (List.mem_append_right _ List.mem_cons_self)
  obtain ⟨history, leads, records⟩ := Session.exists_history manner none
    (fun other member => follows other (List.mem_append_left _ member))
  have regular := leads.regular (regular_beginning manner)
  obtain ⟨further, leadsOn, _, has⟩ := records.perform regular command last
  have regularOn := leadsOn.regular regular
  have built := has value replied
  have typed : ∀ read, value.Reaches read → read.Typed :=
    fun read below => regularOn.typed trivial read (History.has_of_reaches built below)
  refine ⟨fun read below => (typed read below).wellTyped, regularOn.acyclic built, ?_, ?_, ?_⟩
  · intro type decided
    obtain ⟨_, _, _, holds⟩ := Command.keeps_of_step ((command.step.keeps_perform last).and (Step.keeps_type decided)) _
      regular records.unlogged
    exact (holds _ replied).2 value rfl
  · intro kind named
    obtain ⟨_, _, _, holds⟩ := Command.keeps_of_step ((command.step.keeps_perform last).and (Step.keeps_kind named)) _
      regular records.unlogged
    exact (holds _ replied).2 value rfl
  · intro operator rhs type fits
    exact Value.run_operate fits (typed value value.reaches_refl).1

/-- A component and a literal make up a vector. -/
def paired : List Command :=
  [⟨.vertexInput "v" .color 0, some "color"⟩, ⟨.member "color" "x", some "red"⟩,
    ⟨.literal (.constant (.int 2)), some "two"⟩, ⟨.construct "Vec2" ["red", "two"], some "pair"⟩]

/-- The vector of a component and a literal. -/
def paired.value : Value :=
  .mk 4 .vec2 (.construct 3 .vec2 [.mk 1 .float (.component (.mk 0 .vec4 (.leaf (.vertexAttribute .color 0))) "x"),
    .mk 2 .int (.leaf (.literal (.constant (.int 2)) .int))])

/-- The vector is added to itself. -/
theorem wellTyped_paired : ∃ sum : Value,
    ((Session.start.after paired).perform ⟨.arithmetic .add (.register "pair") (.register "pair"), none⟩).result =
        .ok (.value sum) ∧
      sum.source = .arithmetic 5 .add paired.value paired.value ∧ sum.Acyclic ∧ paired.value.WellTyped := by
  let sum : Value := .mk 6 .vec2 (.arithmetic 5 .add paired.value paired.value)
  have replied : ((Session.start.after paired).perform
      ⟨.arithmetic .add (.register "pair") (.register "pair"), none⟩).result = .ok (.value sum) := by rfl
  have builders : ∀ other ∈ paired ++ [⟨.arithmetic .add (.register "pair") (.register "pair"), none⟩],
      other.step.isBuilder = true := by decide
  obtain ⟨typed, acyclic, _⟩ := built_wellTyped paired _ sum builders replied
  have read : sum.Reaches paired.value := Value.reaches_of_operand List.mem_cons_self (Value.reaches_refl _)
  exact ⟨sum, replied, rfl, acyclic, typed _ read⟩

end Script

end Shading
