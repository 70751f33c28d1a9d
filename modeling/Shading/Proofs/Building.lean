import Shading.Document
import Shading.Proofs.Dependence

/-!
# What constructions build

Every construction checks its operands and draws new numbers, so the values that it builds are well typed, and a number
stands for one value or one node. A history keeps all the values built so far, with the documents that hold some of
them, and grows by moves. A construction is a run of moves, after which its result is one of the values built
(`Build.Yields`).
-/

namespace Shading

open Relation

/-- A leaf stands for a value of a type. Names are those that the interface accepts, literals are constants, and a
material field is one of a slot of the table. -/
def Leaf.Typed : Leaf → ShaderType → Prop
  | .vertexAttribute slot _, type => type = slot.type
  | .output .position, type | .output .color, type => type = .vec4
  | .output .pointSize, type => type = .float
  | .output (.named name), _ | .input name, _ => isInterfaceName name = true
  | .instanceIndex, type => type = .int
  | .matrix _, type => type = .mat4
  | .uniform _ declared, type => type = declared
  | .literal (.constant constant) declared, type => declared = constant.type ∧ type = declared
  | .material index field, type => type = field.type ∧ 0 ≤ index ∧ index < materialSlots
  | .literal _ _, _ | .unknown _, _ => False

/-- A source computes a value of a type from operands that fit. -/
def Source.Typed : Source → ShaderType → Prop
  | .leaf origin, type => origin.Typed type
  | .component parent letters, type =>
    type = .float ∧ 2 ≤ parent.type.width ∧ parent.type.width ≤ 4 ∧
      ∃ letter ∈ componentLetters.take parent.type.width, letters = letter.toString
  | .construct _ whole parts, type => type = whole ∧ checkParts whole (parts.map Value.type) = .ok ()
  | source, type => ∃ lhs operator rhs, source.operation? = some (lhs, operator, rhs) ∧
      operator.result lhs.type rhs.type = .ok type

/-- The type of a value is a proper one and that of its source. -/
def Value.Typed (value : Value) : Prop :=
  value.type ≠ .operation ∧ value.source.Typed value.type

private theorem Source.typed_of_operation {source : Source} {lhs rhs : Value} {operator : Operator} {type : ShaderType}
    (isOperation : source.operation? = some (lhs, operator, rhs))
    (fits : operator.result lhs.type rhs.type = .ok type) : source.Typed type := by
  cases source with
  | leaf | component | construct => exact nomatch isOperation
  | _ => exact ⟨lhs, operator, rhs, isOperation, fits⟩

def Channel.values (channel : Channel) : List Value :=
  [channel.texture, channel.scale, channel.offset, channel.color]

/-- The values of a channel are the fields of its slot. -/
def Channel.Formed (channel : Channel) : Prop :=
  ∀ field, (channel.field field).source = .leaf (.material channel.index field) ∧ (channel.field field).type = field.type

/-- The inputs that a document declares. -/
def Document.inputs : Document → Table Value
  | .vertex _ => .empty
  | .fragment shader => shader.inputs

/-- All that a document holds is among the values. -/
structure Document.Within (document : Document) (values : List Value) : Prop where
  uniforms : ∀ entry ∈ document.resources.uniforms.entries, entry.2 ∈ values
  channels : ∀ channel ∈ document.resources.channels, ∀ value ∈ channel.values, value ∈ values
  inputs : ∀ entry ∈ document.inputs.entries, entry.2 ∈ values
  writes : ∀ write ∈ document.writes, write.2 ∈ values

theorem Document.Within.mono {document : Document} {values more : List Value} (within : document.Within values)
    (larger : ∀ value ∈ values, value ∈ more) : document.Within more where
  uniforms := fun entry member => larger _ (within.uniforms entry member)
  channels := fun channel member value held => larger _ (within.channels channel member value held)
  inputs := fun entry member => larger _ (within.inputs entry member)
  writes := fun write member => larger _ (within.writes write member)

/-- The documents, the values built so far, and the next number to be drawn. All numbers in use are drawn, and what a
value or a document holds is built. -/
structure History where
  documents : Table Document
  values : List Value
  next : Nat
  keys : ∀ value ∈ values, value.key < next
  nodes : ∀ value ∈ values, ∀ node, value.source.node? = some node → node < next
  operands : ∀ value ∈ values, ∀ operand ∈ value.source.operands, operand ∈ values
  held : ∀ entry ∈ documents.entries, entry.2.Within values

namespace History

def Has (history : History) (value : Value) : Prop :=
  value ∈ history.values

/-- A number that is drawn, but that neither a value nor a node has. -/
structure Unused (history : History) (number : Nat) : Prop where
  drawn : number < history.next
  keys : ∀ value ∈ history.values, value.key ≠ number
  nodes : ∀ value ∈ history.values, value.source.node? ≠ some number

/-- A source that a new value can have: it reads values that are built, and its node is a new one or that of a value
which has this source already. -/
structure Accepts (history : History) (source : Source) : Prop where
  operands : ∀ operand ∈ source.operands, history.Has operand
  node : ∀ node, source.node? = some node → history.Unused node ∨ ∃ other, history.Has other ∧ other.source = source

/-- A value that can be built next. -/
structure Admits (history : History) (value : Value) : Prop where
  key : history.Unused value.key
  source : history.Accepts value.source

def draw (history : History) : History where
  documents := history.documents
  values := history.values
  next := history.next + 1
  keys := fun value built => Nat.lt_succ_of_lt (history.keys value built)
  nodes := fun value built node isNode => Nat.lt_succ_of_lt (history.nodes value built node isNode)
  operands := history.operands
  held := history.held

def add (history : History) (value : Value) (admits : history.Admits value) : History where
  documents := history.documents
  values := value :: history.values
  next := history.next
  keys := List.forall_mem_cons.2 ⟨admits.key.drawn, history.keys⟩
  nodes := by
    refine List.forall_mem_cons.2 ⟨fun node isNode => ?_, history.nodes⟩
    rcases admits.source.node node isNode with unused | ⟨other, built, same⟩
    · exact unused.drawn
    · exact history.nodes other built node (same ▸ isNode)
  operands := by
    refine List.forall_mem_cons.2 ⟨fun operand read => ?_, fun other built operand read => ?_⟩
    · exact List.mem_cons_of_mem _ (admits.source.operands operand read)
    · exact List.mem_cons_of_mem _ (history.operands other built operand read)
  held := fun entry member => (history.held entry member).mono (fun _ => List.mem_cons_of_mem _)

/-- A document is kept under a name. -/
def put (history : History) (name : String) (document : Document) (within : document.Within history.values) :
    History where
  documents := history.documents.insert name document
  values := history.values
  next := history.next
  keys := history.keys
  nodes := history.nodes
  operands := history.operands
  held := by
    rintro ⟨other, held⟩ member
    rcases Table.mem_insert member with new | old
    · cases new
      exact within
    · exact history.held _ old

theorem has_of_reaches {history : History} {value read : Value} (built : history.Has value)
    (below : value.Reaches read) : history.Has read := by
  induction below with
  | refl => exact built
  | tail _ operand ih => exact history.operands _ ih _ operand

end History

/-- The document of a stage that holds nothing. -/
def Document.blank : Stage → Document
  | .vertex => .vertex .empty
  | .fragment => .fragment .empty

/-- What moves refrain from: values that are not well typed, and new documents under the names of kept ones. -/
structure Manner where
  typed : Prop
  kept : String → Prop

/-- One move: a number is drawn, a value is built, or a document changes. -/
inductive History.Moves (manner : Manner) (history : History) : History → Prop where
  | draw : Moves manner history history.draw
  | add {value : Value} (admits : history.Admits value) (typed : manner.typed → value.Typed) :
      Moves manner history (history.add value admits)
  | create {name : String} {stage : Stage} (free : ¬ manner.kept name)
      (within : (Document.blank stage).Within history.values) :
      Moves manner history (history.put name (.blank stage) within)
  | uniform {name asked : String} {document : Document} {value : Value}
      (held : history.documents.get? name = some document) (absent : document.resources.uniforms.get? asked = none)
      (admits : history.Admits value)
      (origin : value.source = .leaf (.uniform document.resources.uniforms.size value.type))
      (kind : value.kind ∈ uniformKinds)
      (within : (document.withResources { document.resources with
        uniforms := document.resources.uniforms.insert asked value }).Within (history.add value admits).values) :
      Moves manner history ((history.add value admits).put name _ within)
  | channel {name : String} {document : Document} {channel : Channel}
      (held : history.documents.get? name = some document) (formed : channel.Formed)
      (within : (document.withResources { document.resources with
        channels := document.resources.channels ++ [channel] }).Within history.values) :
      Moves manner history (history.put name _ within)
  | input {name asked : String} {shader : FragmentShader} {value : Value}
      (held : history.documents.get? name = some (.fragment shader)) (absent : shader.inputs.get? asked = none)
      (accepted : isInterfaceName asked = true) (admits : history.Admits value)
      (origin : value.source = .leaf (.input asked)) (proper : value.type ≠ .operation)
      (within : (Document.fragment { shader with inputs := shader.inputs.insert asked value }).Within
        (history.add value admits).values) :
      Moves manner history ((history.add value admits).put name _ within)
  | position {name : String} {shader : VertexShader} {value : Value}
      (held : history.documents.get? name = some (.vertex shader)) (built : history.Has value)
      (type : value.type = .vec4)
      (within : (Document.vertex { shader with position := some value }).Within history.values) :
      Moves manner history (history.put name _ within)
  | pointSize {name : String} {shader : VertexShader} {value : Value}
      (held : history.documents.get? name = some (.vertex shader)) (built : history.Has value)
      (type : value.type = .float)
      (within : (Document.vertex { shader with pointSize := some value }).Within history.values) :
      Moves manner history (history.put name _ within)
  | output {name asked : String} {shader : VertexShader} {value : Value}
      (held : history.documents.get? name = some (.vertex shader)) (built : history.Has value)
      (accepted : isInterfaceName asked = true)
      (type : ∀ existing, shader.outputs.get? asked = some existing → existing.type = value.type)
      (within : (Document.vertex { shader with outputs := shader.outputs.insert asked value }).Within
        history.values) :
      Moves manner history (history.put name _ within)
  | color {name : String} {shader : FragmentShader} {value : Value}
      (held : history.documents.get? name = some (.fragment shader)) (built : history.Has value)
      (type : value.type = .vec4)
      (within : (Document.fragment { shader with color := some value }).Within history.values) :
      Moves manner history (history.put name _ within)

private theorem ShaderType.ne_operation_of_kind {type : ShaderType} (kind : type.kind ∈ uniformKinds) :
    type ≠ .operation := by
  rintro rfl
  exact absurd kind (by decide)

namespace History

def Leads (manner : Manner) : History → History → Prop :=
  ReflTransGen (Moves manner)

section

variable {manner : Manner} {history further last : History}

/-- A move builds one value at most. -/
theorem Moves.values_cases (moves : history.Moves manner further) :
    further.values = history.values ∨
      ∃ value, history.Admits value ∧ (manner.typed → value.Typed) ∧ further.values = value :: history.values := by
  cases moves with
  | add admits typed => exact .inr ⟨_, admits, typed, rfl⟩
  | uniform _ _ admits origin kind =>
    have typed : Value.Typed _ := ⟨ShaderType.ne_operation_of_kind kind, by rw [origin]; rfl⟩
    exact .inr ⟨_, admits, fun _ => typed, rfl⟩
  | input _ _ accepted admits origin proper =>
    have typed : Value.Typed _ := ⟨proper, by rw [origin]; exact accepted⟩
    exact .inr ⟨_, admits, fun _ => typed, rfl⟩
  | _ => exact .inl rfl

private theorem Moves.next_le (moves : history.Moves manner further) : history.next ≤ further.next := by
  cases moves with
  | draw => exact Nat.le_succ _
  | _ => exact Nat.le_refl _

theorem Leads.refl : history.Leads manner history := ReflTransGen.refl

theorem Leads.trans (first : history.Leads manner further) (second : further.Leads manner last) :
    history.Leads manner last :=
  ReflTransGen.trans first second

theorem Leads.single (moves : history.Moves manner further) : history.Leads manner further :=
  ReflTransGen.single moves

theorem Leads.has (leads : history.Leads manner further) {value : Value} (built : history.Has value) :
    further.Has value := by
  induction leads with
  | refl => exact built
  | tail _ moves ih =>
    rcases moves.values_cases with same | ⟨_, _, _, more⟩
    · rw [Has, same]
      exact ih
    · rw [Has, more]
      exact List.mem_cons_of_mem _ ih

private theorem Leads.next_le (leads : history.Leads manner further) : history.next ≤ further.next := by
  induction leads with
  | refl => exact Nat.le_refl _
  | tail _ moves ih => exact Nat.le_trans ih moves.next_le

/-- What no value has it does not get while no value is built. -/
theorem Unused.later {number : Nat} (unused : history.Unused number) (leads : history.Leads manner further)
    (same : further.values = history.values) : further.Unused number where
  drawn := Nat.lt_of_lt_of_le unused.drawn leads.next_le
  keys := by rw [same]; exact unused.keys
  nodes := by rw [same]; exact unused.nodes

theorem Accepts.later {source : Source} (accepts : history.Accepts source) (leads : history.Leads manner further)
    (same : further.values = history.values) : further.Accepts source := by
  refine ⟨fun operand read => leads.has (accepts.operands operand read), fun node isNode => ?_⟩
  rcases accepts.node node isNode with unused | ⟨other, built, shared⟩
  · exact .inl (unused.later leads same)
  · exact .inr ⟨other, leads.has built, shared⟩

theorem accepts_leaf (leaf : Leaf) : history.Accepts (.leaf leaf) where
  operands := fun _ read => nomatch read
  node := fun _ isNode => nomatch isNode

/-- A value shares the source of another one. -/
theorem accepts_source {value : Value} (built : history.Has value) : history.Accepts value.source where
  operands := history.operands value built
  node := fun _ _ => .inr ⟨value, built, rfl⟩

end

end History

namespace Build

/-- Unless it fails, a construction is a run of moves that leave the documents as they are, after which its result is
as stated. -/
def Yields {α : Type} (manner : Manner) (history : History) (construction : Build α) (Post : History → α → Prop) :
    Prop :=
  ∀ value after, construction.run history.next = .ok (value, after) →
    ∃ further, history.Leads manner further ∧ further.documents = history.documents ∧ further.next = after ∧
      Post further value

variable {α β : Type} {manner : Manner} {history : History}

theorem Yields.pure {value : α} {Post : History → α → Prop} (holds : Post history value) :
    Yields manner history (pure value) Post := by
  intro _ _ ran
  cases ran
  exact ⟨history, .refl, rfl, rfl, holds⟩

theorem Yields.bind {construction : Build α} {continued : α → Build β} {Mid : History → α → Prop}
    {Post : History → β → Prop} (first : Yields manner history construction Mid)
    (second : ∀ further value, history.Leads manner further → Mid further value →
      Yields manner further (continued value) Post) :
    Yields manner history (construction >>= continued) Post := by
  intro value after ran
  rw [StateT.run_bind] at ran
  cases began : construction.run history.next with
  | error => exact nomatch (began ▸ ran)
  | ok result =>
    rw [began] at ran
    obtain ⟨middle, leads, documents, reached, holds⟩ := first result.1 result.2 began
    obtain ⟨last, leadsOn, documentsOn, ended, final⟩ := second middle result.1 leads holds value after (reached ▸ ran)
    exact ⟨last, leads.trans leadsOn, documentsOn.trans documents, ended, final⟩

theorem Yields.weaken {construction : Build α} {Pre Post : History → α → Prop}
    (yields : Yields manner history construction Pre)
    (weaker : ∀ further value, Pre further value → Post further value) : Yields manner history construction Post := by
  intro value after ran
  obtain ⟨further, leads, documents, ended, holds⟩ := yields value after ran
  exact ⟨further, leads, documents, ended, weaker further value holds⟩

/-- What two statements say of the result of a construction, one of them without the history. -/
theorem Yields.and {construction : Build α} {Post : History → α → Prop} {Also : α → Prop}
    (first : Yields manner history construction Post)
    (second : Yields manner history construction (fun _ value => Also value)) :
    Yields manner history construction (fun further value => Post further value ∧ Also value) := by
  intro value after ran
  obtain ⟨further, leads, documents, ended, holds⟩ := first value after ran
  obtain ⟨_, _, _, _, also⟩ := second value after ran
  exact ⟨further, leads, documents, ended, holds, also⟩

/-- The documents are as they were before. -/
theorem Yields.withDocuments {construction : Build α} {Post : History → α → Prop}
    (yields : Yields manner history construction Post) :
    Yields manner history construction
      (fun further value => further.documents = history.documents ∧ Post further value) := by
  intro value after ran
  obtain ⟨further, leads, documents, ended, holds⟩ := yields value after ran
  exact ⟨further, leads, documents, ended, documents, holds⟩

theorem yields_throw (cause : Error) (Post : History → α → Prop) : Yields manner history (throw cause) Post :=
  fun _ _ ran => nomatch ran

theorem yields_violate (cause : Violation) (Post : History → α → Prop) :
    Yields manner history (Build.violate cause) Post :=
  fun _ _ ran => nomatch ran

/-- A result that is found without drawing numbers. -/
theorem yields_lift (result : Except Error α) :
    Yields manner history (liftM result) (fun further value => history = further ∧ result = .ok value) := by
  cases result with
  | error => exact fun _ _ ran => nomatch ran
  | ok value => exact Yields.pure ⟨rfl, rfl⟩

/-- A fresh number is drawn for a value or a node to come. -/
theorem yields_fresh :
    Yields manner history Build.fresh
      (fun further number => further.values = history.values ∧ further.Unused number) := by
  intro value after ran
  cases ran
  refine ⟨history.draw, .single .draw, rfl, rfl, rfl, Nat.lt_succ_self _, ?_, ?_⟩
  · intro value built
    exact Nat.ne_of_lt (history.keys value built)
  · intro value built same
    exact Nat.lt_irrefl _ (history.nodes value built _ same)

end Build

section

variable {manner : Manner} {history : History}

private theorem Value.yields_ofType (source : Source) (type : ShaderType) :
    Build.Yields manner history (Value.ofType source type)
      (fun further value => further.values = history.values ∧ type ≠ .operation ∧
        ∃ key, further.Unused key ∧ value = .mk key type source) := by
  unfold Value.ofType
  split
  · rename_i proper
    refine Build.yields_fresh.bind ?_
    rintro further key _ ⟨same, unused⟩
    exact .pure ⟨same, ((Kind.mem_types_iff _ _).1 proper).2, key, unused, rfl⟩
  · exact Build.yields_violate _ _

theorem Value.yields_ofType_eq (source : Source) (type : ShaderType) :
    Build.Yields manner history (Value.ofType source type)
      (fun _ value => value.type = type ∧ value.source = source) := by
  refine (Value.yields_ofType source type).weaken ?_
  rintro _ _ ⟨_, _, _, _, rfl⟩
  exact ⟨rfl, rfl⟩

theorem Kind.yields_wrap (kind : Kind) (source : Source) (requested : Option ShaderType) :
    Build.Yields manner history (kind.wrap source requested)
      (fun further value => further.values = history.values ∧
        ∃ key type, further.Unused key ∧ kind.resolveType requested = .ok type ∧ value = .mk key type source) := by
  unfold Kind.wrap
  split
  · rename_i type resolved
    refine Build.yields_fresh.bind ?_
    rintro further key _ ⟨same, unused⟩
    exact .pure ⟨same, key, type, unused, resolved, rfl⟩
  · exact Build.yields_violate _ _

/-- A kind that is asked for a type takes it, if the type is one of its own. -/
theorem Kind.resolveType_some {kind : Kind} {requested type : ShaderType}
    (resolved : kind.resolveType (some requested) = .ok type) : type = requested ∧ type ∈ kind.types := by
  rw [Kind.resolveType] at resolved
  split at resolved
  · rename_i own
    cases resolved
    exact ⟨rfl, own⟩
  · exact nomatch resolved

/-- A new value is built, if its source is accepted and, where that is asked for, of its type. -/
theorem Build.Yields.built {construction : Build Value} {source : Source} (accepts : history.Accepts source)
    (yields : Build.Yields manner history construction (fun further value => further.values = history.values ∧
      ∃ key type, further.Unused key ∧ value = .mk key type source ∧
        (manner.typed → type ≠ .operation ∧ source.Typed type))) :
    Build.Yields manner history construction History.Has := by
  intro value after ran
  obtain ⟨further, leads, documents, ended, same, key, type, unused, rfl, sound⟩ := yields value after ran
  have admits : further.Admits (.mk key type source) := ⟨unused, accepts.later leads same⟩
  exact ⟨_, leads.trans (.single (.add admits sound)), documents, ended, List.mem_cons_self⟩

theorem Value.yields_built {source : Source} {type : ShaderType} (accepts : history.Accepts source)
    (typed : manner.typed → source.Typed type) :
    Build.Yields manner history (Value.ofType source type) History.Has := by
  refine ((Value.yields_ofType source type).weaken ?_).built accepts
  rintro _ _ ⟨same, proper, key, unused, rfl⟩
  exact ⟨same, key, type, unused, rfl, fun asked => ⟨proper, typed asked⟩⟩

theorem Value.yields_ofLeaf {leaf : Leaf} {type : ShaderType} (typed : leaf.Typed type) :
    Build.Yields manner history (Value.ofLeaf leaf type) History.Has :=
  Value.yields_built (History.accepts_leaf leaf) (fun _ => typed)

private theorem Value.yields_constant (constant : Constant) :
    Build.Yields manner history (Value.constant constant) History.Has :=
  Value.yields_ofLeaf ⟨rfl, rfl⟩

theorem Value.yields_literal (plain : Plain) : Build.Yields manner history (Value.literal plain) History.Has := by
  cases plain with
  | constant constant => exact Value.yields_constant constant
  | _ => exact Build.yields_violate _ _

/-- A fresh number makes a new node of values that are built. -/
theorem Build.yields_accepted {source : Nat → Source} {operands : List Value}
    (isNode : ∀ node, (source node).node? = some node) (reads : ∀ node, (source node).operands = operands)
    (built : ∀ operand ∈ operands, history.Has operand) :
    Build.Yields manner history Build.fresh (fun further node => further.Accepts (source node)) := by
  intro node after ran
  obtain ⟨further, leads, documents, ended, same, unused⟩ := Build.yields_fresh node after ran
  refine ⟨further, leads, documents, ended, ⟨fun operand read => ?_, fun other isOther => .inl ?_⟩⟩
  · exact leads.has (built operand (reads node ▸ read))
  · rw [isNode] at isOther
    cases isOther
    exact unused

private theorem Value.yields_node {source : Nat → Source} {type : ShaderType} {operands : List Value}
    (isNode : ∀ node, (source node).node? = some node) (reads : ∀ node, (source node).operands = operands)
    (built : ∀ operand ∈ operands, history.Has operand) (typed : ∀ node, (source node).Typed type) :
    Build.Yields manner history (do Value.ofType (source (← Build.fresh)) type) History.Has :=
  (Build.yields_accepted isNode reads built).bind
    (fun _ node _ accepts => Value.yields_built accepts (fun _ => typed node))

/-- The values that an operator itself reads. -/
def Operator.reads : Operator → List Value
  | .branch condition => [condition]
  | .lerp factor => [factor]
  | _ => []

theorem Value.yields_operate {lhs rhs : Value} {operator : Operator} (left : history.Has lhs)
    (right : history.Has rhs) (inner : ∀ value ∈ operator.reads, history.Has value) :
    Build.Yields manner history (lhs.operate operator rhs) History.Has := by
  rw [Value.operate]
  split
  · exact Build.yields_violate _ _
  · rename_i type fits
    cases operator with
    | unknown text => exact nomatch fits
    | arithmetic operator | compare comparison | sample filter =>
      refine Value.yields_node (fun _ => rfl) (fun _ => rfl) ?_ (fun _ => Source.typed_of_operation rfl fits)
      simp [left, right]
    | branch condition =>
      have built : history.Has condition := inner condition List.mem_cons_self
      refine Value.yields_node (fun _ => rfl) (fun _ => rfl) ?_ (fun _ => Source.typed_of_operation rfl fits)
      simp [left, right, built]
    | lerp factor =>
      have built : history.Has factor := inner factor List.mem_cons_self
      refine Value.yields_node (fun _ => rfl) (fun _ => rfl) ?_ (fun _ => Source.typed_of_operation rfl fits)
      simp [left, right, built]

/-- An operand of an expression is built if it is a shader value. -/
def History.Provides (history : History) : Operand → Prop
  | .value value => history.Has value
  | .plain _ => True

theorem History.Leads.provides {further : History} (leads : history.Leads manner further) {operand : Operand}
    (provides : history.Provides operand) : further.Provides operand := by
  cases operand with
  | value value => exact leads.has provides
  | plain => trivial

theorem Value.yields_operandBeside (beside : Value) {operand : Operand} (provides : history.Provides operand) :
    Build.Yields manner history (beside.operandBeside operand) History.Has := by
  unfold Value.operandBeside
  split
  · exact .pure provides
  · split
    · split
      · split
        · exact Value.yields_constant _
        · exact Build.yields_throw _ _
      · exact Build.yields_violate _ _
      · exact Value.yields_constant _
    · exact Build.yields_violate _ _
  · exact Build.yields_violate _ _

theorem Value.yields_arithmetic {lhs : Value} {operator : Arithmetic} {rhs : Operand} (left : history.Has lhs)
    (right : history.Provides rhs) : Build.Yields manner history (lhs.arithmetic operator rhs) History.Has :=
  (lhs.yields_operandBeside right).bind
    (fun _ _ leads built => Value.yields_operate (leads.has left) built (by simp [Operator.reads]))

theorem Value.yields_arithmeticFrom {rhs : Value} {operator : Arithmetic} {lhs : Plain} (right : history.Has rhs) :
    Build.Yields manner history (rhs.arithmeticFrom operator lhs) History.Has :=
  (rhs.yields_operandBeside (show history.Provides (.plain lhs) from trivial)).bind
    (fun _ _ leads built => Value.yields_operate built (leads.has right) (by simp [Operator.reads]))

theorem Value.yields_compare {lhs : Value} {comparison : Comparison} {rhs : Operand} (left : history.Has lhs)
    (right : history.Provides rhs) : Build.Yields manner history (lhs.compare comparison rhs) History.Has :=
  (lhs.yields_operandBeside right).bind
    (fun _ _ leads built => Value.yields_operate (leads.has left) built (by simp [Operator.reads]))

theorem Value.yields_lerp {lhs rhs factor : Value} (left : history.Has lhs) (right : history.Has rhs)
    (built : history.Has factor) : Build.Yields manner history (lhs.lerp rhs factor) History.Has :=
  Value.yields_operate left right (by simpa [Operator.reads] using built)

theorem Value.yields_lerpBy {lhs rhs : Value} {factor : Constant} (left : history.Has lhs) (right : history.Has rhs) :
    Build.Yields manner history (lhs.lerpBy rhs factor) History.Has := by
  rw [Value.lerpBy]
  split
  · exact (Value.yields_constant _).bind
      (fun _ _ leads built => Value.yields_lerp (leads.has left) (leads.has right) built)
  · exact Build.yields_throw _ _

theorem Value.yields_select {condition success failure : Value} (built : history.Has condition)
    (left : history.Has success) (right : history.Has failure) :
    Build.Yields manner history (condition.select success failure) History.Has := by
  rw [Value.select]
  split
  · exact Value.yields_operate left right (by simpa [Operator.reads] using built)
  · exact Build.yields_throw _ _

theorem Value.yields_sample {texture coordinate : Value} {filter : Filter} (left : history.Has texture)
    (right : history.Has coordinate) :
    Build.Yields manner history (texture.sample coordinate filter) History.Has := by
  rw [Value.sample]
  split
  · exact Value.yields_operate left right (by simp [Operator.reads])
  · exact Build.yields_throw _ _

private theorem mem_of_occursIn {letter : Char} {letters : List Char} (occurs : occursIn [letter] letters = true) :
    letter ∈ letters := by
  induction letters with
  | nil => simp [occursIn] at occurs
  | cons first rest ih =>
    simp only [occursIn, List.isPrefixOf, Bool.and_true, Bool.or_eq_true, beq_iff_eq] at occurs
    rcases occurs with rfl | later
    · exact List.mem_cons_self
    · exact List.mem_cons_of_mem _ (ih later)

/-- Components that are selected by letters of their own choice are built, but need not be well typed. -/
theorem Value.yields_component {value : Value} {letters : String} (built : history.Has value)
    (single : manner.typed → ∃ letter : Char, letters = letter.toString) :
    Build.Yields manner history (value.component letters) History.Has := by
  rw [Value.component]
  split
  · rename_i selected
    obtain ⟨occurs, least, most⟩ := selected
    have accepts : history.Accepts (.component value letters) :=
      ⟨by simpa [Source.operands] using built, fun _ isNode => nomatch isNode⟩
    refine Value.yields_built accepts (fun asked => ⟨rfl, least, most, ?_⟩)
    obtain ⟨letter, rfl⟩ := single asked
    have one : letter.toString.toList = [letter] := by simp [Char.toString]
    rw [one] at occurs
    exact ⟨letter, mem_of_occursIn occurs, rfl⟩
  · exact Build.yields_violate _ _

theorem Value.yields_member {value : Value} {letter : Char} (built : history.Has value) :
    Build.Yields manner history (value.member letter) History.Has := by
  rw [Value.member]
  split
  · exact Value.yields_component built (fun _ => ⟨letter, rfl⟩)
  · exact Build.yields_throw _ _

theorem Kind.yields_construct {kind : Kind} {parts : List Value} (built : ∀ part ∈ parts, history.Has part) :
    Build.Yields manner history (kind.construct parts) History.Has := by
  unfold Kind.construct
  split
  · exact Build.yields_violate _ _
  · exact Build.yields_violate _ _
  · exact Build.yields_throw _ _
  · rename_i kind whole _ _ _
    split
    · exact Build.yields_violate _ _
    · rename_i fits
      have accepted : Build.Yields manner history Build.fresh
          (fun further node => further.Accepts (.construct node whole parts)) :=
        Build.yields_accepted (fun _ => rfl) (fun _ => rfl) built
      refine accepted.bind (fun further node _ accepts => ?_)
      refine ((Kind.yields_wrap _ _ _).weaken ?_).built accepts
      rintro _ _ ⟨same, key, type, unused, resolved, rfl⟩
      obtain ⟨rfl, own⟩ := Kind.resolveType_some resolved
      exact ⟨same, key, type, unused, rfl, fun _ => ⟨((Kind.mem_types_iff _ _).1 own).2, rfl, fits⟩⟩

end

end Shading
