import Shading.Proofs.Documents
import Shading.Script.Session

/-!
# What sessions hold

Every step of a script is a run of moves: what it builds is added to the history of its session, and what it declares
or writes changes a document. So what moves keep is kept by all scripts. Steps that wrap a source as they are told can
build values that are not well typed; the others, the builders, build well-typed values only (`Session.sound_after`,
`Session.typed_after`).
-/

namespace Shading.Script

/-- Every step builds what the operations on values and documents build, except for those that wrap a source, or select
a run of components, as they are told. -/
def Step.isBuilder : Step → Bool
  | .component _ _ | .wrap _ _ _ | .wrapAs _ _ => false
  | _ => true

/-- The name that the step gives to a new document. -/
def Step.creates? : Step → Option String
  | .newDocument name _ => some name
  | _ => none

/-- The step refrains from what it must refrain from. -/
structure Step.Follows (step : Step) (manner : Manner) : Prop where
  typed : manner.typed → step.isBuilder = true
  kept : ∀ name, manner.kept name → step.creates? ≠ some name

/-- The session after a script, whatever becomes of its steps. -/
def Session.after (session : Session) : List Command → Session
  | [] => session
  | command :: rest => (session.perform command).session.after rest

/-- The history of a session: it has its documents and its next number, and what the registers hold is built. -/
structure Session.Records (session : Session) (history : History) : Prop where
  documents : session.documents = history.documents
  next : session.next = history.next
  registers : ∀ entry ∈ session.registers.entries, history.Has entry.2

/-- A value in a reply is built. -/
def Reply.Built (history : History) : Reply → Prop
  | .value held => history.Has held
  | _ => True

namespace Run

/-- A run makes moves in the history of its session, after which its result is as stated unless it fails. -/
def Keeps {α : Type} (manner : Manner) (history : History) (run : Run α) (Post : History → α → Prop) : Prop :=
  ∀ session : Session, history.Regular manner → session.Records history → ∃ further, history.Leads manner further ∧
    (run.run.run session).2.Records further ∧ ∀ value, (run.run.run session).1 = .ok value → Post further value

/-- A run makes no moves, and its result is as stated unless it fails. -/
def Reads {α : Type} (manner : Manner) (history : History) (run : Run α) (Post : α → Prop) : Prop :=
  Keeps manner history run (fun further value => history = further ∧ Post value)

variable {α β : Type} {manner : Manner} {history : History}

/-- What a regular history has may be used. -/
theorem Keeps.of_regular {run : Run α} {Post : History → α → Prop}
    (keeps : history.Regular manner → Keeps manner history run Post) : Keeps manner history run Post :=
  fun session regular => keeps regular session regular

theorem Keeps.pure {value : α} {Post : History → α → Prop} (holds : Post history value) :
    Keeps manner history (pure value) Post := by
  intro session _ records
  refine ⟨history, .refl, records, ?_⟩
  intro result same
  cases same
  exact holds

theorem Keeps.bind {run : Run α} {continued : α → Run β} {Mid : History → α → Prop} {Post : History → β → Prop}
    (first : Keeps manner history run Mid)
    (second : ∀ further value, history.Leads manner further → Mid further value →
      Keeps manner further (continued value) Post) :
    Keeps manner history (run >>= continued) Post := by
  intro session regular records
  obtain ⟨middle, leads, middleRecords, holds⟩ := first session regular records
  have opened : (run >>= continued).run.run session = match (run.run.run session).1 with
      | .ok value => (continued value).run.run (run.run.run session).2
      | .error fault => (.error fault, (run.run.run session).2) := by
    simp only [ExceptT.run_bind, StateT.run_bind]
    rcases run.run.run session with ⟨result, next⟩
    cases result <;> rfl
  rw [opened]
  cases result : (run.run.run session).1 with
  | error fault => exact ⟨middle, leads, middleRecords, fun value same => nomatch same⟩
  | ok value =>
    obtain ⟨last, leadsOn, lastRecords, final⟩ :=
      second middle value leads (holds value result) _ (leads.regular regular) middleRecords
    exact ⟨last, leads.trans leadsOn, lastRecords, final⟩

/-- What two statements say of the result of a run, one of them without the history. -/
theorem Keeps.and {run : Run α} {Post : History → α → Prop} {Also : α → Prop} (first : Keeps manner history run Post)
    (second : Keeps manner history run (fun _ value => Also value)) :
    Keeps manner history run (fun further value => Post further value ∧ Also value) := by
  intro session regular records
  obtain ⟨further, leads, after, holds⟩ := first session regular records
  obtain ⟨_, _, _, also⟩ := second session regular records
  exact ⟨further, leads, after, fun value same => ⟨holds value same, also value same⟩⟩

private theorem keeps_throw (fault : Fault) (Post : History → α → Prop) : Keeps manner history (throw fault) Post :=
  fun _ _ records => ⟨history, .refl, records, fun _ same => nomatch same⟩

theorem Reads.then {run : Run α} {continued : α → Run β} {Mid : α → Prop} {Post : History → β → Prop}
    (first : Reads manner history run Mid) (second : ∀ value, Mid value → Keeps manner history (continued value) Post) :
    Keeps manner history (run >>= continued) Post := by
  refine Keeps.bind first ?_
  rintro _ value _ ⟨rfl, holds⟩
  exact second value holds

theorem Keeps.weaken {run : Run α} {Pre Post : History → α → Prop} (keeps : Keeps manner history run Pre)
    (weaker : ∀ further value, Pre further value → Post further value) : Keeps manner history run Post := by
  intro session regular records
  obtain ⟨further, leads, after, holds⟩ := keeps session regular records
  exact ⟨further, leads, after, fun value same => weaker further value (holds value same)⟩

theorem Reads.weaken {run : Run α} {Pre Post : α → Prop} (reads : Reads manner history run Pre)
    (weaker : ∀ value, Pre value → Post value) : Reads manner history run Post :=
  Keeps.weaken reads (fun _ value holds => ⟨holds.1, weaker value holds.2⟩)

theorem Reads.pure {value : α} {Post : α → Prop} (holds : Post value) : Reads manner history (pure value) Post :=
  Keeps.pure ⟨rfl, holds⟩

private theorem reads_malformed (cause : Malformed) (Post : α → Prop) : Reads manner history (malformed cause) Post :=
  keeps_throw _ _

theorem keeps_malformed (cause : Malformed) (Post : History → α → Prop) :
    Keeps manner history (malformed cause) Post :=
  keeps_throw _ _

private theorem reads_get : Reads manner history (get : Run Session) (fun session => session.Records history) := by
  intro session _ records
  refine ⟨history, .refl, records, ?_⟩
  intro value same
  cases same
  exact ⟨rfl, records⟩

theorem reads_found {entry : Option α} {otherwise : Malformed} :
    Reads manner history (found entry otherwise) (fun value => entry = some value) := by
  cases entry with
  | none => exact reads_malformed _ _
  | some value => exact .pure rfl

theorem reads_register (name : String) : Reads manner history (register name) history.Has := by
  refine reads_get.then (fun session records => ?_)
  exact reads_found.weaken (fun value found => records.registers _ (Table.mem_of_get? found))

theorem reads_registers (names : List String) :
    Reads manner history (registers names) (fun values => ∀ value ∈ values, history.Has value) := by
  induction names with
  | nil => exact .pure (fun _ member => nomatch member)
  | cons name rest ih =>
    rw [registers, List.mapM_cons]
    refine (reads_register name).then (fun value built => ?_)
    refine Reads.then ih (fun values others => ?_)
    exact Reads.pure (List.forall_mem_cons.2 ⟨built, others⟩)

theorem reads_document (name : String) :
    Reads manner history (document name) (fun document => history.documents.get? name = some document) := by
  refine reads_get.then (fun session records => ?_)
  rw [records.documents]
  exact reads_found

theorem reads_vertexDocument (name : String) :
    Reads manner history (vertexDocument name)
      (fun shader => history.documents.get? name = some (.vertex shader)) := by
  refine (reads_document name).then (fun document held => ?_)
  cases document with
  | vertex shader => exact Reads.pure held
  | fragment => exact reads_malformed _ _

theorem reads_fragmentDocument (name : String) :
    Reads manner history (fragmentDocument name)
      (fun shader => history.documents.get? name = some (.fragment shader)) := by
  refine (reads_document name).then (fun document held => ?_)
  cases document with
  | vertex => exact reads_malformed _ _
  | fragment shader => exact Reads.pure held

private theorem reads_generator (name : String) : Reads manner history (generator name) (fun _ => True) :=
  reads_get.then (fun _ _ => reads_found.weaken (fun _ _ => trivial))

private theorem reads_member (α : Type) [Enumeration α] (name : String) :
    Reads manner history (member α name) (fun _ => True) :=
  reads_found.weaken (fun _ _ => trivial)

theorem reads_memberOr {α : Type} [Enumeration α] (usual : α) (name : Option String) :
    Reads manner history (memberOr usual name) (fun _ => True) := by
  cases name with
  | none => exact Reads.pure trivial
  | some name => exact reads_member α name

private theorem reads_optional {α : Type} [Enumeration α] (name : Option String) :
    Reads manner history (name.mapM (member α)) (fun _ => True) := by
  cases name with
  | none => exact Reads.pure trivial
  | some name => exact (reads_member α name).then (fun _ _ => Reads.pure trivial)

private theorem reads_kind (name : String) : Reads manner history (kind name) (fun _ => True) :=
  reads_found.weaken (fun _ _ => trivial)

private theorem reads_lift (result : Except Error α) : Reads manner history (lift result)
    (fun value => result = .ok value) := by
  cases result with
  | error => exact keeps_throw _ _
  | ok value => exact Reads.pure rfl

private theorem reads_check (result : Except Violation α) : Reads manner history (check result) (fun _ => True) :=
  (reads_lift _).weaken (fun _ _ => trivial)

private theorem reads_holder (value : Value) : Reads manner history (holder value) (fun _ => True) :=
  reads_get.then (fun _ _ => Reads.pure trivial)

theorem reads_mapM {run : α → Run β} (entries : List α)
    (each : ∀ entry, Reads manner history (run entry) (fun _ => True)) :
    Reads manner history (entries.mapM run) (fun _ => True) := by
  induction entries with
  | nil => exact Reads.pure trivial
  | cons entry rest ih =>
    rw [List.mapM_cons]
    exact (each entry).then (fun _ _ => Reads.then ih (fun _ _ => Reads.pure trivial))

theorem keeps_putDocument {name : String} {document : Document} {Post : History → Prop}
    (installs : history.Installs manner name document Post) :
    Keeps manner history (putDocument name document) (fun further _ => Post further) := by
  intro session _ records
  obtain ⟨further, leads, documents, next, holds⟩ := installs
  refine ⟨further, leads, ⟨?_, records.next.trans next.symm, ?_⟩, fun _ _ => holds⟩
  · rw [documents, ← records.documents]
    rfl
  · exact fun entry member => leads.has (records.registers entry member)

private theorem keeps_putRegister {name : String} {value : Value} (built : history.Has value) :
    Reads manner history (putRegister name value) (fun _ => True) := by
  intro session _ records
  refine ⟨history, .refl, ⟨records.documents, records.next, ?_⟩, fun _ _ => ⟨rfl, trivial⟩⟩
  rintro ⟨other, held⟩ member
  rcases Table.mem_insert member with new | old
  · cases new
    exact built
  · exact records.registers _ old

private theorem reads_putGenerator (name : String) (generator : Generator) :
    Reads manner history (putGenerator name generator) (fun _ => True) :=
  fun _ _ records => ⟨history, .refl, ⟨records.documents, records.next, records.registers⟩, fun _ _ => ⟨rfl, trivial⟩⟩

private theorem reads_write (entries : Log) : Reads manner history (write entries) (fun _ => True) :=
  fun _ _ records => ⟨history, .refl, ⟨records.documents, records.next, records.registers⟩, fun _ _ => ⟨rfl, trivial⟩⟩

private theorem reads_call {name : String} {generator : Generator} (outcome : Outcome α) :
    Reads manner history (call name generator outcome) (fun _ => True) := by
  refine (reads_putGenerator _ _).then (fun _ _ => ?_)
  refine (reads_write _).then (fun _ _ => ?_)
  exact (reads_lift _).weaken (fun _ _ => trivial)

theorem run_build (construction : Build α) (session : Session) :
    (build construction).run.run session = match construction.run session.next with
      | .error error => (.error (.error error), session)
      | .ok result => (.ok result.1, { session with next := result.2 }) := by
  have opened : (build construction).run.run session = (lift (construction.run session.next) >>= fun result =>
      modify (fun session => { session with next := result.2 }) >>= fun _ => pure result.1).run.run session := rfl
  rw [opened]
  cases construction.run session.next <;> rfl

theorem keeps_build {construction : Build α} {Post : History → α → Prop}
    (yields : Build.Yields manner history construction Post) : Keeps manner history (build construction) Post := by
  intro session _ records
  rw [run_build]
  cases ran : construction.run session.next with
  | error error => exact ⟨history, .refl, records, fun _ same => nomatch same⟩
  | ok result =>
    rw [records.next] at ran
    obtain ⟨further, leads, documents, next, holds⟩ := yields result.1 result.2 ran
    refine ⟨further, leads, ⟨records.documents.trans documents.symm, next.symm, ?_⟩, ?_⟩
    · exact fun entry member => leads.has (records.registers entry member)
    · intro value same
      cases same
      exact holds

end Run

open Run

section

variable {manner : Manner} {history : History}

theorem Argument.reads_resolve (argument : Argument) :
    Reads manner history argument.resolve history.Provides := by
  cases argument with
  | register name => exact (reads_register name).then (fun _ built => Reads.pure built)
  | plain => exact Reads.pure trivial

private theorem SourceSpec.keeps_resolve (spec : SourceSpec) :
    Keeps manner history spec.resolve History.Accepts := by
  cases spec with
  | vertexAttribute slot _ => exact (reads_member Slot slot).then (fun _ _ => .pure (History.accepts_leaf _))
  | matrix which => exact (reads_member Matrix which).then (fun _ _ => .pure (History.accepts_leaf _))
  | uniform _ type => exact (reads_member ShaderType type).then (fun _ _ => .pure (History.accepts_leaf _))
  | literal _ type => exact (reads_member ShaderType type).then (fun _ _ => .pure (History.accepts_leaf _))
  | material _ field => exact (reads_member MaterialField field).then (fun _ _ => .pure (History.accepts_leaf _))
  | output | input | instanceIndex | unknown => exact .pure (History.accepts_leaf _)
  | component parent letters =>
    refine (reads_register parent).then (fun value built => .pure ⟨?_, fun _ isNode => nomatch isNode⟩)
    simpa [Source.operands] using built
  | construct type parts =>
    refine (reads_member ShaderType type).then (fun type _ => ?_)
    refine (reads_registers parts).then (fun parts built => ?_)
    have accepted : Build.Yields manner history Build.fresh
        (fun further node => further.Accepts (.construct node type parts)) :=
      Build.yields_accepted (fun _ => rfl) (fun _ => rfl) built
    exact (keeps_build accepted).bind (fun _ _ _ accepts => .pure accepts)
  | ofRegister name => exact (reads_register name).then (fun _ built => .pure (History.accepts_source built))

theorem OperatorSpec.reads_resolve (spec : OperatorSpec) :
    Reads manner history spec.resolve (fun operator => ∀ value ∈ operator.reads, history.Has value) := by
  have none : ∀ {operator : Operator}, operator.reads = [] → ∀ value ∈ operator.reads, history.Has value := by
    intro operator empty value member
    rw [empty] at member
    exact nomatch member
  cases spec with
  | arithmetic name => exact (reads_member Arithmetic name).then (fun _ _ => Reads.pure (none rfl))
  | compare name => exact (reads_member Comparison name).then (fun _ _ => Reads.pure (none rfl))
  | branch condition => exact (reads_register condition).then (fun _ built => Reads.pure (by simpa [Operator.reads]))
  | sample filter => exact (reads_memberOr _ filter).then (fun _ _ => Reads.pure (none rfl))
  | lerp factor => exact (reads_register factor).then (fun _ built => Reads.pure (by simpa [Operator.reads]))
  | unknown => exact Reads.pure (none rfl)

theorem AttributeSpec.reads_resolve (spec : AttributeSpec) : Reads manner history spec.resolve (fun _ => True) :=
  (reads_member Slot spec.slot).then (fun _ _ => Reads.pure trivial)

theorem ProgramSpec.reads_resolve (spec : ProgramSpec) : Reads manner history spec.resolve (fun _ => True) := by
  refine (reads_vertexDocument spec.vertex).then (fun _ _ => ?_)
  refine (reads_fragmentDocument spec.fragment).then (fun _ _ => ?_)
  exact (reads_mapM spec.attributes AttributeSpec.reads_resolve).then (fun _ _ => Reads.pure trivial)

theorem GeneratorSpec.reads_resolve (spec : GeneratorSpec) : Reads manner history spec.resolve (fun _ => True) := by
  cases spec with
  | dialect name =>
    exact (reads_member Glsl.Dialect name).then (fun _ _ => reads_get.then (fun _ _ => Reads.pure trivial))
  | target name => exact (reads_member Target name).then (fun _ _ => reads_get.then (fun _ _ => Reads.pure trivial))
  | standard | branchless => exact reads_get.then (fun _ _ => Reads.pure trivial)

private theorem keeps_arithmetic {operator : Arithmetic} {lhs rhs : Operand} (left : history.Provides lhs)
    (right : history.Provides rhs) : Keeps manner history (arithmetic operator lhs rhs) History.Has := by
  cases lhs with
  | value lhs => exact keeps_build (Value.yields_arithmetic left right)
  | plain lhs =>
    cases rhs with
    | value rhs => exact keeps_build (Value.yields_arithmeticFrom right)
    | plain => exact keeps_malformed _ _

private theorem keeps_repeatArithmetic {operator : Arithmetic} {operand : Operand} {count : Nat} {value : Value}
    (built : history.Has value) (right : history.Provides operand) :
    Keeps manner history (repeatArithmetic operator operand count value) History.Has := by
  induction count generalizing history value with
  | zero => exact .pure built
  | succ count ih =>
    refine (keeps_build (Value.yields_arithmetic built right)).bind ?_
    intro further next leads nextBuilt
    exact ih nextBuilt (leads.provides right)

private theorem keeps_withResources {α : Type} {name : String} {change : Resources → Build (α × Resources)}
    {Post : History → α → Prop}
    (yields : ∀ document : Document, history.documents.get? name = some document →
      Build.Yields manner history (change document.resources) (fun further result =>
        further.Installs manner name (document.withResources result.2) (fun last => Post last result.1))) :
    Keeps manner history (withResources name change) Post := by
  refine (reads_document name).then (fun document held => ?_)
  refine (keeps_build (yields document held)).bind ?_
  rintro further ⟨result, resources⟩ _ installs
  exact (keeps_putDocument installs).bind (fun _ _ _ holds => .pure holds)

theorem keeps_uniform (name asked : String) (kind : Kind) (component : ScalarType) :
    Keeps manner history (withResources name (fun resources => resources.uniform asked kind component))
      (fun further value => further.Has value ∧ kind.declaredType component = .ok value.type) :=
  keeps_withResources (fun _ held => Resources.yields_uniform held asked kind component)

theorem keeps_channel (name : String) (index : Int) :
    Keeps manner history (withResources name (fun resources => resources.channel index))
      (fun further channel => channel.Built further ∧ channel.Formed) := by
  refine .of_regular (fun regular => keeps_withResources (fun document held => ?_))
  exact Resources.yields_channel held (regular.formed _ (Table.mem_of_get? held)).resources index

private theorem keeps_withVertex {name register : String} {change : VertexShader → Value → Except Error VertexShader}
    (installs : ∀ {shader changed : VertexShader} {value : Value},
      history.documents.get? name = some (.vertex shader) → history.Has value → change shader value = .ok changed →
        history.Installs manner name (.vertex changed) (fun _ => True)) :
    Keeps manner history (withVertex name register change) Reply.Built := by
  refine (reads_vertexDocument name).then (fun shader held => ?_)
  refine (reads_register register).then (fun value built => ?_)
  refine (reads_lift _).then (fun changed set => ?_)
  exact (keeps_putDocument (installs held built set)).bind (fun _ _ _ _ => .pure trivial)

private theorem reads_scheduleOf (generator : Generator) (document : Document) :
    Reads manner history (scheduleOf generator document) (fun _ => True) := by
  refine (reads_lift _).then (fun _ _ => ?_)
  exact (reads_write _).then (fun _ _ => Reads.pure trivial)

private theorem reads_heldStatement (statement : Statement) :
    Reads manner history (heldStatement statement) (fun _ => True) := by
  cases statement with
  | declare value | assign _ value => exact (reads_holder value).then (fun _ _ => Reads.pure trivial)

private theorem keeps_value {run : Run Value} (keeps : Keeps manner history run History.Has) :
    Keeps manner history (do return .value (← run)) Reply.Built :=
  keeps.bind (fun _ _ _ built => .pure built)

private theorem keeps_answer {α : Type} {run : Run α} {Post : α → Prop} {reply : α → Reply}
    (reads : Reads manner history run Post) (plain : ∀ value, (reply value).Built history) :
    Keeps manner history (do return reply (← run)) Reply.Built :=
  reads.then (fun value _ => .pure (plain value))

/-- Every step is a run of moves, as far as it refrains from what it must. -/
theorem Step.keeps_perform (step : Step) (follows : step.Follows manner) :
    Keeps manner history step.perform Reply.Built := by
  cases step with
  | literal value => exact keeps_value (keeps_build (Value.yields_literal value))
  | arithmetic operator lhs rhs =>
    refine lhs.reads_resolve.then (fun lhs left => ?_)
    refine rhs.reads_resolve.then (fun rhs right => ?_)
    exact keeps_value (keeps_arithmetic left right)
  | compare comparison lhs rhs =>
    refine (reads_register lhs).then (fun lhs left => ?_)
    refine rhs.reads_resolve.then (fun rhs right => ?_)
    exact keeps_value (keeps_build (Value.yields_compare left right))
  | lerp lhs rhs factor =>
    refine (reads_register lhs).then (fun lhs left => ?_)
    refine (reads_register rhs).then (fun rhs right => ?_)
    refine factor.reads_resolve.then (fun factor built => ?_)
    split
    · exact keeps_value (keeps_build (Value.yields_lerp left right built))
    · exact keeps_value (keeps_build (Value.yields_lerpBy left right))
    · exact keeps_malformed _ _
  | select condition success failure =>
    refine (reads_register condition).then (fun condition built => ?_)
    refine (reads_register success).then (fun success left => ?_)
    refine (reads_register failure).then (fun failure right => ?_)
    exact keeps_value (keeps_build (Value.yields_select built left right))
  | sample texture coordinate filter =>
    refine (reads_register texture).then (fun texture left => ?_)
    refine (reads_register coordinate).then (fun coordinate right => ?_)
    refine (reads_memberOr _ filter).then (fun filter _ => ?_)
    exact keeps_value (keeps_build (Value.yields_sample left right))
  | member value letters =>
    refine (reads_register value).then (fun value built => ?_)
    split
    · split
      · exact keeps_value (keeps_build (Value.yields_member built))
      · exact keeps_malformed _ _
    · exact keeps_malformed _ _
  | component value letters =>
    refine (reads_register value).then (fun value built => ?_)
    exact keeps_value (keeps_build (Value.yields_component built (fun asked => nomatch follows.typed asked)))
  | construct kind parts =>
    refine (reads_kind kind).then (fun kind _ => ?_)
    refine (reads_registers parts).then (fun parts built => ?_)
    exact keeps_value (keeps_build (Kind.yields_construct built))
  | wrap kind source type =>
    refine (reads_kind kind).then (fun kind _ => ?_)
    refine source.keeps_resolve.bind (fun further source _ accepts => ?_)
    refine (reads_optional type).then (fun type _ => ?_)
    refine keeps_value (keeps_build (((Kind.yields_wrap kind source type).weaken ?_).built accepts))
    rintro _ _ ⟨same, key, type, unused, _, rfl⟩
    exact ⟨same, key, type, unused, rfl, fun asked => nomatch follows.typed asked⟩
  | wrapAs source type =>
    refine source.keeps_resolve.bind (fun further source _ accepts => ?_)
    refine (reads_member ShaderType type).then (fun type _ => ?_)
    exact keeps_value (keeps_build (Value.yields_built accepts (fun asked => nomatch follows.typed asked)))
  | operate lhs operator rhs =>
    refine (reads_register lhs).then (fun lhs left => ?_)
    refine operator.reads_resolve.then (fun operator inner => ?_)
    refine (reads_register rhs).then (fun rhs right => ?_)
    exact keeps_value (keeps_build (Value.yields_operate left right inner))
  | chain start operator operand count =>
    refine (reads_register start).then (fun start built => ?_)
    refine operand.reads_resolve.then (fun operand right => ?_)
    exact keeps_value (keeps_repeatArithmetic built right)
  | inspect value =>
    refine (reads_register value).then (fun value _ => ?_)
    split
    · exact .pure trivial
    · refine (reads_check _).then (fun _ _ => ?_)
      exact keeps_answer (reads_mapM _ reads_holder) (fun _ => trivial)
  | display value =>
    refine (reads_register value).then (fun _ _ => reads_get.then (fun _ _ => ?_))
    split
    · exact .pure trivial
    · exact keeps_throw _ _
  | sameValue first second | sameSource first second =>
    refine (reads_register first).then (fun _ _ => ?_)
    exact keeps_answer (reads_register second) (fun _ => trivial)
  | newDocument name stage =>
    have free : ¬ manner.kept name := fun kept => follows.kept name kept rfl
    have installs : history.Installs manner name (.blank stage) (fun _ => True) :=
      .of_move (.create free (Document.within_blank stage _))
    cases stage with
    | vertex | fragment => exact (keeps_putDocument installs).bind (fun _ _ _ _ => .pure trivial)
  | uniform document name kind scalar =>
    refine (reads_document document).then (fun _ _ => ?_)
    have declares : ∀ kind, Keeps manner history (do
        let scalar ← memberOr ScalarType.float scalar
        return .value (← withResources document (fun resources => resources.uniform name kind scalar)))
        Reply.Built := by
      intro kind
      refine (reads_memberOr _ scalar).then (fun scalar _ => ?_)
      exact keeps_value ((keeps_uniform document name kind scalar).weaken (fun _ _ holds => holds.1))
    cases kind with
    | none => exact declares .scalar
    | some kind => exact (reads_kind kind).then (fun kind _ => declares kind)
  | uniforms document | uniformsByIndex document | channels document =>
    exact keeps_answer (reads_document document) (fun _ => trivial)
  | channel document index field =>
    refine (keeps_channel document index).bind ?_
    rintro further channel _ ⟨built, _⟩
    split
    · exact .pure trivial
    · exact .pure (built _ (channel.field_mem_values _))
  | instanceIndex document =>
    refine (reads_document document).then (fun _ _ => ?_)
    exact keeps_value (keeps_build (Value.yields_ofLeaf rfl))
  | vertexAttribute document slot stream =>
    refine (reads_vertexDocument document).then (fun _ _ => ?_)
    refine (reads_member Slot slot).then (fun slot _ => ?_)
    exact keeps_value (keeps_build (Value.yields_ofLeaf rfl))
  | vertexInput document | matrix document | readPosition document | readPointSize document =>
    refine (reads_vertexDocument document).then (fun _ _ => ?_)
    exact keeps_value (keeps_build (Value.yields_ofLeaf rfl))
  | readColor document =>
    refine (reads_fragmentDocument document).then (fun _ _ => ?_)
    exact keeps_value (keeps_build (Value.yields_ofLeaf rfl))
  | setPosition => exact keeps_withVertex VertexShader.installs_position
  | setPointSize => exact keeps_withVertex VertexShader.installs_pointSize
  | setOutput => exact keeps_withVertex VertexShader.installs_output
  | setColor document value =>
    refine (reads_fragmentDocument document).then (fun shader held => ?_)
    refine (reads_register value).then (fun value built => ?_)
    refine (reads_lift _).then (fun changed set => ?_)
    have installs : history.Installs manner document (.fragment changed) (fun _ => True) :=
      FragmentShader.installs_color held built set
    exact (keeps_putDocument installs).bind (fun _ _ _ _ => .pure trivial)
  | readOutput document name =>
    refine (reads_vertexDocument document).then (fun shader held => .of_regular (fun regular => ?_))
    have formed := (regular.formed _ (Table.mem_of_get? held)).2
    exact keeps_value (keeps_build (VertexShader.yields_readOutput formed.accepted name))
  | hasOutput document => exact keeps_answer (reads_vertexDocument document) (fun _ => trivial)
  | outputs document =>
    refine (reads_vertexDocument document).then (fun shader _ => ?_)
    exact keeps_answer (reads_mapM _ (fun _ => (reads_holder _).then (fun _ _ => Reads.pure trivial)))
      (fun _ => trivial)
  | declareInput document name kind scalar =>
    refine (reads_fragmentDocument document).then (fun shader held => ?_)
    refine (reads_kind kind).then (fun kind _ => ?_)
    refine (reads_memberOr _ scalar).then (fun scalar _ => ?_)
    refine (keeps_build (FragmentShader.yields_input held name kind scalar)).bind ?_
    rintro further ⟨value, changed⟩ _ installs
    exact (keeps_putDocument installs).bind (fun _ _ _ holds => .pure holds.1)
  | getInput document name =>
    refine (reads_fragmentDocument document).then (fun shader held => ?_)
    refine (reads_lift _).then (fun value found => .pure ?_)
    unfold FragmentShader.getInput at found
    split at found
    · rename_i declared
      cases found
      exact (Document.within_of_get? held).inputs _ (Table.mem_of_get? declared)
    · exact nomatch found
  | hasInput document | inputs document => exact keeps_answer (reads_fragmentDocument document) (fun _ => trivial)
  | writes document =>
    refine (reads_document document).then (fun document _ => ?_)
    exact keeps_answer (reads_mapM _ (fun _ => (reads_holder _).then (fun _ _ => Reads.pure trivial)))
      (fun _ => trivial)
  | describeAttribute binding => exact keeps_answer binding.reads_resolve (fun _ => trivial)
  | failLink name expected actual reason =>
    refine (reads_optional expected).then (fun _ _ => ?_)
    exact (reads_optional actual).then (fun _ _ => keeps_throw _ _)
  | newGenerator name choice =>
    refine choice.reads_resolve.then (fun generator _ => ?_)
    exact (reads_putGenerator name generator).then (fun _ _ => .pure trivial)
  | spelling generator type =>
    refine (reads_generator generator).then (fun _ _ => ?_)
    refine (reads_member ShaderType type).then (fun _ _ => ?_)
    exact keeps_answer (reads_check _) (fun _ => trivial)
  | sourceName generator source =>
    refine (reads_generator generator).then (fun _ _ => ?_)
    refine source.keeps_resolve.bind (fun _ _ _ _ => ?_)
    exact keeps_answer (reads_lift _) (fun _ => trivial)
  | literalText generator value type =>
    refine (reads_generator generator).then (fun _ _ => ?_)
    refine (reads_member ShaderType type).then (fun _ _ => ?_)
    exact keeps_answer (reads_lift _) (fun _ => trivial)
  | symbol generator operator =>
    refine (reads_generator generator).then (fun _ _ => ?_)
    refine operator.reads_resolve.then (fun _ _ => ?_)
    exact keeps_answer (reads_lift _) (fun _ => trivial)
  | operationText generator value | constructText generator value =>
    refine (reads_generator generator).then (fun _ _ => ?_)
    refine (reads_register value).then (fun _ _ => ?_)
    refine (reads_lift _).then (fun expression _ => ?_)
    cases expression with
    | none => exact keeps_malformed _ _
    | some => exact .pure trivial
  | reference generator value =>
    refine (reads_generator generator).then (fun _ _ => ?_)
    refine (reads_register value).then (fun _ _ => ?_)
    exact keeps_answer (reads_lift _) (fun _ => trivial)
  | nameTemporary name value =>
    refine (reads_generator name).then (fun _ _ => ?_)
    refine (reads_register value).then (fun _ _ => ?_)
    refine (reads_check _).then (fun _ _ => ?_)
    exact (reads_putGenerator name _).then (fun _ _ => .pure trivial)
  | declaration name value =>
    refine (reads_generator name).then (fun _ _ => ?_)
    refine (reads_register value).then (fun _ _ => ?_)
    refine (reads_lift _).then (fun _ _ => ?_)
    exact (reads_putGenerator name _).then (fun _ _ => .pure trivial)
  | temporary generator index =>
    exact (reads_generator generator).then (fun _ _ => (reads_lift _).then (fun _ _ => .pure trivial))
  | renew name stage =>
    refine (reads_generator name).then (fun _ _ => ?_)
    refine (reads_optional stage).then (fun _ _ => ?_)
    exact (reads_putGenerator name _).then (fun _ _ => .pure trivial)
  | temporaries generator => exact keeps_answer (reads_generator generator) (fun _ => trivial)
  | schedule generator document =>
    refine (reads_generator generator).then (fun _ _ => ?_)
    refine (reads_document document).then (fun _ _ => ?_)
    refine (reads_scheduleOf _ _).then (fun _ _ => ?_)
    exact keeps_answer (reads_mapM _ reads_heldStatement) (fun _ => trivial)
  | reachable generator document =>
    refine (reads_generator generator).then (fun _ _ => ?_)
    exact keeps_answer (reads_document document) (fun _ => trivial)
  | checkLink generator program =>
    refine (reads_generator generator).then (fun _ _ => ?_)
    refine program.reads_resolve.then (fun _ _ => ?_)
    exact (reads_lift _).then (fun _ _ => .pure trivial)
  | generate name program | vertexSource name program | fragmentSource name program =>
    refine (reads_generator name).then (fun _ _ => ?_)
    refine program.reads_resolve.then (fun _ _ => ?_)
    exact keeps_answer (reads_call _) (fun _ => trivial)
  | body name document =>
    refine (reads_generator name).then (fun _ _ => ?_)
    refine (reads_document document).then (fun _ _ => ?_)
    exact keeps_answer (reads_call _) (fun _ => trivial)
  | unknown => exact keeps_malformed _ _

/-- A reply whose value is built can be kept in a register. -/
theorem Command.keeps_of_step {command : Command} {Post : History → Reply → Prop}
    (keeps : Keeps manner history command.step.perform (fun further reply => reply.Built further ∧ Post further reply)) :
    Keeps manner history command.perform (fun further reply => reply.Built further ∧ Post further reply) := by
  refine keeps.bind (fun further reply _ holds => ?_)
  split
  · exact (keeps_putRegister holds.1).then (fun _ _ => .pure holds)
  · exact .pure holds

theorem Session.Records.unlogged {session : Session} (records : session.Records history) :
    Session.Records { session with log := [] } history :=
  ⟨records.documents, records.next, records.registers⟩

/-- What a command replies is built. -/
theorem Session.Records.perform {session : Session} (records : session.Records history)
    (regular : history.Regular manner) (command : Command) (follows : command.step.Follows manner) :
    ∃ further, history.Leads manner further ∧ (session.perform command).session.Records further ∧
      ∀ value, (session.perform command).result = .ok (.value value) → further.Has value := by
  have keeps : Keeps manner history command.perform (fun further reply => reply.Built further ∧ True) :=
    Command.keeps_of_step ((command.step.keeps_perform follows).weaken (fun _ _ built => ⟨built, trivial⟩))
  obtain ⟨further, leads, after, holds⟩ := keeps _ regular records.unlogged
  exact ⟨further, leads, after, fun value same => (holds _ same).1⟩

theorem Session.Records.after {session : Session} (records : session.Records history)
    (regular : history.Regular manner) {script : List Command}
    (follows : ∀ command ∈ script, command.step.Follows manner) :
    ∃ further, history.Leads manner further ∧ (session.after script).Records further := by
  induction script generalizing session history with
  | nil => exact ⟨history, .refl, records⟩
  | cons command rest ih =>
    obtain ⟨next, leads, nextRecords, _⟩ := records.perform regular command (follows command List.mem_cons_self)
    obtain ⟨last, leadsOn, lastRecords⟩ :=
      ih nextRecords (leads.regular regular) (fun other member => follows other (List.mem_cons_of_mem _ member))
    exact ⟨last, leads.trans leadsOn, lastRecords⟩

end

/-- The history of a session that has just begun. -/
def beginning : History where
  documents := ⟨[("v", .blank .vertex), ("f", .blank .fragment)]⟩
  values := []
  next := 0
  keys := fun _ built => nomatch built
  nodes := fun _ built => nomatch built
  operands := fun _ built => nomatch built
  held := by
    intro entry member
    simp only [List.mem_cons, List.not_mem_nil, or_false] at member
    rcases member with rfl | rfl
    · exact Document.within_blank .vertex []
    · exact Document.within_blank .fragment []

theorem regular_beginning (manner : Manner) : beginning.Regular manner where
  sameKey := fun _ _ built => nomatch built
  sameNode := fun _ _ _ built => nomatch built
  typed := fun _ _ built => nomatch built
  formed := by
    intro entry member
    simp only [beginning, List.mem_cons, List.not_mem_nil, or_false] at member
    rcases member with rfl | rfl
    · exact Document.formed_blank .vertex
    · exact Document.formed_blank .fragment

/-- What a script leaves has a history that starts with two blank documents. -/
theorem Session.exists_history (manner : Manner) (levels : Option Nat) {script : List Command}
    (follows : ∀ command ∈ script, command.step.Follows manner) :
    ∃ history, beginning.Leads manner history ∧ ((Session.start levels).after script).Records history := by
  have records : (Session.start levels).Records beginning := ⟨rfl, rfl, fun _ member => nomatch member⟩
  exact records.after (regular_beginning manner) follows

/-- What a session holds is known. -/
structure Session.Sound (strict : Prop) (ledger : Ledger) (session : Session) : Prop where
  below : ledger.Below session.next
  registers : ∀ entry ∈ session.registers.entries, entry.2.Known strict ledger
  documents : ∀ entry ∈ session.documents.entries, entry.2.Sound strict ledger

theorem Session.Records.sound {session : Session} {manner : Manner} {history : History}
    (records : session.Records history) (regular : history.Regular manner) :
    session.Sound manner.typed history.ledger where
  below := by
    rw [records.next]
    exact history.below_ledger
  registers := fun entry member => regular.known (records.registers entry member)
  documents := by
    rw [records.documents]
    exact fun entry member => regular.sound member

/-- A script leaves a sound session. -/
theorem Session.sound_after (levels : Option Nat) (script : List Command) :
    ∃ ledger, ((Session.start levels).after script).Sound False ledger := by
  obtain ⟨history, leads, records⟩ := Session.exists_history ⟨False, fun _ => False⟩ levels
    (fun command (_ : command ∈ script) => ⟨False.elim, fun _ => False.elim⟩)
  exact ⟨history.ledger, records.sound (leads.regular (regular_beginning _))⟩

/-- A script of builders leaves a sound session of well-typed values. -/
theorem Session.typed_after (levels : Option Nat) {script : List Command}
    (builders : ∀ command ∈ script, command.step.isBuilder = true) :
    ∃ ledger, ((Session.start levels).after script).Sound True ledger := by
  obtain ⟨history, leads, records⟩ := Session.exists_history ⟨True, fun _ => False⟩ levels
    (fun command member => ⟨fun _ => builders command member, fun _ => False.elim⟩)
  exact ⟨history.ledger, records.sound (leads.regular (regular_beginning _))⟩

end Shading.Script
