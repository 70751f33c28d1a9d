import Shading.Proofs.Sessions

/-!
# What runs leave alone

Most of what a step does reads the session. What it changes is a part of it: the next number, a register, a document or
a generator. A run leaves a part of its session alone if it is the same in the end, whether or not the run fails
(`Run.Leaves`), and it is undone by a fault if all of the session is the same after one (`Run.Undone`). Calls on documents
are undone by faults, and all other steps leave the documents alone, so that a step that fails changes no document
(`Session.documents_of_fault`). Steps that call no generator leave the generators alone.
-/

namespace Shading.Script

namespace Run

variable {α β γ : Type} {part : Session → γ}

/-- The session that a run leaves, whether or not it fails. -/
def final (run : Run α) (session : Session) : Session :=
  (run.run.run session).2

/-- A run leaves a part of its session as it is. -/
def Leaves (part : Session → γ) (run : Run α) : Prop :=
  ∀ session, part (final run session) = part session

/-- A part of a session that neither the next number nor the registers nor the log belong to. -/
class Aside (part : Session → γ) : Prop where
  next : ∀ (session : Session) (number : Nat), part { session with next := number } = part session
  registers : ∀ (session : Session) (table : Table Value), part { session with registers := table } = part session
  log : ∀ (session : Session) (entries : Log), part { session with log := entries } = part session

instance : Aside Session.documents := ⟨fun _ _ => rfl, fun _ _ => rfl, fun _ _ => rfl⟩

instance : Aside Session.generators := ⟨fun _ _ => rfl, fun _ _ => rfl, fun _ _ => rfl⟩

theorem run_bind (run : Run α) (continued : α → Run β) (session : Session) :
    (run >>= continued).run.run session = match (run.run.run session).1 with
      | .ok value => (continued value).run.run (final run session)
      | .error fault => (.error fault, final run session) := by
  simp only [final, ExceptT.run_bind, StateT.run_bind]
  rcases run.run.run session with ⟨result, next⟩
  cases result <;> rfl

theorem final_bind (run : Run α) (continued : α → Run β) (session : Session) :
    final (run >>= continued) session = match (run.run.run session).1 with
      | .ok value => final (continued value) (final run session)
      | .error _ => final run session := by
  rw [final, run_bind]
  cases (run.run.run session).1 <;> rfl

@[simp]
theorem Leaves.bind {run : Run α} {continued : α → Run β} (first : Leaves part run)
    (next : ∀ value, Leaves part (continued value)) : Leaves part (run >>= continued) := by
  intro session
  rw [final_bind]
  split
  · rw [next, first]
  · exact first session

@[simp]
theorem leaves_pure (value : α) : Leaves part (pure value) := fun _ => rfl

@[simp]
theorem Leaves.map {run : Run α} (change : α → β) (leaves : Leaves part run) : Leaves part (change <$> run) := by
  rw [map_eq_pure_bind]
  exact leaves.bind (fun value => leaves_pure (change value))

@[simp]
theorem leaves_throw (fault : Fault) : Leaves part (throw fault : Run α) := fun _ => rfl

@[simp]
theorem leaves_malformed (cause : Malformed) : Leaves part (malformed cause : Run α) := fun _ => rfl

@[simp]
theorem leaves_get : Leaves part (get : Run Session) := fun _ => rfl

@[simp]
theorem leaves_found (entry : Option α) (otherwise : Malformed) : Leaves part (found entry otherwise) := by
  cases entry <;> exact fun _ => rfl

@[simp]
theorem leaves_lift (result : Except Error α) : Leaves part (lift result) := by
  cases result <;> exact fun _ => rfl

@[simp]
theorem leaves_check (result : Except Violation α) : Leaves part (check result) := leaves_lift _

@[simp]
theorem leaves_build [aside : Aside part] (construction : Build α) : Leaves part (build construction) := by
  intro session
  rw [final, run_build]
  cases construction.run session.next with
  | error => rfl
  | ok result => exact aside.next session result.2

@[simp]
theorem leaves_putDocument (name : String) (document : Document) :
    Leaves Session.generators (putDocument name document) := fun _ => rfl

@[simp]
theorem leaves_putGenerator (name : String) (generator : Generator) :
    Leaves Session.documents (putGenerator name generator) := fun _ => rfl

@[simp]
theorem leaves_putRegister [aside : Aside part] (name : String) (value : Value) :
    Leaves part (putRegister name value) := fun session => aside.registers session _

@[simp]
theorem leaves_write [aside : Aside part] (entries : Log) : Leaves part (write entries) :=
  fun session => aside.log session _

@[simp]
theorem leaves_listMapM {run : α → Run β} (each : ∀ entry, Leaves part (run entry)) (entries : List α) :
    Leaves part (entries.mapM run) := by
  induction entries with
  | nil => exact leaves_pure []
  | cons entry rest ih => simp [each, ih]

@[simp]
theorem leaves_optionMapM {run : α → Run β} (each : ∀ entry, Leaves part (run entry)) (entry : Option α) :
    Leaves part (entry.mapM run) := by
  cases entry with
  | none => exact leaves_pure none
  | some entry => exact (each entry).map some

@[simp]
theorem leaves_register (name : String) : Leaves part (register name) := by simp [register]

@[simp]
theorem leaves_registers (names : List String) : Leaves part (registers names) := by simp [registers]

@[simp]
theorem leaves_document (name : String) : Leaves part (document name) := by simp [document]

@[simp]
theorem leaves_vertexDocument (name : String) : Leaves part (vertexDocument name) := by
  refine (leaves_document name).bind (fun document => ?_)
  cases document <;> simp

@[simp]
theorem leaves_fragmentDocument (name : String) : Leaves part (fragmentDocument name) := by
  refine (leaves_document name).bind (fun document => ?_)
  cases document <;> simp

@[simp]
theorem leaves_generator (name : String) : Leaves part (generator name) := by simp [generator]

@[simp]
theorem leaves_member (α : Type) [Enumeration α] (name : String) : Leaves part (member α name) := by simp [member]

@[simp]
theorem leaves_memberOr {α : Type} [Enumeration α] (usual : α) (name : Option String) :
    Leaves part (memberOr usual name) := by
  cases name <;> simp [memberOr]

@[simp]
theorem leaves_kind (name : String) : Leaves part (kind name) := by simp [kind]

@[simp]
theorem leaves_holder (value : Value) : Leaves part (holder value) := by simp [holder]

@[simp]
theorem leaves_call (name : String) (generator : Generator) (outcome : Outcome α) :
    Leaves Session.documents (call name generator outcome) := by simp [call]

end Run

open Run

section

variable {γ : Type} {part : Session → γ}

@[simp]
theorem Argument.leaves_resolve (argument : Argument) : Leaves part argument.resolve := by
  cases argument <;> simp [Argument.resolve]

@[simp]
theorem SourceSpec.leaves_resolve [Aside part] (spec : SourceSpec) : Leaves part spec.resolve := by
  cases spec with
  | construct type parts => exact (leaves_member _ type).bind (fun _ => by simp)
  | _ => simp [SourceSpec.resolve]

@[simp]
theorem OperatorSpec.leaves_resolve (spec : OperatorSpec) : Leaves part spec.resolve := by
  cases spec <;> simp [OperatorSpec.resolve]

@[simp]
theorem AttributeSpec.leaves_resolve (spec : AttributeSpec) : Leaves part spec.resolve := by
  simp [AttributeSpec.resolve]

@[simp]
theorem ProgramSpec.leaves_resolve (spec : ProgramSpec) : Leaves part spec.resolve := by
  refine (leaves_vertexDocument spec.vertex).bind (fun _ => ?_)
  refine (leaves_fragmentDocument spec.fragment).bind (fun _ => ?_)
  simp

@[simp]
theorem GeneratorSpec.leaves_resolve (spec : GeneratorSpec) : Leaves part spec.resolve := by
  cases spec <;> simp [GeneratorSpec.resolve]

@[simp]
theorem leaves_arithmetic [Aside part] (operator : Arithmetic) (lhs rhs : Operand) :
    Leaves part (arithmetic operator lhs rhs) := by
  cases lhs <;> cases rhs <;> simp [arithmetic]

@[simp]
theorem leaves_repeatArithmetic [Aside part] (operator : Arithmetic) (operand : Operand) (count : Nat)
    (value : Value) : Leaves part (repeatArithmetic operator operand count value) := by
  induction count generalizing value with
  | zero => exact leaves_pure value
  | succ count ih => exact (leaves_build _).bind ih

@[simp]
theorem leaves_withResources {α : Type} (name : String) (change : Resources → Build (α × Resources)) :
    Leaves Session.generators (withResources name change) :=
  (leaves_document name).bind (fun document => (leaves_build _).bind (fun changed => by simp))

@[simp]
theorem leaves_withVertex (name register : String) (change : VertexShader → Value → Except Error VertexShader) :
    Leaves Session.generators (withVertex name register change) :=
  (leaves_vertexDocument name).bind (fun shader => (leaves_register register).bind (fun value => by simp))

@[simp]
theorem leaves_scheduleOf [Aside part] (generator : Generator) (document : Document) :
    Leaves part (scheduleOf generator document) := by
  simp [scheduleOf]

@[simp]
theorem leaves_heldStatement (statement : Statement) : Leaves part (heldStatement statement) := by
  cases statement <;> simp [heldStatement]

end

namespace Run

variable {α β : Type}

/-- A run that fails leaves its session as it was. -/
def Undone (run : Run α) : Prop :=
  ∀ session fault, (run.run.run session).1 = .error fault → final run session = session

def Sure (run : Run α) : Prop :=
  ∀ session, ∃ value, (run.run.run session).1 = .ok value

@[simp]
theorem sure_pure (value : α) : Sure (pure value) := fun _ => ⟨value, rfl⟩

@[simp]
theorem Sure.bind {run : Run α} {continued : α → Run β} (first : Sure run) (next : ∀ value, Sure (continued value)) :
    Sure (run >>= continued) := by
  intro session
  obtain ⟨value, ran⟩ := first session
  obtain ⟨result, ranOn⟩ := next value (final run session)
  exact ⟨result, by rw [run_bind, ran]; exact ranOn⟩

@[simp]
theorem Sure.map {run : Run α} (change : α → β) (sure : Sure run) : Sure (change <$> run) := by
  rw [map_eq_pure_bind]
  exact sure.bind (fun value => sure_pure (change value))

@[simp]
theorem sure_putDocument (name : String) (document : Document) : Sure (putDocument name document) :=
  fun _ => ⟨(), rfl⟩

@[simp]
theorem sure_putRegister (name : String) (value : Value) : Sure (putRegister name value) :=
  fun _ => ⟨(), rfl⟩

private theorem Leaves.undone {run : Run α} (reads : Leaves id run) : Undone run :=
  fun session _ _ => reads session

private theorem Sure.undone {run : Run α} (sure : Sure run) : Undone run := by
  intro session fault failed
  obtain ⟨value, ran⟩ := sure session
  cases ran.symm.trans failed

private theorem undone_build (construction : Build α) : Undone (build construction) := by
  intro session fault failed
  rw [final]
  rw [run_build] at failed ⊢
  cases ran : construction.run session.next with
  | error error => rfl
  | ok result =>
    rw [ran] at failed
    cases failed

/-- What only reads can be done before. -/
theorem Undone.after {run : Run α} {continued : α → Run β} (reads : Leaves id run)
    (next : ∀ value, Undone (continued value)) : Undone (run >>= continued) := by
  intro session fault failed
  rw [final_bind]
  rw [run_bind] at failed
  have same : final run session = session := reads session
  cases ran : (run.run.run session).1 with
  | error cause => exact same
  | ok value =>
    rw [ran, same] at failed
    dsimp only at failed ⊢
    rw [same]
    exact next value session fault failed

private theorem Undone.finish {run : Run α} {continued : α → Run β} (undone : Undone run)
    (sure : ∀ value, Sure (continued value)) : Undone (run >>= continued) := by
  intro session fault failed
  rw [final_bind]
  rw [run_bind] at failed
  cases ran : (run.run.run session).1 with
  | error cause => exact undone session cause ran
  | ok value =>
    rw [ran] at failed
    obtain ⟨result, ranOn⟩ := sure value (final run session)
    cases ranOn.symm.trans failed

private theorem undone_value (construction : Build Value) : Undone (do return Reply.value (← build construction)) :=
  (undone_build construction).finish (fun _ => sure_pure _)

end Run

private theorem undone_withResources {α : Type} (name : String) (change : Resources → Build (α × Resources)) :
    Undone (withResources name change) := by
  refine Undone.after (leaves_document name) (fun document => ?_)
  exact (undone_build _).finish (fun changed => by simp)

private theorem undone_withVertex (name register : String) (change : VertexShader → Value → Except Error VertexShader) :
    Undone (withVertex name register change) := by
  refine Undone.after (leaves_vertexDocument name) (fun shader => ?_)
  refine Undone.after (leaves_register register) (fun value => ?_)
  refine Undone.after (leaves_lift _) (fun changed => ?_)
  exact Sure.undone (by simp)

/-- The document that a step creates, asks or changes. -/
def Step.document? : Step → Option String
  | .newDocument document _ | .uniform document _ _ _ | .uniforms document | .uniformsByIndex document
  | .channel document _ _ | .channels document | .instanceIndex document | .vertexAttribute document _ _
  | .vertexInput document _ _ | .matrix document _ | .setPosition document _ | .setPointSize document _
  | .setColor document _ | .readPosition document | .readPointSize document | .readColor document
  | .setOutput document _ _ | .readOutput document _ | .hasOutput document _ | .outputs document
  | .declareInput document _ _ _ | .getInput document _ | .hasInput document _ | .inputs document
  | .writes document => some document
  | _ => none

private theorem Step.undone_perform {step : Step} {document : String} (calls : step.document? = some document) :
    Undone step.perform := by
  cases step with
  | newDocument name stage => exact Sure.undone (by simp [Step.perform])
  | uniform name asked kind scalar =>
    refine Undone.after (leaves_document name) (fun _ => ?_)
    have declares : ∀ kind, Undone (do
        let scalar ← memberOr ScalarType.float scalar
        return Reply.value (← withResources name (fun resources => resources.uniform asked kind scalar))) := by
      intro kind
      refine Undone.after (leaves_memberOr _ _) (fun scalar => ?_)
      exact (undone_withResources _ _).finish (fun _ => sure_pure _)
    cases kind with
    | none => exact declares .scalar
    | some kind => exact Undone.after (leaves_kind kind) declares
  | channel name index field =>
    refine (undone_withResources _ _).finish (fun channel => ?_)
    cases field <;> exact sure_pure _
  | instanceIndex name =>
    exact Undone.after (leaves_document name) (fun _ => undone_value _)
  | vertexAttribute name slot stream =>
    refine Undone.after (leaves_vertexDocument name) (fun _ => ?_)
    exact Undone.after (leaves_member Slot slot) (fun _ => undone_value _)
  | vertexInput name | matrix name | readPosition name | readPointSize name =>
    exact Undone.after (leaves_vertexDocument name) (fun _ => undone_value _)
  | readColor name => exact Undone.after (leaves_fragmentDocument name) (fun _ => undone_value _)
  | readOutput name asked => exact Undone.after (leaves_vertexDocument name) (fun _ => undone_value _)
  | setPosition | setPointSize | setOutput => exact undone_withVertex _ _ _
  | setColor name value =>
    refine Undone.after (leaves_fragmentDocument name) (fun shader => ?_)
    refine Undone.after (leaves_register value) (fun value => ?_)
    refine Undone.after (leaves_lift _) (fun changed => ?_)
    exact Sure.undone (by simp)
  | declareInput name asked kind scalar =>
    refine Undone.after (leaves_fragmentDocument name) (fun shader => ?_)
    refine Undone.after (leaves_kind kind) (fun kind => ?_)
    refine Undone.after (leaves_memberOr _ scalar) (fun scalar => ?_)
    exact (undone_build _).finish (fun changed => by simp)
  | uniforms | uniformsByIndex | channels | hasOutput | outputs | getInput | hasInput | inputs | writes =>
    refine Leaves.undone ?_
    simp only [Step.perform]
    repeat refine Leaves.bind (by simp) (fun _ => ?_)
    simp
  | _ => cases calls

/-- The generator that a step creates, or may leave with other temporaries. -/
def Step.generator? : Step → Option String
  | .newGenerator generator _ | .nameTemporary generator _ | .declaration generator _ | .renew generator _
  | .generate generator _ | .vertexSource generator _ | .fragmentSource generator _ | .body generator _ => some generator
  | _ => none

private theorem Step.leaves_perform {γ : Type} {part : Session → γ} [Aside part] {step : Step}
    (noDocument : step.document? = none) (noGenerator : step.generator? = none) : Leaves part step.perform := by
  cases step with
  | lerp lhs rhs factor =>
    refine (leaves_register lhs).bind (fun lhs => (leaves_register rhs).bind (fun rhs => ?_))
    refine factor.leaves_resolve.bind (fun factor => ?_)
    split <;> simp
  | member value letters =>
    refine (leaves_register value).bind (fun value => ?_)
    split
    · split <;> simp
    · simp
  | inspect value =>
    refine (leaves_register value).bind (fun value => ?_)
    split
    · simp
    · exact (leaves_check _).bind (fun result => by simp)
  | display value =>
    refine (leaves_register value).bind (fun value => leaves_get.bind (fun session => ?_))
    split <;> simp
  | operationText name value | constructText name value =>
    refine (leaves_generator name).bind (fun generator => (leaves_register value).bind (fun value => ?_))
    refine (leaves_lift _).bind (fun expression => ?_)
    cases expression <;> simp
  | newDocument | uniform | uniforms | uniformsByIndex | channel | channels | instanceIndex | vertexAttribute
  | vertexInput | matrix | setPosition | setPointSize | setColor | readPosition | readPointSize | readColor | setOutput
  | readOutput | hasOutput | outputs | declareInput | getInput | hasInput | inputs | writes => cases noDocument
  | newGenerator | nameTemporary | declaration | renew | generate | vertexSource | fragmentSource | body =>
    cases noGenerator
  -- What is left reads one thing after another, and decides nothing by it.
  | _ =>
    simp only [Step.perform]
    repeat refine Leaves.bind (by simp) (fun _ => ?_)
    simp

private theorem Step.leaves_documents {step : Step} (other : step.document? = none) :
    Leaves Session.documents step.perform := by
  cases called : step.generator? with
  | none => exact Step.leaves_perform other called
  | some name =>
    cases step with
    | newGenerator | nameTemporary | declaration | renew | generate | vertexSource | fragmentSource | body =>
      simp only [Step.perform]
      repeat refine Leaves.bind (by simp) (fun _ => ?_)
      simp
    | _ => cases called

theorem Step.leaves_generators {step : Step} (other : step.generator? = none) :
    Leaves Session.generators step.perform := by
  cases asked : step.document? with
  | none => exact Step.leaves_perform asked other
  | some name =>
    cases step with
    | uniform document name kind scalar =>
      refine (leaves_document document).bind (fun _ => ?_)
      cases kind with
      | none => simp
      | some kind => exact (leaves_kind kind).bind (fun kind => by simp)
    | channel document index field =>
      refine (leaves_withResources _ _).bind (fun channel => ?_)
      cases field <;> simp
    | newDocument | uniforms | uniformsByIndex | channels | instanceIndex | vertexAttribute | vertexInput | matrix
    | setPosition | setPointSize | setColor | readPosition | readPointSize | readColor | setOutput | readOutput | hasOutput
    | outputs | declareInput | getInput | hasInput | inputs | writes =>
      simp only [Step.perform]
      repeat refine Leaves.bind (by simp) (fun _ => ?_)
      simp
    | _ => cases asked

/-- A command replies what its step replies. -/
theorem Session.result_perform (session : Session) (command : Command) :
    (session.perform command).result = (command.step.perform.run.run { session with log := [] }).1 := by
  change (command.perform.run.run { session with log := [] }).1 = _
  rw [Command.perform, run_bind]
  cases (command.step.perform.run.run { session with log := [] }).1 with
  | error => rfl
  | ok reply =>
    dsimp only
    split <;> rfl

/-- Keeping a value in a register touches no other part of the session. -/
theorem Session.part_perform {γ : Type} (part : Session → γ) [Aside part] (session : Session) (command : Command) :
    part (session.perform command).session = part (final command.step.perform { session with log := [] }) := by
  change part (final command.perform { session with log := [] }) = _
  rw [Command.perform, final_bind]
  split
  · refine (?_ : Leaves part _) _
    dsimp only
    split <;> simp
  · rfl

/-- A call on a document that fails leaves all but the log. -/
theorem Session.perform_of_fault {session : Session} {command : Command} {document : String} {fault : Fault}
    (calls : command.step.document? = some document) (failed : (session.perform command).result = .error fault) :
    (session.perform command).session = { session with log := [] } := by
  have undone : Undone command.perform := by
    refine (Step.undone_perform calls).finish (fun reply => ?_)
    split <;> simp
  exact undone _ fault failed

/-- A command that fails changes no document. -/
theorem Session.documents_of_fault {session : Session} {command : Command} {fault : Fault}
    (failed : (session.perform command).result = .error fault) :
    (session.perform command).session.documents = session.documents := by
  cases called : command.step.document? with
  | some document => rw [Session.perform_of_fault called failed]
  | none =>
    rw [Session.part_perform Session.documents]
    exact Step.leaves_documents called { session with log := [] }

/-- Every command starts with an empty log. -/
theorem Session.performAll_unlogged (session : Session) (script : List Command) :
    Session.performAll { session with log := [] } script = session.performAll script := by
  cases script <;> rfl

end Shading.Script
