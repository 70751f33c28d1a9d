import Shading.Proofs.Effects
import Shading.Proofs.Typing

/-!
# Documents over time

A document that is kept only grows: uniforms are added behind those that it declares, and outputs and inputs keep their
types and their places (`Document.Grows`). So a value that was read back from an output has the type of whatever the
output holds later (`type_of_readsBack`), and the interface of a stage is stable over whole scripts (`interface_stable`).
-/

namespace Shading

section

variable {α β : Type}

theorem lookup_of_prefix {pairs more : List (String × α)} (grows : pairs <+: more) {name : String} {entry : α}
    (found : pairs.lookup name = some entry) : more.lookup name = some entry := by
  obtain ⟨rest, rfl⟩ := grows
  rw [List.lookup_append, found]
  rfl

private theorem lookup_map_snd (change : α → β) (pairs : List (String × α)) (name : String) :
    (pairs.map (fun pair => (pair.1, change pair.2))).lookup name = (pairs.lookup name).map change := by
  induction pairs with
  | nil => rfl
  | cons first rest ih =>
    rw [List.map_cons, Table.lookup_cons_eq, Table.lookup_cons_eq, ih]
    split <;> rfl

private theorem Table.map_put {change : α → β} {name : String} {value held : α} {entries : List (String × α)}
    (present : entries.lookup name = some held) (same : change held = change value) :
    (Table.put name value entries).map (fun entry => (entry.1, change entry.2)) =
      entries.map (fun entry => (entry.1, change entry.2)) := by
  induction entries with
  | nil => cases present
  | cons first rest ih =>
    obtain ⟨other, old⟩ := first
    rw [Table.lookup_cons_eq] at present
    rw [Table.put]
    by_cases here : other = name
    · rw [if_pos here.symm] at present
      cases present
      rw [if_pos here, List.map_cons, List.map_cons, same]
    · rw [if_neg (Ne.symm here)] at present
      rw [if_neg here, List.map_cons, List.map_cons, ih present]

private theorem Table.prefix_insert {change : α → β} {table : Table α} {name : String} {value : α}
    (same : ∀ held, table.get? name = some held → change held = change value) :
    table.entries.map (fun entry => (entry.1, change entry.2)) <+:
      (table.insert name value).entries.map (fun entry => (entry.1, change entry.2)) := by
  cases present : table.get? name with
  | none =>
    rw [Table.insert_new present, List.map_append]
    exact List.prefix_append _ _
  | some held =>
    have kept := Table.map_put present (same held present)
    rw [Table.insert, kept]

end

namespace Document

/-- The names and types of the named outputs of a document. -/
def outputTypes : Document → List (String × ShaderType)
  | .vertex shader => shader.outputTypes
  | .fragment _ => []

/-- The names and types of the inputs of a document. -/
def inputTypes : Document → List (String × ShaderType)
  | .vertex _ => []
  | .fragment shader => shader.inputTypes

/-- The type of an output of a document: a built-in one has a type of its own, and a named one that of its value. -/
def outputType? (document : Document) : Output → Option ShaderType
  | .position | .color => some .vec4
  | .pointSize => some .float
  | .named asked => document.outputTypes.lookup asked

/-- What a document declares keeps its place and its type. -/
structure Grows (early late : Document) : Prop where
  uniforms : early.resources.uniforms.entries <+: late.resources.uniforms.entries
  outputs : early.outputTypes <+: late.outputTypes
  inputs : early.inputTypes <+: late.inputTypes

theorem Grows.refl (document : Document) : document.Grows document :=
  ⟨List.prefix_rfl, List.prefix_rfl, List.prefix_rfl⟩

theorem Grows.trans {first second third : Document} (early : first.Grows second) (late : second.Grows third) :
    first.Grows third :=
  ⟨early.uniforms.trans late.uniforms, early.outputs.trans late.outputs, early.inputs.trans late.inputs⟩

private theorem Grows.outputType? {early late : Document} (grows : early.Grows late) {output : Output}
    {type : ShaderType} (known : early.outputType? output = some type) : late.outputType? output = some type := by
  cases output with
  | named asked => exact lookup_of_prefix grows.outputs known
  | _ => exact known

private theorem grows_withResources {document : Document} {resources : Resources}
    (uniforms : document.resources.uniforms.entries <+: resources.uniforms.entries) :
    document.Grows (document.withResources resources) := by
  cases document with
  | vertex | fragment => exact ⟨uniforms, List.prefix_rfl, List.prefix_rfl⟩

private theorem Formed.outputType? {document : Document} (formed : document.Formed) {output : Output} {value : Value}
    (written : (output, value) ∈ document.writes) : document.outputType? output = some value.type := by
  cases document with
  | vertex shader =>
    rcases VertexShader.mem_writes.1 written with ⟨rfl, held⟩ | ⟨rfl, held⟩ | ⟨asked, rfl, entered⟩
    · rw [formed.2.position value held]
      rfl
    · rw [formed.2.pointSize value held]
      rfl
    · have found : shader.outputs.entries.lookup asked = some value := lookup_of_mem formed.2.named entered
      have types := lookup_map_snd Value.type shader.outputs.entries asked
      rw [found] at types
      exact types
  | fragment shader =>
    obtain ⟨rfl, held⟩ := FragmentShader.mem_writes.1 written
    rw [formed.2.color value held]
    rfl

/-- A named output that has a type is written. -/
theorem exists_written {document : Document} {asked : String} {type : ShaderType}
    (known : document.outputType? (.named asked) = some type) : ∃ value, (.named asked, value) ∈ document.writes := by
  cases document with
  | vertex shader =>
    have types := (lookup_map_snd Value.type shader.outputs.entries asked).symm.trans known
    obtain ⟨value, found, _⟩ := Option.map_eq_some_iff.1 types
    exact ⟨value, VertexShader.mem_writes.2 (.inr (.inr ⟨asked, rfl, mem_of_lookup found⟩))⟩
  | fragment => cases known

end Document

section

variable {manner : Manner} {history further : History} {name : String} {early : Document}

private theorem History.grows_put {changed : String} {document replaced : Document}
    {within : document.Within history.values} (held : history.documents.get? changed = some replaced)
    (grows : replaced.Grows document) (known : history.documents.get? name = some early) :
    ∃ late, (history.put changed document within).documents.get? name = some late ∧ early.Grows late := by
  rw [History.put, Table.get?_insert]
  by_cases same : name = changed
  · rw [same, held] at known
    cases known
    exact ⟨document, if_pos same, grows⟩
  · exact ⟨early, (if_neg same).trans known, .refl early⟩

/-- A move that does not put a new document under the name lets the document grow. -/
theorem History.Moves.grows (moves : history.Moves manner further) (kept : manner.kept name)
    (known : history.documents.get? name = some early) :
    ∃ late, further.documents.get? name = some late ∧ early.Grows late := by
  cases moves with
  | draw | add => exact ⟨early, known, .refl early⟩
  | @create changed _ free =>
    have other : name ≠ changed := by
      rintro rfl
      exact free kept
    exact ⟨early, (Table.get?_insert _ _ _ _).trans ((if_neg other).trans known), .refl early⟩
  | @uniform _ _ _ value held absent admits =>
    have same : (history.add value admits).documents.get? name = some early := known
    refine History.grows_put held (Document.grows_withResources ?_) same
    rw [Table.insert_new absent]
    exact List.prefix_append _ _
  | channel held => exact History.grows_put held (Document.grows_withResources List.prefix_rfl) known
  | @input _ asked shader value held absent _ admits =>
    have same : (history.add value admits).documents.get? name = some early := known
    refine History.grows_put held ⟨List.prefix_rfl, List.prefix_rfl, Table.prefix_insert (fun existing found => ?_)⟩ same
    cases absent.symm.trans found
  | position held | pointSize held =>
    exact History.grows_put held ⟨List.prefix_rfl, List.prefix_rfl, List.prefix_rfl⟩ known
  | output held _ _ agrees =>
    exact History.grows_put held ⟨List.prefix_rfl, Table.prefix_insert agrees, List.prefix_rfl⟩ known
  | color held => exact History.grows_put held ⟨List.prefix_rfl, List.prefix_rfl, List.prefix_rfl⟩ known

theorem History.Leads.grows (leads : history.Leads manner further) (kept : manner.kept name)
    (known : history.documents.get? name = some early) :
    ∃ late, further.documents.get? name = some late ∧ early.Grows late := by
  induction leads with
  | refl => exact ⟨early, known, .refl early⟩
  | tail _ moves ih =>
    obtain ⟨middle, heldMiddle, first⟩ := ih
    obtain ⟨late, heldLate, second⟩ := moves.grows kept heldMiddle
    exact ⟨late, heldLate, first.trans second⟩

private theorem VertexShader.yields_readOutput_type (shader : VertexShader) (asked : String) :
    Build.Yields manner history (shader.readOutput asked)
      (fun _ value => (Document.vertex shader).outputType? (.named asked) = some value.type) := by
  unfold VertexShader.readOutput
  split
  · rename_i existing found
    refine (Value.yields_ofLeaf_type _ _).weaken (fun _ value same => ?_)
    have types := lookup_map_snd Value.type shader.outputs.entries asked
    rw [show shader.outputs.entries.lookup asked = some existing from found] at types
    rw [same]
    exact types
  · exact Build.yields_throw _ _

private theorem History.Regular.keeping {kept others : String → Prop} {typed : Prop}
    (regular : history.Regular ⟨typed, kept⟩) :
    history.Regular ⟨typed, others⟩ :=
  ⟨regular.sameKey, regular.sameNode, regular.typed, regular.formed⟩

end

namespace Script

open Run

/-- No command gives the name to another document. -/
def Retains (name : String) (script : List Command) : Prop :=
  ∀ command ∈ script, command.step.creates? ≠ some name

instance (name : String) (script : List Command) : Decidable (Retains name script) :=
  inferInstanceAs (Decidable (∀ command ∈ script, command.step.creates? ≠ some name))

/-- What moves may not do while a document is kept. -/
def retaining (name : String) : Manner := ⟨False, fun other => other = name⟩

private theorem Session.after_append (session : Session) (first second : List Command) :
    session.after (first ++ second) = (session.after first).after second := by
  induction first generalizing session with
  | nil => rfl
  | cons command rest ih => exact ih _

private theorem Session.exists_regular (script : List Command) (name : String) :
    ∃ history, history.Regular (retaining name) ∧ (Session.start.after script).Records history := by
  obtain ⟨history, leads, records⟩ := Session.exists_history ⟨False, fun _ => False⟩ none
    (fun command (_ : command ∈ script) => ⟨False.elim, fun _ => False.elim⟩)
  exact ⟨history, (leads.regular (regular_beginning _)).keeping, records⟩

private theorem follows_of_retains {name : String} {script : List Command} (retains : Retains name script) :
    ∀ command ∈ script, command.step.Follows (retaining name) := by
  intro command member
  refine ⟨False.elim, fun other (same : other = name) => ?_⟩
  rw [same]
  exact retains command member

theorem Session.formed_after {script : List Command} {name : String} {document : Document}
    (held : (Session.start.after script).documents.get? name = some document) : document.Formed := by
  obtain ⟨history, regular, records⟩ := Session.exists_regular script name
  rw [records.documents] at held
  exact regular.formed _ (Table.mem_of_get? held)

/-- A document grows while a script retains it. -/
theorem Session.Records.grows {session : Session} {history : History} {name : String} {script : List Command}
    {early : Document} (records : session.Records history) (regular : history.Regular (retaining name))
    (retains : Retains name script) (held : session.documents.get? name = some early) :
    ∃ late, (session.after script).documents.get? name = some late ∧ early.Grows late := by
  obtain ⟨further, leads, after⟩ := records.after regular (follows_of_retains retains)
  rw [records.documents] at held
  obtain ⟨late, heldLate, grows⟩ := leads.grows rfl held
  exact ⟨late, by rw [after.documents, heldLate], grows⟩

theorem Session.grows_after {before after : List Command} {name : String} {early late : Document}
    (retains : Retains name after) (known : (Session.start.after before).documents.get? name = some early)
    (held : (Session.start.after (before ++ after)).documents.get? name = some late) : early.Grows late := by
  obtain ⟨history, regular, records⟩ := Session.exists_regular before name
  obtain ⟨last, heldLast, grows⟩ := records.grows regular retains known
  rw [Session.after_append] at held
  cases heldLast.symm.trans held
  exact grows

/-- The output that a step reads back, and its document. -/
def Step.reads? : Step → Option (String × Output)
  | .readPosition document => some (document, .position)
  | .readPointSize document => some (document, .pointSize)
  | .readColor document => some (document, .color)
  | .readOutput document asked => some (document, .named asked)
  | _ => none

private theorem keeps_readOutput {manner : Manner} {history : History} {document asked : String} :
    Keeps manner history (Step.readOutput document asked).perform
      (fun further reply => reply.Built further ∧ ∀ value, reply = .value value → ∃ held,
        further.documents.get? document = some held ∧ held.outputType? (.named asked) = some value.type) := by
  refine (reads_vertexDocument document).then (fun shader held => .of_regular (fun regular => ?_))
  have formed := (regular.formed _ (Table.mem_of_get? held)).2
  have yields : Build.Yields manner history (shader.readOutput asked) (fun further value =>
      further.Has value ∧ (Document.vertex shader).outputType? (.named asked) = some value.type) :=
    (VertexShader.yields_readOutput formed.accepted asked).and (shader.yields_readOutput_type asked)
  refine (keeps_build yields.withDocuments).bind (fun further value _ ⟨documents, built, typed⟩ => ?_)
  refine .pure ⟨built, ?_⟩
  rintro _ ⟨⟩
  exact ⟨.vertex shader, by rw [documents, held], typed⟩

/-- A value that was read back has the type that the output has in the end. -/
theorem type_of_readsBack {before after : List Command} {command : Command} {name : String} {output : Output}
    {value : Value} {late : Document} (retains : Retains name after) (reads : command.step.reads? = some (name, output))
    (replied : ((Session.start.after before).perform command).result = .ok (.value value))
    (held : (Session.start.after (before ++ command :: after)).documents.get? name = some late) :
    late.outputType? output = some value.type := by
  obtain ⟨history, regular, records⟩ := Session.exists_regular before name
  -- The type of a built-in output is known from the step alone.
  have builtIn : ∀ {type : ShaderType}, command.step.type? = some type → command.step.creates? = none →
      command.step.isBuilder = true → value.type = type := by
    intro type decided free builder
    have follows : command.step.Follows (retaining name) := ⟨fun _ => builder, fun _ _ => by rw [free]; exact nofun⟩
    obtain ⟨_, _, _, holds⟩ := Command.keeps_of_step ((command.step.keeps_perform follows).and (Step.keeps_type decided)) _
      regular records.unlogged
    exact (holds _ replied).2 value rfl
  cases asked : command.step with
  | readPosition | readPointSize | readColor =>
    rw [asked] at reads builtIn
    cases reads
    rw [builtIn rfl rfl rfl]
    rfl
  | readOutput document named =>
    rw [asked] at reads
    cases reads
    have keeps : Keeps (retaining name) history command.perform _ :=
      Command.keeps_of_step (by rw [asked]; exact keeps_readOutput)
    obtain ⟨second, leads, secondRecords, typed⟩ := keeps _ regular records.unlogged
    obtain ⟨early, heldEarly, type⟩ := (typed _ replied).2 value rfl
    rw [← secondRecords.documents] at heldEarly
    obtain ⟨last, heldLast, grows⟩ := secondRecords.grows (leads.regular regular) retains heldEarly
    rw [Session.after_append] at held
    cases heldLast.symm.trans held
    exact grows.outputType? type
  | _ =>
    rw [asked] at reads
    cases reads

/-- A command of the script reads the value back from an output of a document, and no later one gives the name of the
document to another document. -/
def ReadsBack (script : List Command) (document asked : String) (value : Value) : Prop :=
  ∃ before command after, script = before ++ command :: after ∧ command.step = .readOutput document asked ∧
    ((Session.start.after before).perform command).result = .ok (.value value) ∧
    ∀ later ∈ after, later.step.creates? ≠ some document

/-- A value that was read back has the type of what the output holds in the end. -/
theorem ReadsBack.type_eq {script : List Command} {document asked : String} {value : Value} {vertex : VertexShader}
    (readsBack : ReadsBack script document asked value)
    (held : (Session.start.after script).documents.get? document = some (.vertex vertex)) :
    ∃ written, vertex.outputs.get? asked = some written ∧ written.type = value.type := by
  obtain ⟨before, command, after, rfl, reads, replied, kept⟩ := readsBack
  have known := type_of_readsBack kept (by rw [reads]; rfl) replied held
  exact Option.map_eq_some_iff.1 ((lookup_map_snd Value.type vertex.outputs.entries asked).symm.trans known)

/-- At the end of a script, an output or input that a document had at any time since its name was last given has the type
and the place that it had then, and what was read back from an output has the type of what the output holds. The built-in
outputs have types of their own. A command that fails, in whatever session, changes no document. -/
theorem interface_stable (script : List Command) (name : String) (late : Document)
    (held : (Session.start.after script).documents.get? name = some late) :
    (∀ before after early, script = before ++ after → Retains name after →
        (Session.start.after before).documents.get? name = some early →
        early.outputTypes <+: late.outputTypes ∧ early.inputTypes <+: late.inputTypes) ∧
      (∀ before command after output value, script = before ++ command :: after → Retains name after →
        command.step.reads? = some (name, output) →
        ((Session.start.after before).perform command).result = .ok (.value value) →
        (∀ written, (output, written) ∈ late.writes → written.type = value.type) ∧
          ∀ asked, output = .named asked → ∃ written, (output, written) ∈ late.writes) ∧
      (∀ written, (.position, written) ∈ late.writes ∨ (.color, written) ∈ late.writes → written.type = .vec4) ∧
      (∀ written, (.pointSize, written) ∈ late.writes → written.type = .float) ∧
      ∀ (session : Session) (command : Command) (fault : Fault), (session.perform command).result = .error fault →
        (session.perform command).session.documents = session.documents := by
  have formed := Session.formed_after held
  refine ⟨?_, ?_, ?_, ?_, ?_⟩
  · rintro before after early rfl retains known
    have grows := Session.grows_after retains known held
    exact ⟨grows.outputs, grows.inputs⟩
  · rintro before command after output value rfl retains reads replied
    have known := type_of_readsBack retains reads replied held
    constructor
    · intro written member
      exact Option.some.inj ((formed.outputType? member).symm.trans known)
    · rintro asked rfl
      exact Document.exists_written known
  · rintro written (member | member) <;> exact (Option.some.inj (formed.outputType? member)).symm
  · intro written member
    exact (Option.some.inj (formed.outputType? member)).symm
  · intro session command fault failed
    exact Session.documents_of_fault failed

/-- An output is written, read back, written with another type in vain, and written again. -/
def rewritten : List Command :=
  [⟨.vertexInput "v" .color 0, some "color"⟩, ⟨.vertexInput "v" .normal 0, some "normal"⟩,
    ⟨.setOutput "v" "tint" "color", none⟩, ⟨.readOutput "v" "tint", some "back"⟩,
    ⟨.setOutput "v" "tint" "normal", none⟩, ⟨.arithmetic .add (.register "color") (.register "color"), some "sum"⟩,
    ⟨.setOutput "v" "tint" "sum", none⟩]

/-- The type of what was read back is that of what was written last. -/
theorem stable_rewritten : ∃ late value written,
    (Session.start.after rewritten).documents.get? "v" = some late ∧
      ((Session.start.after (rewritten.take 3)).perform ⟨.readOutput "v" "tint", some "back"⟩).result = .ok (.value value) ∧
      ((Session.start.after (rewritten.take 4)).perform ⟨.setOutput "v" "tint" "normal", none⟩).result =
        .error (.error (.violation (.outputRetyped "tint" .vec4 .vec3))) ∧
      (.named "tint", written) ∈ late.writes ∧ written.source.operands ≠ [] ∧ written.type = value.type := by
  let color : Value := .mk 0 .vec4 (.leaf (.vertexAttribute .color 0))
  let written : Value := .mk 4 .vec4 (.arithmetic 3 .add color color)
  let back : Value := .mk 2 .vec4 (.leaf (.output (.named "tint")))
  let late : Document := .vertex ⟨.empty, none, none, ⟨[("tint", written)]⟩⟩
  have held : (Session.start.after rewritten).documents.get? "v" = some late := by rfl
  have replied : ((Session.start.after (rewritten.take 3)).perform ⟨.readOutput "v" "tint", some "back"⟩).result =
      .ok (.value back) := by rfl
  have member : (.named "tint", written) ∈ late.writes := List.mem_cons_self
  have same := (interface_stable rewritten "v" late held).2.1 (rewritten.take 3) _ (rewritten.drop 4) (.named "tint") back
    rfl (by decide) rfl replied
  exact ⟨late, back, written, held, replied, by rfl, member, by simp [written, Value.source, Source.operands],
    same.1 written member⟩

end Script

end Shading
