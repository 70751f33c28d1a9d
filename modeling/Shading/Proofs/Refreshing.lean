import Shading.Proofs.Files
import Shading.Proofs.Generation
import Shading.Proofs.Identity
import Shading.Proofs.Validation

/-!
# What becomes of a refresh

A refresh loads a program file, builds the program, renders its stages and writes them. It answers whether the files
were written, and logs the failures of a program that belong to some classes. The others escape it, and there are some in
every phase (`Workspace.refresh_raises_iff`). In the rendering of a program that is put together by builders only there is
a single one: an output depends on itself, and the value to be named in the violation is too deep to be shown.
-/

namespace Shading

namespace Script

private theorem Session.eq_after {session last : Session} {script : List Command}
    (performed : (session.performUntilFault script).1 = .ok last) : last = session.after script := by
  induction script generalizing session with
  | nil => exact (Except.ok.inj performed).symm
  | cons command rest ih =>
    rw [Session.performUntilFault] at performed
    dsimp only at performed
    split at performed
    · cases performed
    · exact ih performed

private theorem Run.reads_mapM_forall {α β : Type} {manner : Manner} {history : History} {run : α → Run β}
    {Post : β → Prop} (entries : List α) (each : ∀ entry, Reads manner history (run entry) Post) :
    Reads manner history (entries.mapM run) (fun values => ∀ value ∈ values, Post value) := by
  induction entries with
  | nil => exact Reads.pure (by simp)
  | cons entry rest ih =>
    rw [List.mapM_cons]
    refine (each entry).then (fun value holds => Reads.then ih (fun values others => ?_))
    exact Reads.pure (List.forall_mem_cons.2 ⟨holds, others⟩)

end Script

open Script

/-- A document that a builder returns is one of its session. -/
def Returned.IsHeld (documents : Table Document) : Returned → Prop
  | .document returned => ∃ name, documents.get? name = some returned
  | _ => True

theorem ReturnItem.reads_resolve {manner : Manner} {history : History} (item : ReturnItem) :
    Run.Reads manner history item.resolve (Returned.IsHeld history.documents) := by
  cases item with
  | document name => exact (Run.reads_document name).then (fun document held => Run.Reads.pure ⟨name, held⟩)
  | attributes specs =>
    exact (Run.reads_mapM specs AttributeSpec.reads_resolve).then (fun _ _ => Run.Reads.pure trivial)
  | mixedList => exact Run.Reads.pure trivial
  | nothing => exact Run.Reads.pure trivial

private theorem Program.mem_returned {builder : String} {returned : List Returned} {program : Program}
    (made : Program.ofReturned builder returned = .ok program) :
    .document (.vertex program.vertex) ∈ returned ∧ .document (.fragment program.fragment) ∈ returned := by
  unfold Program.ofReturned at made
  split at made
  · split at made
    · cases made
      simp
    all_goals cases made
  · cases made
  · cases made

private theorem Ending.documents_of_program {name : String} {script : List Command} {ending : Ending}
    {program : Program} {levels : Option Nat}
    (made : ending.program name ((Session.start levels).after script) = .ok program) :
    (∃ vertexName, ((Session.start levels).after script).documents.get? vertexName = some (.vertex program.vertex)) ∧
      ∃ fragmentName,
        ((Session.start levels).after script).documents.get? fragmentName = some (.fragment program.fragment) := by
  cases ending with
  | raises failure => cases made
  | other typeName => cases made
  | items isTuple returns =>
    obtain ⟨history, leads, records⟩ := Session.exists_history ⟨False, fun _ => False⟩ levels
      (fun command (_ : command ∈ script) => ⟨False.elim, fun _ => False.elim⟩)
    have regular := leads.regular (regular_beginning _)
    obtain ⟨_, _, _, held⟩ :=
      Run.reads_mapM_forall returns ReturnItem.reads_resolve ((Session.start levels).after script) regular records
    rw [Ending.program] at made
    split at made
    · cases made
    · rename_i returned resolved
      split at made
      · have ⟨vertex, fragment⟩ := Program.mem_returned made
        rw [records.documents]
        exact ⟨(held returned resolved).2 _ vertex, (held returned resolved).2 _ fragment⟩
      · cases made

private theorem Builder.documents_of_program {name : String} {script : List Command} {ending : Ending}
    {program : Program} {levels : Option Nat}
    (made : ((Builder.function script ending).program levels name).1 = .ok program) :
    (∃ vertexName, ((Session.start levels).after script).documents.get? vertexName = some (.vertex program.vertex)) ∧
      ∃ fragmentName,
        ((Session.start levels).after script).documents.get? fragmentName = some (.fragment program.fragment) := by
  rw [Builder.program] at made
  split at made
  · cases made
  · rename_i session log performed
    obtain rfl : session = (Session.start levels).after script := Session.eq_after (by rw [performed])
    split at made
    · cases made
    · rename_i found ends
      cases made
      exact Ending.documents_of_program ends

/-- The script of a builder has nothing but builders in it. -/
def Builder.Regular : Builder → Prop
  | .constant _ => True
  | .function script _ => ∀ command ∈ script, command.step.isBuilder = true

/-- The scripts of an offer have nothing but builders in them. -/
def Offer.Regular (offered : Offer) : Prop :=
  ∀ entry ∈ offered.entries, entry.2.Regular

private theorem Offer.exists_script {offered : Offer} {levels : Option Nat} {builder : String} {program : Program}
    (made : (offered.program levels builder).1 = .ok program) :
    ∃ script ending, offered.get? builder = some (.function script ending) ∧
      ((Builder.function script ending).program levels builder).1 = .ok program := by
  unfold Offer.program at made
  split at made
  · cases made
  · cases made
  · rename_i found _ asked
    cases found with
    | constant typeName => cases made
    | function script ending => exact ⟨script, ending, asked, made⟩
  · cases made
  · cases made

private theorem Failure.isReported_fault (error : Error) : (Failure.fault (.error error)).isReported = false ↔
    error.exception ∈ [.keyError, .attributeError, .overflowError, .typeError, .recursionError] := by
  have classes : ∀ kind ∈ [.contractViolation, .linkError, .valueError, .keyError, .attributeError, .overflowError,
      .typeError, .recursionError], kind.isCaughtBy reportedClasses = false ↔
        kind ∈ [ExceptionClass.keyError, .attributeError, .overflowError, .typeError, .recursionError] := by decide
  refine classes error.exception ?_
  cases error with
  | unshown fault => cases fault <;> simp [Error.exception]
  | _ => simp [Error.exception]

private theorem isReported_of_checkLink {vertex : VertexShader} {fragment : FragmentShader}
    {attributes : List Attribute} {error : Error} (refused : checkLink vertex fragment attributes = .error error) :
    (Failure.fault (.error error)).isReported = true := by
  have named : ∀ {binding : Attribute} {reason : LinkReason}, error = binding.refusal reason →
      (Failure.fault (.error error)).isReported = true := by
    intro binding reason refusal
    cases Attribute.eq_refusal_iff.1 refusal <;> rfl
  cases inputs : checkInputs vertex.outputTypes fragment.inputTypes with
  | error cause =>
    obtain rfl := Except.error.inj ((checkLink_of_inputs inputs).symm.trans refused)
    obtain ⟨_, _, rfl⟩ := checkInputs_eq_error_iff.1 inputs
    rfl
  | ok =>
    cases bindings : checkBindings [] attributes with
    | error cause =>
      obtain rfl := Except.error.inj ((checkLink_of_bindings inputs bindings).symm.trans refused)
      obtain ⟨_, _, _, _, _, _, _, refusal⟩ := checkBindings_eq_error_iff.1 bindings
      exact named refusal
    | ok =>
      rw [checkLink_of_ok inputs bindings] at refused
      obtain ⟨_, _, refusal⟩ := checkReads_eq_error_iff.1 refused
      exact named refusal

/-- A stage of a program needs a value with too many values inside each other, and an output of the stage depends on
itself. -/
def Program.Overflows (program : Program) (limit : Nat) : Prop :=
  ∃ document ∈ [Document.vertex program.vertex, .fragment program.fragment],
    ¬ document.Acyclic ∧ ∃ value, document.Reached value ∧ value.Nests limit

private theorem Document.Refusal.isReported_or_overflows {program : Program} {document : Document}
    (part : document ∈ [Document.vertex program.vertex, .fragment program.fragment]) {levels : Option Nat} {error : Error}
    (refusal : document.Refusal levels error) :
    (Failure.fault (.error error)).isReported = true ∨
      error = .unshown .tooDeep ∧ ∃ limit, levels = some limit ∧ program.Overflows limit := by
  cases refusal with
  | violation => exact .inl rfl
  | long => exact .inl rfl
  | deep limited reached nests cyclic => exact .inr ⟨rfl, _, limited, document, part, cyclic, _, reached, nests⟩

private theorem Offer.Regular.isReported_or_overflows {offered : Offer} (regular : offered.Regular)
    {levels : Option Nat} {builder : String} {program : Program}
    (made : (offered.program levels builder).1 = .ok program) {dialect : Glsl.Dialect} {error : Error}
    (failed : ((Generator.ofDialect dialect levels).generate program.vertex program.fragment
      program.attributes).result = .error error) :
    (Failure.fault (.error error)).isReported = true ∨
      error = .unshown .tooDeep ∧ ∃ limit, levels = some limit ∧ program.Overflows limit := by
  obtain ⟨script, ending, asked, built⟩ := Offer.exists_script made
  obtain ⟨⟨_, vertexHeld⟩, _, fragmentHeld⟩ := Builder.documents_of_program built
  obtain ⟨ledger, sound⟩ := Session.typed_after levels (regular _ (Table.mem_of_get? asked))
  cases linked : checkLink program.vertex program.fragment program.attributes with
  | error cause =>
    rw [Generator.result_generate, linked] at failed
    obtain rfl : cause = error := Except.error.inj failed
    exact .inl (isReported_of_checkLink linked)
  | ok =>
    have decided := (Generator.ofDialect dialect levels).okIff_generate rfl (sound.document vertexHeld)
      (sound.document fragmentHeld) linked
    cases decided.stops_of_error failed with
    | vertex refusal => exact refusal.isReported_or_overflows (by simp)
    | fragment refusal => exact refusal.isReported_or_overflows (by simp)
    | binding => exact .inl rfl

private theorem bind_eq_error {ε α β : Type} {first : Except ε α} {rest : α → Except ε β} {error : ε} :
    first >>= rest = .error error ↔ first = .error error ∨ ∃ value, first = .ok value ∧ rest value = .error error := by
  cases first <;> simp [bind, Except.bind]

private theorem mapError_eq_error {ε ω α : Type} {first : Except ε α} {change : ε → ω} {error : ω} :
    first.mapError change = .error error ↔ ∃ cause, first = .error cause ∧ change cause = error := by
  cases first <;> simp [Except.mapError]

/-- The sources that are generated for a call, without what is logged on the way. -/
theorem Settings.result_generate (settings : Settings) (levels : Option Nat) (time : Int)
    (loaded : Except Failure Offer) :
    (settings.generate levels time loaded).1 = (do
      let offered ← loaded
      let program ← (offered.program levels settings.builder).1
      let sources ← ((Generator.ofDialect (Target.ofName settings.target).1.dialect levels).generate program.vertex
        program.fragment program.attributes).result.mapError (fun error => .fault (.error error))
      return (settings.present (Target.ofName settings.target).1 time sources).1) := by
  unfold Settings.generate
  cases loaded with
  | error => rfl
  | ok offered =>
    dsimp only [bind, Except.bind]
    rcases offered.program levels settings.builder with ⟨built, log⟩
    cases built with
    | error => rfl
    | ok program =>
      dsimp only
      cases ((Generator.ofDialect (Target.ofName settings.target).1.dialect levels).generate program.vertex
        program.fragment program.attributes).result with
      | error => rfl
      | ok => rfl

namespace Workspace

/-- The failures of the file system on the way to a file. -/
def pathFailures : List Failure :=
  [.fileMissing, .notADirectory, .isADirectory, .nameTooLong]

private theorem isReported_of_mem {failure : Failure} (member : failure ∈ pathFailures) :
    failure.isReported = false := by
  simp only [pathFailures, List.mem_cons, List.not_mem_nil, or_false] at member
  rcases member with rfl | rfl | rfl | rfl <;> rfl

private theorem mem_pathFailures_of_follow {workspace : Workspace} {above : String} {names : List String}
    {failure : Failure} (failed : workspace.follow above names = .error failure) : failure ∈ pathFailures := by
  fun_induction follow workspace above names with
  | case1 above => cases failed
  | case2 above name rest long =>
    cases failed
    simp [pathFailures]
  | case3 above name rest short last => cases failed
  | case4 above name rest short further here =>
    cases failed
    simp [pathFailures]
  | case5 above name rest short further here =>
    cases failed
    simp [pathFailures]
  | case6 above name rest short further here ih => exact ih failed

private theorem content_error {workspace : Workspace} {path : String} {failure : Failure}
    (failed : workspace.content path = .error failure) : failure = .nullInPath ∨ failure ∈ pathFailures := by
  unfold content at failed
  simp only [bind, Except.bind, throw, throwThe, MonadExceptOf.throw, pure, Except.pure] at failed
  split at failed
  · cases failed
    exact .inl rfl
  · right
    split at failed
    · cases failed
      simp [pathFailures]
    · split at failed
      · rename_i cause stopped
        cases failed
        exact mem_pathFailures_of_follow stopped
      · split at failed
        · cases failed
        · cases failed
        · cases failed
          split
          · simp [pathFailures]
          · simp [pathFailures]

private theorem mem_pathFailures_of_content {workspace : Workspace} {path : String} {failure : Failure}
    (failed : workspace.content path = .error failure) (unreported : failure.isReported = false) :
    failure ∈ pathFailures := by
  rcases content_error failed with rfl | inside
  · exact absurd unreported (by decide)
  · exact inside

/-- A path leads to a source, and running it fails. -/
inductive RunFails (workspace : Workspace) (path : String) (failure : Failure) : Prop where
  | program (form : ProgramForm.ofPath? (workspace.locate path) = some .source)
      (held : workspace.content (workspace.locate path) = .ok (.program (.broken failure)))
  | text {text : String} (form : ProgramForm.ofPath? (workspace.locate path) = some .source)
      (held : workspace.content (workspace.locate path) = .ok (.text text))
      (failed : workspace.host.run text = .error failure)

private theorem pathFailure_or_runFails {workspace : Workspace} {path : String} {failure : Failure}
    (failed : workspace.load path = .error failure) (unreported : failure.isReported = false) :
    failure ∈ pathFailures ∨ workspace.RunFails path failure := by
  have other : failure.exception ≠ .importError := by
    intro kind
    rw [Failure.isReported, kind] at unreported
    exact absurd unreported (by decide)
  unfold load at failed
  extract_lets located at failed
  split at failed
  · cases failed
    exact absurd rfl other
  · rename_i form
    unfold loadSource at failed
    cases read : workspace.content located with
    | error cause =>
      rw [read] at failed
      cases failed
      exact .inl (mem_pathFailures_of_content read unreported)
    | ok held =>
      rw [read] at failed
      cases held with
      | program file =>
        cases file with
        | builders offered => cases failed
        | broken cause =>
          cases failed
          exact .inr (.program form read)
      | text text => exact .inr (.text form read failed)
  · obtain rfl := Except.error.inj failed
    cases read : workspace.content located with
    | error cause =>
      have same : workspace.compiledFailure located = cause := by rw [compiledFailure, read]
      rw [same] at unreported ⊢
      exact .inl (mem_pathFailures_of_content read unreported)
    | ok content => exact absurd (by rw [compiledFailure, read]; rfl) other
  · obtain rfl := Except.error.inj failed
    refine absurd ?_ other
    unfold nativeFailure
    extract_lets ended
    split <;> rfl

/-- What a watch generates from a workspace at a time, and what is logged on the way. -/
def Watch.generated (watch : Watch) (workspace : Workspace) (time : Int) : Except Failure Sources × Log :=
  watch.settings.generate workspace.host.levels time (workspace.load watch.settings.file)

/-- The entry under which a refresh logs a failure. -/
def Watch.complaint (watch : Watch) (failure : Failure) : Entry :=
  ⟨.error, "Error regenerating " ++ watch.settings.file ++ ": " ++ failure.message⟩

/-- What a refresh can do: log a failure, let one escape, fail to write, or write. -/
inductive Refreshes (workspace : Workspace) (time : Int) (watch : Watch) : Refreshed → Prop where
  | reported {failure : Failure} {log : Log} (failed : watch.generated workspace time = (.error failure, log))
      (isReported : failure.isReported = true) :
      Refreshes workspace time watch ⟨.ok false, log ++ [watch.complaint failure], workspace⟩
  | escaped {failure : Failure} {log : Log} (failed : watch.generated workspace time = (.error failure, log))
      (unreported : failure.isReported = false) : Refreshes workspace time watch ⟨.error failure, log, workspace⟩
  | unwritten {sources : Sources} {log : Log} {failure : Failure} {next : Workspace}
      (generated : watch.generated workspace time = (.ok sources, log))
      (failed : workspace.writeSources watch.outputDir watch.settings.file sources = (.error failure, next)) :
      Refreshes workspace time watch ⟨.error failure, log, next⟩
  | written {sources : Sources} {log further : Log} {next : Workspace}
      (generated : watch.generated workspace time = (.ok sources, log))
      (written : workspace.writeSources watch.outputDir watch.settings.file sources = (.ok further, next)) :
      Refreshes workspace time watch ⟨.ok true, log ++ further, next⟩

theorem refreshes_refresh (workspace : Workspace) (time : Int) (watch : Watch) :
    workspace.Refreshes time watch (workspace.refresh time watch) := by
  unfold refresh
  split
  · rename_i failure log failed
    split
    · rename_i isReported
      exact .reported failed isReported
    · rename_i unreported
      exact .escaped failed (by simpa using unreported)
  · rename_i sources log generated
    split
    · rename_i failure next failed
      exact .unwritten generated failed
    · rename_i further next written
      exact .written generated written

/-- The phases of a refresh. -/
inductive Phase where
  | loading
  | building
  | rendering
  | writing
deriving DecidableEq

/-- A refresh fails in a phase, after the phases before it went well. -/
inductive Fails (workspace : Workspace) (time : Int) (watch : Watch) : Phase → Failure → Prop where
  | loading {failure : Failure} (failed : workspace.load watch.settings.file = .error failure) :
      Fails workspace time watch .loading failure
  | building {offered : Offer} {failure : Failure} (loaded : workspace.load watch.settings.file = .ok offered)
      (failed : (offered.program workspace.host.levels watch.settings.builder).1 = .error failure) :
      Fails workspace time watch .building failure
  | rendering {offered : Offer} {program : Program} {error : Error}
      (loaded : workspace.load watch.settings.file = .ok offered)
      (built : (offered.program workspace.host.levels watch.settings.builder).1 = .ok program)
      (failed : ((Generator.ofDialect (Target.ofName watch.settings.target).1.dialect workspace.host.levels).generate
        program.vertex program.fragment program.attributes).result = .error error) :
      Fails workspace time watch .rendering (.fault (.error error))
  | writing {sources : Sources} {failure : Failure} (generated : (watch.generated workspace time).1 = .ok sources)
      (failed : (workspace.writeSources watch.outputDir watch.settings.file sources).1 = .error failure) :
      Fails workspace time watch .writing failure

/-- Nothing is generated exactly if a phase before the writing fails. -/
theorem generated_eq_error_iff {workspace : Workspace} {time : Int} {watch : Watch} {failure : Failure} :
    (watch.generated workspace time).1 = .error failure ↔
      ∃ phase, phase ≠ .writing ∧ workspace.Fails time watch phase failure := by
  rw [Watch.generated, Settings.result_generate]
  simp only [bind_eq_error, mapError_eq_error]
  constructor
  · rintro (unloaded | ⟨offered, loaded, unbuilt | ⟨program, built, ⟨error, unrendered, rfl⟩ | ⟨_, _, impossible⟩⟩⟩)
    · exact ⟨.loading, by simp, .loading unloaded⟩
    · exact ⟨.building, by simp, .building loaded unbuilt⟩
    · exact ⟨.rendering, by simp, .rendering loaded built unrendered⟩
    · cases impossible
  · rintro ⟨phase, before, fails⟩
    cases fails with
    | loading failed => exact .inl failed
    | building loaded failed => exact .inr ⟨_, loaded, .inl failed⟩
    | rendering loaded built failed => exact .inr ⟨_, loaded, .inr ⟨_, built, .inl ⟨_, failed, rfl⟩⟩⟩
    | writing => exact absurd rfl before

private theorem refresh_eq_error_iff {workspace : Workspace} {time : Int} {watch : Watch} {failure : Failure} :
    (workspace.refresh time watch).result = .error failure ↔
      ∃ phase, workspace.Fails time watch phase failure ∧ (phase = .writing ∨ failure.isReported = false) := by
  have refreshes := workspace.refreshes_refresh time watch
  generalize workspace.refresh time watch = refreshed at refreshes
  constructor
  · intro ended
    cases refreshes with
    | reported => cases ended
    | escaped failed unreported =>
      cases ended
      obtain ⟨phase, _, fails⟩ := generated_eq_error_iff.1 (congrArg Prod.fst failed)
      exact ⟨phase, fails, .inr unreported⟩
    | unwritten generated failed =>
      cases ended
      exact ⟨.writing, .writing (congrArg Prod.fst generated) (congrArg Prod.fst failed), .inl rfl⟩
    | written => cases ended
  · rintro ⟨phase, fails, how⟩
    by_cases last : phase = .writing
    · subst last
      -- the writing is only reached with sources, so that the first two ends of a refresh are ruled out
      obtain ⟨sources, generated, failed⟩ : ∃ sources, (watch.generated workspace time).1 = .ok sources ∧
          (workspace.writeSources watch.outputDir watch.settings.file sources).1 = .error failure := by
        cases fails with
        | writing generated failed => exact ⟨_, generated, failed⟩
      cases refreshes with
      | reported other => simp [other] at generated
      | escaped other => simp [other] at generated
      | unwritten same other =>
        obtain rfl : _ = sources := by simpa [same] using generated
        simpa [other] using failed
      | written same other =>
        obtain rfl : _ = sources := by simpa [same] using generated
        simp [other] at failed
    · have failed := generated_eq_error_iff.2 ⟨phase, last, fails⟩
      cases refreshes with
      | reported same isReported =>
        obtain rfl : _ = failure := by simpa [same] using failed
        simp [last, isReported] at how
      | escaped same => simpa [same] using failed
      | unwritten other => simp [other] at failed
      | written other => simp [other] at failed

private theorem refresh_of_refused {workspace : Workspace} {time : Int} {watch : Watch}
    (refused : (workspace.refresh time watch).result = .ok false) :
    (workspace.refresh time watch).workspace = workspace ∧
      ∃ phase failure, phase ≠ .writing ∧ workspace.Fails time watch phase failure ∧ failure.isReported = true ∧
        (workspace.refresh time watch).log = (watch.generated workspace time).2 ++ [watch.complaint failure] := by
  have refreshes := workspace.refreshes_refresh time watch
  generalize workspace.refresh time watch = refreshed at refreshes refused
  cases refreshes with
  | reported failed isReported =>
    obtain ⟨phase, before, fails⟩ := generated_eq_error_iff.1 (congrArg Prod.fst failed)
    exact ⟨rfl, phase, _, before, fails, isReported, by rw [failed]⟩
  | escaped => cases refused
  | unwritten => cases refused
  | written => cases refused

private theorem refresh_of_written {workspace : Workspace} {time : Int} {watch : Watch}
    (done : (workspace.refresh time watch).result = .ok true) :
    ∃ sources, (watch.generated workspace time).1 = .ok sources ∧
      workspace.Writes (workspace.refresh time watch).workspace watch.outputDir watch.settings.file sources := by
  have refreshes := workspace.refreshes_refresh time watch
  generalize workspace.refresh time watch = refreshed at refreshes done
  cases refreshes with
  | reported => cases done
  | escaped => cases done
  | unwritten => cases done
  | written generated written => exact ⟨_, by rw [generated], writes_of_writeSources written⟩

/-- Only the writing changes a workspace. -/
theorem refresh_of_fails {workspace : Workspace} {time : Int} {watch : Watch} {phase : Phase} {failure : Failure}
    (fails : workspace.Fails time watch phase failure) (before : phase ≠ .writing) :
    (workspace.refresh time watch).workspace = workspace := by
  have failed := generated_eq_error_iff.2 ⟨phase, before, fails⟩
  have refreshes := workspace.refreshes_refresh time watch
  generalize workspace.refresh time watch = refreshed at refreshes
  cases refreshes with
  | reported => rfl
  | escaped => rfl
  | unwritten other => simp [other] at failed
  | written other => simp [other] at failed

/-- The program of a watch is built, and then a value of it is too deep to be shown. -/
def Overflows (workspace : Workspace) (watch : Watch) : Prop :=
  ∃ limit offered program, workspace.host.levels = some limit ∧ workspace.load watch.settings.file = .ok offered ∧
    (offered.program workspace.host.levels watch.settings.builder).1 = .ok program ∧ program.Overflows limit

/-- For every workspace, time and watch: a refresh ends with a failure if and only if its writing fails, or a phase
before it fails in a way that is not reported. Otherwise it answers that both files were written, and they hold what was
generated; or that they were not, and then it has logged the failure, and nothing has changed. No failure before the
writing changes anything. Of the failures in loading, those of the file system are not reported, and of the others at
most those of running the file; of the errors of this library, those of lookups, members, overflows, types and depth; and
of those in rendering, if the scripts have nothing but builders in them, those of depth alone, for a program with an
output that depends on itself. -/
theorem refresh_raises_iff (workspace : Workspace) (time : Int) (watch : Watch) :
    (∀ failure, (workspace.refresh time watch).result = .error failure ↔
      ∃ phase, workspace.Fails time watch phase failure ∧ (phase = .writing ∨ failure.isReported = false)) ∧
    ((workspace.refresh time watch).result = .ok true → ∃ sources, (watch.generated workspace time).1 = .ok sources ∧
      workspace.Writes (workspace.refresh time watch).workspace watch.outputDir watch.settings.file sources) ∧
    ((workspace.refresh time watch).result = .ok false → (workspace.refresh time watch).workspace = workspace ∧
      ∃ phase failure, phase ≠ .writing ∧ workspace.Fails time watch phase failure ∧ failure.isReported = true ∧
        (workspace.refresh time watch).log = (watch.generated workspace time).2 ++ [watch.complaint failure]) ∧
    (∀ phase failure, workspace.Fails time watch phase failure →
      (phase ≠ .writing → (workspace.refresh time watch).workspace = workspace) ∧
      (phase = .loading → (failure ∈ pathFailures → failure.isReported = false) ∧
        (failure.isReported = false → failure ∈ pathFailures ∨ workspace.RunFails watch.settings.file failure)) ∧
      (phase = .rendering → (∀ offered, workspace.load watch.settings.file = .ok offered → offered.Regular) →
        (failure.isReported = false ↔ failure = .fault (.error (.unshown .tooDeep))) ∧
          (failure.isReported = false → workspace.Overflows watch))) ∧
    ∀ error, (Failure.fault (.error error)).isReported = false ↔
      error.exception ∈ [.keyError, .attributeError, .overflowError, .typeError, .recursionError] := by
  refine ⟨fun _ => refresh_eq_error_iff, refresh_of_written, refresh_of_refused, ?_, Failure.isReported_fault⟩
  intro phase failure fails
  refine ⟨refresh_of_fails fails, ?_, ?_⟩
  · rintro rfl
    cases fails with
    | loading failed => exact ⟨isReported_of_mem, pathFailure_or_runFails failed⟩
  · rintro rfl regular
    cases fails with
    | rendering loaded built failed =>
      rcases (regular _ loaded).isReported_or_overflows built failed with reported | ⟨rfl, limit, limited, overflows⟩
      · refine ⟨⟨fun unreported => ?_, ?_⟩, fun unreported => ?_⟩
        · exact absurd (reported.symm.trans unreported) (by decide)
        · rintro ⟨⟩
          exact absurd reported (by decide)
        · exact absurd (reported.symm.trans unreported) (by decide)
      · exact ⟨⟨fun _ => rfl, fun _ => rfl⟩, fun _ => ⟨limit, _, _, limited, loaded, built, overflows⟩⟩

/-- A machine on which no text is a program. -/
def textless : Host := ⟨none, fun _ => .error (.raised .syntaxError "invalid syntax")⟩

/-- What a program offers whose builder reads an output back that nothing is assigned to. -/
def unassigned : Offer :=
  ⟨[("build_program", .function [⟨.readOutput "v" "uv", none⟩]
    (.items true [.document "v", .document "f", .attributes []]))]⟩

/-- The directory of the program. -/
def unassigned.workspace : Workspace :=
  (bare textless "/w").putProgram "p.py" (.builders unassigned)

def unassigned.watch : Watch :=
  ⟨⟨"/w/p.py", "es300", "build_program", "plain"⟩, "."⟩

/-- The refresh ends with the lookup of the output, and logs nothing. -/
theorem refresh_unassigned :
    (unassigned.workspace.refresh 0 unassigned.watch).result = .error (.fault (.error (.outputMissing "uv"))) ∧
      (unassigned.workspace.refresh 0 unassigned.watch).log = [] := by
  have loaded : unassigned.workspace.load "/w/p.py" = .ok unassigned := rfl
  have failed : (unassigned.program none "build_program").1 = .error (.fault (.error (.outputMissing "uv"))) := rfl
  constructor
  · exact ((refresh_raises_iff _ 0 unassigned.watch).1 _).2 ⟨.building, .building loaded failed, .inr rfl⟩
  · exact List.eq_nil_of_length_eq_zero (by decide +kernel)

end Workspace

end Shading
