import Shading.Proofs.Refreshing

/-!
# Watching a program

While a program is watched, its file is edited and changes are announced, of this file and of others. As long as what is
generated can be written, the two files of the program are always those of the newest generation that went well, and
before the first such generation nothing is touched (`Workspace.Watched.files_consistent`).
-/

namespace Shading.Workspace

/-- The workspace after edits of program files. -/
def edit (workspace : Workspace) (edits : List (String × ProgramFile)) : Workspace :=
  edits.foldl (fun workspace entry => workspace.putProgram entry.1 entry.2) workspace

private theorem edit_eq (workspace : Workspace) (edits : List (String × ProgramFile)) :
    workspace.edit edits = { workspace with programs := (workspace.edit edits).programs } := by
  induction edits generalizing workspace with
  | nil => rfl
  | cons entry rest ih => exact ih (workspace.putProgram entry.1 entry.2)

@[simp]
theorem directory_edit (workspace : Workspace) (edits : List (String × ProgramFile)) :
    (workspace.edit edits).directory = workspace.directory := by
  rw [edit_eq]

@[simp]
theorem texts_edit (workspace : Workspace) (edits : List (String × ProgramFile)) :
    (workspace.edit edits).texts = workspace.texts := by
  rw [edit_eq]

@[simp]
theorem made_edit (workspace : Workspace) (edits : List (String × ProgramFile)) :
    (workspace.edit edits).made = workspace.made := by
  rw [edit_eq]

private theorem edit_append (workspace : Workspace) (first second : List (String × ProgramFile)) :
    workspace.edit (first ++ second) = (workspace.edit first).edit second :=
  List.foldl_append

private theorem programs_edit {workspace other : Workspace} (directory : workspace.directory = other.directory)
    (programs : workspace.programs = other.programs) (edits : List (String × ProgramFile)) :
    (workspace.edit edits).programs = (other.edit edits).programs := by
  induction edits generalizing workspace other with
  | nil => exact programs
  | cons entry rest ih =>
    refine ih directory ?_
    simp only [putProgram, locate, directory, programs]

private theorem Holds.edit {workspace : Workspace} {outputDir file : String} {sources : Sources}
    (holds : workspace.Holds outputDir file sources) (edits : List (String × ProgramFile)) :
    (workspace.edit edits).Holds outputDir file sources where
  vertex := by simpa [textAt, locate] using holds.vertex
  fragment := by simpa [textAt, locate] using holds.fragment

private theorem handle_of_announced {workspace : Workspace} {time : Int} {watch : Watch} {event : Event}
    (announced : event.changed = some watch.settings.file) :
    (workspace.handle time watch event).workspace = ((workspace.edit event.edits).refresh time watch).workspace := by
  rw [handle, if_pos announced]
  rfl

private theorem handle_of_other {workspace : Workspace} {time : Int} {watch : Watch} {event : Event}
    (other : event.changed ≠ some watch.settings.file) :
    (workspace.handle time watch event).workspace = workspace.edit event.edits := by
  rw [handle, if_neg other]
  rfl

private theorem handle_of_error {workspace : Workspace} {time : Int} {watch : Watch} {event : Event} {failure : Failure}
    (failed : (watch.generated (workspace.edit event.edits) time).1 = .error failure) :
    (workspace.handle time watch event).workspace = workspace.edit event.edits := by
  by_cases announced : event.changed = some watch.settings.file
  · obtain ⟨phase, before, fails⟩ := generated_eq_error_iff.1 failed
    rw [handle_of_announced announced, refresh_of_fails fails before]
  · exact handle_of_other announced

/-- A generation: the time of it, and the workspace that it saw. -/
structure Attempt where
  time : Int
  workspace : Workspace

/-- An event and the time when the watch handles it. -/
structure Delivery where
  time : Int
  event : Event

/-- What has become of a watch: its generations, the newest first, and the workspace. -/
structure Watched where
  attempts : List Attempt
  workspace : Workspace

/-- The sources of a generation, unless it has failed. -/
def Attempt.sources? (watch : Watch) (attempt : Attempt) : Option Sources :=
  (watch.generated attempt.workspace attempt.time).1.toOption

private theorem Attempt.sources?_eq {watch : Watch} {time : Int} {workspace : Workspace}
    {result : Except Failure Sources} {log : Log} (generated : watch.generated workspace time = (result, log)) :
    Attempt.sources? watch ⟨time, workspace⟩ = result.toOption := by
  rw [Attempt.sources?, generated]

/-- What a generation gives can be written. -/
def Attempt.isWritable (watch : Watch) (attempt : Attempt) : Bool :=
  (attempt.sources? watch).all (fun sources =>
    (attempt.workspace.writeSources watch.outputDir watch.settings.file sources).1.isOk)

private theorem Attempt.isWritable_eq {watch : Watch} {attempt : Attempt} {sources : Sources}
    (generated : attempt.sources? watch = some sources) : attempt.isWritable watch =
      (attempt.workspace.writeSources watch.outputDir watch.settings.file sources).1.isOk := by
  rw [Attempt.isWritable, generated, Option.all_some]

namespace Watched

/-- A watch begins with a refresh. -/
def start (watch : Watch) (workspace : Workspace) (time : Int) : Watched :=
  ⟨[⟨time, workspace⟩], (workspace.refresh time watch).workspace⟩

/-- The watch handles an event. A program is generated if the event announces its file. -/
def deliver (watch : Watch) (watched : Watched) (delivery : Delivery) : Watched :=
  let attempt : Attempt := ⟨delivery.time, watched.workspace.edit delivery.event.edits⟩
  ⟨if delivery.event.changed = some watch.settings.file then attempt :: watched.attempts else watched.attempts,
    (watched.workspace.handle delivery.time watch delivery.event).workspace⟩

/-- The watch handles events one after the other. -/
def after (watch : Watch) (watched : Watched) (deliveries : List Delivery) : Watched :=
  deliveries.foldl (deliver watch) watched

/-- The sources of the newest generation that went well. -/
def latest (watch : Watch) (watched : Watched) : Option Sources :=
  watched.attempts.findSome? (Attempt.sources? watch)

/-- Whatever was generated could be written. -/
def Writable (watch : Watch) (watched : Watched) : Prop :=
  ∀ attempt ∈ watched.attempts, attempt.isWritable watch = true

/-- A watch agrees with the workspace that its edits alone would have left: before a generation went well it is this
workspace, and then both files of the program are those of the newest such generation. No other file is touched. -/
structure Consistent (watch : Watch) (edited : Workspace) (watched : Watched) : Prop where
  directory : watched.workspace.directory = edited.directory
  programs : watched.workspace.programs = edited.programs
  untouched : watched.latest watch = none → watched.workspace = edited
  newest : ∀ sources, watched.latest watch = some sources →
    watched.workspace.Holds watch.outputDir watch.settings.file sources
  others : ∀ path, path ≠ edited.locate (stagePath watch.outputDir watch.settings.file ".vert") →
    path ≠ edited.locate (stagePath watch.outputDir watch.settings.file ".frag") →
    watched.workspace.texts.get? path = edited.texts.get? path

variable {watch : Watch} {edited : Workspace}

private theorem refresh_of_isWritable {time : Int} {workspace : Workspace}
    (writable : (⟨time, workspace⟩ : Attempt).isWritable watch = true) :
    (Attempt.sources? watch ⟨time, workspace⟩ = none ∧ (workspace.refresh time watch).workspace = workspace) ∨
      ∃ sources, Attempt.sources? watch ⟨time, workspace⟩ = some sources ∧
        workspace.Writes (workspace.refresh time watch).workspace watch.outputDir watch.settings.file sources := by
  have refreshes := workspace.refreshes_refresh time watch
  generalize workspace.refresh time watch = refreshed at refreshes
  cases refreshes with
  | reported failed =>
    left
    exact ⟨Attempt.sources?_eq failed, rfl⟩
  | escaped failed =>
    left
    exact ⟨Attempt.sources?_eq failed, rfl⟩
  | unwritten generated failed =>
    rw [Attempt.isWritable_eq (Attempt.sources?_eq generated), failed] at writable
    cases writable
  | written generated written =>
    right
    exact ⟨_, Attempt.sources?_eq generated, writes_of_writeSources written⟩

private theorem latest_cons (attempt : Attempt) (attempts : List Attempt) (workspace : Workspace) :
    latest watch ⟨attempt :: attempts, workspace⟩ =
      (attempt.sources? watch).or (latest watch ⟨attempts, workspace⟩) := by
  rw [latest, List.findSome?_cons]
  cases attempt.sources? watch with
  | none => rfl
  | some sources => rfl

private theorem deliver_of_announced {watched : Watched} {delivery : Delivery}
    (announced : delivery.event.changed = some watch.settings.file) :
    watched.deliver watch delivery =
      ⟨⟨delivery.time, watched.workspace.edit delivery.event.edits⟩ :: watched.attempts,
        ((watched.workspace.edit delivery.event.edits).refresh delivery.time watch).workspace⟩ := by
  rw [deliver, if_pos announced, handle_of_announced announced]

private theorem deliver_of_other {watched : Watched} {delivery : Delivery}
    (other : delivery.event.changed ≠ some watch.settings.file) :
    watched.deliver watch delivery = ⟨watched.attempts, watched.workspace.edit delivery.event.edits⟩ := by
  rw [deliver, if_neg other, handle_of_other other]

private theorem consistent_untouched (watch : Watch) (begun : Workspace) : Consistent watch begun ⟨[], begun⟩ where
  directory := rfl
  programs := rfl
  untouched := fun _ => rfl
  newest := fun _ found => by cases found
  others := fun _ _ _ => rfl

private theorem Consistent.edit {attempts : List Attempt} {workspace : Workspace}
    (consistent : Consistent watch edited ⟨attempts, workspace⟩) (edits : List (String × ProgramFile)) :
    Consistent watch (edited.edit edits) ⟨attempts, workspace.edit edits⟩ := by
  refine ⟨?_, programs_edit consistent.directory consistent.programs edits, ?_, ?_, ?_⟩
  · simpa using consistent.directory
  · intro nothing
    obtain rfl : workspace = edited := consistent.untouched nothing
    rfl
  · exact fun sources found => (consistent.newest sources found).edit edits
  · simpa [locate] using consistent.others

/-- A generation that fails leaves everything as it was. -/
theorem Consistent.unchanged {attempts : List Attempt} {workspace : Workspace}
    (consistent : Consistent watch edited ⟨attempts, workspace⟩) {attempt : Attempt}
    (nothing : attempt.sources? watch = none) : Consistent watch edited ⟨attempt :: attempts, workspace⟩ := by
  have same : latest watch ⟨attempt :: attempts, workspace⟩ = latest watch ⟨attempts, workspace⟩ := by
    rw [latest_cons, nothing, Option.none_or]
  refine ⟨consistent.directory, consistent.programs, ?_, ?_, consistent.others⟩
  · rw [same]
    exact consistent.untouched
  · rw [same]
    exact consistent.newest

/-- A generation that goes well becomes the newest one when its sources are written. -/
theorem Consistent.written {attempts : List Attempt} {workspace next : Workspace}
    (consistent : Consistent watch edited ⟨attempts, workspace⟩) {attempt : Attempt} {sources : Sources}
    (generated : attempt.sources? watch = some sources)
    (writes : workspace.Writes next watch.outputDir watch.settings.file sources) :
    Consistent watch edited ⟨attempt :: attempts, next⟩ := by
  have newest : latest watch ⟨attempt :: attempts, next⟩ = some sources := by
    rw [latest_cons, generated, Option.some_or]
  -- no edit and no writing moves the directory, so that all of them see the two files at the same paths
  have located (path : String) : workspace.locate path = edited.locate path := by
    rw [locate, locate, consistent.directory]
  refine ⟨writes.directory.trans consistent.directory, writes.programs.trans consistent.programs, ?_, ?_, ?_⟩
  · intro nothing
    simp [newest] at nothing
  · intro found same
    obtain rfl := Option.some.inj (newest.symm.trans same)
    exact writes.holds
  · intro path vertex fragment
    have before := consistent.others path vertex fragment
    rw [← located] at vertex fragment
    exact (writes.others path vertex fragment).trans before

theorem Consistent.refresh {attempts : List Attempt} {workspace : Workspace}
    (consistent : Consistent watch edited ⟨attempts, workspace⟩) {time : Int}
    (writable : (⟨time, workspace⟩ : Attempt).isWritable watch = true) :
    Consistent watch edited ⟨⟨time, workspace⟩ :: attempts, (workspace.refresh time watch).workspace⟩ := by
  rcases refresh_of_isWritable writable with ⟨nothing, same⟩ | ⟨sources, generated, writes⟩
  · rw [same]
    exact consistent.unchanged nothing
  · exact consistent.written generated writes

private theorem Consistent.deliver {watched : Watched} (consistent : Consistent watch edited watched)
    {delivery : Delivery} (writable : (watched.deliver watch delivery).Writable watch) :
    Consistent watch (edited.edit delivery.event.edits) (watched.deliver watch delivery) := by
  have before := consistent.edit delivery.event.edits
  by_cases announced : delivery.event.changed = some watch.settings.file
  · rw [deliver_of_announced announced] at writable ⊢
    exact before.refresh (writable _ List.mem_cons_self)
  · rw [deliver_of_other announced]
    exact before

private theorem attempts_deliver (watched : Watched) (delivery : Delivery) :
    watched.attempts ⊆ (watched.deliver watch delivery).attempts := by
  by_cases announced : delivery.event.changed = some watch.settings.file
  · rw [deliver_of_announced announced]
    exact List.subset_cons_self _ _
  · rw [deliver_of_other announced]
    exact List.Subset.refl _

private theorem attempts_after (watched : Watched) (deliveries : List Delivery) :
    watched.attempts ⊆ (watched.after watch deliveries).attempts := by
  induction deliveries generalizing watched with
  | nil => exact List.Subset.refl _
  | cons delivery rest ih => exact List.Subset.trans (attempts_deliver watched delivery) (ih _)

private theorem consistent_start {begun : Workspace} {time : Int} (writable : (start watch begun time).Writable watch) :
    Consistent watch begun (start watch begun time) :=
  (consistent_untouched watch begun).refresh (writable _ List.mem_cons_self)

/-- All edits of some deliveries, in their order. -/
def editsOf (deliveries : List Delivery) : List (String × ProgramFile) :=
  deliveries.flatMap (fun delivery => delivery.event.edits)

/-- What one event keeps, all events keep. -/
theorem Consistent.after {watched : Watched} (consistent : Consistent watch edited watched)
    {deliveries : List Delivery} (writable : (watched.after watch deliveries).Writable watch) :
    Consistent watch (edited.edit (editsOf deliveries)) (watched.after watch deliveries) := by
  induction deliveries generalizing watched edited with
  | nil => exact consistent
  | cons delivery rest ih =>
    have first : (watched.deliver watch delivery).Writable watch :=
      fun attempt made => writable attempt (attempts_after _ rest made)
    rw [editsOf, List.flatMap_cons, edit_append]
    exact ih (consistent.deliver first) writable

/-- The newest generation of a watch has ended the run with a failure. -/
def Ended (watch : Watch) (watched : Watched) : Prop :=
  ∃ attempt failure, watched.attempts.head? = some attempt ∧
    (attempt.workspace.refresh attempt.time watch).result = .error failure

/-- The deliveries of events that are all handled at one time. -/
def deliveriesAt (time : Int) (events : List Event) : List Delivery :=
  events.map (Delivery.mk time)

private theorem handleAll_of_error {workspace : Workspace} {time : Int} {event : Event} {rest : List Event}
    {failure : Failure} (ended : (workspace.handle time watch event).result = .error failure) :
    (workspace.handleAll time watch (event :: rest)).2.2 = (workspace.handle time watch event).workspace := by
  rw [handleAll]
  dsimp only
  split
  · rfl
  · rfl
  · rename_i done
    cases done.symm.trans ended

private theorem handleAll_of_ok {workspace : Workspace} {time : Int} {event : Event} {rest : List Event}
    {written : Bool} (done : (workspace.handle time watch event).result = .ok written) :
    (workspace.handleAll time watch (event :: rest)).2.2 =
      ((workspace.handle time watch event).workspace.handleAll time watch rest).2.2 := by
  rw [handleAll]
  dsimp only
  split
  · rename_i ended
    cases done.symm.trans ended
  · rename_i ended
    cases done.symm.trans ended
  · rfl

private theorem ended_deliver {watched : Watched} {time : Int} {event : Event} {failure : Failure}
    (ended : (watched.workspace.handle time watch event).result = .error failure) :
    (watched.deliver watch ⟨time, event⟩).Ended watch := by
  by_cases announced : event.changed = some watch.settings.file
  · rw [handle, if_pos announced] at ended
    rw [deliver_of_announced announced]
    exact ⟨_, failure, rfl, ended⟩
  · rw [handle, if_neg announced] at ended
    cases ended

private theorem workspace_ended (failure : Failure) (log : Log) (watcher : Option (List WatcherCall))
    (workspace : Workspace) :
    (Report.ended failure log watcher workspace).workspace = workspace := by
  unfold Report.ended
  split <;> rfl

private theorem exists_handleAll (watch : Watch) (watched : Watched) (time : Int) (events : List Event) :
    ∃ handled ignored, events = handled ++ ignored ∧
      (watched.workspace.handleAll time watch events).2.2 =
        (watched.after watch (deliveriesAt time handled)).workspace ∧
      (ignored = [] ∨ (watched.after watch (deliveriesAt time handled)).Ended watch) := by
  induction events generalizing watched with
  | nil => exact ⟨[], [], rfl, rfl, .inl rfl⟩
  | cons event rest ih =>
    cases result : (watched.workspace.handle time watch event).result with
    | error failure =>
      -- the run ends here, whatever is still to come
      exact ⟨[event], rest, rfl, handleAll_of_error result, .inr (ended_deliver result)⟩
    | ok written =>
      obtain ⟨handled, ignored, whole, same, how⟩ := ih (watched.deliver watch ⟨time, event⟩)
      refine ⟨event :: handled, ignored, by rw [whole, List.cons_append], ?_, how⟩
      rw [handleAll_of_ok result]
      exact same

private theorem exists_watchFile (begun : Workspace) (time : Int) (file : String) (options : Options)
    (events : List Event) :
    ∃ handled ignored, events = handled ++ ignored ∧
      (begun.watchFile time file options events).workspace =
        ((start (begun.watchOf file options) begun time).after (begun.watchOf file options)
          (deliveriesAt time handled)).workspace ∧
      (ignored = [] ∨ ((start (begun.watchOf file options) begun time).after (begun.watchOf file options)
        (deliveriesAt time handled)).Ended (begun.watchOf file options)) := by
  unfold watchFile
  generalize begun.watchOf file options = watch
  dsimp only
  split
  · rename_i failure ended
    exact ⟨[], events, rfl, workspace_ended _ _ _ _, .inr ⟨_, failure, rfl, ended⟩⟩
  · obtain ⟨handled, ignored, whole, same, how⟩ := exists_handleAll watch (start watch begun time) time events
    refine ⟨handled, ignored, whole, ?_, how⟩
    rw [← same]
    split
    · rename_i failure log last stopped
      rw [workspace_ended]
      exact congrArg (·.2.2) stopped.symm
    · rename_i log last stopped
      exact congrArg (·.2.2) stopped.symm

/-- For every watch, every workspace in which it begins and all events that it handles at any times, as long as what is
generated can be written: the two files of the program are those of the newest generation that went well, and before
there is one, no text is touched and no directory is made; nothing else happens but the edits. An event that does not
announce the program file, or after which nothing can be generated, leaves nothing but its edits. A run of the command
line is such a watch, up to the event that ends it. -/
theorem files_consistent (watch : Watch) (begun : Workspace) (time : Int) (deliveries : List Delivery)
    (writable : ((start watch begun time).after watch deliveries).Writable watch) :
    Consistent watch (begun.edit (editsOf deliveries)) ((start watch begun time).after watch deliveries) ∧
    (((start watch begun time).after watch deliveries).latest watch = none →
      ((start watch begun time).after watch deliveries).workspace.texts = begun.texts ∧
        ((start watch begun time).after watch deliveries).workspace.made = begun.made) ∧
    (∀ (workspace : Workspace) (time : Int) (event : Event), event.changed ≠ some watch.settings.file →
      (workspace.handle time watch event).workspace = workspace.edit event.edits) ∧
    (∀ (workspace : Workspace) (time : Int) (event : Event) (failure : Failure),
      (watch.generated (workspace.edit event.edits) time).1 = .error failure →
      (workspace.handle time watch event).workspace = workspace.edit event.edits) ∧
    ∀ file options events, ∃ handled ignored, events = handled ++ ignored ∧
      (begun.watchFile time file options events).workspace =
        ((start (begun.watchOf file options) begun time).after (begun.watchOf file options)
          (deliveriesAt time handled)).workspace ∧
      (ignored = [] ∨ ((start (begun.watchOf file options) begun time).after (begun.watchOf file options)
        (deliveriesAt time handled)).Ended (begun.watchOf file options)) := by
  have first : (start watch begun time).Writable watch :=
    fun attempt made => writable attempt (attempts_after _ deliveries made)
  have consistent := (consistent_start first).after writable
  refine ⟨consistent, ?_, fun _ _ _ => handle_of_other, fun _ _ _ _ => handle_of_error, exists_watchFile begun time⟩
  intro nothing
  rw [consistent.untouched nothing]
  exact ⟨texts_edit _ _, made_edit _ _⟩

end Watched

/-- A program file with one builder. -/
def offering (script : List Script.Command) : ProgramFile :=
  .builders ⟨[("build_program", .function script (.items true [.document "v", .document "f", .attributes []]))]⟩

def mended.watch : Watch :=
  ⟨⟨"/w/p.py", "es300", "build_program", "plain"⟩, "out"⟩

/-- Another file is edited, then the program breaks, and then it is mended and gets a color. -/
def mended : Watched :=
  (Watched.start mended.watch ((bare textless "/w").putProgram "p.py" (offering [])) 0).after mended.watch
    [⟨1, ⟨[("q.py", .broken .notAttributes)], some "/w/q.py"⟩⟩,
      ⟨2, ⟨[("p.py", .broken .notAttributes)], some "/w/p.py"⟩⟩,
      ⟨3, ⟨[("p.py", offering [⟨.uniform "f" "tint" (some "Vec4") none, some "tint"⟩, ⟨.setColor "f" "tint", none⟩])],
        some "/w/p.py"⟩⟩]

/-- All that was generated could be written, and the files are those of the mended program. -/
theorem holds_mended : mended.Writable mended.watch ∧ mended.attempts.length = 3 ∧
    ∃ sources, mended.latest mended.watch = some sources ∧ mended.workspace.Holds "out" "/w/p.py" sources := by
  have writable : mended.Writable mended.watch := by
    unfold Watched.Writable
    decide +kernel
  have found : (mended.latest mended.watch).isSome = true := by decide +kernel
  obtain ⟨sources, newest⟩ := Option.isSome_iff_exists.1 found
  refine ⟨writable, by decide +kernel, sources, newest, ?_⟩
  exact (Watched.files_consistent mended.watch _ 0 _ writable).1.newest sources newest

end Shading.Workspace
