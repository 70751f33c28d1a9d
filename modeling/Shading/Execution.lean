import Shading.Loading
import Shading.Text.ControlSequence

/-!
# Runs of the command line

A run prints or writes the sources of a program, or watches a program file and writes its sources anew on every change.
Both files of a program are written only after both of its stages were generated.
-/

namespace Shading

/-- What a run does to the watcher of the file system. -/
inductive WatcherCall where
  | schedule (path : String)
  | start
  | stop
  | join
deriving DecidableEq

/-- What a run leaves: its exit code, the failure that ended it, what it printed and logged, what it asked of the watcher,
and the workspace after it. -/
structure Report where
  exitCode : Nat
  failure : Option Failure
  printed : String
  log : Log
  watcher : Option (List WatcherCall)
  workspace : Workspace

/-- The report of a run that a failure ends. A program that interrupts the run, gives it up or leaves it does not fail. -/
def Report.ended (failure : Failure) (log : Log) (watcher : Option (List WatcherCall)) (workspace : Workspace) : Report :=
  match failure with
  | .raised .keyboardInterrupt _ => ⟨130, none, "", log, watcher, workspace⟩
  | .raised .eofError _ => ⟨1, none, "", log, watcher, workspace⟩
  | .raised .systemExit word => ⟨1, none, Text.plainLineEnds (word ++ "\n"), log, watcher, workspace⟩
  | _ => ⟨1, some failure, "", log, watcher, workspace⟩

/-- What is printed for both stages, free of control sequences and with plain line ends. -/
def Sources.printed (sources : Sources) : String :=
  Text.plainLineEnds (Text.withoutControls
    ("// Vertex stage\n" ++ sources.vertex ++ "\n\n// Fragment stage\n" ++ sources.fragment ++ "\n"))

namespace Workspace

/-- Print or write the sources of a program once. -/
def exportOnce (workspace : Workspace) (time : Int) (file : String) (options : Options) : Report :=
  match (options.settings file).generate workspace.host.levels time (workspace.load file) with
  | (.error failure, log) =>
    if failure.isReported then
      ⟨1, none, "", log ++ [⟨.error, "Failed to generate " ++ file ++ ": " ++ failure.message⟩], none, workspace⟩
    else
      .ended failure log none workspace
  | (.ok sources, log) =>
    match options.outputDir with
    | none => ⟨0, none, sources.printed, log, none, workspace⟩
    | some outputDir =>
      match workspace.writeSources outputDir file sources with
      | (.error failure, next) => .ended failure log none next
      | (.ok writeLog, next) => ⟨0, none, "", log ++ writeLog, none, next⟩

/-- What a watch refreshes: the settings, whose file is an absolute path, and the directory it writes to. -/
structure Watch where
  settings : Settings
  outputDir : String

/-- What one refresh leaves: whether it wrote the files or the failure that ends the run, the log, and the
workspace. -/
structure Refreshed where
  result : Except Failure Bool
  log : Log
  workspace : Workspace

/-- Generate and write a program. Failures of the program are reported in the log. -/
def refresh (workspace : Workspace) (time : Int) (watch : Watch) : Refreshed :=
  match watch.settings.generate workspace.host.levels time (workspace.load watch.settings.file) with
  | (.error failure, log) =>
    if failure.isReported then
      ⟨.ok false, log ++ [⟨.error, "Error regenerating " ++ watch.settings.file ++ ": " ++ failure.message⟩],
        workspace⟩
    else
      ⟨.error failure, log, workspace⟩
  | (.ok sources, log) =>
    match workspace.writeSources watch.outputDir watch.settings.file sources with
    | (.error failure, next) => ⟨.error failure, log, next⟩
    | (.ok writeLog, next) => ⟨.ok true, log ++ writeLog, next⟩

/-- Something that happens while a program file is watched: files are edited, and then the absolute path of a change is
announced. -/
structure Event where
  edits : List (String × ProgramFile)
  changed : Option String

/-- The workspace after an event, and what the watch does about it. -/
def handle (workspace : Workspace) (time : Int) (watch : Watch) (event : Event) : Refreshed :=
  let edited := event.edits.foldl (fun workspace entry => workspace.putProgram entry.1 entry.2) workspace
  if event.changed = some watch.settings.file then
    let refreshed := edited.refresh time watch
    { refreshed with log := ⟨.info, "Detected changes in " ++ watch.settings.file⟩ :: refreshed.log }
  else
    ⟨.ok false, [], edited⟩

/-- Handle events up to the first failure that ends the run. An interrupt ends the watch before its time, as its user
would. -/
def handleAll (workspace : Workspace) (time : Int) (watch : Watch) : List Event → Option Failure × Log × Workspace
  | [] => (none, [], workspace)
  | event :: rest =>
    let handled := workspace.handle time watch event
    match handled.result with
    | .error (.raised .keyboardInterrupt _) => (none, handled.log, handled.workspace)
    | .error failure => (some failure, handled.log, handled.workspace)
    | .ok _ =>
      let (failure, log, last) := handled.workspace.handleAll time watch rest
      (failure, handled.log ++ log, last)

def watchOf (workspace : Workspace) (file : String) (options : Options) : Watch :=
  ⟨options.settings (workspace.locate file), options.outputDir.getD "."⟩

/-- What a watch announces before it waits. -/
def watchingEntry (file : String) : Entry :=
  ⟨.info, "Watching " ++ file ++ " (press Ctrl+C to stop)"⟩

/-- Watch a program file while events come in, until the run is interrupted. -/
def watchFile (workspace : Workspace) (time : Int) (file : String) (options : Options) (events : List Event) :
    Report :=
  let watch := workspace.watchOf file options
  let first := workspace.refresh time watch
  match first.result with
  | .error failure => .ended failure first.log none first.workspace
  | .ok _ =>
    let calls := [.schedule (Path.parent watch.settings.file), .start, .stop, .join]
    let begun := first.log ++ [watchingEntry file]
    match first.workspace.handleAll time watch events with
    | (some failure, log, last) => .ended failure (begun ++ log) (some calls) last
    | (none, log, last) =>
      ⟨0, none, "", begun ++ log ++ [⟨.info, "Keyboard interrupt received, stopping..."⟩], some calls, last⟩

/-- Run the command line on its arguments. Arguments that cannot be used end it at once. -/
def run (workspace : Workspace) (time : Int) (arguments : List String) (events : List Event) : Report :=
  match Request.ofArguments? arguments with
  | none => ⟨2, none, "", [], none, workspace⟩
  | some .help => ⟨0, none, "", [], none, workspace⟩
  | some (.run ⟨.once, file, options⟩) => workspace.exportOnce time file options
  | some (.run ⟨.watch, file, options⟩) => workspace.watchFile time file options events

end Workspace

end Shading
