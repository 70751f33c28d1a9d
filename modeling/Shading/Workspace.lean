import Shading.Program

/-!
# Working directories

A workspace is a directory with program files and texts on some machine. This is what a run of the command line sees of
the file system: it follows paths down to files, makes directories and writes texts.
-/

namespace Shading

/-- A working directory on a machine: its absolute path, the directories that runs have made, the program files and the
other files, all of them by their absolute paths. -/
structure Workspace where
  host : Host
  directory : String
  made : List String
  programs : Table ProgramFile
  texts : Table String

/-- What a file holds. -/
inductive Content where
  | program (file : ProgramFile)
  | text (text : String)

/-- What can stand at a path. -/
inductive Place where
  | file
  | directory
  | vacant
deriving DecidableEq

namespace Workspace

def bare (host : Host) (directory : String) : Workspace :=
  ⟨host, directory, [], .empty, .empty⟩

/-- The absolute path of a path seen from the directory. -/
def locate (workspace : Workspace) (path : String) : String :=
  Path.absolute workspace.directory path

/-- A file stands at an absolute path. -/
def isFile (workspace : Workspace) (path : String) : Bool :=
  workspace.programs.contains path || workspace.texts.contains path

/-- A directory stands at an absolute path: the working directory, one that was made, or one with any of these or a file
somewhere below it. -/
def isDirectory (workspace : Workspace) (path : String) : Bool :=
  (workspace.directory :: workspace.made).any (fun name => name == path || Path.isBelow path name) ||
    (workspace.programs.names ++ workspace.texts.names).any (Path.isBelow path)

/-- What stands at an absolute path. -/
def place (workspace : Workspace) (path : String) : Place :=
  if workspace.isFile path then .file
  else if workspace.isDirectory path then .directory
  else .vacant

/-- Put a program file at a path. -/
def putProgram (workspace : Workspace) (path : String) (file : ProgramFile) : Workspace :=
  { workspace with programs := workspace.programs.insert (workspace.locate path) file }

def putText (workspace : Workspace) (path text : String) : Workspace :=
  { workspace with texts := workspace.texts.insert (workspace.locate path) text }

def putDirectory (workspace : Workspace) (path : String) : Workspace :=
  { workspace with made := workspace.locate path :: workspace.made }

/-- Follow the components of a path down to its last one, through directories only. -/
def follow (workspace : Workspace) (above : String) : List String → Except Failure Unit
  | [] => .ok ()
  | name :: rest =>
    if Path.isLongName name then .error .nameTooLong
    else if rest.isEmpty then .ok ()
    else
      match workspace.place (above ++ name) with
      | .file => .error .notADirectory
      | .vacant => .error .fileMissing
      | .directory => workspace.follow (above ++ name ++ "/") rest

/-- What the file at an absolute path holds. -/
def content (workspace : Workspace) (path : String) : Except Failure Content := do
  if Path.hasNull path then throw .nullInPath
  if Path.isLong path then throw .nameTooLong
  workspace.follow (Path.root path) (Path.components path)
  match workspace.programs.get? path, workspace.texts.get? path with
  | some file, _ => return .program file
  | none, some text => return .text text
  | none, none => throw (if workspace.isDirectory path then .isADirectory else .fileMissing)

/-- Make the directories that lead down the components of a path. A file on the way ends this, and what was made stays.
While every component so far was there already, such a file is something that cannot be gone through; at the end of the
path, and behind a directory that had to be made, it takes the place of a directory to be made. -/
def makeDirectories (workspace : Workspace) (fresh : Bool) (above : String) :
    List String → Except Failure Unit × Workspace
  | [] => (.ok (), workspace)
  | name :: rest =>
    let path := workspace.locate (above ++ name)
    if Path.isLongName name then (.error .nameTooLong, workspace)
    else
      match workspace.place path with
      | .file => (.error (if fresh || rest.isEmpty then .fileExists else .notADirectory), workspace)
      | .directory => workspace.makeDirectories fresh (above ++ name ++ "/") rest
      | .vacant =>
        (workspace.putDirectory path).makeDirectories true (above ++ name ++ "/") rest

/-- Make a directory and those that lead down to it. -/
def makeDirectory (workspace : Workspace) (path : String) : Except Failure Unit × Workspace :=
  if Path.isLong (Path.build (Path.root path) (Path.components path)) then (.error .nameTooLong, workspace)
  else workspace.makeDirectories false (Path.root path) (Path.components path)

/-- Write a text into a directory that is there, unless a directory stands in its place. -/
def writeText (workspace : Workspace) (path text : String) : Except Failure Workspace :=
  if Path.isLong path || Path.isLongName (Path.baseName path) then .error .nameTooLong
  else if workspace.isDirectory (workspace.locate path) then .error .isADirectory
  else .ok (workspace.putText path text)

/-- The path of a stage's file, named after the program file. -/
def stagePath (outputDir file suffix : String) : String :=
  Path.child outputDir (Path.stem file ++ suffix)

/-- Write both sources of a program into a directory. A failure leaves what was written before it. -/
def writeSources (workspace : Workspace) (outputDir file : String) (sources : Sources) :
    Except Failure Log × Workspace :=
  let vertexPath := stagePath outputDir file ".vert"
  let fragmentPath := stagePath outputDir file ".frag"
  match workspace.makeDirectory outputDir with
  | (.error failure, ready) => (.error failure, ready)
  | (.ok _, ready) =>
    match ready.writeText vertexPath sources.vertex with
    | .error failure => (.error failure, ready)
    | .ok written =>
      match written.writeText fragmentPath sources.fragment with
      | .error failure => (.error failure, written)
      | .ok finished => (.ok [⟨.info, "Wrote " ++ vertexPath ++ " and " ++ fragmentPath⟩], finished)

end Workspace

end Shading
