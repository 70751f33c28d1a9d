import Shading.Workspace

/-!
# Loading program files

The name of a file says in which form it should hold a program: as a source, compiled, or as native code. Programs are
only ever found in sources; a file of another form is told apart from one that is missing by what is said about it.
-/

namespace Shading

/-- The forms in which a file can hold a program. -/
inductive ProgramForm where
  | source
  | compiled
  | native
deriving DecidableEq

namespace ProgramForm

/-- The form that the ending of a path promises. -/
def ofPath? (path : String) : Option ProgramForm :=
  if Text.endsWith path ".so" then some .native
  else if Text.endsWith path ".py" then some .source
  else if Text.endsWith path ".pyc" then some .compiled
  else none

end ProgramForm

/-- The bytes by which a compiled program is recognised. -/
def markLength : Nat := 4

/-- The bytes that the header of native code takes up. -/
def headerLength : Nat := 64

/-- The first bytes of a file. Those of a program are not known. -/
def Content.start : Content → List UInt8
  | .program _ => []
  | .text held => held.toUTF8.toList.take markLength

/-- What is wrong with a file that should be native code. -/
def Content.nativeFault : Content → String
  | .program _ => "invalid ELF header"
  | .text held => if held.utf8ByteSize < headerLength then "file too short" else "invalid ELF header"

/-- What is said about native code that cannot be read for a reason. -/
def Failure.nativeFault : Failure → String
  | .notADirectory => "cannot open shared object file: Not a directory"
  | .nameTooLong => "cannot open shared object file: File name too long"
  | .isADirectory => "cannot read file data: Is a directory"
  | _ => "cannot open shared object file: No such file or directory"

namespace Workspace

/-- What the source at an absolute path offers once it has been run, which may fail in any way. -/
def loadSource (workspace : Workspace) (path : String) : Except Failure Offer := do
  match ← workspace.content path with
  | .program (.builders offered) => return offered
  | .program (.broken failure) => throw failure
  | .text held => workspace.host.run held

/-- Why there is no compiled program at an absolute path. -/
def compiledFailure (workspace : Workspace) (path : String) : Failure :=
  match workspace.content path with
  | .error failure => failure
  | .ok content => .notCompiled (Path.nameBefore ".pyc" (Path.baseName path)) content.start

/-- Why there is no native code at an absolute path, which ends at its first null character. -/
def nativeFailure (workspace : Workspace) (path : String) : Failure :=
  let ended := String.ofList (path.toList.takeWhile (· ≠ '\x00'))
  match workspace.content ended with
  | .error failure => .notNative ended failure.nativeFault
  | .ok content => .notNative ended content.nativeFault

/-- What the program file at a path offers, whose name has to promise a program in some form. -/
def load (workspace : Workspace) (path : String) : Except Failure Offer :=
  let located := workspace.locate path
  match ProgramForm.ofPath? located with
  | none => .error (.notLoadable path)
  | some .source => workspace.loadSource located
  | some .compiled => .error (workspace.compiledFailure located)
  | some .native => .error (workspace.nativeFailure located)

end Workspace

end Shading
