import Shading.Text.Lines

/-!
# Paths

File paths with slashes: cutting into components, the last component and its stem, joining, and the normal form,
which no longer has empty, `.` or avoidable `..` components.
-/

namespace Shading.Path

/-- The pieces of a path between its slashes. -/
def pieces (path : String) : List String :=
  (Text.split '/' path.toList).map String.ofList

/-- The components of a path, without the empty ones and `.`. -/
def components (path : String) : List String :=
  (pieces path).filter (fun piece => piece ≠ "" ∧ piece ≠ ".")

/-- A path that starts at the root. -/
def isAbsolute (path : String) : Bool :=
  path.toList.head? == some '/'

/-- The slashes that an absolute path keeps: exactly two stay two, any other number becomes one. -/
def root (path : String) : String :=
  match path.toList with
  | '/' :: '/' :: '/' :: _ => "/"
  | '/' :: '/' :: _ => "//"
  | '/' :: _ => "/"
  | _ => ""

/-- A path from its root and its components; the empty one is written `.`. -/
def build (root : String) (components : List String) : String :=
  let text := root ++ "/".intercalate components
  if text = "" then "." else text

/-- What stands behind the last slash. -/
def baseName (path : String) : String :=
  (pieces path).getLastD ""

/-- The last component without its last suffix; a leading dot and a final dot begin no suffix. -/
def stem (path : String) : String :=
  let name := ((components path).getLastD "").toList
  let suffix := name.reverse.takeWhile (· ≠ '.')
  let front := (name.reverse.drop (suffix.length + 1)).reverse
  if front.isEmpty ∨ suffix.isEmpty then String.ofList name else String.ofList front

/-- A name without an ending, unless there are only dots before it. -/
def nameBefore (ending name : String) : String :=
  let front := name.toList.take (name.length - ending.length)
  if front.all (· == '.') then name else String.ofList front

/-- The path of an entry of a directory. -/
def child (directory name : String) : String :=
  build (root directory) (components directory ++ [name])

/-- The bytes that a single name may take up. -/
def nameLimit : Nat := 255

/-- The bytes that a whole path may take up. -/
def pathLimit : Nat := 4095

/-- A name that no file can have because of its length. -/
def isLongName (name : String) : Bool :=
  nameLimit < name.utf8ByteSize

/-- A path that cannot be followed because of its own length. -/
def isLong (path : String) : Bool :=
  pathLimit < path.utf8ByteSize

/-- A path with a null character in it, which can name nothing. -/
def hasNull (path : String) : Bool :=
  path.toList.contains '\x00'

/-- The components left when every `..` takes back the component before it; at the root there is none to take. -/
def collapse (absolute : Bool) : List String → List String → List String
  | kept, [] => kept.reverse
  | kept, piece :: rest =>
    if piece = ".." then
      match kept with
      | [] => if absolute then collapse absolute [] rest else collapse absolute [piece] rest
      | last :: others =>
        if last = ".." then collapse absolute (piece :: kept) rest else collapse absolute others rest
    else collapse absolute (piece :: kept) rest

def normalize (path : String) : String :=
  build (root path) (collapse (isAbsolute path) [] (components path))

/-- The normal form of a path seen from a directory. -/
def absolute (directory path : String) : String :=
  if isAbsolute path then normalize path else normalize (directory ++ "/" ++ path)

/-- A path in normal form leads into a directory, at whatever depth. -/
def isBelow (directory path : String) : Bool :=
  Text.startsWith path (if Text.endsWith directory "/" then directory else directory ++ "/") && path != directory

/-- The directory that holds a path in normal form. -/
def parent (path : String) : String :=
  build (root path) (components path).dropLast

end Shading.Path
