import Shading.Calendar
import Shading.Generator
import Shading.Path

/-!
# Presenting a source

A finished source is shown as it is, with numbered lines, or under a header of comments that says what it was
generated from. None of this changes what the source means.
-/

namespace Shading

/-- The number of a line with the space after it, in a column of at least four characters. -/
def lineMark (index : Nat) : String :=
  Text.padLeft 4 (Nat.repr index ++ " ")

/-- The lines with their numbers, counted from `index`. -/
def numberFrom (index : Nat) : List String → List String
  | [] => []
  | line :: rest => (lineMark index ++ line) :: numberFrom (index + 1) rest

/-- The source with every line behind its number. -/
def numberLines (source : String) : String :=
  Text.unlines (numberFrom 0 (Text.lines source))

/-- Where a source comes from: the program file, the target, the stage and the moment of its generation. -/
structure Origin where
  file : String
  target : String
  stage : String
  time : Int

/-- The comments that say where a source comes from. -/
def Origin.comments (origin : Origin) : List String :=
  ["// Generated by shadergraph v0.1.0",
    "// Generation time: " ++ (Moment.ofSeconds origin.time).text,
    "// Program file: " ++ Path.baseName origin.file,
    "// Target: " ++ origin.target,
    "// Stage: " ++ origin.stage]

/-- The source with its header. A version directive has to stay the first line. -/
def addHeader (origin : Origin) (source : String) : String :=
  match Text.lines source with
  | first :: rest =>
    if Text.startsWith first "#version" then Text.unlines (first :: origin.comments ++ rest)
    else Text.unlines (origin.comments ++ first :: rest)
  | [] => Text.unlines origin.comments

/-- The source in a named format; an unknown one leaves it plain and is reported. -/
def presentSource (format : String) (origin : Origin) (source : String) : String × Log :=
  if format = "numbered" then (numberLines source, [])
  else if format = "commented" then (addHeader origin source, [])
  else if format = "plain" then (source, [])
  else (source, [⟨.warning, "Unknown format: " ++ format ++ ". Using plain."⟩])

/-- The target of a name in any case; an unknown one is reported and replaced. -/
def Target.ofName (name : String) : Target × Log :=
  match name.toLower with
  | "es300" => (.glslEs300, [])
  | "core330" => (.glslCore330, [])
  | _ =>
    (Target.fallback,
      [⟨.warning, "Unknown target: " ++ name ++ ". Using " ++ Enumeration.name Target.fallback ++ " as default."⟩])

end Shading
