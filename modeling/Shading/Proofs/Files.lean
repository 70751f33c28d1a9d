import Mathlib
import Shading.Execution
import Shading.Proofs.Lines
import Shading.Proofs.Table

/-!
# Files of a program

The two files of a program are named after it and stand in one directory. Their names differ in the last character,
which stays the last one of the paths wherever the directory is, so writing the second file leaves the first one alone
(`Workspace.writes_of_writeSources`).
-/

namespace Shading

private theorem Text.split_snoc {mark : Char} {piece : List Char} (free : mark ∉ piece) (front : List Char) :
    Text.split mark (front ++ mark :: piece) = Text.split mark front ++ [piece] := by
  rw [Text.split_append_mark, Text.split_of_free free]

namespace Path

/-- A path leads to an entry of a name: it is the name alone, or the name stands behind its last slash. -/
def LeadsTo (path name : String) : Prop :=
  path = name ∨ ∃ above, path = above ++ "/" ++ name

/-- A name that a path keeps: it has no slash, and does not stand for a directory. -/
structure Proper (name : String) : Prop where
  unslashed : '/' ∉ name.toList
  filled : name ≠ ""
  notHere : name ≠ "."
  notAbove : name ≠ ".."

theorem root_cases (path : String) : root path = "" ∨ ∃ above, root path = above ++ "/" := by
  unfold root
  split
  · exact .inr ⟨"", rfl⟩
  · exact .inr ⟨"/", rfl⟩
  · exact .inr ⟨"", rfl⟩
  · exact .inl rfl

/-- A path ends with the name that it leads to. -/
theorem LeadsTo.ends {path name : String} (leads : LeadsTo path name) : ∃ front, path = front ++ name := by
  rcases leads with rfl | ⟨above, rfl⟩
  · exact ⟨"", by simp⟩
  · exact ⟨above ++ "/", rfl⟩

private theorem leadsTo_build {start name : String} (starts : start = "" ∨ ∃ above, start = above ++ "/")
    (filled : name ≠ "") (names : List String) : LeadsTo (build start (names ++ [name])) name := by
  have leads : LeadsTo (start ++ "/".intercalate (names ++ [name])) name := by
    by_cases inside : names = []
    · rw [inside, List.nil_append, String.intercalate_singleton]
      rcases starts with rfl | ⟨above, rfl⟩
      · exact .inl (by simp)
      · exact .inr ⟨above, rfl⟩
    · refine .inr ⟨start ++ "/".intercalate names, ?_⟩
      rw [String.intercalate_append_of_ne_nil inside (by simp), String.intercalate_singleton]
      simp [String.append_assoc]
  have some : start ++ "/".intercalate (names ++ [name]) ≠ "" := by
    obtain ⟨front, ends⟩ := leads.ends
    simp [ends, filled]
  simpa [build, some] using leads

private theorem leadsTo_child (directory : String) {name : String} (filled : name ≠ "") :
    LeadsTo (child directory name) name :=
  leadsTo_build (root_cases directory) filled _

/-- A path seen from a directory leads to the same entry. -/
theorem LeadsTo.below {path name : String} (leads : LeadsTo path name) (directory : String) :
    LeadsTo (directory ++ "/" ++ path) name := by
  rcases leads with rfl | ⟨above, rfl⟩
  · exact .inr ⟨directory, rfl⟩
  · exact .inr ⟨directory ++ "/" ++ above, by simp [String.append_assoc]⟩

theorem LeadsTo.components {path name : String} (leads : LeadsTo path name) (proper : Proper name) :
    ∃ names, components path = names ++ [name] := by
  have last : ∃ names, pieces path = names ++ [name] := by
    rcases leads with rfl | ⟨above, rfl⟩
    · exact ⟨[], by simp [pieces, Text.split_of_free proper.unslashed]⟩
    · refine ⟨pieces above, ?_⟩
      simp [pieces, Text.split_snoc proper.unslashed]
  obtain ⟨names, same⟩ := last
  refine ⟨names.filter (fun piece => piece ≠ "" ∧ piece ≠ "."), ?_⟩
  rw [Path.components, same, List.filter_append]
  simp [proper.filled, proper.notHere]

private theorem collapse_append {name : String} (notAbove : name ≠ "..") (absolute : Bool) (kept names : List String) :
    ∃ left, collapse absolute kept (names ++ [name]) = left ++ [name] := by
  induction names generalizing kept with
  | nil => exact ⟨kept.reverse, by simp [collapse, notAbove]⟩
  | cons piece rest ih =>
    rw [List.cons_append, collapse.eq_def]
    -- whichever components are kept, the rest of the walk ends with the name
    show ∃ left, (if piece = ".." then _ else _) = left ++ [name]
    split
    · cases kept with
      | nil => cases absolute <;> exact ih _
      | cons last others =>
        show ∃ left, (if last = ".." then _ else _) = left ++ [name]
        split
        · exact ih _
        · exact ih _
    · exact ih _

/-- The normal form of a path leads to the same entry. -/
theorem LeadsTo.normalize {path name : String} (leads : LeadsTo path name) (proper : Proper name) :
    LeadsTo (normalize path) name := by
  obtain ⟨names, same⟩ := leads.components proper
  obtain ⟨left, collapsed⟩ := collapse_append proper.notAbove (isAbsolute path) [] names
  rw [Path.normalize, same, collapsed]
  exact leadsTo_build (root_cases path) proper.filled left

/-- And so does its normal form seen from a directory. -/
theorem LeadsTo.absolute {path name : String} (leads : LeadsTo path name) (proper : Proper name)
    (directory : String) : LeadsTo (absolute directory path) name := by
  unfold Path.absolute
  split
  · exact leads.normalize proper
  · exact (leads.below directory).normalize proper

private theorem not_mem_of_mem_pieces {path piece : String} (member : piece ∈ pieces path) : '/' ∉ piece.toList := by
  obtain ⟨chars, listed, rfl⟩ := List.mem_map.1 member
  rw [String.toList_ofList]
  exact Text.not_mem_of_mem_split listed

private theorem not_mem_stem (path : String) : '/' ∉ (stem path).toList := by
  have name : '/' ∉ ((components path).getLastD "").toList := by
    rw [List.getLastD_eq_getLast?]
    cases last : (components path).getLast? with
    | none => simp
    | some piece => exact not_mem_of_mem_pieces (List.mem_of_mem_filter (List.mem_of_getLast? last))
  unfold stem
  extract_lets chars suffix front
  split
  · rw [String.toList_ofList]
    exact name
  · rw [String.toList_ofList, List.mem_reverse]
    intro member
    exact name (List.mem_reverse.1 (List.mem_of_mem_drop member))

private theorem proper_stem (path : String) {ending : String} (unslashed : '/' ∉ ending.toList)
    (long : 2 < ending.length) :
    Proper (stem path ++ ending) := by
  have short : 2 < (stem path ++ ending).length := by
    rw [String.length_append]
    omega
  constructor
  · rw [String.toList_append, List.mem_append, not_or]
    exact ⟨not_mem_stem path, unslashed⟩
  · intro same
    simp [same] at short
  · intro same
    rw [same] at short
    exact absurd short (by decide)
  · intro same
    rw [same] at short
    exact absurd short (by decide)

end Path

namespace Workspace

private theorem ends_locate_stagePath (workspace : Workspace) (outputDir file : String) {suffix : String}
    (unslashed : '/' ∉ suffix.toList) (long : 2 < suffix.length) :
    ∃ front, workspace.locate (stagePath outputDir file suffix) = front ++ suffix := by
  have proper := Path.proper_stem file unslashed long
  have leads := (Path.leadsTo_child outputDir proper.filled).absolute proper workspace.directory
  obtain ⟨front, same⟩ := leads.ends
  exact ⟨front ++ Path.stem file, by rw [locate, stagePath, same, String.append_assoc]⟩

private theorem locate_stagePath_ne (workspace : Workspace) (outputDir file : String) :
    workspace.locate (stagePath outputDir file ".vert") ≠ workspace.locate (stagePath outputDir file ".frag") := by
  intro same
  obtain ⟨front, vertex⟩ :=
    workspace.ends_locate_stagePath outputDir file (show '/' ∉ ".vert".toList by decide) (by decide)
  obtain ⟨other, fragment⟩ :=
    workspace.ends_locate_stagePath outputDir file (show '/' ∉ ".frag".toList by decide) (by decide)
  have last := congrArg (fun path => path.toList.getLast?) (vertex.symm.trans (same.trans fragment))
  simp at last

/-- The text that stands at a path. -/
def textAt (workspace : Workspace) (path : String) : Option String :=
  workspace.texts.get? (workspace.locate path)

/-- The two files of a program hold its sources. -/
structure Holds (workspace : Workspace) (outputDir file : String) (sources : Sources) : Prop where
  vertex : workspace.textAt (stagePath outputDir file ".vert") = some sources.vertex
  fragment : workspace.textAt (stagePath outputDir file ".frag") = some sources.fragment

/-- Nothing but directories was made between two workspaces. -/
structure KeepsFiles (before after : Workspace) : Prop where
  directory : after.directory = before.directory
  programs : after.programs = before.programs
  texts : after.texts = before.texts

private theorem keepsFiles_makeDirectories (workspace : Workspace) (fresh : Bool) (above : String)
    (names : List String) :
    KeepsFiles workspace (workspace.makeDirectories fresh above names).2 := by
  fun_induction makeDirectories workspace fresh above names with
  | case1 workspace fresh above => exact ⟨rfl, rfl, rfl⟩
  | case2 workspace fresh above name rest long => exact ⟨rfl, rfl, rfl⟩
  | case3 workspace fresh above name rest path short here => exact ⟨rfl, rfl, rfl⟩
  | case4 workspace fresh above name rest path short here ih => exact ih
  | case5 workspace fresh above name rest path short here ih => exact ⟨ih.directory, ih.programs, ih.texts⟩

private theorem keepsFiles_makeDirectory (workspace : Workspace) (path : String) :
    KeepsFiles workspace (workspace.makeDirectory path).2 := by
  unfold makeDirectory
  split
  · exact ⟨rfl, rfl, rfl⟩
  · exact keepsFiles_makeDirectories workspace false _ _

@[simp]
theorem locate_putText (workspace : Workspace) (path text other : String) :
    (workspace.putText path text).locate other = workspace.locate other := rfl

@[simp]
theorem get?_putText (workspace : Workspace) (path text other : String) :
    (workspace.putText path text).texts.get? other =
      if other = workspace.locate path then some text else workspace.texts.get? other :=
  Table.get?_insert _ _ _ _

private theorem eq_putText {workspace next : Workspace} {path text : String}
    (written : workspace.writeText path text = .ok next) : next = workspace.putText path text := by
  unfold writeText at written
  split at written
  · cases written
  · split at written
    · cases written
    · exact (Except.ok.inj written).symm

/-- The sources of a program were written between two workspaces, and nothing else but directories was made. -/
structure Writes (before after : Workspace) (outputDir file : String) (sources : Sources) : Prop where
  directory : after.directory = before.directory
  programs : after.programs = before.programs
  holds : after.Holds outputDir file sources
  others : ∀ path, path ≠ before.locate (stagePath outputDir file ".vert") →
    path ≠ before.locate (stagePath outputDir file ".frag") → after.texts.get? path = before.texts.get? path

/-- Writing that succeeds leaves both sources of a program, and touches no other file. -/
theorem writes_of_writeSources {workspace next : Workspace} {outputDir file : String} {sources : Sources} {log : Log}
    (written : workspace.writeSources outputDir file sources = (.ok log, next)) :
    Writes workspace next outputDir file sources := by
  have kept := workspace.keepsFiles_makeDirectory outputDir
  unfold writeSources at written
  extract_lets vertexPath fragmentPath at written
  split at written
  · cases written
  · rename_i ready made
    replace kept : KeepsFiles workspace ready := by simpa [made] using kept
    split at written
    · cases written
    · rename_i first writtenVertex
      split at written
      · cases written
      · rename_i last writtenFragment
        cases written
        obtain rfl := eq_putText writtenVertex
        obtain rfl := eq_putText writtenFragment
        have differ := ready.locate_stagePath_ne outputDir file
        have located (path : String) : workspace.locate path = ready.locate path := by
          rw [locate, locate, kept.directory]
        refine ⟨kept.directory, kept.programs, ⟨?_, ?_⟩, ?_⟩
        · simp [textAt, vertexPath, fragmentPath, differ]
        · simp [textAt, fragmentPath]
        · intro path otherVertex otherFragment
          rw [located] at otherVertex otherFragment
          simp [vertexPath, fragmentPath, otherVertex, otherFragment, kept.texts]

end Workspace

end Shading
