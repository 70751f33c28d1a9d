import Mathlib
import Shading.Presentation
import Shading.Proofs.Sources

/-!
# What presenting a source keeps

Numbered lines can be read back: how much of a line is its number follows from where the line stands
(`numberLines_invertible`). A header is made of comments, which can be taken out again, as long as the name of the program
file stays on one line. Nothing keeps a line feed out of that name, and what stands behind one is no comment, since a
name has no slash in it (`header_removable_iff`).
-/

namespace Shading

open Glsl

private theorem length_toDigits (index : Nat) : (Nat.toDigits 10 index).length = Nat.log 10 index + 1 := by
  have some := Nat.length_toDigits_pos (b := 10) (n := index)
  apply Nat.le_antisymm
  · exact (Nat.length_toDigits_le_iff (by decide) (Nat.succ_pos _)).2 (Nat.lt_pow_succ_log_self (by decide) index)
  · have fits := (Nat.length_toDigits_le_iff (b := 10) (by decide) some).1 (Nat.le_refl _)
    exact Nat.log_lt_of_lt_pow' (by omega) fits

/-- How many characters of a line are its number, the space after it and the padding before it. -/
def markWidth (index : Nat) : Nat :=
  max 4 (Nat.log 10 index + 1 + 1)

/-- The lines without their numbers, which are counted from `index`. -/
def unnumberFrom (index : Nat) : List String → List String
  | [] => []
  | line :: rest => String.ofList (line.toList.drop (markWidth index)) :: unnumberFrom (index + 1) rest

/-- A text without the numbers of its lines. -/
def unnumberLines (text : String) : String :=
  Text.unlines (unnumberFrom 0 (Text.lines text))

private theorem toList_lineMark (index : Nat) : (lineMark index).toList =
    List.replicate (4 - (Nat.log 10 index + 1 + 1)) ' ' ++ Nat.toDigits 10 index ++ [' '] := by
  have length : (Nat.repr index ++ " ").length = Nat.log 10 index + 1 + 1 := by
    rw [String.length_append, ← String.length_toList, Nat.toList_repr, length_toDigits]
    rfl
  simp [lineMark, Text.padLeft, length]

private theorem length_lineMark (index : Nat) : (lineMark index).toList.length = markWidth index := by
  rw [toList_lineMark, List.length_append, List.length_append, List.length_replicate, length_toDigits, markWidth]
  simp only [List.length_cons, List.length_nil]
  omega

private theorem free_lineMark (index : Nat) : '\n' ∉ (lineMark index).toList := by
  have digits : '\n' ∉ Nat.toDigits 10 index := fun member =>
    absurd (Nat.isDigit_of_mem_toDigits (by decide) (by decide) member) (by decide)
  simp [toList_lineMark, digits]

private theorem free_numberFrom {index : Nat} {lines : List String} (free : ∀ line ∈ lines, '\n' ∉ line.toList) :
    ∀ line ∈ numberFrom index lines, '\n' ∉ line.toList := by
  induction lines generalizing index with
  | nil => exact fun line member => absurd member List.not_mem_nil
  | cons line rest ih =>
    rw [numberFrom, List.forall_mem_cons]
    rw [List.forall_mem_cons] at free
    exact ⟨by simp [free_lineMark, free.1], ih free.2⟩

private theorem getElem?_numberFrom (index position : Nat) (lines : List String) :
    (numberFrom index lines)[position]? = lines[position]?.map (fun line => lineMark (index + position) ++ line) := by
  induction lines generalizing index position with
  | nil => rfl
  | cons line rest ih =>
    cases position with
    | zero => rfl
    | succ position => simp [numberFrom, ih, Nat.add_right_comm, Nat.add_assoc]

private theorem length_numberFrom (index : Nat) (lines : List String) :
    (numberFrom index lines).length = lines.length := by
  induction lines generalizing index with
  | nil => rfl
  | cons line rest ih => rw [numberFrom, List.length_cons, List.length_cons, ih]

private theorem unnumberFrom_numberFrom (index : Nat) (lines : List String) :
    unnumberFrom index (numberFrom index lines) = lines := by
  induction lines generalizing index with
  | nil => rfl
  | cons line rest ih =>
    rw [numberFrom, unnumberFrom, ih, String.toList_append, ← length_lineMark, List.drop_left, String.ofList_toList]

private theorem lines_numberLines (source : String) : Text.lines (numberLines source) = numberFrom 0 (Text.lines source)
    := by
  refine Text.lines_unlines (free_numberFrom (fun _ => Text.free_of_mem_lines)) ?_
  rw [← List.length_pos_iff, length_numberFrom, List.length_pos_iff]
  exact Text.lines_ne_nil source

/-- For every source: numbering keeps the number of lines; each line stands behind the decimal numeral of its position and
one space, padded with spaces on the left to four characters or to as many as there are; and the source is read back from
the numbered text alone. So no two sources look the same when they are numbered. -/
theorem numberLines_invertible :
    (∀ source, (Text.lines (numberLines source)).length = (Text.lines source).length ∧
      (∀ index line, (Text.lines source)[index]? = some line →
        ∃ padding, (Text.lines (numberLines source))[index]? =
            some (String.ofList (List.replicate padding ' ') ++ Nat.repr index ++ " " ++ line) ∧
          padding + (Nat.repr index).length + 1 = markWidth index ∧
          markWidth index = max 4 ((Nat.repr index).length + 1)) ∧
      unnumberLines (numberLines source) = source) ∧ Function.Injective numberLines := by
  have inverse : Function.LeftInverse unnumberLines numberLines := by
    intro source
    rw [unnumberLines, lines_numberLines, unnumberFrom_numberFrom, Text.unlines_lines]
  refine ⟨fun source => ⟨?_, ?_, inverse source⟩, inverse.injective⟩
  · rw [lines_numberLines, length_numberFrom]
  · intro index line found
    have digits : (Nat.repr index).length = Nat.log 10 index + 1 := by
      rw [← String.length_toList, Nat.toList_repr, length_toDigits]
    refine ⟨4 - (Nat.log 10 index + 1 + 1), ?_, by rw [markWidth]; omega, by rw [markWidth, digits]⟩
    rw [lines_numberLines, getElem?_numberFrom, found, Option.map_some, Nat.zero_add, Option.some.injEq,
      ← String.toList_inj]
    simp [toList_lineMark]

/-- A line that a compiler passes over. -/
def isComment (line : String) : Bool :=
  Text.startsWith line "//"

/-- No line of the text is a comment. -/
def Uncommented (text : String) : Prop :=
  ∀ line ∈ Text.lines text, isComment line = false

instance (text : String) : Decidable (Uncommented text) :=
  inferInstanceAs (Decidable (∀ line ∈ Text.lines text, isComment line = false))

/-- The text without the lines that are comments. -/
def withoutComments (text : String) : String :=
  Text.unlines ((Text.lines text).filter (fun line => !isComment line))

private theorem isComment_iff {line : String} : isComment line = true ↔ ['/', '/'] <+: line.toList := by
  rw [isComment, Text.startsWith, List.isPrefixOf_iff_prefix]
  rfl

private theorem isComment_append (start rest : String) (comment : isComment start = true) : isComment (start ++ rest)
    = true := by
  rw [isComment_iff] at comment ⊢
  rw [String.toList_append]
  exact comment.trans (List.prefix_append _ _)

private theorem isComment_eq_false {line : String} (other : '/' ∉ line.toList.head?) : isComment line = false := by
  rw [← Bool.not_eq_true, isComment_iff]
  rintro ⟨rest, same⟩
  exact other (by rw [← same]; rfl)

def Origin.header (origin : Origin) : List String :=
  origin.comments.flatMap Text.lines

private theorem lines_addHeader (origin : Origin) (source : String) : ∃ before after,
    Text.lines source = before ++ after ∧ Text.lines (addHeader origin source) = before ++ origin.header ++ after ∧
      (before = [] → ∀ first ∈ (Text.lines source).head?, Text.startsWith first "#version" = false) := by
  have free : ∀ line ∈ Text.lines source, '\n' ∉ line.toList := fun _ => Text.free_of_mem_lines
  rw [addHeader]
  cases lines : Text.lines source with
  | nil => exact absurd lines (Text.lines_ne_nil source)
  | cons first rest =>
    rw [lines, List.forall_mem_cons] at free
    by_cases version : Text.startsWith first "#version" = true
    · refine ⟨[first], rest, rfl, ?_, by simp⟩
      simp only [version, if_true]
      rw [Text.lines_unlines_flatMap (by simp), List.flatMap_append, List.flatMap_cons, Text.lines_of_free free.1,
        Text.flatMap_lines free.2, Origin.header]
    · refine ⟨[], first :: rest, rfl, ?_, by simpa using version⟩
      simp only [version]
      rw [if_neg Bool.false_ne_true, Text.lines_unlines_flatMap (by simp), List.flatMap_append,
        Text.flatMap_lines (List.forall_mem_cons.2 free), Origin.header, List.nil_append]

private theorem free_digits (width : Nat) (n : Int) : '\n' ∉ (Moment.digits width n).toList := by
  have digits : '\n' ∉ (Int.repr n).toList := fun member => absurd (numeric_intRepr n _ member) (by decide)
  simp [Moment.digits, digits]

private theorem free_momentText (moment : Moment) : '\n' ∉ moment.text.toList := by
  simp [Moment.text, free_digits]

private theorem Path.unslashed_baseName (path : String) : '/' ∉ (Path.baseName path).toList := by
  have some : Path.pieces path ≠ [] := by simpa [Path.pieces] using Text.split_ne_nil '/' path.toList
  have last : Path.baseName path ∈ Path.pieces path := by
    rw [Path.baseName, List.getLastD_eq_getLast?, List.getLast?_eq_some_getLast some]
    exact List.getLast_mem some
  obtain ⟨piece, split, same⟩ := List.mem_map.1 last
  rw [← same, String.toList_ofList]
  exact Text.not_mem_of_mem_split split

private theorem header_eq {origin : Origin} (target : '\n' ∉ origin.target.toList) (stage : '\n' ∉ origin.stage.toList)
    {line : String} {others : List String} (lines : Text.lines (Path.baseName origin.file) = line :: others) :
    origin.header = ["// Generated by shadergraph v0.1.0",
      "// Generation time: " ++ (Moment.ofSeconds origin.time).text, "// Program file: " ++ line] ++ others ++
      ["// Target: " ++ origin.target, "// Stage: " ++ origin.stage] := by
  have time := free_momentText (Moment.ofSeconds origin.time)
  rw [Origin.header, Origin.comments]
  simp only [List.flatMap_cons, List.flatMap_nil]
  rw [Text.lines_of_free (by decide), Text.lines_of_free (by simp [time]), Text.lines_append_of_free (by decide) lines,
    Text.lines_of_free (by simp [target]), Text.lines_of_free (by simp [stage])]
  simp

private theorem filter_header {origin : Origin} (target : '\n' ∉ origin.target.toList)
    (stage : '\n' ∉ origin.stage.toList) :
    origin.header.filter (fun line => !isComment line) = (Text.lines (Path.baseName origin.file)).tail := by
  obtain ⟨line, others, lines⟩ := List.exists_cons_of_ne_nil (Text.lines_ne_nil (Path.baseName origin.file))
  have unslashed : ∀ other ∈ others, isComment other = false := by
    intro other member
    refine isComment_eq_false (fun slash => Path.unslashed_baseName origin.file ?_)
    exact Text.mem_of_mem_lines (lines ▸ List.mem_cons_of_mem _ member) (List.mem_of_mem_head? slash)
  have kept : others.filter (fun line => !isComment line) = others := List.filter_eq_self.2 (by simpa using unslashed)
  have first : isComment "// Generated by shadergraph v0.1.0" = true := by decide
  have time := isComment_append "// Generation time: " (Moment.ofSeconds origin.time).text (by decide)
  have file := isComment_append "// Program file: " line (by decide)
  have forTarget := isComment_append "// Target: " origin.target (by decide)
  have forStage := isComment_append "// Stage: " origin.stage (by decide)
  rw [header_eq target stage lines, lines, List.filter_append, List.filter_append, kept]
  simp [first, time, file, forTarget, forStage]

private theorem withoutComments_addHeader {origin : Origin} {source : String} (uncommented : Uncommented source)
    (target : '\n' ∉ origin.target.toList) (stage : '\n' ∉ origin.stage.toList) {before after : List String}
    (lines : Text.lines source = before ++ after)
    (headed : Text.lines (addHeader origin source) = before ++ origin.header ++ after) :
    withoutComments (addHeader origin source) =
      Text.unlines (before ++ (Text.lines (Path.baseName origin.file)).tail ++ after) := by
  have kept : ∀ part : List String, (∀ line ∈ part, line ∈ Text.lines source) →
      part.filter (fun line => !isComment line) = part := by
    intro part listed
    exact List.filter_eq_self.2 (fun line member => by simp [uncommented line (listed line member)])
  rw [withoutComments, headed, List.filter_append, List.filter_append, filter_header target stage,
    kept before (by simp +contextual [lines]), kept after (by simp +contextual [lines])]

theorem Glsl.Declaration.head_text (declaration : Declaration) : '/' ∉ declaration.text.toList.head? := by
  rw [declaration.text_eq, String.toList_intercalate]
  cases declaration with
  | uniform type name => simp [words, List.intercalate_cons_cons]
  | located location side type name => simp [words, List.intercalate_cons_cons]
  | varying flat side type name =>
    cases flat <;> cases side <;> simp [words, qualifier, List.intercalate_cons_cons]

private theorem head_of_readLine {line : String} {instruction : Instruction} (read : readLine line = some instruction) :
    line.toList.head? = some ' ' := by
  unfold readLine at read
  split at read
  · rename_i chars
    rw [chars]
    rfl
  · exact absurd read (by simp)

private theorem uncommented_assemble {preamble : Preamble} (plain : preamble.Plain) (dialect : Dialect) {body : String}
    {instructions : List Instruction} (read : readBody body = some instructions) :
    Uncommented (assemble (preamble.lines dialect) body).text := by
  have fixed : ∀ line ∈ headerLines dialect ++ materialLines ++ [textureLine, ""] ++ [bodyHeader, "\x7d"],
      isComment line = false := by
    cases dialect <;> decide +kernel
  have pushed : ∀ line ∈ (Listing.empty.pushAll (preamble.lines dialect)).lines, isComment line = false := by
    intro line member
    rcases Listing.mem_lines_pushAll rfl member with old | new | rfl
    · exact absurd old List.not_mem_nil
    · rcases Preamble.mem_lines new with ⟨declaration, _, rfl⟩ | given
      · exact isComment_eq_false declaration.head_text
      · exact fixed line (List.mem_append_left _ given)
    · exact fixed "" (by simp)
  have inside : ∀ line ∈ (if body = "" then [] else Text.lines body), isComment line = false := by
    intro line member
    rw [readBody] at read
    split at member
    · exact absurd member List.not_mem_nil
    · rename_i filled
      rw [if_neg filled] at read
      obtain ⟨instruction, found⟩ := exists_readLine read member
      exact isComment_eq_false (by simp [head_of_readLine found])
  intro line member
  rw [(plain.preliminary dialect).lines_text] at member
  simp only [List.mem_append, List.mem_cons, List.not_mem_nil, or_false] at member
  rcases member with before | rfl | within | rfl
  · exact pushed line before
  · exact fixed bodyHeader (by simp)
  · exact inside line within
  · exact fixed _ (by simp)

namespace Generator

variable {generator : Generator} {ledger : Ledger} {stage : Option Stage} {text : String}

private theorem uncommented_vertexSource {vertex : VertexShader} {attributes : List Attribute}
    (sound : vertex.Sound True ledger)
    (done : ((generator.renew stage).vertexSource vertex attributes).result = .ok text) : Uncommented text := by
  obtain ⟨preamble, body, found, rendered, _, rfl⟩ := source_eq_ok done
  obtain ⟨_, rfl⟩ := vertexPreamble_eq_ok found
  obtain ⟨_, _, written⟩ := exists_rendered (show (Document.vertex vertex).Sound True ledger from sound) rendered
  exact uncommented_assemble (sound.plain_preamble attributes) _ written.read

private theorem uncommented_fragmentSource {fragment : FragmentShader} (sound : fragment.Sound True ledger)
    (done : ((generator.renew stage).fragmentSource fragment).result = .ok text) : Uncommented text := by
  obtain ⟨preamble, body, found, rendered, _, rfl⟩ := source_eq_ok done
  obtain ⟨_, rfl⟩ := fragmentPreamble_eq_ok found
  obtain ⟨_, _, written⟩ := exists_rendered (show (Document.fragment fragment).Sound True ledger from sound) rendered
  exact uncommented_assemble sound.plain_preamble _ written.read

end Generator

private theorem header_comments_iff {origin : Origin} (target : '\n' ∉ origin.target.toList)
    (stage : '\n' ∉ origin.stage.toList) :
    (∀ line ∈ origin.header, isComment line = true) ↔ '\n' ∉ (Path.baseName origin.file).toList := by
  rw [← Text.tail_lines_eq_nil, ← filter_header target stage, List.filter_eq_nil_iff]
  simp

private theorem withoutComments_eq_iff {origin : Origin} {source : String} (uncommented : Uncommented source)
    (target : '\n' ∉ origin.target.toList) (stage : '\n' ∉ origin.stage.toList) :
    withoutComments (addHeader origin source) = source ↔ '\n' ∉ (Path.baseName origin.file).toList := by
  obtain ⟨before, after, lines, headed, _⟩ := lines_addHeader origin source
  rw [withoutComments_addHeader uncommented target stage lines headed, ← Text.tail_lines_eq_nil]
  constructor
  · intro same
    have free : ∀ line ∈ before ++ (Text.lines (Path.baseName origin.file)).tail ++ after, '\n' ∉ line.toList := by
      intro line member
      rw [List.append_assoc, List.mem_append, List.mem_append] at member
      rcases member with first | name | last
      · exact Text.free_of_mem_lines (lines ▸ List.mem_append_left _ first)
      · exact Text.free_of_mem_lines (List.mem_of_mem_tail name)
      · exact Text.free_of_mem_lines (lines ▸ List.mem_append_right _ last)
    have some : before ++ (Text.lines (Path.baseName origin.file)).tail ++ after ≠ [] := by
      have filled := lines ▸ Text.lines_ne_nil source
      simp only [ne_eq, List.append_eq_nil_iff, not_and] at filled ⊢
      exact fun first => filled first.1
    -- both sides have the same lines, so there is no room for those of the name
    have counted := congrArg List.length (Text.lines_unlines free some)
    rw [same, lines] at counted
    simp only [List.length_append] at counted
    exact List.length_eq_zero_iff.1 (by omega)
  · intro single
    rw [single, List.append_nil, ← lines, Text.unlines_lines]

private theorem head?_addHeader (origin : Origin) {source first : String} (head : first ∈ (Text.lines source).head?)
    (version : Text.startsWith first "#version" = true) : (Text.lines (addHeader origin source)).head? = some first := by
  obtain ⟨before, after, lines, headed, ahead⟩ := lines_addHeader origin source
  cases before with
  | nil => exact absurd (version.symm.trans (ahead rfl first head)) (by decide)
  | cons line rest =>
    rw [lines] at head
    rw [headed]
    exact head

namespace Script

/-- For every source without comments, any program file and time, and any target and stage without a line feed in their
names: what is added are the lines of the header, and a version directive stays the first line. The lines of the header
are comments, and without comments the source is as it was before, exactly if there is no line feed in the name of the
program file. The sources that are generated from documents of a script of builders have no comments. -/
theorem header_removable_iff (origin : Origin) (target : '\n' ∉ origin.target.toList)
    (stage : '\n' ∉ origin.stage.toList) :
    (∀ source, Uncommented source →
      (∃ before after, Text.lines source = before ++ after ∧
        Text.lines (addHeader origin source) = before ++ origin.header ++ after) ∧
      ((∀ line ∈ origin.header, isComment line = true) ↔ '\n' ∉ (Path.baseName origin.file).toList) ∧
      (withoutComments (addHeader origin source) = source ↔ '\n' ∉ (Path.baseName origin.file).toList) ∧
      ∀ first ∈ (Text.lines source).head?, Text.startsWith first "#version" = true →
        (Text.lines (addHeader origin source)).head? = some first) ∧
    ∀ (script : List Command) (vertexName fragmentName : String) (vertex : VertexShader) (fragment : FragmentShader)
        (attributes : List Attribute) (generator : Generator) (sources : Sources),
      (∀ command ∈ script, command.step.isBuilder = true) →
      (Session.start.after script).documents.get? vertexName = some (.vertex vertex) →
      (Session.start.after script).documents.get? fragmentName = some (.fragment fragment) →
      (generator.generate vertex fragment attributes).result = .ok sources →
      Uncommented sources.vertex ∧ Uncommented sources.fragment := by
  constructor
  · intro source uncommented
    obtain ⟨before, after, lines, headed, _⟩ := lines_addHeader origin source
    exact ⟨⟨before, after, lines, headed⟩, header_comments_iff target stage,
      withoutComments_eq_iff uncommented target stage, fun _ head version => head?_addHeader origin head version⟩
  · intro script vertexName fragmentName vertex fragment attributes generator sources builders vertexHeld fragmentHeld
      generated
    obtain ⟨ledger, sound⟩ := Session.typed_after none builders
    obtain ⟨_, vertexDone, fragmentDone⟩ := Generator.generate_eq_ok generated
    exact ⟨Generator.uncommented_vertexSource (sound.document vertexHeld) vertexDone,
      Generator.uncommented_fragmentSource (sound.document fragmentHeld) fragmentDone⟩

/-- A program file whose name goes on behind a line feed. -/
def twoLines : Origin := ⟨"programs/quad\nextra.py", "GLSL_ES300", "vertex", 0⟩

/-- The second line of the name becomes a line of the source. -/
theorem header_twoLines :
    twoLines.header.filter (fun line => !isComment line) = ["extra.py"] ∧
      withoutComments (addHeader twoLines "#version 300 es\nvoid main();") ≠ "#version 300 es\nvoid main();" ∧
      withoutComments (addHeader { twoLines with file := "programs/quad.py" } "#version 300 es\nvoid main();") =
        "#version 300 es\nvoid main();" := by
  have removable (origin : Origin) (target : '\n' ∉ origin.target.toList) (stage : '\n' ∉ origin.stage.toList) :=
    ((header_removable_iff origin target stage).1 "#version 300 es\nvoid main();" (by decide +kernel)).2.2.1
  refine ⟨?_, ?_, ?_⟩
  · rw [filter_header (by decide) (by decide)]
    decide +kernel
  · exact fun same => (removable twoLines (by decide) (by decide)).1 same (by decide +kernel)
  · exact (removable { twoLines with file := "programs/quad.py" } (by decide) (by decide)).2 (by decide +kernel)

end Script

end Shading
