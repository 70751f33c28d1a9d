import Shading.Proofs.Interface
import Shading.Proofs.Linking

/-!
# Variables that cross

What the fragment stage takes in, the vertex stage gives out. The lines that say so are rendered from two tables, one in
each document, and the link check compares names and types alone; that the lines agree as texts, and that no second line
gives the same variable out, rests on the names in both tables being distinct (`interface_agrees`).
-/

namespace Shading

open Glsl

/-- The lines of a source before its body. -/
def preambleLines (source : String) : List String :=
  (Text.lines source).takeWhile (fun line => line ≠ bodyHeader)

/-- The lines of a source from the header of its body on. -/
def bodyLines (source : String) : List String :=
  (Text.lines source).dropWhile (fun line => line ≠ bodyHeader)

/-- The lines before the body that declare something of the given sort. -/
def linesDeclaring (sort : Declaration → Bool) (source : String) : List String :=
  (preambleLines source).filter (fun line => (readDeclaration line).any sort)

namespace Glsl.Declaration

/-- The declaration takes a variable in from the other stage. -/
def takesIn : Declaration → Bool
  | .varying _ .input _ _ => true
  | _ => false

/-- The declaration gives a variable out. -/
def givesOut (variableName : String) : Declaration → Bool
  | .located _ .output _ name | .varying _ .output _ name => name = variableName
  | _ => false

end Glsl.Declaration

/-- The fragment source takes in the index of the instance and the inputs of its document, in order, and each of these
lines is answered by exactly one line of the vertex source that gives the variable out, which is the same line up to the
direction. Integers, and only they, cross flat; truth values and samplers do not cross. -/
structure InterfaceAgrees (fragment : FragmentShader) (sources : Sources) : Prop where
  inputs : linesDeclaring Declaration.takesIn sources.fragment =
    (.varying true .input "int" "iid" :: fragment.inputTypes.map (interfaceDeclaration .input)).map Declaration.text
  answered : ∀ line ∈ preambleLines sources.fragment, ∀ flat type name,
    readDeclaration line = some (.varying flat .input type name) →
      linesDeclaring (Declaration.givesOut name) sources.vertex = [(Declaration.varying flat .output type name).text] ∧
        (flat = true ↔ type = "int") ∧ type ≠ "bool" ∧ type ≠ "sampler2D"

private theorem eq_of_readLast {word name : String} (read : readLast word = some name) : word = name ++ ";" := by
  obtain ⟨chars, ended, rfl⟩ := Option.map_eq_some_iff.1 read
  unfold endedBy at ended
  split at ended
  · rename_i last
    cases ended
    have whole := List.dropLast_append_getLast? ';' last
    rw [← String.toList_inj]
    simpa using whole.symm
  · cases ended

private theorem eq_of_readSide {word : String} {side : Side} (read : readSide word = some side) :
    word = qualifier side := by
  unfold readSide at read
  split at read <;> cases read <;> rfl

private theorem words_of_readWords {words : List String} {flat : Bool} {side : Side} {type name : String}
    (read : readWords words = some (.varying flat side type name)) :
    words = (Declaration.varying flat side type name).words := by
  unfold readWords at read
  split at read <;> simp only [Option.bind_eq_bind, Option.bind_eq_some_iff, Option.pure_def, Option.some.injEq,
    Declaration.varying.injEq, reduceCtorEq, and_false, exists_false] at read
  · obtain ⟨found, sided, last, ended, rfl, rfl, rfl, rfl⟩ := read
    simp [Declaration.words, eq_of_readSide sided, eq_of_readLast ended]
  · obtain ⟨found, sided, last, ended, rfl, rfl, rfl, rfl⟩ := read
    simp [Declaration.words, eq_of_readSide sided, eq_of_readLast ended]

private theorem text_of_readDeclaration {line : String} {flat : Bool} {side : Side} {type name : String}
    (read : readDeclaration line = some (.varying flat side type name)) :
    line = (Declaration.varying flat side type name).text := by
  have words := words_of_readWords read
  rw [Declaration.text_eq, ← words]
  exact (Text.intercalate_split ' ' line).symm

private theorem filter_readDeclaration {sort : Declaration → Bool} {lines : List String}
    (crossing : ∀ declaration ∈ lines.filterMap readDeclaration, sort declaration = true →
      ∃ flat side type name, declaration = .varying flat side type name) :
    lines.filter (fun line => (readDeclaration line).any sort) =
      ((lines.filterMap readDeclaration).filter sort).map Declaration.text := by
  induction lines with
  | nil => rfl
  | cons line rest ih =>
    cases read : readDeclaration line with
    | none =>
      rw [List.filterMap_cons_none read] at crossing ⊢
      rw [List.filter_cons_of_neg (by simp [read]), ih crossing]
    | some declaration =>
      rw [List.filterMap_cons_some read] at crossing ⊢
      have others := ih (fun other member => crossing other (List.mem_cons_of_mem _ member))
      by_cases chosen : sort declaration = true
      · obtain ⟨flat, side, type, name, rfl⟩ := crossing declaration List.mem_cons_self chosen
        rw [List.filter_cons_of_pos (by simp [read, chosen]), List.filter_cons_of_pos chosen, others, List.map_cons,
          ← text_of_readDeclaration read]
      · rw [List.filter_cons_of_neg (by simp [read, chosen]), List.filter_cons_of_neg chosen, others]

private theorem interfaceName_ne_instanceName (name : String) : interfaceName name ≠ "iid" := by
  intro same
  have known := initials_interfaceName name
  rw [same] at known
  exact absurd known (by decide)

section

variable {vertex : VertexShader} {fragment : FragmentShader} {attributes : List Attribute}

private theorem filter_givesOut (variableName : String) :
    (vertex.preamble attributes).declarations.filter (Declaration.givesOut variableName) =
      (.varying true .output "int" "iid" :: vertex.outputTypes.map (interfaceDeclaration .output)).filter
        (Declaration.givesOut variableName) := by
  have uniforms : (vertex.resources.uniformsByIndex.map uniformDeclaration).filter
      (Declaration.givesOut variableName) = [] := by
    simp [uniformDeclaration, Declaration.givesOut]
  have bindings : (attributes.mapIdx attributeDeclaration).filter (Declaration.givesOut variableName) = [] := by
    apply List.filter_eq_nil_iff.2
    intro declaration member
    obtain ⟨index, _, rfl⟩ := List.mem_mapIdx.1 member
    simp [attributeDeclaration, Declaration.givesOut]
  have located : Declaration.givesOut variableName (.located attributes.length .input "mat4" "mMtx") = false := rfl
  simp only [Preamble.declarations, VertexShader.preamble, Preamble.tables, List.filter_append, List.cons_append,
    List.filter_cons, uniforms, bindings, located]
  simp [Declaration.givesOut]

private theorem filter_takesIn :
    fragment.preamble.declarations.filter Declaration.takesIn =
      .varying true .input "int" "iid" :: fragment.inputTypes.map (interfaceDeclaration .input) := by
  have uniforms : (fragment.resources.uniformsByIndex.map uniformDeclaration).filter Declaration.takesIn = [] := by
    simp [uniformDeclaration, Declaration.takesIn]
  have inputs : (fragment.inputTypes.map (interfaceDeclaration .input)).filter Declaration.takesIn =
      fragment.inputTypes.map (interfaceDeclaration .input) := by
    apply List.filter_eq_self.2
    intro declaration member
    obtain ⟨entry, _, rfl⟩ := List.mem_map.1 member
    rfl
  simp only [Preamble.declarations, FragmentShader.preamble, Preamble.tables, List.filter_append, List.cons_append,
    List.filter_cons, uniforms, inputs]
  simp [Declaration.takesIn]

private theorem crossing_of_givesOut {variableName : String} {declaration : Declaration}
    (member : declaration ∈ (vertex.preamble attributes).declarations)
    (out : declaration.givesOut variableName = true) :
    ∃ flat side type name, declaration = .varying flat side type name := by
  have kept := List.mem_filter.2 ⟨member, out⟩
  rw [filter_givesOut] at kept
  rcases List.mem_cons.1 (List.mem_filter.1 kept).1 with rfl | listed
  · exact ⟨_, _, _, _, rfl⟩
  · obtain ⟨entry, _, rfl⟩ := List.mem_map.1 listed
    exact ⟨_, _, _, _, rfl⟩

private theorem linesDeclaring_givesOut {source : String} (variableName : String)
    (declared : declarationsOf source = (vertex.preamble attributes).declarations) :
    linesDeclaring (Declaration.givesOut variableName) source =
      ((.varying true .output "int" "iid" :: vertex.outputTypes.map (interfaceDeclaration .output)).filter
        (Declaration.givesOut variableName)).map Declaration.text := by
  have read : (preambleLines source).filterMap readDeclaration = (vertex.preamble attributes).declarations := declared
  rw [linesDeclaring, filter_readDeclaration (fun declaration member => crossing_of_givesOut (read ▸ member)), read,
    filter_givesOut]

private theorem filter_interfaceDeclaration {entries : List (String × ShaderType)} {name : String} {type : ShaderType}
    (distinct : (entries.map Prod.fst).Nodup) (found : entries.lookup name = some type) :
    (entries.map (interfaceDeclaration .output)).filter (Declaration.givesOut (interfaceName name)) =
      [interfaceDeclaration .output (name, type)] := by
  have chosen : ∀ entry : String × ShaderType,
      (interfaceDeclaration .output entry).givesOut (interfaceName name) = true ↔ entry.1 = name := by
    intro entry
    simp only [interfaceDeclaration, Declaration.givesOut, decide_eq_true_eq]
    exact ⟨interfaceName_inj, fun same => by rw [same]⟩
  induction entries with
  | nil => cases found
  | cons first rest ih =>
    obtain ⟨other, held⟩ := first
    rw [List.map_cons, List.nodup_cons] at distinct
    rw [List.lookup_cons] at found
    by_cases same : other = name
    · subst same
      have here : held = type := by simpa using found
      have none : (rest.map (interfaceDeclaration .output)).filter (Declaration.givesOut (interfaceName other)) = [] := by
        apply List.filter_eq_nil_iff.2
        intro declaration member picked
        obtain ⟨entry, listed, rfl⟩ := List.mem_map.1 member
        exact distinct.1 (List.mem_map.2 ⟨entry, listed, (chosen entry).1 picked⟩)
      rw [List.map_cons, List.filter_cons_of_pos ((chosen _).2 rfl), none, here]
    · have differs : (name == other) = false := by simpa using Ne.symm same
      have later : rest.lookup name = some type := by simpa [differs] using found
      rw [List.map_cons, List.filter_cons_of_neg (fun picked => same ((chosen _).1 picked)), ih distinct.2 later]

private theorem FragmentShader.passable_inputs {preamble : Preamble} (found : fragmentPreamble fragment = .ok preamble)
    {entry : String × ShaderType} (member : entry ∈ fragment.inputTypes) : isPassable entry.2 = true := by
  unfold fragmentPreamble at found
  obtain ⟨_, _, found⟩ := bind_eq_ok found
  obtain ⟨_, _, found⟩ := bind_eq_ok found
  obtain ⟨_, read, _⟩ := bind_eq_ok found
  obtain ⟨declaration, _, declared⟩ := exists_of_forall₂ (forall₂_of_mapM read).flip member
  exact (varyingDeclaration_eq_ok rfl declared).1

private theorem wordOf_passable {type : ShaderType} (passable : isPassable type = true) :
    (decide (type = .int) = true ↔ wordOf type = "int") ∧ wordOf type ≠ "bool" ∧ wordOf type ≠ "sampler2D" := by
  cases type with
  | bool | sampler => exact absurd passable Bool.false_ne_true
  | _ => decide

end

private theorem readDeclaration_of_readLine {line : String} {instruction : Instruction}
    (read : readLine line = some instruction) : readDeclaration line = none := by
  unfold readLine at read
  split at read
  · rename_i rest chars
    have words : (Text.split ' ' line.toList).map String.ofList =
        "" :: "" :: "" :: "" :: (Text.split ' ' rest).map String.ofList := by
      simp [chars, Text.split]
    rw [readDeclaration, words, readWords]
    all_goals simp
  · cases read

namespace Generator

variable {generator : Generator} {ledger : Ledger} {stage : Option Stage}

private theorem filterMap_bodyLines (document : Document) {preamble : Preamble} {body : String}
    (sound : document.Sound True ledger) (plain : preamble.Plain)
    (rendered : ((generator.renew stage).body document).result = .ok body) :
    (bodyLines (assemble (preamble.lines generator.dialect) body).text).filterMap readDeclaration = [] := by
  obtain ⟨statements, instructions, written⟩ := exists_written sound plain rendered
  have lines := (plain.preliminary generator.dialect).dropWhile_lines body
  have main := written.main
  rw [mainOf, lines, List.tail_cons, List.dropLast_concat] at main
  rw [bodyLines, lines]
  apply List.filterMap_eq_nil_iff.2
  intro line member
  rcases List.mem_cons.1 member with rfl | inside
  · decide +kernel
  · rcases List.mem_append.1 inside with listed | last
    · obtain ⟨instruction, read⟩ := exists_readLine main listed
      exact readDeclaration_of_readLine read
    · obtain rfl := List.mem_singleton.1 last
      decide +kernel

end Generator

section

variable {vertex : VertexShader} {fragment : FragmentShader} {attributes : List Attribute} {sources : Sources}

private theorem interfaceAgrees_of_declared (formed : vertex.Formed)
    (linked : checkLink vertex fragment attributes = .ok ()) {preamble : Preamble}
    (found : fragmentPreamble fragment = .ok preamble)
    (vertexDeclared : declarationsOf sources.vertex = (vertex.preamble attributes).declarations)
    (fragmentDeclared : declarationsOf sources.fragment = fragment.preamble.declarations) :
    InterfaceAgrees fragment sources := by
  have read : (preambleLines sources.fragment).filterMap readDeclaration = fragment.preamble.declarations :=
    fragmentDeclared
  have varies : ∀ declaration : Declaration, declaration.takesIn = true →
      ∃ flat side type name, declaration = .varying flat side type name := by
    intro declaration taken
    unfold Declaration.takesIn at taken
    split at taken
    · exact ⟨_, _, _, _, rfl⟩
    · cases taken
  constructor
  · rw [linesDeclaring, filter_readDeclaration (fun declaration _ => varies declaration), read, filter_takesIn]
  · intro line member flat type name declares
    have among : Declaration.varying flat .input type name ∈ fragment.preamble.declarations.filter Declaration.takesIn := by
      rw [← read, List.mem_filter]
      exact ⟨List.mem_filterMap.2 ⟨line, member, declares⟩, rfl⟩
    rw [filter_takesIn] at among
    rw [linesDeclaring_givesOut name vertexDeclared]
    rcases List.mem_cons.1 among with instanceIndex | listed
    · cases instanceIndex
      have others : (vertex.outputTypes.map (interfaceDeclaration .output)).filter (Declaration.givesOut "iid") = [] := by
        apply List.filter_eq_nil_iff.2
        intro declaration output
        obtain ⟨entry, _, rfl⟩ := List.mem_map.1 output
        simp [interfaceDeclaration, Declaration.givesOut, interfaceName_ne_instanceName]
      rw [List.filter_cons_of_pos rfl, others]
      exact ⟨rfl, by decide⟩
    · obtain ⟨⟨asked, expected⟩, entered, same⟩ := List.mem_map.1 listed
      cases same
      have provided : vertex.outputTypes.lookup asked = some expected := by
        unfold checkLink at linked
        obtain ⟨_, inputs, _⟩ := bind_eq_ok linked
        exact checkInputs_eq_ok_iff.1 inputs _ entered
      have distinct : (vertex.outputTypes.map Prod.fst).Nodup := by
        have named : (vertex.outputs.entries.map Prod.fst).Nodup := formed.named
        simpa [VertexShader.outputTypes, Function.comp_def] using named
      have differs : Declaration.givesOut (interfaceName asked) (.varying true .output "int" "iid") = false := by
        simp [Declaration.givesOut, Ne.symm (interfaceName_ne_instanceName asked)]
      rw [List.filter_cons_of_neg (by simp [differs]), filter_interfaceDeclaration distinct provided]
      exact ⟨rfl, wordOf_passable (FragmentShader.passable_inputs found entered)⟩

end

namespace Script

/-- For any two documents of any script, any attributes and any generator that succeeds on them: every line of the
fragment source that takes a variable in is answered by exactly one line of the vertex source that gives it out, with the
same type and flat or not as that one. In a script of builders no line of a body declares anything either. -/
theorem interface_agrees (script : List Command) (vertexName fragmentName : String) (vertex : VertexShader)
    (fragment : FragmentShader) (attributes : List Attribute) (generator : Generator) (sources : Sources)
    (vertexHeld : (Session.start.after script).documents.get? vertexName = some (.vertex vertex))
    (fragmentHeld : (Session.start.after script).documents.get? fragmentName = some (.fragment fragment))
    (generated : (generator.generate vertex fragment attributes).result = .ok sources) :
    InterfaceAgrees fragment sources ∧ ((∀ command ∈ script, command.step.isBuilder = true) →
      ∀ source ∈ [sources.vertex, sources.fragment], (bodyLines source).filterMap readDeclaration = []) := by
  obtain ⟨linked, vertexDone, fragmentDone⟩ := Generator.generate_eq_ok generated
  obtain ⟨vertexFound, vertexBody, vertexPreamble, vertexRendered, _, vertexText⟩ := Generator.source_eq_ok vertexDone
  obtain ⟨fragmentFound, fragmentBody, fragmentPreamble, fragmentRendered, _, fragmentText⟩ :=
    Generator.source_eq_ok fragmentDone
  obtain ⟨_, rfl⟩ := vertexPreamble_eq_ok vertexPreamble
  obtain ⟨_, rfl⟩ := fragmentPreamble_eq_ok fragmentPreamble
  constructor
  · obtain ⟨ledger, sound⟩ := Session.sound_after none script
    have vertexSound : vertex.Sound False ledger := sound.document vertexHeld
    have fragmentSound : fragment.Sound False ledger := sound.document fragmentHeld
    apply interfaceAgrees_of_declared vertexSound.toFormed linked fragmentPreamble
    · rw [vertexText]
      exact (vertexSound.plain_preamble attributes).declarationsOf_assemble _ _
    · rw [fragmentText]
      exact fragmentSound.plain_preamble.declarationsOf_assemble _ _
  · intro builders source member
    obtain ⟨ledger, sound⟩ := Session.typed_after none builders
    have vertexSound : vertex.Sound True ledger := sound.document vertexHeld
    have fragmentSound : fragment.Sound True ledger := sound.document fragmentHeld
    simp only [List.mem_cons, List.not_mem_nil, or_false] at member
    rcases member with rfl | rfl
    · rw [vertexText]
      exact Generator.filterMap_bodyLines (.vertex vertex) vertexSound
        (vertexSound.plain_preamble attributes) vertexRendered
    · rw [fragmentText]
      exact Generator.filterMap_bodyLines (.fragment fragment) fragmentSound
        fragmentSound.plain_preamble fragmentRendered

/-- The vertex stage passes a color and the index of the instance on, which the fragment stage asks for in the other
order. -/
def numbered : List Command :=
  [⟨.vertexInput "v" .color 0, some "color"⟩, ⟨.setOutput "v" "tint" "color", none⟩, ⟨.instanceIndex "v", some "index"⟩,
    ⟨.setOutput "v" "number" "index", none⟩, ⟨.declareInput "f" "number" "Scalar" (some "INT"), none⟩,
    ⟨.declareInput "f" "tint" "Vec4" none, some "tint"⟩, ⟨.setColor "f" "tint", none⟩]

def numbered.vertex : VertexShader where
  resources := .empty
  position := none
  pointSize := none
  outputs := ⟨[("tint", .mk 0 .vec4 (.leaf (.vertexAttribute .color 0))), ("number", .mk 1 .int (.leaf .instanceIndex))]⟩

def numbered.fragment : FragmentShader where
  resources := .empty
  inputs := ⟨[("number", .mk 2 .int (.leaf (.input "number"))), ("tint", .mk 3 .vec4 (.leaf (.input "tint")))]⟩
  color := some (.mk 3 .vec4 (.leaf (.input "tint")))

open numbered in
/-- The sources are generated, and the integer crosses flat. -/
theorem interface_numbered : ∃ sources,
    ((Generator.ofDialect .es300).generate vertex fragment [⟨.color, 0⟩]).result = .ok sources ∧
      "flat in int io_number;" ∈ preambleLines sources.fragment ∧
      linesDeclaring (Declaration.givesOut "io_number") sources.vertex = ["flat out int io_number;"] ∧
      linesDeclaring (Declaration.givesOut "io_tint") sources.vertex = ["out vec4 io_tint;"] := by
  obtain ⟨sources, ran⟩ :
      ∃ sources, ((Generator.ofDialect .es300).generate vertex fragment [⟨.color, 0⟩]).result = .ok sources :=
    exists_ok_of_toOption (by decide +kernel)
  have agrees := (interface_agrees numbered "v" "f" vertex fragment [⟨.color, 0⟩] (.ofDialect .es300) sources (by rfl)
    (by rfl) ran).1
  have lines : linesDeclaring Declaration.takesIn sources.fragment =
      ["flat in int iid;", "flat in int io_number;", "in vec4 io_tint;"] :=
    agrees.inputs.trans (by decide +kernel)
  have listed : ∀ line ∈ linesDeclaring Declaration.takesIn sources.fragment, line ∈ preambleLines sources.fragment :=
    fun line member => (List.mem_filter.1 member).1
  have number := listed "flat in int io_number;" (by simp [lines])
  have tint := listed "in vec4 io_tint;" (by simp [lines])
  have givenNumber := (agrees.answered _ number true "int" "io_number" (by decide +kernel)).1
  have givenTint := (agrees.answered _ tint false "vec4" "io_tint" (by decide +kernel)).1
  exact ⟨sources, ran, number, givenNumber, givenTint⟩

end Script

end Shading
