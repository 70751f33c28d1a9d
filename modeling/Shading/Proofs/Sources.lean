import Shading.Proofs.Meaning

/-!
# Reading sources

A generated source can be taken apart again: the lines before its body into the declarations of the preamble, and the
body into the instructions of its statements (`Generator.exists_written`).
-/

namespace Shading

open Glsl

/-- The line that the body of a source begins with. -/
def bodyHeader : String := "void main() \x7b"

/-- The lines of a source are those before the body, its header, the body and a closing bracket. -/
theorem lines_assemble (lines : List String) (body : String) :
    (assemble lines body).lines = (Listing.empty.pushAll lines).lines ++
      bodyHeader :: ((if body = "" then [] else Text.lines body) ++ ["\x7d"]) := by
  obtain ⟨written, pushed⟩ := Listing.empty.pushAll_eq lines
  have closed : ∀ others, ((Listing.mk "    " 1 others).leave).lines = others.reverse ++ ["\x7d"] := by
    intro others
    simp [Listing.leave, Listing.push, Listing.lines, show Listing.margin ⟨"    ", 0, others⟩ = "" from rfl]
  have assembled : assemble lines body =
      (Listing.mk "    " 1 ((if body = "" then [] else (Text.lines body).reverse) ++ bodyHeader :: written)).leave := by
    unfold assemble
    rw [pushed]
    by_cases empty : body = ""
    · simp only [empty, if_true]
      rfl
    · simp only [empty, if_false]
      rfl
  rw [assembled, closed, pushed]
  by_cases empty : body = "" <;> simp [empty, Listing.lines]

/-- Lines that can stand before a body. -/
structure Preliminary (lines : List String) : Prop where
  free : ∀ line ∈ lines, '\n' ∉ line.toList
  before : ∀ line ∈ lines, line ≠ bodyHeader

section

variable {lines : List String} (preliminary : Preliminary lines)

include preliminary

theorem Preliminary.pushed : Preliminary (Listing.empty.pushAll lines).lines := by
  have pushed : ∀ line ∈ (Listing.empty.pushAll lines).lines, line ∈ lines ∨ line = "" := by
    intro line member
    rcases Listing.mem_lines_pushAll rfl member with old | kept
    · exact nomatch old
    · exact kept
  constructor
  · intro line member
    rcases pushed line member with given | rfl
    · exact preliminary.free line given
    · decide
  · intro line member
    rcases pushed line member with given | rfl
    · exact preliminary.before line given
    · decide

/-- The lines of a source come back from its text. -/
theorem Preliminary.lines_text (body : String) :
    Text.lines (assemble lines body).text = (Listing.empty.pushAll lines).lines ++
      bodyHeader :: ((if body = "" then [] else Text.lines body) ++ ["\x7d"]) := by
  rw [← lines_assemble]
  refine Text.lines_unlines ?_ (by simp [lines_assemble])
  rw [lines_assemble]
  intro line member
  rcases List.mem_append.1 member with above | below
  · exact preliminary.pushed.free line above
  · rcases List.mem_cons.1 below with rfl | inside
    · decide
    · rcases List.mem_append.1 inside with written | last
      · split at written
        · exact nomatch written
        · exact Text.free_of_mem_lines written
      · obtain rfl := List.mem_singleton.1 last
        decide

private theorem Preliminary.takeWhile_lines (body : String) :
    (Text.lines (assemble lines body).text).takeWhile (fun line => line ≠ bodyHeader) =
      (Listing.empty.pushAll lines).lines := by
  rw [preliminary.lines_text, List.takeWhile_append_of_pos (by simpa using preliminary.pushed.before)]
  simp

/-- The lines from the body on can be read from a source. -/
theorem Preliminary.dropWhile_lines (body : String) :
    (Text.lines (assemble lines body).text).dropWhile (fun line => line ≠ bodyHeader) =
      bodyHeader :: ((if body = "" then [] else Text.lines body) ++ ["\x7d"]) := by
  rw [preliminary.lines_text, List.dropWhile_append_of_pos (by simpa using preliminary.pushed.before)]
  simp

end

namespace Glsl.Declaration

/-- The words of a declaration are whole. -/
def Plain : Declaration → Prop
  | .uniform type name | .located _ _ type name | .varying _ _ type name => Whole type ∧ Whole name

/-- The variable that is declared. -/
def name : Declaration → String
  | .uniform _ name | .located _ _ _ name | .varying _ _ _ name => name

/-- The word for the type of the variable. -/
def type : Declaration → String
  | .uniform type _ | .located _ _ type _ | .varying _ _ type _ => type

/-- The words that the text of a declaration consists of. -/
def words : Declaration → List String
  | .uniform type name => ["uniform", type, name ++ ";"]
  | .located location side type name =>
    ["layout(location", "=", Nat.repr location ++ ")", qualifier side, type, name ++ ";"]
  | .varying flat side type name => (if flat then ["flat"] else []) ++ [qualifier side, type, name ++ ";"]

private theorem plain_iff {declaration : Declaration} :
    declaration.Plain ↔ Whole declaration.type ∧ Whole declaration.name := by
  cases declaration <;> rfl

private theorem intercalate_cons (first second : String) (rest : List String) :
    " ".intercalate (first :: second :: rest) = first ++ (" " ++ " ".intercalate (second :: rest)) := by
  rw [← String.toList_inj]
  simp [String.toList_intercalate]

/-- The text of a declaration is its words between blanks. -/
theorem text_eq (declaration : Declaration) : declaration.text = " ".intercalate declaration.words := by
  -- The texts are given as they are: the equations of the match on them are slow to prove.
  cases declaration with
  | uniform type name =>
    have text : (uniform type name).text = "uniform" ++ " " ++ type ++ " " ++ name ++ ";" := rfl
    simp only [text, words, intercalate_cons, String.intercalate_singleton, String.append_assoc]
  | located location side type name =>
    have text : (located location side type name).text = "layout(location = " ++ Nat.repr location ++ ") " ++
      qualifier side ++ " " ++ type ++ " " ++ name ++ ";" := rfl
    have opening : "layout(location = " = "layout(location" ++ " " ++ "=" ++ " " := by decide +kernel
    have closing : ") " = ")" ++ " " := by decide
    rw [text, opening, closing]
    simp only [words, intercalate_cons, String.intercalate_singleton, String.append_assoc]
  | varying flat side type name =>
    cases flat with
    | true =>
      have text : (varying true side type name).text =
        "flat" ++ " " ++ qualifier side ++ " " ++ type ++ " " ++ name ++ ";" := rfl
      simp only [text, words, if_true, List.cons_append, List.nil_append, intercalate_cons,
        String.intercalate_singleton, String.append_assoc]
    | false =>
      have text : (varying false side type name).text =
        "" ++ qualifier side ++ " " ++ type ++ " " ++ name ++ ";" := rfl
      simp only [text, words, Bool.false_eq_true, if_false, List.nil_append, intercalate_cons,
        String.intercalate_singleton, String.empty_append, String.append_assoc]

private theorem Plain.free_words {declaration : Declaration} (plain : declaration.Plain) {mark : Char}
    (divides : mark = ' ' ∨ mark = '\n') : ∀ word ∈ declaration.words, mark ∉ word.toList := by
  obtain ⟨typeWhole, nameWhole⟩ := plain_iff.1 plain
  have divider : mark ∈ dividers := by rcases divides with rfl | rfl <;> decide
  have named : mark ∉ (declaration.name ++ ";").toList := by
    rcases divides with rfl | rfl <;> simp [nameWhole _ divider]
  have side : ∀ side, mark ∉ (qualifier side).toList := by
    rcases divides with rfl | rfl <;> intro side <;> cases side <;> decide
  have number : ∀ location, mark ∉ (Nat.repr location ++ ")").toList := by
    intro location
    have digits := (numeric_natRepr location).whole mark divider
    rcases divides with rfl | rfl <;> simpa using digits
  have fixed : ∀ word ∈ ["uniform", "layout(location", "=", "flat"], mark ∉ word.toList := by
    rcases divides with rfl | rfl <;> decide +kernel
  intro word member
  cases declaration with
  | uniform type name =>
    simp only [words, List.mem_cons, List.not_mem_nil, or_false] at member
    rcases member with rfl | rfl | rfl
    · exact fixed _ (by simp)
    · exact typeWhole _ divider
    · exact named
  | located location side' type name =>
    simp only [words, List.mem_cons, List.not_mem_nil, or_false] at member
    rcases member with rfl | rfl | rfl | rfl | rfl | rfl
    · exact fixed _ (by simp)
    · exact fixed _ (by simp)
    · exact number location
    · exact side side'
    · exact typeWhole _ divider
    · exact named
  | varying flat side' type name =>
    simp only [words, List.mem_append, List.mem_cons, List.not_mem_nil, or_false] at member
    rcases member with first | rfl | rfl | rfl
    · split at first
      · obtain rfl := List.mem_singleton.1 first
        exact fixed _ (by simp)
      · exact absurd first List.not_mem_nil
    · exact side side'
    · exact typeWhole _ divider
    · exact named

private theorem words_ne_nil (declaration : Declaration) : declaration.words ≠ [] := by
  cases declaration with
  | varying flat => cases flat <;> simp [words]
  | _ => simp [words]

private theorem Plain.split_text {declaration : Declaration} (plain : declaration.Plain) :
    (Text.split ' ' declaration.text.toList).map String.ofList = declaration.words := by
  have pieces : Text.split ' ' declaration.text.toList = declaration.words.map String.toList := by
    rw [text_eq, String.toList_intercalate]
    refine Text.split_intercalate ?_ (by simp [words_ne_nil])
    intro piece member
    obtain ⟨word, listed, rfl⟩ := List.mem_map.1 member
    exact plain.free_words (.inl rfl) word listed
  rw [pieces, List.map_map]
  simp [Function.comp_def]

theorem Plain.free {declaration : Declaration} (plain : declaration.Plain) : '\n' ∉ declaration.text.toList := by
  rw [text_eq, String.toList_intercalate]
  refine not_mem_intercalate (by decide) (fun piece member => ?_)
  obtain ⟨word, listed, rfl⟩ := List.mem_map.1 member
  exact plain.free_words (.inr rfl) word listed

private theorem text_ne_bodyHeader (declaration : Declaration) : declaration.text ≠ bodyHeader := by
  have ends : ∀ start : String, start ++ ";" ≠ bodyHeader := by
    intro start same
    have last := congrArg (fun text => text.toList.getLast?) same
    simp [bodyHeader] at last
  cases declaration <;> exact ends _

end Glsl.Declaration

/-- The side that a word stands for. -/
def readSide : String → Option Side
  | "in" => some .input
  | "out" => some .output
  | _ => none

/-- The number that digits stand for. -/
def readNumber (digits : List Char) : Option Nat :=
  if digits ≠ [] ∧ digits.all Char.isDigit then some (Nat.ofDigitChars 10 digits 0) else none

/-- The word before a semicolon. -/
def readLast (word : String) : Option String :=
  (endedBy ';' word.toList).map String.ofList

/-- The declaration that words stand for. -/
def readWords : List String → Option Declaration
  | ["uniform", type, last] => do return .uniform type (← readLast last)
  | ["flat", side, type, last] => do return .varying true (← readSide side) type (← readLast last)
  | ["layout(location", "=", number, side, type, last] => do
    let location ← readNumber (← endedBy ')' number.toList)
    return .located location (← readSide side) type (← readLast last)
  | [side, type, last] => do return .varying false (← readSide side) type (← readLast last)
  | _ => none

def readDeclaration (line : String) : Option Declaration :=
  readWords ((Text.split ' ' line.toList).map String.ofList)

/-- The declarations of a source, all of which stand before its body. -/
def declarationsOf (source : String) : List Declaration :=
  ((Text.lines source).takeWhile (fun line => line ≠ bodyHeader)).filterMap readDeclaration

private theorem readSide_qualifier (side : Side) : readSide (qualifier side) = some side := by
  cases side <;> rfl

theorem readNumber_toDigits (number : Nat) : readNumber (Nat.toDigits 10 number) = some number := by
  have digits : (Nat.toDigits 10 number).all Char.isDigit = true :=
    List.all_eq_true.2 (fun c member => Nat.isDigit_of_mem_toDigits (by decide) (by decide) member)
  rw [readNumber, if_pos ⟨Nat.toDigits_ne_nil, digits⟩, Nat.ofDigitChars_ten_toDigits]

private theorem readLast_append (word : String) : readLast (word ++ ";") = some word := by
  rw [readLast, String.toList_append, show (";" : String).toList = [';'] from rfl, endedBy_append]
  simp

private theorem readWords_words (declaration : Declaration) : readWords declaration.words = some declaration := by
  cases declaration with
  | uniform type name => simp [Declaration.words, readWords, readLast_append]
  | located location side type name =>
    have number : (Nat.repr location ++ ")").toList = Nat.toDigits 10 location ++ [')'] := by
      rw [String.toList_append, Nat.toList_repr]
      rfl
    simp [Declaration.words, readWords, readLast_append, readSide_qualifier, number, endedBy_append,
      readNumber_toDigits]
  | varying flat side type name =>
    cases flat with
    | true => simp [Declaration.words, readWords, readLast_append, readSide_qualifier]
    | false => cases side <;> simp [Declaration.words, readWords, readLast_append, readSide, qualifier]

private theorem readDeclaration_text {declaration : Declaration} (plain : declaration.Plain) :
    readDeclaration declaration.text = some declaration := by
  rw [readDeclaration, plain.split_text, readWords_words]

/-- A line of the definition of a structure. -/
inductive StructureLine where
  | opens (name : String)
  | field (type name : String)
  | closes
deriving DecidableEq

/-- The line of a structure that words stand for; fields are indented. -/
def readStructureWords : List String → Option StructureLine
  | ["struct", name, "\x7b"] => some (.opens name)
  | ["", "", "", "", type, last] => do return .field type (← readLast last)
  | ["\x7d;"] => some .closes
  | _ => none

/-- The line of a structure that a line is. -/
def readStructureLine (line : String) : Option StructureLine :=
  readStructureWords ((Text.split ' ' line.toList).map String.ofList)

/-- The name of a field and the word for its type. -/
def StructureLine.field? : StructureLine → Option (String × String)
  | .field type name => some (name, type)
  | _ => none

/-- The fields of a structure that is defined before the body of a source. -/
def fieldsOf (source name : String) : List (String × String) :=
  let lines := ((Text.lines source).takeWhile (fun line => line ≠ bodyHeader)).filterMap readStructureLine
  ((lines.dropWhile (fun line => line ≠ .opens name)).tail.takeWhile (fun line => line ≠ .closes)).filterMap
    StructureLine.field?

private theorem readStructureLine_text {declaration : Declaration} (plain : declaration.Plain) :
    readStructureLine declaration.text = none := by
  rw [readStructureLine, plain.split_text]
  cases declaration with
  | uniform | located => simp [Declaration.words, readStructureWords]
  | varying flat side => cases flat <;> cases side <;> simp [Declaration.words, readStructureWords, qualifier]

namespace Glsl.Preamble

variable {preamble : Preamble}

/-- The tables that follow the variables of a preamble. -/
def tables (preamble : Preamble) : List Declaration :=
  .uniform "Material" "materials[16]" ::
    if preamble.hasTextures then [.uniform "sampler2D" "materialTextures[16]"] else []

/-- All that a preamble declares. -/
def declarations (preamble : Preamble) : List Declaration :=
  preamble.uniforms ++ preamble.interface ++ preamble.tables

/-- The words of what a preamble declares are whole. -/
def Plain (preamble : Preamble) : Prop :=
  ∀ declaration ∈ preamble.uniforms ++ preamble.interface, declaration.Plain

theorem mem_lines {dialect : Dialect} {line : String} (member : line ∈ preamble.lines dialect) :
    (∃ declaration ∈ preamble.uniforms ++ preamble.interface, line = declaration.text) ∨
      line ∈ headerLines dialect ++ materialLines ++ [textureLine, ""] := by
  simp only [lines, List.mem_append, List.mem_map, List.mem_singleton] at member ⊢
  rcases member with ((((((header | ⟨declaration, listed, rfl⟩) | blank) | ⟨declaration, listed, rfl⟩) | blank) |
    material) | texture) | blank
  · exact .inr (.inl (.inl header))
  · exact .inl ⟨declaration, .inl listed, rfl⟩
  · exact .inr (.inr (by simp [blank]))
  · exact .inl ⟨declaration, .inr listed, rfl⟩
  · exact .inr (.inr (by simp [blank]))
  · exact .inr (.inl (.inr material))
  · refine .inr (.inr ?_)
    split at texture
    · simp [List.mem_singleton.1 texture]
    · exact nomatch texture
  · exact .inr (.inr (by simp [blank]))

theorem Plain.preliminary (plain : preamble.Plain) (dialect : Dialect) : Preliminary (preamble.lines dialect) := by
  have fixed : ∀ line ∈ headerLines dialect ++ materialLines ++ [textureLine, ""],
      '\n' ∉ line.toList ∧ line ≠ bodyHeader := by
    cases dialect <;> decide +kernel
  constructor
  · intro line member
    rcases mem_lines member with ⟨declaration, listed, rfl⟩ | other
    · exact (plain declaration listed).free
    · exact (fixed line other).1
  · intro line member
    rcases mem_lines member with ⟨declaration, listed, rfl⟩ | other
    · exact declaration.text_ne_bodyHeader
    · exact (fixed line other).2

private theorem filterMap_readDeclaration {declarations : List Declaration}
    (plain : ∀ declaration ∈ declarations, declaration.Plain) :
    (declarations.map Declaration.text).filterMap readDeclaration = declarations := by
  rw [List.filterMap_map]
  have read : ∀ declaration ∈ declarations, (readDeclaration ∘ Declaration.text) declaration = some declaration :=
    fun declaration member => readDeclaration_text (plain declaration member)
  rw [List.filterMap_congr read, List.filterMap_some]

/-- A source declares what its preamble does. -/
theorem Plain.declarationsOf_assemble (plain : preamble.Plain) (dialect : Dialect) (body : String) :
    declarationsOf (assemble (preamble.lines dialect) body).text = preamble.declarations := by
  have header : (headerLines dialect).filterMap readDeclaration = [] := by cases dialect <;> decide +kernel
  have blank : [""].filterMap readDeclaration = [] := by decide +kernel
  have material : materialLines.filterMap readDeclaration = [.uniform "Material" "materials[16]"] := by decide +kernel
  have texture : (if preamble.hasTextures then [textureLine] else []).filterMap readDeclaration =
      if preamble.hasTextures then [.uniform "sampler2D" "materialTextures[16]"] else [] := by
    cases preamble.hasTextures <;> decide +kernel
  have uniforms := filterMap_readDeclaration (fun declaration member => plain declaration (List.mem_append_left _ member))
  have interface :=
    filterMap_readDeclaration (fun declaration member => plain declaration (List.mem_append_right _ member))
  rw [declarationsOf, (plain.preliminary dialect).takeWhile_lines, Listing.filterMap_pushAll rfl (by decide +kernel)]
  simp only [lines, List.filterMap_append, header, blank, uniforms, interface, material, texture]
  simp [Listing.lines, Listing.empty, declarations, tables]

private theorem filterMap_readStructureLine {declarations : List Declaration}
    (plain : ∀ declaration ∈ declarations, declaration.Plain) :
    (declarations.map Declaration.text).filterMap readStructureLine = [] := by
  refine List.filterMap_eq_nil_iff.2 (fun line member => ?_)
  obtain ⟨declaration, listed, rfl⟩ := List.mem_map.1 member
  exact readStructureLine_text (plain declaration listed)

private theorem Plain.fieldsOf_assemble (plain : preamble.Plain) (dialect : Dialect) (body : String) :
    fieldsOf (assemble (preamble.lines dialect) body).text "Material" =
      [("offset", "vec2"), ("scale", "vec2"), ("color", "vec4")] := by
  have header : (headerLines dialect).filterMap readStructureLine = [] := by cases dialect <;> decide +kernel
  have blank : [""].filterMap readStructureLine = [] := by decide +kernel
  have material : materialLines.filterMap readStructureLine =
      [.opens "Material", .field "vec2" "offset", .field "vec2" "scale", .field "vec4" "color", .closes] := by
    decide +kernel
  have texture : (if preamble.hasTextures then [textureLine] else []).filterMap readStructureLine = [] := by
    cases preamble.hasTextures <;> decide +kernel
  have uniforms :=
    filterMap_readStructureLine (fun declaration member => plain declaration (List.mem_append_left _ member))
  have interface :=
    filterMap_readStructureLine (fun declaration member => plain declaration (List.mem_append_right _ member))
  rw [fieldsOf, (plain.preliminary dialect).takeWhile_lines, Listing.filterMap_pushAll rfl (by decide +kernel)]
  simp only [lines, List.filterMap_append, header, blank, uniforms, interface, material, texture]
  simp [Listing.lines, Listing.empty, StructureLine.field?]

end Glsl.Preamble

/-- The instructions of the body of a source. -/
def mainOf (source : String) : Option (List Instruction) :=
  ((Text.lines source).dropWhile (fun line => line ≠ bodyHeader)).tail.dropLast.mapM readLine

private theorem Preliminary.mainOf_assemble {lines : List String} (preliminary : Preliminary lines) (body : String) :
    mainOf (assemble lines body).text = readBody body := by
  rw [mainOf, preliminary.dropWhile_lines, List.tail_cons, List.dropLast_concat, readBody]
  split
  · rfl
  · rfl

namespace Glsl

/-- The word for a type that has one. -/
def wordOf (type : ShaderType) : String :=
  (spelling type).toOption.getD ""

def uniformDeclaration (value : Value) : Declaration :=
  .uniform (wordOf value.type) (uniformName value.uniformIndex)

def attributeDeclaration (location : Nat) (binding : Attribute) : Declaration :=
  .located location .input (wordOf binding.type) (attributeName binding.slot binding.stream)

def interfaceDeclaration (side : Side) (entry : String × ShaderType) : Declaration :=
  .varying (decide (entry.2 = .int)) side (wordOf entry.2) (interfaceName entry.1)

theorem eq_wordOf {type : ShaderType} {word : String} (spelled : spelling type = .ok word) : word = wordOf type := by
  rw [wordOf, spelled]
  rfl

theorem spelling_eq_wordOf {type : ShaderType} (proper : type ≠ .operation) : spelling type = .ok (wordOf type) := by
  cases type with
  | operation => exact absurd rfl proper
  | _ => rfl

private theorem whole_wordOf (type : ShaderType) : Whole (wordOf type) := by
  cases type <;> decide

private theorem eq_map_of_mapM {α β : Type} {run : α → Except Error β} {result : α → β} {entries : List α}
    {results : List β} (known : ∀ entry found, run entry = .ok found → found = result entry)
    (done : entries.mapM run = .ok results) :
    results = entries.map result := by
  have pairs := forall₂_of_mapM done
  clear done
  induction pairs with
  | nil => rfl
  | cons ran _ ih => rw [List.map_cons, known _ _ ran, ih]

private theorem uniformDeclarations_eq_ok {resources : Resources} {declarations : List Declaration}
    (done : uniformDeclarations resources = .ok declarations) :
    (∀ value ∈ resources.uniformsByIndex, spelling value.type = .ok (wordOf value.type)) ∧
      declarations = resources.uniformsByIndex.map uniformDeclaration := by
  constructor
  · intro value member
    obtain ⟨_, _, declared⟩ := exists_of_forall₂ (forall₂_of_mapM done).flip member
    obtain ⟨type, spelled, _⟩ := bind_eq_ok declared
    exact eq_wordOf (liftViolation_eq_ok spelled) ▸ liftViolation_eq_ok spelled
  · refine eq_map_of_mapM (fun value declaration declared => ?_) done
    obtain ⟨type, spelled, declared⟩ := bind_eq_ok declared
    cases declared
    rw [uniformDeclaration, eq_wordOf (liftViolation_eq_ok spelled)]

private theorem attributeDeclarations_eq_ok {location : Nat} {attributes : List Attribute}
    {declarations : List Declaration} (done : attributeDeclarations location attributes = .ok declarations) :
    declarations = attributes.mapIdx (fun index => attributeDeclaration (location + index)) := by
  induction attributes generalizing location declarations with
  | nil =>
    cases done
    rfl
  | cons binding rest ih =>
    obtain ⟨type, spelled, done⟩ := bind_eq_ok done
    obtain ⟨name, named, done⟩ := bind_eq_ok done
    obtain ⟨others, ran, done⟩ := bind_eq_ok done
    cases done
    obtain ⟨_, rfl⟩ := leafName_attribute_eq_ok.1 named
    rw [List.mapIdx_cons, ih ran, eq_wordOf (liftViolation_eq_ok spelled)]
    simp [attributeDeclaration, Nat.add_comm, Nat.add_left_comm]

theorem varyingDeclaration_eq_ok {side : Side} {leaf : Leaf} {type : ShaderType} {name : String}
    {declaration : Declaration} (named : leafName leaf = .ok name)
    (done : varyingDeclaration side leaf type = .ok declaration) :
    isPassable type = true ∧ declaration = .varying (decide (type = .int)) side (wordOf type) name := by
  unfold varyingDeclaration at done
  split at done
  · rename_i passable
    obtain ⟨word, spelled, done⟩ := bind_eq_ok done
    rw [named] at done
    cases done
    exact ⟨passable, by rw [eq_wordOf (liftViolation_eq_ok spelled)]⟩
  · exact nomatch done

end Glsl

/-- What the source of a vertex stage declares. -/
def VertexShader.preamble (vertex : VertexShader) (attributes : List Attribute) : Preamble where
  uniforms := .uniform "mat4" "vMtx" :: .uniform "mat4" "pMtx" :: vertex.resources.uniformsByIndex.map uniformDeclaration
  interface := attributes.mapIdx attributeDeclaration ++ .located attributes.length .input "mat4" "mMtx" ::
    .varying true .output "int" "iid" :: vertex.outputTypes.map (interfaceDeclaration .output)
  hasTextures := false

/-- What the source of a fragment stage declares. -/
def FragmentShader.preamble (fragment : FragmentShader) : Preamble where
  uniforms := fragment.resources.uniformsByIndex.map uniformDeclaration
  interface := .varying true .input "int" "iid" :: fragment.inputTypes.map (interfaceDeclaration .input) ++
    [.located 0 .output "vec4" "fClr"]
  hasTextures := true

theorem vertexPreamble_eq_ok {vertex : VertexShader} {attributes : List Attribute} {preamble : Preamble}
    (done : vertexPreamble vertex attributes = .ok preamble) :
    (∀ value ∈ vertex.resources.uniformsByIndex, spelling value.type = .ok (wordOf value.type)) ∧
      preamble = vertex.preamble attributes := by
  unfold vertexPreamble at done
  obtain ⟨uniforms, own, done⟩ := bind_eq_ok done
  obtain ⟨inputs, attached, done⟩ := bind_eq_ok done
  obtain ⟨instanceOutput, passed, done⟩ := bind_eq_ok done
  obtain ⟨outputs, written, done⟩ := bind_eq_ok done
  cases done
  have attributes := attributeDeclarations_eq_ok attached
  have named : outputs = vertex.outputTypes.map (interfaceDeclaration .output) :=
    eq_map_of_mapM (fun entry declaration declared => (varyingDeclaration_eq_ok rfl declared).2) written
  simp only [Nat.zero_add] at attributes
  refine ⟨(uniformDeclarations_eq_ok own).1, ?_⟩
  rw [(uniformDeclarations_eq_ok own).2, attributes, (varyingDeclaration_eq_ok rfl passed).2, named]
  rfl

theorem fragmentPreamble_eq_ok {fragment : FragmentShader} {preamble : Preamble}
    (done : fragmentPreamble fragment = .ok preamble) :
    (∀ value ∈ fragment.resources.uniformsByIndex, spelling value.type = .ok (wordOf value.type)) ∧
      preamble = fragment.preamble := by
  unfold fragmentPreamble at done
  obtain ⟨uniforms, own, done⟩ := bind_eq_ok done
  obtain ⟨instanceInput, passed, done⟩ := bind_eq_ok done
  obtain ⟨inputs, read, done⟩ := bind_eq_ok done
  cases done
  have named : inputs = fragment.inputTypes.map (interfaceDeclaration .input) :=
    eq_map_of_mapM (fun entry declaration declared => (varyingDeclaration_eq_ok rfl declared).2) read
  refine ⟨(uniformDeclarations_eq_ok own).1, ?_⟩
  rw [(uniformDeclarations_eq_ok own).2, (varyingDeclaration_eq_ok rfl passed).2, named]
  rfl

private theorem plain_uniformDeclaration (value : Value) : (uniformDeclaration value).Plain :=
  ⟨whole_wordOf value.type, (atomic_uniformName value.uniformIndex).whole⟩

private theorem plain_interfaceDeclaration {side : Side} {entry : String × ShaderType}
    (accepted : isInterfaceName entry.1 = true) : (interfaceDeclaration side entry).Plain :=
  ⟨whole_wordOf entry.2, (atomic_interfaceName accepted).whole⟩

theorem VertexShader.Formed.plain_preamble {vertex : VertexShader} (formed : vertex.Formed)
    (attributes : List Attribute) : (vertex.preamble attributes).Plain := by
  have outputs : ∀ entry ∈ vertex.outputTypes, (interfaceDeclaration .output entry).Plain := by
    intro entry member
    obtain ⟨held, listed, rfl⟩ := List.mem_map.1 member
    exact plain_interfaceDeclaration (formed.accepted held listed)
  intro declaration member
  simp only [VertexShader.preamble, List.mem_append, List.mem_cons, List.mem_map, List.mem_mapIdx] at member
  rcases member with (rfl | rfl | ⟨value, _, rfl⟩) | ⟨index, _, rfl⟩ | rfl | rfl | ⟨entry, listed, rfl⟩
  · exact ⟨by decide, by decide⟩
  · exact ⟨by decide, by decide⟩
  · exact plain_uniformDeclaration value
  · exact ⟨whole_wordOf _, (atomic_attributeName _ _).whole⟩
  · exact ⟨by decide, by decide⟩
  · exact ⟨by decide, by decide⟩
  · exact outputs entry listed

theorem FragmentShader.Formed.plain_preamble {fragment : FragmentShader} (formed : fragment.Formed) :
    fragment.preamble.Plain := by
  have inputs : ∀ entry ∈ fragment.inputTypes, (interfaceDeclaration .input entry).Plain := by
    intro entry member
    obtain ⟨held, listed, rfl⟩ := List.mem_map.1 member
    exact plain_interfaceDeclaration (formed.accepted held listed)
  intro declaration member
  simp only [FragmentShader.preamble, List.mem_append, List.mem_cons, List.mem_map, List.not_mem_nil, or_false] at member
  rcases member with ⟨value, _, rfl⟩ | (rfl | ⟨entry, listed, rfl⟩) | rfl
  · exact plain_uniformDeclaration value
  · exact ⟨by decide, by decide⟩
  · exact inputs entry listed
  · exact ⟨by decide, by decide⟩

/-- The source of a document behind a preamble: the lines of its body are those of the scheduled statements, with the
temporaries that are left at the end. -/
structure Written (document : Document) (preamble : Preamble) (last : Temporaries) (source : String)
    (statements : List Statement) (instructions : List Instruction) : Prop where
  planned : document.schedule = .ok statements
  scheduled : document.plan.Scheduled statements
  emits : ∃ stage, Emits (.start stage) statements instructions ∧ last = (Temporaries.start stage).after statements
  fields : fieldsOf source "Material" = [("offset", "vec2"), ("scale", "vec2"), ("color", "vec4")]
  declared : declarationsOf source = preamble.declarations
  main : mainOf source = some (openingInstructions document.stage ++ instructions)

theorem Written.lines {document : Document} {preamble : Preamble} {last : Temporaries} {source : String}
    {statements : List Statement} {instructions : List Instruction}
    (written : Written document preamble last source statements instructions) :
    List.Forall₂ (Line last) statements instructions := by
  obtain ⟨stage, emits, rfl⟩ := written.emits
  exact emits.lines

theorem exists_ok_of_toOption {α : Type} {result : Except Error α} (succeeds : result.toOption.isSome = true) :
    ∃ value, result = .ok value := by
  cases result with
  | error => exact absurd succeeds Bool.false_ne_true
  | ok value => exact ⟨value, rfl⟩

namespace Generator

variable {generator : Generator}

theorem source_eq_ok {document : Document} {title : String} {preamble : Except Error Preamble} {text : String}
    (done : (generator.source document title preamble).result = .ok text) :
    ∃ found body, preamble = .ok found ∧ (generator.body document).result = .ok body ∧
      (generator.source document title preamble).temporaries = (generator.body document).temporaries ∧
      text = (assemble (found.lines generator.dialect) body).text := by
  cases preamble with
  | error => exact nomatch done
  | ok found =>
    unfold source at done ⊢
    dsimp only at done ⊢
    cases main : (generator.body document).result with
    | error =>
      rw [main] at done
      exact nomatch done
    | ok body =>
      rw [main] at done
      cases done
      exact ⟨found, body, rfl, rfl, rfl, rfl⟩

theorem generate_eq_ok {vertex : VertexShader} {fragment : FragmentShader} {attributes : List Attribute}
    {sources : Sources} (done : (generator.generate vertex fragment attributes).result = .ok sources) :
    checkLink vertex fragment attributes = .ok () ∧
      ((generator.renew (some .vertex)).vertexSource vertex attributes).result = .ok sources.vertex ∧
      ((generator.renew (some .fragment)).fragmentSource fragment).result = .ok sources.fragment := by
  unfold generate at done
  cases linked : checkLink vertex fragment attributes with
  | error =>
    rw [linked] at done
    exact nomatch done
  | ok =>
    rw [linked] at done
    dsimp only at done
    cases first : ((generator.renew (some .vertex)).vertexSource vertex attributes).result with
    | error =>
      rw [first] at done
      exact nomatch done
    | ok vertexText =>
      rw [first] at done
      dsimp only at done
      cases second : ((generator.renew (some .fragment)).fragmentSource fragment).result with
      | error =>
        rw [second] at done
        exact nomatch done
      | ok fragmentText =>
        rw [second] at done
        cases done
        exact ⟨rfl, rfl, rfl⟩

variable {ledger : Ledger} {stage : Option Stage} {text : String}

private theorem temporaries_body {document : Document} {statements : List Statement} {instructions : List Instruction}
    (planned : document.plan.schedule = .ok statements) (fits : ∀ statement ∈ statements, statement.Fits document.plan)
    (done : (instructionsOf generator.branching generator.temporaries statements).1 = .ok instructions) :
    (generator.body document).temporaries = generator.temporaries.after statements := by
  rw [← after_of_instructionsOf fits done, body, Document.schedule, planned]

/-- What a body that is rendered with new temporaries comes from: a schedule of the document, and the instructions for
it, which can be read again. -/
structure Rendered (generator : Generator) (stage : Option Stage) (document : Document) (text : String)
    (statements : List Statement) (instructions : List Instruction) : Prop where
  planned : document.plan.schedule = .ok statements
  scheduled : document.plan.Scheduled statements
  done : (instructionsOf generator.branching (Temporaries.start stage) statements).1 = .ok instructions
  emits : Emits (Temporaries.start stage) statements instructions
  read : readBody text = some (openingInstructions document.stage ++ instructions)

theorem exists_rendered {document : Document} (sound : document.Sound True ledger)
    (rendered : ((generator.renew stage).body document).result = .ok text) :
    ∃ statements instructions, generator.Rendered stage document text statements instructions := by
  have typed : ∀ value, document.Reached value → value.Typed :=
    fun value reached => (sound.known_of_reached reached).typed
  obtain ⟨statements, instructions, planned, done, rfl⟩ := body_eq_ok rendered
  have scheduled := Plan.scheduled_of_ok sound.coherent planned
  have none : (Temporaries.start stage).Numbers (declaredNodes []) := Temporaries.numbers_start stage
  have emits := emits_of_instructionsOf none scheduled.fits scheduled.nodesOnce done
  have plain := plain_of_emits typed sound.whole_outputName scheduled.fits emits
  exact ⟨statements, instructions, planned, scheduled, done, emits, readBody_bodyText plain⟩

theorem exists_written {document : Document} {preamble : Preamble} {body : String}
    (sound : document.Sound True ledger) (plain : preamble.Plain)
    (rendered : ((generator.renew stage).body document).result = .ok body) :
    ∃ statements instructions, Written document preamble ((generator.renew stage).body document).temporaries
      (assemble (preamble.lines generator.dialect) body).text statements instructions := by
  obtain ⟨statements, instructions, planned, scheduled, done, emits, read⟩ := exists_rendered sound rendered
  refine ⟨statements, instructions, planned, scheduled, ⟨stage, emits, ?_⟩, plain.fieldsOf_assemble _ _,
    plain.declarationsOf_assemble _ _, ?_⟩
  · rw [temporaries_body planned scheduled.fits done]
    rfl
  · rw [(plain.preliminary _).mainOf_assemble, read]

theorem exists_written_vertex {vertex : VertexShader} {attributes : List Attribute}
    (sound : vertex.Sound True ledger)
    (done : ((generator.renew stage).vertexSource vertex attributes).result = .ok text) :
    ∃ statements instructions, Written (.vertex vertex) (vertex.preamble attributes)
      ((generator.renew stage).vertexSource vertex attributes).temporaries text statements instructions := by
  obtain ⟨preamble, body, found, rendered, left, rfl⟩ := source_eq_ok done
  obtain ⟨_, rfl⟩ := vertexPreamble_eq_ok found
  have documentSound : (Document.vertex vertex).Sound True ledger := sound
  rw [vertexSource, left]
  exact exists_written documentSound (sound.plain_preamble attributes) rendered

theorem exists_written_fragment {fragment : FragmentShader} (sound : fragment.Sound True ledger)
    (done : ((generator.renew stage).fragmentSource fragment).result = .ok text) :
    ∃ statements instructions, Written (.fragment fragment) fragment.preamble
      ((generator.renew stage).fragmentSource fragment).temporaries text statements instructions := by
  obtain ⟨preamble, body, found, rendered, left, rfl⟩ := source_eq_ok done
  obtain ⟨_, rfl⟩ := fragmentPreamble_eq_ok found
  have documentSound : (Document.fragment fragment).Sound True ledger := sound
  rw [fragmentSource, left]
  exact exists_written documentSound sound.plain_preamble rendered

end Generator

end Shading
