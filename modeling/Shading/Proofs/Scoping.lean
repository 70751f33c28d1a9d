import Shading.Proofs.Interface
import Shading.Proofs.Linking
import Shading.Proofs.Ownership
import Shading.Proofs.Scopes
import Shading.Proofs.Stability

/-!
# Sources are well scoped

In the source of a stage every variable is declared exactly once before it is used, with the type of every value that it
stands for (`sources_scoped_iff`). What is declared comes from several tables, whose names do not meet: names of different
tables have different ranks. What is used comes from the graph. An attribute that is used is declared because two stages
are linked only if it is bound, a uniform because a stage may not read others, an input because it is one of the
document, and an output that was read back because outputs keep their types.
-/

namespace Shading

open Glsl

/-- The place of a name among the families of names, in the order in which a source declares them. -/
def rank (name : String) : Nat :=
  match initials name with
  | 'g' :: _ => 0
  | 'v' :: _ => 1
  | 'p' :: _ => 2
  | 'u' :: _ => 3
  | ['i', 'i'] => 6
  | ['i', 'o'] => 7
  | 'i' :: _ => 4
  | ['m', 'M'] => 5
  | 'f' :: _ => 8
  | ['m', 'a'] => 9
  | 't' :: _ => 10
  | _ => 11

theorem rank_uniformName (index : Int) : rank (uniformName index) = 3 := by
  obtain ⟨rest, known⟩ := List.head?_eq_some_iff.1 (initials_uniformName index)
  simp [rank, known]

theorem rank_temporary (index : Int) : rank (temporary index) = 10 := by
  obtain ⟨rest, known⟩ := List.head?_eq_some_iff.1 (initials_temporary index)
  simp [rank, known]

theorem rank_attributeName (slot : Slot) (stream : Int) : rank (attributeName slot stream) = 4 := by
  rw [rank, initials_attributeName]
  cases slot <;> rfl

theorem rank_interfaceName (name : String) : rank (interfaceName name) = 7 := by
  rw [rank, initials_interfaceName]
  rfl

/-- Names are distinct, and their ranks are below a bound. -/
structure Ranked (bound : Nat) (names : List String) : Prop where
  distinct : names.Nodup
  below : ∀ name ∈ names, rank name < bound

/-- Names of a later family can be added. -/
theorem Ranked.append {bound place : Nat} {first second : List String} (ranked : Ranked bound first)
    (distinct : second.Nodup) (placed : ∀ name ∈ second, rank name = place) (later : bound ≤ place) :
    Ranked (place + 1) (first ++ second) where
  distinct := by
    refine List.nodup_append.2 ⟨ranked.distinct, distinct, ?_⟩
    rintro name left _ right rfl
    have below := ranked.below name left
    have same := placed name right
    omega
  below := by
    intro name member
    rcases List.mem_append.1 member with left | right
    · have below := ranked.below name left
      omega
    · rw [placed name right]
      exact Nat.lt_succ_self _

private theorem toVariable_of_unbracketed {declaration : Declaration} (free : '[' ∉ declaration.name.toList) :
    declaration.toVariable = ⟨declaration.name, declaration.type, none⟩ := by
  rw [Declaration.toVariable, readIndexed_eq_none free]

def uniformVariable (value : Value) : Variable :=
  ⟨uniformName value.uniformIndex, wordOf value.type, none⟩

def attributeVariable (binding : Attribute) : Variable :=
  ⟨attributeName binding.slot binding.stream, wordOf binding.type, none⟩

def interfaceVariable (entry : String × ShaderType) : Variable :=
  ⟨interfaceName entry.1, wordOf entry.2, none⟩

/-- The variables that the body of a vertex stage can refer to from the beginning. -/
def VertexShader.variables (vertex : VertexShader) (attributes : List Attribute) : List Variable :=
  builtins .vertex ++ [⟨"vMtx", "mat4", none⟩, ⟨"pMtx", "mat4", none⟩] ++
    vertex.resources.uniformsByIndex.map uniformVariable ++ attributes.map attributeVariable ++
    [⟨"mMtx", "mat4", none⟩, ⟨"iid", "int", none⟩] ++ vertex.outputTypes.map interfaceVariable ++
    [⟨"materials", "Material", some 16⟩]

/-- The variables that the body of a fragment stage can refer to from the beginning. -/
def FragmentShader.variables (fragment : FragmentShader) : List Variable :=
  fragment.resources.uniformsByIndex.map uniformVariable ++ [⟨"iid", "int", none⟩] ++
    fragment.inputTypes.map interfaceVariable ++ [⟨"fClr", "vec4", none⟩] ++
    [⟨"materials", "Material", some 16⟩, ⟨"materialTextures", "sampler2D", some 16⟩]

private theorem VertexShader.mem_variables {vertex : VertexShader} {attributes : List Attribute} {entry : Variable} :
    entry ∈ vertex.variables attributes ↔
      entry ∈ builtins .vertex ++ [⟨"vMtx", "mat4", none⟩, ⟨"pMtx", "mat4", none⟩, ⟨"mMtx", "mat4", none⟩,
        ⟨"iid", "int", none⟩, ⟨"materials", "Material", some 16⟩] ∨
      entry ∈ vertex.resources.uniformsByIndex.map uniformVariable ∨ entry ∈ attributes.map attributeVariable ∨
        entry ∈ vertex.outputTypes.map interfaceVariable := by
  simp only [VertexShader.variables, List.mem_append, List.mem_cons, List.not_mem_nil, or_false]
  tauto

private theorem FragmentShader.mem_variables {fragment : FragmentShader} {entry : Variable} :
    entry ∈ fragment.variables ↔
      entry ∈ [⟨"iid", "int", none⟩, ⟨"fClr", "vec4", none⟩, ⟨"materials", "Material", some 16⟩,
        ⟨"materialTextures", "sampler2D", some 16⟩] ∨
      entry ∈ fragment.resources.uniformsByIndex.map uniformVariable ∨
        entry ∈ fragment.inputTypes.map interfaceVariable := by
  simp only [FragmentShader.variables, List.mem_append, List.mem_cons, List.not_mem_nil, or_false]
  tauto

section

variable {source : String}

private theorem map_toVariable_uniforms (values : List Value) :
    (values.map uniformDeclaration).map Declaration.toVariable = values.map uniformVariable := by
  rw [List.map_map]
  refine List.map_congr_left (fun value _ => ?_)
  exact toVariable_of_unbracketed (simple_uniformName value.uniformIndex).unbracketed

private theorem map_toVariable_attributes (attributes : List Attribute) :
    (attributes.mapIdx attributeDeclaration).map Declaration.toVariable = attributes.map attributeVariable := by
  refine List.ext_getElem (by simp) (fun index _ _ => ?_)
  simp only [List.getElem_map, List.getElem_mapIdx]
  exact toVariable_of_unbracketed (simple_attributeName _ _).unbracketed

private theorem map_toVariable_interface {side : Side} {entries : List (String × ShaderType)}
    (accepted : ∀ entry ∈ entries, isInterfaceName entry.1 = true) :
    (entries.map (interfaceDeclaration side)).map Declaration.toVariable = entries.map interfaceVariable := by
  rw [List.map_map]
  refine List.map_congr_left (fun entry member => ?_)
  exact toVariable_of_unbracketed (simple_interfaceName (accepted entry member)).unbracketed

private theorem VertexShader.Formed.entries_ofSource {vertex : VertexShader} (formed : vertex.Formed)
    {attributes : List Attribute} (declared : declarationsOf source = (vertex.preamble attributes).declarations) :
    (Scope.ofSource .vertex source).entries = vertex.variables attributes := by
  have accepted : ∀ entry ∈ vertex.outputTypes, isInterfaceName entry.1 = true := by
    intro entry member
    obtain ⟨held, listed, rfl⟩ := List.mem_map.1 member
    exact formed.accepted held listed
  have plain : ∀ declaration ∈ [Declaration.uniform "mat4" "vMtx", .uniform "mat4" "pMtx",
      .located attributes.length .input "mat4" "mMtx", .varying true .output "int" "iid"],
      '[' ∉ declaration.name.toList := by simp [Declaration.name]
  simp only [List.forall_mem_cons] at plain
  obtain ⟨view, projection, model, instanceIndex, _⟩ := plain
  have materials : (Declaration.uniform "Material" "materials[16]").toVariable =
      ⟨"materials", "Material", some 16⟩ := by decide +kernel
  rw [Scope.ofSource, declared]
  simp only [VertexShader.variables, Preamble.declarations, Preamble.tables, VertexShader.preamble, List.map_append,
    List.map_cons, map_toVariable_uniforms, map_toVariable_attributes, map_toVariable_interface accepted,
    toVariable_of_unbracketed view, toVariable_of_unbracketed projection, toVariable_of_unbracketed model,
    toVariable_of_unbracketed instanceIndex, materials, Bool.false_eq_true, if_false, List.map_nil, List.append_assoc,
    List.cons_append, List.nil_append, Declaration.name, Declaration.type]

private theorem FragmentShader.Formed.entries_ofSource {fragment : FragmentShader} (formed : fragment.Formed)
    (declared : declarationsOf source = fragment.preamble.declarations) :
    (Scope.ofSource .fragment source).entries = fragment.variables := by
  have accepted : ∀ entry ∈ fragment.inputTypes, isInterfaceName entry.1 = true := by
    intro entry member
    obtain ⟨held, listed, rfl⟩ := List.mem_map.1 member
    exact formed.accepted held listed
  have fixed : [Declaration.varying true .input "int" "iid", .located 0 .output "vec4" "fClr",
      .uniform "Material" "materials[16]", .uniform "sampler2D" "materialTextures[16]"].map Declaration.toVariable =
      [⟨"iid", "int", none⟩, ⟨"fClr", "vec4", none⟩, ⟨"materials", "Material", some 16⟩,
        ⟨"materialTextures", "sampler2D", some 16⟩] := by decide +kernel
  simp only [List.map_cons, List.map_nil, List.cons.injEq, and_true] at fixed
  obtain ⟨instanceIndex, color, materials, textures⟩ := fixed
  rw [Scope.ofSource, declared]
  simp only [FragmentShader.variables, builtins, Preamble.declarations, Preamble.tables, FragmentShader.preamble,
    List.map_append, List.map_cons, map_toVariable_uniforms, map_toVariable_interface accepted, instanceIndex, color,
    materials, textures, if_true, List.map_nil, List.append_assoc, List.cons_append, List.nil_append]

end

private theorem Resources.Formed.nodup_uniforms {resources : Resources} (formed : resources.Formed) :
    ((resources.uniformsByIndex.map uniformVariable).map Variable.name).Nodup := by
  rw [formed.uniformsByIndex_eq, List.Nodup, List.pairwise_iff_getElem]
  intro first second firstBound secondBound less same
  simp only [Table.values, List.length_map, List.getElem_map, uniformVariable] at firstBound secondBound same
  rw [formed.uniformIndex_getElem first firstBound, formed.uniformIndex_getElem second secondBound] at same
  exact absurd (uniformName_inj same) (by omega)

private theorem nodup_attributes {attributes : List Attribute} (distinct : attributes.Nodup) :
    ((attributes.map attributeVariable).map Variable.name).Nodup := by
  rw [List.map_map]
  refine distinct.map ?_
  rintro ⟨slot, stream⟩ ⟨other, further⟩ same
  obtain ⟨rfl, rfl⟩ := attributeName_inj same
  rfl

private theorem nodup_interface {table : Table Value} (distinct : table.Distinct) :
    (((table.entries.map (fun entry => (entry.1, entry.2.type))).map interfaceVariable).map Variable.name).Nodup := by
  have names : ((table.entries.map Prod.fst).map interfaceName).Nodup :=
    List.Nodup.map (fun _ _ same => interfaceName_inj same) distinct
  simpa [Function.comp_def, interfaceVariable] using names

private theorem rank_uniforms (values : List Value) :
    ∀ name ∈ (values.map uniformVariable).map Variable.name, rank name = 3 := by
  simp only [List.map_map, List.mem_map]
  rintro _ ⟨value, _, rfl⟩
  exact rank_uniformName _

private theorem rank_attributes (attributes : List Attribute) :
    ∀ name ∈ (attributes.map attributeVariable).map Variable.name, rank name = 4 := by
  simp only [List.map_map, List.mem_map]
  rintro _ ⟨binding, _, rfl⟩
  exact rank_attributeName _ _

private theorem rank_interface (entries : List (String × ShaderType)) :
    ∀ name ∈ (entries.map interfaceVariable).map Variable.name, rank name = 7 := by
  simp only [List.map_map, List.mem_map]
  rintro _ ⟨entry, _, rfl⟩
  exact rank_interfaceName _

private theorem VertexShader.ranked {vertex : VertexShader} (resources : vertex.resources.Formed)
    (formed : vertex.Formed) {attributes : List Attribute} (distinct : attributes.Nodup) :
    Ranked 10 ((vertex.variables attributes).map Variable.name) := by
  have fixed : Ranked 3 ["gl_Position", "gl_PointSize", "gl_InstanceID", "vMtx", "pMtx"] := ⟨by decide, by decide⟩
  have uniforms := fixed.append resources.nodup_uniforms (rank_uniforms _) (by decide)
  have inputs := uniforms.append (nodup_attributes distinct) (rank_attributes _) (by decide)
  have model := inputs.append (List.nodup_singleton "mMtx") (by decide : ∀ name ∈ ["mMtx"], rank name = 5) (by decide)
  have instanceIndex :=
    model.append (List.nodup_singleton "iid") (by decide : ∀ name ∈ ["iid"], rank name = 6) (by decide)
  have outputs := instanceIndex.append (nodup_interface formed.named) (rank_interface _) (by decide)
  have materials :=
    outputs.append (List.nodup_singleton "materials") (by decide : ∀ name ∈ ["materials"], rank name = 9) (by decide)
  simpa only [VertexShader.variables, VertexShader.outputTypes, builtins, List.map_append, List.map_cons, List.map_nil,
    List.append_assoc, List.cons_append, List.nil_append] using materials

private theorem FragmentShader.ranked {fragment : FragmentShader} (resources : fragment.resources.Formed)
    (formed : fragment.Formed) : Ranked 10 (fragment.variables.map Variable.name) := by
  have none : Ranked 3 [] := ⟨by decide, by decide⟩
  have uniforms := none.append resources.nodup_uniforms (rank_uniforms _) (by decide)
  have instanceIndex :=
    uniforms.append (List.nodup_singleton "iid") (by decide : ∀ name ∈ ["iid"], rank name = 6) (by decide)
  have inputs := instanceIndex.append (nodup_interface formed.named) (rank_interface _) (by decide)
  have color := inputs.append (List.nodup_singleton "fClr") (by decide : ∀ name ∈ ["fClr"], rank name = 8) (by decide)
  have materials := color.append (by decide : ["materials", "materialTextures"].Nodup)
    (by decide : ∀ name ∈ ["materials", "materialTextures"], rank name = 9) (by decide)
  simpa only [FragmentShader.variables, FragmentShader.inputTypes, List.map_append, List.map_cons, List.map_nil,
    List.append_assoc, List.cons_append, List.nil_append] using materials

private theorem isIdentifier_append {stem rest : String} (identifier : isIdentifier stem.toList = true)
    (letters : rest.toList.all (fun c => c.isAlphanum || c == '_') = true) :
    isIdentifier (stem ++ rest).toList = true := by
  cases chars : stem.toList with
  | nil =>
    rw [chars] at identifier
    exact nomatch identifier
  | cons first others =>
    rw [chars, isIdentifier, Bool.and_eq_true] at identifier
    rw [String.toList_append, chars, List.cons_append, isIdentifier, List.all_append, letters, identifier.1, identifier.2]
    rfl

theorem isIdentifier_numbered {stem : String} (identifier : isIdentifier stem.toList = true) (index : Nat) :
    isIdentifier (stem ++ Int.repr index).toList = true := by
  refine isIdentifier_append identifier (List.all_eq_true.2 (fun c member => ?_))
  rw [show Int.repr index = Nat.repr index from rfl, Nat.toList_repr] at member
  have digit := Nat.isDigit_of_mem_toDigits (by decide) (by decide) member
  simp [Char.isAlphanum, digit]

theorem isIdentifier_interfaceName {name : String} (accepted : isInterfaceName name = true) :
    isIdentifier (interfaceName name).toList = true := by
  refine isIdentifier_append (by decide) (List.all_eq_true.2 (fun c member => ?_))
  simpa using mem_interfaceName accepted member

private theorem isIdentifier_attributeName {slot : Slot} {stream : Int} :
    isIdentifier (attributeName slot stream).toList = true ↔ 0 ≤ stream := by
  constructor
  · intro identifier
    by_contra negative
    have sign : '-' ∈ (attributeName slot stream).toList := by
      obtain ⟨number, rfl⟩ := Int.eq_negSucc_of_lt_zero (Int.not_le.1 negative)
      cases slot <;> simp [attributeName, Int.repr]
    exact absurd (mem_identifier identifier sign) (by decide)
  · intro least
    obtain ⟨index, rfl⟩ := Int.eq_ofNat_of_zero_le least
    cases slot with
    | position | normal | tangent | color => exact isIdentifier_numbered (by decide) index
    | texCoord0 | texCoord1 => exact isIdentifier_append (isIdentifier_numbered (by decide) index) (by decide)

/-- The variable that a name starts with: a table, if a number in brackets follows it. -/
def stemOf (name : String) : String :=
  match readIndexed name with
  | some (stem, _, _) => stem
  | none => name

private theorem Simple.stemOf_eq {name : String} (simple : Simple name) : stemOf name = name := by
  rw [stemOf, readIndexed_eq_none simple.unbracketed]

private theorem isIdentifier_stemOf_materialName (number : Nat) (field : MaterialField) :
    isIdentifier (stemOf (materialName number field)).toList = true := by
  have table : ∀ (opening closing stem : String) (ending : List Char), opening.toList = stem.toList ++ ['['] →
      closing.toList = ']' :: ending → '[' ∉ stem.toList → isIdentifier stem.toList = true →
      isIdentifier (stemOf (opening ++ Int.repr number ++ closing)).toList = true := by
    intro opening closing stem ending opened closed free identifier
    rw [stemOf, readIndexed_inside opened closed free]
    exact identifier
  cases field with
  | texture =>
    exact table _ _ "materialTextures" [] (by decide +kernel) (by decide +kernel) (by decide) (by decide)
  | scale =>
    exact table _ _ "materials" ".scale".toList (by decide +kernel) (by decide +kernel) (by decide) (by decide)
  | offset =>
    exact table _ _ "materials" ".offset".toList (by decide +kernel) (by decide +kernel) (by decide) (by decide)
  | color =>
    exact table _ _ "materials" ".color".toList (by decide +kernel) (by decide +kernel) (by decide) (by decide)

private theorem literalType?_of_numeric {text : String} (numeric : Numeric text) (digit : HasDigit text) :
    literalType? text = some (if '.' ∈ text.toList ∨ 'e' ∈ text.toList then "float" else "int") := by
  have notTruth : ¬ (text = "true" ∨ text = "false") := by
    rintro (rfl | rfl)
    · exact absurd (numeric 't' (by decide)) (by decide)
    · exact absurd (numeric 'f' (by decide)) (by decide)
  have isNumber : (text.toList.all isNumeric && text.toList.any Char.isDigit) = true := by
    obtain ⟨c, member, isDigit⟩ := digit
    rw [Bool.and_eq_true]
    exact ⟨List.all_eq_true.2 numeric, List.any_eq_true.2 ⟨c, member, isDigit⟩⟩
  rw [literalType?, if_neg notTruth, if_pos isNumber]

theorem literalType?_constant {constant : Constant} {name : String}
    (named : literalText (.constant constant) constant.type = .ok name) :
    literalType? name = some (wordOf constant.type) := by
  cases constant with
  | bool value =>
    cases named
    cases value <;> rfl
  | int value =>
    obtain ⟨_, rfl⟩ := numeral_eq_ok.1 named
    obtain ⟨noPoint, noExponent⟩ := plain_intRepr value
    rw [literalType?_of_numeric (numeric_intRepr value) (hasDigit_intRepr value),
      if_neg (fun mark => mark.elim noPoint noExponent)]
    rfl
  | double value =>
    have spelled : literalText (.constant (.double value)) (Constant.double value).type =
        if value.isFinite then .ok value.text else .error (.violation (.noSpelling (.double value))) := rfl
    rw [spelled] at named
    split at named
    · rename_i finite
      cases named
      obtain ⟨mark, digit⟩ := floating_double finite
      rw [literalType?_of_numeric (numeric_double finite) digit, if_pos mark]
      rfl
    · exact nomatch named

namespace Scope

section

variable {scope : Scope} (distinct : (scope.entries.map Variable.name).Nodup)

private theorem baseType?_of_literal {name word : String} (literal : literalType? name = some word) :
    scope.baseType? name = some word := by
  unfold baseType?
  simp only [literal]

include distinct

private theorem variableType?_of_mem {name word : String} (member : ⟨name, word, none⟩ ∈ scope.entries) :
    scope.variableType? name = some word := by
  rw [variableType?, find?_of_mem distinct member]
  rfl

private theorem baseType?_of_mem {name word : String} (simple : Simple name)
    (member : ⟨name, word, none⟩ ∈ scope.entries) :
    scope.baseType? name = some word := by
  rw [simple.baseType?]
  exact variableType?_of_mem distinct member

omit distinct in
private theorem baseType?_inside {opening closing stem : String} {ending : List Char} {number : Nat}
    (opened : opening.toList = stem.toList ++ ['[']) (closed : closing.toList = ']' :: ending)
    (free : '[' ∉ stem.toList) (notLiteral : literalType? (opening ++ Int.repr number ++ closing) = none) :
    scope.baseType? (opening ++ Int.repr number ++ closing) = scope.elementType? stem number ending := by
  unfold baseType?
  simp only [notLiteral, readIndexed_inside opened closed free]

private theorem baseType?_material (table : ⟨"materials", "Material", some 16⟩ ∈ scope.entries)
    (fields : scope.fields "Material" = [("offset", "vec2"), ("scale", "vec2"), ("color", "vec4")]) {index : Int}
    {field : MaterialField} (least : 0 ≤ index) (most : index < materialSlots) (other : field ≠ .texture) :
    scope.baseType? (materialName index field) = some (wordOf field.type) := by
  obtain ⟨number, rfl⟩ := Int.eq_ofNat_of_zero_le least
  have below : number < 16 := Int.ofNat_lt.1 most
  have notLiteral : literalType? (materialName number field) = none :=
    literalType?_eq_none (by rw [initials_materialName]; rfl) (by decide) (by decide)
  have found : ∀ ending, scope.elementType? "materials" number ('.' :: ending) =
      [("offset", "vec2"), ("scale", "vec2"), ("color", "vec4")].lookup (String.ofList ending) := by
    intro ending
    rw [elementType?, find?_of_mem distinct table, ← fields]
    simp [below]
  cases field with
  | texture => exact absurd rfl other
  | scale =>
    exact (baseType?_inside (by decide +kernel) (by decide +kernel) (by decide) notLiteral).trans
      (found "scale".toList)
  | offset =>
    exact (baseType?_inside (by decide +kernel) (by decide +kernel) (by decide) notLiteral).trans
      (found "offset".toList)
  | color =>
    exact (baseType?_inside (by decide +kernel) (by decide +kernel) (by decide) notLiteral).trans
      (found "color".toList)

private theorem baseType?_texture (table : ⟨"materialTextures", "sampler2D", some 16⟩ ∈ scope.entries) {index : Int}
    (least : 0 ≤ index) (most : index < materialSlots) :
    scope.baseType? (materialName index .texture) = some "sampler2D" := by
  obtain ⟨number, rfl⟩ := Int.eq_ofNat_of_zero_le least
  have below : number < 16 := Int.ofNat_lt.1 most
  have notLiteral : literalType? (materialName number .texture) = none :=
    literalType?_eq_none (by rw [initials_materialName]; rfl) (by decide) (by decide)
  have found : scope.elementType? "materialTextures" number [] = some "sampler2D" := by
    rw [elementType?, find?_of_mem distinct table]
    simp [below]
  exact (baseType?_inside (by decide +kernel) (by decide +kernel) (by decide) notLiteral).trans found

end

end Scope

section

variable {ledger : Ledger} {source : String} {stage : Option Stage}

private theorem Document.Sound.mem_uniforms {document : Document} (sound : document.Sound True ledger) {index : Int}
    {type : ShaderType} (legal : Leaf.Legal document (.uniform index type)) :
    ⟨uniformName index, wordOf type, none⟩ ∈ document.resources.uniformsByIndex.map uniformVariable := by
  obtain ⟨number, own, found, rfl, rfl⟩ := sound.exists_uniform legal
  refine List.mem_map.2 ⟨own.2, mem_uniformsByIndex.2 ⟨own, List.mem_of_getElem? found, rfl⟩, ?_⟩
  rw [uniformVariable, Value.uniformIndex, sound.resources.numbered found]

theorem Ranked.fresh {scope : Scope} (ranked : Ranked 10 (scope.entries.map Variable.name)) :
    ∀ entry ∈ scope.entries, ∀ index : Nat, entry.name ≠ temporary index := by
  intro entry member index same
  have below := ranked.below entry.name (List.mem_map.2 ⟨entry, member, rfl⟩)
  rw [same, rank_temporary] at below
  exact Nat.lt_irrefl _ below

/-- What the scope of either stage has. -/
structure Scope.Basic (resources : Resources) (scope : Scope) : Prop where
  ranked : Ranked 10 (scope.entries.map Variable.name)
  instanceIndex : ⟨"iid", "int", none⟩ ∈ scope.entries
  uniforms : ∀ entry ∈ resources.uniformsByIndex.map uniformVariable, entry ∈ scope.entries
  materials : ⟨"materials", "Material", some 16⟩ ∈ scope.entries
  fields : scope.fields "Material" = [("offset", "vec2"), ("scale", "vec2"), ("color", "vec4")]

/-- A leaf that both stages can read. -/
def Leaf.isShared : Leaf → Bool
  | .instanceIndex | .uniform _ _ | .literal _ _ | .unknown _ => true
  | .material _ field => field ≠ .texture
  | .vertexAttribute _ _ | .output _ | .input _ | .matrix _ => false

private theorem Scope.Basic.baseType?_shared {document : Document} {scope : Scope} (sound : document.Sound True ledger)
    (basic : scope.Basic document.resources) {leaf : Leaf} {type : ShaderType} {name : String}
    (shared : leaf.isShared = true) (typed : leaf.Typed type) (legal : leaf.Legal document)
    (named : leafName leaf = .ok name) : scope.baseType? name = some (wordOf type) := by
  have distinct := basic.ranked.distinct
  cases leaf with
  | vertexAttribute | output | input | matrix => exact nomatch shared
  | instanceIndex =>
    cases named
    cases typed
    exact Scope.baseType?_of_mem distinct ⟨by decide, by decide⟩ basic.instanceIndex
  | uniform index declared =>
    cases named
    cases typed
    exact Scope.baseType?_of_mem distinct (simple_uniformName index) (basic.uniforms _ (sound.mem_uniforms legal))
  | literal plain declared =>
    cases plain with
    | text | nothing => exact typed.elim
    | constant constant =>
      obtain ⟨rfl, rfl⟩ := typed
      exact Scope.baseType?_of_literal (literalType?_constant named)
  | material index field =>
    cases named
    obtain ⟨rfl, least, most⟩ := typed
    exact Scope.baseType?_material distinct basic.materials basic.fields least most (of_decide_eq_true shared)
  | unknown => exact typed.elim

/-- A scope agrees with a document if it does so on the leaves and the outputs of its stage. -/
theorem Scope.Basic.tracks {document : Document} {scope : Scope} (sound : document.Sound True ledger)
    (basic : scope.Basic document.resources)
    (legal : ∀ value leaf, document.Reached value → value.source = .leaf leaf → leaf.Legal document)
    (own : ∀ value leaf name, document.Reached value → value.source = .leaf leaf → leaf.isShared = false →
      leaf.Typed value.type → leafName leaf = .ok name → scope.baseType? name = some (wordOf value.type))
    (output : ∀ output value, (output, value) ∈ document.writes →
      scope.variableType? (outputName output) = some (wordOf value.type)) :
    scope.Tracks document.plan (.start stage) where
  leaf := by
    intro value leaf name reached origin named
    have typed : leaf.Typed value.type := by
      have typed := (sound.known_of_reached reached).typed.2
      rwa [origin] at typed
    cases shared : leaf.isShared with
    | true => exact basic.baseType?_shared sound shared typed (legal value leaf reached origin) named
    | false => exact own value leaf name reached origin shared typed named
  node := by
    intro value node index _ _ found
    exact nomatch (Temporaries.index?_start stage node).symm.trans found
  output := fun {written value} => output written value
  fresh := fun entry member index _ => basic.ranked.fresh entry member index

section

variable {vertex : VertexShader} (sound : vertex.Sound True ledger) {attributes : List Attribute}
  (distinct : attributes.Nodup) (declared : declarationsOf source = (vertex.preamble attributes).declarations)
  (fields : fieldsOf source "Material" = [("offset", "vec2"), ("scale", "vec2"), ("color", "vec4")])

include sound distinct declared fields

private theorem VertexShader.Sound.basic : (Scope.ofSource .vertex source).Basic vertex.resources := by
  have entries := sound.toFormed.entries_ofSource declared
  refine ⟨?_, ?_, ?_, ?_, fields⟩ <;> rw [entries]
  · exact VertexShader.ranked sound.resources.toFormed sound.toFormed distinct
  · exact mem_variables.2 (.inl (by decide))
  · exact fun entry member => mem_variables.2 (.inr (.inl member))
  · exact mem_variables.2 (.inl (by decide))

private theorem VertexShader.Sound.variableType?_output (output : Output) (value : Value)
    (member : (output, value) ∈ vertex.writes) :
    (Scope.ofSource .vertex source).variableType? (outputName output) = some (wordOf value.type) := by
  have basic := sound.basic distinct declared fields
  refine Scope.variableType?_of_mem basic.ranked.distinct ?_
  rw [sound.toFormed.entries_ofSource declared, mem_variables]
  rcases mem_writes.1 member with ⟨rfl, held⟩ | ⟨rfl, held⟩ | ⟨asked, rfl, entered⟩
  · rw [sound.position value held]
    exact .inl (by decide)
  · rw [sound.pointSize value held]
    exact .inl (by decide)
  · exact .inr (.inr (.inr (List.mem_map_of_mem (List.mem_map.2 ⟨(asked, value), entered, rfl⟩))))

/-- The scope of a vertex stage gives their types to all that the stage reads and writes. -/
theorem VertexShader.Sound.tracks
    (legal : ∀ value leaf, (Document.vertex vertex).Reached value → value.source = .leaf leaf →
      leaf.Legal (.vertex vertex))
    (bound : ∀ value slot stream, (Document.vertex vertex).Reached value →
      value.source = .leaf (.vertexAttribute slot stream) → ⟨slot, stream⟩ ∈ attributes)
    (readBack : ∀ value asked, (Document.vertex vertex).Reached value →
      value.source = .leaf (.output (.named asked)) →
      ∃ written, vertex.outputs.get? asked = some written ∧ written.type = value.type) :
    (Scope.ofSource .vertex source).Tracks (Document.vertex vertex).plan (.start stage) := by
  have documentSound : (Document.vertex vertex).Sound True ledger := sound
  have basic := sound.basic distinct declared fields
  have distinctNames := basic.ranked.distinct
  have listed : ∀ {entry}, entry ∈ vertex.variables attributes → entry ∈ (Scope.ofSource .vertex source).entries :=
    fun member => sound.toFormed.entries_ofSource declared ▸ member
  have output := sound.variableType?_output distinct declared fields
  refine Scope.Basic.tracks documentSound basic legal ?_ output
  intro value leaf name reached origin notShared typed named
  have lawful := legal value leaf reached origin
  have fixed : ∀ {word}, Simple name → ⟨name, word, none⟩ ∈ vertex.variables attributes →
      (Scope.ofSource .vertex source).baseType? name = some word :=
    fun simple member => Scope.baseType?_of_mem distinctNames simple (listed member)
  cases leaf with
  | vertexAttribute slot stream =>
    obtain ⟨_, rfl⟩ := leafName_attribute_eq_ok.1 named
    rw [typed]
    have entered := bound value slot stream reached origin
    refine fixed (simple_attributeName slot stream) (mem_variables.2 ?_)
    exact .inr (.inr (.inl (List.mem_map.2 ⟨_, entered, rfl⟩)))
  | output written =>
    cases named
    cases written with
    | position =>
      rw [typed]
      exact fixed ⟨by decide, by decide⟩ (mem_variables.2 (.inl (by decide)))
    | pointSize =>
      rw [typed]
      exact fixed ⟨by decide, by decide⟩ (mem_variables.2 (.inl (by decide)))
    | named asked =>
      obtain ⟨held, found, same⟩ := readBack value asked reached origin
      rw [outputName, (simple_interfaceName typed).baseType?, ← same]
      exact output _ _ (mem_writes.2 (.inr (.inr ⟨asked, rfl, Table.mem_of_get? found⟩)))
    | color => exact lawful.elim
  | input asked => exact lawful.elim
  | matrix matrix =>
    cases named
    rw [typed]
    cases matrix <;> exact fixed ⟨by decide, by decide⟩ (mem_variables.2 (.inl (by decide)))
  | material index field =>
    cases field with
    | texture => exact lawful.elim
    | _ => cases notShared
  | _ => cases notShared

private theorem VertexShader.Sound.check_opening :
    (openingInstructions .vertex).foldlM Scope.check (.ofSource .vertex source) =
      some (.ofSource .vertex source) := by
  have basic := sound.basic distinct declared fields
  have builtin : ⟨"gl_InstanceID", "int", none⟩ ∈ (Scope.ofSource .vertex source).entries := by
    rw [sound.toFormed.entries_ofSource declared]
    exact mem_variables.2 (.inl (by decide))
  have target := Scope.variableType?_of_mem basic.ranked.distinct basic.instanceIndex
  have value : (Scope.ofSource .vertex source).typeOf? (.ofName "gl_InstanceID") = some "int" := by
    rw [Scope.typeOf?, Reference.ofName, Scope.baseType?_of_mem basic.ranked.distinct ⟨by decide, by decide⟩ builtin]
    rfl
  have accepted : (Scope.ofSource .vertex source).check (.assign "iid" (.ofName "gl_InstanceID")) =
      some (.ofSource .vertex source) := by
    rw [Scope.check, target, value]
    exact if_pos ⟨rfl, rfl⟩
  rw [openingInstructions, instanceName, List.foldlM_cons, accepted]
  rfl

end

section

variable {fragment : FragmentShader} (sound : fragment.Sound True ledger)
  (declared : declarationsOf source = fragment.preamble.declarations)
  (fields : fieldsOf source "Material" = [("offset", "vec2"), ("scale", "vec2"), ("color", "vec4")])

include sound declared fields

private theorem FragmentShader.Sound.basic : (Scope.ofSource .fragment source).Basic fragment.resources := by
  have entries := sound.toFormed.entries_ofSource declared
  refine ⟨?_, ?_, ?_, ?_, fields⟩ <;> rw [entries]
  · exact FragmentShader.ranked sound.resources.toFormed sound.toFormed
  · exact mem_variables.2 (.inl (by decide))
  · exact fun entry member => mem_variables.2 (.inr (.inl member))
  · exact mem_variables.2 (.inl (by decide))

/-- The scope of a fragment stage gives their types to all that the stage reads and writes. -/
theorem FragmentShader.Sound.tracks
    (legal : ∀ value leaf, (Document.fragment fragment).Reached value → value.source = .leaf leaf →
      leaf.Legal (.fragment fragment))
    (inputs : ∀ value asked, (Document.fragment fragment).Reached value → value.source = .leaf (.input asked) →
      fragment.inputs.get? asked = some value) :
    (Scope.ofSource .fragment source).Tracks (Document.fragment fragment).plan (.start stage) := by
  have documentSound : (Document.fragment fragment).Sound True ledger := sound
  have basic := sound.basic declared fields
  have distinctNames := basic.ranked.distinct
  have listed : ∀ {entry}, entry ∈ fragment.variables → entry ∈ (Scope.ofSource .fragment source).entries :=
    fun member => sound.toFormed.entries_ofSource declared ▸ member
  have output : ∀ written value, (written, value) ∈ fragment.writes →
      (Scope.ofSource .fragment source).variableType? (outputName written) = some (wordOf value.type) := by
    intro written value member
    obtain ⟨rfl, held⟩ := mem_writes.1 member
    rw [sound.color value held]
    exact Scope.variableType?_of_mem distinctNames (listed (mem_variables.2 (.inl (by decide))))
  refine Scope.Basic.tracks documentSound basic legal ?_ output
  intro value leaf name reached origin notShared typed named
  have lawful := legal value leaf reached origin
  cases leaf with
  | vertexAttribute | matrix => exact lawful.elim
  | output written =>
    cases written with
    | color =>
      cases named
      rw [typed]
      exact Scope.baseType?_of_mem distinctNames ⟨by decide, by decide⟩ (listed (mem_variables.2 (.inl (by decide))))
    | _ => exact lawful.elim
  | input asked =>
    cases named
    have entered := Table.mem_of_get? (inputs value asked reached origin)
    refine Scope.baseType?_of_mem distinctNames (simple_interfaceName typed) (listed (mem_variables.2 ?_))
    exact .inr (.inr (List.mem_map_of_mem (List.mem_map.2 ⟨(asked, value), entered, rfl⟩)))
  | material index field =>
    cases field with
    | texture =>
      cases named
      obtain ⟨isSampler, least, most⟩ := typed
      rw [isSampler]
      exact Scope.baseType?_texture distinctNames (listed (mem_variables.2 (.inl (by decide)))) least most
    | _ => cases notShared
  | _ => cases notShared

end

end

/-- The body of the source of a document, read from its text, is well scoped: it is accepted line by line, and all that
the document needs is referred to by something that is in scope with the word for its type. -/
structure ScopedBody (document : Document) (source : String) (temporaries : Temporaries) (statements : List Statement)
    (instructions : List Instruction) (final : Scope) : Prop where
  planned : document.schedule = .ok statements
  main : mainOf source = some (openingInstructions document.stage ++ instructions)
  lines : List.Forall₂ (Line temporaries) statements instructions
  accepted : (openingInstructions document.stage ++ instructions).foldlM Scope.check (.ofSource document.stage source) =
    some final
  typed : ∀ value, document.Reached value → ∃ reference word, temporaries.reference value = .ok reference ∧
    spelling value.type = .ok word ∧ final.typeOf? reference = some word

/-- The source of a document is well scoped, with names taken as they are written. -/
def Scoped (document : Document) (source : String) : Prop :=
  ∃ temporaries statements instructions final, ScopedBody document source temporaries statements instructions final

/-- Every name in the body of a source is a literal, or an identifier stands for what it names. -/
def NamesIdentifiers (source : String) : Prop :=
  ∃ main, mainOf source = some main ∧ ∀ name ∈ main.flatMap Instruction.names, literalType? name = none →
    isIdentifier (stemOf name).toList = true

private theorem Document.Sound.isIdentifier_outputName {ledger : Ledger} {document : Document}
    (sound : document.Sound True ledger) {output : Output} {value : Value}
    (written : (output, value) ∈ document.writes) : isIdentifier (stemOf (outputName output)).toList = true := by
  cases output with
  | position | pointSize | color => decide
  | named asked =>
    cases document with
    | vertex vertex =>
      rcases VertexShader.mem_writes.1 written with ⟨⟨⟩, _⟩ | ⟨⟨⟩, _⟩ | ⟨_, ⟨⟩, entered⟩
      have accepted := (sound : vertex.Sound True ledger).toFormed.accepted _ entered
      rw [outputName, (simple_interfaceName accepted).stemOf_eq]
      exact isIdentifier_interfaceName accepted
    | fragment fragment =>
      obtain ⟨⟨⟩, _⟩ := FragmentShader.mem_writes.1 written

private theorem isIdentifier_leafName {ledger : Ledger} {document : Document} (sound : document.Sound True ledger)
    {leaf : Leaf} {type : ShaderType} {name : String} (typed : leaf.Typed type) (legal : leaf.Legal document)
    (named : leafName leaf = .ok name) (least : ∀ slot stream, leaf = .vertexAttribute slot stream → 0 ≤ stream)
    (notLiteral : literalType? name = none) : isIdentifier (stemOf name).toList = true := by
  cases leaf with
  | vertexAttribute slot stream =>
    obtain ⟨_, rfl⟩ := leafName_attribute_eq_ok.1 named
    rw [(simple_attributeName slot stream).stemOf_eq]
    exact isIdentifier_attributeName.2 (least slot stream rfl)
  | output output =>
    cases named
    cases output with
    | named asked =>
      rw [outputName, (simple_interfaceName typed).stemOf_eq]
      exact isIdentifier_interfaceName typed
    | position | pointSize | color => decide
  | input asked =>
    cases named
    rw [(simple_interfaceName typed).stemOf_eq]
    exact isIdentifier_interfaceName typed
  | instanceIndex =>
    cases named
    decide
  | matrix matrix =>
    cases named
    cases matrix <;> decide
  | uniform index declared =>
    cases named
    obtain ⟨number, _, _, rfl, _⟩ := sound.exists_uniform legal
    rw [(simple_uniformName number).stemOf_eq]
    exact isIdentifier_numbered (by decide) number
  | material index field =>
    cases named
    obtain ⟨number, rfl⟩ := Int.eq_ofNat_of_zero_le typed.2.1
    exact isIdentifier_stemOf_materialName number field
  | literal plain declared =>
    cases plain with
    | text | nothing => exact typed.elim
    | constant constant =>
      obtain ⟨rfl, rfl⟩ := typed
      rw [literalType?_constant named] at notLiteral
      exact absurd notLiteral (by simp)
  | unknown => exact typed.elim

section

variable {ledger : Ledger} {document : Document} {preamble : Preamble} {last : Temporaries} {source : String}
  {statements : List Statement} {instructions : List Instruction}

private theorem Written.exists_reference (coherent : document.plan.Coherent)
    (written : Written document preamble last source statements instructions) {value : Value}
    (reached : document.Reached value) : ∃ reference, last.reference value = .ok reference := by
  obtain ⟨statement, member, read, among, root⟩ := written.scheduled.exists_read coherent reached
  obtain ⟨instruction, _, line⟩ := exists_of_forall₂ written.lines.flip member
  have named : ∃ reference, last.reference read = .ok reference := by
    cases line with
    | declare _ _ _ renders =>
      obtain ⟨reference, _, named⟩ := exists_of_forall₂ renders.references.flip among
      exact ⟨reference, named⟩
    | assign named =>
      obtain rfl := List.mem_singleton.1 among
      exact ⟨_, named⟩
  obtain ⟨reference, named⟩ := named
  rcases Temporaries.reference_cases named with ⟨leaf, name, isLeaf, spelled, _⟩ | ⟨node, index, isNode, found, _⟩
  · refine ⟨⟨name, selectors value⟩, ?_⟩
    rw [Temporaries.reference_of_leaf (root.symm.trans isLeaf), spelled]
    rfl
  · exact ⟨_, Temporaries.reference_of_index (root ▸ isNode) found⟩

private theorem Written.scoped (sound : document.Sound True ledger)
    (written : Written document preamble last source statements instructions)
    (opening : (openingInstructions document.stage).foldlM Scope.check (.ofSource document.stage source) =
      some (.ofSource document.stage source))
    (tracks : ∀ stage, (Scope.ofSource document.stage source).Tracks document.plan (.start stage)) :
    Scoped document source := by
  have typed : ∀ value, document.plan.Reached value → value.Typed :=
    fun value reached => (sound.known_of_reached reached).typed
  obtain ⟨stage, emits, ended⟩ := written.emits
  obtain ⟨final, ran, tracked⟩ := (tracks stage).run sound.coherent typed written.scheduled.fits emits
  rw [← ended] at tracked
  refine ⟨last, statements, instructions, final, written.planned, written.main, written.lines, ?_, ?_⟩
  · rw [List.foldlM_append, opening]
    exact ran
  · intro value reached
    obtain ⟨reference, named⟩ := written.exists_reference sound.coherent reached
    exact ⟨reference, wordOf value.type, named, spelling_eq_wordOf (typed value reached).1,
      tracked.typeOf? typed reached named⟩

theorem Written.legal (written : Written document preamble last source statements instructions) {value : Value}
    {leaf : Leaf} (reached : document.Reached value) (origin : value.source = .leaf leaf) :
    leaf.Legal document := by
  have legal := written.scheduled.legal reached
  rwa [origin, Document.checkSource_leaf] at legal

private theorem Written.mem_names (coherent : document.plan.Coherent)
    (written : Written document preamble last source statements instructions) {slot : Slot} {stream : Int}
    (reads : document.Reads (.vertexAttribute slot stream)) :
    attributeName slot stream ∈ instructions.flatMap Instruction.names := by
  obtain ⟨value, reached, origin⟩ := reads
  obtain ⟨statement, member, read, among, root⟩ := written.scheduled.exists_read coherent reached
  obtain ⟨instruction, listed, line⟩ := exists_of_forall₂ written.lines.flip member
  have isLeaf : read.root = .leaf (.vertexAttribute slot stream) := root.trans (Value.root_of_leaf origin)
  have based : ∀ {reference}, last.reference read = .ok reference → reference.base = attributeName slot stream := by
    intro reference referred
    rcases Temporaries.reference_cases referred with ⟨leaf, name, same, named, rfl⟩ | ⟨node, _, isNode, _⟩
    · cases isLeaf.symm.trans same
      exact (leafName_attribute_eq_ok.1 named).2
    · rw [isLeaf] at isNode
      exact absurd isNode (by simp [Source.node?])
  refine List.mem_flatMap.2 ⟨instruction, listed, ?_⟩
  cases line with
  | declare _ _ _ renders =>
    obtain ⟨reference, inside, referred⟩ := exists_of_forall₂ renders.references.flip among
    exact List.mem_cons_of_mem _ (List.mem_map.2 ⟨reference, inside, based referred⟩)
  | assign referred =>
    obtain rfl := List.mem_singleton.1 among
    exact List.mem_cons_of_mem _ (List.mem_singleton.2 (based referred).symm)

private theorem Written.isIdentifier_base (sound : document.Sound True ledger)
    (written : Written document preamble last source statements instructions)
    (least : ∀ slot stream, document.Reads (.vertexAttribute slot stream) → 0 ≤ stream) {value : Value}
    {reference : Reference} (reached : document.Reached value) (referred : last.reference value = .ok reference)
    (notLiteral : literalType? reference.base = none) : isIdentifier (stemOf reference.base).toList = true := by
  rcases Temporaries.reference_cases referred with ⟨leaf, base, isLeaf, spelled, rfl⟩ | ⟨_, index, _, _, rfl⟩
  · obtain ⟨root, below, origin⟩ := value.exists_reaches_root
    have needed := reached.reaches below
    have typed := (sound.known_of_reached needed).typed.2
    rw [origin, isLeaf] at typed
    refine isIdentifier_leafName sound typed (written.legal needed (origin.trans isLeaf)) spelled ?_ notLiteral
    rintro slot stream rfl
    exact least slot stream ⟨root, needed, origin.trans isLeaf⟩
  · rw [(simple_temporary index).stemOf_eq]
    exact isIdentifier_numbered (by decide) index

private theorem Written.isIdentifier_of_line (sound : document.Sound True ledger)
    (written : Written document preamble last source statements instructions)
    (least : ∀ slot stream, document.Reads (.vertexAttribute slot stream) → 0 ≤ stream) {statement : Statement}
    {instruction : Instruction} (member : statement ∈ statements) (line : Line last statement instruction) {name : String}
    (inside : name ∈ instruction.names) (notLiteral : literalType? name = none) :
    isIdentifier (stemOf name).toList = true := by
  have fits := written.scheduled.fits statement member
  cases line with
  | @declare value node index type expression _ _ _ renders =>
    rcases List.mem_cons.1 inside with rfl | used
    · rw [(simple_temporary index).stemOf_eq]
      exact isIdentifier_numbered (by decide) index
    · obtain ⟨reference, listed, rfl⟩ := List.mem_map.1 used
      obtain ⟨operand, read, referred⟩ := exists_of_forall₂ renders.references listed
      exact written.isIdentifier_base sound least (fits.reached read) referred notLiteral
  | @assign output value reference referred =>
    rcases List.mem_cons.1 inside with rfl | used
    · exact sound.isIdentifier_outputName (mem_of_lookup fits)
    · obtain rfl := List.mem_singleton.1 used
      exact written.isIdentifier_base sound least (fits.reached List.mem_cons_self) referred notLiteral

private theorem Written.namesIdentifiers_iff (sound : document.Sound True ledger)
    (written : Written document preamble last source statements instructions) :
    NamesIdentifiers source ↔ ∀ slot stream, document.Reads (.vertexAttribute slot stream) → 0 ≤ stream := by
  constructor
  · rintro ⟨main, found, identifiers⟩ slot stream reads
    cases found.symm.trans written.main
    have inside := written.mem_names sound.coherent reads
    have simple := simple_attributeName slot stream
    have identifier := identifiers _ (by rw [List.flatMap_append]; exact List.mem_append_right _ inside) simple.notLiteral
    rw [simple.stemOf_eq] at identifier
    exact isIdentifier_attributeName.1 identifier
  · intro least
    refine ⟨_, written.main, fun name inside notLiteral => ?_⟩
    rw [List.flatMap_append, List.mem_append] at inside
    rcases inside with opening | inside
    · generalize document.stage = stage at opening
      cases stage with
      | vertex =>
        have identifiers : ∀ name ∈ (openingInstructions .vertex).flatMap Instruction.names,
            isIdentifier (stemOf name).toList = true := by decide
        exact identifiers name opening
      | fragment => cases opening
    · obtain ⟨instruction, listed, among⟩ := List.mem_flatMap.1 inside
      obtain ⟨statement, member, line⟩ := exists_of_forall₂ written.lines listed
      exact written.isIdentifier_of_line sound least member line among notLiteral

end

private theorem Document.Reached.mem_of_closed {document : Document} {values : List Value} {value : Value}
    (reached : document.Reached value) (written : ∀ target ∈ document.writes, target.2 ∈ values)
    (closed : ∀ value ∈ values, ∀ operand ∈ value.source.operands, operand ∈ values) : value ∈ values := by
  obtain ⟨target, member, below⟩ := reached
  induction below with
  | refl => exact written target member
  | tail _ read ih => exact closed _ ih _ read

namespace Script

/-- The stages read interface variables of their own documents: an input is one that the fragment document holds, and
an output that is read back was read back from the vertex document. -/
structure Own (script : List Command) (vertexName : String) (vertex : VertexShader) (fragment : FragmentShader) :
    Prop where
  inputs : ∀ value asked, (Document.fragment fragment).Reached value → value.source = .leaf (.input asked) →
    fragment.inputs.get? asked = some value
  readBacks : ∀ value asked, (Document.vertex vertex).Reached value →
    value.source = .leaf (.output (.named asked)) → ReadsBack script vertexName asked value

/-- The sources of two documents that are built by any script of builders, and that read interface variables of their
own, are well scoped, whatever the attributes and the generator are. Variables are taken as they are written there. They
are identifiers in a fragment stage, and in a vertex stage exactly if it reads no attribute of a negative stream: the
name of such an attribute has a sign in it, so the shading language reads it as a difference of something that no line
declares. -/
theorem sources_scoped_iff (script : List Command) (vertexName fragmentName : String) (vertex : VertexShader)
    (fragment : FragmentShader) (attributes : List Attribute) (generator : Generator) (sources : Sources)
    (builders : ∀ command ∈ script, command.step.isBuilder = true)
    (vertexHeld : (Session.start.after script).documents.get? vertexName = some (.vertex vertex))
    (fragmentHeld : (Session.start.after script).documents.get? fragmentName = some (.fragment fragment))
    (own : Own script vertexName vertex fragment)
    (generated : (generator.generate vertex fragment attributes).result = .ok sources) :
    Scoped (.vertex vertex) sources.vertex ∧ Scoped (.fragment fragment) sources.fragment ∧
      NamesIdentifiers sources.fragment ∧
      (NamesIdentifiers sources.vertex ↔
        ∀ slot stream, (Document.vertex vertex).Reads (.vertexAttribute slot stream) → 0 ≤ stream) := by
  obtain ⟨ledger, sound⟩ := Session.typed_after none builders
  obtain ⟨linked, vertexDone, fragmentDone⟩ := Generator.generate_eq_ok generated
  have vertexSound : vertex.Sound True ledger := sound.document vertexHeld
  have fragmentSound : fragment.Sound True ledger := sound.document fragmentHeld
  obtain ⟨distinct, bound⟩ : attributes.Nodup ∧ ∀ value slot stream, (Document.vertex vertex).Reached value →
      value.source = .leaf (.vertexAttribute slot stream) → ⟨slot, stream⟩ ∈ attributes := by
    obtain ⟨history, leads, records⟩ := Session.exists_history ⟨False, fun _ => False⟩ none
      (fun command (_ : command ∈ script) => ⟨False.elim, fun _ => False.elim⟩)
    exact bound_of_checkLink (leads.regular (regular_beginning _)) (records.documents ▸ vertexHeld) linked
  obtain ⟨_, _, first⟩ := Generator.exists_written_vertex vertexSound vertexDone
  obtain ⟨_, _, second⟩ := Generator.exists_written_fragment fragmentSound fragmentDone
  refine ⟨?_, ?_, ?_, first.namesIdentifiers_iff (sound.document vertexHeld)⟩
  · refine first.scoped (sound.document vertexHeld)
      (vertexSound.check_opening distinct first.declared first.fields) (fun stage => ?_)
    exact vertexSound.tracks distinct first.declared first.fields (fun _ _ => first.legal) bound
      (fun value asked reached origin => (own.readBacks value asked reached origin).type_eq vertexHeld)
  · refine second.scoped (sound.document fragmentHeld) rfl (fun stage => ?_)
    exact fragmentSound.tracks second.declared second.fields (fun _ _ => second.legal) own.inputs
  · refine (second.namesIdentifiers_iff (sound.document fragmentHeld)).2 ?_
    rintro slot stream ⟨value, reached, origin⟩
    exact (second.legal reached origin : False).elim

/-- The vertex stage passes an attribute of a negative stream to its position and to the fragment stage. -/
def signed : List Command :=
  [⟨.vertexInput "v" .color (-1), some "color"⟩, ⟨.setPosition "v" "color", none⟩,
    ⟨.setOutput "v" "tint" "color", none⟩, ⟨.declareInput "f" "tint" "Vec4" none, some "tint"⟩,
    ⟨.setColor "f" "tint", none⟩]

/-- The attribute, which its source calls `iClr-1`. -/
def signed.color : Value := .mk 0 .vec4 (.leaf (.vertexAttribute .color (-1)))

/-- The input of the fragment stage. -/
def signed.tint : Value := .mk 1 .vec4 (.leaf (.input "tint"))

/-- The vertex stage of the program. -/
def signed.vertex : VertexShader := ⟨.empty, some color, none, ⟨[("tint", color)]⟩⟩

/-- The fragment stage of the program. -/
def signed.fragment : FragmentShader := ⟨.empty, ⟨[("tint", tint)]⟩, some tint⟩

open signed in
/-- The program is generated, and in its vertex stage a name is no identifier. -/
theorem signed_attribute_unidentified :
    ∃ sources, ((Generator.ofDialect .es300).generate vertex fragment [⟨.color, -1⟩]).result = .ok sources ∧
      Scoped (.vertex vertex) sources.vertex ∧ Scoped (.fragment fragment) sources.fragment ∧
      NamesIdentifiers sources.fragment ∧ ¬ NamesIdentifiers sources.vertex := by
  have own : Own signed "v" vertex fragment := by
    constructor
    · intro value asked reached origin
      have member : value ∈ [tint] :=
        reached.mem_of_closed (by simp [Document.writes, FragmentShader.writes, fragment])
          (by simp [Value.source, Source.operands, tint])
      obtain rfl := List.mem_singleton.1 member
      cases origin
      rfl
    · intro value asked reached origin
      have member : value ∈ [color] :=
        reached.mem_of_closed (by simp [Document.writes, VertexShader.writes, vertex])
          (by simp [Value.source, Source.operands, color])
      obtain rfl := List.mem_singleton.1 member
      cases origin
  have reads : (Document.vertex vertex).Reads (.vertexAttribute .color (-1)) :=
    ⟨color, ⟨(.position, color), List.mem_cons_self, color.reaches_refl⟩, rfl⟩
  obtain ⟨sources, ran⟩ :
      ∃ sources, ((Generator.ofDialect .es300).generate vertex fragment [⟨.color, -1⟩]).result = .ok sources :=
    exists_ok_of_toOption (by decide +kernel)
  obtain ⟨vertexScoped, fragmentScoped, identifiers, decided⟩ :=
    sources_scoped_iff signed "v" "f" vertex fragment [⟨.color, -1⟩] (.ofDialect .es300) sources (by decide) (by rfl)
      (by rfl) own ran
  refine ⟨sources, ran, vertexScoped, fragmentScoped, identifiers, fun identified => ?_⟩
  exact absurd (decided.1 identified .color (-1) reads) (by decide)

end Script

end Shading
