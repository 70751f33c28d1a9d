import Shading.Proofs.Sources

/-!
# Uniforms that both stages declare

The two stages of a program share their uniforms by name, but each document numbers its own from zero. So a name that
both sources declare has one type and stands for one uniform exactly if the documents ask for the same uniforms in the
same order, as far as both go (`uniforms_agree_iff`).
-/

namespace Shading

open Glsl

/-- The type and the name of the uniform that a line declares. -/
def readUniform (line : String) : Option (String × String) :=
  match Text.split ' ' line.toList with
  | [word, type, rest] =>
    if String.ofList word = "uniform" then
      (endedBy ';' rest).map (fun name => (String.ofList type, String.ofList name))
    else none
  | _ => none

/-- The uniforms that stages have without asking for them. -/
def builtinUniforms : List String :=
  ["vMtx", "pMtx", "materials[16]", "materialTextures[16]"]

/-- A uniform, as a type and a name, that a document has to ask for. -/
def isCustom (declared : String × String) : Bool :=
  !builtinUniforms.contains declared.2

/-- The types and the names of the uniforms that a source declares, the built-in ones aside. -/
def declaredUniforms (source : String) : List (String × String) :=
  (((Text.lines source).takeWhile (fun line => line ≠ bodyHeader)).filterMap readUniform).filter isCustom

/-- The type and the name of a uniform. -/
def Glsl.Declaration.uniform? : Declaration → Option (String × String)
  | .uniform type name => some (type, name)
  | _ => none

private theorem uniform?_readWords (words : List String) : (readWords words).bind Declaration.uniform? =
    match words with
    | [word, type, last] => if word = "uniform" then (readLast last).map (fun name => (type, name)) else none
    | _ => none := by
  unfold readWords
  split
  · rename_i type last
    cases found : readLast last <;> simp [found, Declaration.uniform?]
  · rename_i side type last
    cases readSide side <;> cases readLast last <;> rfl
  · rename_i number side type last
    cases endedBy ')' number.toList with
    | none => rfl
    | some digits =>
      cases found : readNumber digits <;> cases readSide side <;> cases readLast last <;>
        simp [found, Declaration.uniform?]
  · rename_i side type last other
    have differs : side ≠ "uniform" := other
    cases readSide side <;> cases found : readLast last <;> simp [differs, Declaration.uniform?]
  · split
    · rename_i side type last _ _ _ others
      exact absurd rfl (others side type last)
    · rfl

private theorem readUniform_eq (line : String) : readUniform line =
    (readDeclaration line).bind Declaration.uniform? := by
  rw [readDeclaration, uniform?_readWords, readUniform]
  rcases Text.split ' ' line.toList with _ | ⟨word, _ | ⟨type, _ | ⟨last, _ | ⟨_, _⟩⟩⟩⟩
  · rfl
  · rfl
  · rfl
  · simp [readLast, Option.map_map, Function.comp_def]
  · rfl

private theorem declaredUniforms_eq (source : String) :
    declaredUniforms source = ((declarationsOf source).filterMap Declaration.uniform?).filter isCustom := by
  rw [declaredUniforms, declarationsOf, List.filterMap_filterMap]
  exact congrArg _ (List.filterMap_congr (fun line _ => readUniform_eq line))

/-- A source declares what a document asks for: each uniform has a type with a spelling, and the source declares
exactly the uniforms of the table under the names of their indices. -/
structure Declares (resources : Resources) (source : String) : Prop where
  spelled : ∀ entry ∈ resources.uniforms.entries, ∃ type, spelling entry.2.type = .ok type
  listed : ∀ type name, (type, name) ∈ declaredUniforms source ↔ ∃ entry ∈ resources.uniforms.entries,
    spelling entry.2.type = .ok type ∧ name = uniformName entry.2.uniformIndex

theorem mem_uniformsByIndex {resources : Resources} {value : Value} :
    value ∈ resources.uniformsByIndex ↔ ∃ entry ∈ resources.uniforms.entries, entry.2 = value := by
  simp [Resources.uniformsByIndex, Table.values]

private theorem uniformName_not_builtin (index : Int) : uniformName index ∉ builtinUniforms := by
  intro builtin
  have chars : (uniformName index).toList.head? = some 'u' := by simp [uniformName]
  simp only [builtinUniforms, List.mem_cons, List.not_mem_nil, or_false] at builtin
  rcases builtin with same | same | same | same <;> rw [same] at chars <;> exact absurd chars (by decide)

private theorem filter_uniformDeclarations (values : List Value) :
    ((values.map uniformDeclaration).filterMap Declaration.uniform?).filter isCustom =
      values.map (fun value => (wordOf value.type, uniformName value.uniformIndex)) := by
  have kept : ∀ declared ∈ values.map (fun value => (wordOf value.type, uniformName value.uniformIndex)),
      isCustom declared = true := by
    intro declared member
    obtain ⟨value, _, rfl⟩ := List.mem_map.1 member
    simp [isCustom, uniformName_not_builtin]
  have found : (values.map uniformDeclaration).filterMap Declaration.uniform? =
      values.map (fun value => (wordOf value.type, uniformName value.uniformIndex)) := by
    rw [List.filterMap_map]
    exact congrFun List.filterMap_eq_map' values
  rw [found]
  exact List.filter_eq_self.2 kept

private theorem declares_of_preamble {resources : Resources} {preamble : Preamble} {source : String}
    (spelled : ∀ value ∈ resources.uniformsByIndex, spelling value.type = .ok (wordOf value.type))
    (declared : declarationsOf source = preamble.declarations) {builtins : List Declaration}
    (uniforms : preamble.uniforms = builtins ++ resources.uniformsByIndex.map uniformDeclaration)
    (builtin : (builtins.filterMap Declaration.uniform?).filter isCustom = [])
    (interface : ∀ declaration ∈ preamble.interface, declaration.uniform? = none) : Declares resources source := by
  have each : ∀ entry ∈ resources.uniforms.entries, spelling entry.2.type = .ok (wordOf entry.2.type) :=
    fun entry member => spelled _ (mem_uniformsByIndex.2 ⟨entry, member, rfl⟩)
  have tables : (preamble.tables.filterMap Declaration.uniform?).filter isCustom = [] := by
    rw [Preamble.tables]
    cases preamble.hasTextures <;> decide +kernel
  refine ⟨fun entry member => ⟨_, each entry member⟩, fun type name => ?_⟩
  rw [declaredUniforms_eq, declared, Preamble.declarations, uniforms]
  simp only [List.filterMap_append, List.filter_append, builtin, filter_uniformDeclarations,
    List.filterMap_eq_nil_iff.2 interface, tables, List.nil_append, List.append_nil, List.mem_map]
  constructor
  · rintro ⟨value, member, same⟩
    cases same
    obtain ⟨entry, entered, rfl⟩ := mem_uniformsByIndex.1 member
    exact ⟨entry, entered, each entry entered, rfl⟩
  · rintro ⟨entry, entered, spelledType, rfl⟩
    exact ⟨entry.2, mem_uniformsByIndex.2 ⟨entry, entered, rfl⟩, by rw [eq_wordOf spelledType]⟩

namespace Generator

variable {generator : Generator} {strict : Prop} {ledger : Ledger}

private theorem declares_vertexSource {vertex : VertexShader} {attributes : List Attribute} {text : String}
    (sound : vertex.Sound strict ledger) (done : (generator.vertexSource vertex attributes).result = .ok text) :
    Declares vertex.resources text := by
  obtain ⟨preamble, body, found, _, _, rfl⟩ := source_eq_ok done
  obtain ⟨spelled, rfl⟩ := vertexPreamble_eq_ok found
  have builtin : ([.uniform "mat4" "vMtx", .uniform "mat4" "pMtx"].filterMap Declaration.uniform?).filter isCustom = [] := by
    decide +kernel
  refine declares_of_preamble spelled ((sound.plain_preamble attributes).declarationsOf_assemble _ body) rfl builtin ?_
  intro declaration member
  simp only [VertexShader.preamble, List.mem_append, List.mem_cons, List.mem_map, List.mem_mapIdx] at member
  rcases member with ⟨index, _, rfl⟩ | rfl | rfl | ⟨entry, _, rfl⟩ <;> rfl

private theorem declares_fragmentSource {fragment : FragmentShader} {text : String}
    (sound : fragment.Sound strict ledger) (done : (generator.fragmentSource fragment).result = .ok text) :
    Declares fragment.resources text := by
  obtain ⟨preamble, body, found, _, _, rfl⟩ := source_eq_ok done
  obtain ⟨spelled, rfl⟩ := fragmentPreamble_eq_ok found
  have plain := sound.plain_preamble
  refine declares_of_preamble spelled (plain.declarationsOf_assemble _ body) (List.nil_append _).symm rfl ?_
  intro declaration member
  simp only [FragmentShader.preamble, List.mem_append, List.mem_cons, List.mem_map, List.not_mem_nil, or_false] at member
  rcases member with (rfl | ⟨entry, _, rfl⟩) | rfl <;> rfl

end Generator

/-- A variable stands for the uniform that is asked for under a name. -/
def Resources.StandsFor (resources : Resources) (variableName name : String) : Prop :=
  ∃ value leaf, resources.uniforms.get? name = some value ∧ value.source = .leaf leaf ∧
    leafName leaf = .ok variableName

/-- A variable that both sources declare has the same type in both, and stands for a uniform of the same name. -/
def UniformsAgree (vertex fragment : Resources) (sources : Sources) : Prop :=
  ∀ variableName first second, (first, variableName) ∈ declaredUniforms sources.vertex →
    (second, variableName) ∈ declaredUniforms sources.fragment →
    first = second ∧ ∃ name, vertex.StandsFor variableName name ∧ fragment.StandsFor variableName name

/-- As far as two tables both go, they ask for the same names and types in the same order. -/
def Resources.SameOrder (first second : Resources) : Prop :=
  ∀ (index : Nat) (entry other : String × Value), first.uniforms.entries[index]? = some entry →
    second.uniforms.entries[index]? = some other → entry.1 = other.1 ∧ entry.2.type = other.2.type

section

variable {strict : Prop} {ledger : Ledger} {resources : Resources}

theorem Resources.Sound.exists_index (sound : resources.Sound strict ledger) {entry : String × Value}
    (entered : entry ∈ resources.uniforms.entries) :
    ∃ index : Nat, resources.uniforms.entries[index]? = some entry ∧ entry.2.uniformIndex = index := by
  obtain ⟨index, found⟩ := List.mem_iff_getElem?.1 entered
  refine ⟨index, found, ?_⟩
  rw [Value.uniformIndex, sound.numbered found]

/-- A variable stands for the uniform whose index it has. -/
theorem Resources.Sound.standsFor_iff (sound : resources.Sound strict ledger) {index : Nat} {name : String} :
    resources.StandsFor (uniformName index) name ↔
      ∃ value, resources.uniforms.entries[index]? = some (name, value) := by
  constructor
  · rintro ⟨value, leaf, found, origin, named⟩
    obtain ⟨position, at_, _⟩ := sound.exists_index (Table.mem_of_get? found)
    rw [sound.numbered at_] at origin
    cases origin
    have same := uniformName_inj (Except.ok.inj named)
    exact ⟨value, same ▸ at_⟩
  · rintro ⟨value, found⟩
    exact ⟨value, _, lookup_of_mem sound.named (List.mem_of_getElem? found), sound.numbered found, rfl⟩

variable {vertex fragment : Resources} {other : Ledger} {sources : Sources}

private theorem uniformsAgree_iff_sameOrder (vertexSound : vertex.Sound strict ledger)
    (fragmentSound : fragment.Sound strict other) (vertexDeclares : Declares vertex sources.vertex)
    (fragmentDeclares : Declares fragment sources.fragment) :
    UniformsAgree vertex fragment sources ↔ vertex.SameOrder fragment := by
  constructor
  · intro agree index entry other found foundOther
    have entered := List.mem_of_getElem? found
    have enteredOther := List.mem_of_getElem? foundOther
    obtain ⟨type, spelled⟩ := vertexDeclares.spelled entry entered
    obtain ⟨typeOther, spelledOther⟩ := fragmentDeclares.spelled other enteredOther
    have number : entry.2.uniformIndex = index := by rw [Value.uniformIndex, vertexSound.numbered found]
    have numberOther : other.2.uniformIndex = index := by rw [Value.uniformIndex, fragmentSound.numbered foundOther]
    have declared := (vertexDeclares.listed type (uniformName index)).2 ⟨entry, entered, spelled, by rw [number]⟩
    have declaredOther := (fragmentDeclares.listed typeOther (uniformName index)).2
      ⟨other, enteredOther, spelledOther, by rw [numberOther]⟩
    obtain ⟨rfl, name, stands, standsOther⟩ := agree _ _ _ declared declaredOther
    obtain ⟨value, again⟩ := vertexSound.standsFor_iff.1 stands
    obtain ⟨valueOther, againOther⟩ := fragmentSound.standsFor_iff.1 standsOther
    rw [found] at again
    rw [foundOther] at againOther
    cases again
    cases againOther
    exact ⟨rfl, spelling_inj spelled spelledOther⟩
  · intro same variableName first second declared declaredOther
    obtain ⟨entry, entered, spelled, rfl⟩ := (vertexDeclares.listed _ _).1 declared
    obtain ⟨other, enteredOther, spelledOther, alike⟩ := (fragmentDeclares.listed _ _).1 declaredOther
    obtain ⟨index, found, number⟩ := vertexSound.exists_index entered
    obtain ⟨position, foundOther, numberOther⟩ := fragmentSound.exists_index enteredOther
    rw [number, numberOther] at alike
    obtain rfl := uniformName_inj alike
    obtain ⟨sameName, sameType⟩ := same index entry other found foundOther
    refine ⟨?_, entry.1, ?_, ?_⟩
    · rw [sameType, spelledOther] at spelled
      exact (Except.ok.inj spelled).symm
    · rw [number]
      exact vertexSound.standsFor_iff.2 ⟨entry.2, found⟩
    · rw [number]
      exact fragmentSound.standsFor_iff.2 ⟨other.2, by rw [sameName]; exact foundOther⟩

end

namespace Script

/-- For any two documents of any script, any attributes and any generator that succeeds on them: the sources agree on
the uniforms that they share by name if and only if the documents ask for the same uniforms in the same order, as far as
both go. -/
theorem uniforms_agree_iff (script : List Command) (vertexName fragmentName : String) (vertex : VertexShader)
    (fragment : FragmentShader) (attributes : List Attribute) (generator : Generator) (sources : Sources)
    (vertexHeld : (Session.start.after script).documents.get? vertexName = some (.vertex vertex))
    (fragmentHeld : (Session.start.after script).documents.get? fragmentName = some (.fragment fragment))
    (generated : (generator.generate vertex fragment attributes).result = .ok sources) :
    UniformsAgree vertex.resources fragment.resources sources ↔ vertex.resources.SameOrder fragment.resources := by
  obtain ⟨ledger, sound⟩ := Session.sound_after none script
  have vertexSound : vertex.Sound False ledger := sound.document vertexHeld
  have fragmentSound : fragment.Sound False ledger := sound.document fragmentHeld
  obtain ⟨_, vertexDone, fragmentDone⟩ := Generator.generate_eq_ok generated
  exact uniformsAgree_iff_sameOrder vertexSound.resources fragmentSound.resources
    (Generator.declares_vertexSource vertexSound vertexDone)
    (Generator.declares_fragmentSource fragmentSound fragmentDone)

/-- The stages ask for different uniforms, and both get the first number. -/
def clashing : List Command :=
  [⟨.uniform "v" "scale" none none, none⟩, ⟨.uniform "f" "tint" (some "Vec4") none, none⟩]

/-- The vertex stage, which asks for a number. -/
def clashing.vertex : VertexShader :=
  { VertexShader.empty with resources.uniforms := ⟨[("scale", .mk 0 .float (.leaf (.uniform 0 .float)))]⟩ }

/-- The fragment stage, which asks for a color. -/
def clashing.fragment : FragmentShader :=
  { FragmentShader.empty with resources.uniforms := ⟨[("tint", .mk 1 .vec4 (.leaf (.uniform 0 .vec4)))]⟩ }

open clashing in
/-- The sources are generated, and declare a variable with two types. -/
theorem uniforms_clash : ∃ sources, ((Generator.ofDialect .es300).generate vertex fragment []).result = .ok sources ∧
    ¬ UniformsAgree vertex.resources fragment.resources sources := by
  have generated : ((Generator.ofDialect .es300).generate vertex fragment []).result.toOption.isSome = true := by
    decide +kernel
  cases ran : ((Generator.ofDialect .es300).generate vertex fragment []).result with
  | error =>
    rw [ran] at generated
    exact absurd generated Bool.false_ne_true
  | ok sources =>
    refine ⟨sources, rfl, fun agree => ?_⟩
    have same := (uniforms_agree_iff clashing "v" "f" vertex fragment [] (.ofDialect .es300) sources (by rfl) (by rfl)
      ran).1 agree
    exact absurd (same 0 _ _ rfl rfl).1 (by decide)

end Script

end Shading
