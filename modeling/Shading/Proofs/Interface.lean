import Shading.Proofs.Sources

/-!
# Inputs of the fragment stage

The source of a fragment stage declares the inputs that its document has asked for, and its body names the inputs that
its graph reads. A graph can read an input of another document, so every input that the body names is declared once
exactly if the document has asked for all of them (`interface_declared_iff`).
-/

namespace Shading

open Glsl

/-- The names in an instruction: what it writes, and what it reads variables or literals by. -/
def Glsl.Instruction.names : Instruction → List String
  | .declare _ name expression => name :: expression.references.map Reference.base
  | .assign target value => [target, value.base]

/-- The name is that of a variable that crosses from one stage to the other. -/
def isInterfaceVariable (name : String) : Bool :=
  "io_".toList.isPrefixOf name.toList

/-- The variable that a line takes in from outside. -/
def Glsl.Declaration.input? : Declaration → Option String
  | .located _ .input _ name | .varying _ .input _ name => some name
  | _ => none

/-- The variables that a source takes in. -/
def declaredInputs (source : String) : List String :=
  (declarationsOf source).filterMap Declaration.input?

/-- Every variable of the interface that the body of a source names is declared by exactly one line that takes it in. -/
def InterfaceDeclared (source : String) : Prop :=
  ∃ main, mainOf source = some main ∧ ∀ name ∈ main.flatMap Instruction.names, isInterfaceVariable name = true →
    (declaredInputs source).count name = 1

private theorem isInterfaceVariable_iff {name : String} :
    isInterfaceVariable name = true ↔ ∃ rest, name = interfaceName rest := by
  rw [isInterfaceVariable, List.isPrefixOf_iff_prefix]
  constructor
  · rintro ⟨rest, same⟩
    refine ⟨String.ofList rest, ?_⟩
    rw [← String.toList_inj, ← same]
    simp [interfaceName]
  · rintro ⟨rest, rfl⟩
    exact ⟨rest.toList, by simp [interfaceName]⟩

private theorem leaf_of_interfaceName {leaf : Leaf} {type : ShaderType} {name : String} (typed : leaf.Typed type)
    (named : leafName leaf = .ok (interfaceName name)) : leaf = .input name ∨ leaf = .output (.named name) := by
  have known := initials_interfaceName name
  cases leaf with
  | input other =>
    cases interfaceName_inj (Except.ok.inj named)
    exact .inl rfl
  | output output =>
    cases output with
    | named other =>
      cases interfaceName_inj (Except.ok.inj named)
      exact .inr rfl
    | position | pointSize | color =>
      rw [← Except.ok.inj named] at known
      exact absurd known (by decide)
  | literal plain declared =>
    cases plain with
    | text | nothing => exact typed.elim
    | constant constant =>
      obtain ⟨rfl, _⟩ := typed
      rcases constantText_cases named with same | same | numeric
      · rw [same] at known
        exact absurd known (by decide)
      · rw [same] at known
        exact absurd known (by decide)
      · have first := numeric.initials 'i' (by simp [known])
        exact absurd first (by decide)
  | vertexAttribute slot stream =>
    rw [(leafName_attribute_eq_ok.1 named).2, initials_attributeName] at known
    cases slot <;> exact absurd known (by decide)
  | instanceIndex =>
    rw [← Except.ok.inj named] at known
    exact absurd known (by decide)
  | matrix matrix =>
    rw [← Except.ok.inj named] at known
    cases matrix <;> exact absurd known (by decide)
  | uniform index =>
    have other := initials_uniformName index
    rw [Except.ok.inj named, known] at other
    exact absurd other (by decide)
  | material index field =>
    have other := initials_materialName index field
    rw [Except.ok.inj named, known] at other
    exact absurd other (by decide)
  | unknown => exact typed.elim

private theorem interfaceName_ne_temporary (name : String) (index : Int) : interfaceName name ≠ temporary index := by
  intro same
  have other := initials_temporary index
  rw [← same, initials_interfaceName] at other
  exact absurd other (by decide)

private theorem base_eq_interfaceName {temporaries : Temporaries} {value : Value} {reference : Reference}
    {name : String} (typed : ∀ read, value.Reaches read → read.Typed)
    (named : temporaries.reference value = .ok reference) :
    reference.base = interfaceName name ↔
      value.root = .leaf (.input name) ∨ value.root = .leaf (.output (.named name)) := by
  constructor
  · intro same
    rcases Temporaries.reference_cases named with ⟨leaf, _, root, spelled, rfl⟩ | ⟨node, index, _, _, rfl⟩
    · obtain ⟨read, below, origin⟩ := value.exists_reaches_root
      have fits := (typed read below).2
      rw [origin, root] at fits
      rw [root, Source.leaf.injEq, Source.leaf.injEq]
      exact leaf_of_interfaceName fits (same ▸ spelled)
    · exact absurd same.symm (interfaceName_ne_temporary name index)
  · intro root
    have spelled : temporaries.reference value = .ok ⟨interfaceName name, selectors value⟩ := by
      rcases root with root | root <;> exact Temporaries.reference_of_leaf root
    cases spelled.symm.trans named
    rfl

section

variable {fragment : FragmentShader} {statements : List Statement} {instructions : List Instruction} {name : String}

private theorem base_eq_input {ledger : Ledger} (sound : fragment.Sound True ledger)
    (scheduled : (Document.fragment fragment).plan.Scheduled statements) {temporaries : Temporaries} {value : Value}
    {reference : Reference} (reached : (Document.fragment fragment).Reached value)
    (named : temporaries.reference value = .ok reference) :
    reference.base = interfaceName name ↔ value.root = .leaf (.input name) := by
  have documentSound : (Document.fragment fragment).Sound True ledger := sound
  have typed : ∀ read, value.Reaches read → read.Typed :=
    fun read below => (documentSound.known_of_reached (reached.reaches below)).typed
  rw [base_eq_interfaceName typed named, or_iff_left]
  intro root
  obtain ⟨read, below, origin⟩ := value.exists_reaches_root
  have legal := scheduled.legal (reached.reaches below)
  rw [origin, root, Document.checkSource_leaf] at legal
  exact legal

private theorem mem_names_of_line {ledger : Ledger} (sound : fragment.Sound True ledger)
    (scheduled : (Document.fragment fragment).plan.Scheduled statements) {last : Temporaries} {statement : Statement}
    {instruction : Instruction} (member : statement ∈ statements) (line : Line last statement instruction) :
    interfaceName name ∈ instruction.names ↔ ∃ read ∈ statement.reads, read.root = .leaf (.input name) := by
  have fits := scheduled.fits statement member
  cases line with
  | @declare value node index type expression _ _ _ renders =>
    have pairs := renders.references
    simp only [Instruction.names, List.mem_cons, interfaceName_ne_temporary, false_or, List.mem_map]
    constructor
    · rintro ⟨reference, listed, base⟩
      obtain ⟨operand, read, named⟩ := exists_of_forall₂ pairs listed
      exact ⟨operand, read, (base_eq_input sound scheduled (fits.reached read) named).1 base⟩
    · rintro ⟨operand, read, root⟩
      obtain ⟨reference, listed, named⟩ := exists_of_forall₂ pairs.flip read
      exact ⟨reference, listed, (base_eq_input sound scheduled (fits.reached read) named).2 root⟩
  | @assign output value reference named =>
    have target : output = .color := (FragmentShader.mem_writes.1 (mem_of_lookup fits)).1
    have other : interfaceName name ≠ outputName output := by
      intro same
      have known := initials_interfaceName name
      rw [same, target] at known
      exact absurd known (by decide)
    have read : reference.base = interfaceName name ↔ value.root = .leaf (.input name) :=
      base_eq_input sound scheduled (fits.reached List.mem_cons_self) named
    simp only [Instruction.names, List.mem_cons, other, false_or, List.not_mem_nil, or_false, Statement.reads,
      exists_eq_left]
    rw [eq_comm, read]

private theorem mem_names_iff {ledger : Ledger} (sound : fragment.Sound True ledger) {preamble : Preamble}
    {last : Temporaries} {source : String}
    (written : Written (.fragment fragment) preamble last source statements instructions) :
    interfaceName name ∈ instructions.flatMap Instruction.names ↔
      ∃ value, (Document.fragment fragment).Reached value ∧ value.source = .leaf (.input name) := by
  have documentSound : (Document.fragment fragment).Sound True ledger := sound
  have scheduled := written.scheduled
  rw [List.mem_flatMap]
  constructor
  · rintro ⟨instruction, listed, named⟩
    obtain ⟨statement, member, line⟩ := exists_of_forall₂ written.lines listed
    obtain ⟨read, among, root⟩ := (mem_names_of_line sound scheduled member line).1 named
    obtain ⟨value, below, origin⟩ := read.exists_reaches_root
    exact ⟨value, ((scheduled.fits statement member).reached among).reaches below, origin.trans root⟩
  · rintro ⟨value, reached, origin⟩
    obtain ⟨statement, member, read, among, root⟩ := scheduled.exists_read documentSound.coherent reached
    obtain ⟨instruction, listed, line⟩ := exists_of_forall₂ written.lines.flip member
    refine ⟨instruction, listed, (mem_names_of_line sound scheduled member line).2 ⟨read, among, ?_⟩⟩
    exact root.trans (Value.root_of_leaf origin)

private theorem filterMap_input? (fragment : FragmentShader) :
    fragment.preamble.declarations.filterMap Declaration.input? =
      "iid" :: fragment.inputs.entries.map (fun entry => interfaceName entry.1) := by
  have uniforms : (fragment.resources.uniformsByIndex.map uniformDeclaration).filterMap Declaration.input? = [] := by
    rw [List.filterMap_map]
    exact List.filterMap_eq_nil_iff.2 (fun _ _ => rfl)
  have inputs : (fragment.inputTypes.map (interfaceDeclaration .input)).filterMap Declaration.input? =
      fragment.inputs.entries.map (fun entry => interfaceName entry.1) := by
    rw [FragmentShader.inputTypes, List.map_map, List.filterMap_map]
    exact congrFun List.filterMap_eq_map' _
  simp only [Preamble.declarations, FragmentShader.preamble, List.filterMap_append, uniforms, inputs, List.filterMap_cons]
  simp [Preamble.tables, Declaration.input?]

private theorem count_declaredInputs {source : String} (formed : fragment.Formed)
    (declared : declarationsOf source = fragment.preamble.declarations) :
    (declaredInputs source).count (interfaceName name) = if (fragment.inputs.get? name).isSome then 1 else 0 := by
  have other : "iid" ≠ interfaceName name := by
    intro same
    have known := initials_interfaceName name
    rw [← same] at known
    exact absurd known (by decide)
  have names : (fragment.inputs.entries.map (fun entry => interfaceName entry.1)).count (interfaceName name) =
      (fragment.inputs.entries.map Prod.fst).count name := by
    rw [← List.count_map_of_injective _ interfaceName (fun _ _ same => interfaceName_inj same) name, List.map_map]
    rfl
  rw [declaredInputs, declared, filterMap_input?, List.count_cons_of_ne other, names]
  have distinct : (fragment.inputs.entries.map Prod.fst).Nodup := formed.named
  cases found : fragment.inputs.get? name with
  | some own =>
    have listed := List.mem_map_of_mem (f := Prod.fst) (Table.mem_of_get? found)
    simpa using List.count_eq_one_of_mem distinct listed
  | none =>
    have absent : name ∉ fragment.inputs.entries.map Prod.fst := by
      rintro listed
      obtain ⟨⟨_, own⟩, member, rfl⟩ := List.mem_map.1 listed
      exact nomatch found.symm.trans (lookup_of_mem distinct member)
    simpa using List.count_eq_zero_of_not_mem absent

end

namespace Script

/-- For any fragment document of a script of builders, which may read values of any other document, with any vertex
document, any attributes and any generator that succeeds on them: every variable of the interface that the body of the
fragment source names is declared by exactly one line, if and only if the fragment document has asked for every input
that it reads. An input that it reads and has not asked for is named in the body, and declared by no line. -/
theorem interface_declared_iff (script : List Command) (name : String) (vertex : VertexShader)
    (fragment : FragmentShader) (attributes : List Attribute) (generator : Generator) (sources : Sources)
    (builders : ∀ command ∈ script, command.step.isBuilder = true)
    (held : (Session.start.after script).documents.get? name = some (.fragment fragment))
    (generated : (generator.generate vertex fragment attributes).result = .ok sources) :
    (InterfaceDeclared sources.fragment ↔ ∀ value asked, (Document.fragment fragment).Reached value →
      value.source = .leaf (.input asked) → ∃ own, fragment.inputs.get? asked = some own) ∧
      ∀ value asked, (Document.fragment fragment).Reached value → value.source = .leaf (.input asked) →
        fragment.inputs.get? asked = none →
        (∃ main, mainOf sources.fragment = some main ∧ interfaceName asked ∈ main.flatMap Instruction.names) ∧
          (declaredInputs sources.fragment).count (interfaceName asked) = 0 := by
  obtain ⟨ledger, sound⟩ := Session.typed_after none builders
  have fragmentSound : fragment.Sound True ledger := sound.document held
  obtain ⟨_, _, done⟩ := Generator.generate_eq_ok generated
  obtain ⟨statements, instructions, written⟩ := Generator.exists_written_fragment fragmentSound done
  have main : mainOf sources.fragment = some instructions := written.main
  have named : ∀ asked, interfaceName asked ∈ instructions.flatMap Instruction.names ↔
      ∃ value, (Document.fragment fragment).Reached value ∧ value.source = .leaf (.input asked) :=
    fun asked => mem_names_iff fragmentSound written
  have counted : ∀ asked, (declaredInputs sources.fragment).count (interfaceName asked) =
      if (fragment.inputs.get? asked).isSome then 1 else 0 :=
    fun asked => count_declaredInputs fragmentSound.toFormed written.declared
  refine ⟨⟨?_, ?_⟩, ?_⟩
  · rintro ⟨_, same, once⟩ value asked reached origin
    cases main.symm.trans same
    have one := once _ ((named asked).2 ⟨value, reached, origin⟩) (isInterfaceVariable_iff.2 ⟨asked, rfl⟩)
    rw [counted] at one
    exact Option.isSome_iff_exists.1 (by_contra (fun absent => by simp [absent] at one))
  · intro own
    refine ⟨instructions, main, fun variableName member isVariable => ?_⟩
    obtain ⟨asked, rfl⟩ := isInterfaceVariable_iff.1 isVariable
    obtain ⟨value, reached, origin⟩ := (named asked).1 member
    obtain ⟨_, found⟩ := own value asked reached origin
    rw [counted, found]
    rfl
  · intro value asked reached origin absent
    refine ⟨⟨instructions, main, (named asked).2 ⟨value, reached, origin⟩⟩, ?_⟩
    rw [counted, absent]
    rfl

/-- The color is an input of another fragment document. -/
def strayInput : List Command :=
  [⟨.newDocument "g" .fragment, none⟩, ⟨.declareInput "g" "x" "Vec4" none, some "x"⟩, ⟨.setColor "f" "x", none⟩]

/-- The fragment stage, which has not asked for any input. -/
def strayInput.fragment : FragmentShader :=
  { FragmentShader.empty with color := some (.mk 0 .vec4 (.leaf (.input "x"))) }

open strayInput in
/-- The sources are generated, and the body of the fragment source names a variable that it does not declare. -/
theorem stray_input_undeclared :
    ∃ sources, ((Generator.ofDialect .es300).generate .empty fragment []).result = .ok sources ∧
      ¬ InterfaceDeclared sources.fragment ∧ (declaredInputs sources.fragment).count "io_x" = 0 := by
  have reached : (Document.fragment fragment).Reached (.mk 0 .vec4 (.leaf (.input "x"))) :=
    ⟨(.color, _), List.mem_cons_self, Value.reaches_refl _⟩
  obtain ⟨sources, ran⟩ : ∃ sources, ((Generator.ofDialect .es300).generate .empty fragment []).result = .ok sources :=
    exists_ok_of_toOption (by decide +kernel)
  have known := interface_declared_iff strayInput "f" .empty fragment [] (.ofDialect .es300) sources (by decide)
    (by rfl) ran
  refine ⟨sources, ran, fun declared => ?_, (known.2 _ "x" reached rfl rfl).2⟩
  obtain ⟨own, found⟩ := known.1.1 declared _ "x" reached rfl
  exact nomatch found

end Script

end Shading
