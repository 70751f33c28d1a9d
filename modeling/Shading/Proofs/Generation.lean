import Shading.Generator
import Shading.Proofs.Documents
import Shading.Proofs.Rendering
import Shading.Proofs.Scheduling
import Shading.Proofs.Showing

/-!
# When sources are generated

The sources of two stages that fit together are generated exactly if every named variable between them can be passed,
the numbers of the bound attributes can be written, and each stage reads only what it may read, reads back only outputs
that are written, has no output that depends on itself, and reads leaves that have a spelling. Otherwise the generation
fails with a violation, unless a number has too many digits or the values to be shown stand too deep inside each other
(`generate_ok_iff_renderable`).
-/

namespace Shading

open Glsl

/-- A leaf belongs to the stage of a document, and a uniform to the document itself. -/
def Leaf.Legal (document : Document) (leaf : Leaf) : Prop :=
  match document.stage, leaf with
  | .vertex, .input _ | .vertex, .output .color | .vertex, .material _ .texture => False
  | .fragment, .vertexAttribute _ _ | .fragment, .matrix _ => False
  | .fragment, .output .position | .fragment, .output .pointSize | .fragment, .output (.named _) => False
  | _, .uniform index type =>
    ∃ entry ∈ document.resources.uniforms.entries, entry.2.source = .leaf (.uniform index type)
  | _, _ => True

/-- What a stage needs is legal in it, written if it is an output that is read back, and finite and not too long if it is a
number, and no output depends on itself. -/
structure Document.Renderable (document : Document) : Prop where
  legal : ∀ leaf, document.Reads leaf → leaf.Legal document
  written : ∀ output, document.Reads (.output output) → ∃ held, (output, held) ∈ document.writes
  spelled : ∀ leaf, document.Reads leaf → Spelled leaf
  acyclic : document.Acyclic

/-- How a stage is refused: with a violation, or because a number that it reads has too many digits, or, if an output
depends on itself, because a value that it needs has more values inside each other than can be shown. -/
inductive Document.Refusal (document : Document) (levels : Option Nat) : Error → Prop where
  | violation {cause : Violation} : document.Refusal levels (.violation cause)
  | long {leaf : Leaf} (read : document.Reads leaf) (long : leaf.Long) :
      document.Refusal levels (.unshown .longNumeral)
  | deep {limit : Nat} {value : Value} (limited : levels = some limit) (reached : document.Reached value)
      (nests : value.Nests limit) (cyclic : ¬ document.Acyclic) : document.Refusal levels (.unshown .tooDeep)

/-- The check of a leaf in a plan is whether it is legal. -/
theorem Document.checkSource_leaf {document : Document} {leaf : Leaf} :
    document.plan.checkSource (.leaf leaf) = .ok () ↔ leaf.Legal document := by
  cases leaf with
  | uniform index type =>
    have legal : Leaf.Legal document (.uniform index type) ↔ (index, type) ∈ document.plan.uniforms := by
      simp only [Document.mem_plan_uniforms, Source.uniform?_eq_some_iff]
      cases document <;> rfl
    have available : (Leaf.uniform index type).isAvailable document.plan.stage = true := by
      cases document <;> rfl
    simp [legal, Plan.checkSource, available]
  | output output =>
    cases document <;> cases output <;>
      simp [Plan.checkSource, Leaf.Legal, Document.plan, Document.stage, Leaf.isAvailable]
  | material index field =>
    cases document <;> cases field <;>
      simp [Plan.checkSource, Leaf.Legal, Document.plan, Document.stage, Leaf.isAvailable]
  | _ => cases document <;> simp [Plan.checkSource, Leaf.Legal, Document.plan, Document.stage, Leaf.isAvailable]

private theorem Document.readable_iff_renderable {document : Document} (coherent : document.plan.Coherent)
    {statements : List Statement} (scheduled : document.plan.Scheduled statements) :
    (∀ before statement after, statements = before ++ statement :: after → ∀ value ∈ statement.reads,
      Readable before value.root) ↔ document.Renderable := by
  constructor
  · intro readable
    refine ⟨?_, ?_, ?_, (scheduled.nodesFirst_iff coherent).1 ?_⟩
    · rintro leaf ⟨value, reached, origin⟩
      rw [← Document.checkSource_leaf, ← origin]
      exact scheduled.legal reached
    · rintro output ⟨value, reached, origin⟩
      obtain ⟨held, member⟩ := mem_writtenOutputs.1 (scheduled.written reached origin)
      exact ⟨held, mem_of_lookup (scheduled.fits _ member)⟩
    · rintro leaf ⟨value, reached, origin⟩
      obtain ⟨statement, member, read, named, root⟩ := scheduled.exists_read coherent reached
      obtain ⟨before, after, split⟩ := List.append_of_mem member
      exact (readable before statement after split read named).leaf leaf (by rw [root, Value.root_of_leaf origin])
    · intro before statement after split value read node isNode
      obtain ⟨declared, member, same⟩ :=
        mem_declaredNodes.1 ((readable before statement after split value read).node node isNode)
      exact ⟨declared, member, same⟩
  · intro renderable before statement after split value read
    have nodes := scheduled.nodesFirst renderable.acyclic
    have fits := scheduled.fits statement (by simp [split])
    refine ⟨fun node isNode => ?_, fun leaf root => ?_⟩
    · obtain ⟨declared, member, same⟩ := nodes before statement after split value read node isNode
      exact mem_declaredNodes.2 ⟨declared, member, same⟩
    · obtain ⟨origin, below, same⟩ := value.exists_reaches_root
      exact renderable.spelled leaf ⟨origin, (fits.reached read).reaches below, same.trans root⟩

private theorem Document.not_renderable {document : Document} {cause : Violation}
    (reason : document.plan.Unschedulable cause) : ¬ document.Renderable := by
  intro renderable
  cases reason with
  | @illegal value _ reached refused =>
    cases origin : value.source with
    | leaf leaf =>
      rw [origin, Document.checkSource_leaf.2 (renderable.legal leaf ⟨value, reached, origin⟩)] at refused
      exact nomatch refused
    | _ =>
      rw [origin] at refused
      exact nomatch refused
  | @unwritten value output reached origin missing =>
    obtain ⟨held, member⟩ := renderable.written output ⟨value, reached, origin⟩
    have differs := List.lookup_eq_none_iff.1 missing (output, held) member
    simp at differs
  | circular cycle => exact renderable.acyclic _ cycle

namespace Document

variable {document : Document} {levels : Option Nat} {cause : Violation} {fault : DisplayFault}

/-- A violation is raised, unless something in its wording cannot be shown. -/
private theorem refusal_raised
    (shown : ∀ fault, cause.displayFault? levels = some fault → document.Refusal levels (.unshown fault)) :
    document.Refusal levels ((Error.violation cause).raised levels) := by
  cases faulty : cause.displayFault? levels with
  | none =>
    rw [Error.raised_of_shown faulty]
    exact .violation
  | some fault =>
    rw [Error.raised_of_fault faulty]
    exact shown fault faulty

private theorem refusal_of_leaf {leaf : Leaf} (read : document.Reads leaf) (faulty : leaf.displayFault? = some fault) :
    document.Refusal levels (.unshown fault) := by
  obtain ⟨rfl, long⟩ := Leaf.long_of_displayFault? faulty
  exact .long read long

private theorem refusal_of_unschedulable (reason : document.plan.Unschedulable cause) :
    document.Refusal levels ((Error.violation cause).raised levels) := by
  refine refusal_raised (fun fault faulty => ?_)
  cases reason with
  | unwritten | circular => cases faulty
  | @illegal value _ reached refused =>
    cases origin : value.source with
    | leaf leaf =>
      have read : document.Reads leaf := ⟨value, reached, origin⟩
      rw [origin] at refused
      unfold Plan.checkSource at refused
      dsimp only at refused
      split at refused
      · split at refused
        · rename_i index type
          split at refused
          · cases refused
          · cases refused
            exact refusal_of_leaf read faulty
        · split at refused <;> cases refused
          cases faulty
        · cases refused
      · cases refused
        exact refusal_of_leaf read faulty
    | _ =>
      rw [origin] at refused
      cases refused

private theorem refusal_of_unnamed {Declared : Nat → Prop} {value : Value} {error : Error}
    (reached : document.Reached value)
    (cyclic : ∀ node, value.root.node? = some node → ¬ Declared node → ¬ document.Acyclic)
    (unnamed : Unnamed Declared value error) : document.Refusal levels (error.raised levels) := by
  cases unnamed with
  | @leaf read leaf _ below origin unspelled =>
    cases unspelled with
    | infinite => exact .violation
    | long long =>
      refine .long ⟨read, reached.reaches below, origin⟩ ?_
      cases leaf with
      | vertexAttribute slot stream => exact ⟨stream, rfl, Nat.not_lt.1 long⟩
      | literal plain type =>
        cases plain with
        | constant constant =>
          cases constant with
          | int number => exact ⟨number, rfl, Nat.not_lt.1 long⟩
          | _ => exact absurd trivial long
        | _ => exact absurd trivial long
      | _ => exact absurd trivial long
  | @node read node below isNode late =>
    refine refusal_raised (fun fault faulty => ?_)
    rcases Value.displayFault?_cases faulty with ⟨rfl, limit, limited, nests⟩ | ⟨rfl, last, leaf, under, origin, long⟩
    · exact .deep limited (reached.reaches below) nests (cyclic node isNode late)
    · exact .long ⟨last, reached.reaches (below.trans under), origin⟩ long

end Document

namespace Generator

variable {generator : Generator}

private theorem okIff_body {ledger : Ledger} {document : Document} (sound : document.Sound True ledger)
    (ternary : generator.branching = .ternary) (stage : Option Stage) :
    OkIff (document.Refusal generator.levels) document.Renderable ((generator.renew stage).body document).result := by
  have typed : ∀ value, document.Reached value → value.Typed :=
    fun value reached => (sound.known_of_reached reached).typed
  unfold body
  rcases Plan.schedule_cases sound.coherent with ⟨statements, done, scheduled⟩ | ⟨cause, failed, reason⟩
  · rw [Document.schedule, done]
    have none : (Temporaries.start stage).Numbers (declaredNodes []) := Temporaries.numbers_start stage
    have stops : ∀ before statement after, statements = before ++ statement :: after → ∀ value ∈ statement.reads,
        ∀ error, Unnamed (· ∈ declaredNodes ([] ++ before)) value error →
          document.Refusal generator.levels (error.raised generator.levels) := by
      intro before statement after split value read error unnamed
      refine Document.refusal_of_unnamed ((scheduled.fits statement (by simp [split])).reached read) ?_ unnamed
      intro node isNode late acyclic
      obtain ⟨declared, member, same⟩ := scheduled.nodesFirst acyclic before statement after split value read node isNode
      exact late (mem_declaredNodes.2 ⟨declared, member, same⟩)
    have rendered := okIff_instructionsOf none scheduled.fits scheduled.nodesOnce typed stops
    simp only [List.nil_append] at rendered
    simp only [renew, ternary]
    exact (rendered.congr (Document.readable_iff_renderable sound.coherent scheduled)).map.mapError
      (fun _ refusal => refusal)
  · rw [Document.schedule, failed]
    exact .failed (Document.refusal_of_unschedulable reason) (Document.not_renderable reason)

end Generator

/-- A variable can be passed from one stage to the other. -/
def ShaderType.Passable (type : ShaderType) : Prop :=
  type ≠ .bool ∧ type ≠ .sampler

/-- An error in what stands before a body: a violation, or the number of a bound attribute that has too many digits. -/
inductive PreambleRefusal (attributes : List Attribute) : Error → Prop where
  | violation {cause : Violation} : PreambleRefusal attributes (.violation cause)
  | long {binding : Attribute} (bound : binding ∈ attributes) (long : binding.leaf.Long) :
      PreambleRefusal attributes (.unshown .longNumeral)

section

variable {attributes : List Attribute}

private theorem okIff_varyingDeclaration {side : Side} {leaf : Leaf} {type : ShaderType} {name : String}
    (proper : type ≠ .operation) (named : leafName leaf = .ok name) :
    OkIff (PreambleRefusal attributes) type.Passable (varyingDeclaration side leaf type) := by
  unfold varyingDeclaration
  split
  · rename_i passable
    have holds : type.Passable := by cases type <;> simp_all [isPassable, ShaderType.Passable]
    rw [named]
    exact (okIff_spelling proper).bind_pure.congr (iff_of_true trivial holds)
  · rename_i refused
    refine .failed .violation ?_
    cases type <;> simp_all [isPassable, ShaderType.Passable]

private theorem okIff_attributeDeclarations (location : Nat) {listed : List Attribute}
    (bound : ∀ binding ∈ listed, binding ∈ attributes) :
    OkIff (PreambleRefusal attributes) (∀ binding ∈ listed, ShortNumber binding.leaf)
      (attributeDeclarations location listed) := by
  induction listed generalizing location with
  | nil => exact .ok (by simp)
  | cons binding rest ih =>
    have proper : binding.type ≠ .operation := by
      rw [Attribute.type]
      cases binding.slot <;> simp [Slot.type]
    have first : OkIff (PreambleRefusal attributes) (ShortNumber binding.leaf) (leafName binding.leaf) := by
      by_cases writable : Text.isWritable binding.stream = true
      · rw [Attribute.leaf, leafName_of_writable writable]
        exact .ok (isWritable_iff.1 writable)
      · have long : ¬ ShortNumber binding.leaf := fun short => writable (isWritable_iff.2 short)
        rw [Attribute.leaf, leafName_of_unwritable writable]
        exact .failed (.long (bound binding List.mem_cons_self) ⟨binding.stream, rfl, Nat.not_lt.1 long⟩) long
    have others := ih (location + 1) (fun other member => bound other (List.mem_cons_of_mem _ member))
    refine ((okIff_spelling proper).bind (fun _ _ => first.bind (fun _ _ => others.bind_pure))).congr ?_
    simp

variable {ledger : Ledger}

private theorem okIff_uniformDeclarations {resources : Resources} (sound : resources.Sound True ledger) :
    OkIff (PreambleRefusal attributes) True (uniformDeclarations resources) := by
  unfold uniformDeclarations
  refine (OkIff.mapM (fun value member => ?_)).congr (iff_of_true (fun _ _ => trivial) trivial)
  rw [Resources.uniformsByIndex, List.mem_mergeSort, Table.values, List.mem_map] at member
  obtain ⟨entry, listed, rfl⟩ := member
  exact (okIff_spelling (sound.uniforms entry listed).typed.1).bind_pure

private theorem okIff_vertexPreamble {vertex : VertexShader} (sound : vertex.Sound True ledger)
    (attributes : List Attribute) :
    OkIff (PreambleRefusal attributes) ((∀ binding ∈ attributes, ShortNumber binding.leaf) ∧
      ∀ entry ∈ vertex.outputs.entries, entry.2.type.Passable) (vertexPreamble vertex attributes) := by
  have outputs : OkIff (PreambleRefusal attributes) (∀ entry ∈ vertex.outputs.entries, entry.2.type.Passable)
      (vertex.outputTypes.mapM (fun entry => varyingDeclaration .output (.output (.named entry.1)) entry.2)) := by
    refine (OkIff.mapM (fun entry member => okIff_varyingDeclaration ?_ rfl)).congr List.forall_mem_map
    obtain ⟨held, listed, rfl⟩ := List.mem_map.1 member
    exact (sound.writes _ (VertexShader.mem_writes.2 (.inr (.inr ⟨held.1, rfl, listed⟩)))).typed.1
  unfold vertexPreamble
  refine ((okIff_uniformDeclarations sound.resources).bind (fun _ _ =>
    (okIff_attributeDeclarations 0 (fun _ bound => bound)).bind (fun _ _ =>
      (okIff_varyingDeclaration (by simp) rfl).bind (fun _ _ => outputs.bind_pure)))).congr ?_
  simp [ShaderType.Passable]

private theorem okIff_fragmentPreamble {fragment : FragmentShader} (sound : fragment.Sound True ledger) :
    OkIff (PreambleRefusal attributes) (∀ entry ∈ fragment.inputs.entries, entry.2.type.Passable)
      (fragmentPreamble fragment) := by
  have inputs : OkIff (PreambleRefusal attributes) (∀ entry ∈ fragment.inputs.entries, entry.2.type.Passable)
      (fragment.inputTypes.mapM (fun entry => varyingDeclaration .input (.input entry.1) entry.2)) := by
    refine (OkIff.mapM (fun entry member => okIff_varyingDeclaration ?_ rfl)).congr List.forall_mem_map
    obtain ⟨held, listed, rfl⟩ := List.mem_map.1 member
    exact (sound.inputs _ listed).typed.1
  unfold fragmentPreamble
  refine ((okIff_uniformDeclarations sound.resources).bind (fun _ _ =>
    (okIff_varyingDeclaration (by simp) rfl).bind (fun _ _ => inputs.bind_pure))).congr ?_
  simp [ShaderType.Passable]

end

/-- How a program that fits together is refused: as one of its stages is, or because the number of a bound attribute has
too many digits. -/
inductive ProgramRefusal (levels : Option Nat) (vertex : VertexShader) (fragment : FragmentShader)
    (attributes : List Attribute) : Error → Prop where
  | vertex {error : Error} (refusal : (Document.vertex vertex).Refusal levels error) :
      ProgramRefusal levels vertex fragment attributes error
  | fragment {error : Error} (refusal : (Document.fragment fragment).Refusal levels error) :
      ProgramRefusal levels vertex fragment attributes error
  | binding {binding : Attribute} (bound : binding ∈ attributes) (long : binding.leaf.Long) :
      ProgramRefusal levels vertex fragment attributes (.unshown .longNumeral)

namespace Generator

variable {generator : Generator} {ledger : Ledger}

private theorem okIff_source {document : Document} {preamble : Except Error Preamble} {condition : Prop}
    {Stops : Error → Prop} (ternary : generator.branching = .ternary) (sound : document.Sound True ledger)
    (stage : Option Stage) (title : String) (head : OkIff Stops condition preamble)
    (stops : ∀ error, document.Refusal generator.levels error → Stops error) :
    OkIff Stops (condition ∧ document.Renderable) ((generator.renew stage).source document title preamble).result := by
  have main := (okIff_body sound ternary stage).mono stops
  cases head with
  | failed stops fails => exact .failed stops (fun both => fails both.1)
  | ok holds =>
    unfold source
    dsimp only
    generalize (generator.renew stage).body document = outcome at main ⊢
    obtain ⟨result, temporaries, log⟩ := outcome
    cases main with
    | ok renderable => exact .ok ⟨holds, renderable⟩
    | failed stops fails => exact .failed stops (fun both => fails both.2)

theorem okIff_generate {vertex : VertexShader} {fragment : FragmentShader} {attributes : List Attribute}
    {other : Ledger} (ternary : generator.branching = .ternary) (vertexSound : vertex.Sound True ledger)
    (fragmentSound : fragment.Sound True other) (linked : checkLink vertex fragment attributes = .ok ()) :
    OkIff (ProgramRefusal generator.levels vertex fragment attributes)
      ((((∀ binding ∈ attributes, ShortNumber binding.leaf) ∧
        ∀ entry ∈ vertex.outputs.entries, entry.2.type.Passable) ∧ (Document.vertex vertex).Renderable) ∧
      (∀ entry ∈ fragment.inputs.entries, entry.2.type.Passable) ∧ (Document.fragment fragment).Renderable)
      (generator.generate vertex fragment attributes).result := by
  have vertexDocument : (Document.vertex vertex).Sound True ledger := vertexSound
  have fragmentDocument : (Document.fragment fragment).Sound True other := fragmentSound
  have preamble : ∀ error, PreambleRefusal attributes error →
      ProgramRefusal generator.levels vertex fragment attributes error := by
    intro error refusal
    cases refusal with
    | violation => exact .vertex .violation
    | long bound long => exact .binding bound long
  have first := okIff_source ternary vertexDocument (some .vertex) "Vertex"
    ((okIff_vertexPreamble vertexSound attributes).mono preamble) (fun _ refusal => .vertex refusal)
  have second := okIff_source ternary fragmentDocument (some .fragment) "Fragment"
    ((okIff_fragmentPreamble fragmentSound).mono preamble) (fun _ refusal => .fragment refusal)
  unfold generate vertexSource fragmentSource
  rw [linked]
  dsimp only
  generalize (generator.renew (some .vertex)).source (.vertex vertex) "Vertex" _ = vertexOutcome at first ⊢
  generalize (generator.renew (some .fragment)).source (.fragment fragment) "Fragment" _ = fragmentOutcome at second ⊢
  obtain ⟨vertexResult, _, _⟩ := vertexOutcome
  obtain ⟨fragmentResult, _, _⟩ := fragmentOutcome
  cases first with
  | failed stops fails => exact .failed stops (fun both => fails both.1)
  | ok vertexHolds =>
    cases second with
    | failed stops fails => exact .failed stops (fun both => fails both.2)
    | ok fragmentHolds => exact .ok ⟨vertexHolds, fragmentHolds⟩

end Generator

namespace Script

/-- For any two documents of a script of builders, any attributes with which they fit together and any generator that
has a way to write a choice: the sources are generated if and only if every named variable can be passed from one stage
to the other, the numbers of the attributes can be written and both documents can be rendered. In every other case the
generation fails, with a violation unless the digits of a number or the values inside each other are too many. -/
theorem generate_ok_iff_renderable (script : List Command) (vertexName fragmentName : String) (vertex : VertexShader)
    (fragment : FragmentShader) (attributes : List Attribute) (generator : Generator)
    (builders : ∀ command ∈ script, command.step.isBuilder = true)
    (vertexHeld : (Session.start.after script).documents.get? vertexName = some (.vertex vertex))
    (fragmentHeld : (Session.start.after script).documents.get? fragmentName = some (.fragment fragment))
    (linked : checkLink vertex fragment attributes = .ok ()) (ternary : generator.branching = .ternary) :
    ((∃ sources, (generator.generate vertex fragment attributes).result = .ok sources) ↔
      (∀ entry ∈ vertex.outputs.entries, entry.2.type.Passable) ∧
        (∀ entry ∈ fragment.inputs.entries, entry.2.type.Passable) ∧
        (∀ binding ∈ attributes, ShortNumber binding.leaf) ∧
        (Document.vertex vertex).Renderable ∧ (Document.fragment fragment).Renderable) ∧
      ∀ error, (generator.generate vertex fragment attributes).result = .error error →
        ProgramRefusal generator.levels vertex fragment attributes error := by
  obtain ⟨ledger, sound⟩ := Session.typed_after none builders
  have decided := generator.okIff_generate ternary (sound.document vertexHeld) (sound.document fragmentHeld) linked
  refine ⟨decided.exists_ok_iff.trans ?_, fun error failed => decided.stops_of_error failed⟩
  constructor
  · rintro ⟨⟨⟨numbers, outputs⟩, vertexStage⟩, inputs, fragmentStage⟩
    exact ⟨outputs, inputs, numbers, vertexStage, fragmentStage⟩
  · rintro ⟨outputs, inputs, numbers, vertexStage, fragmentStage⟩
    exact ⟨⟨⟨numbers, outputs⟩, vertexStage⟩, inputs, fragmentStage⟩

/-- The output `tint` passes the color of a vertex on, and is read back for the position. -/
def tinted : List Command :=
  [⟨.vertexInput "v" .color 0, some "color"⟩, ⟨.setOutput "v" "tint" "color", none⟩,
    ⟨.readOutput "v" "tint", some "read"⟩, ⟨.arithmetic .add (.register "read") (.register "read"), some "sum"⟩,
    ⟨.setPosition "v" "sum", none⟩, ⟨.declareInput "f" "tint" "Vec4" none, some "tint"⟩,
    ⟨.setColor "f" "tint", none⟩]

/-- The output `tint`, read back. -/
def tinted.read : Value := .mk 1 .vec4 (.leaf (.output (.named "tint")))

/-- The vertex stage of the program. -/
def tinted.vertex : VertexShader where
  resources := .empty
  position := some (.mk 3 .vec4 (.arithmetic 2 .add read read))
  pointSize := none
  outputs := ⟨[("tint", .mk 0 .vec4 (.leaf (.vertexAttribute .color 0)))]⟩

/-- The fragment stage of the program. -/
def tinted.fragment : FragmentShader where
  resources := .empty
  inputs := ⟨[("tint", .mk 4 .vec4 (.leaf (.input "tint")))]⟩
  color := some (.mk 4 .vec4 (.leaf (.input "tint")))

/-- The vertex stage that an output of its own depends on. -/
def sharedCycle.vertex : VertexShader := ⟨.empty, some sum, none, ⟨[("b", sum)]⟩⟩

open sharedCycle in
/-- The output `b` depends on itself, and its schedule misses this. The node in question is then read before it is declared.
Where only one value can be shown there is no violation, since another value stands inside the node. -/
theorem generate_sharedCycle :
    ((Generator.ofDialect .es300).generate vertex .empty []).result = .error (.violation (.undeclared sum)) ∧
      ((Generator.ofDialect .es300 (some 1)).generate vertex .empty []).result = .error (.unshown .tooDeep) ∧
      (Error.unshown .tooDeep).exception = .recursionError ∧
      ProgramRefusal (some 1) vertex .empty [] (.unshown .tooDeep) := by
  have failed : ((Generator.ofDialect .es300 (some 1)).generate vertex .empty []).result = .error (.unshown .tooDeep) := by
    cbv
  refine ⟨by cbv, failed, rfl, ?_⟩
  exact (generate_ok_iff_renderable sharedCycle "v" "f" vertex .empty [] (.ofDialect .es300 (some 1)) (by decide) (by rfl)
    (by rfl) (by cbv) rfl).2 _ failed

end Script

end Shading
