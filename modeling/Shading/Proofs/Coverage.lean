import Shading.Proofs.Interface

/-!
# Every node once

A schedule declares the nodes that its document needs, each of them once, writes every output once, and does nothing
else. The declarations of a body are numbered from zero in their order, so the temporaries of a body are as many as the
nodes that the document needs (`nodes_declared_once`).
-/

namespace Shading

open Glsl

/-- The nodes that the outputs of a document need. -/
def Document.nodes (document : Document) : Set Nat :=
  {node | ∃ value, document.Reached value ∧ value.source.node? = some node}

/-- The output that a statement writes, and the value that it writes. -/
def Statement.assignment? : Statement → Option (Output × Value)
  | .declare _ => none
  | .assign output value => some (output, value)

/-- Statements declare what a document needs and write what it writes, each once, and nothing else. -/
structure Document.DoneOnce (document : Document) (statements : List Statement) : Prop where
  declared : ∀ value, .declare value ∈ statements → ∃ node ∈ document.nodes, value.source.node? = some node
  nodes : ∀ node, node ∈ declaredNodes statements ↔ node ∈ document.nodes
  nodesOnce : (declaredNodes statements).Nodup
  outputsOnce : (writtenOutputs statements).Nodup
  assigned : (statements.filterMap Statement.assignment?).Perm document.writes

private theorem mem_assignments {statements : List Statement} {output : Output} {value : Value} :
    (output, value) ∈ statements.filterMap Statement.assignment? ↔ .assign output value ∈ statements := by
  rw [List.mem_filterMap]
  constructor
  · rintro ⟨statement, member, same⟩
    cases statement with
    | declare => simp [Statement.assignment?] at same
    | assign =>
      cases same
      exact member
  · intro member
    exact ⟨_, member, rfl⟩

private theorem map_fst_assignments (statements : List Statement) :
    (statements.filterMap Statement.assignment?).map Prod.fst = writtenOutputs statements := by
  induction statements with
  | nil => rfl
  | cons statement rest ih =>
    cases statement with
    | declare => exact ih
    | assign output value => simp [Statement.assignment?, ih]

private theorem Document.doneOnce_of_scheduled {document : Document} {statements : List Statement}
    (coherent : document.plan.Coherent) (scheduled : document.plan.Scheduled statements) :
    document.DoneOnce statements where
  declared := by
    intro value member
    obtain ⟨reached, node, isNode⟩ := scheduled.fits _ member
    exact ⟨node, ⟨value, reached, isNode⟩, isNode⟩
  nodes := by
    intro node
    constructor
    · intro listed
      obtain ⟨value, member, isNode⟩ := mem_declaredNodes.1 listed
      exact ⟨value, (scheduled.fits _ member).1, isNode⟩
    · rintro ⟨value, reached, isNode⟩
      exact scheduled.declared reached isNode
  nodesOnce := scheduled.nodesOnce
  outputsOnce := scheduled.outputsOnce
  assigned := by
    have once : (statements.filterMap Statement.assignment?).Nodup := by
      refine List.Nodup.of_map Prod.fst ?_
      rw [map_fst_assignments]
      exact scheduled.outputsOnce
    refine (List.perm_ext_iff_of_nodup once (.of_map Prod.fst coherent.distinct)).2 ?_
    rintro ⟨output, value⟩
    rw [mem_assignments]
    constructor
    · intro member
      exact mem_of_lookup (scheduled.fits _ member)
    · exact scheduled.assigned (output, value)

private theorem Document.DoneOnce.ncard_nodes {document : Document} {statements : List Statement}
    (done : document.DoneOnce statements) : document.nodes.ncard = (declaredNodes statements).length := by
  have same : document.nodes = ((declaredNodes statements).toFinset : Set Nat) := by
    ext node
    simp [done.nodes node]
  rw [same, Set.ncard_coe_finset, List.toFinset_card_of_nodup done.nodesOnce]

/-- The temporary that a line declares. -/
def Glsl.Instruction.declared? : Instruction → Option String
  | .declare _ name _ => some name
  | .assign _ _ => none

def firstTemporaries (count : Nat) : List String :=
  (List.range count).map (fun (index : Nat) => temporary index)

theorem Glsl.Emits.declared {temporaries : Temporaries} {statements : List Statement} {instructions : List Instruction}
    (emits : Emits temporaries statements instructions) :
    instructions.filterMap Instruction.declared? =
      (List.range' temporaries.count (declaredNodes statements).length).map (fun (index : Nat) => temporary index) := by
  induction emits with
  | nil => rfl
  | declare isNode _ _ fresh _ ih =>
    rw [declaredNodes_declare isNode, List.length_cons, List.range'_succ, List.map_cons,
      ← Temporaries.count_withNode fresh, ← ih]
    rfl
  | assign _ _ ih => exact ih

private theorem isTemporary_leafName {leaf : Leaf} {type : ShaderType} {name : String} (typed : leaf.Typed type)
    (named : leafName leaf = .ok name) : isTemporary name = false := by
  have given : ∀ stage, leaf.isAvailable stage = true → leaf.isGiven = true → isTemporary name = false := by
    intro stage available isGiven
    have other := isVariable_of_given typed available isGiven named
    rw [isVariable, Bool.or_eq_false_iff] at other
    exact other.1
  cases leaf with
  | vertexAttribute | matrix | uniform | literal => exact given .vertex rfl rfl
  | material => exact given .fragment rfl rfl
  | input => exact given .fragment rfl rfl
  | output output =>
    cases named
    exact isTemporary_outputName output
  | instanceIndex =>
    cases named
    rfl
  | unknown => exact typed.elim

private theorem Glsl.Temporaries.Distinct.base_lt {temporaries : Temporaries} (distinct : temporaries.Distinct)
    {value : Value} {reference : Reference} (typed : ∀ read, value.Reaches read → read.Typed)
    (named : temporaries.reference value = .ok reference) (isOne : isTemporary reference.base = true) :
    ∃ index < temporaries.count, reference.base = temporary index := by
  rcases Temporaries.reference_cases named with ⟨leaf, name, root, spelled, rfl⟩ | ⟨node, index, _, found, rfl⟩
  · obtain ⟨read, below, origin⟩ := value.exists_reaches_root
    have typedLeaf := (typed read below).2
    rw [origin, root] at typedLeaf
    rw [isTemporary_leafName typedLeaf spelled] at isOne
    exact absurd isOne Bool.false_ne_true
  · exact ⟨index, distinct.bounded found, rfl⟩

private theorem Glsl.Emits.names_lt {temporaries : Temporaries} {document : Document} {statements : List Statement}
    {instructions : List Instruction} (typed : ∀ value, document.Reached value → value.Typed)
    (fits : ∀ statement ∈ statements, statement.Fits document.plan) (distinct : temporaries.Distinct)
    (emits : Emits temporaries statements instructions) :
    ∀ name ∈ instructions.flatMap Instruction.names, isTemporary name = true →
      ∃ index < temporaries.count + (declaredNodes statements).length, name = temporary index := by
  have typedBelow : ∀ {value : Value}, document.Reached value → ∀ read, value.Reaches read → read.Typed :=
    fun reached read below => typed read (reached.reaches below)
  induction emits with
  | nil => simp
  | @declare temporaries value node type expression rest instructions isNode renders spelled fresh others ih =>
    have taken : temporaries.declare (some node) = .ok (temporary temporaries.count, temporaries.withNode node) := by
      simp [Temporaries.declare, Temporaries.contains_of_fresh fresh, Temporaries.withNode]
    have later := ih (fun other member => fits other (List.mem_cons_of_mem _ member)) (distinct.declare taken)
    rw [Temporaries.count_withNode fresh] at later
    rw [declaredNodes_declare isNode, List.length_cons]
    intro name member isOne
    rw [List.flatMap_cons, List.mem_append] at member
    rcases member with here | there
    · rcases List.mem_cons.1 here with rfl | read
      · exact ⟨temporaries.count, by omega, rfl⟩
      · obtain ⟨reference, listed, rfl⟩ := List.mem_map.1 read
        obtain ⟨operand, among, named⟩ := exists_of_forall₂ renders.references listed
        have needed : document.Reached operand := (fits _ List.mem_cons_self).reached among
        obtain ⟨index, below, same⟩ := distinct.base_lt (typedBelow needed) named isOne
        exact ⟨index, by omega, same⟩
    · obtain ⟨index, below, same⟩ := later name there isOne
      exact ⟨index, by omega, same⟩
  | @assign temporaries output value reference rest instructions named others ih =>
    have later := ih (fun other member => fits other (List.mem_cons_of_mem _ member)) distinct
    intro name member isOne
    rw [List.flatMap_cons, List.mem_append] at member
    rcases member with here | there
    · simp only [Instruction.names, List.mem_cons, List.not_mem_nil, or_false] at here
      rcases here with rfl | rfl
      · rw [isTemporary_outputName] at isOne
        exact absurd isOne Bool.false_ne_true
      · have needed : document.Reached value := (fits _ List.mem_cons_self).reached List.mem_cons_self
        obtain ⟨index, below, same⟩ := distinct.base_lt (typedBelow needed) named isOne
        exact ⟨index, by rw [declaredNodes_assign]; omega, same⟩
    · exact later name there isOne

private theorem mem_firstTemporaries {count index : Nat} (below : index < count) :
    temporary index ∈ firstTemporaries count :=
  List.mem_map.2 ⟨index, List.mem_range.2 below, rfl⟩

private theorem openingInstructions_plain (stage : Stage) :
    (openingInstructions stage).filterMap Instruction.declared? = [] ∧
      ∀ name ∈ (openingInstructions stage).flatMap Instruction.names, isTemporary name = false := by
  cases stage with
  | vertex => exact ⟨rfl, by decide⟩
  | fragment => exact ⟨rfl, by simp [openingInstructions]⟩

namespace Script

/-- The schedule of any document of any script declares every node that the document needs once, and no other, and
writes every output of the document once, from its value. If the script is one of builders and a body is rendered with
new temporaries, then the lines of the body that declare a temporary declare the first ones, in their order and as many
as there are nodes, and no line names any other temporary. -/
theorem nodes_declared_once (script : List Command) (name : String) (document : Document)
    (held : (Session.start.after script).documents.get? name = some document) :
    (∀ statements, document.schedule = .ok statements → document.DoneOnce statements) ∧
      ((∀ command ∈ script, command.step.isBuilder = true) →
        ∀ (generator : Generator) (stage : Option Stage) (text : String),
          ((generator.renew stage).body document).result = .ok text →
            ∃ lines, readBody text = some lines ∧
              lines.filterMap Instruction.declared? = firstTemporaries document.nodes.ncard ∧
              ∀ name ∈ lines.flatMap Instruction.names, isTemporary name = true →
                name ∈ firstTemporaries document.nodes.ncard) := by
  constructor
  · intro statements done
    have coherent := coherent_of_script held
    exact Document.doneOnce_of_scheduled coherent (Plan.scheduled_of_ok coherent done)
  · intro builders generator stage text rendered
    obtain ⟨ledger, sound⟩ := Session.typed_after none builders
    have documentSound := sound.document held
    have typed : ∀ value, document.Reached value → value.Typed :=
      fun value reached => (documentSound.known_of_reached reached).typed
    obtain ⟨statements, instructions, body⟩ := Generator.exists_rendered documentSound rendered
    have count : (Temporaries.start stage).count = 0 := Numbering.size_empty
    have nodes := (Document.doneOnce_of_scheduled documentSound.coherent body.scheduled).ncard_nodes
    obtain ⟨undeclared, unnamed⟩ := openingInstructions_plain document.stage
    refine ⟨_, body.read, ?_, ?_⟩
    · rw [List.filterMap_append, undeclared, body.emits.declared, count, List.range_eq_range'.symm, nodes]
      rfl
    · intro name member isOne
      rw [List.flatMap_append, List.mem_append] at member
      rcases member with opening | statement
      · rw [unnamed name opening] at isOne
        exact absurd isOne Bool.false_ne_true
      · obtain ⟨index, below, rfl⟩ :=
          body.emits.names_lt typed body.scheduled.fits (Temporaries.distinct_start stage) name statement isOne
        rw [count, Nat.zero_add] at below
        exact mem_firstTemporaries (nodes ▸ below)

/-- A sum is written to an output and squared for the position; another sum is not needed. -/
def squared : List Command :=
  [⟨.vertexInput "v" .color 0, some "color"⟩,
    ⟨.arithmetic .add (.register "color") (.register "color"), some "unused"⟩,
    ⟨.arithmetic .add (.register "color") (.register "color"), some "sum"⟩,
    ⟨.arithmetic .multiply (.register "sum") (.register "sum"), some "square"⟩, ⟨.setPosition "v" "square", none⟩,
    ⟨.setOutput "v" "tint" "sum", none⟩]

namespace squared

def color : Value := .mk 0 .vec4 (.leaf (.vertexAttribute .color 0))

def sum : Value := .mk 4 .vec4 (.arithmetic 3 .add color color)

def document : Document :=
  .vertex ⟨.empty, some (.mk 6 .vec4 (.arithmetic 5 .multiply sum sum)), none, ⟨[("tint", sum)]⟩⟩

/-- The body of the vertex stage. -/
def body : String :=
  "    iid = gl_InstanceID;\n    vec4 t0 = iClr0 + iClr0;\n    vec4 t1 = t0 * t0;\n    gl_Position = t1;\n    io_tint = t0;"

end squared

open squared in
/-- The body declares two temporaries, so two of the three nodes are needed. -/
theorem ncard_nodes_squared :
    (((Generator.ofDialect .es300).renew none).body document).result = .ok body ∧ document.nodes.ncard = 2 := by
  have rendered : (((Generator.ofDialect .es300).renew none).body document).result = .ok body := by cbv
  obtain ⟨lines, read, declared, _⟩ :=
    (nodes_declared_once squared "v" document (by rfl)).2 (by decide) (.ofDialect .es300) none body rendered
  have two : (readBody body).map (fun lines => (lines.filterMap Instruction.declared?).length) = some 2 := by
    decide +kernel
  rw [read, Option.map_some, declared, Option.some.injEq, firstTemporaries, List.length_map, List.length_range] at two
  exact ⟨rendered, two⟩

end Script

end Shading
