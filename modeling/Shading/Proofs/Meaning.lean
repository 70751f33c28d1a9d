import Shading.Proofs.Generation
import Shading.Proofs.Semantics

/-!
# Bodies mean what their graphs mean

A body is executed without reading anything that is not written, and leaves in every output variable what the graph
value of the output evaluates to (`body_denotes`).
-/

namespace Shading

open Glsl

private theorem selectors_components {value : Value} (typed : ∀ read, value.Reaches read → read.Typed) :
    ∀ letters ∈ selectors value, ∃ letter ∈ componentLetters, letters = letter.toString := by
  induction value using Value.component_induction with
  | plain value plain =>
    rw [selectors_of_plain plain]
    exact fun _ member => nomatch member
  | component value parent letters origin ih =>
    rw [selectors_of_component origin]
    intro other member
    rcases List.mem_append.1 member with earlier | last
    · have read : parent ∈ value.source.operands := by simp [origin, Source.operands]
      exact ih (fun _ below => typed _ (Value.reaches_of_operand read below)) other earlier
    · obtain rfl := List.mem_singleton.1 last
      have fits := (typed value value.reaches_refl).2
      rw [origin] at fits
      obtain ⟨_, _, _, letter, among, same⟩ := fits
      exact ⟨letter, List.mem_of_mem_take among, same⟩

theorem plain_reference {temporaries : Temporaries} {value : Value} {reference : Reference}
    (typed : ∀ read, value.Reaches read → read.Typed) (named : temporaries.reference value = .ok reference) :
    reference.Plain := by
  rcases Temporaries.reference_cases named with ⟨leaf, name, root, spelled, rfl⟩ | ⟨node, index, _, _, rfl⟩
  · obtain ⟨read, below, origin⟩ := value.exists_reaches_root
    have fits := (typed read below).2
    rw [origin, root] at fits
    exact ⟨atomic_leafName fits spelled, selectors_components typed⟩
  · exact ⟨atomic_temporary index, selectors_components typed⟩

theorem parts_ne_nil {whole : ShaderType} {parts : List ShaderType} (checked : checkParts whole parts = .ok ()) :
    parts ≠ [] := by
  rintro rfl
  simp [checkParts] at checked

private theorem plain_expression {temporaries : Temporaries} {value : Value} {expression : Expression}
    (typed : ∀ read, value.Reaches read → read.Typed) (renders : Renders temporaries value.source expression) :
    expression.Plain := by
  have plain : ∀ operand ∈ value.source.operands, ∀ reference, temporaries.reference operand = .ok reference →
      reference.Plain :=
    fun operand read reference named =>
      plain_reference (fun _ below => typed _ (Value.reaches_of_operand read below)) named
  have fits := (typed value value.reaches_refl).2
  generalize value.source = source at renders plain fits
  cases renders with
  | @arithmetic _ operator _ _ _ _ first second =>
    refine ⟨?_, plain _ (by simp [Source.operands]) _ first, plain _ (by simp [Source.operands]) _ second⟩
    cases operator <;> decide
  | @compare _ comparison _ _ _ _ first second =>
    refine ⟨?_, plain _ (by simp [Source.operands]) _ first, plain _ (by simp [Source.operands]) _ second⟩
    cases comparison <;> decide
  | branch first second third =>
    exact ⟨plain _ (by simp [Source.operands]) _ third, plain _ (by simp [Source.operands]) _ first,
      plain _ (by simp [Source.operands]) _ second⟩
  | sample first second =>
    refine ⟨by decide, by simp, ?_⟩
    simp only [List.forall_mem_cons, List.not_mem_nil, false_imp_iff, implies_true, and_true]
    exact ⟨plain _ (by simp [Source.operands]) _ first, plain _ (by simp [Source.operands]) _ second⟩
  | lerp first second third =>
    refine ⟨by decide, by simp, ?_⟩
    simp only [List.forall_mem_cons, List.not_mem_nil, false_imp_iff, implies_true, and_true]
    exact ⟨plain _ (by simp [Source.operands]) _ first, plain _ (by simp [Source.operands]) _ second,
      plain _ (by simp [Source.operands]) _ third⟩
  | @construct _ type parts arguments _ each spelled =>
    have pairs := forall₂_of_mapM each
    have given := parts_ne_nil fits.2
    refine ⟨whole_spelling spelled, ?_, fun argument member => ?_⟩
    · rintro rfl
      cases pairs
      exact given rfl
    · obtain ⟨part, listed, named⟩ := exists_of_forall₂ pairs member
      exact plain part listed argument named

theorem plain_of_emits {temporaries : Temporaries} {document : Document} {statements : List Statement}
    {instructions : List Instruction} (typed : ∀ value, document.Reached value → value.Typed)
    (accepted : ∀ write ∈ document.writes, Whole (outputName write.1))
    (fits : ∀ statement ∈ statements, statement.Fits document.plan) (emits : Emits temporaries statements instructions) :
    ∀ instruction ∈ instructions, instruction.Plain := by
  have typedBelow : ∀ {value : Value}, document.Reached value → ∀ read, value.Reaches read → read.Typed :=
    fun reached read below => typed read (reached.reaches below)
  induction emits with
  | nil => exact fun _ member => nomatch member
  | declare _ renders spelled _ _ ih =>
    have reached : document.Reached _ := (fits _ List.mem_cons_self).1
    refine List.forall_mem_cons.2 ⟨?_, ih (fun other member => fits other (List.mem_cons_of_mem _ member))⟩
    exact ⟨whole_spelling spelled, (atomic_temporary _).whole, plain_expression (typedBelow reached) renders⟩
  | @assign _ output value _ _ _ named _ ih =>
    have target : document.writes.lookup output = some value := fits _ List.mem_cons_self
    refine List.forall_mem_cons.2 ⟨?_, ih (fun other member => fits other (List.mem_cons_of_mem _ member))⟩
    have reached : document.Reached value := ⟨_, mem_of_lookup target, value.reaches_refl⟩
    exact ⟨accepted (output, value) (mem_of_lookup target), plain_reference (typedBelow reached) named⟩

variable {V : Type} {interpretation : Interpretation V} {document : Document} {environment : Environment V}

private theorem denotes_of_root {value : Value} {held : V} (root : Denotes interpretation document value.root held) :
    Denotes interpretation document value.source
      ((selectors value).foldl (fun held letters => interpretation.component letters held) held) := by
  induction value using Value.component_induction with
  | plain value plain =>
    rw [Value.root_of_plain plain] at root
    rw [selectors_of_plain plain]
    exact root
  | component value parent letters origin ih =>
    rw [Value.root_of_component origin] at root
    rw [selectors_of_component origin, origin, List.foldl_append]
    exact .component (ih root)

/-- A value can be read where it is referred to, and what is read is what the value evaluates to. -/
def Reads (interpretation : Interpretation V) (document : Document) (temporaries : Temporaries)
    (environment : Environment V) (value : Value) : Prop :=
  ∀ reference, temporaries.reference value = .ok reference →
    ∃ held, interpretation.read document.stage environment reference = some held ∧
      Denotes interpretation document value.source held

private theorem mapM_read {temporaries : Temporaries} {parts : List Value} {arguments : List Reference}
    {meaning : Value → V} {stage : Stage}
    (pairs : List.Forall₂ (fun part argument => temporaries.reference part = .ok argument) parts arguments)
    (reads : ∀ part ∈ parts, ∀ reference, temporaries.reference part = .ok reference →
      interpretation.read stage environment reference = some (meaning part)) :
    arguments.mapM (interpretation.read stage environment) = some (parts.map meaning) := by
  induction pairs with
  | nil => rfl
  | cons named _ ih =>
    have first := reads _ List.mem_cons_self _ named
    have others := ih (fun part member => reads part (List.mem_cons_of_mem _ member))
    simp [first, others]

private theorem evaluate_of_renders {temporaries : Temporaries} {source : Source} {expression : Expression}
    (renders : Renders temporaries source expression)
    (reads : ∀ operand ∈ source.operands, Reads interpretation document temporaries environment operand) :
    ∃ held, interpretation.evaluate document.stage environment expression = some held ∧
      Denotes interpretation document source held := by
  cases renders with
  | @arithmetic _ operator lhs rhs left right first second =>
    obtain ⟨l, readLeft, denotesLeft⟩ := reads lhs (by simp [Source.operands]) left first
    obtain ⟨r, readRight, denotesRight⟩ := reads rhs (by simp [Source.operands]) right second
    refine ⟨_, ?_, .arithmetic denotesLeft denotesRight⟩
    simp [Interpretation.evaluate, Interpretation.symbol?_arithmetic, readLeft, readRight]
  | @compare _ comparison lhs rhs left right first second =>
    obtain ⟨l, readLeft, denotesLeft⟩ := reads lhs (by simp [Source.operands]) left first
    obtain ⟨r, readRight, denotesRight⟩ := reads rhs (by simp [Source.operands]) right second
    refine ⟨_, ?_, .compare denotesLeft denotesRight⟩
    simp [Interpretation.evaluate, Interpretation.symbol?_comparison, readLeft, readRight]
  | @branch _ condition success failure asked left right first second third =>
    obtain ⟨l, readLeft, denotesLeft⟩ := reads success (by simp [Source.operands]) left first
    obtain ⟨r, readRight, denotesRight⟩ := reads failure (by simp [Source.operands]) right second
    obtain ⟨c, readAsked, denotesAsked⟩ := reads condition (by simp [Source.operands]) asked third
    refine ⟨_, ?_, .branch denotesAsked denotesLeft denotesRight⟩
    simp [Interpretation.evaluate, readLeft, readRight, readAsked]
  | @sample _ _ texture coordinate left right first second =>
    obtain ⟨l, readLeft, denotesLeft⟩ := reads texture (by simp [Source.operands]) left first
    obtain ⟨r, readRight, denotesRight⟩ := reads coordinate (by simp [Source.operands]) right second
    refine ⟨_, ?_, .sample denotesLeft denotesRight⟩
    simp [Interpretation.evaluate, Interpretation.call?, readLeft, readRight]
  | @lerp _ lhs rhs factor left right weight first second third =>
    obtain ⟨l, readLeft, denotesLeft⟩ := reads lhs (by simp [Source.operands]) left first
    obtain ⟨r, readRight, denotesRight⟩ := reads rhs (by simp [Source.operands]) right second
    obtain ⟨w, readWeight, denotesWeight⟩ := reads factor (by simp [Source.operands]) weight third
    refine ⟨_, ?_, .lerp denotesLeft denotesRight denotesWeight⟩
    simp [Interpretation.evaluate, Interpretation.call?, readLeft, readRight, readWeight]
  | @construct _ type parts arguments name each spelled =>
    let meaning (part : Value) : V :=
      ((temporaries.reference part).toOption.bind (interpretation.read document.stage environment)).getD
        (interpretation.name "")
    have known : ∀ part ∈ parts, ∀ reference, temporaries.reference part = .ok reference →
        interpretation.read document.stage environment reference = some (meaning part) ∧
          Denotes interpretation document part.source (meaning part) := by
      intro part member reference named
      obtain ⟨held, read, denotes⟩ := reads part member reference named
      have same : meaning part = held := by simp [meaning, named, read, Except.toOption]
      rw [same]
      exact ⟨read, denotes⟩
    have pairs := forall₂_of_mapM each
    refine ⟨interpretation.construct type (parts.map meaning), ?_, .construct (fun part member => ?_)⟩
    · have values := mapM_read pairs (fun part member reference named => (known part member reference named).1)
      simp [Interpretation.evaluate, values, Interpretation.call?_spelling spelled]
    · obtain ⟨argument, _, named⟩ := exists_of_forall₂ pairs.flip member
      exact (known part member argument named).2

/-- What is written after some statements: each temporary holds what its node evaluates to, each output that is assigned
holds what its value evaluates to, and the temporaries to come are not declared. -/
structure Agrees (interpretation : Interpretation V) (document : Document) (temporaries : Temporaries)
    (earlier : List Statement) (environment : Environment V) : Prop where
  nodes : ∀ {value : Value} {node index : Nat}, document.Reached value → value.source.node? = some node →
    temporaries.index? node = some index → ∃ held, environment (temporary index) = some held ∧
      Denotes interpretation document value.source held
  outputs : ∀ {output : Output} {value : Value}, .assign output value ∈ earlier →
    ∃ held, environment (outputName output) = some held ∧ Denotes interpretation document value.source held
  fresh : ∀ {index : Nat}, temporaries.count ≤ index → environment (temporary index) = none
  instanceIndex : document.stage = .vertex →
    environment instanceName = some (interpretation.name (instanceOrigin .vertex))

private theorem available_of_legal {plan : Plan} {leaf : Leaf} (legal : plan.checkSource (.leaf leaf) = .ok ()) :
    leaf.isAvailable plan.stage = true := by
  by_contra unavailable
  simp [Plan.checkSource, unavailable] at legal

private theorem Document.available_of_target {document : Document} {output : Output} {value : Value}
    (target : document.plan.targets.lookup output = some value) :
    (Leaf.output output).isAvailable document.stage = true := by
  have member : (output, value) ∈ document.writes := mem_of_lookup target
  cases document with
  | vertex shader =>
    rcases VertexShader.mem_writes.1 member with ⟨rfl, _⟩ | ⟨rfl, _⟩ | ⟨_, rfl, _⟩ <;> rfl
  | fragment shader =>
    obtain ⟨rfl, _⟩ := FragmentShader.mem_writes.1 member
    rfl

namespace Agrees

variable {temporaries : Temporaries} {earlier : List Statement}

private theorem lookup_leaf (agrees : Agrees interpretation document temporaries earlier environment)
    (fits : ∀ statement ∈ earlier, statement.Fits document.plan) {leaf : Leaf} {type : ShaderType} {name : String}
    (typed : leaf.Typed type) (legal : document.plan.checkSource (.leaf leaf) = .ok ())
    (written : ∀ output, leaf = .output output → ∃ value, .assign output value ∈ earlier)
    (named : leafName leaf = .ok name) :
    ∃ held, interpretation.lookup document.stage environment name = some held ∧
      Denotes interpretation document (.leaf leaf) held := by
  have available : leaf.isAvailable document.stage = true := available_of_legal legal
  cases leaf with
  | output output =>
    cases named
    obtain ⟨value, assigned⟩ := written output rfl
    obtain ⟨held, bound, denotes⟩ := agrees.outputs assigned
    refine ⟨held, ?_, .readBack (fits _ assigned) denotes⟩
    rw [Interpretation.lookup, isVariable, isOutputVariable_outputName available, Bool.or_true, if_pos rfl, bound]
  | instanceIndex =>
    cases named
    refine ⟨_, ?_, .instanceIndex⟩
    cases stage : document.stage with
    | vertex => exact agrees.instanceIndex stage
    | fragment => rfl
  | _ =>
    refine ⟨_, ?_, .given rfl named⟩
    rw [Interpretation.lookup, isVariable_of_given typed available rfl named]
    rfl

/-- What is read for a value that statements before name is what the value evaluates to. -/
theorem reads (agrees : Agrees interpretation document temporaries earlier environment)
    (fits : ∀ statement ∈ earlier, statement.Fits document.plan)
    (typed : ∀ value, document.Reached value → value.Typed)
    (legal : ∀ value, document.Reached value → document.plan.checkSource value.source = .ok ())
    {value : Value} (reached : document.Reached value)
    (written : ∀ output, value.root = .leaf (.output output) → ∃ held, .assign output held ∈ earlier) :
    Reads interpretation document temporaries environment value := by
  intro reference named
  obtain ⟨read, below, origin⟩ := value.exists_reaches_root
  have needed := reached.reaches below
  -- Whatever the value comes from, its components are selected alike in the graph and in the text.
  suffices ∃ held, interpretation.lookup document.stage environment reference.base = some held ∧
      Denotes interpretation document value.root held ∧ reference.selectors = selectors value by
    obtain ⟨held, found, denotes, same⟩ := this
    refine ⟨_, ?_, denotes_of_root denotes⟩
    simp [Interpretation.read, found, same]
  rcases Temporaries.reference_cases named with ⟨leaf, name, root, spelled, rfl⟩ | ⟨node, index, isNode, found, rfl⟩
  · have typedLeaf := (typed read needed).2
    have legalLeaf := legal read needed
    rw [origin, root] at typedLeaf legalLeaf
    rw [root] at written ⊢
    obtain ⟨held, found, denotes⟩ := agrees.lookup_leaf fits typedLeaf legalLeaf
      (fun output same => written output (congrArg Source.leaf same)) spelled
    exact ⟨held, found, denotes, rfl⟩
  · rw [← origin] at isNode ⊢
    obtain ⟨held, bound, denotes⟩ := agrees.nodes needed isNode found
    refine ⟨held, ?_, denotes, rfl⟩
    rw [Interpretation.lookup, isVariable, isTemporary_temporary, Bool.true_or, if_pos rfl, bound]

/-- Declaring the temporary of a node. -/
theorem declare (agrees : Agrees interpretation document temporaries earlier environment)
    (coherent : document.plan.Coherent) {value : Value} {node : Nat} {held : V}
    (reached : document.Reached value) (isNode : value.source.node? = some node)
    (count : (temporaries.withNode node).count = temporaries.count + 1)
    (denotes : Denotes interpretation document value.source held) :
    Agrees interpretation document (temporaries.withNode node) (earlier ++ [.declare value])
      (environment.write (temporary temporaries.count) held) where
  nodes := by
    intro other number index needed isOther found
    rw [Temporaries.index?_withNode] at found
    split at found
    · rename_i same
      cases found
      subst same
      rw [coherent.sameNode needed reached isOther isNode]
      exact ⟨held, Environment.write_self _ _ _, denotes⟩
    · obtain ⟨kept, bound, denotesOther⟩ := agrees.nodes needed isOther found
      refine ⟨kept, ?_, denotesOther⟩
      rw [Environment.write_of_ne, bound]
      intro same
      have clash := agrees.fresh (Nat.le_refl temporaries.count)
      rw [← same, bound] at clash
      exact nomatch clash
  outputs := by
    intro output written assigned
    have before : .assign output written ∈ earlier := by simpa using assigned
    obtain ⟨kept, bound, denotesOutput⟩ := agrees.outputs before
    refine ⟨kept, ?_, denotesOutput⟩
    rw [Environment.write_of_ne _ _ (temporary_ne_outputName _ _).symm, bound]
  fresh := by
    intro index beyond
    rw [count] at beyond
    rw [Environment.write_of_ne _ _ (fun same => by have := temporary_inj same; omega)]
    exact agrees.fresh (by omega)
  instanceIndex := by
    intro stage
    rw [Environment.write_of_ne _ _ (temporary_ne_instanceName _).symm]
    exact agrees.instanceIndex stage

/-- Assigning an output. -/
theorem assign (agrees : Agrees interpretation document temporaries earlier environment)
    (fits : ∀ statement ∈ earlier, statement.Fits document.plan) {output : Output} {value : Value} {held : V}
    (target : document.plan.targets.lookup output = some value)
    (denotes : Denotes interpretation document value.source held) :
    Agrees interpretation document temporaries (earlier ++ [.assign output value])
      (environment.write (outputName output) held) where
  nodes := by
    intro other number index needed isOther found
    obtain ⟨kept, bound, denotesOther⟩ := agrees.nodes needed isOther found
    refine ⟨kept, ?_, denotesOther⟩
    rw [Environment.write_of_ne _ _ (temporary_ne_outputName _ _), bound]
  outputs := by
    intro other written assigned
    by_cases same : other = output
    · subst same
      have again : document.plan.targets.lookup other = some written := by
        rcases List.mem_append.1 assigned with before | last
        · exact fits _ before
        · cases List.mem_singleton.1 last
          exact target
      rw [target] at again
      cases again
      exact ⟨held, Environment.write_self _ _ _, denotes⟩
    · have before : .assign other written ∈ earlier := by simpa [same] using assigned
      obtain ⟨kept, bound, denotesOther⟩ := agrees.outputs before
      refine ⟨kept, ?_, denotesOther⟩
      rw [Environment.write_of_ne _ _ (fun equal => same (outputName_inj equal)), bound]
  fresh := by
    intro index beyond
    rw [Environment.write_of_ne _ _ (temporary_ne_outputName _ _)]
    exact agrees.fresh beyond
  instanceIndex := by
    intro stage
    rw [Environment.write_of_ne _ _ (outputName_ne_instanceName output).symm]
    exact agrees.instanceIndex stage

variable (interpretation document) in
/-- What is written before the first statement: the index of the instance, in a vertex stage. -/
theorem start (stage : Option Stage) :
    ∃ opened, (openingInstructions document.stage).foldlM (interpretation.perform document.stage) .empty = some opened ∧
      Agrees interpretation document (.start stage) [] opened := by
  have unnumbered : ∀ node, (Temporaries.start stage).index? node = none :=
    fun node => Numbering.lookup_empty (some node)
  have nothing : ∀ opened : Environment V, (∀ index : Nat, opened (temporary index) = none) →
      (document.stage = .vertex → opened instanceName = some (interpretation.name (instanceOrigin .vertex))) →
      Agrees interpretation document (.start stage) [] opened := by
    refine fun opened free passed => ⟨?_, fun assigned => (nomatch assigned), fun _ => free _, passed⟩
    intro _ node _ _ _ found
    exact nomatch (unnumbered node).symm.trans found
  cases isStage : document.stage with
  | fragment => exact ⟨.empty, rfl, nothing _ (fun _ => rfl) (fun vertex => nomatch isStage.symm.trans vertex)⟩
  | vertex =>
    refine ⟨Environment.empty.write instanceName (interpretation.name (instanceOrigin .vertex)), rfl,
      nothing _ (fun index => ?_) (fun _ => Environment.write_self _ _ _)⟩
    rw [Environment.write_of_ne _ _ (temporary_ne_instanceName index), Environment.empty]

/-- Executing the instructions of further statements. -/
theorem run {statements rest : List Statement} {instructions : List Instruction}
    (coherent : document.plan.Coherent) (typed : ∀ value, document.Reached value → value.Typed)
    (scheduled : document.plan.Scheduled statements) (emits : Emits temporaries rest instructions)
    (all : statements = earlier ++ rest)
    (agrees : Agrees interpretation document temporaries earlier environment) :
    ∃ final last, instructions.foldlM (interpretation.perform document.stage) environment = some final ∧
      Agrees interpretation document last statements final := by
  have legal := fun value reached => scheduled.legal (show document.Reached value from reached)
  have outputsFirst := scheduled.outputsFirst
  induction emits generalizing earlier environment with
  | @nil temporaries =>
    rw [all, List.append_nil]
    exact ⟨environment, temporaries, rfl, agrees⟩
  | @declare temporaries value node type expression rest instructions isNode renders spelled fresh _ ih =>
    have fits : ∀ statement ∈ earlier, statement.Fits document.plan :=
      fun statement member => scheduled.fits statement (by simp [all, member])
    have declared : (Statement.declare value).Fits document.plan := scheduled.fits _ (by simp [all])
    have operands : ∀ operand ∈ value.source.operands,
        Reads interpretation document temporaries environment operand :=
      fun operand read => agrees.reads fits typed legal (declared.reached read)
        (outputsFirst earlier _ rest all operand read)
    obtain ⟨held, evaluated, denotes⟩ := evaluate_of_renders renders operands
    have performed : interpretation.perform document.stage environment
        (.declare type (temporary temporaries.count) expression) =
          some (environment.write (temporary temporaries.count) held) := by
      simp [Interpretation.perform, typeOfWord?_spelling spelled, isTemporary_temporary,
        agrees.fresh (Nat.le_refl _), evaluated, guard]
    rw [List.foldlM_cons, performed]
    exact ih (by rw [all, List.append_assoc, List.singleton_append])
      (agrees.declare coherent declared.1 isNode (Temporaries.count_withNode fresh) denotes)
  | @assign temporaries output value reference rest instructions named _ ih =>
    have fits : ∀ statement ∈ earlier, statement.Fits document.plan :=
      fun statement member => scheduled.fits statement (by simp [all, member])
    have target : document.plan.targets.lookup output = some value :=
      scheduled.fits (.assign output value) (by simp [all])
    have reads : Reads interpretation document temporaries environment value :=
      agrees.reads fits typed legal (Plan.reached_target target)
        (outputsFirst earlier _ rest all value List.mem_cons_self)
    obtain ⟨held, read, denotes⟩ := reads reference named
    have performed : interpretation.perform document.stage environment (.assign (outputName output) reference) =
        some (environment.write (outputName output) held) := by
      simp [Interpretation.perform, isOutputVariable_outputName (document.available_of_target target), read, guard]
    rw [List.foldlM_cons, performed]
    exact ih (by rw [all, List.append_assoc, List.singleton_append]) (agrees.assign fits target denotes)

end Agrees

theorem Generator.body_eq_ok {generator : Generator} {text : String}
    (rendered : (generator.body document).result = .ok text) :
    ∃ statements instructions, document.plan.schedule = .ok statements ∧
      (instructionsOf generator.branching generator.temporaries statements).1 = .ok instructions ∧
      text = bodyText document.stage instructions := by
  unfold Generator.body Document.schedule at rendered
  cases planned : document.plan.schedule with
  | error cause =>
    rw [planned] at rendered
    exact nomatch rendered
  | ok statements =>
    rw [planned] at rendered
    dsimp only at rendered
    cases done : (instructionsOf generator.branching generator.temporaries statements).1 with
    | error error =>
      rw [done] at rendered
      exact nomatch rendered
    | ok instructions =>
      rw [done] at rendered
      cases rendered
      exact ⟨statements, instructions, rfl, done, rfl⟩

/-- The names of the outputs that a sound document writes are whole. -/
theorem Document.Sound.whole_outputName {ledger : Ledger} (sound : document.Sound True ledger) :
    ∀ write ∈ document.writes, Whole (outputName write.1) := by
  rintro ⟨output, value⟩ member
  cases document with
  | vertex shader =>
    rcases VertexShader.mem_writes.1 member with ⟨rfl, _⟩ | ⟨rfl, _⟩ | ⟨name, rfl, listed⟩
    · exact (by decide : Whole "gl_Position")
    · exact (by decide : Whole "gl_PointSize")
    · have vertexSound : shader.Sound True ledger := sound
      exact (atomic_interfaceName (vertexSound.accepted (name, value) listed)).whole
  | fragment shader =>
    obtain ⟨rfl, _⟩ := FragmentShader.mem_writes.1 member
    exact (by decide : Whole "fClr")

namespace Script

/-- For any document of a script of builders, any generator and any interpretation: if the generator renders the body of
the document, then the body can be executed line by line, each line reading only what is written before it, and every
output variable ends up with what the value of the output evaluates to, and with nothing else. A vertex stage also
passes the index of the instance on. -/
theorem body_denotes (interpretation : Interpretation V) (script : List Command) (name : String) (document : Document)
    (generator : Generator) (stage : Option Stage) (text : String)
    (builders : ∀ command ∈ script, command.step.isBuilder = true)
    (held : (Session.start.after script).documents.get? name = some document)
    (rendered : ((generator.renew stage).body document).result = .ok text) :
    ∃ final, interpretation.execute document.stage text = some final ∧
      (∀ output value, (output, value) ∈ document.writes → ∃ result, final (outputName output) = some result ∧
        ∀ other, Denotes interpretation document value.source other ↔ other = result) ∧
      (document.stage = .vertex → final "iid" = some (interpretation.name "gl_InstanceID")) := by
  obtain ⟨ledger, sound⟩ := Session.typed_after none builders
  have documentSound := sound.document held
  have coherent := documentSound.coherent
  have typed : ∀ value, document.Reached value → value.Typed :=
    fun value reached => (documentSound.known_of_reached reached).typed
  obtain ⟨statements, instructions, planned, done, rfl⟩ := Generator.body_eq_ok rendered
  have scheduled := Plan.scheduled_of_ok coherent planned
  have none : (Temporaries.start stage).Numbers (declaredNodes []) := Temporaries.numbers_start stage
  have emits := emits_of_instructionsOf none scheduled.fits scheduled.nodesOnce done
  have plain := plain_of_emits typed documentSound.whole_outputName scheduled.fits emits
  obtain ⟨opened, began, agrees⟩ := Agrees.start interpretation document stage
  obtain ⟨final, last, ran, ends⟩ := agrees.run coherent typed scheduled emits rfl
  refine ⟨final, ?_, fun output value member => ?_, ends.instanceIndex⟩
  · simp [Interpretation.execute, readBody_bodyText plain, List.foldlM_append, began, ran]
  · obtain ⟨result, bound, denotes⟩ := ends.outputs (scheduled.assigned _ member)
    refine ⟨result, bound, fun other => ⟨fun also => also.unique denotes, ?_⟩⟩
    rintro rfl
    exact denotes

/-- Truth values and vectors are all counted as integers, and every name but that of the color as zero. -/
def counting : Interpretation Int where
  name name := if name = "iClr0" then 7 else 0
  arithmetic
    | .add => (· + ·)
    | .subtract => (· - ·)
    | .multiply => (· * ·)
    | .divide => (· / ·)
  compare _ lhs rhs := if lhs = rhs then 1 else 0
  choose condition success failure := if condition = 0 then failure else success
  texture texture coordinate := texture + coordinate
  mix lhs rhs factor := lhs + (rhs - lhs) * factor
  construct _ parts := parts.sum
  component _ held := held

/-- The body of the vertex stage of `tinted`. -/
def tinted.body : String :=
  "    iid = gl_InstanceID;\n    io_tint = iClr0;\n    vec4 t0 = io_tint + io_tint;\n    gl_Position = t0;"

/-- The position is twice the color, which is read back from the output `tint`. -/
theorem position_tinted : ∃ final, counting.execute .vertex tinted.body = some final ∧
    final "gl_Position" = some 14 := by
  have rendered : (((Generator.ofDialect .es300).renew none).body (.vertex tinted.vertex)).result =
      .ok tinted.body := by cbv
  obtain ⟨final, executed, outputs, _⟩ := body_denotes counting tinted "v" (.vertex tinted.vertex)
    (.ofDialect .es300) none tinted.body (by decide) (by rfl) rendered
  obtain ⟨result, bound, unique⟩ := outputs .position _ List.mem_cons_self
  have color : Denotes counting (.vertex tinted.vertex) (.leaf (.vertexAttribute .color 0)) (counting.name "iClr0") :=
    .given rfl rfl
  have read : Denotes counting (.vertex tinted.vertex) tinted.read.source 7 := .readBack rfl color
  have sum : (14 : Int) = result := (unique 14).1 (.arithmetic read read)
  exact ⟨final, executed, sum ▸ bound⟩

end Script

end Shading
