import Shading.Proofs.Sources
import Shading.Proofs.Typing

/-!
# Rules of the operators

The shading language restricts what its operators, calls and variables can be used with. Values are checked by rules of
their own when they are built, and these admit more: vectors can be compared by size, matrices interpolated, textures
chosen from and larger matrices made from smaller ones. So a body obeys a rule of the language exactly if its graph has
no node of the kind that the rule is about (`rule_obeyed_iff`).
-/

namespace Shading

open Glsl

/-- The rules of the shading language for a variable that is declared with an expression. -/
inductive OperatorRule where
  /-- Only integers and floating point scalars are compared by size. -/
  | order
  /-- Only truth values are connected. -/
  | connective
  /-- Only floating point scalars and vectors are interpolated. -/
  | mix
  /-- No variable is a texture. -/
  | sampler
  /-- A matrix that is made from a matrix is made from nothing else. -/
  | matrix
deriving DecidableEq

def ShaderType.isMatrix : ShaderType → Bool
  | .mat3 | .mat4 => true
  | _ => false

def Comparison.isOrder : Comparison → Bool
  | .greater | .greaterEqual | .less | .lessEqual => true
  | _ => false

namespace OperatorRule

/-- The rule allows a variable of a type to be declared with an expression whose operands have the given types. -/
def Allows (rule : OperatorRule) (declared : ShaderType) (operands : List ShaderType) (expression : Expression) : Prop :=
  match rule, expression with
  | .order, .binary symbol _ _ =>
    symbol ∈ ["<", "<=", ">", ">="] → operands = [.int, .int] ∨ operands = [.float, .float]
  | .connective, .binary symbol _ _ => symbol ∈ ["&&", "||"] → operands = [.bool, .bool]
  | .mix, .call function _ => function = "mix" → ∀ type ∈ operands, type ∈ [.float, .vec2, .vec3, .vec4]
  | .sampler, _ => declared ≠ .sampler
  | .matrix, .call function _ =>
    function ∈ ["mat3", "mat4"] → (∃ type ∈ operands, type.isMatrix = true) → operands.length = 1
  | _, _ => True

/-- A node that is not rendered as the rule asks for. -/
def BrokenBy (rule : OperatorRule) (source : Source) : Prop :=
  match rule, source with
  | .order, .compare _ comparison lhs _ => comparison.isOrder = true ∧ lhs.type ∉ [.int, .float]
  | .mix, .lerp _ lhs _ _ => lhs.type.isMatrix = true
  | .sampler, .branch _ _ success _ => success.type = .sampler
  | .matrix, .construct _ whole parts => whole = .mat4 ∧ ∃ part ∈ parts, part.type = .mat3
  | _, _ => False

/-- The rule holds of the line of a statement; operands have the types of the values that they are rendered from. -/
def Holds (rule : OperatorRule) : Statement → Instruction → Prop
  | .declare value, .declare _ _ expression => rule.Allows value.type (value.source.operands.map Value.type) expression
  | _, _ => True

/-- The lines of the body of a source, behind those that it opens with, are those of the scheduled statements, and the
rule holds of each. -/
def Obeyed (rule : OperatorRule) (document : Document) (source : String) : Prop :=
  ∃ temporaries statements instructions, document.schedule = .ok statements ∧
    mainOf source = some (openingInstructions document.stage ++ instructions) ∧
    List.Forall₂ (fun statement instruction => Line temporaries statement instruction ∧ rule.Holds statement instruction)
      statements instructions

end OperatorRule

private theorem width_add_length_le {parts : List ShaderType} (proper : ∀ part ∈ parts, part.width ≠ 0) :
    parts.length ≤ totalComponents parts ∧
      ∀ part ∈ parts, part.width + parts.length ≤ totalComponents parts + 1 := by
  induction parts with
  | nil => exact ⟨Nat.le_refl _, fun _ member => nomatch member⟩
  | cons first rest ih =>
    obtain ⟨length, each⟩ := ih (fun part member => proper part (List.mem_cons_of_mem _ member))
    have filled := Nat.pos_of_ne_zero (proper first List.mem_cons_self)
    rw [totalComponents, List.length_cons]
    refine ⟨by omega, fun part member => ?_⟩
    rcases List.mem_cons.1 member with rfl | later
    · omega
    · have := each part later
      omega

private theorem matrix_parts_iff {whole : ShaderType} {parts : List ShaderType} (isMatrix : whole.isMatrix = true)
    (checked : checkParts whole parts = .ok ()) :
    ((∃ part ∈ parts, part.isMatrix = true) → parts.length = 1) ↔ ¬ (whole = .mat4 ∧ .mat3 ∈ parts) := by
  obtain ⟨proper, adds⟩ := checkParts_eq_ok checked
  obtain ⟨_, each⟩ := width_add_length_le proper
  constructor
  · rintro alone ⟨rfl, member⟩
    obtain ⟨part, rfl⟩ := List.length_eq_one_iff.1 (alone ⟨.mat3, member, rfl⟩)
    cases List.mem_singleton.1 member
    exact absurd adds (by decide)
  · rintro larger ⟨part, member, matrix⟩
    have bound := each part member
    have some := List.length_pos_of_mem member
    rw [adds] at bound
    cases whole with
    | mat3 =>
      cases part with
      | mat3 | mat4 => simp only [ShaderType.width] at bound; omega
      | _ => cases matrix
    | mat4 =>
      cases part with
      | mat3 => exact absurd ⟨rfl, member⟩ larger
      | mat4 => simp only [ShaderType.width] at bound; omega
      | _ => cases matrix
    | _ => cases isMatrix

namespace OperatorRule

private theorem comparisonSymbol_order (comparison : Comparison) :
    comparisonSymbol comparison ∈ ["<", "<=", ">", ">="] ↔ comparison.isOrder = true := by
  cases comparison <;> decide

private theorem comparisonSymbol_logical (comparison : Comparison) :
    comparisonSymbol comparison ∈ ["&&", "||"] ↔ comparison.isLogical = true := by
  cases comparison <;> decide

section

variable {rule : OperatorRule} {node : Nat} {type : ShaderType}

private theorem allows_arithmetic {operator : Arithmetic} {lhs rhs : Value}
    (typed : (Source.arithmetic node operator lhs rhs).Typed type) (operands : List ShaderType) (left right : Reference) :
    rule.Allows type operands (.binary (arithmeticSymbol operator) left right) := by
  obtain ⟨_, _, _, same, fits⟩ := typed
  cases same
  cases rule with
  | order => exact fun order => absurd order (by cases operator <;> decide)
  | connective => exact fun logical => absurd logical (by cases operator <;> decide)
  | mix | matrix => trivial
  | sampler =>
    rintro rfl
    rcases result_arithmetic.1 fits with ⟨_, numeric, same⟩ | ⟨_, product⟩
    · rw [← same] at numeric
      exact nomatch numeric
    · unfold matrixProduct? at product
      split at product <;> exact nomatch product

private theorem allows_compare_iff {comparison : Comparison} {lhs rhs : Value}
    (typed : (Source.compare node comparison lhs rhs).Typed type) (left right : Reference) :
    rule.Allows type [lhs.type, rhs.type] (.binary (comparisonSymbol comparison) left right) ↔
      ¬ rule.BrokenBy (.compare node comparison lhs rhs) := by
  obtain ⟨_, _, _, same, fits⟩ := typed
  cases same
  obtain ⟨rfl, alike, proper⟩ := result_compare.1 fits
  cases rule with
  | order =>
    rw [Allows, comparisonSymbol_order]
    simp only [BrokenBy, ← alike, List.cons.injEq, and_true, and_self, List.mem_cons, List.not_mem_nil, or_false, not_and,
      not_not]
  | connective =>
    simp only [Allows, BrokenBy, comparisonSymbol_logical, not_false_eq_true, iff_true]
    intro logical
    rw [logical, if_pos rfl] at proper
    rw [← alike, proper]
  | mix | sampler | matrix => simp [Allows, BrokenBy]

private theorem allows_branch_iff {condition success failure : Value}
    (typed : (Source.branch node condition success failure).Typed type) (operands : List ShaderType)
    (asked left right : Reference) :
    rule.Allows type operands (.choice asked left right) ↔ ¬ rule.BrokenBy (.branch node condition success failure) := by
  obtain ⟨_, _, _, same, fits⟩ := typed
  cases same
  obtain ⟨_, _, rfl⟩ := result_branch.1 fits
  cases rule <;> simp [Allows, BrokenBy]

private theorem allows_sample {filter : Filter} {texture coordinate : Value}
    (typed : (Source.sample node filter texture coordinate).Typed type) (operands : List ShaderType)
    (arguments : List Reference) : rule.Allows type operands (.call "texture" arguments) := by
  obtain ⟨_, _, _, same, fits⟩ := typed
  cases same
  obtain ⟨_, _, rfl⟩ := result_sample.1 fits
  cases rule <;> simp [Allows]

private theorem allows_lerp_iff {lhs rhs factor : Value} (typed : (Source.lerp node lhs rhs factor).Typed type)
    (arguments : List Reference) :
    rule.Allows type [lhs.type, rhs.type, factor.type] (.call "mix" arguments) ↔
      ¬ rule.BrokenBy (.lerp node lhs rhs factor) := by
  obtain ⟨_, _, _, same, fits⟩ := typed
  cases same
  obtain ⟨alike, float, weight, rfl⟩ := result_lerp.1 fits
  rw [← alike, weight]
  cases rule with
  | order | connective | matrix => simp [Allows, BrokenBy]
  | mix =>
    simp only [Allows, BrokenBy, true_imp_iff]
    generalize lhs.type = type at float
    cases type <;> first | decide | exact nomatch float
  | sampler =>
    simp only [Allows, BrokenBy, not_false_eq_true, iff_true]
    intro sampler
    rw [sampler] at float
    exact nomatch float

private theorem allows_construct_iff {whole : ShaderType} {parts : List Value} {name : String}
    (typed : (Source.construct node whole parts).Typed type) (spelled : spelling whole = .ok name)
    (arguments : List Reference) :
    rule.Allows type (parts.map Value.type) (.call name arguments) ↔ ¬ rule.BrokenBy (.construct node whole parts) := by
  obtain ⟨rfl, checked⟩ := typed
  cases rule with
  | order | connective => simp [Allows, BrokenBy]
  | mix =>
    have other : name ≠ "mix" := by cases type <;> cases spelled <;> decide
    simp [Allows, BrokenBy, other]
  | sampler =>
    simp only [Allows, BrokenBy, not_false_eq_true, iff_true]
    rintro rfl
    obtain ⟨proper, adds⟩ := checkParts_eq_ok checked
    have few := (width_add_length_le proper).1
    rw [adds] at few
    exact parts_ne_nil checked (List.eq_nil_of_length_eq_zero (Nat.le_zero.1 few))
  | matrix =>
    have called : name ∈ ["mat3", "mat4"] ↔ type.isMatrix = true := by cases type <;> cases spelled <;> decide
    by_cases isMatrix : type.isMatrix = true
    · have parted := matrix_parts_iff isMatrix checked
      simp only [Allows, called, isMatrix, true_imp_iff, BrokenBy]
      rw [parted]
      simp
    · have smaller : type ≠ .mat4 := by
        rintro rfl
        exact isMatrix rfl
      simp [Allows, called, isMatrix, BrokenBy, smaller]

end

private theorem allows_iff {rule : OperatorRule} {last : Temporaries} {value : Value} {expression : Expression}
    (typed : value.Typed) (renders : Renders last value.source expression) :
    rule.Allows value.type (value.source.operands.map Value.type) expression ↔ ¬ rule.BrokenBy value.source := by
  obtain ⟨_, fits⟩ := typed
  generalize value.source = source at renders fits
  cases renders with
  | arithmetic => exact iff_of_true (allows_arithmetic fits _ _ _) (by cases rule <;> exact id)
  | compare => exact allows_compare_iff fits _ _
  | branch => exact allows_branch_iff fits _ _ _ _
  | sample => exact iff_of_true (allows_sample fits _ _) (by cases rule <;> exact id)
  | lerp => exact allows_lerp_iff fits _
  | construct _ spelled => exact allows_construct_iff fits spelled _

private theorem brokenBy_node {rule : OperatorRule} {source : Source} (broken : rule.BrokenBy source) :
    ∃ node, source.node? = some node := by
  unfold BrokenBy at broken
  split at broken <;> first | exact ⟨_, rfl⟩ | exact broken.elim

private theorem holds_iff {rule : OperatorRule} {last : Temporaries} {value : Value} {instruction : Instruction}
    (typed : value.Typed) (line : Line last (.declare value) instruction) :
    rule.Holds (.declare value) instruction ↔ ¬ rule.BrokenBy value.source := by
  cases line with
  | declare _ _ _ renders => exact allows_iff typed renders

private theorem obeyed_iff {rule : OperatorRule} {ledger : Ledger} {document : Document} {preamble : Preamble}
    {last : Temporaries} {source : String} {statements : List Statement} {instructions : List Instruction}
    (sound : document.Sound True ledger) (written : Written document preamble last source statements instructions) :
    rule.Obeyed document source ↔ ∀ value, document.Reached value → ¬ rule.BrokenBy value.source := by
  have typed : ∀ value, document.Reached value → value.Typed :=
    fun value reached => (sound.known_of_reached reached).typed
  have scheduled := written.scheduled
  constructor
  · rintro ⟨_, _, _, planned, main, lines⟩ value reached broken
    cases written.planned.symm.trans planned
    obtain ⟨node, isNode⟩ := brokenBy_node broken
    obtain ⟨declared, listed, same⟩ := mem_declaredNodes.1 (scheduled.declared reached isNode)
    obtain ⟨instruction, _, line, holds⟩ := exists_of_forall₂ lines.flip listed
    have needed : document.Reached declared := (scheduled.fits _ listed).1
    refine (holds_iff (typed declared needed) line).1 holds ?_
    rw [sound.coherent.sameNode needed reached same isNode]
    exact broken
  · intro free
    refine ⟨last, statements, instructions, written.planned, written.main, ?_⟩
    refine ((List.forall₂_and_left _ _).2 ⟨scheduled.fits, written.lines⟩).imp ?_
    rintro statement instruction ⟨fits, line⟩
    refine ⟨line, ?_⟩
    cases statement with
    | declare value => exact (holds_iff (typed value fits.1) line).2 (free value fits.1)
    | assign => trivial

end OperatorRule

namespace Script

/-- The sources of two documents that are built by any script of builders. The body of a stage obeys a rule of the
shading language if and only if no node that the stage needs breaks it. No node breaks the rule about connectives. -/
theorem rule_obeyed_iff (rule : OperatorRule) (script : List Command) (vertexName fragmentName : String)
    (vertex : VertexShader) (fragment : FragmentShader) (attributes : List Attribute) (generator : Generator)
    (sources : Sources) (builders : ∀ command ∈ script, command.step.isBuilder = true)
    (vertexHeld : (Session.start.after script).documents.get? vertexName = some (.vertex vertex))
    (fragmentHeld : (Session.start.after script).documents.get? fragmentName = some (.fragment fragment))
    (generated : (generator.generate vertex fragment attributes).result = .ok sources) :
    (rule.Obeyed (.vertex vertex) sources.vertex ↔
      ∀ value, (Document.vertex vertex).Reached value → ¬ rule.BrokenBy value.source) ∧
    (rule.Obeyed (.fragment fragment) sources.fragment ↔
      ∀ value, (Document.fragment fragment).Reached value → ¬ rule.BrokenBy value.source) := by
  obtain ⟨ledger, sound⟩ := Session.typed_after none builders
  obtain ⟨_, vertexDone, fragmentDone⟩ := Generator.generate_eq_ok generated
  have vertexSound := sound.document vertexHeld
  have fragmentSound := sound.document fragmentHeld
  obtain ⟨_, _, vertexWritten⟩ := Generator.exists_written_vertex vertexSound vertexDone
  obtain ⟨_, _, fragmentWritten⟩ := Generator.exists_written_fragment fragmentSound fragmentDone
  exact ⟨OperatorRule.obeyed_iff vertexSound vertexWritten, OperatorRule.obeyed_iff fragmentSound fragmentWritten⟩

/-- The color is chosen by a comparison of two vectors by size. -/
def orderedVectors : List Command :=
  [⟨.uniform "f" "c" (some "Vec4") none, some "c"⟩, ⟨.compare .less "c" (.register "c"), some "b"⟩,
    ⟨.select "b" "c" "c", some "r"⟩, ⟨.setColor "f" "r", none⟩]

namespace orderedVectors

def vector : Value := .mk 0 .vec4 (.leaf (.uniform 0 .vec4))

def comparison : Value := .mk 2 .bool (.compare 1 .less vector vector)

def choice : Value := .mk 4 .vec4 (.branch 3 comparison vector vector)

def fragment : FragmentShader where
  resources := ⟨⟨[("c", vector)]⟩, []⟩
  inputs := .empty
  color := some choice

end orderedVectors

open orderedVectors in
/-- The sources are generated, and vectors are compared by size in one of them. -/
theorem vectors_compared_by_size :
    (∀ command ∈ orderedVectors, command.step.isBuilder = true) ∧
      (Session.start.after orderedVectors).documents.get? "f" = some (.fragment fragment) ∧
      ∃ sources, ((Generator.ofDialect .es300).generate .empty fragment []).result = .ok sources ∧
        ¬ OperatorRule.order.Obeyed (.fragment fragment) sources.fragment := by
  have builders : ∀ command ∈ orderedVectors, command.step.isBuilder = true := by decide
  have held : (Session.start.after orderedVectors).documents.get? "f" = some (.fragment fragment) := by rfl
  refine ⟨builders, held, ?_⟩
  obtain ⟨ledger, sound⟩ := Session.typed_after none builders
  have fragmentSound : (Document.fragment fragment).Sound True ledger := sound.document held
  obtain ⟨sources, ran⟩ : ∃ sources, ((Generator.ofDialect .es300).generate .empty fragment []).result = .ok sources :=
    exists_ok_of_toOption (by decide +kernel)
  obtain ⟨_, _, done⟩ := Generator.generate_eq_ok ran
  obtain ⟨_, _, written⟩ := Generator.exists_written_fragment fragmentSound done
  have chosen : (Document.fragment fragment).Reached choice :=
    ⟨(.color, choice), List.mem_cons_self, choice.reaches_refl⟩
  have compared : (Document.fragment fragment).Reached comparison := chosen.operand (.head _)
  refine ⟨sources, ran, fun obeyed => ?_⟩
  exact (OperatorRule.obeyed_iff fragmentSound written).1 obeyed comparison compared ⟨rfl, by decide⟩

/-- The color is a vector times a matrix. The vector is sampled from a texture that a comparison of vectors chooses, and
the matrix is interpolated between matrices that are made from smaller ones. -/
def unruly : List Command :=
  [⟨.channel "f" 0 (some .texture), some "t"⟩, ⟨.channel "f" 0 (some .scale), some "s"⟩,
    ⟨.channel "f" 0 (some .color), some "c"⟩, ⟨.member "c" "x", some "k"⟩,
    ⟨.compare .less "c" (.register "c"), some "b"⟩, ⟨.select "b" "t" "t", some "chosen"⟩,
    ⟨.sample "chosen" "s" none, some "sampled"⟩, ⟨.construct "Mat3" ["c", "c", "k"], some "small"⟩,
    ⟨.construct "Mat4" ["small", "c", "s", "k"], some "large"⟩, ⟨.lerp "large" "large" (.register "k"), some "mixed"⟩,
    ⟨.arithmetic .multiply (.register "mixed") (.register "sampled"), some "product"⟩, ⟨.setColor "f" "product", none⟩]

namespace unruly

def texture : Value := .mk 0 .sampler (.leaf (.material 0 .texture))

def scale : Value := .mk 1 .vec2 (.leaf (.material 0 .scale))

def color : Value := .mk 3 .vec4 (.leaf (.material 0 .color))

def factor : Value := .mk 4 .float (.component color "x")

def comparison : Value := .mk 6 .bool (.compare 5 .less color color)

def chosen : Value := .mk 8 .sampler (.branch 7 comparison texture texture)

def sampled : Value := .mk 10 .vec4 (.sample 9 .linear chosen scale)

def small : Value := .mk 12 .mat3 (.construct 11 .mat3 [color, color, factor])

def large : Value := .mk 14 .mat4 (.construct 13 .mat4 [small, color, scale, factor])

def mixed : Value := .mk 16 .mat4 (.lerp 15 large large factor)

def product : Value := .mk 18 .vec4 (.arithmetic 17 .multiply mixed sampled)

def fragment : FragmentShader where
  resources := ⟨.empty, [⟨0, texture, scale, .mk 2 .vec2 (.leaf (.material 0 .offset)), color⟩]⟩
  inputs := .empty
  color := some product

end unruly

open unruly in
/-- The sources are generated, and the fragment stage obeys the rule about connectives alone. -/
theorem unruly_obeys_connective : ∃ sources,
    ((Generator.ofDialect .es300).generate .empty fragment []).result = .ok sources ∧
      ∀ rule : OperatorRule, rule.Obeyed (.fragment fragment) sources.fragment ↔ rule = .connective := by
  have builders : ∀ command ∈ unruly, command.step.isBuilder = true := by simp [unruly, Step.isBuilder]
  obtain ⟨sources, ran⟩ : ∃ sources, ((Generator.ofDialect .es300).generate .empty fragment []).result = .ok sources :=
    exists_ok_of_toOption (by decide +kernel)
  have top : (Document.fragment fragment).Reached product :=
    ⟨(.color, product), List.mem_cons_self, product.reaches_refl⟩
  have interpolated : (Document.fragment fragment).Reached mixed := top.operand (.head _)
  have made : (Document.fragment fragment).Reached large := interpolated.operand (.head _)
  have read : (Document.fragment fragment).Reached sampled := top.operand (.tail _ (.head _))
  have selected : (Document.fragment fragment).Reached chosen := read.operand (.head _)
  have compared : (Document.fragment fragment).Reached comparison := selected.operand (.head _)
  refine ⟨sources, ran, fun rule => ?_⟩
  have known := (rule_obeyed_iff rule unruly "v" "f" .empty fragment [] (.ofDialect .es300) sources builders (by cbv)
    (by cbv) ran).2
  rw [known]
  cases rule with
  | connective => exact iff_of_true (fun _ _ broken => broken) rfl
  | order => exact iff_of_false (fun free => free comparison compared ⟨rfl, by decide⟩) (by decide)
  | mix => exact iff_of_false (fun free => free mixed interpolated rfl) (by decide)
  | sampler => exact iff_of_false (fun free => free chosen selected rfl) (by decide)
  | matrix => exact iff_of_false (fun free => free large made ⟨rfl, small, List.mem_cons_self, rfl⟩) (by decide)

end Script

end Shading
