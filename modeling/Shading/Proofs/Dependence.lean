import Mathlib
import Shading.Proofs.Table
import Shading.Schedule

/-!
# Dependence

A value reaches the values it is computed from. An output depends on another one when the value written to it reaches
a value that reads the other one back, and on whatever that one depends on. Along operands values get smaller, so a
source that depends on itself does so through an output that depends on itself (`Plan.needs_irrefl`).
-/

namespace Shading

open Relation

/-- The second value is the first one, or is read to compute it at whatever depth. -/
def Value.Reaches : Value → Value → Prop :=
  ReflTransGen (fun value operand => operand ∈ value.source.operands)

theorem Value.reaches_refl (value : Value) : value.Reaches value := ReflTransGen.refl

theorem Value.reaches_of_operand {value operand reached : Value} (read : operand ∈ value.source.operands)
    (below : operand.Reaches reached) : value.Reaches reached :=
  ReflTransGen.head read below

theorem Value.Reaches.trans {first second third : Value} (upper : first.Reaches second)
    (lower : second.Reaches third) : first.Reaches third :=
  ReflTransGen.trans upper lower

theorem size_le_sizeOfAll {value : Value} {values : List Value} (member : value ∈ values) :
    value.size ≤ sizeOfAll values := by
  induction values with
  | nil => simp at member
  | cons first rest ih =>
    rw [sizeOfAll]
    rcases List.mem_cons.1 member with rfl | later
    · exact Nat.le_add_right _ _
    · exact Nat.le_trans (ih later) (Nat.le_add_left _ _)

/-- The source of an operand is smaller than the source that reads it. -/
theorem Source.size_lt_of_operand {source : Source} {operand : Value} (read : operand ∈ source.operands) :
    operand.source.size < source.size := by
  have bound := size_le_sizeOfAll read
  rw [operand.size_eq, ← operand.source.size_eq, ← source.size_eq] at bound
  omega

mutual

/-- What is left of a value once the components that are selected from it are taken off. -/
def Value.root : Value → Source
  | .mk _ _ source => source.root

/-- What is left of a source once the components are taken off. -/
def Source.root : Source → Source
  | .component parent _ => parent.root
  | source => source

end

private theorem Value.root_eq (value : Value) : value.root = value.source.root := by
  cases value
  rw [Value.root, Value.source]

theorem Source.root_of_node {source : Source} {node : Nat} (isNode : source.node? = some node) :
    source.root = source := by
  cases source <;> first | rfl | exact nomatch isNode

theorem Value.root_of_node {value : Value} {node : Nat} (isNode : value.source.node? = some node) :
    value.root = value.source := by
  rw [value.root_eq, Source.root_of_node isNode]

theorem Value.root_of_leaf {value : Value} {leaf : Leaf} (origin : value.source = .leaf leaf) :
    value.root = .leaf leaf := by
  rw [value.root_eq, origin]
  rfl

theorem Value.root_of_component {value parent : Value} {letters : String}
    (origin : value.source = .component parent letters) : value.root = parent.root := by
  rw [value.root_eq, origin, Source.root]

theorem Value.root_of_plain {value : Value} (plain : ∀ parent letters, value.source ≠ .component parent letters) :
    value.root = value.source := by
  rw [value.root_eq]
  cases origin : value.source with
  | component parent letters => exact absurd origin (plain parent letters)
  | _ => rfl

/-- What holds of the values that are no components, and of a component if it holds of its parent, holds of all. -/
@[elab_as_elim]
theorem Value.component_induction {motive : Value → Prop}
    (plain : ∀ value, (∀ parent letters, value.source ≠ .component parent letters) → motive value)
    (component : ∀ value parent letters, value.source = .component parent letters → motive parent → motive value)
    (value : Value) : motive value := by
  cases origin : value.source with
  | component parent letters => exact component value parent letters origin (component_induction plain component parent)
  | _ => exact plain value (by simp [origin])
termination_by value.size
decreasing_by
  rw [value.size_eq, origin, Source.operands, sizeOfAll, sizeOfAll]
  omega

/-- A root is a leaf or a node. -/
theorem Value.root_cases (value : Value) :
    (∃ leaf, value.root = .leaf leaf) ∨ ∃ node, value.root.node? = some node := by
  induction value using Value.component_induction with
  | plain value plain =>
    rw [Value.root_of_plain plain]
    cases origin : value.source with
    | leaf leaf => exact .inl ⟨leaf, rfl⟩
    | component parent letters => exact absurd origin (plain parent letters)
    | _ => exact .inr ⟨_, rfl⟩
  | component value parent letters origin ih =>
    rw [Value.root_of_component origin]
    exact ih

/-- A root is the source of a value that is reached. -/
theorem Value.exists_reaches_root (value : Value) : ∃ read, value.Reaches read ∧ read.source = value.root := by
  induction value using Value.component_induction with
  | plain value plain => exact ⟨value, value.reaches_refl, (Value.root_of_plain plain).symm⟩
  | component value parent letters origin ih =>
    obtain ⟨read, below, same⟩ := ih
    refine ⟨read, Value.reaches_of_operand ?_ below, by rw [same, Value.root_of_component origin]⟩
    simp [origin, Source.operands]

namespace Plan

/-- A value is needed for an output. -/
def Reached (plan : Plan) (value : Value) : Prop :=
  ∃ target ∈ plan.targets, target.2.Reaches value

/-- The value written to the first output reads the second one back. -/
def ReadsBack (plan : Plan) (output other : Output) : Prop :=
  ∃ value read, (output, value) ∈ plan.targets ∧ value.Reaches read ∧ read.source = .leaf (.output other)

/-- The value written to the first output needs that of the second one, perhaps through further outputs. -/
def DependsOn (plan : Plan) : Output → Output → Prop :=
  TransGen plan.ReadsBack

/-- No output depends on itself. -/
def Acyclic (plan : Plan) : Prop :=
  ∀ output, ¬ plan.DependsOn output output

/-- Every output is written once, and a number stands for one node. -/
structure Coherent (plan : Plan) : Prop where
  distinct : (plan.targets.map Prod.fst).Nodup
  sameNode : ∀ {first second : Value} {node : Nat}, plan.Reached first → plan.Reached second →
    first.source.node? = some node → second.source.node? = some node → first.source = second.source

theorem Reached.reaches {plan : Plan} {value read : Value} (reached : plan.Reached value) (below : value.Reaches read) :
    plan.Reached read := by
  obtain ⟨target, member, above⟩ := reached
  exact ⟨target, member, above.trans below⟩

theorem Reached.operand {plan : Plan} {value operand : Value} (reached : plan.Reached value)
    (read : operand ∈ value.source.operands) : plan.Reached operand :=
  reached.reaches (Value.reaches_of_operand read operand.reaches_refl)

theorem reached_target {plan : Plan} {output : Output} {value : Value}
    (target : plan.targets.lookup output = some value) : plan.Reached value :=
  ⟨(output, value), mem_of_lookup target, value.reaches_refl⟩

/-- The first source cannot be computed before the second one: it reads it, or it reads an output back that is written
from it. -/
inductive Needs (plan : Plan) : Source → Source → Prop where
  | operand {source : Source} {value : Value} (read : value ∈ source.operands) : plan.Needs source value.source
  | readBack {output : Output} {value : Value} (target : plan.targets.lookup output = some value) :
    plan.Needs (.leaf (.output output)) value.source

private theorem value_of_chain {plan : Plan} {output : Output} {source : Source}
    (chain : TransGen plan.Needs (.leaf (.output output)) source) :
    ∃ last value read, ReflTransGen plan.ReadsBack output last ∧ (last, value) ∈ plan.targets ∧
      value.Reaches read ∧ read.source = source := by
  induction chain with
  | single need =>
    cases need with
    | operand read => simp [Source.operands] at read
    | readBack target => exact ⟨output, _, _, .refl, mem_of_lookup target, Value.reaches_refl _, rfl⟩
  | tail _ need ih =>
    obtain ⟨last, value, read, depends, target, below, origin⟩ := ih
    cases need with
    | operand operand =>
      exact ⟨last, value, _, depends, target, ReflTransGen.tail below (by rw [origin]; exact operand), rfl⟩
    | readBack next =>
      exact ⟨_, _, _, depends.tail ⟨value, read, target, below, origin⟩, mem_of_lookup next,
        Value.reaches_refl _, rfl⟩

/-- A chain from one output to another is a dependence. -/
theorem dependsOn_of_chain {plan : Plan} {output other : Output}
    (chain : TransGen plan.Needs (.leaf (.output output)) (.leaf (.output other))) : plan.DependsOn output other := by
  obtain ⟨last, value, read, depends, target, below, origin⟩ := value_of_chain chain
  exact TransGen.tail' depends ⟨value, read, target, below, origin⟩

private theorem size_lt_or_output {plan : Plan} {source last : Source} (chain : TransGen plan.Needs source last) :
    last.size < source.size ∨ ∃ output, ReflTransGen plan.Needs source (.leaf (.output output)) ∧
      TransGen plan.Needs (.leaf (.output output)) last := by
  induction chain with
  | single need =>
    cases need with
    | operand read => exact .inl (Source.size_lt_of_operand read)
    | readBack target => exact .inr ⟨_, .refl, .single (.readBack target)⟩
  | tail chain need ih =>
    rcases ih with smaller | ⟨output, before, after⟩
    · cases need with
      | operand read => exact .inl (Nat.lt_trans (Source.size_lt_of_operand read) smaller)
      | readBack target => exact .inr ⟨_, chain.to_reflTransGen, .single (.readBack target)⟩
    · exact .inr ⟨output, before, after.tail need⟩

/-- Without an output that depends on itself, no source needs itself. -/
theorem needs_irrefl {plan : Plan} (acyclic : plan.Acyclic) (source : Source) :
    ¬ TransGen plan.Needs source source := by
  intro chain
  rcases size_lt_or_output chain with smaller | ⟨output, before, after⟩
  · exact Nat.lt_irrefl _ smaller
  · exact acyclic output (dependsOn_of_chain (TransGen.trans_left after before))

end Plan

theorem Source.uniform?_eq_some_iff {source : Source} {index : Int} {type : ShaderType} :
    source.uniform? = some (index, type) ↔ source = .leaf (.uniform index type) := by
  unfold Source.uniform?
  split <;> simp
  rintro rfl
  simp_all

namespace Document

variable {document : Document}

/-- A value is needed for an output of the document. -/
def Reached (document : Document) (value : Value) : Prop :=
  ∃ write ∈ document.writes, write.2.Reaches value

/-- A leaf is read, at whatever depth, to compute an output of the document. -/
def Reads (document : Document) (leaf : Leaf) : Prop :=
  ∃ value, document.Reached value ∧ value.source = .leaf leaf

/-- The value that the document writes to the first output reads the second one back. -/
def ReadsBack (document : Document) (output other : Output) : Prop :=
  ∃ value read, (output, value) ∈ document.writes ∧ value.Reaches read ∧ read.source = .leaf (.output other)

/-- The first output needs the second one, perhaps through further outputs. -/
def DependsOn (document : Document) : Output → Output → Prop :=
  TransGen document.ReadsBack

/-- No output of the document depends on itself. -/
def Acyclic (document : Document) : Prop :=
  ∀ output, ¬ document.DependsOn output output

theorem Reached.reaches {value read : Value} (reached : document.Reached value) (below : value.Reaches read) :
    document.Reached read := by
  obtain ⟨write, member, above⟩ := reached
  exact ⟨write, member, above.trans below⟩

theorem Reached.operand {value operand : Value} (reached : document.Reached value)
    (read : operand ∈ value.source.operands) : document.Reached operand :=
  reached.reaches (Value.reaches_of_operand read operand.reaches_refl)

theorem targets_plan : document.plan.targets = document.writes := rfl

theorem mem_plan_uniforms {index : Int} {type : ShaderType} :
    (index, type) ∈ document.plan.uniforms ↔
      ∃ entry ∈ document.resources.uniforms.entries, entry.2.source.uniform? = some (index, type) := by
  simp only [Document.plan, Resources.uniformsByIndex, List.mem_filterMap, List.mem_mergeSort, Table.values,
    List.mem_map]
  constructor
  · rintro ⟨_, ⟨entry, member, rfl⟩, origin⟩
    exact ⟨entry, member, origin⟩
  · rintro ⟨entry, member, origin⟩
    exact ⟨entry.2, ⟨entry, member, rfl⟩, origin⟩

end Document

end Shading
