import Shading.Error
import Shading.Proofs.Dependence
import Shading.Proofs.Names

/-!
# What cannot be shown

The display form of a value is not put together if more values stand inside each other than can be shown, or if a leaf
in it has a number of too many digits.
-/

namespace Shading

/-- So many values stand inside the value, each of them in the one before. -/
inductive Value.Nests : Nat → Value → Prop where
  | none {value : Value} : value.Nests 0
  | operand {value operand : Value} {levels : Nat} (read : operand ∈ value.source.operands)
      (inner : operand.Nests levels) : value.Nests (levels + 1)

/-- The number that a leaf is shown with has too many digits. -/
def Leaf.Long (leaf : Leaf) : Prop :=
  ∃ number, leaf.number? = some number ∧ 10 ^ Text.digitLimit ≤ number.natAbs

theorem Leaf.long_of_displayFault? {leaf : Leaf} {fault : DisplayFault} (faulty : leaf.displayFault? = some fault) :
    fault = .longNumeral ∧ leaf.Long := by
  obtain ⟨number, shown, faulty⟩ := Option.bind_eq_some_iff.1 faulty
  unfold numeralFault? at faulty
  split at faulty
  · cases faulty
  · rename_i long
    cases faulty
    exact ⟨rfl, number, shown, Nat.not_lt.1 (fun short => long (Glsl.isWritable_iff.2 short))⟩

private theorem faulty_of_orElse {first second : Option DisplayFault} {fault : DisplayFault}
    (faulty : (first <|> second) = some fault) : first = some fault ∨ second = some fault := by
  cases first with
  | none => exact .inr faulty
  | some => exact .inl faulty

private theorem exists_of_displayFaultOfAll? {levels : Option Nat} {values : List Value} {fault : DisplayFault}
    (faulty : displayFaultOfAll? levels values = some fault) : ∃ value ∈ values, value.displayFault? levels = some fault := by
  induction values with
  | nil => cases faulty
  | cons value rest ih =>
    rcases faulty_of_orElse faulty with first | later
    · exact ⟨value, List.mem_cons_self, first⟩
    · obtain ⟨other, member, found⟩ := ih later
      exact ⟨other, List.mem_cons_of_mem _ member, found⟩

/-- What keeps a source from being shown is found in its leaf or in one of its operands. -/
private theorem Source.displayFault?_cases {levels : Option Nat} {source : Source} {fault : DisplayFault}
    (faulty : source.displayFault? levels = some fault) :
    (∃ leaf, source = .leaf leaf ∧ leaf.displayFault? = some fault) ∨
      ∃ operand ∈ source.operands, operand.displayFault? levels = some fault := by
  cases source with
  | leaf leaf => exact .inl ⟨leaf, rfl, faulty⟩
  | component parent letters => exact .inr ⟨parent, List.mem_singleton_self parent, faulty⟩
  | construct node type parts => exact .inr (exists_of_displayFaultOfAll? faulty)
  | arithmetic | compare | sample =>
    rcases faulty_of_orElse faulty with first | second
    · exact .inr ⟨_, by simp [Source.operands], first⟩
    · exact .inr ⟨_, by simp [Source.operands], second⟩
  | branch | lerp =>
    rcases faulty_of_orElse faulty with first | others
    · exact .inr ⟨_, by simp [Source.operands], first⟩
    · rcases faulty_of_orElse others with second | third
      · exact .inr ⟨_, by simp [Source.operands], second⟩
      · exact .inr ⟨_, by simp [Source.operands], third⟩

theorem Value.displayFault?_eq (value : Value) (levels : Option Nat) :
    value.displayFault? levels =
      if levels = some 0 then some .tooDeep else value.source.displayFault? (levels.map (· - 1)) := by
  cases value
  rw [Value.displayFault?]
  rfl

/-- Why a value cannot be shown. -/
theorem Value.displayFault?_cases {value : Value} {levels : Option Nat} {fault : DisplayFault}
    (faulty : value.displayFault? levels = some fault) :
    (fault = .tooDeep ∧ ∃ limit, levels = some limit ∧ value.Nests limit) ∨
      (fault = .longNumeral ∧ ∃ read leaf, value.Reaches read ∧ read.source = .leaf leaf ∧ leaf.Long) := by
  rw [value.displayFault?_eq] at faulty
  split at faulty
  · rename_i exhausted
    cases faulty
    exact .inl ⟨rfl, 0, exhausted, .none⟩
  · rename_i more
    rcases Source.displayFault?_cases faulty with ⟨leaf, origin, faulty⟩ | ⟨operand, read, faulty⟩
    · obtain ⟨rfl, long⟩ := Leaf.long_of_displayFault? faulty
      exact .inr ⟨rfl, value, leaf, value.reaches_refl, origin, long⟩
    · rcases displayFault?_cases faulty with ⟨rfl, limit, limited, nests⟩ | ⟨rfl, below, leaf, reaches, origin, long⟩
      · cases levels with
        | none => cases limited
        | some levels =>
          cases limited
          refine .inl ⟨rfl, levels, rfl, ?_⟩
          have room : levels = levels - 1 + 1 := by
            have positive : levels ≠ 0 := by simpa using more
            omega
          rw [room]
          exact .operand read nests
      · exact .inr ⟨rfl, below, leaf, Value.reaches_of_operand read reaches, origin, long⟩
termination_by value.size
decreasing_by
  have smaller := size_le_sizeOfAll read
  have size := value.size_eq
  omega

end Shading
