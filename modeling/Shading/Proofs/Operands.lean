import Shading.Proofs.Rounding
import Shading.Proofs.Typing

/-!
# Plain operands

Beside a scalar a plain operand stands for one constant of exactly the scalar's type (`Stands`): itself beside an integer
or a truth value, and the nearest double beside a float. Everything else is refused, but for an integer beyond the largest
double (`Combination.run_apply`).
-/

namespace Shading

/-- The constant of a scalar type that a plain operand stands for. -/
inductive Stands : ShaderType → Plain → Constant → Prop where
  | truth (value : Bool) : Stands .bool (.constant (.bool value)) (.bool value)
  | whole (value : Int) : Stands .int (.constant (.int value)) (.int value)
  | double (value : Double) : Stands .float (.constant (.double value)) (.double value)
  | nearest {value : Int} {double : Double} (sign : double.isNegative = decide (value < 0))
      (nearest : double.Nearest value) : Stands .float (.constant (.int value)) (.double double)
  | nearestTruth {value : Bool} {double : Double} (sign : double.isNegative = false)
      (nearest : double.Nearest (Constant.ofTruth value)) : Stands .float (.constant (.bool value)) (.double double)

/-- The operands that a type is never combined with. -/
inductive Refuses : ShaderType → Plain → Prop where
  | intDouble (value : Double) : Refuses .int (.constant (.double value))
  | intTruth (value : Bool) : Refuses .int (.constant (.bool value))
  | boolInt (value : Int) : Refuses .bool (.constant (.int value))
  | boolDouble (value : Double) : Refuses .bool (.constant (.double value))
  | text (type : ShaderType) (value : String) : Refuses type (.text value)
  | nothing (type : ShaderType) : Refuses type .nothing
  | composite {type : ShaderType} (other : type.kind ≠ .scalar) (plain : Plain) : Refuses type plain

/-- An integer beside a float that rounds to no double. -/
def Overflows (type : ShaderType) (plain : Plain) : Prop :=
  type = .float ∧ ∃ value : Int, plain = .constant (.int value) ∧ Double.overflow ≤ |(value : ℚ)|

variable {type : ShaderType} {plain : Plain} {constant : Constant}

theorem Stands.type_eq (stands : Stands type plain constant) : constant.type = type := by
  cases stands <;> rfl

theorem Stands.scalar (stands : Stands type plain constant) : type.kind = .scalar := by
  cases stands <;> rfl

private theorem Constant.ofTruth_nonneg (value : Bool) : ¬ ofTruth value < 0 := by
  cases value <;> decide

private theorem ofTruth_isSome (value : Bool) : (Double.ofInt? (Constant.ofTruth value)).isSome = true := by
  cases value <;> decide +kernel

private theorem stands_or_refuses (type : ShaderType) (plain : Plain) :
    (∃ constant, Stands type plain constant) ∨ Refuses type plain ∨ Overflows type plain := by
  by_cases scalar : type.kind = .scalar
  · cases plain with
    | text value => exact .inr (.inl (.text type value))
    | nothing => exact .inr (.inl (.nothing type))
    | constant constant =>
      cases type with
      | bool =>
        cases constant with
        | bool value => exact .inl ⟨_, .truth value⟩
        | int value => exact .inr (.inl (.boolInt value))
        | double value => exact .inr (.inl (.boolDouble value))
      | int =>
        cases constant with
        | bool value => exact .inr (.inl (.intTruth value))
        | int value => exact .inl ⟨_, .whole value⟩
        | double value => exact .inr (.inl (.intDouble value))
      | float =>
        cases constant with
        | bool value =>
          obtain ⟨double, found⟩ := Option.isSome_iff_exists.1 (ofTruth_isSome value)
          obtain ⟨sign, nearest⟩ := Double.ofInt?_eq_some_iff.1 found
          rw [decide_eq_false (Constant.ofTruth_nonneg value)] at sign
          exact .inl ⟨_, .nearestTruth sign nearest⟩
        | int value =>
          cases found : Double.ofInt? value with
          | none => exact .inr (.inr ⟨rfl, value, rfl, Double.ofInt?_eq_none_iff.1 found⟩)
          | some double =>
            obtain ⟨sign, nearest⟩ := Double.ofInt?_eq_some_iff.1 found
            exact .inl ⟨_, .nearest sign nearest⟩
        | double value => exact .inl ⟨_, .double value⟩
      | _ => cases scalar
  · exact .inr (.inl (.composite scalar plain))

def Value.literalAt (key : Nat) (constant : Constant) : Value :=
  .mk key constant.type (.leaf (.literal (.constant constant) constant.type))

private theorem Value.run_constant (constant : Constant) (next : Nat) :
    (Value.constant constant).run next = .ok (Value.literalAt next constant, next + 1) := by
  cases constant <;> rfl

variable {value : Value}

private theorem Value.operandBeside_float (float : value.type = .float) {double : Double}
    (found : constant.toDouble? = some double) :
    value.operandBeside (.plain (.constant constant)) = Value.constant (.double double) := by
  have scalar : value.kind = .scalar := by rw [Value.kind, float, ShaderType.kind]
  unfold Value.operandBeside
  dsimp only
  rw [if_pos scalar, float]
  simp only [found]

private theorem Value.operandBeside_large (float : value.type = .float) (absent : constant.toDouble? = none) :
    value.operandBeside (.plain (.constant constant)) = throw .intTooLarge := by
  have scalar : value.kind = .scalar := by rw [Value.kind, float, ShaderType.kind]
  unfold Value.operandBeside
  dsimp only
  rw [if_pos scalar, float]
  simp only [absent]

private theorem Value.operandBeside_composite (composite : value.kind ≠ .scalar) (plain : Plain) :
    value.operandBeside (.plain plain) = Build.violate (.notCombined value.type plain) := by
  unfold Value.operandBeside
  cases plain with
  | constant constant => exact if_neg composite
  | text => rfl
  | nothing => rfl

private theorem Value.operandBeside_of_stands (stands : Stands value.type plain constant) (next : Nat) :
    (value.operandBeside (.plain plain)).run next = .ok (Value.literalAt next constant, next + 1) := by
  rw [← Value.run_constant]
  cases value with
  | mk key type source =>
    change Stands type plain constant at stands
    cases stands with
    | truth => rfl
    | whole => rfl
    | double => rw [Value.operandBeside_float rfl rfl]
    | @nearest int double sign nearest =>
      have found : (Constant.int int).toDouble? = some double := by
        rw [Constant.toDouble?, Double.ofInt?_eq_some_iff]
        exact ⟨sign, nearest⟩
      rw [Value.operandBeside_float rfl found]
    | @nearestTruth truth double sign nearest =>
      have found : (Constant.bool truth).toDouble? = some double := by
        rw [Constant.toDouble?, Double.ofInt?_eq_some_iff, decide_eq_false (Constant.ofTruth_nonneg truth)]
        exact ⟨sign, nearest⟩
      rw [Value.operandBeside_float rfl found]

private theorem Value.operandBeside_of_refuses (refuses : Refuses value.type plain) (next : Nat) :
    (∃ cause, (value.operandBeside (.plain plain)).run next = .error (.violation cause)) ∨
      ∃ constant, constant.type ≠ value.type ∧ value.type.kind = .scalar ∧
        (value.operandBeside (.plain plain)).run next = .ok (Value.literalAt next constant, next + 1) := by
  cases value with
  | mk key type source =>
    change Refuses type plain at refuses
    cases refuses with
    | intDouble double => exact .inl ⟨.truncation double, rfl⟩
    | intTruth truth => exact .inr ⟨.bool truth, ShaderType.noConfusion, rfl, rfl⟩
    | boolInt int => exact .inr ⟨.int int, ShaderType.noConfusion, rfl, rfl⟩
    | boolDouble double => exact .inr ⟨.double double, ShaderType.noConfusion, rfl, rfl⟩
    | text => exact .inl ⟨_, rfl⟩
    | nothing => exact .inl ⟨_, rfl⟩
    | composite composite =>
      rw [Value.operandBeside_composite (show (Value.mk key type source).kind ≠ .scalar from composite)]
      exact .inl ⟨_, rfl⟩

private theorem Value.operandBeside_of_overflows (overflows : Overflows value.type plain) (next : Nat) :
    (value.operandBeside (.plain plain)).run next = .error .intTooLarge := by
  obtain ⟨float, int, rfl, large⟩ := overflows
  have absent : (Constant.int int).toDouble? = none := by
    rwa [Constant.toDouble?, Double.ofInt?_eq_none_iff]
  rw [Value.operandBeside_large float absent]
  rfl

/-- The ways to combine a value with a plain operand, which stands on the right of arithmetic, on its left, or on the right
of a comparison. -/
inductive Combination where
  | arithmetic (operator : Arithmetic)
  | arithmeticFrom (operator : Arithmetic)
  | compare (comparison : Comparison)

namespace Combination

/-- The value and the plain operand combined. -/
def apply (value : Value) (plain : Plain) : Combination → Build Value
  | arithmetic operator => value.arithmetic operator (.plain plain)
  | arithmeticFrom operator => value.arithmeticFrom operator plain
  | compare comparison => value.compare comparison (.plain plain)

/-- The operator between the two sides. -/
def operator : Combination → Operator
  | arithmetic operator | arithmeticFrom operator => .arithmetic operator
  | compare comparison => .compare comparison

/-- The left and the right side. -/
def sides (value literal : Value) : Combination → Value × Value
  | arithmetic _ | compare _ => (value, literal)
  | arithmeticFrom _ => (literal, value)

/-- The scalar types that can be combined: arithmetic needs numbers, and a logical connective truth values. -/
def Accepts (type : ShaderType) : Combination → Prop
  | arithmetic _ | arithmeticFrom _ => type ≠ .bool
  | compare comparison => comparison.isLogical = true → type = .bool

def resultType (type : ShaderType) : Combination → ShaderType
  | arithmetic _ | arithmeticFrom _ => type
  | compare _ => .bool

/-- A value combined with a literal of its own type, on the side of the plain operand, that holds the constant for which
the operand stands. -/
structure Combined (combination : Combination) (value : Value) (plain : Plain) (result : Value) : Prop where
  scalar : value.kind = .scalar
  accepts : combination.Accepts value.type
  type : result.type = combination.resultType value.type
  operation : ∃ literal constant, literal.type = value.type ∧
    literal.source = .leaf (.literal (.constant constant) value.type) ∧ Stands value.type plain constant ∧
    result.source.operation? = some ((combination.sides value literal).1, combination.operator,
      (combination.sides value literal).2)

variable {combination : Combination}

private theorem apply_eq (combination : Combination) (value : Value) (plain : Plain) :
    combination.apply value plain = value.operandBeside (.plain plain) >>= fun literal =>
      (combination.sides value literal).1.operate combination.operator (combination.sides value literal).2 := by
  cases combination <;> rfl

private theorem result_operator {lhs rhs : ShaderType} (scalar : lhs.kind = .scalar) :
    combination.operator.result lhs rhs = .ok type ↔
      lhs = rhs ∧ combination.Accepts lhs ∧ type = combination.resultType lhs := by
  have product : matrixProduct? lhs rhs ≠ some type := by
    intro found
    cases lhs <;> cases scalar <;> cases found
  have numeric : lhs.isNumeric = true ↔ lhs ≠ .bool := by
    cases lhs <;> cases scalar <;> decide
  have comparable : lhs ≠ .sampler := by
    rintro rfl
    cases scalar
  cases combination with
  | arithmetic => simp [operator, Accepts, resultType, result_arithmetic, product, numeric]
  | arithmeticFrom => simp [operator, Accepts, resultType, result_arithmetic, product, numeric]
  | compare comparison =>
    simp only [operator, Accepts, resultType, result_compare]
    by_cases logical : comparison.isLogical = true
    · rw [if_pos logical]
      constructor
      · rintro ⟨result, same, truth⟩
        exact ⟨same, fun _ => truth, result⟩
      · rintro ⟨same, truth, result⟩
        exact ⟨result, same, truth logical⟩
    · rw [if_neg logical]
      constructor
      · rintro ⟨result, same, _⟩
        exact ⟨same, fun connective => absurd connective logical, result⟩
      · rintro ⟨same, _, result⟩
        exact ⟨result, same, comparable⟩

private theorem result_sides {value literal : Value} (scalar : value.type.kind = .scalar)
    (literalScalar : literal.type.kind = .scalar) :
    combination.operator.result (combination.sides value literal).1.type (combination.sides value literal).2.type =
        .ok type ↔
      literal.type = value.type ∧ combination.Accepts value.type ∧ type = combination.resultType value.type := by
  cases combination with
  | arithmeticFrom operator =>
    rw [sides, result_operator literalScalar]
    refine and_congr_right (fun same => ?_)
    rw [same]
  | _ =>
    rw [sides, result_operator scalar, eq_comm]

variable {next : Nat}

private theorem scalar_literalAt (key : Nat) (constant : Constant) :
    (Value.literalAt key constant).type.kind = .scalar := by
  cases constant <;> rfl

private theorem run_apply_literal
    (became : (value.operandBeside (.plain plain)).run next = .ok (Value.literalAt next constant, next + 1)) :
    (combination.apply value plain).run next =
      ((combination.sides value (Value.literalAt next constant)).1.operate combination.operator
        (combination.sides value (Value.literalAt next constant)).2).run (next + 1) := by
  rw [apply_eq, StateT.run_bind, became]
  rfl

private theorem run_apply_error {cause : Error}
    (stopped : (value.operandBeside (.plain plain)).run next = .error cause) :
    (combination.apply value plain).run next = .error cause := by
  rw [apply_eq, StateT.run_bind, stopped]
  rfl

private theorem run_apply_violation (scalar : value.type.kind = .scalar)
    (became : (value.operandBeside (.plain plain)).run next = .ok (Value.literalAt next constant, next + 1))
    (rejects : ¬ (constant.type = value.type ∧ combination.Accepts value.type)) :
    ∃ cause, (combination.apply value plain).run next = .error (.violation cause) := by
  rw [run_apply_literal became]
  cases fits : combination.operator.result (combination.sides value (Value.literalAt next constant)).1.type
      (combination.sides value (Value.literalAt next constant)).2.type with
  | ok type =>
    obtain ⟨same, accepts, _⟩ := (result_sides scalar (scalar_literalAt next constant)).1 fits
    exact absurd ⟨same, accepts⟩ rejects
  | error cause =>
    rw [Value.operate, fits]
    exact ⟨cause, rfl⟩

private theorem run_apply_combined (stands : Stands value.type plain constant)
    (accepts : combination.Accepts value.type) :
    ∃ result after, (combination.apply value plain).run next = .ok (result, after) ∧
      combination.Combined value plain result := by
  have became := Value.operandBeside_of_stands stands next
  have same : (Value.literalAt next constant).type = value.type := stands.type_eq
  have fits := (result_sides stands.scalar (scalar_literalAt next constant)).2 ⟨same, accepts, rfl⟩
  have leftType : (combination.sides value (Value.literalAt next constant)).1.type = value.type := by
    cases combination with
    | arithmeticFrom => exact same
    | _ => rfl
  have proper : (combination.sides value (Value.literalAt next constant)).1.type ≠ .operation := by
    intro operation
    have scalar := stands.scalar
    rw [← leftType, operation] at scalar
    cases scalar
  obtain ⟨source, made, operation⟩ : ∃ source,
      combination.operator.source? (next + 1) (combination.sides value (Value.literalAt next constant)).1
        (combination.sides value (Value.literalAt next constant)).2 = some source ∧
      source.operation? = some ((combination.sides value (Value.literalAt next constant)).1, combination.operator,
        (combination.sides value (Value.literalAt next constant)).2) := by
    cases combination <;> exact ⟨_, rfl, rfl⟩
  refine ⟨_, _, (run_apply_literal became).trans (Value.run_operate_eq fits proper made), ?_⟩
  exact ⟨stands.scalar, accepts, rfl, _, constant, same, by rw [← stands.type_eq]; rfl, stands, operation⟩

private theorem run_apply_refused (refuses : Refuses value.type plain) :
    ∃ cause, (combination.apply value plain).run next = .error (.violation cause) := by
  rcases Value.operandBeside_of_refuses refuses next with ⟨cause, stopped⟩ | ⟨constant, differs, scalar, became⟩
  · exact ⟨cause, run_apply_error stopped⟩
  · exact run_apply_violation scalar became (fun both => differs both.1)

private theorem run_apply_cases (combination : Combination) (value : Value) (plain : Plain) (next : Nat) :
    (∃ result after, (combination.apply value plain).run next = .ok (result, after) ∧
      combination.Combined value plain result) ∨
    (∃ cause, (combination.apply value plain).run next = .error (.violation cause)) ∨
    ((combination.apply value plain).run next = .error .intTooLarge ∧ Overflows value.type plain) := by
  rcases stands_or_refuses value.type plain with ⟨constant, stands⟩ | refuses | overflows
  · by_cases accepts : combination.Accepts value.type
    · exact .inl (run_apply_combined stands accepts)
    · have became := Value.operandBeside_of_stands stands next
      exact .inr (.inl (run_apply_violation stands.scalar became (fun both => accepts both.2)))
  · exact .inr (.inl (run_apply_refused refuses))
  · exact .inr (.inr ⟨run_apply_error (Value.operandBeside_of_overflows overflows next), overflows⟩)

/-- Combining a value with a plain operand succeeds if and only if the operand stands for a constant of the value's type
and the combination accepts the type, and what comes out then combines the value with a literal of this constant. All else
violates a contract, and always so where the type refuses the operand, but for an integer beside a float that rounds beyond
the largest double. -/
theorem run_apply (combination : Combination) (value : Value) (plain : Plain) (next : Nat) :
    ((∃ result after, (combination.apply value plain).run next = .ok (result, after)) ↔
      combination.Accepts value.type ∧ ∃ constant, Stands value.type plain constant) ∧
    (∀ result after, (combination.apply value plain).run next = .ok (result, after) →
      combination.Combined value plain result) ∧
    (∀ failure, (combination.apply value plain).run next = .error failure →
      failure = .intTooLarge ∨ ∃ cause, failure = .violation cause) ∧
    ((combination.apply value plain).run next = .error .intTooLarge ↔ Overflows value.type plain) ∧
    (Refuses value.type plain → ∃ cause, (combination.apply value plain).run next = .error (.violation cause)) := by
  have combined : ∀ result after, (combination.apply value plain).run next = .ok (result, after) →
      combination.Combined value plain result := by
    intro result after succeeds
    rcases run_apply_cases combination value plain next with ⟨_, _, made, holds⟩ | ⟨_, stopped⟩ | ⟨stopped, _⟩
    · rw [succeeds] at made
      cases made
      exact holds
    · rw [succeeds] at stopped
      cases stopped
    · rw [succeeds] at stopped
      cases stopped
  refine ⟨⟨?_, ?_⟩, combined, ?_, ⟨?_, ?_⟩, run_apply_refused⟩
  · rintro ⟨result, after, succeeds⟩
    obtain ⟨_, accepts, _, _, constant, _, _, stands, _⟩ := combined result after succeeds
    exact ⟨accepts, constant, stands⟩
  · rintro ⟨accepts, constant, stands⟩
    obtain ⟨result, after, succeeds, _⟩ := run_apply_combined stands accepts
    exact ⟨result, after, succeeds⟩
  · intro failure fails
    rcases run_apply_cases combination value plain next with ⟨_, _, made, _⟩ | ⟨cause, stopped⟩ | ⟨stopped, _⟩
    · rw [fails] at made
      cases made
    · rw [fails] at stopped
      exact .inr ⟨cause, Except.error.inj stopped⟩
    · rw [fails] at stopped
      exact .inl (Except.error.inj stopped)
  · intro fails
    rcases run_apply_cases combination value plain next with ⟨_, _, made, _⟩ | ⟨_, stopped⟩ | ⟨_, overflows⟩
    · rw [fails] at made
      cases made
    · rw [fails] at stopped
      cases stopped
    · exact overflows
  · intro overflows
    exact run_apply_error (Value.operandBeside_of_overflows overflows next)

end Combination

end Shading
