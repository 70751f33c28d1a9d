import Shading.Number.Decimal
import Shading.Proofs.Rounding

/-!
# The shortest decimal of a double

The decimal that is written for a positive double rounds to it (`Double.shortest_rounds`). The ends of the interval that is
searched are the midpoints to the neighbouring doubles, and the decimals of seventeen digits lie too close together for
both neighbours of the double to miss it.
-/

namespace Shading

private theorem pow10_eq (n : Nat) : pow10 n = 10 ^ n := rfl

/-- The number a decimal stands for. -/
def Decimal.value (decimal : Decimal) : ℚ :=
  decimal.digits * 10 ^ decimal.exponent

private theorem decimalLength_bounds {n : Nat} (positive : 0 < n) : 10 ^ (decimalLength n - 1)
    ≤ n ∧ n < 10 ^ decimalLength n := by
  have some : 0 < decimalLength n := Nat.length_toDigits_pos
  refine ⟨?_, (Nat.length_toDigits_le_iff (by decide) some).1 le_rfl⟩
  by_cases single : decimalLength n = 1
  · rw [single]
    exact positive
  · rw [← not_lt, ← Nat.length_toDigits_le_iff (by decide) (by omega)]
    exact not_le.2 (Nat.sub_lt some Nat.one_pos)

private theorem zpow_ten_mul (exponent : Int) : (10 ^ exponent : ℚ) * pow10
    (-exponent).toNat = pow10 exponent.toNat := by
  rw [pow10_eq, pow10_eq, Nat.cast_pow, Nat.cast_pow, Nat.cast_ofNat, ← zpow_natCast, ← zpow_natCast,
    ← zpow_add₀ (by norm_num)]
  congr 1
  omega

namespace Double

variable {d : Double}

private theorem lowerEnd_eq {before : Nat} (next : before + 1 = d.rank) :
    d.lowerEnd = 2 * (unitsOf before + unitsOf d.rank) := by
  have size : d.units = unitsOf before + gap before := by rw [units_eq, ← next, unitsOf_succ]
  rw [lowerEnd, quarters, ← units_eq, size]
  by_cases power : d.fraction = 0 ∧ 1 < d.exponentField
  · -- Below a power of two the exponent is one less.
    have half : pow2 d.shift = 2 * gap before := by
      rw [fraction_eq, exponentField_eq] at power
      rw [shift, exponentField_eq, pow2_eq, gap, ← pow_succ']
      congr 1
      omega
    rw [if_pos power, half]
    omega
  · have whole : pow2 d.shift = gap before := by
      rw [fraction_eq, exponentField_eq] at power
      rw [shift, exponentField_eq, pow2_eq, gap]
      congr 1
      omega
    rw [if_neg power, whole]
    omega

private theorem upperEnd_eq (d : Double) : d.upperEnd = 2 * (unitsOf d.rank + unitsOf (d.rank + 1)) := by
  rw [upperEnd, quarters, units_eq, unitsOf_succ, gap, shift, exponentField_eq, pow2_eq]
  ring

section

variable (bound digits : Nat) (exponent : Int)

private theorem cast_scaled : ((digits * pow10 exponent.toNat * quarterUnit : Nat) : ℚ) =
    4 * (digits * 10 ^ exponent * unit) * pow10 (-exponent).toNat := by
  rw [quarterUnit, Nat.cast_mul, Nat.cast_mul, Nat.cast_mul, ← zpow_ten_mul]
  push_cast
  ring

private theorem pow10_pos (n : Nat) : (0 : ℚ) < pow10 n := by
  rw [pow10_eq, Nat.cast_pow]
  positivity

private theorem scaled_le_iff : bound * pow10 (-exponent).toNat ≤ digits * pow10 exponent.toNat * quarterUnit ↔
    (bound : ℚ) ≤ 4 * (digits * 10 ^ exponent * unit) := by
  rw [← @Nat.cast_le ℚ, cast_scaled, Nat.cast_mul, mul_le_mul_iff_left₀ (pow10_pos _)]

private theorem le_scaled_iff : digits * pow10 exponent.toNat * quarterUnit ≤ bound * pow10 (-exponent).toNat ↔
    4 * (digits * 10 ^ exponent * unit) ≤ (bound : ℚ) := by
  rw [← @Nat.cast_le ℚ, cast_scaled, Nat.cast_mul, mul_le_mul_iff_left₀ (pow10_pos _)]

end

private theorem roundsFrom_iff (positive : 0 < d.rank) (digits : Nat) (exponent : Int) :
    d.roundsFrom digits exponent = true ↔ Rounds (digits * 10 ^ exponent * unit) d.rank := by
  obtain ⟨before, next⟩ : ∃ before, before + 1 = d.rank := ⟨d.rank - 1, by omega⟩
  have low : (d.lowerEnd : ℚ) = 2 * (unitsOf before + unitsOf d.rank) := by
    rw [lowerEnd_eq next]
    push_cast
    rfl
  have high : (d.upperEnd : ℚ) = 2 * (unitsOf d.rank + unitsOf (d.rank + 1)) := by
    rw [upperEnd_eq]
    push_cast
    rfl
  have lower := scaled_le_iff d.lowerEnd digits exponent
  have upper := le_scaled_iff d.upperEnd digits exponent
  have strictLower := not_congr (le_scaled_iff d.lowerEnd digits exponent)
  have strictUpper := not_congr (scaled_le_iff d.upperEnd digits exponent)
  rw [not_le, not_le] at strictLower strictUpper
  rw [roundsFrom, significand_mod_two]
  generalize (digits * 10 ^ exponent * unit : ℚ) = x at *
  rcases Nat.mod_two_eq_zero_or_one d.rank with even | odd
  · rw [if_pos even, decide_eq_true_iff, lower, upper, low, high, rounds_even_iff next even]
    constructor <;> rintro ⟨least, most⟩ <;> constructor <;> linarith
  · rw [if_neg (by omega), decide_eq_true_iff, strictLower, strictUpper, low, high, rounds_odd_iff next odd]
    constructor <;> rintro ⟨least, most⟩ <;> constructor <;> linarith

def magnitude (d : Double) : ℚ :=
  d.units / unit

private theorem magnitude_eq (d : Double) : d.magnitude = d.quarters / quarterUnit := by
  rw [magnitude, quarters, quarterUnit, Nat.cast_mul, Nat.cast_mul, mul_div_mul_left _ _ (by norm_num)]

private theorem quarterUnit_pos : (0 : ℚ) < quarterUnit := by
  rw [quarterUnit, Nat.cast_mul]
  exact mul_pos (by norm_num) unit_pos

theorem units_pos_iff (d : Double) : 0 < d.units ↔ 0 < d.rank := by
  have order : unitsOf 0 < unitsOf d.rank ↔ 0 < d.rank := unitsOf_strictMono.lt_iff_lt
  rwa [unitsOf_of_lt (by decide), ← units_eq] at order

private theorem leadingExponent_le (positive : 0 < d.rank) : (10 : ℚ) ^ d.leadingExponent ≤ d.magnitude := by
  have whole := quarterUnit_pos
  have amount : 0 < d.quarters := Nat.mul_pos (by decide) ((units_pos_iff d).2 positive)
  rw [magnitude_eq, le_div_iff₀ whole, leadingExponent]
  split
  · rename_i large
    have quotient : 0 < d.quarters / quarterUnit := Nat.div_pos large (by exact_mod_cast whole)
    have least := (decimalLength_bounds quotient).1
    have some : 0 < decimalLength (d.quarters / quarterUnit) := Nat.length_toDigits_pos
    rw [Nat.le_div_iff_mul_le (by exact_mod_cast whole)] at least
    rw [← Nat.cast_pred some, zpow_natCast]
    exact_mod_cast least
  · rename_i small
    have quotient : 0 < (quarterUnit - 1) / d.quarters := Nat.div_pos (by omega) amount
    have most := (decimalLength_bounds quotient).2
    rw [Nat.div_lt_iff_lt_mul amount] at most
    rw [zpow_neg, zpow_natCast, inv_mul_le_iff₀ (by positivity)]
    exact_mod_cast (show quarterUnit ≤ _ by omega)

/-- The multiple of a power of ten below a double. -/
def floorAt (d : Double) (exponent : Int) : Nat :=
  d.quarters * pow10 (-exponent).toNat / (quarterUnit * pow10 exponent.toNat)

private theorem floorAt_bounds (d : Double) (exponent : Int) :
    d.floorAt exponent * 10 ^ exponent ≤ d.magnitude ∧ d.magnitude < (d.floorAt exponent + 1 : Nat) * 10 ^ exponent := by
  have positive : 0 < quarterUnit * pow10 exponent.toNat := by
    exact_mod_cast mul_pos quarterUnit_pos (pow10_pos _)
  have scale := pow10_pos (-exponent).toNat
  have lower := Nat.div_mul_le_self (d.quarters * pow10 (-exponent).toNat) (quarterUnit * pow10 exponent.toNat)
  have upper := Nat.lt_mul_div_succ (d.quarters * pow10 (-exponent).toNat) positive
  rw [← floorAt, ← @Nat.cast_le ℚ] at lower
  rw [← floorAt, ← @Nat.cast_lt ℚ] at upper
  push_cast [← zpow_ten_mul exponent] at lower upper ⊢
  rw [magnitude_eq, le_div_iff₀ quarterUnit_pos, div_lt_iff₀ quarterUnit_pos, ← mul_le_mul_iff_left₀ scale,
    ← mul_lt_mul_iff_left₀ scale]
  constructor <;> linarith

private theorem roundDiv_cases (num den : Nat) : roundDiv num den = num / den ∨ roundDiv num den = num / den + 1 := by
  rw [roundDiv]
  split
  · exact .inl rfl
  · split
    · exact .inr rfl
    · omega

private theorem neighbour?_cases (d : Double) (count : Nat) {exponent : Int}
    (place : d.leadingExponent - ((count : Int) - 1) = exponent) :
    (d.roundsFrom (d.floorAt exponent) exponent = false ∧ d.roundsFrom (d.floorAt exponent + 1) exponent = false ∧
      d.neighbour? count = none) ∨
      ∃ digits, d.roundsFrom digits exponent = true ∧ d.neighbour? count = some ⟨digits, exponent⟩ := by
  subst place
  rw [floorAt, neighbour?]
  generalize d.leadingExponent - ((count : Int) - 1) = exponent
  generalize numEq : d.quarters * pow10 (-exponent).toNat = num
  generalize denEq : quarterUnit * pow10 exponent.toNat = den
  cases below : d.roundsFrom (num / den) exponent with
  | true =>
    cases above : d.roundsFrom (num / den + 1) exponent with
    | true =>
      refine .inr ⟨_, ?_, rfl⟩
      rcases roundDiv_cases num den with same | same
      · rw [same, below]
      · rw [same, above]
    | false => exact .inr ⟨_, below, rfl⟩
  | false =>
    cases above : d.roundsFrom (num / den + 1) exponent with
    | true => exact .inr ⟨_, above, rfl⟩
    | false => exact .inl ⟨rfl, rfl, rfl⟩

private theorem unitsOf_lt (code : Nat) : unitsOf code < 2 ^ 53 * gap code := by
  rcases code_cases code with small | ⟨field, fraction, bound, rfl⟩
  · rw [unitsOf_of_lt small, gap_of_lt small]
    omega
  · rw [unitsOf_normal bound, gap_normal bound]
    exact Nat.mul_lt_mul_of_pos_right (by omega) (Nat.two_pow_pos field)

private theorem unitsOf_lt_midpoints (before : Nat) :
    2 * unitsOf (before + 1) < 10 ^ 16 * (gap before + gap (before + 1)) := by
  have lower := unitsOf_lt before
  have upper := unitsOf_lt (before + 1)
  have next := unitsOf_succ before
  omega

private theorem neighbour?_seventeen (positive : 0 < d.rank) : ∃ decimal, d.neighbour? 17 = some decimal := by
  rcases neighbour?_cases d 17 rfl with ⟨below, above, _⟩ | ⟨digits, _, found⟩
  · exfalso
    obtain ⟨before, next⟩ : ∃ before, before + 1 = d.rank := ⟨d.rank - 1, by omega⟩
    have size : d.magnitude * unit = unitsOf d.rank := by
      rw [magnitude, div_mul_cancel₀ _ unit_pos.ne', units_eq]
    have leading : (10 : ℚ) ^ (d.leadingExponent - (((17 : Nat) : Int) - 1)) * 10 ^ 16 ≤ d.magnitude := by
      rw [← zpow_natCast, ← zpow_add₀ (by norm_num)]
      simpa using leadingExponent_le positive
    rw [← Bool.not_eq_true, roundsFrom_iff positive] at below above
    generalize d.leadingExponent - (((17 : Nat) : Int) - 1) = exponent at *
    obtain ⟨lower, upper⟩ := floorAt_bounds d exponent
    have spacing := mul_le_mul_of_nonneg_right leading unit_pos.le
    have floor := mul_le_mul_of_nonneg_right lower unit_pos.le
    have ceil := mul_le_mul_of_nonneg_right upper.le unit_pos.le
    rw [size, ← next] at spacing floor ceil
    rw [← next] at below above
    have least : 2 * (d.floorAt exponent * 10 ^ exponent * unit : ℚ) ≤ unitsOf before + unitsOf (before + 1) := by
      by_contra inside
      exact below (rounds_of_ceil floor (not_le.1 inside).le (fun _ => not_le.1 inside))
    have most : (unitsOf (before + 1) + unitsOf (before + 1 + 1) : ℚ) ≤
        2 * ((d.floorAt exponent + 1 : Nat) * 10 ^ exponent * unit) := by
      by_contra inside
      exact above (rounds_of_floor ceil (not_le.1 inside).le (fun _ => not_le.1 inside))
    have wide : (2 * unitsOf (before + 1) : ℚ) < 10 ^ 16 * (gap before + gap (before + 1)) := by
      exact_mod_cast unitsOf_lt_midpoints before
    rw [unitsOf_succ (before + 1), unitsOf_succ before] at *
    push_cast at *
    linarith
  · exact ⟨_, found⟩

/-- The decimal written for a positive double rounds to it. -/
theorem shortest_rounds (positive : 0 < d.rank) : Rounds (d.shortest.value * unit) d.rank := by
  obtain ⟨decimal, found⟩ : ∃ decimal, (List.range 17).findSome? (fun n => d.neighbour? (n + 1)) = some decimal := by
    obtain ⟨decimal, last⟩ := neighbour?_seventeen positive
    rw [← Option.isSome_iff_exists, List.findSome?_isSome_iff]
    exact ⟨16, by decide, by rw [last]; rfl⟩
  obtain ⟨count, _, chosen⟩ := List.exists_of_findSome?_eq_some found
  rw [shortest, found, Option.getD_some]
  rcases neighbour?_cases d (count + 1) rfl with ⟨_, _, missed⟩ | ⟨digits, rounds, hit⟩
  · rw [missed] at chosen
    cases chosen
  · rw [hit] at chosen
    obtain rfl := Option.some.inj chosen
    exact (roundsFrom_iff positive _ _).1 rounds

theorem shortest_digits_pos (positive : 0 < d.rank) : 0 < d.shortest.digits := by
  have rounds := shortest_rounds positive
  obtain ⟨before, next⟩ : ∃ before, before + 1 = d.rank := ⟨d.rank - 1, by omega⟩
  have lower := rounds.lower before next
  have size : (unitsOf before : ℚ) < unitsOf d.rank := cast_unitsOf_lt (by omega)
  have least : (0 : ℚ) ≤ unitsOf before := Nat.cast_nonneg _
  rw [Nat.pos_iff_ne_zero]
  intro none
  rw [Decimal.value, none, Nat.cast_zero, zero_mul, zero_mul, mul_zero] at lower
  linarith

end Double

end Shading
