import Mathlib
import Shading.Number.Double

/-!
# Rounding to the nearest double

Without its sign a double is a code, and the codes count the doubles from zero upwards. Beyond the code of the largest
double they go on as if exponents had no bound. A number rounds to a code if it lies between the midpoints to the codes
next to it, where a midpoint belongs to the even code (`Rounds`). One code at most does that, and the integer arithmetic
of `nearestCode` finds it. So a fraction or an integer becomes the nearest double with its sign (`Nearest`), unless it lies
beyond the midpoint behind the largest one (`overflow`).
-/

namespace Shading

theorem pow2_eq (n : Nat) : pow2 n = 2 ^ n := rfl

namespace Double

/-- The magnitude of a code, counted in least positive doubles. -/
def unitsOf (code : Nat) : Nat :=
  if code < 2 ^ 52 then code else (code % 2 ^ 52 + 2 ^ 52) * 2 ^ (code / 2 ^ 52 - 1)

def gap (code : Nat) : Nat :=
  2 ^ (code / 2 ^ 52 - 1)

theorem unitsOf_of_lt {code : Nat} (small : code < 2 ^ 52) : unitsOf code = code :=
  if_pos small

theorem gap_of_lt {code : Nat} (small : code < 2 ^ 52) : gap code = 1 := by
  rw [gap, Nat.div_eq_of_lt small, Nat.zero_sub, Nat.pow_zero]

/-- The magnitude of an exponent field and a fraction. -/
theorem unitsOf_normal {field fraction : Nat} (bound : fraction < 2 ^ 52) :
    unitsOf ((field + 1) * 2 ^ 52 + fraction) = (fraction + 2 ^ 52) * 2 ^ field := by
  have large : ¬ (field + 1) * 2 ^ 52 + fraction < 2 ^ 52 := by omega
  have quotient : ((field + 1) * 2 ^ 52 + fraction) / 2 ^ 52 = field + 1 := by omega
  have remainder : ((field + 1) * 2 ^ 52 + fraction) % 2 ^ 52 = fraction := by omega
  rw [unitsOf, if_neg large, quotient, remainder, Nat.add_sub_cancel]

theorem gap_normal {field fraction : Nat} (bound : fraction < 2 ^ 52) :
    gap ((field + 1) * 2 ^ 52 + fraction) = 2 ^ field := by
  have quotient : ((field + 1) * 2 ^ 52 + fraction) / 2 ^ 52 = field + 1 := by omega
  rw [gap, quotient, Nat.add_sub_cancel]

/-- A code is below the normal doubles, or has a field and a fraction. -/
theorem code_cases (code : Nat) :
    code < 2 ^ 52 ∨ ∃ field fraction, fraction < 2 ^ 52 ∧ code = (field + 1) * 2 ^ 52 + fraction := by
  by_cases small : code < 2 ^ 52
  · exact .inl small
  · exact .inr ⟨code / 2 ^ 52 - 1, code % 2 ^ 52, Nat.mod_lt _ (by decide), by omega⟩

theorem unitsOf_succ (code : Nat) : unitsOf (code + 1) = unitsOf code + gap code := by
  rcases code_cases code with small | ⟨field, fraction, bound, rfl⟩
  · rw [unitsOf_of_lt small, gap_of_lt small]
    by_cases last : code + 1 < 2 ^ 52
    · exact unitsOf_of_lt last
    · have next : code + 1 = (0 + 1) * 2 ^ 52 + 0 := by omega
      rw [next, unitsOf_normal (by decide)]
      omega
  · rw [unitsOf_normal bound, gap_normal bound]
    by_cases last : fraction + 1 < 2 ^ 52
    · rw [Nat.add_assoc, unitsOf_normal last]
      ring
    · have full : fraction + 2 ^ 52 + 1 = 2 ^ 52 * 2 := by omega
      have next : (field + 1) * 2 ^ 52 + fraction + 1 = (field + 1 + 1) * 2 ^ 52 + 0 := by omega
      rw [next, unitsOf_normal (by decide), ← Nat.succ_mul, Nat.succ_eq_add_one, full]
      ring

private theorem gap_pos (code : Nat) : 0 < gap code :=
  Nat.two_pow_pos _

theorem unitsOf_strictMono : StrictMono unitsOf :=
  strictMono_nat_of_lt_succ (fun code => by
    have wide := gap_pos code
    rw [unitsOf_succ]
    omega)

/-- A number of units rounds to a code: it lies between the midpoints to the codes before and behind it, and on one of
them only if the code is even. -/
structure Rounds (x : ℚ) (code : Nat) : Prop where
  lower : ∀ before, before + 1 = code → (unitsOf before + unitsOf code : ℚ) ≤ 2 * x
  upper : 2 * x ≤ unitsOf code + unitsOf (code + 1)
  oddLower : code % 2 = 1 → ∀ before, before + 1 = code → (unitsOf before + unitsOf code : ℚ) < 2 * x
  oddUpper : code % 2 = 1 → 2 * x < unitsOf code + unitsOf (code + 1)

variable {x : ℚ} {code other : Nat}

theorem rounds_even_iff {before : Nat} (next : before + 1 = code) (even : code % 2 = 0) :
    Rounds x code ↔ (unitsOf before + unitsOf code : ℚ) ≤ 2 * x ∧ 2 * x ≤ unitsOf code + unitsOf (code + 1) := by
  constructor
  · intro rounds
    exact ⟨rounds.lower before next, rounds.upper⟩
  · rintro ⟨lower, upper⟩
    refine ⟨fun other same => ?_, upper, fun odd => by omega, fun odd => by omega⟩
    obtain rfl : before = other := by omega
    exact lower

theorem rounds_odd_iff {before : Nat} (next : before + 1 = code) (odd : code % 2 = 1) :
    Rounds x code ↔ (unitsOf before + unitsOf code : ℚ) < 2 * x ∧ 2 * x < unitsOf code + unitsOf (code + 1) := by
  constructor
  · intro rounds
    exact ⟨rounds.oddLower odd before next, rounds.oddUpper odd⟩
  · rintro ⟨lower, upper⟩
    have least : ∀ other, other + 1 = code → (unitsOf other + unitsOf code : ℚ) < 2 * x := by
      intro other same
      obtain rfl : before = other := by omega
      exact lower
    exact ⟨fun other same => (least other same).le, upper.le, fun _ => least, fun _ => upper⟩

theorem cast_unitsOf_lt (smaller : code < other) : (unitsOf code : ℚ) < unitsOf other := by
  exact_mod_cast unitsOf_strictMono smaller

private theorem cast_unitsOf_le (smaller : code ≤ other) : (unitsOf code : ℚ) ≤ unitsOf other := by
  exact_mod_cast unitsOf_strictMono.monotone smaller

theorem rounds_zero : Rounds 0 0 := by
  refine ⟨fun _ next => absurd next (Nat.succ_ne_zero _), ?_, fun odd => absurd odd (by decide),
    fun odd => absurd odd (by decide)⟩
  rw [mul_zero]
  exact add_nonneg (Nat.cast_nonneg _) (Nat.cast_nonneg _)

theorem Rounds.not_lt (first : Rounds x code) (second : Rounds x other) : ¬ code < other := by
  intro smaller
  obtain ⟨before, rfl⟩ : ∃ before, other = before + 1 := ⟨other - 1, by omega⟩
  have upper := first.upper
  have lower := second.lower before rfl
  rcases Nat.lt_or_eq_of_le (Nat.le_of_lt_succ smaller) with apart | rfl
  · -- Further codes lie between the two, and with them all numbers that round to these.
    have least := cast_unitsOf_lt apart
    have next := cast_unitsOf_le (Nat.succ_le_succ (Nat.le_of_lt apart))
    simp only [Nat.succ_eq_add_one] at next
    linarith
  · -- Of two neighbours one is odd, and does not hold the midpoint.
    rcases Nat.mod_two_eq_zero_or_one code with even | odd
    · have strict := second.oddLower (by omega) code rfl
      linarith
    · have strict := first.oddUpper odd
      linarith

/-- A number rounds to one code. -/
theorem Rounds.unique (first : Rounds x code) (second : Rounds x other) : code = other :=
  Nat.le_antisymm (Nat.le_of_not_lt (second.not_lt first)) (Nat.le_of_not_lt (first.not_lt second))

private theorem nearer_lower_iff {low high : ℚ} (ordered : low < high) :
    |x - low| ≤ |x - high| ↔ 2 * x ≤ low + high := by
  constructor
  · intro nearer
    rcases abs_cases (x - low) with ⟨first, _⟩ | ⟨first, _⟩ <;>
      rcases abs_cases (x - high) with ⟨second, _⟩ | ⟨second, _⟩ <;> linarith
  · intro below
    rw [abs_le]
    constructor <;> rcases abs_cases (x - high) with ⟨second, _⟩ | ⟨second, _⟩ <;> linarith

private theorem nearer_upper_iff {low high : ℚ} (ordered : low < high) :
    |x - high| ≤ |x - low| ↔ low + high ≤ 2 * x := by
  constructor
  · intro nearer
    rcases abs_cases (x - low) with ⟨first, _⟩ | ⟨first, _⟩ <;>
      rcases abs_cases (x - high) with ⟨second, _⟩ | ⟨second, _⟩ <;> linarith
  · intro above
    rw [abs_le]
    constructor <;> rcases abs_cases (x - low) with ⟨first, _⟩ | ⟨first, _⟩ <;> linarith

private theorem Rounds.closest (rounds : Rounds x code) (other : Nat) : |x - unitsOf code| ≤ |x - unitsOf other| := by
  rcases Nat.lt_trichotomy other code with smaller | rfl | larger
  · obtain ⟨before, rfl⟩ : ∃ before, code = before + 1 := ⟨code - 1, by omega⟩
    have midpoint := rounds.lower before rfl
    have least := cast_unitsOf_le (Nat.le_of_lt_succ smaller)
    exact (nearer_upper_iff (cast_unitsOf_lt smaller)).2 (by linarith)
  · exact le_rfl
  · have midpoint := rounds.upper
    have next : (unitsOf (code + 1) : ℚ) ≤ unitsOf other := cast_unitsOf_le larger
    exact (nearer_lower_iff (cast_unitsOf_lt larger)).2 (by linarith)

private theorem Rounds.closer (rounds : Rounds x code) (odd : code % 2 = 1) (different : other ≠ code) :
    |x - unitsOf code| < |x - unitsOf other| := by
  rw [← not_le]
  intro nearer
  rcases Nat.lt_or_gt_of_ne different with smaller | larger
  · obtain ⟨before, rfl⟩ : ∃ before, code = before + 1 := ⟨code - 1, by omega⟩
    have midpoint := rounds.oddLower odd before rfl
    have least := cast_unitsOf_le (Nat.le_of_lt_succ smaller)
    have passed := (nearer_lower_iff (cast_unitsOf_lt smaller)).1 nearer
    linarith
  · have midpoint := rounds.oddUpper odd
    have next : (unitsOf (code + 1) : ℚ) ≤ unitsOf other := cast_unitsOf_le larger
    have passed := (nearer_upper_iff (cast_unitsOf_lt larger)).1 nearer
    linarith

/-- A number rounds to the code below it. -/
theorem rounds_of_floor (above : unitsOf code ≤ x) (near : 2 * x ≤ unitsOf code + unitsOf (code + 1))
    (strict : code % 2 = 1 → 2 * x < unitsOf code + unitsOf (code + 1)) : Rounds x code := by
  have lower : ∀ before, before + 1 = code → (unitsOf before + unitsOf code : ℚ) < 2 * x := by
    intro before next
    have less : (unitsOf before : ℚ) < unitsOf code := cast_unitsOf_lt (by omega)
    linarith
  exact ⟨fun before next => (lower before next).le, near, fun _ => lower, strict⟩

/-- A number rounds to the code above it. -/
theorem rounds_of_ceil (below : x ≤ unitsOf (code + 1)) (near : (unitsOf code + unitsOf (code + 1) : ℚ) ≤ 2 * x)
    (strict : (code + 1) % 2 = 1 → (unitsOf code + unitsOf (code + 1) : ℚ) < 2 * x) : Rounds x (code + 1) := by
  have upper : 2 * x < unitsOf (code + 1) + unitsOf (code + 1 + 1) := by
    have more : (unitsOf (code + 1) : ℚ) < unitsOf (code + 1 + 1) := cast_unitsOf_lt (Nat.lt_succ_self _)
    linarith
  refine ⟨fun before next => ?_, upper.le, fun odd before next => ?_, fun _ => upper⟩
  · obtain rfl := Nat.succ.inj next
    exact near
  · obtain rfl := Nat.succ.inj next
    exact strict odd

private theorem unitsOf_shifted {shift quotient : Nat} (fits : quotient < 2 ^ 53)
    (leading : shift = 0 ∨ 2 ^ 52 ≤ quotient) :
    unitsOf (shift * 2 ^ 52 + quotient) = quotient * 2 ^ shift ∧ gap (shift * 2 ^ 52 + quotient) = 2 ^ shift := by
  by_cases normal : 2 ^ 52 ≤ quotient
  · obtain ⟨fraction, rfl⟩ := Nat.exists_eq_add_of_le' normal
    have bound : fraction < 2 ^ 52 := by omega
    have same : shift * 2 ^ 52 + (fraction + 2 ^ 52) = (shift + 1) * 2 ^ 52 + fraction := by ring
    rw [same]
    exact ⟨unitsOf_normal bound, gap_normal bound⟩
  · have unshifted : shift = 0 := leading.resolve_right normal
    have small : quotient < 2 ^ 52 := by omega
    rw [unshifted, Nat.zero_mul, Nat.zero_add, unitsOf_of_lt small, gap_of_lt small, Nat.pow_zero, Nat.mul_one]
    exact ⟨rfl, rfl⟩

/-- How far a number of units has to be shifted down for its quotient to fit into a significand. -/
def downShift (whole : Nat) : Nat :=
  if whole < 2 ^ 53 then 0 else Nat.log2 whole - 52

private theorem downShift_fits (whole : Nat) :
    whole / 2 ^ downShift whole < 2 ^ 53 ∧ (downShift whole = 0 ∨ 2 ^ 52 ≤ whole / 2 ^ downShift whole) := by
  by_cases small : whole < 2 ^ 53
  · rw [downShift, if_pos small, Nat.pow_zero, Nat.div_one]
    exact ⟨small, .inl rfl⟩
  · have nonzero : whole ≠ 0 := by omega
    have bits : 53 ≤ Nat.log2 whole := (Nat.le_log2 nonzero).2 (by omega)
    have lower : 2 ^ 52 * 2 ^ (Nat.log2 whole - 52) ≤ whole := by
      rw [← pow_add, Nat.add_sub_cancel' (by omega)]
      exact Nat.log2_self_le nonzero
    have upper : whole < 2 ^ 53 * 2 ^ (Nat.log2 whole - 52) := by
      rw [← pow_add, show 53 + (Nat.log2 whole - 52) = Nat.log2 whole + 1 by omega]
      exact Nat.lt_log2_self
    rw [downShift, if_neg small]
    exact ⟨Nat.div_lt_of_lt_mul (by rwa [Nat.mul_comm] at upper),
      .inr ((Nat.le_div_iff_mul_le (Nat.two_pow_pos _)).2 lower)⟩

private theorem nearestCode_eq (num den : Nat) :
    nearestCode num den = downShift (num * unit / den) * 2 ^ 52 +
      roundDiv (num * unit) (den * 2 ^ downShift (num * unit / den)) := rfl

private theorem twice_div_lt_iff {rest den shift : Nat} (positive : 0 < den) :
    2 * (rest / den : ℚ) < 2 ^ shift ↔ 2 * rest < den * 2 ^ shift := by
  have cast : (0 : ℚ) < den := by exact_mod_cast positive
  rw [← mul_div_assoc, div_lt_iff₀' cast]
  norm_cast

private theorem lt_twice_div_iff {rest den shift : Nat} (positive : 0 < den) :
    (2 ^ shift : ℚ) < 2 * (rest / den) ↔ den * 2 ^ shift < 2 * rest := by
  have cast : (0 : ℚ) < den := by exact_mod_cast positive
  rw [← mul_div_assoc, lt_div_iff₀' cast]
  norm_cast

/-- Rounding the quotient of a shifted significand rounds to a code: below the midpoint it stays at the code of the
quotient, above it goes to the next one, and on it to the even one of the two. -/
private theorem rounds_roundDiv {amount den shift : Nat} (positive : 0 < den)
    (fits : amount / (den * 2 ^ shift) < 2 ^ 53) (leading : shift = 0 ∨ 2 ^ 52 ≤ amount / (den * 2 ^ shift)) :
    Rounds (amount / den) (shift * 2 ^ 52 + roundDiv amount (den * 2 ^ shift)) := by
  obtain ⟨magnitude, width⟩ := unitsOf_shifted fits leading
  have next := unitsOf_succ (shift * 2 ^ 52 + amount / (den * 2 ^ shift))
  have split := Nat.div_add_mod amount (den * 2 ^ shift)
  have bound : amount % (den * 2 ^ shift) < den * 2 ^ shift := Nat.mod_lt _ (Nat.mul_pos positive (Nat.two_pow_pos _))
  rw [magnitude, width] at next
  rw [roundDiv]
  generalize amount / (den * 2 ^ shift) = quotient at *
  generalize amount % (den * 2 ^ shift) = rest at *
  have parity : (shift * 2 ^ 52 + quotient) % 2 = quotient % 2 := by omega
  have cast : (0 : ℚ) < den := by exact_mod_cast positive
  have value : (amount / den : ℚ) = quotient * 2 ^ shift + rest / den := by
    rw [← split]
    push_cast
    field_simp
  have below : 2 * (rest / den : ℚ) < 2 ^ shift ↔ 2 * rest < den * 2 ^ shift := twice_div_lt_iff positive
  have above : (2 ^ shift : ℚ) < 2 * (rest / den) ↔ den * 2 ^ shift < 2 * rest := lt_twice_div_iff positive
  have inside : (0 : ℚ) ≤ rest / den ∧ (rest / den : ℚ) < 2 ^ shift := by
    refine ⟨by positivity, ?_⟩
    rw [div_lt_iff₀' cast]
    exact_mod_cast bound
  rw [value]
  generalize shift * 2 ^ 52 = base at *
  have here : (unitsOf (base + quotient) : ℚ) = quotient * 2 ^ shift := by exact_mod_cast magnitude
  have there : (unitsOf (base + quotient + 1) : ℚ) = quotient * 2 ^ shift + 2 ^ shift := by exact_mod_cast next
  by_cases lower : 2 * rest < den * 2 ^ shift
  · rw [if_pos lower]
    have near := below.2 lower
    exact rounds_of_floor (by linarith) (by linarith) (fun _ => by linarith)
  · rw [if_neg lower]
    have notBelow := mt below.1 lower
    by_cases upper : den * 2 ^ shift < 2 * rest
    · rw [if_pos upper, ← Nat.add_assoc]
      have near := above.2 upper
      exact rounds_of_ceil (by linarith) (by linarith) (fun _ => by linarith)
    · rw [if_neg upper]
      have notAbove := mt above.1 upper
      rcases Nat.mod_two_eq_zero_or_one quotient with even | odd
      · rw [even, Nat.add_zero]
        exact rounds_of_floor (by linarith) (by linarith) (fun odd => by omega)
      · rw [odd, ← Nat.add_assoc]
        exact rounds_of_ceil (by linarith) (by linarith) (fun even => by omega)

private theorem nearestCode_rounds (num : Nat) {den : Nat} (positive : 0 < den) :
    Rounds ((num * unit : Nat) / den) (nearestCode num den) := by
  rw [nearestCode_eq]
  obtain ⟨fits, leading⟩ := downShift_fits (num * unit / den)
  rw [Nat.div_div_eq_div_mul] at fits leading
  exact rounds_roundDiv positive fits leading

/-- The midpoint between the largest double and the code behind it: from here on no double is nearest. -/
def overflow : ℚ :=
  2 ^ 1024 - 2 ^ 970

theorem unit_pos : (0 : ℚ) < unit := by
  rw [unit, pow2_eq]
  positivity

private theorem overflow_midpoint : (unitsOf (2047 * 2 ^ 52 - 1) + unitsOf (2047 * 2 ^ 52) : ℚ) = 2 * (overflow * unit)
    := by
  have largest : unitsOf (2047 * 2 ^ 52 - 1) = (2 ^ 52 - 1 + 2 ^ 52) * 2 ^ 2045 := by
    rw [show 2047 * 2 ^ 52 - 1 = (2045 + 1) * 2 ^ 52 + (2 ^ 52 - 1) by norm_num, unitsOf_normal (by decide)]
  have behind : unitsOf (2047 * 2 ^ 52) = (0 + 2 ^ 52) * 2 ^ 2046 := by
    rw [show 2047 * 2 ^ 52 = (2046 + 1) * 2 ^ 52 + 0 by norm_num, unitsOf_normal (by decide)]
  have powers : (2 ^ 2045 : Nat) = 2 ^ 1 * 2 ^ 970 * 2 ^ 1074 ∧ (2 ^ 2046 : Nat) = 2 ^ 2 * 2 ^ 970 * 2 ^ 1074 := by
    simp only [← pow_add, and_self]
  have top : (2 ^ 1024 - 2 ^ 970 : ℚ) = (2 ^ 54 - 1) * (2 ^ 970 : Nat) := by
    rw [show 1024 = 54 + 970 by norm_num, pow_add, Nat.cast_pow, sub_one_mul, Nat.cast_ofNat]
  rw [largest, behind, powers.1, powers.2, unit, pow2_eq, overflow, top]
  generalize 2 ^ 970 = scale, 2 ^ 1074 = least
  push_cast
  ring

private theorem Rounds.lt_iff (rounds : Rounds x code) : code < 2047 * 2 ^ 52 ↔ x < overflow * unit := by
  have midpoint := overflow_midpoint
  constructor
  · intro finite
    rcases Nat.lt_or_eq_of_le (Nat.le_sub_one_of_lt finite) with smaller | rfl
    · have upper := rounds.upper
      have least := cast_unitsOf_lt smaller
      have next : (unitsOf (code + 1) : ℚ) ≤ unitsOf (2047 * 2 ^ 52) := cast_unitsOf_le finite
      linarith
    · have upper := rounds.oddUpper (by decide)
      rw [Nat.sub_add_cancel (by decide)] at upper
      linarith
  · intro less
    by_contra infinite
    obtain ⟨before, rfl⟩ : ∃ before, code = before + 1 := ⟨code - 1, by omega⟩
    have lower := rounds.lower before rfl
    have least : (unitsOf (2047 * 2 ^ 52 - 1) : ℚ) ≤ unitsOf before := cast_unitsOf_le (by omega)
    have next : (unitsOf (2047 * 2 ^ 52) : ℚ) ≤ unitsOf (before + 1) := cast_unitsOf_le (by omega)
    linarith

/-- The place of the magnitude among the doubles: the bits without the sign. -/
def rank (d : Double) : Nat :=
  d.code % 2 ^ 63

/-- The double of a sign and a rank. -/
def ofRank (negative : Bool) (rank : Nat) : Double :=
  ⟨UInt64.ofNat (if negative then pow2 63 + rank else rank)⟩

private theorem code_lt (d : Double) : d.code < 2 ^ 64 :=
  d.bits.toNat_lt

theorem exponentField_eq (d : Double) : d.exponentField = d.rank / 2 ^ 52 := by
  simp only [exponentField, rank, pow2_eq]
  omega

theorem fraction_eq (d : Double) : d.fraction = d.rank % 2 ^ 52 := by
  simp only [fraction, rank, pow2_eq]
  omega

private theorem isNegative_iff (d : Double) : d.isNegative = true ↔ 2 ^ 63 ≤ d.code := by
  rw [isNegative, decide_eq_true_iff, pow2_eq]

private theorem isFinite_iff (d : Double) : d.isFinite = true ↔ d.rank < 2047 * 2 ^ 52 := by
  rw [isFinite, decide_eq_true_iff, exponentField_eq, rank]
  omega

theorem significand_mod_two (d : Double) : d.significand % 2 = d.rank % 2 := by
  rw [significand, fraction_eq, pow2_eq]
  split <;> omega

theorem units_eq (d : Double) : d.units = unitsOf d.rank := by
  rw [units, significand, shift, fraction_eq, exponentField_eq, pow2_eq, pow2_eq, unitsOf]
  by_cases small : d.rank < 2 ^ 52
  · rw [if_pos small, if_pos (Nat.div_eq_of_lt small), Nat.div_eq_of_lt small, Nat.mod_eq_of_lt small, Nat.zero_sub,
      Nat.pow_zero, Nat.mul_one]
  · rw [if_neg small, if_neg (by omega)]

theorem eq_of_rank {a b : Double} (sign : a.isNegative = b.isNegative) (same : a.rank = b.rank) : a = b := by
  have signs : 2 ^ 63 ≤ a.code ↔ 2 ^ 63 ≤ b.code := by
    rw [← isNegative_iff, ← isNegative_iff, sign]
  have codes : a.code = b.code := by
    have first := code_lt a
    have second := code_lt b
    simp only [rank] at same
    omega
  cases a
  cases b
  exact congrArg Double.mk (UInt64.toNat_inj.1 codes)

variable {negative : Bool} {place : Nat}

private theorem code_ofRank (bound : place < 2 ^ 63) :
    (ofRank negative place).code = if negative then 2 ^ 63 + place else place := by
  rw [code, ofRank, UInt64.toNat_ofNat', pow2_eq]
  split <;> omega

private theorem isNegative_ofRank (bound : place < 2 ^ 63) : (ofRank negative place).isNegative = negative := by
  rw [Bool.eq_iff_iff, isNegative_iff, code_ofRank bound]
  cases negative
  · simp only [Bool.false_eq_true, if_false, iff_false]
    omega
  · simp

private theorem rank_ofRank (bound : place < 2 ^ 63) : (ofRank negative place).rank = place := by
  rw [rank, code_ofRank bound]
  split <;> omega

private theorem nearest?_eq (negative : Bool) (num den : Nat) :
    nearest? negative num den =
      if nearestCode num den < 2047 * 2 ^ 52 then some (ofRank negative (nearestCode num den)) else none := rfl

def signed (negative : Bool) (magnitude : ℚ) : ℚ :=
  if negative then -magnitude else magnitude

/-- The number a finite double stands for. -/
def value (d : Double) : ℚ :=
  signed d.isNegative (d.units / unit)

/-- The double that a number rounds to: no finite one is nearer, and its significand is even if another one is as near. The
number has to lie below the overflow. -/
structure Nearest (d : Double) (x : ℚ) : Prop where
  finite : d.isFinite = true
  bounded : |x| < overflow
  closest : ∀ other : Double, other.isFinite = true → |x - d.value| ≤ |x - other.value|
  even : ∀ other : Double, other.isFinite = true → other.value ≠ d.value → |x - d.value| = |x - other.value| →
    d.significand % 2 = 0

private theorem abs_signed (negative : Bool) (magnitude : ℚ) : |signed negative magnitude| = |magnitude| := by
  cases negative
  · rfl
  · exact abs_neg magnitude

private theorem signed_sub (negative : Bool) (a b : ℚ) : signed negative a - signed negative b = signed negative (a - b)
    := by
  cases negative
  · rfl
  · simp only [signed, if_true]
    ring

private theorem distance_same {d : Double} (sign : d.isNegative = negative) (magnitude : ℚ) :
    |signed negative magnitude - d.value| * unit = |magnitude * unit - unitsOf d.rank| := by
  have positive := unit_pos
  rw [value, sign, signed_sub, abs_signed, units_eq]
  nth_rewrite 2 [← abs_of_pos positive]
  rw [← abs_mul, sub_mul, div_mul_cancel₀ _ positive.ne']

private theorem distance_opposite {d : Double} (sign : d.isNegative ≠ negative) {magnitude : ℚ}
    (nonneg : 0 ≤ magnitude) :
    |signed negative magnitude - d.value| * unit = magnitude * unit + unitsOf d.rank := by
  have positive := unit_pos
  have opposite : signed negative magnitude - d.value = signed negative (magnitude + d.units / unit) := by
    rw [value, Bool.eq_not_of_ne sign]
    cases negative <;> simp only [signed, Bool.not_true, Bool.not_false, Bool.false_eq_true, if_true, if_false] <;> ring
  have total : 0 ≤ magnitude + d.units / unit := add_nonneg nonneg (div_nonneg (Nat.cast_nonneg _) positive.le)
  rw [opposite, abs_signed, abs_of_nonneg total, add_mul, div_mul_cancel₀ _ positive.ne', units_eq]

variable {d : Double} {magnitude : ℚ}

private theorem distance_ge (nonneg : 0 ≤ magnitude) (other : Double) :
    |magnitude * unit - unitsOf other.rank| ≤ |signed negative magnitude - other.value| * unit := by
  by_cases sign : other.isNegative = negative
  · rw [distance_same sign]
  · have amount : 0 ≤ magnitude * unit := mul_nonneg nonneg unit_pos.le
    have size : (0 : ℚ) ≤ unitsOf other.rank := Nat.cast_nonneg _
    rw [distance_opposite sign nonneg, abs_le]
    constructor <;> linarith

/-- Rounding to the code of a double of the same sign makes it the nearest one. -/
theorem nearest_of_rounds (finite : d.isFinite = true) (nonneg : 0 ≤ magnitude)
    (rounds : Rounds (magnitude * unit) d.rank) : d.Nearest (signed d.isNegative magnitude) where
  finite := finite
  bounded := by
    have below := rounds.lt_iff.1 ((isFinite_iff d).1 finite)
    rw [abs_signed, abs_of_nonneg nonneg]
    exact lt_of_mul_lt_mul_right below unit_pos.le
  closest := by
    intro other _
    refine le_of_mul_le_mul_right ?_ unit_pos
    rw [distance_same rfl]
    exact (rounds.closest other.rank).trans (distance_ge nonneg other)
  even := by
    intro other _ different tie
    rw [significand_mod_two]
    rcases Nat.mod_two_eq_zero_or_one d.rank with even | odd
    · exact even
    · have scaled := congrArg (· * (unit : ℚ)) tie
      simp only [distance_same rfl] at scaled
      by_cases same : other.rank = d.rank
      · -- The double is the negative of the other one, and zero would be nearer than the farther of them.
        have sign : other.isNegative ≠ d.isNegative := by
          intro sign
          exact different (congrArg value (eq_of_rank sign same))
        obtain ⟨before, next⟩ : ∃ before, before + 1 = d.rank := ⟨d.rank - 1, by omega⟩
        have positive := rounds.oddLower odd before next
        have less : (unitsOf before : ℚ) < unitsOf d.rank := cast_unitsOf_lt (by omega)
        have size : (0 : ℚ) ≤ unitsOf before := Nat.cast_nonneg _
        rw [distance_opposite sign nonneg, same] at scaled
        rcases abs_cases (magnitude * unit - unitsOf d.rank) with ⟨distance, _⟩ | ⟨distance, _⟩ <;> linarith
      · have closer := rounds.closer odd same
        have far := @distance_ge d.isNegative magnitude nonneg other
        linarith

private theorem rank_eq_of_value {a b : Double} (sign : a.isNegative = b.isNegative) (same : a.value = b.value) :
    a.rank = b.rank := by
  have distance : |a.value - b.value| * unit = |(a.units / unit : ℚ) * unit - unitsOf b.rank| :=
    distance_same sign.symm _
  rw [same, sub_self, abs_zero, zero_mul, div_mul_cancel₀ _ unit_pos.ne', units_eq, eq_comm, abs_eq_zero, sub_eq_zero,
    Nat.cast_inj] at distance
  exact unitsOf_strictMono.injective distance

private theorem Nearest.closest_rank (nearest : d.Nearest (signed d.isNegative magnitude))
    (small : place < 2047 * 2 ^ 52) :
    |magnitude * unit - unitsOf d.rank| ≤ |magnitude * unit - unitsOf place| := by
  have rank : (ofRank d.isNegative place).rank = place := rank_ofRank (by omega)
  have nearer := nearest.closest (ofRank d.isNegative place) ((isFinite_iff _).2 (by rwa [rank]))
  have scaled := mul_le_mul_of_nonneg_right nearer unit_pos.le
  rwa [distance_same rfl, distance_same (isNegative_ofRank (by omega)), rank] at scaled

private theorem Nearest.closer_rank (nearest : d.Nearest (signed d.isNegative magnitude)) (odd : d.rank % 2 = 1)
    (small : place < 2047 * 2 ^ 52) (different : place ≠ d.rank) :
    |magnitude * unit - unitsOf d.rank| < |magnitude * unit - unitsOf place| := by
  have rank : (ofRank d.isNegative place).rank = place := rank_ofRank (by omega)
  have sign : (ofRank d.isNegative place).isNegative = d.isNegative := isNegative_ofRank (by omega)
  refine lt_of_le_of_ne (nearest.closest_rank small) (fun tie => ?_)
  have values : (ofRank d.isNegative place).value ≠ d.value := by
    intro same
    exact different (rank ▸ rank_eq_of_value sign same)
  have even := nearest.even _ ((isFinite_iff _).2 (by rwa [rank])) values
    (mul_right_cancel₀ unit_pos.ne' (by rwa [distance_same rfl, distance_same sign, rank]))
  rw [significand_mod_two] at even
  omega

private theorem rounds_of_nearest (nonneg : 0 ≤ magnitude) (nearest : d.Nearest (signed d.isNegative magnitude)) :
    Rounds (magnitude * unit) d.rank := by
  have finite := (isFinite_iff d).1 nearest.finite
  have below : magnitude * unit < overflow * unit := by
    have bounded := nearest.bounded
    rw [abs_signed, abs_of_nonneg nonneg] at bounded
    exact mul_lt_mul_of_pos_right bounded unit_pos
  have next : (unitsOf d.rank : ℚ) < unitsOf (d.rank + 1) := cast_unitsOf_lt (Nat.lt_succ_self _)
  -- The code behind the largest double is none of a double, but the number lies below their midpoint.
  have last : ¬ d.rank + 1 < 2047 * 2 ^ 52 → 2 * (magnitude * unit) < unitsOf d.rank + unitsOf (d.rank + 1) := by
    intro large
    have midpoint := overflow_midpoint
    rw [show 2047 * 2 ^ 52 - 1 = d.rank by omega, show 2047 * 2 ^ 52 = d.rank + 1 by omega] at midpoint
    linarith
  constructor
  · intro before preceding
    exact (nearer_upper_iff (cast_unitsOf_lt (by omega))).1 (nearest.closest_rank (by omega))
  · by_cases small : d.rank + 1 < 2047 * 2 ^ 52
    · exact (nearer_lower_iff next).1 (nearest.closest_rank small)
    · exact (last small).le
  · intro odd before preceding
    rw [← not_le, ← nearer_lower_iff (cast_unitsOf_lt (by omega)), not_le]
    exact nearest.closer_rank odd (by omega) (by omega)
  · intro odd
    by_cases small : d.rank + 1 < 2047 * 2 ^ 52
    · rw [← not_le, ← nearer_upper_iff next, not_le]
      exact nearest.closer_rank odd small (by omega)
    · exact last small

/-- One double of each sign at most is nearest to a number of this sign. -/
theorem Nearest.unique {other : Double} (nonneg : 0 ≤ magnitude) (sign : d.isNegative = negative)
    (otherSign : other.isNegative = negative) (first : d.Nearest (signed negative magnitude))
    (second : other.Nearest (signed negative magnitude)) : d = other := by
  subst sign
  rw [← otherSign] at second
  exact eq_of_rank otherSign.symm ((rounds_of_nearest nonneg first).unique (rounds_of_nearest nonneg second))

section

variable {num den : Nat} (positive : 0 < den)

include positive

private theorem rounds_fraction (num : Nat) : Rounds (num / den * unit) (nearestCode num den) := by
  have rounds := nearestCode_rounds num positive
  rwa [Nat.cast_mul, ← div_mul_eq_mul_div] at rounds

private theorem nearest?_eq_some_iff :
    nearest? negative num den = some d ↔ d.isNegative = negative ∧ d.Nearest (signed negative (num / den)) := by
  have nonneg : (0 : ℚ) ≤ num / den := by positivity
  have rounds := rounds_fraction positive num
  rw [nearest?_eq]
  constructor
  · intro found
    obtain ⟨finite, same⟩ := Option.ite_none_right_eq_some.1 found
    obtain rfl := Option.some.inj same
    have sign : (ofRank negative (nearestCode num den)).isNegative = negative := isNegative_ofRank (by omega)
    have rank : (ofRank negative (nearestCode num den)).rank = nearestCode num den := rank_ofRank (by omega)
    have nearest := nearest_of_rounds ((isFinite_iff _).2 (by rwa [rank])) nonneg (by rwa [rank])
    rw [sign] at nearest
    exact ⟨sign, nearest⟩
  · rintro ⟨rfl, nearest⟩
    have same := rounds.unique (rounds_of_nearest nonneg nearest)
    have finite := (isFinite_iff d).1 nearest.finite
    rw [same, if_pos finite]
    exact congrArg some (eq_of_rank (isNegative_ofRank (by omega)) (rank_ofRank (by omega)))

private theorem nearest?_eq_none_iff : nearest? negative num den = none ↔ overflow ≤ num / den := by
  have rounds := rounds_fraction positive num
  rw [nearest?_eq, ite_eq_right_iff, ← not_lt, ← mul_lt_mul_iff_left₀ unit_pos, ← rounds.lt_iff]
  simp

end

private theorem signed_natAbs (n : Int) : signed (decide (n < 0)) n.natAbs = n := by
  rw [Nat.cast_natAbs]
  by_cases negative : n < 0
  · rw [abs_of_neg negative, signed, if_pos (decide_eq_true negative), Int.cast_neg, neg_neg]
  · rw [abs_of_nonneg (not_lt.1 negative), signed, decide_eq_false negative, if_neg Bool.false_ne_true]

theorem ofInt?_eq_some_iff {n : Int} : ofInt? n = some d ↔ d.isNegative = decide (n < 0) ∧ d.Nearest n := by
  rw [ofInt?, nearest?_eq_some_iff Nat.one_pos, Nat.cast_one, div_one, signed_natAbs]

theorem ofInt?_eq_none_iff {n : Int} : ofInt? n = none ↔ overflow ≤ |(n : ℚ)| := by
  rw [ofInt?, nearest?_eq_none_iff Nat.one_pos, Nat.cast_one, div_one, ← signed_natAbs, abs_signed, Nat.abs_cast]

end Double

end Shading
