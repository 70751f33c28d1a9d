import Shading.Proofs.Names
import Shading.Proofs.Shortest

/-!
# Numbers in a source

A floating literal has digits with a point, with an exponent or with both (`FloatLiteral`), so that no integer is one, and
its text can be read in one way only (`FloatLiteral.text_inj`). What is written for a finite double is such a literal with
the sign of the double, and the number that it denotes rounds to that double alone (`literalText_denotes`).
-/

namespace Shading.Glsl

/-- One digit or more. -/
@[ext]
structure Digits where
  chars : List Char
  nonempty : chars ≠ []
  isDigit : ∀ c ∈ chars, c.isDigit = true

/-- The number that digits denote. -/
def numberOf (chars : List Char) : Nat :=
  Nat.ofDigitChars 10 chars 0

private theorem numberOf_append (first second : List Char) :
    numberOf (first ++ second) = numberOf first * 10 ^ second.length + numberOf second := by
  rw [numberOf, Nat.ofDigitChars_append, Nat.ofDigitChars_eq_ofDigitChars_zero, Nat.mul_comm]
  rfl

private theorem numberOf_zeros (count : Nat) : numberOf (List.replicate count '0') = 0 := by
  rw [numberOf, Nat.ofDigitChars_replicate_zero, Nat.mul_zero]

private theorem numberOf_toDigits (n : Nat) : numberOf (Nat.toDigits 10 n) = n :=
  Nat.ofDigitChars_ten_toDigits

private theorem isDigit_toDigits (n : Nat) : ∀ c ∈ Nat.toDigits 10 n, c.isDigit = true :=
  fun _ member => Nat.isDigit_of_mem_toDigits (by decide) (by decide) member

private theorem isDigit_zeros (count : Nat) : ∀ c ∈ List.replicate count '0', c.isDigit = true := by
  intro c member
  rw [List.eq_of_mem_replicate member]
  decide

/-- The digits that a number is written with. -/
def Digits.ofNat (n : Nat) : Digits :=
  ⟨Nat.toDigits 10 n, Nat.toDigits_ne_nil, isDigit_toDigits n⟩

def Digits.zero : Digits :=
  ⟨['0'], List.cons_ne_nil _ _, isDigit_zeros 1⟩

private theorem isDigit_append {first second : List Char} (left : ∀ c ∈ first, c.isDigit = true)
    (right : ∀ c ∈ second, c.isDigit = true) : ∀ c ∈ first ++ second, c.isDigit = true :=
  fun c member => (List.mem_append.1 member).elim (left c) (right c)

def Digits.afterZeros (count : Nat) (digits : Digits) : Digits :=
  ⟨List.replicate count '0' ++ digits.chars, List.append_ne_nil_of_right_ne_nil _ digits.nonempty,
    isDigit_append (isDigit_zeros count) digits.isDigit⟩

def Digits.beforeZeros (count : Nat) (digits : Digits) : Digits :=
  ⟨digits.chars ++ List.replicate count '0', List.append_ne_nil_of_left_ne_nil digits.nonempty _,
    isDigit_append digits.isDigit (isDigit_zeros count)⟩

private theorem numberOf_zero : numberOf Digits.zero.chars = 0 :=
  numberOf_zeros 1

private theorem numberOf_afterZeros (count : Nat) (digits : Digits) :
    numberOf (digits.afterZeros count).chars = numberOf digits.chars := by
  rw [Digits.afterZeros, numberOf_append, numberOf_zeros, Nat.zero_mul, Nat.zero_add]

private theorem numberOf_beforeZeros (count : Nat) (digits : Digits) :
    numberOf (digits.beforeZeros count).chars = numberOf digits.chars * 10 ^ count := by
  rw [Digits.beforeZeros, numberOf_append, numberOf_zeros, List.length_replicate, Nat.add_zero]

private theorem Digits.length_pos (digits : Digits) : 0 < digits.chars.length :=
  List.length_pos_iff.2 digits.nonempty

private theorem head?_toDigits {n : Nat} (zero : (Nat.toDigits 10 n).head? = some '0') : n = 0 := by
  induction n using Nat.strong_induction_on with
  | _ n ih =>
    by_cases single : n < 10
    · rw [Nat.toDigits_of_lt_base single] at zero
      rw [← numberOf_toDigits n, Nat.toDigits_of_lt_base single, Option.some.inj zero]
      exact numberOf_zeros 1
    · rw [Nat.toDigits_of_base_le (by decide) (by omega), List.head?_append_of_ne_nil _ Nat.toDigits_ne_nil] at zero
      have tenth := ih (n / 10) (by omega) zero
      omega

/-- No digit stands at the front. -/
def Undigited (chars : List Char) : Prop :=
  ∀ c ∈ chars.head?, c.isDigit = false

private theorem append_inj_of_undigited {first second rest other : List Char} (digits : ∀ c ∈ first, c.isDigit = true)
    (otherDigits : ∀ c ∈ second, c.isDigit = true) (ends : Undigited rest) (otherEnds : Undigited other)
    (same : first ++ rest = second ++ other) : first = second ∧ rest = other := by
  induction first generalizing second with
  | nil =>
    cases second with
    | nil => exact ⟨rfl, same⟩
    | cons c second =>
      rw [List.nil_append, List.cons_append] at same
      have undigited := ends c (by rw [same]; rfl)
      rw [otherDigits c List.mem_cons_self] at undigited
      cases undigited
  | cons c first ih =>
    cases second with
    | nil =>
      rw [List.nil_append, List.cons_append] at same
      have undigited := otherEnds c (by rw [← same]; rfl)
      rw [digits c List.mem_cons_self] at undigited
      cases undigited
    | cons other second =>
      rw [List.cons_append, List.cons_append] at same
      obtain ⟨rfl, rests⟩ := List.cons.inj same
      obtain ⟨rfl, rfl⟩ := ih (fun d member => digits d (List.mem_cons_of_mem _ member))
        (fun d member => otherDigits d (List.mem_cons_of_mem _ member)) rests
      exact ⟨rfl, rfl⟩

private theorem Digits.append_inj {first second : Digits} {rest other : List Char} (ends : Undigited rest)
    (otherEnds : Undigited other) (same : first.chars ++ rest = second.chars ++ other) :
    first = second ∧ rest = other := by
  obtain ⟨chars, rests⟩ := append_inj_of_undigited first.isDigit second.isDigit ends otherEnds same
  exact ⟨Digits.ext chars, rests⟩

/-- The exponent of a literal, always with its sign. -/
@[ext]
structure Power where
  negative : Bool
  digits : Digits

/-- A floating literal: digits with a point and digits behind it, which an exponent may follow, or digits with an exponent.
Without both it would be an integer. -/
inductive FloatLiteral where
  | pointed (whole places : Digits) (power : Option Power)
  | powered (whole : Digits) (power : Power)

namespace Power

def text (power : Power) : List Char :=
  'e' :: (if power.negative then '-' else '+') :: power.digits.chars

/-- The power of ten that an exponent multiplies by. -/
def factor (power : Power) : ℚ :=
  10 ^ (if power.negative then -(numberOf power.digits.chars : Int) else numberOf power.digits.chars)

private theorem sign_inj {negative other : Bool} (same : (if negative then '-' else '+') = if other then '-' else '+') :
    negative = other := by
  revert same
  cases negative <;> cases other <;> decide

theorem text_inj {first second : Power} (same : first.text = second.text) : first = second := by
  obtain ⟨sign, chars⟩ := List.cons.inj (List.cons.inj same).2
  exact Power.ext (sign_inj sign) (Digits.ext chars)

/-- The text of an exponent, where there is one. -/
def textOf (power : Option Power) : List Char :=
  (power.map text).getD []

private theorem undigited_textOf (power : Option Power) : Undigited (textOf power) := by
  cases power with
  | none => simp [Undigited, textOf]
  | some power => simp [Undigited, textOf, text]

private theorem textOf_inj {first second : Option Power} (same : textOf first = textOf second) : first = second := by
  cases first with
  | none =>
    cases second with
    | none => rfl
    | some second => cases same
  | some first =>
    cases second with
    | none => cases same
    | some second => exact congrArg some (text_inj same)

end Power

namespace FloatLiteral

/-- The characters of a literal. -/
def text : FloatLiteral → List Char
  | pointed whole places power => whole.chars ++ '.' :: (places.chars ++ Power.textOf power)
  | powered whole power => whole.chars ++ power.text

/-- The number that a literal denotes. -/
def value : FloatLiteral → ℚ
  | pointed whole places power =>
    (numberOf whole.chars + numberOf places.chars / 10 ^ places.chars.length) * (power.map Power.factor).getD 1
  | powered whole power => numberOf whole.chars * power.factor

/-- A text is read as one literal only. -/
theorem text_inj {first second : FloatLiteral} (same : first.text = second.text) : first = second := by
  have point : ∀ chars, Undigited ('.' :: chars) := by simp [Undigited]
  cases first with
  | pointed whole places power =>
    cases second with
    | pointed otherWhole otherPlaces otherPower =>
      obtain ⟨rfl, rest⟩ := Digits.append_inj (point _) (point _) same
      obtain ⟨rfl, powers⟩ := Digits.append_inj (Power.undigited_textOf power) (Power.undigited_textOf otherPower)
        (List.cons.inj rest).2
      rw [Power.textOf_inj powers]
    | powered otherWhole otherPower =>
      have rest := (Digits.append_inj (point _) (Power.undigited_textOf (some otherPower)) same).2
      exact absurd (List.cons.inj rest).1 (by decide)
  | powered whole power =>
    cases second with
    | pointed otherWhole otherPlaces otherPower =>
      have rest := (Digits.append_inj (Power.undigited_textOf (some power)) (point _) same).2
      exact absurd (List.cons.inj rest).1 (by decide)
    | powered otherWhole otherPower =>
      obtain ⟨rfl, rest⟩ := Digits.append_inj (Power.undigited_textOf (some power))
        (Power.undigited_textOf (some otherPower)) same
      rw [Power.text_inj rest]

private theorem value_nonneg (literal : FloatLiteral) : 0 ≤ literal.value := by
  cases literal with
  | pointed whole places power =>
    cases power with
    | none => simp only [value, Option.map_none, Option.getD_none]; positivity
    | some power => simp only [value, Option.map_some, Option.getD_some, Power.factor]; positivity
  | powered whole power =>
    simp only [value, Power.factor]
    positivity

private theorem value_pointed (whole places : Digits) (power : Option Power) : (pointed whole places power).value =
    numberOf (whole.chars ++ places.chars) / 10 ^ places.chars.length * (power.map Power.factor).getD 1 := by
  rw [value, numberOf_append]
  push_cast
  rw [add_div, mul_div_cancel_right₀ _ (by positivity)]

end FloatLiteral

private theorem zpow_ten_sub {exponent : Int} {count : Nat} (negative : exponent = -count) (number : ℚ) :
    number * 10 ^ exponent = number / 10 ^ count := by
  rw [negative, zpow_neg, zpow_natCast, div_eq_mul_inv]

private theorem positional_literal (digits : Digits) (point : Int) : ∃ literal : FloatLiteral,
    literal.text = Decimal.positional digits.chars point ∧
      literal.value = numberOf digits.chars * 10 ^ (point - digits.chars.length) := by
  unfold Decimal.positional
  split
  · refine ⟨.pointed Digits.zero (digits.afterZeros (-point).toNat) none, ?_, ?_⟩
    · simp [FloatLiteral.text, Power.textOf, Digits.zero, Digits.afterZeros]
    · have places : point - digits.chars.length = -((digits.afterZeros (-point).toNat).chars.length : Int) := by
        simp only [Digits.afterZeros, List.length_append, List.length_replicate]
        omega
      rw [FloatLiteral.value, numberOf_zero, numberOf_afterZeros, zpow_ten_sub places]
      simp
  · split
    · rename_i whole
      obtain ⟨count, zeros⟩ := Int.eq_ofNat_of_zero_le (Int.sub_nonneg_of_le whole)
      rw [zeros, Int.toNat_natCast]
      refine ⟨.pointed (digits.beforeZeros count) Digits.zero none, ?_, ?_⟩
      · simp [FloatLiteral.text, Power.textOf, Digits.zero, Digits.beforeZeros]
      · rw [FloatLiteral.value, numberOf_beforeZeros, numberOf_zero, zpow_natCast]
        simp
    · -- The point divides the digits themselves.
      have before : digits.chars.take point.toNat ≠ [] := by
        have positive := digits.length_pos
        rw [Ne, List.take_eq_nil_iff, ← List.length_eq_zero_iff]
        omega
      have behind : digits.chars.drop point.toNat ≠ [] := by
        rw [Ne, List.drop_eq_nil_iff]
        omega
      have places : point - digits.chars.length = -((digits.chars.drop point.toNat).length : Int) := by
        rw [List.length_drop]
        omega
      refine ⟨.pointed ⟨_, before, fun c member => digits.isDigit c (List.mem_of_mem_take member)⟩
        ⟨_, behind, fun c member => digits.isDigit c (List.mem_of_mem_drop member)⟩ none, ?_, ?_⟩
      · simp [FloatLiteral.text, Power.textOf]
      · rw [FloatLiteral.value_pointed, List.take_append_drop, zpow_ten_sub places]
        simp

/-- The exponent that is written for an integer, with two digits or more. -/
def Power.ofInt (exponent : Int) : Power where
  negative := decide (exponent < 0)
  digits :=
    if (Nat.toDigits 10 exponent.natAbs).length < 2 then (Digits.ofNat exponent.natAbs).afterZeros 1
    else Digits.ofNat exponent.natAbs

private theorem Power.factor_ofInt (exponent : Int) : (ofInt exponent).factor = 10 ^ exponent := by
  have sign : (ofInt exponent).negative = decide (exponent < 0) := rfl
  have number : numberOf (ofInt exponent).digits.chars = exponent.natAbs := by
    rw [ofInt]
    split
    · exact (numberOf_afterZeros 1 _).trans (numberOf_toDigits _)
    · exact numberOf_toDigits _
  have power : (if decide (exponent < 0) then -(exponent.natAbs : Int) else exponent.natAbs) = exponent := by
    split <;> rename_i negative <;> simp only [decide_eq_true_eq] at negative <;> omega
  rw [factor, number, sign, power]

private theorem Power.text_ofInt (exponent : Int) : (ofInt exponent).text = 'e' :: (if exponent < 0 then '-' else '+')
    ::
    (if (Nat.toDigits 10 exponent.natAbs).length < 2 then '0' :: Nat.toDigits 10 exponent.natAbs
      else Nat.toDigits 10 exponent.natAbs) := by
  simp only [text, ofInt, decide_eq_true_eq]
  congr 2
  split <;> rfl

private theorem scientific_single (digit : Char) (exponent : Int) :
    Decimal.scientific [digit] exponent = [digit] ++ (Power.ofInt exponent).text := by
  rw [Power.text_ofInt]
  rfl

private theorem scientific_cons (first second : Char) (rest : List Char) (exponent : Int) :
    Decimal.scientific (first :: second :: rest) exponent =
      [first] ++ '.' :: (second :: rest ++ (Power.ofInt exponent).text) := by
  rw [Power.text_ofInt]
  rfl

private theorem scientific_literal (digits : Digits) (exponent : Int) : ∃ literal : FloatLiteral,
    literal.text = Decimal.scientific digits.chars exponent ∧
      literal.value = numberOf digits.chars * 10 ^ (exponent + 1 - digits.chars.length) := by
  obtain ⟨chars, nonempty, isDigit⟩ := digits
  cases chars with
  | nil => exact absurd rfl nonempty
  | cons first rest =>
    cases rest with
    | nil =>
      refine ⟨.powered ⟨[first], nonempty, isDigit⟩ (Power.ofInt exponent), (scientific_single first exponent).symm, ?_⟩
      rw [FloatLiteral.value, Power.factor_ofInt]
      simp
    | cons second rest =>
      have head : ∀ c ∈ [first], c.isDigit = true := by
        intro c member
        rw [List.mem_singleton.1 member]
        exact isDigit first List.mem_cons_self
      have tail : ∀ c ∈ second :: rest, c.isDigit = true :=
        fun c member => isDigit c (List.mem_cons_of_mem _ member)
      have places : exponent + 1 - (first :: second :: rest).length = exponent + -((second :: rest).length : Int) := by
        simp only [List.length_cons]
        omega
      refine ⟨.pointed ⟨[first], List.cons_ne_nil _ _, head⟩ ⟨second :: rest, List.cons_ne_nil _ _, tail⟩
        (some (Power.ofInt exponent)), (scientific_cons first second rest exponent).symm, ?_⟩
      rw [FloatLiteral.value_pointed, Option.map_some, Option.getD_some, Power.factor_ofInt, places,
        zpow_add₀ (by norm_num), mul_comm ((10 : ℚ) ^ exponent), ← mul_assoc, zpow_ten_sub rfl]
      rfl

private theorem trimmed_append_zeros (decimal : Decimal) : ∃ count,
    decimal.trimmed ++ List.replicate count '0' = Nat.toDigits 10 decimal.digits := by
  obtain ⟨zeros, zerosEq⟩ : ∃ zeros, (Nat.toDigits 10 decimal.digits).reverse.takeWhile (· = '0') = zeros := ⟨_, rfl⟩
  have same : zeros = List.replicate zeros.length '0' := by
    rw [List.eq_replicate_iff]
    refine ⟨rfl, fun c member => ?_⟩
    rw [← zerosEq] at member
    simpa using List.mem_takeWhile_imp member
  refine ⟨zeros.length, ?_⟩
  rw [← List.reverse_replicate, ← same, ← zerosEq, Decimal.trimmed, ← List.reverse_append,
    List.takeWhile_append_dropWhile, List.reverse_reverse]

private theorem layout_literal {decimal : Decimal} (positive : 0 < decimal.digits) : ∃ literal : FloatLiteral,
    literal.text = decimal.layout ∧ literal.value = decimal.value := by
  obtain ⟨count, all⟩ := trimmed_append_zeros decimal
  have number : numberOf decimal.trimmed * 10 ^ count = decimal.digits := by
    rw [← numberOf_toDigits decimal.digits, ← all, numberOf_append, numberOf_zeros, List.length_replicate, Nat.add_zero]
  have length : decimalLength decimal.digits = decimal.trimmed.length + count := by
    rw [decimalLength, ← all, List.length_append, List.length_replicate]
  have nonempty : decimal.trimmed ≠ [] := by
    intro none
    rw [none] at number
    have zero : decimal.digits = 0 := by rw [← number]; exact Nat.zero_mul _
    omega
  have value : decimal.value = numberOf decimal.trimmed *
      10 ^ ((decimalLength decimal.digits + decimal.exponent : Int) - decimal.trimmed.length) := by
    have place : (decimalLength decimal.digits + decimal.exponent : Int) - decimal.trimmed.length =
        (count : Int) + decimal.exponent := by
      omega
    rw [Decimal.value, place, ← number, zpow_add₀ (by norm_num), zpow_natCast]
    push_cast
    ring
  rw [Decimal.layout, value]
  split
  · exact positional_literal ⟨decimal.trimmed, nonempty, fun c => isDigit_trimmed⟩ _
  · have found := scientific_literal ⟨decimal.trimmed, nonempty, fun c => isDigit_trimmed⟩
      (decimalLength decimal.digits + decimal.exponent - 1)
    rwa [Int.sub_add_cancel] at found

/-- Characters behind the sign that they need. -/
def written (negative : Bool) (chars : List Char) : String :=
  (if negative then "-" else "") ++ String.ofList chars

theorem FloatLiteral.head_text (literal : FloatLiteral) : ∃ c rest, literal.text = c :: rest ∧ c.isDigit = true := by
  have starts : ∀ (digits : Digits) (behind : List Char),
      ∃ c rest, digits.chars ++ behind = c :: rest ∧ c.isDigit = true := by
    intro digits behind
    obtain ⟨c, rest, same⟩ := List.exists_cons_of_ne_nil digits.nonempty
    exact ⟨c, rest ++ behind, by rw [same, List.cons_append], digits.isDigit c (same ▸ List.mem_cons_self)⟩
  cases literal with
  | pointed whole => exact starts whole _
  | powered whole => exact starts whole _

private theorem toList_written (negative : Bool) (chars : List Char) :
    (written negative chars).toList = (if negative then ['-'] else []) ++ chars := by
  rw [written, String.toList_append, String.toList_ofList]
  cases negative <;> rfl

private theorem ne_cons_minus (first second : FloatLiteral) : first.text ≠ '-' :: second.text := by
  obtain ⟨c, rest, same, digit⟩ := first.head_text
  rw [same]
  rintro ⟨⟩
  exact absurd digit (by decide)

private theorem written_inj {first second : FloatLiteral} {negative other : Bool}
    (same : written negative first.text = written other second.text) : negative = other ∧ first = second := by
  have chars := congrArg String.toList same
  rw [toList_written, toList_written] at chars
  cases negative with
  | false =>
    cases other with
    | false => exact ⟨rfl, FloatLiteral.text_inj chars⟩
    | true => exact absurd chars (ne_cons_minus first second)
  | true =>
    cases other with
    | false => exact absurd chars.symm (ne_cons_minus second first)
    | true => exact ⟨rfl, FloatLiteral.text_inj (List.cons.inj chars).2⟩

section

variable {d : Double}

private theorem text_of_zero (finite : d.isFinite = true) (zero : d.units = 0) :
    d.text = written d.isNegative ['0', '.', '0'] := by
  unfold Double.text
  simp only [isNaN_eq_false finite, finite, zero, Bool.false_eq_true, if_false, Bool.not_true, if_true]
  rfl

private theorem text_of_nonzero (finite : d.isFinite = true) (nonzero : d.units ≠ 0) :
    d.text = written d.isNegative d.shortest.layout := by
  unfold Double.text
  simp only [isNaN_eq_false finite, finite, nonzero, Bool.false_eq_true, if_false, Bool.not_true]
  rfl

private theorem text_literal (finite : d.isFinite = true) : ∃ literal : FloatLiteral,
    d.text = written d.isNegative literal.text ∧ Double.Rounds (literal.value * Double.unit) d.rank := by
  by_cases zero : d.units = 0
  · refine ⟨.pointed Digits.zero Digits.zero none, text_of_zero finite zero, ?_⟩
    have rank : d.rank = 0 := by
      have positive := Double.units_pos_iff d
      omega
    have value : (FloatLiteral.pointed Digits.zero Digits.zero none).value = 0 := by
      simp [FloatLiteral.value, numberOf_zero]
    rw [rank, value, zero_mul]
    exact Double.rounds_zero
  · have positive : 0 < d.rank := (Double.units_pos_iff d).1 (Nat.pos_of_ne_zero zero)
    obtain ⟨literal, text, value⟩ := layout_literal (Double.shortest_digits_pos positive)
    refine ⟨literal, ?_, ?_⟩
    · rw [text_of_nonzero finite zero, text]
    · rw [value]
      exact Double.shortest_rounds positive

private theorem literalText_finite (finite : d.isFinite = true) : literalText (.constant (.double d))
    .float = .ok d.text :=
  if_pos finite

private theorem literalText_infinite (infinite : d.isFinite = false) :
    literalText (.constant (.double d)) .float = .error (.violation (.noSpelling (.double d))) :=
  if_neg (by rw [infinite]; exact Bool.false_ne_true)

end

private theorem intRepr_eq (n : Int) : Int.repr n = written (decide (n < 0)) (Nat.toDigits 10 n.natAbs) := by
  rw [written, ← Nat.repr_eq_ofList_toDigits]
  cases n with
  | ofNat n =>
    rw [decide_eq_false (by simp), if_neg Bool.false_ne_true, String.empty_append]
    rfl
  | negSucc n =>
    rw [decide_eq_true (Int.negSucc_lt_zero n), if_pos rfl]
    rfl

private theorem literalText_int (n : Int) : literalText (.constant (.int n)) .int = numeral n := rfl

/-- Every finite double is written as a floating literal behind its sign, and the number this denotes rounds to that double
and to no other one of the same sign. So doubles that are written alike are the same. Infinities and what is not a number
cannot be written. An integer of few enough digits is written as its decimal digits behind its sign, without zeros in
front; for all others this fails. -/
theorem literalText_denotes :
    (∀ d : Double, d.isFinite = true → ∃ literal : FloatLiteral,
      literalText (.constant (.double d)) .float = .ok (written d.isNegative literal.text) ∧
      d.Nearest (Double.signed d.isNegative literal.value) ∧
      ∀ other : Double, other.isNegative = d.isNegative →
        other.Nearest (Double.signed d.isNegative literal.value) → other = d) ∧
    (∀ d other : Double, d.isFinite = true → other.isFinite = true →
      literalText (.constant (.double d)) .float = literalText (.constant (.double other)) .float → d = other) ∧
    (∀ d : Double, d.isFinite = false →
      literalText (.constant (.double d)) .float = .error (.violation (.noSpelling (.double d)))) ∧
    (∀ n : Int, n.natAbs < 10 ^ Text.digitLimit → ∃ digits : Digits,
      literalText (.constant (.int n)) .int = .ok (written (decide (n < 0)) digits.chars) ∧
      numberOf digits.chars = n.natAbs ∧ (digits.chars.head? = some '0' → n = 0)) ∧
    ∀ n : Int, 10 ^ Text.digitLimit ≤ n.natAbs →
      literalText (.constant (.int n)) .int = .error (.unshown .longNumeral) := by
  refine ⟨?_, ?_, fun d => literalText_infinite, ?_, ?_⟩
  · intro d finite
    obtain ⟨literal, text, rounds⟩ := text_literal finite
    have nearest := Double.nearest_of_rounds finite literal.value_nonneg rounds
    refine ⟨literal, ?_, nearest, ?_⟩
    · rw [literalText_finite finite, text]
    · intro other sign otherNearest
      exact Double.Nearest.unique literal.value_nonneg sign rfl otherNearest nearest
  · intro d other finite otherFinite same
    obtain ⟨literal, text, rounds⟩ := text_literal finite
    obtain ⟨otherLiteral, otherText, otherRounds⟩ := text_literal otherFinite
    rw [literalText_finite finite, literalText_finite otherFinite, text, otherText] at same
    obtain ⟨sign, rfl⟩ := written_inj (Except.ok.inj same)
    exact Double.eq_of_rank sign (rounds.unique otherRounds)
  · intro n small
    refine ⟨Digits.ofNat n.natAbs, ?_, numberOf_toDigits n.natAbs, ?_⟩
    · rw [literalText_int, numeral_of_writable (isWritable_iff.2 small), Digits.ofNat, ← intRepr_eq]
    · intro zero
      exact Int.natAbs_eq_zero.1 (head?_toDigits zero)
  · intro n large
    rw [literalText_int, numeral_of_unwritable (fun writable => absurd (isWritable_iff.1 writable) (Nat.not_lt.2 large))]

/-- The least power of ten that is not written. -/
theorem longest_integer_unwritten :
    ¬ ∀ n : Int, ∃ digits : Digits, literalText (.constant (.int n)) .int = .ok (written (decide (n < 0)) digits.chars) := by
  intro all
  obtain ⟨digits, text⟩ := all ((10 ^ Text.digitLimit : Nat) : Int)
  rw [literalText_int, numeral_eq_ok, isWritable_iff, Int.natAbs_natCast] at text
  exact absurd text.1 (Nat.lt_irrefl _)

end Shading.Glsl
