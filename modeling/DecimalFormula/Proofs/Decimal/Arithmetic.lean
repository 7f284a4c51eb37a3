import Mathlib
import DecimalFormula.Proofs.Decimal.Rounding

/-!
# Arithmetic that rounds once

An operation on finite numbers has the value of the exact result, rounded once to the
context, and fails just if that is too large. Two of the operations do not compute the
exact result: a sum may have a stand-in for a summand that is too small to matter, and a
quotient may have a last digit that stands for all that were cut off. Both are between
the same halves of a place as the exact result.
-/

set_option autoImplicit false

namespace DecimalFormula.Decimal

namespace Context

/-- The result of an operation whose exact value is given: a number of the rounded value,
or a failure if that is too large. -/
inductive Yields (context : Context) (exact : ℚ) : Except Condition Decimal → Prop where
  | number {result : Finite} : context.kept? exact = some result.value → Yields context exact (.ok (.finite result))
  | overflow : context.kept? exact = none → Yields context exact (.error .overflow)

variable (context : Context)

theorem kept?_congr {number other : ℚ} (same : context.rounded number = context.rounded other) :
    context.kept? number = context.kept? other := by
  rw [kept?, same, kept?]

theorem yields_fit {computed : Finite} {exact : ℚ} (same : context.rounded computed.value = context.rounded exact) :
    context.Yields exact (context.fit computed) := by
  have kept := (context.round?_kept computed).trans (context.kept?_congr same)
  rw [fit]
  cases rounded : context.round? computed with
  | none =>
      rw [rounded] at kept
      exact .overflow kept.symm
  | some result =>
      rw [rounded] at kept
      exact .number kept.symm

/-!
## Sums
-/

theorem between_of_pos {unit small : ℚ} (multiple : ℤ) (positive : 0 < small) (less : small < unit) :
    Between unit multiple (multiple * unit + small) := by
  constructor <;> linarith

theorem between_of_neg {unit small : ℚ} (multiple : ℤ) (negative : small < 0) (less : -unit < small) :
    Between unit (multiple - 1) (multiple * unit + small) := by
  constructor <;> push_cast <;> linarith

theorem exists_between_signed {unit small other : ℚ} (multiple : ℤ) (negative : Bool) (positive : 0 < small)
    (less : small < unit) (otherPositive : 0 < other) (otherLess : other < unit) :
    ∃ step, Between unit step (multiple * unit + Finite.signFactor negative * small) ∧
      Between unit step (multiple * unit + Finite.signFactor negative * other) := by
  cases negative
  · refine ⟨multiple, ?_⟩
    simp only [Finite.signFactor, Bool.false_eq_true, ↓reduceIte, one_mul]
    exact ⟨between_of_pos multiple positive less, between_of_pos multiple otherPositive otherLess⟩
  · refine ⟨multiple - 1, ?_⟩
    simp only [Finite.signFactor, ↓reduceIte, neg_one_mul]
    exact ⟨between_of_neg multiple (by linarith) (by linarith), between_of_neg multiple (by linarith) (by linarith)⟩

/-- A summand far below the leading digit of the other moves that digit by one place at
most. -/
theorem adjusted_le_log_sum {larger : Finite} (nonzero : larger.coefficient ≠ 0) {small : ℚ} {place : ℤ}
    (less : |small| ≤ 10 ^ place) (below : place < larger.adjusted) :
    larger.adjusted - 1 ≤ Int.log 10 |larger.value + small| := by
  have leading := (Finite.abs_value_bounds nonzero).1
  have tenfold : (10 : ℚ) ^ larger.adjusted = 10 * 10 ^ (larger.adjusted - 1) := by
    rw [← zpow_one_add₀ (by norm_num)]
    congr 1
    omega
  have smaller : (10 : ℚ) ^ place ≤ 10 ^ (larger.adjusted - 1) := zpow_le_zpow_right₀ (by norm_num) (by omega)
  have left : (10 : ℚ) ^ (larger.adjusted - 1) ≤ |larger.value + small| := by
    have triangle := abs_sub_abs_le_abs_sub larger.value (-small)
    rw [abs_neg, sub_neg_eq_add] at triangle
    have positive := ten_zpow_pos (larger.adjusted - 1)
    linarith
  exact (Int.zpow_le_iff_le_log (b := 10) (by norm_num) ((ten_zpow_pos _).trans_le left)).mp (by exact_mod_cast left)

theorem exists_value_eq_halves {number : Finite} {place : ℤ} (finer : place ≤ number.exponent) :
    ∃ multiple : ℤ, number.value = multiple * (10 ^ place / 2) := by
  refine ⟨number.signedCoefficient * (2 * 10 ^ (number.exponent - place).toNat : Nat), ?_⟩
  rw [Finite.value, Between.ten_zpow_eq_halves finer]
  push_cast
  ring

/-- Of two summands far below the leading digit of the third, only the sign matters. -/
theorem rounded_add_far {larger smaller other : Finite} (nonzero : larger.coefficient ≠ 0)
    (sameSign : smaller.negative = other.negative) {place : ℤ} (finer : place < larger.exponent)
    (far : place + context.precision < larger.adjusted) (positive : 0 < |smaller.value|)
    (less : |smaller.value| ≤ 10 ^ place) (otherPositive : 0 < |other.value|) (otherLess : |other.value| ≤ 10 ^ place) :
    context.rounded (larger.value + smaller.value) = context.rounded (larger.value + other.value) := by
  have some_digit := context.precision_pos
  have unit : (10 : ℚ) ^ (place + 1) / 2 = 5 * 10 ^ place := by
    rw [zpow_add_one₀ (by norm_num)]
    ring
  have unitLess : (10 : ℚ) ^ place < 10 ^ (place + 1) / 2 := by linarith [ten_zpow_pos place]
  obtain ⟨multiple, halves⟩ := exists_value_eq_halves (show place + 1 ≤ larger.exponent by omega)
  obtain ⟨step, between, otherBetween⟩ := exists_between_signed multiple smaller.negative positive
    (less.trans_lt unitLess) otherPositive (otherLess.trans_lt unitLess)
  rw [← halves, ← Finite.value_eq_signed] at between
  rw [← halves, sameSign, ← Finite.value_eq_signed] at otherBetween
  have least := adjusted_le_log_sum nonzero less (by omega)
  exact between.rounded_eq otherBetween context (by omega)

/-- What stands in for a number far below another keeps the rounded sum: both lie below
half a unit of the last digit kept. -/
theorem rounded_standIn (larger smaller : Finite) :
    context.rounded (larger.value + (context.standIn larger smaller).value) =
      context.rounded (larger.value + smaller.value) := by
  rw [standIn]
  split
  · next far =>
      obtain ⟨nonzero, far⟩ := far
      generalize placed : larger.exponent - 1 + min 0 ((digitCount larger.coefficient : ℤ) - context.precision - 1) =
        place at far ⊢
      by_cases zero : smaller.coefficient = 0
      · have vanishes : Finite.value ⟨smaller.negative, 0, place⟩ = 0 := (Finite.value_eq_zero_iff _).mpr rfl
        rw [(Finite.value_eq_zero_iff smaller).mpr zero, zero, Nat.zero_min, vanishes]
      · have one : min smaller.coefficient 1 = 1 := by omega
        have unit : |Finite.value ⟨smaller.negative, 1, place⟩| = 10 ^ place := by
          rw [Finite.abs_value, Nat.cast_one, one_mul]
        obtain ⟨lower, upper⟩ := Finite.abs_value_bounds zero
        rw [one]
        refine context.rounded_add_far nonzero rfl ?_ ?_ ?_ unit.le ((ten_zpow_pos _).trans_le lower)
          (upper.le.trans (zpow_le_zpow_right₀ (by norm_num) far))
        · omega
        · rw [Finite.adjusted]
          omega
        · rw [unit]
          exact ten_zpow_pos place
  · rfl

theorem rounded_roundableSum (left right : Finite) :
    context.rounded (context.roundableSum left right).value = context.rounded (left.value + right.value) := by
  rw [roundableSum]
  split
  · rw [Finite.value_sum, rounded_standIn]
  · rw [Finite.value_sum, add_comm, rounded_standIn, add_comm]

/-!
## Quotients
-/

/-- The scaled dividend of a quotient leaves more digits than are kept. -/
theorem ten_pow_le_scaled_quotient {dividend divisor : Nat} (dividend_ne : dividend ≠ 0) (divisor_ne : divisor ≠ 0)
    (precision : Nat) :
    10 ^ precision ≤
      dividend * powerOfTen (digitCount divisor + precision + 1 - digitCount dividend) / divisor := by
  have some_digit := digitCount_pos dividend
  rw [Nat.le_div_iff_mul_le (Nat.pos_of_ne_zero divisor_ne), powerOfTen_eq]
  calc 10 ^ precision * divisor
      ≤ 10 ^ precision * 10 ^ digitCount divisor := Nat.mul_le_mul_left _ (lt_ten_pow_digitCount divisor).le
    _ = 10 ^ (precision + digitCount divisor) := (pow_add 10 _ _).symm
    _ ≤ 10 ^ ((digitCount dividend - 1) + (digitCount divisor + precision + 1 - digitCount dividend)) :=
        Nat.pow_le_pow_right (by decide) (by omega)
    _ = 10 ^ (digitCount dividend - 1) * 10 ^ (digitCount divisor + precision + 1 - digitCount dividend) :=
        pow_add 10 _ _
    _ ≤ dividend * 10 ^ (digitCount divisor + precision + 1 - digitCount dividend) :=
        Nat.mul_le_mul_right _ (ten_pow_le_of_ne_zero dividend_ne)

/-- A digit one after a quotient that does not end rounds as the digits that were cut
off. -/
theorem rounded_sticky {whole : Nat} {place : ℤ} {exact : ℚ} (long : 10 ^ context.precision ≤ whole)
    (lower : whole * 10 ^ place < exact) (upper : exact < (whole + 1) * 10 ^ place) :
    context.rounded ((10 * whole + 1 : Nat) * 10 ^ (place - 1)) = context.rounded exact := by
  have placePos := ten_zpow_pos place
  have sticky : ((10 * whole + 1 : Nat) : ℚ) * 10 ^ (place - 1) = whole * 10 ^ place + 10 ^ place / 10 := by
    rw [zpow_sub_one₀ (by norm_num)]
    push_cast
    ring
  have unit : (10 : ℚ) ^ (place + 1) / 2 = (5 : Nat) * 10 ^ place := by
    rw [zpow_add_one₀ (by norm_num)]
    push_cast
    ring
  have between : Between (10 ^ place) whole exact := ⟨by exact_mod_cast lower, by exact_mod_cast upper⟩
  have stickyBetween : Between (10 ^ place) whole ((10 * whole + 1 : Nat) * 10 ^ (place - 1)) := by
    rw [sticky]
    exact between_of_pos whole (by linarith) (by linarith)
  have five : 0 < 5 := by decide
  have coarse := between.coarsen placePos five
  have stickyCoarse := stickyBetween.coarsen placePos five
  rw [← unit] at coarse stickyCoarse
  have leading : (10 : ℚ) ^ (place + context.precision) ≤ |((10 * whole + 1 : Nat) : ℚ) * 10 ^ (place - 1)| := by
    rw [sticky, abs_of_nonneg (by positivity), zpow_add₀ (by norm_num), zpow_natCast, mul_comm]
    have digits : (10 : ℚ) ^ context.precision ≤ whole := by exact_mod_cast long
    have := mul_le_mul_of_nonneg_right digits placePos.le
    linarith
  have reached := (Int.zpow_le_iff_le_log (b := 10) (by norm_num) ((ten_zpow_pos _).trans_le leading)).mp
    (by exact_mod_cast leading)
  exact stickyCoarse.rounded_eq coarse context (by omega)

theorem quotient_bounds {dividend divisor : Nat} (divisor_ne : divisor ≠ 0) (remainder : dividend % divisor ≠ 0) :
    ((dividend / divisor : Nat) : ℚ) < dividend / divisor ∧
      (dividend : ℚ) / divisor < (dividend / divisor : Nat) + 1 := by
  have positive : 0 < divisor := Nat.pos_of_ne_zero divisor_ne
  have castPositive : (0 : ℚ) < divisor := by exact_mod_cast positive
  have split := Nat.div_add_mod' dividend divisor
  constructor
  · rw [lt_div_iff₀ castPositive]
    exact_mod_cast (show dividend / divisor * divisor < dividend by omega)
  · rw [div_lt_iff₀ castPositive]
    have next : dividend < (dividend / divisor + 1) * divisor := by
      have := Nat.mod_lt dividend positive
      rw [Nat.succ_mul]
      omega
    exact_mod_cast next

theorem scaled_quotient (dividend divisor : Finite) (places : Nat) :
    |dividend.value| / |divisor.value| = (dividend.coefficient * powerOfTen places : Nat) / divisor.coefficient *
      10 ^ (dividend.exponent - divisor.exponent - places) := by
  rw [Finite.abs_value, Finite.abs_value, powerOfTen_eq, zpow_sub₀ (by norm_num), zpow_sub₀ (by norm_num), zpow_natCast]
  push_cast
  field_simp

theorem rounded_quotient (dividend : Finite) {divisor : Finite} (nonzero : divisor.coefficient ≠ 0) :
    context.rounded (dividend.quotient context.precision divisor).value =
      context.rounded (dividend.value / divisor.value) := by
  rw [Finite.quotient]
  simp only
  split
  · next zero =>
      rw [(Finite.value_eq_zero_iff dividend).mpr zero, zero_div, (Finite.value_eq_zero_iff _).mpr rfl]
  · next dividend_ne =>
      have long := ten_pow_le_scaled_quotient dividend_ne nonzero context.precision
      generalize digitCount divisor.coefficient + context.precision + 1 - digitCount dividend.coefficient = places
        at long ⊢
      rw [Finite.value_div, scaled_quotient dividend divisor places]
      generalize dividend.coefficient * powerOfTen places = scaled at long ⊢
      split
      · next ends =>
          have exact : (scaled : ℚ) / divisor.coefficient = (scaled / divisor.coefficient : Nat) :=
            (Nat.cast_div (Nat.dvd_of_mod_eq_zero ends) (by exact_mod_cast nonzero)).symm
          rw [Finite.value_withoutZeros, Finite.value_eq, exact]
      · next remainder =>
          obtain ⟨lower, upper⟩ := quotient_bounds nonzero remainder
          have placePos := ten_zpow_pos (dividend.exponent - divisor.exponent - places)
          rw [Finite.value_eq, rounded_signed, rounded_signed]
          congr 1
          exact context.rounded_sticky long (mul_lt_mul_of_pos_right lower placePos)
            (mul_lt_mul_of_pos_right upper placePos)

/-!
## Operations
-/

variable (left right : Finite)

theorem yields_add : context.Yields (left.value + right.value) (add context (.finite left) (.finite right)) :=
  context.yields_fit (context.rounded_roundableSum left right)

theorem yields_subtract :
    context.Yields (left.value - right.value) (subtract context (.finite left) (.finite right)) := by
  rw [sub_eq_add_neg, ← Finite.value_opposite]
  exact context.yields_add left right.opposite

theorem yields_multiply :
    context.Yields (left.value * right.value) (multiply context (.finite left) (.finite right)) :=
  context.yields_fit (congrArg context.rounded (Finite.value_product left right))

theorem yields_divide (nonzero : right.value ≠ 0) :
    context.Yields (left.value / right.value) (divide context (.finite left) (.finite right)) := by
  have divisor_ne := (Finite.value_eq_zero_iff right).not.mp nonzero
  rw [divide, (Finite.isZero_eq_false_iff right).mpr nonzero]
  exact context.yields_fit (context.rounded_quotient left divisor_ne)

theorem yields_negate (number : Finite) : context.Yields (-number.value) (negate context (.finite number)) := by
  apply context.yields_fit
  split
  · next zero =>
      have vanishes : Finite.value { number with negative := false } = 0 :=
        (Finite.isZero_iff { number with negative := false }).mp zero
      rw [vanishes, (Finite.isZero_iff number).mp zero, neg_zero]
  · rw [Finite.value_opposite]

end Context

end DecimalFormula.Decimal
