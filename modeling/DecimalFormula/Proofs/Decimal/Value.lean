import Mathlib
import DecimalFormula.Decimal.Arithmetic

/-!
# Exact values of decimal numbers

A finite number is a rational number. Its sign, its coefficient and its exponent are
found again in the value: the exponent of the leading digit is the integer part of the
logarithm. The exact operations on numbers have the values of the operations on
rational numbers.
-/

set_option autoImplicit false

namespace DecimalFormula.Decimal

theorem powerOfTen_eq (exponent : Nat) : powerOfTen exponent = 10 ^ exponent :=
  rfl

theorem ten_zpow_pos (exponent : Int) : (0 : ℚ) < 10 ^ exponent :=
  zpow_pos (by norm_num) exponent

theorem ten_zpow_eq_mul {lower upper : Int} (ordered : lower ≤ upper) :
    (10 : ℚ) ^ upper = (10 ^ (upper - lower).toNat : Nat) * 10 ^ lower := by
  rw [Nat.cast_pow, Nat.cast_ofNat, ← zpow_natCast, Int.toNat_of_nonneg (by omega), ← zpow_add₀ (by norm_num)]
  congr 1
  omega

theorem lt_ten_pow_digitCount (number : Nat) : number < 10 ^ digitCount number :=
  (digitCount_le_iff (digitCount_pos number)).mp le_rfl

theorem ten_pow_le_of_ne_zero {number : Nat} (nonzero : number ≠ 0) : 10 ^ (digitCount number - 1) ≤ number := by
  by_contra! small
  rcases Nat.eq_zero_or_pos (digitCount number - 1) with one | more
  · rw [one, pow_zero] at small
    omega
  · have fewer := (digitCount_le_iff more).mpr small
    omega

namespace Finite

/-- The rational number that a finite number is. -/
def value (number : Finite) : ℚ :=
  number.signedCoefficient * 10 ^ number.exponent

/-- The factor that a sign stands for. -/
def signFactor (negative : Bool) : ℚ :=
  if negative then -1 else 1

theorem signFactor_bne (left right : Bool) : signFactor (left != right) = signFactor left * signFactor right := by
  cases left <;> cases right <;> norm_num [signFactor]

theorem abs_signFactor (negative : Bool) : |signFactor negative| = 1 := by
  cases negative <;> norm_num [signFactor]

theorem value_eq (number : Finite) :
    number.value = signFactor number.negative * (number.coefficient * 10 ^ number.exponent) := by
  obtain ⟨_ | _, coefficient, exponent⟩ := number <;> simp [value, signedCoefficient, signFactor]

theorem abs_value (number : Finite) : |number.value| = number.coefficient * 10 ^ number.exponent := by
  rw [value_eq, abs_mul, abs_signFactor, one_mul]
  exact abs_of_nonneg (mul_nonneg (Nat.cast_nonneg _) (ten_zpow_pos _).le)

theorem value_eq_signed (number : Finite) : number.value = signFactor number.negative * |number.value| := by
  rw [abs_value, value_eq]

theorem value_eq_zero_iff (number : Finite) : number.value = 0 ↔ number.coefficient = 0 := by
  rw [← abs_eq_zero, abs_value, mul_eq_zero, Nat.cast_eq_zero]
  exact or_iff_left (ten_zpow_pos _).ne'

theorem isZero_iff (number : Finite) : number.isZero = true ↔ number.value = 0 := by
  rw [value_eq_zero_iff, isZero, beq_iff_eq]

theorem isZero_eq_false_iff (number : Finite) : number.isZero = false ↔ number.value ≠ 0 := by
  rw [← Bool.not_eq_true, isZero_iff]

theorem value_ofInt (number : Int) : (ofInt number).value = number := by
  rw [value, signedCoefficient, ofInt, zpow_zero, mul_one]
  by_cases negative : number < 0
  · simp only [decide_eq_true negative, ↓reduceIte]
    exact congrArg Int.cast (by omega)
  · simp only [decide_eq_false negative, Bool.false_eq_true, ↓reduceIte]
    exact congrArg Int.cast (by omega)

theorem value_opposite (number : Finite) : number.opposite.value = -number.value := by
  obtain ⟨_ | _, coefficient, exponent⟩ := number <;> simp [value, signedCoefficient, opposite]

theorem value_product (left right : Finite) : (left.product right).value = left.value * right.value := by
  simp only [value_eq, product, signFactor_bne, Nat.cast_mul, zpow_add₀ (show (10 : ℚ) ≠ 0 by norm_num)]
  ring

theorem value_div (left right : Finite) :
    left.value / right.value = signFactor (left.negative != right.negative) * (|left.value| / |right.value|) := by
  have self : signFactor left.negative / signFactor right.negative =
      signFactor left.negative * signFactor right.negative := by
    cases left.negative <;> cases right.negative <;> norm_num [signFactor]
  rw [signFactor_bne, ← self, div_mul_div_comm, ← value_eq_signed, ← value_eq_signed]

theorem value_eq_unitsAt {exponent : Int} {number : Finite} (finer : exponent ≤ number.exponent) :
    number.value = number.unitsAt exponent * 10 ^ exponent := by
  rw [value, unitsAt]
  split
  · next zero => simp [signedCoefficient, zero]
  · rw [powerOfTen_eq, ten_zpow_eq_mul finer]
    push_cast
    ring

/-- A total is split into a sign and a coefficient. The sign of a zero is free. -/
theorem signedCoefficient_ofTotal (total : Int) (zeroNegative : Bool) (exponent : Int) :
    signedCoefficient ⟨if total = 0 then zeroNegative else total < 0, total.natAbs, exponent⟩ = total := by
  rw [signedCoefficient]
  rcases lt_trichotomy total 0 with negative | rfl | positive
  · simp only [if_neg negative.ne, decide_eq_true negative, ↓reduceIte]
    omega
  · cases zeroNegative <;> rfl
  · simp only [if_neg positive.ne', decide_eq_false positive.not_gt, Bool.false_eq_true, ↓reduceIte]
    omega

theorem value_sum (left right : Finite) : (left.sum right).value = left.value + right.value := by
  rw [value_eq_unitsAt (min_le_left left.exponent right.exponent),
    value_eq_unitsAt (min_le_right left.exponent right.exponent), ← add_mul, ← Int.cast_add, value, sum]
  simp only [signedCoefficient_ofTotal]

/-- Zeros that are left out of the coefficient are made up for by the exponent. -/
theorem value_withoutZeros (limit : Nat) (number : Finite) : (withoutZeros limit number).value = number.value := by
  induction limit generalizing number with
  | zero => rfl
  | succ limit ih =>
      rw [withoutZeros]
      split
      · next zero =>
          have tenfold : (number.coefficient : ℚ) = (number.coefficient / 10 : Nat) * 10 := by
            exact_mod_cast (Nat.div_mul_cancel (Nat.dvd_of_mod_eq_zero zero)).symm
          rw [ih, value_eq, value_eq, tenfold, zpow_add_one₀ (by norm_num)]
          ring
      · rfl

/-!
## The leading digit
-/

theorem abs_value_bounds {number : Finite} (nonzero : number.coefficient ≠ 0) :
    10 ^ number.adjusted ≤ |number.value| ∧ |number.value| < 10 ^ (number.adjusted + 1) := by
  have some_digit := digitCount_pos number.coefficient
  have leading : number.adjusted = (digitCount number.coefficient - 1 : Nat) + number.exponent := by
    rw [adjusted]
    omega
  have next : number.adjusted + 1 = (digitCount number.coefficient : Nat) + number.exponent := by
    rw [adjusted]
    omega
  rw [next, leading, abs_value, zpow_add₀ (by norm_num), zpow_add₀ (by norm_num), zpow_natCast, zpow_natCast]
  constructor
  · exact mul_le_mul_of_nonneg_right (by exact_mod_cast ten_pow_le_of_ne_zero nonzero) (ten_zpow_pos _).le
  · exact mul_lt_mul_of_pos_right (by exact_mod_cast lt_ten_pow_digitCount _) (ten_zpow_pos _)

theorem log_eq_of_bounds {magnitude : ℚ} {exponent : Int} (lower : 10 ^ exponent ≤ magnitude)
    (upper : magnitude < 10 ^ (exponent + 1)) : Int.log 10 magnitude = exponent := by
  have positive : 0 < magnitude := (ten_zpow_pos exponent).trans_le lower
  have below := (Int.zpow_le_iff_le_log (b := 10) (by norm_num) positive).mp (by exact_mod_cast lower)
  have above := (Int.lt_zpow_iff_log_lt (b := 10) (by norm_num) positive).mp (by exact_mod_cast upper)
  omega

theorem log_abs_value {number : Finite} (nonzero : number.coefficient ≠ 0) :
    Int.log 10 |number.value| = number.adjusted :=
  log_eq_of_bounds (abs_value_bounds nonzero).1 (abs_value_bounds nonzero).2

/-- A number reaches a power of ten if its leading digit stands there or further left. -/
theorem ten_zpow_le_abs_value_iff {number : Finite} (nonzero : number.coefficient ≠ 0) (exponent : Int) :
    10 ^ exponent ≤ |number.value| ↔ exponent ≤ number.adjusted := by
  have positive : 0 < |number.value| := (ten_zpow_pos _).trans_le (abs_value_bounds nonzero).1
  have reached := Int.zpow_le_iff_le_log (b := 10) (by norm_num) (x := exponent) positive
  rw [log_abs_value nonzero] at reached
  exact_mod_cast reached

end Finite

end DecimalFormula.Decimal
