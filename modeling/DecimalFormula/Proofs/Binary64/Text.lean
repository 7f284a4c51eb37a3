import Mathlib
import DecimalFormula.Binary64.Shortest
import DecimalFormula.Proofs.Decimal.Scientific
import DecimalFormula.Proofs.Decimal.Value

/-!
# Texts of binary numbers

The text of a finite binary number is read as a decimal number of the same value as the
shortest decimal that it shows. The numbers of the format are so far within the bounds on
all decimal numbers that coarse estimates of their digits suffice.
-/

set_option autoImplicit false

namespace DecimalFormula.Binary64

open Decimal Text

/-!
## Layouts
-/

/-- An integer is written with a zero after the point. -/
theorem spelled_integral (number : Finite) :
    Spelled (signText number.negative ++ (number.digits ++ List.replicate number.exponent.toNat '0' ++ ['.', '0']))
      ⟨number.negative, number.coefficient * 10 ^ (number.exponent.toNat + 1), -1⟩ := by
  have whole := (digits_toDigits number.coefficient).append (digits_replicate_zero number.exponent.toNat)
  have numeral := Numeral.pointed whole (digits_replicate_zero 1) (by simp)
  have value : Nat.ofDigitChars 10 (Nat.toDigits 10 number.coefficient ++ List.replicate number.exponent.toNat '0' ++
      List.replicate 1 '0') 0 = number.coefficient * 10 ^ (number.exponent.toNat + 1) := by
    rw [List.append_assoc, List.replicate_append_replicate, Nat.ofDigitChars_append, Nat.ofDigitChars_replicate_zero,
      Nat.ofDigitChars_ten_toDigits, Nat.mul_comm]
  have spelled := Spelled.number (spelledSign_signText number.negative) numeral .absent
  rw [List.append_nil, value] at spelled
  exact spelled

theorem value_integral {number : Finite} (integral : 0 ≤ number.exponent) :
    Finite.value ⟨number.negative, number.coefficient * 10 ^ (number.exponent.toNat + 1), -1⟩ = number.value := by
  have places : ((number.exponent.toNat + 1 : Nat) : Int) + -1 = number.exponent := by omega
  rw [Finite.value_eq, Finite.value_eq, Nat.cast_mul, Nat.cast_pow, Nat.cast_ofNat, mul_assoc, ← zpow_natCast,
    ← zpow_add₀ (by norm_num), places]

theorem digitCount_shifted_le (number places : Nat) :
    digitCount (number * powerOfTen places) ≤ digitCount number + places := by
  refine (digitCount_le_iff (Nat.add_pos_left (digitCount_pos _) _)).mpr ?_
  rw [powerOfTen_eq, powerOfTen_eq, pow_add]
  exact Nat.mul_lt_mul_of_pos_right (lt_ten_pow_digitCount number) (Nat.pow_pos (by decide))

theorem adjusted_integral_le {number : Finite} (integral : 0 ≤ number.exponent) :
    Finite.adjusted ⟨number.negative, number.coefficient * 10 ^ (number.exponent.toNat + 1), -1⟩ ≤
      number.adjusted := by
  have digits := digitCount_shifted_le number.coefficient (number.exponent.toNat + 1)
  rw [powerOfTen_eq] at digits
  simp only [Finite.adjusted]
  omega

/-- The layout of a number is read as a number of the same value. -/
theorem exists_spelled_layout {number : Finite} (representable : number.isRepresentable = true) :
    ∃ read, Spelled (layout number) read ∧ read.isRepresentable = true ∧ read.value = number.value := by
  rw [layout]
  split
  · split
    · next fractional => exact ⟨number, number.spelled_pointed fractional.le, representable, rfl⟩
    · next integral =>
        rw [not_lt] at integral
        refine ⟨_, spelled_integral number, ?_, value_integral integral⟩
        have smaller := adjusted_integral_le integral
        simp only [Finite.isRepresentable, Bool.and_eq_true, decide_eq_true_eq] at representable ⊢
        exact ⟨by decide, smaller.trans representable.2⟩
  · exact ⟨number, number.spelled_pointedAfterFirst (spelledExponent_padded (.inl rfl) _ _), representable, rfl⟩

/-!
## The bounds of the format
-/

/-- A finite binary number whose significand and exponent the format has room for, or no
finite number. -/
def InFormat : Binary64 → Prop
  | .finite _ significand exponent =>
      significand < powerOfTwo 53 ∧ minExponent ≤ exponent ∧ exponent ≤ maxExponent
  | _ => True

theorem nearestAt?_le {range : Neighbourhood} {value : Quotient} {place : Int} {coefficient : Nat}
    (found : nearestAt? range value place = some coefficient) :
    coefficient ≤ value.dividend * powerOfTen (-place).toNat + 1 := by
  have member := List.mem_of_find?_eq_some found
  have quotient := Nat.div_le_self (value.dividend * powerOfTen (-place).toNat) (value.divisor * powerOfTen place.toNat)
  simp only [List.mem_cons, List.not_mem_nil, or_false] at member
  rcases member with rfl | rfl <;> split_ifs <;> omega

/-- The decimal of the fewest digits has a last place among those that are tried. -/
theorem shortestFrom_bounds (range : Neighbourhood) (value : Quotient) (further : Nat) (place : Int) :
    place - further ≤ (shortestFrom range value further place).2 ∧
      (shortestFrom range value further place).2 ≤ place ∧
      (shortestFrom range value further place).1 ≤
        value.dividend * powerOfTen (-(shortestFrom range value further place).2).toNat + 1 := by
  induction further generalizing place with
  | zero =>
      rw [shortestFrom]
      refine ⟨by omega, le_rfl, ?_⟩
      cases found : nearestAt? range value place with
      | none => exact Nat.zero_le _
      | some coefficient => exact nearestAt?_le found
  | succ further ih =>
      rw [shortestFrom]
      cases found : nearestAt? range value place with
      | some coefficient =>
          simp only
          exact ⟨by omega, le_rfl, nearestAt?_le found⟩
      | none =>
          obtain ⟨lower, upper, bound⟩ := ih (place - 1)
          simp only
          exact ⟨by push_cast; omega, by omega, bound⟩

theorem decimalExponent_bounds (value : Quotient) :
    -(digitCount value.divisor : Int) ≤ value.decimalExponent ∧ value.decimalExponent ≤ digitCount value.dividend := by
  have dividend := digitCount_pos value.dividend
  have divisor := digitCount_pos value.divisor
  rw [Quotient.decimalExponent]
  split <;> omega

theorem powerOfTwo_add (first second : Nat) : powerOfTwo (first + second) = powerOfTwo first * powerOfTwo second :=
  pow_add 2 first second

theorem powerOfTwo_mono {smaller larger : Nat} (ordered : smaller ≤ larger) :
    powerOfTwo smaller ≤ powerOfTwo larger :=
  Nat.pow_le_pow_right (by decide) ordered

theorem digitCount_two_pow_le (exponent : Nat) : digitCount (powerOfTwo exponent) ≤ exponent + 1 := by
  refine (digitCount_le_iff (Nat.succ_pos _)).mpr ?_
  calc 2 ^ exponent
      ≤ 10 ^ exponent := Nat.pow_le_pow_left (by decide) exponent
    _ < 10 ^ (exponent + 1) := Nat.pow_lt_pow_right (by decide) (Nat.lt_succ_self _)

theorem digitCount_mono {smaller larger : Nat} (ordered : smaller ≤ larger) :
    digitCount smaller ≤ digitCount larger :=
  (digitCount_le_iff (digitCount_pos _)).mpr (ordered.trans_lt (lt_ten_pow_digitCount larger))

theorem digitCount_ofBinary_le {significand : Nat} {exponent : Int} (small : significand < powerOfTwo 53)
    (least : minExponent ≤ exponent) (greatest : exponent ≤ maxExponent) :
    digitCount (Quotient.ofBinary significand exponent).dividend ≤ 1025 ∧
      digitCount (Quotient.ofBinary significand exponent).divisor ≤ 1075 := by
  rw [minExponent] at least
  rw [maxExponent] at greatest
  constructor
  · have bound : significand * powerOfTwo exponent.toNat ≤ powerOfTwo (53 + 971) := by
      rw [powerOfTwo_add]
      exact Nat.mul_le_mul small.le (powerOfTwo_mono (by omega))
    exact (digitCount_mono bound).trans (digitCount_two_pow_le _)
  · have bound : powerOfTwo (-exponent).toNat ≤ powerOfTwo 1074 := powerOfTwo_mono (by omega)
    exact (digitCount_mono bound).trans (digitCount_two_pow_le _)

theorem digitCount_succ_le (number : Nat) : digitCount (number + 1) ≤ digitCount number + 1 := by
  refine (digitCount_le_iff (Nat.succ_pos _)).mpr ?_
  calc number + 1
      ≤ 10 ^ digitCount number := lt_ten_pow_digitCount number
    _ < 10 ^ (digitCount number + 1) := Nat.pow_lt_pow_right (by decide) (Nat.lt_succ_self _)

theorem isRepresentable_of_small {negative : Bool} {coefficient : Nat} {exponent : Int}
    (digits : digitCount coefficient ≤ 10000) (least : -10000 ≤ exponent) (greatest : exponent ≤ 10000) :
    Finite.isRepresentable ⟨negative, coefficient, exponent⟩ = true := by
  simp only [Finite.isRepresentable, Bool.and_eq_true, decide_eq_true_eq]
  simp only [Finite.adjusted, Decimal.minExponent, Decimal.maxExponent]
  omega

theorem isRepresentable_shortest {negative : Bool} {significand : Nat} {exponent : Int}
    (inFormat : (finite negative significand exponent).InFormat) :
    (shortest negative significand exponent).isRepresentable = true := by
  obtain ⟨small, least, greatest⟩ := inFormat
  rw [shortest]
  split
  · exact isRepresentable_of_small (by decide) (by decide) (by decide)
  · obtain ⟨dividend, divisor⟩ := digitCount_ofBinary_le small least greatest
    dsimp only
    generalize Quotient.ofBinary significand exponent = value at *
    obtain ⟨leading, leadingUpper⟩ := decimalExponent_bounds value
    obtain ⟨lower, upper, bound⟩ :=
      shortestFrom_bounds (neighbourhood significand exponent) value 16 value.decimalExponent
    generalize shortestFrom (neighbourhood significand exponent) value 16 value.decimalExponent = result at *
    have digits : digitCount result.1 ≤ digitCount value.dividend + (-result.2).toNat + 1 :=
      (digitCount_mono bound).trans ((digitCount_succ_le _).trans (Nat.succ_le_succ (digitCount_shifted_le _ _)))
    split
    · exact isRepresentable_of_small (by decide) (by omega) (by omega)
    · exact isRepresentable_of_small (by omega) (by omega) (by omega)

/-- The text of a finite number of the format is read as a decimal number of the value that
it shows. -/
theorem exists_ofText?_text {negative : Bool} {significand : Nat} {exponent : Int}
    (inFormat : (finite negative significand exponent).InFormat) :
    ∃ number, ofText? (finite negative significand exponent).text = some (.finite number) ∧
      number.value = (shortest negative significand exponent).value := by
  obtain ⟨number, spelled, representable, value⟩ := exists_spelled_layout (isRepresentable_shortest inFormat)
  exact ⟨number, spelled.ofText?_eq representable, value⟩

end DecimalFormula.Binary64
