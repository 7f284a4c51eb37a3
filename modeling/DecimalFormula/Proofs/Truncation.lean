import Mathlib
import DecimalFormula.Proofs.Coercion
import DecimalFormula.Proofs.Converter
import DecimalFormula.Proofs.Decimal.Value

/-!
# Integers as results

Coercing a number to an integer truncates it toward zero, wherever its digits stand. An
integer that a converter is given comes out as it went in: neither its conversion nor a
reference to it rounds, so it may have more digits than the engine keeps.
-/

set_option autoImplicit false

namespace DecimalFormula

open Decimal

namespace Decimal.Finite

/-- The magnitude of a number as a quotient of two natural numbers, one of which is a power
of ten. -/
theorem abs_value_eq_div (number : Finite) :
    |number.value| = (number.coefficient * powerOfTen number.exponent.toNat : Nat) /
      (powerOfTen (-number.exponent).toNat : Nat) := by
  rw [abs_value, powerOfTen_eq, powerOfTen_eq]
  rcases Int.eq_nat_or_neg number.exponent with ⟨places, large | small⟩
  · simp [large]
  · simp [small, div_eq_mul_inv]

theorem truncate_eq_signed_floor (number : Finite) :
    number.truncate = Text.signedInteger number.negative ⌊|number.value|⌋₊ := by
  rw [abs_value_eq_div, Nat.floor_div_eq_div, truncate]
  split
  · next short =>
      have places : 0 < (-number.exponent).toNat := (digitCount_pos number.coefficient).trans_le short
      have small := (digitCount_le_iff places).mp short
      have whole : number.exponent.toNat = 0 := by omega
      rw [whole, powerOfTen_eq 0, pow_zero, Nat.mul_one, Nat.div_eq_of_lt small]
  · rfl

theorem abs_truncate (number : Finite) : |(number.truncate : ℚ)| = ⌊|number.value|⌋₊ := by
  rw [truncate_eq_signed_floor, Text.signedInteger]
  split <;> simp

theorem truncate_neg_iff {number : Finite} (nonzero : number.truncate ≠ 0) :
    number.truncate < 0 ↔ number.negative = true := by
  rw [truncate_eq_signed_floor] at nonzero ⊢
  generalize ⌊|number.value|⌋₊ = magnitude at nonzero
  cases negative : number.negative with
  | false =>
      simp only [Text.signedInteger, Bool.false_eq_true, if_false, iff_false]
      exact not_lt.mpr (Int.natCast_nonneg magnitude)
  | true =>
      simp only [negative, Text.signedInteger, if_true, iff_true] at nonzero ⊢
      omega

theorem truncate_ofInt (value : Int) : (ofInt value).truncate = value := by
  have magnitude : |(value : ℚ)| = (value.natAbs : ℚ) := by
    rw [Nat.cast_natAbs, Int.cast_abs]
  rw [truncate_eq_signed_floor, value_ofInt, magnitude, Nat.floor_natCast]
  exact signedInteger_natAbs value

end Decimal.Finite

theorem Settings.evaluateAfresh_integer (settings : Settings) (number : Int) :
    settings.evaluateAfresh "x" [.integer number] = .ok (.ofInt number) := by
  have converted : (Value.integer number).toDecimal settings.context = .ok (.finite (.ofInt number)) :=
    Value.toDecimal_of_number rfl
  rw [settings.evaluateAfresh_reference, converted]
  rfl

/-- Every finite number can be coerced to an integer: its value without the places after the
point. A converter of any precision that is given an integer returns it, whatever it was asked
before. -/
theorem coerced_integer_truncates :
    (∀ number : Finite, ∃ integer : Int, (Decimal.finite number).coerce .integer = .ok (.integer integer) ∧
        |(integer : ℚ)| ≤ |number.value| ∧ |number.value| < |(integer : ℚ)| + 1 ∧
        (integer = 0 ∨ (integer < 0 ↔ number.negative = true))) ∧
      ∀ (settings : Settings) (requests : List Converter.Request) (integer : Int),
        (((Converter.ofSettings settings).run requests).2.convert (.integer integer) .integer (.text "x")).1 =
          ⟨some (.integer integer), []⟩ := by
  constructor
  · intro number
    refine ⟨number.truncate, rfl, ?_, ?_, ?_⟩
    · rw [number.abs_truncate]
      exact Nat.floor_le (abs_nonneg _)
    · rw [number.abs_truncate]
      exact Nat.lt_floor_add_one _
    · exact or_iff_not_imp_left.mpr Finite.truncate_neg_iff
  · intro settings requests integer
    obtain ⟨_, same, holds⟩ := (Converter.holds_ofSettings settings).run requests
    have kept : (Finite.ofInt integer).truncate = integer := Finite.truncate_ofInt integer
    rw [Converter.convert, (holds.convertMany _ _ _).1, same]
    change Converter.reported ((settings.evaluateAfresh "x" [.integer integer]).mapError .engine >>=
      fun number => (number.coerce .integer).mapError .coercion) = _
    rw [settings.evaluateAfresh_integer]
    change Converter.reported (.ok (.integer (Finite.ofInt integer).truncate)) = _
    rw [kept]
    rfl

end DecimalFormula
