import Mathlib
import DecimalFormula.Coercion
import DecimalFormula.Proofs.Decimal.Scientific
import DecimalFormula.Proofs.Engine
import DecimalFormula.Proofs.Evaluation.Conversion

/-!
# Coerced results as arguments

A result that is coerced to a text is the same number when the text is an argument: it has
the same sign, also if it is zero, the same digits and the same exponent. A reference to the
argument does not round it, so this holds for engines of every precision. The bounds on all
numbers are assumed, since the reader refuses what is beyond them.
-/

set_option autoImplicit false

namespace DecimalFormula

open Decimal

/-- The reader of numbers recovers a number from its text. -/
theorem Decimal.ofText?_text {number : Finite} (representable : number.isRepresentable = true) :
    ofText? (Decimal.finite number).text = some (.finite number) :=
  number.spelled_scientific.ofText?_eq representable

/-- A reference on its own is evaluated by converting the argument. -/
theorem Settings.evaluateAfresh_reference (settings : Settings) (value : Value) :
    settings.evaluateAfresh "x" [value] = (value.toDecimal settings.context).mapError .evaluation := by
  have accepted : Expr.parse "x" = .ok (.argument 0) := by
    decide +kernel
  rw [settings.evaluateAfresh_of_parse accepted, Scope.evaluate_argument]
  rfl

/-- A number that is coerced to a text is recovered from it, by conversion in every context
and by engines of every precision, whatever these were asked before. -/
theorem coerced_text_recovers {number : Finite} (representable : number.isRepresentable = true) :
    ∃ content, (Decimal.finite number).coerce .text = .ok (.text content) ∧
      (∀ context, (Value.text content).toDecimal context = .ok (.finite number)) ∧
      ∀ (settings : Settings) (cache : Cache), cache.Parses →
        (cache.evaluate settings (.text "x") [.text content]).1 = .ok (.finite number) := by
  have converted : ∀ context, (Value.text (Decimal.finite number).text).toDecimal context = .ok (.finite number) :=
    fun context => Value.toDecimal_of_ofText? (ofText?_text representable)
  refine ⟨_, rfl, converted, ?_⟩
  intro settings cache parses
  rw [parses.evaluate_text, settings.evaluateAfresh_reference, converted settings.context]
  rfl

/-- A negative zero with an exponent, and the least exponent of all under several digits. An
engine that keeps one digit recovers both. -/
theorem coerced_text_recovers_extremes :
    (Decimal.finite ⟨true, 0, -7⟩).coerce .text = .ok (.text "-0E-7") ∧
      ((Cache.ofCompiler .parsing).evaluate ⟨1, by decide, by decide⟩ (.text "x") [.text "-0E-7"]).1 =
        .ok (.finite ⟨true, 0, -7⟩) ∧
      (Decimal.finite ⟨false, 1200, minExponent⟩).coerce .text = .ok (.text "1.200E-1999999999999999994") ∧
      ((Cache.ofCompiler .parsing).evaluate ⟨1, by decide, by decide⟩ (.text "x")
        [.text "1.200E-1999999999999999994"]).1 = .ok (.finite ⟨false, 1200, minExponent⟩) := by
  have zero : (Decimal.finite ⟨true, 0, -7⟩).coerce .text = .ok (.text "-0E-7") := by
    decide +kernel
  have least : (Decimal.finite ⟨false, 1200, minExponent⟩).coerce .text =
      .ok (.text "1.200E-1999999999999999994") := by
    decide +kernel
  obtain ⟨_, zeroCoerced, _, zeroRecovered⟩ :=
    coerced_text_recovers (by decide +kernel : Finite.isRepresentable ⟨true, 0, -7⟩ = true)
  obtain ⟨_, leastCoerced, _, leastRecovered⟩ :=
    coerced_text_recovers (by decide +kernel : Finite.isRepresentable ⟨false, 1200, minExponent⟩ = true)
  cases Except.ok.inj (zeroCoerced.symm.trans zero)
  cases Except.ok.inj (leastCoerced.symm.trans least)
  exact ⟨zero, zeroRecovered _ _ Cache.parses_ofCompiler, least, leastRecovered _ _ Cache.parses_ofCompiler⟩

end DecimalFormula
