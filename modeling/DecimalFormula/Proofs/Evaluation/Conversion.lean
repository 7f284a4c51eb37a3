import Mathlib
import DecimalFormula.Proofs.Binary64.Text
import DecimalFormula.Proofs.Evaluation.Finite

/-!
# Exact values of arguments

The rational number that an argument stands for: a binary number that of its shortest
decimal, a text that of the numeral it is. An argument has such a number exactly if its
conversion is not refused, and the conversion keeps the number. Only the number of a
fraction is rounded, and may then be too large.
-/

set_option autoImplicit false

namespace DecimalFormula

open Decimal

/-- What an exact result becomes in a context: it is rounded, if what it is rounded to is
not too large. -/
def Decimal.Context.settle (context : Context) (exact : ℚ) : Except EvaluationError.Kind ℚ :=
  (context.kept? exact).elim (.error .overflow) .ok

/-- An outcome of evaluation has a rational value, or is an evaluation error of a kind. -/
inductive Reports : Except EvaluationFailure Decimal → Except EvaluationError.Kind ℚ → Prop where
  | number {number : Finite} : Reports (.ok (.finite number)) (.ok number.value)
  | error {cause : EvaluationError} : Reports (.error (.evaluation cause)) (.error cause.kind)

namespace Reports

variable {result : Except EvaluationFailure Decimal} {first second : Except EvaluationError.Kind ℚ}

theorem unique (firstReport : Reports result first) (secondReport : Reports result second) : first = second := by
  cases firstReport <;> cases secondReport <;> rfl

theorem of_value {number : Finite} {exact : ℚ} (value : number.value = exact) :
    Reports (.ok (.finite number)) (.ok exact) :=
  value ▸ .number

theorem exists_finite {exact : ℚ} (report : Reports result (.ok exact)) :
    ∃ number : Finite, result = .ok (.finite number) ∧ number.value = exact := by
  cases report
  exact ⟨_, rfl, rfl⟩

theorem exists_error {kind : EvaluationError.Kind} (report : Reports result (.error kind)) :
    ∃ cause, result = .error (.evaluation cause) ∧ cause.kind = kind := by
  cases report
  exact ⟨_, rfl, rfl⟩

theorem of_yields {context : Context} {exact : ℚ} {computed : Except Condition Decimal}
    (yields : context.Yields exact computed) {outOfRange : EvaluationError} (kind : outOfRange.kind = .overflow) :
    Reports (computed.mapError (Scope.failure outOfRange)) (context.settle exact) := by
  cases yields with
  | number kept =>
      rw [Context.settle, kept]
      exact .number
  | overflow tooLarge =>
      rw [Context.settle, tooLarge, ← kind]
      exact .error

end Reports

namespace Value

/-- The exact number that a value stands for. -/
inductive StandsFor : Value → ℚ → Prop where
  | nothing : StandsFor .nothing 0
  | boolean {truth : Bool} : StandsFor (.boolean truth) truth.toInt
  | integer {number : Int} : StandsFor (.integer number) number
  | binary64 {negative : Bool} {significand : Nat} {exponent : Int} :
      (Binary64.finite negative significand exponent).InFormat →
      StandsFor (.binary64 (.finite negative significand exponent))
        (Binary64.shortest negative significand exponent).value
  | decimal {number : Finite} : StandsFor (.decimal (.finite number)) number.value
  | fraction {number : ℚ} : (Value.fraction number).Bounded → StandsFor (.fraction number) number
  | text {content : String} {number : Finite} :
      Spelled (bareNumeral content.toList) number → number.isRepresentable = true →
      StandsFor (.text content) number.value

/-- What converting a value makes of the number that it stands for. -/
def converted (context : Context) : Value → ℚ → Except EvaluationError.Kind ℚ
  | .fraction _, exact => context.settle exact
  | _, exact => .ok exact

variable {context : Context} {value : Value} {exact : ℚ}

theorem toDecimal_of_number {number : Finite} (found : value.number context = .ok (.finite number)) :
    value.toDecimal context = .ok (.finite number) := by
  rw [toDecimal, found]
  rfl

theorem toDecimal_of_ofText? {content : String} {number : Finite} (read : ofText? content = some (.finite number)) :
    (text content).toDecimal context = .ok (.finite number) := by
  have found : (text content).number context = .ok (.finite number) := by
    rw [number_text, read, Option.elim_some]
  exact toDecimal_of_number found

/-- A fraction is converted by dividing its parts, which rounds its exact value. -/
theorem reports_fraction {number : ℚ} (bounded : (fraction number).Bounded) :
    Reports ((fraction number).toDecimal context) (context.settle number) := by
  obtain ⟨shown, displayed⟩ : ∃ shown, (fraction number).display? = some shown := exists_fractionDisplay bounded
  have divisor : (Finite.ofInt number.den).coefficient ≠ 0 := by
    rw [Finite.ofInt, Int.natAbs_natCast]
    exact number.den_nz
  have same := context.rounded_quotient (.ofInt number.num) divisor
  rw [Finite.value_ofInt, Finite.value_ofInt, Int.cast_natCast, Rat.num_div_den] at same
  have kept := (context.round?_kept _).trans (context.kept?_congr same)
  rw [Context.settle, ← kept]
  cases rounded : context.round? ((Finite.ofInt number.num).quotient context.precision (.ofInt number.den)) with
  | some result =>
      have found : (fraction number).number context = .ok (.finite result) := by simp only [Value.number, rounded]
      rw [toDecimal_of_number found]
      exact .number
  | none =>
      have refused : (fraction number).number context = .error (.evaluation (.argumentOutOfRange shown)) := by
        simp only [Value.number, rounded, about_eq displayed]
      rw [toDecimal, refused]
      exact .error

/-- Converting a value keeps the number that it stands for, apart from rounding a fraction. -/
theorem StandsFor.reports (standsFor : value.StandsFor exact) (context : Context) :
    Reports (value.toDecimal context) (value.converted context exact) := by
  cases standsFor with
  | nothing => exact .of_value (Finite.value_ofInt 0)
  | boolean | integer => exact .of_value (Finite.value_ofInt _)
  | decimal => exact .number
  | fraction bounded => exact reports_fraction bounded
  | @binary64 negative significand exponent inFormat =>
      obtain ⟨number, read, shows⟩ := Binary64.exists_ofText?_text inFormat
      have found : (Value.binary64 (.finite negative significand exponent)).number context = .ok (.finite number) := by
        rw [number_binary64, read, Option.elim_some]
      rw [toDecimal_of_number found]
      exact .of_value shows
  | @text content number spelled representable =>
      have read : ofText? content = some (.finite number) := readNumeral?_eq_finite_iff.mpr ⟨spelled, representable⟩
      rw [toDecimal_of_ofText? read]
      exact .number

/-!
## Values that are converted
-/

/-- A value that is no binary number, or a number of the format. -/
def InFormat : Value → Prop
  | .binary64 number => number.InFormat
  | _ => True

/-- Converting a value is not refused. A fraction may be too large for the context. -/
def Converts (context : Context) (value : Value) : Prop :=
  ∀ cause, value.toDecimal context = .error (.evaluation cause) → cause.kind ≠ .invalidArgument

theorem converts_of_ok {number : Decimal} (converted : value.toDecimal context = .ok number) :
    value.Converts context := by
  intro cause refused
  rw [converted] at refused
  cases refused

theorem not_converts {cause : EvaluationError} (refused : value.toDecimal context = .error (.evaluation cause))
    (kind : cause.kind = .invalidArgument) : ¬ value.Converts context :=
  fun converts => converts cause refused kind

theorem not_converts_of_not_finite {shown : String} {number : Decimal} (displayed : value.display? = some shown)
    (found : value.number context = .ok number) (notFinite : number.isFinite = false) : ¬ value.Converts context := by
  have refused : value.toDecimal context = .error (.evaluation (.notFinite shown)) := by
    rw [toDecimal, found]
    change (if number.isFinite then pure number else throw (EvaluationFailure.about value .notFinite)) = _
    rw [notFinite, about_eq displayed]
    rfl
  exact not_converts refused rfl

theorem not_converts_infinite (negative : Bool) : ¬ (binary64 (.infinite negative)).Converts context := by
  have read : ofText? (Binary64.infinite negative).text = some (.infinite negative) := by
    cases negative <;> decide +kernel
  have found : (binary64 (.infinite negative)).number context = .ok (.infinite negative) := by
    rw [number_binary64, read, Option.elim_some]
  exact not_converts_of_not_finite rfl found rfl

theorem not_converts_undefined : ¬ (binary64 .undefined).Converts context := by
  have read : ofText? Binary64.undefined.text = some (.undefined ⟨false, false, 0⟩) := by decide +kernel
  have found : (binary64 .undefined).number context = .ok (.undefined ⟨false, false, 0⟩) := by
    rw [number_binary64, read, Option.elim_some]
  exact not_converts_of_not_finite rfl found rfl

theorem exists_standsFor_text {content : String} (converts : (text content).Converts context) :
    ∃ exact, (text content).StandsFor exact := by
  cases read : ofText? content with
  | none =>
      have refused : (text content).toDecimal context = .error (.evaluation (.notANumber content)) := by
        rw [toDecimal, number_text, read]
        rfl
      exact absurd converts (not_converts refused rfl)
  | some number =>
      have found : (text content).number context = .ok number := by rw [number_text, read, Option.elim_some]
      cases number with
      | finite number =>
          obtain ⟨spelled, representable⟩ := readNumeral?_eq_finite_iff.mp read
          exact ⟨_, .text spelled representable⟩
      | infinite | undefined => exact absurd converts (not_converts_of_not_finite rfl found rfl)

/-- A value that is converted stands for a number. -/
theorem Converts.exists_standsFor (converts : value.Converts context) (bounded : value.Bounded)
    (inFormat : value.InFormat) : ∃ exact, value.StandsFor exact := by
  cases value with
  | nothing => exact ⟨_, .nothing⟩
  | boolean => exact ⟨_, .boolean⟩
  | integer => exact ⟨_, .integer⟩
  | fraction => exact ⟨_, .fraction bounded⟩
  | decimal number =>
      cases number with
      | finite number => exact ⟨_, .decimal⟩
      | infinite | undefined => exact absurd converts (not_converts_of_not_finite rfl rfl rfl)
  | binary64 number =>
      cases number with
      | finite => exact ⟨_, .binary64 inFormat⟩
      | infinite negative => exact absurd converts (not_converts_infinite negative)
      | undefined => exact absurd converts not_converts_undefined
  | text content => exact exists_standsFor_text converts
  | unwritableText | bytes | tuple | list | mapping | foreign => exact absurd converts (not_converts rfl rfl)

end Value

end DecimalFormula
