import Mathlib
import DecimalFormula.Proofs.Engine
import DecimalFormula.Proofs.Evaluation.Finite
import DecimalFormula.Proofs.Expr.Refusal

/-!
# Failures that users must expect

Evaluating a text ends in a finite number or in a failure that users of expressions must
expect, unless a reference in the text has too many digits. The arguments that the text
mentions may be anything but texts that cannot be written, which no message can show, and
fractions beyond the limit on digits; the others may be anything.
-/

set_option autoImplicit false

namespace DecimalFormula

open Decimal

/-- A value other than a text that cannot be written. -/
def Value.CanBeWritten : Value → Prop
  | .unwritableText _ => False
  | _ => True

/-- A result that is not the failure to write an argument. -/
def Reportable (result : Except EvaluationFailure Decimal) : Prop :=
  ∀ argument, result ≠ .error (.evaluation (.unwritableArgument argument))

theorem reportable_ok (number : Decimal) : Reportable (.ok number) := by
  intro argument same
  cases same

theorem reportable_error {failure : EvaluationFailure}
    (other : ∀ argument, failure ≠ .evaluation (.unwritableArgument argument)) : Reportable (.error failure) :=
  fun argument same => other argument (Except.error.inj same)

theorem Reportable.bind {result : Except EvaluationFailure Decimal}
    {next : Decimal → Except EvaluationFailure Decimal} (reportable : Reportable result)
    (nextReportable : ∀ number, Reportable (next number)) : Reportable (result >>= next) := by
  cases result with
  | ok number => exact nextReportable number
  | error failure =>
      intro argument same
      cases same
      exact reportable argument rfl

namespace Value

theorem reportable_about (value : Value) {cause : String → EvaluationError}
    (shows : ∀ shown argument, cause shown ≠ .unwritableArgument argument) :
    Reportable (.error (.about value cause)) := by
  unfold EvaluationFailure.about
  split
  · next shown _ => exact reportable_error fun argument => mt EvaluationFailure.evaluation.inj (shows shown argument)
  · exact reportable_error (by simp)

theorem reportable_number {value : Value} (writable : value.CanBeWritten) (context : Context) :
    Reportable (value.number context) := by
  cases value with
  | unwritableText => exact writable.elim
  | nothing | boolean | integer | decimal => exact reportable_ok _
  | binary64 number =>
      rw [number_binary64]
      cases ofText? number.text with
      | some number => exact reportable_ok number
      | none => exact reportable_about _ (by simp)
  | text content =>
      rw [number_text]
      cases ofText? content with
      | some number => exact reportable_ok number
      | none => exact reportable_about _ (by simp)
  | fraction number =>
      unfold Value.number
      dsimp only
      split
      · exact reportable_ok _
      · exact reportable_about _ (by simp)
  | bytes | tuple | list | mapping | foreign => exact reportable_error (by simp)

theorem reportable_toDecimal {value : Value} (writable : value.CanBeWritten) (context : Context) :
    Reportable (value.toDecimal context) := by
  refine (reportable_number writable context).bind fun number => ?_
  split
  · exact reportable_ok number
  · exact reportable_about value (by simp)

end Value

namespace Scope

variable (scope : Scope)

theorem reportable_mapError {outOfRange : EvaluationError}
    (other : ∀ argument, outOfRange ≠ .unwritableArgument argument) (result : Except Condition Decimal) :
    Reportable (result.mapError (failure outOfRange)) := by
  cases result with
  | ok number => exact reportable_ok number
  | error condition =>
      cases condition with
      | overflow => exact reportable_error fun argument => mt EvaluationFailure.evaluation.inj (other argument)
      | divisionByZero | invalidOperation => exact reportable_error (by simp [failure])

theorem reportable_apply (op : Operator) (left right : Decimal) : Reportable (scope.apply op left right) := by
  unfold apply
  split
  · exact reportable_error (by simp)
  · exact reportable_mapError (by simp) _
  · next condition _ => exact reportable_mapError (by simp) (.error condition)

theorem reportable_of_mentions {expr : Expr} (writable : expr.MentionsOnly Value.CanBeWritten scope.arguments) :
    Reportable (scope.evaluate expr) := by
  induction expr with
  | constant value => exact reportable_ok value
  | argument index =>
      rw [evaluate_argument, Scope.argument]
      cases found : scope.arguments[index]? with
      | some value =>
          exact Value.reportable_toDecimal (writable index value (List.mem_singleton_self _) found) _
      | none => exact reportable_error (by simp)
  | binary op left right leftIH rightIH =>
      obtain ⟨leftWritable, rightWritable⟩ := writable.of_binary
      rw [evaluate_binary]
      exact (leftIH leftWritable).bind fun start => (rightIH rightWritable).bind fun operand =>
        scope.reportable_apply op start operand
  | negate operand ih =>
      rw [evaluate_negate]
      exact (ih writable.of_negate).bind fun value => reportable_mapError (by simp) _
  | foreign typeName => exact reportable_error (by simp)

end Scope

/-- The arguments that a text mentions, if it is an expression, are within the limit on
digits and can be written. -/
def Suits (source : String) (arguments : List Value) : Prop :=
  ∀ expr, Expr.parse source = .ok expr →
    expr.MentionsOnly (fun value => value.Bounded ∧ value.CanBeWritten) arguments

theorem suits_of_forall {arguments : List Value} (suitable : ∀ value ∈ arguments, value.Bounded ∧ value.CanBeWritten)
    (source : String) : Suits source arguments :=
  fun expr _ => Expr.mentionsOnly_of_forall suitable expr

/-- A text without a reference of too many digits has a finite value or an expected
failure. -/
theorem Settings.evaluateAfresh_cases (settings : Settings) {source : String} {arguments : List Value}
    (short : ∀ count, ¬ Expr.HasLongIndex source count) (suits : Suits source arguments) :
    (∃ number, settings.evaluateAfresh source arguments = .ok (.finite number)) ∨
      ∃ failure, settings.evaluateAfresh source arguments = .error failure ∧ failure.isExpected = true := by
  cases parsed : Expr.parse source with
  | error error =>
      rw [evaluateAfresh, parsed]
      cases error with
      | malformed error => exact .inr ⟨_, rfl, rfl⟩
      | indexTooLong count => exact absurd (Expr.parse_eq_indexTooLong_iff.mp parsed) (short count)
  | ok expr =>
      let scope : Scope := ⟨settings.context, arguments⟩
      have bounded := (suits expr parsed).imp fun _ => And.left
      have settled := scope.settled_of_mentions (Expr.writable_of_parse parsed) bounded
      have reportable := scope.reportable_of_mentions ((suits expr parsed).imp fun _ => And.right)
      rw [settings.evaluateAfresh_of_parse parsed]
      generalize scope.evaluate expr = result at settled reportable
      cases settled with
      | @number number => exact .inl ⟨number, rfl⟩
      | @error cause =>
          refine .inr ⟨_, rfl, ?_⟩
          cases cause with
          | unwritableArgument argument => exact absurd rfl (reportable argument)
          | _ => rfl

end DecimalFormula
