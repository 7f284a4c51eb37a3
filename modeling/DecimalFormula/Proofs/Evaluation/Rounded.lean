import Mathlib
import DecimalFormula.Proofs.Engine
import DecimalFormula.Proofs.Evaluation.Conversion

/-!
# Correctly rounded evaluation

What an expression is worth on rational numbers: constants and arguments have their exact
values, apart from fractions, and the exact result of every operation on rounded operands
is rounded once. The value of an expression is this number, and it fails where this fails.
-/

set_option autoImplicit false

namespace DecimalFormula

open Decimal

namespace Scope

/-- Evaluation on rational numbers. The operands are evaluated from left to right, and the
first failure counts: a result that is too large, or a division by zero. -/
inductive RoundsTo (scope : Scope) : Expr → Except EvaluationError.Kind ℚ → Prop where
  | constant {number : Finite} : RoundsTo scope (.constant (.finite number)) (.ok number.value)
  | argument {index : Nat} {value : Value} {exact : ℚ} :
      scope.arguments[index]? = some value → value.StandsFor exact →
      RoundsTo scope (.argument index) (value.converted scope.context exact)
  | negate {operand : Expr} {exact : ℚ} :
      RoundsTo scope operand (.ok exact) → RoundsTo scope (.negate operand) (scope.context.settle (-exact))
  | binary {op : Operator} {left right : Expr} {first second : ℚ} :
      RoundsTo scope left (.ok first) → RoundsTo scope right (.ok second) → op.Defined second →
      RoundsTo scope (.binary op left right) (scope.context.settle (op.exact first second))
  | divisionByZero {left right : Expr} {first : ℚ} :
      RoundsTo scope left (.ok first) → RoundsTo scope right (.ok 0) →
      RoundsTo scope (.binary .divide left right) (.error .divisionByZero)
  | negateFails {operand : Expr} {kind : EvaluationError.Kind} :
      RoundsTo scope operand (.error kind) → RoundsTo scope (.negate operand) (.error kind)
  | leftFails {op : Operator} {left right : Expr} {kind : EvaluationError.Kind} :
      RoundsTo scope left (.error kind) → RoundsTo scope (.binary op left right) (.error kind)
  | rightFails {op : Operator} {left right : Expr} {first : ℚ} {kind : EvaluationError.Kind} :
      RoundsTo scope left (.ok first) → RoundsTo scope right (.error kind) →
      RoundsTo scope (.binary op left right) (.error kind)

variable {scope : Scope} {expr : Expr} {outcome : Except EvaluationError.Kind ℚ}

theorem reports_apply {op : Operator} {left right : Finite} (defined : op.Defined right.value) :
    Reports (scope.apply op (.finite left) (.finite right))
      (scope.context.settle (op.exact left.value right.value)) := by
  obtain ⟨rfl, zero, _⟩ | ⟨_, computed⟩ := scope.apply_finite_cases op left right
  · exact absurd zero (defined rfl)
  · rw [computed]
    exact .of_yields (scope.yields_compute op left defined) rfl

theorem reports_apply_divide_zero (left : Finite) {right : Finite} (zero : right.value = 0) :
    Reports (scope.apply .divide (.finite left) (.finite right)) (.error .divisionByZero) := by
  obtain ⟨_, _, refused⟩ | ⟨defined, _⟩ := scope.apply_finite_cases .divide left right
  · rw [refused]
    exact .error
  · exact absurd zero (defined rfl)

theorem RoundsTo.reports (rounds : scope.RoundsTo expr outcome) : Reports (scope.evaluate expr) outcome := by
  induction rounds with
  | constant => exact .number
  | argument supplied standsFor =>
      rw [evaluate_argument, Scope.argument, supplied]
      exact standsFor.reports scope.context
  | negate _ ih =>
      obtain ⟨number, evaluated, rfl⟩ := ih.exists_finite
      rw [evaluate_negate, evaluated]
      exact .of_yields (scope.context.yields_negate number) rfl
  | binary _ _ defined leftIH rightIH =>
      obtain ⟨start, leftEvaluated, rfl⟩ := leftIH.exists_finite
      obtain ⟨operand, rightEvaluated, rfl⟩ := rightIH.exists_finite
      rw [evaluate_binary, leftEvaluated, rightEvaluated]
      exact reports_apply defined
  | divisionByZero _ _ leftIH rightIH =>
      obtain ⟨start, leftEvaluated, rfl⟩ := leftIH.exists_finite
      obtain ⟨operand, rightEvaluated, zero⟩ := rightIH.exists_finite
      rw [evaluate_binary, leftEvaluated, rightEvaluated]
      exact reports_apply_divide_zero start zero
  | negateFails _ ih =>
      obtain ⟨cause, evaluated, rfl⟩ := ih.exists_error
      rw [evaluate_negate, evaluated]
      exact .error
  | leftFails _ ih =>
      obtain ⟨cause, evaluated, rfl⟩ := ih.exists_error
      rw [evaluate_binary, evaluated]
      exact .error
  | rightFails _ _ leftIH rightIH =>
      obtain ⟨start, leftEvaluated, rfl⟩ := leftIH.exists_finite
      obtain ⟨cause, rightEvaluated, rfl⟩ := rightIH.exists_error
      rw [evaluate_binary, leftEvaluated, rightEvaluated]
      exact .error

/-- The arguments that an expression mentions are supplied and converted. -/
def Covers (scope : Scope) (expr : Expr) : Prop :=
  ∀ index, .argument index ∈ expr.parts →
    ∃ value, scope.arguments[index]? = some value ∧ value.Bounded ∧ value.InFormat ∧ value.Converts scope.context

theorem Covers.mono {part : Expr} (covers : scope.Covers expr) (included : ∀ other ∈ part.parts, other ∈ expr.parts) :
    scope.Covers part :=
  fun index member => covers index (included _ member)

theorem exists_roundsTo (writable : expr.Writable) (covers : scope.Covers expr) :
    ∃ outcome, scope.RoundsTo expr outcome := by
  induction writable with
  | constant => exact ⟨_, .constant⟩
  | @argument index _ =>
      obtain ⟨value, supplied, bounded, inFormat, converts⟩ := covers index (List.mem_singleton_self _)
      obtain ⟨exact, standsFor⟩ := converts.exists_standsFor bounded inFormat
      exact ⟨_, .argument supplied standsFor⟩
  | @binary op left right _ _ leftIH rightIH =>
      have leftCovers : scope.Covers left :=
        covers.mono fun _ member => Expr.mem_parts_binary.mpr (.inr (.inl member))
      have rightCovers : scope.Covers right :=
        covers.mono fun _ member => Expr.mem_parts_binary.mpr (.inr (.inr member))
      obtain ⟨first, leftRounds⟩ := leftIH leftCovers
      obtain ⟨second, rightRounds⟩ := rightIH rightCovers
      cases first with
      | error kind => exact ⟨_, .leftFails leftRounds⟩
      | ok first =>
          cases second with
          | error kind => exact ⟨_, .rightFails leftRounds rightRounds⟩
          | ok second =>
              by_cases defined : op.Defined second
              · exact ⟨_, .binary leftRounds rightRounds defined⟩
              · obtain ⟨rfl, zero⟩ := Classical.not_imp.mp defined
                rw [not_not] at zero
                exact ⟨_, .divisionByZero leftRounds (zero ▸ rightRounds)⟩
  | negate _ ih =>
      obtain ⟨value, rounds⟩ := ih (covers.mono fun _ member => Expr.mem_parts_negate.mpr (.inr member))
      cases value with
      | error kind => exact ⟨_, .negateFails rounds⟩
      | ok exact => exact ⟨_, .negate rounds⟩

/-- An engine that has evaluated nothing before evaluates what the source is parsed as. -/
theorem engine_evaluate {source : String} (accepted : Expr.parse source = .ok expr) (settings : Settings)
    (arguments : List Value) :
    ((Cache.ofCompiler .parsing).evaluate settings (.text source) arguments).1 =
      (evaluate ⟨settings.context, arguments⟩ expr).mapError .evaluation := by
  rw [Cache.parses_ofCompiler.evaluate_text, settings.evaluateAfresh_of_parse accepted]

/-- A parsed expression whose arguments are supplied has one value on rational numbers or
one failure, every operation on its way rounded once, and this is what evaluation reports,
in a context as well as in an engine of the same precision. -/
theorem parsed_evaluates_correctly_rounded {source : String} (accepted : Expr.parse source = .ok expr)
    (covers : scope.Covers expr) :
    (∃ outcome, scope.RoundsTo expr outcome) ∧
      (∀ outcome, scope.RoundsTo expr outcome ↔ Reports (scope.evaluate expr) outcome) ∧
      ∀ settings : Settings, settings.context = scope.context →
        ((Cache.ofCompiler .parsing).evaluate settings (.text source) scope.arguments).1 =
          (scope.evaluate expr).mapError .evaluation := by
  obtain ⟨value, rounds⟩ := exists_roundsTo (Expr.writable_of_parse accepted) covers
  refine ⟨⟨value, rounds⟩, fun outcome => ⟨RoundsTo.reports, fun report => ?_⟩, fun settings same => ?_⟩
  · rwa [report.unique rounds.reports]
  · rw [engine_evaluate accepted, same]

/-- A precision of one digit, and a text of three, a fraction and a binary number to compute
with. -/
def mixedScope : Scope where
  context := Settings.context ⟨1, by decide, by decide⟩
  arguments := [.text " 1.50 ", .fraction (1 / 3), .binary64 (.finite false 7205759403792794 (-56))]

theorem covers_mixedScope {expr : Expr} (indices : ∀ index, .argument index ∈ expr.parts → index < 3) :
    mixedScope.Covers expr := by
  intro index member
  match index, indices index member with
  | 0, _ =>
      have converted : (Value.text " 1.50 ").toDecimal mixedScope.context = .ok (.finite ⟨false, 150, -2⟩) := by
        decide +kernel
      exact ⟨_, rfl, trivial, trivial, Value.converts_of_ok converted⟩
  | 1, _ =>
      have converted : (Value.fraction (1 / 3)).toDecimal mixedScope.context = .ok (.finite ⟨false, 3, -1⟩) := by
        decide +kernel
      have bounded : (Value.fraction (1 / 3)).Bounded :=
        ⟨lt_ten_pow_of_le (by decide +kernel : _ < 10 ^ 1) (by decide),
          lt_ten_pow_of_le (by decide +kernel : _ < 10 ^ 1) (by decide)⟩
      exact ⟨_, rfl, bounded, trivial, Value.converts_of_ok converted⟩
  | 2, _ =>
      have converted : (Value.binary64 (.finite false 7205759403792794 (-56))).toDecimal mixedScope.context =
          .ok (.finite ⟨false, 1, -1⟩) := by
        decide +kernel
      exact ⟨_, rfl, trivial, ⟨by decide, by decide, by decide⟩, Value.converts_of_ok converted⟩

/-- The text is not rounded, but the fraction is, to 0.3. The quotient is 5, and the sum with
the binary number, which is 0.1, is rounded to 5 again. -/
theorem parsed_evaluates_in_mixedScope :
    ∃ expr, Expr.parse "x / y + z" = .ok expr ∧ mixedScope.Covers expr ∧ mixedScope.RoundsTo expr (.ok 5) := by
  have accepted : Expr.parse "x / y + z" =
      .ok (.binary .add (.binary .divide (.argument 0) (.argument 1)) (.argument 2)) := by
    decide +kernel
  have evaluated : mixedScope.evaluate (.binary .add (.binary .divide (.argument 0) (.argument 1)) (.argument 2)) =
      .ok (.finite ⟨false, 5, 0⟩) := by
    decide +kernel
  have covers : mixedScope.Covers (.binary .add (.binary .divide (.argument 0) (.argument 1)) (.argument 2)) := by
    refine covers_mixedScope fun index member => ?_
    simp only [Expr.parts, List.cons_append, List.nil_append, List.mem_cons, List.not_mem_nil, or_false, reduceCtorEq,
      false_or, Expr.argument.injEq] at member
    omega
  refine ⟨_, accepted, covers, ((parsed_evaluates_correctly_rounded accepted covers).2.1 _).mpr ?_⟩
  rw [evaluated]
  exact .of_value (by norm_num [Finite.value, Finite.signedCoefficient])

end Scope

end DecimalFormula
