import Mathlib
import DecimalFormula.Proofs.Decimal.Arithmetic
import DecimalFormula.Proofs.Evaluation.Recursion
import DecimalFormula.Proofs.Expr.Completeness

/-!
# Evaluation of what was parsed

A source text writes finite constants only, and an argument that is not finite is refused
when it is converted. So all operands are finite, wherever their exponents are, and an
operation on them ends in a finite number or overflows: it divides by zero only where that
is noticed before, and nothing it is asked for is undefined. The value of the whole is a
finite number or an evaluation error.
-/

set_option autoImplicit false

namespace DecimalFormula

open Decimal

/-- A finite number or an evaluation error. -/
inductive Settled : Except EvaluationFailure Decimal → Prop where
  | number {number : Finite} : Settled (.ok (.finite number))
  | error {cause : EvaluationError} : Settled (.error (.evaluation cause))

/-- A finite number or an overflow. -/
inductive Decimal.OverflowsAtWorst : Except Condition Decimal → Prop where
  | number {number : Finite} : OverflowsAtWorst (.ok (.finite number))
  | overflow : OverflowsAtWorst (.error .overflow)

theorem Decimal.Context.Yields.overflowsAtWorst {context : Context} {exact : ℚ} {result : Except Condition Decimal}
    (yields : context.Yields exact result) : OverflowsAtWorst result := by
  cases yields with
  | number => exact .number
  | overflow => exact .overflow

/-!
## Arguments
-/

namespace Value

/-- A fraction whose parts are within the limit on digits, or a value of another kind. -/
def Bounded : Value → Prop
  | .fraction number => number.num.natAbs < 10 ^ 4300 ∧ number.den < 10 ^ 4300
  | _ => True

variable {value : Value}

theorem boundedIntegerText?_eq {number : Int} (bound : number.natAbs < 10 ^ 4300) :
    Text.boundedIntegerText? number = some (Text.integerText number) :=
  if_pos (Expr.length_toDigits_le (by decide) bound)

theorem exists_fractionDisplay {number : Rat} (bounded : (fraction number).Bounded) :
    ∃ shown, fractionDisplay? number = some shown := by
  obtain ⟨numerator, denominator⟩ := bounded
  rw [fractionDisplay?, boundedIntegerText?_eq numerator, Option.bind_eq_bind, Option.bind_some]
  split
  · exact ⟨_, rfl⟩
  · have small : (number.den : Int).natAbs < 10 ^ 4300 := by rwa [Int.natAbs_natCast]
    rw [boundedIntegerText?_eq small]
    exact ⟨_, rfl⟩

theorem about_eq {shown : String} (displayed : value.display? = some shown) (cause : String → EvaluationError) :
    EvaluationFailure.about value cause = .evaluation (cause shown) := by
  rw [EvaluationFailure.about, displayed]

theorem settled_toDecimal_of_displayed {context : Context} {shown : String} (displayed : value.display? = some shown)
    (refused : ∀ failure, value.number context = .error failure → ∃ error, failure = .evaluation error) :
    Settled (value.toDecimal context) := by
  rw [toDecimal]
  cases converted : value.number context with
  | error failure =>
      obtain ⟨error, rfl⟩ := refused failure converted
      exact .error
  | ok number =>
      have about := about_eq displayed .notFinite
      cases number with
      | finite number => exact .number
      | infinite | undefined =>
          change Settled (.error (EvaluationFailure.about value .notFinite))
          rw [about]
          exact .error

theorem number_binary64 (context : Context) (number : Binary64) :
    (binary64 number).number context =
      (ofText? number.text).elim (.error (.about (binary64 number) .notANumber)) .ok := by
  simp only [Value.number]
  cases ofText? number.text <;> rfl

theorem number_text (context : Context) (content : String) :
    (text content).number context = (ofText? content).elim (.error (.about (text content) .notANumber)) .ok := by
  simp only [Value.number]
  cases ofText? content <;> rfl

theorem refused_numeral {shown : String} {read : Option Decimal} (displayed : value.display? = some shown)
    {failure : EvaluationFailure}
    (refused : read.elim (.error (EvaluationFailure.about value .notANumber)) Except.ok = .error failure) :
    ∃ error, failure = .evaluation error := by
  cases read with
  | some number => cases refused
  | none =>
      rw [Option.elim_none, about_eq displayed .notANumber] at refused
      cases refused
      exact ⟨_, rfl⟩

theorem settled_toDecimal (context : Context) (bounded : value.Bounded) : Settled (value.toDecimal context) := by
  cases value with
  | nothing | boolean | integer => exact .number
  | decimal number => exact settled_toDecimal_of_displayed rfl fun failure refused => nomatch refused
  | binary64 number =>
      refine settled_toDecimal_of_displayed rfl fun failure refused => ?_
      rw [number_binary64] at refused
      exact refused_numeral rfl refused
  | text content =>
      refine settled_toDecimal_of_displayed rfl fun failure refused => ?_
      rw [number_text] at refused
      exact refused_numeral rfl refused
  | fraction number =>
      obtain ⟨shown, displayed⟩ : ∃ shown, (fraction number).display? = some shown := exists_fractionDisplay bounded
      refine settled_toDecimal_of_displayed displayed fun failure refused => ?_
      simp only [Value.number, about_eq displayed .argumentOutOfRange] at refused
      split at refused
      · cases refused
      · cases refused
        exact ⟨_, rfl⟩
  | unwritableText | bytes | tuple | list | mapping | foreign => exact .error

end Value

/-!
## Steps
-/

/-- The operation on rational numbers. -/
def Operator.exact : Operator → ℚ → ℚ → ℚ
  | .add => (· + ·)
  | .subtract => (· - ·)
  | .multiply => (· * ·)
  | .divide => (· / ·)

/-- An operation that has a result on rational numbers: none but a division by zero. -/
def Operator.Defined (op : Operator) (right : ℚ) : Prop :=
  op = .divide → right ≠ 0

namespace Scope

variable (scope : Scope)

theorem settled_of_yields {exact : ℚ} {result : Except Condition Decimal} (yields : scope.context.Yields exact result)
    (outOfRange : EvaluationError) : Settled (result.mapError (failure outOfRange)) := by
  cases yields with
  | number => exact .number
  | overflow => exact .error

theorem yields_compute (op : Operator) (left : Finite) {right : Finite} (defined : op.Defined right.value) :
    scope.context.Yields (op.exact left.value right.value) (scope.compute op (.finite left) (.finite right)) := by
  cases op with
  | add => exact scope.context.yields_add left right
  | subtract => exact scope.context.yields_subtract left right
  | multiply => exact scope.context.yields_multiply left right
  | divide => exact scope.context.yields_divide left right (defined rfl)

theorem dividesByZero_finite (op : Operator) (right : Finite) :
    (dividesByZero op (.finite right) = .ok true ∧ op = .divide ∧ right.value = 0) ∨
      (dividesByZero op (.finite right) = .ok false ∧ op.Defined right.value) := by
  cases op with
  | divide =>
      by_cases zero : right.value = 0
      · exact .inl ⟨congrArg Except.ok ((Finite.isZero_iff right).mpr zero), rfl, zero⟩
      · exact .inr ⟨congrArg Except.ok ((Finite.isZero_eq_false_iff right).mpr zero), fun _ => zero⟩
  | add | subtract | multiply => exact .inr ⟨rfl, fun division => nomatch division⟩

/-- All that an operation on finite operands can do: refuse to divide by zero, or round
the exact result. -/
theorem apply_finite_cases (op : Operator) (left right : Finite) :
    (op = .divide ∧ right.value = 0 ∧
      scope.apply op (.finite left) (.finite right) = .error (.evaluation .divisionByZero)) ∨
    (op.Defined right.value ∧
      scope.apply op (.finite left) (.finite right) =
        (scope.compute op (.finite left) (.finite right)).mapError
          (failure (.resultOutOfRange op (.finite left) (.finite right)))) := by
  rw [apply]
  obtain ⟨noticed, division, zero⟩ | ⟨passed, defined⟩ := dividesByZero_finite op right
  · rw [noticed]
    exact .inl ⟨division, zero, rfl⟩
  · rw [passed]
    exact .inr ⟨defined, rfl⟩

theorem settled_apply (op : Operator) (left right : Finite) :
    Settled (scope.apply op (.finite left) (.finite right)) := by
  obtain ⟨_, _, refused⟩ | ⟨defined, computed⟩ := scope.apply_finite_cases op left right
  · rw [refused]
    exact .error
  · rw [computed]
    exact scope.settled_of_yields (scope.yields_compute op left defined) _

theorem settled_negate (operand : Finite) : Settled (scope.negate (.finite operand)) :=
  scope.settled_of_yields (scope.context.yields_negate operand) _

theorem settled_argument {index : Nat} (bounded : (Expr.argument index).MentionsOnly Value.Bounded scope.arguments) :
    Settled (scope.argument index) := by
  rw [argument]
  cases found : scope.arguments[index]? with
  | none => exact .error
  | some value => exact Value.settled_toDecimal _ (bounded index value (List.mem_singleton_self _) found)

/-!
## Whole expressions
-/

theorem settled_of_mentions {expr : Expr} (writable : expr.Writable)
    (bounded : expr.MentionsOnly Value.Bounded scope.arguments) : Settled (scope.evaluate expr) := by
  induction writable with
  | constant => exact .number
  | argument =>
      rw [evaluate_argument]
      exact scope.settled_argument bounded
  | @binary op left right _ _ leftIH rightIH =>
      obtain ⟨leftBounded, rightBounded⟩ := bounded.of_binary
      specialize leftIH leftBounded
      specialize rightIH rightBounded
      rw [evaluate_binary]
      generalize scope.evaluate left = start at leftIH ⊢
      generalize scope.evaluate right = operand at rightIH ⊢
      cases leftIH with
      | error => exact .error
      | number =>
          cases rightIH with
          | error => exact .error
          | number => exact scope.settled_apply op _ _
  | negate _ ih =>
      specialize ih bounded.of_negate
      rw [evaluate_negate]
      generalize scope.evaluate _ = value at ih ⊢
      cases ih with
      | error => exact .error
      | number => exact scope.settled_negate _

theorem settled_evaluate {expr : Expr} (writable : expr.Writable)
    (bounded : ∀ value ∈ scope.arguments, value.Bounded) : Settled (scope.evaluate expr) :=
  scope.settled_of_mentions writable (Expr.mentionsOnly_of_forall bounded expr)

end Scope

theorem Expr.writable_of_parse {source : String} {expr : Expr} (accepted : parse source = .ok expr) : expr.Writable :=
  writable_of_writes ((parse_eq_ok_iff_writes source expr).mp accepted)

theorem Expr.Writable.of_mem_parts {expr part : Expr} (writable : expr.Writable) (member : part ∈ expr.parts) :
    part.Writable := by
  induction writable with
  | constant unsigned places representable =>
      rw [List.mem_singleton.mp member]
      exact .constant unsigned places representable
  | argument bound =>
      rw [List.mem_singleton.mp member]
      exact .argument bound
  | binary left right leftIH rightIH =>
      obtain rfl | inLeft | inRight := mem_parts_binary.mp member
      · exact .binary left right
      · exact leftIH inLeft
      · exact rightIH inRight
  | negate operand ih =>
      obtain rfl | inOperand := mem_parts_negate.mp member
      · exact .negate operand
      · exact ih inOperand

namespace Scope

theorem compute_overflowsAtWorst {scope : Scope} {expr left right : Expr} {op : Operator} (writable : expr.Writable)
    (bounded : ∀ value ∈ scope.arguments, value.Bounded) (member : .binary op left right ∈ expr.parts)
    {start operand : Decimal} (leftValue : scope.evaluate left = .ok start)
    (rightValue : scope.evaluate right = .ok operand) :
    dividesByZero op operand = .ok true ∨
      (dividesByZero op operand = .ok false ∧ OverflowsAtWorst (scope.compute op start operand)) := by
  cases writable.of_mem_parts member with
  | binary leftWritable rightWritable =>
      have leftSettled := scope.settled_evaluate leftWritable bounded
      have rightSettled := scope.settled_evaluate rightWritable bounded
      rw [leftValue] at leftSettled
      rw [rightValue] at rightSettled
      cases leftSettled
      cases rightSettled
      obtain ⟨noticed, _⟩ | ⟨passed, defined⟩ := dividesByZero_finite op _
      · exact .inl noticed
      · exact .inr ⟨passed, (scope.yields_compute op _ defined).overflowsAtWorst⟩

theorem negate_overflowsAtWorst {scope : Scope} {expr operand : Expr} (writable : expr.Writable)
    (bounded : ∀ value ∈ scope.arguments, value.Bounded) (member : .negate operand ∈ expr.parts) {value : Decimal}
    (operandValue : scope.evaluate operand = .ok value) : OverflowsAtWorst (value.negate scope.context) := by
  cases writable.of_mem_parts member with
  | negate operandWritable =>
      have settled := scope.settled_evaluate operandWritable bounded
      rw [operandValue] at settled
      cases settled
      exact (scope.context.yields_negate _).overflowsAtWorst

/-- Every part of a parsed expression has a finite value or an evaluation error. The
arithmetic on them overflows at worst: it never divides by zero and is never undefined. -/
theorem parsed_evaluates_to_finite_or_error {scope : Scope} {source : String} {expr : Expr}
    (accepted : Expr.parse source = .ok expr) (bounded : ∀ value ∈ scope.arguments, value.Bounded) :
    Settled (scope.evaluate expr) ∧
      (∀ part ∈ expr.parts, Settled (scope.evaluate part)) ∧
      (∀ op left right start operand, .binary op left right ∈ expr.parts → scope.evaluate left = .ok start →
        scope.evaluate right = .ok operand →
        dividesByZero op operand = .ok true ∨
          (dividesByZero op operand = .ok false ∧ OverflowsAtWorst (scope.compute op start operand))) ∧
      (∀ operand value, .negate operand ∈ expr.parts → scope.evaluate operand = .ok value →
        OverflowsAtWorst (value.negate scope.context)) := by
  have writable := Expr.writable_of_parse accepted
  refine ⟨scope.settled_evaluate writable bounded, ?_, ?_, ?_⟩
  · intro part member
    exact scope.settled_evaluate (writable.of_mem_parts member) bounded
  · intro op left right start operand member leftValue rightValue
    exact compute_overflowsAtWorst writable bounded member leftValue rightValue
  · intro operand value member operandValue
    exact negate_overflowsAtWorst writable bounded member operandValue

/-- A rounded fraction, a number with a very small exponent and an infinity. -/
def farArguments : List Value :=
  [.fraction (1 / 3), .text "1e-999999", .decimal (.infinite true)]

/-- The quotient is a number with a very large exponent, and the infinity is refused before
it is computed with. -/
theorem parsed_evaluates_with_farArguments :
    ∃ expr, Expr.parse "x / y - -z" = .ok expr ∧ (∀ value ∈ farArguments, value.Bounded) ∧
      (∀ part ∈ expr.parts, Settled (evaluate ⟨.standard, farArguments⟩ part)) ∧
      evaluate ⟨.standard, farArguments⟩ expr = .error (.evaluation (.notFinite "-Infinity")) := by
  have accepted : Expr.parse "x / y - -z" =
      .ok (.binary .subtract (.binary .divide (.argument 0) (.argument 1)) (.negate (.argument 2))) := by
    decide +kernel
  have bounded : ∀ value ∈ farArguments, value.Bounded := by
    intro value member
    simp only [farArguments, List.mem_cons, List.not_mem_nil, or_false] at member
    obtain rfl | rfl | rfl := member
    · exact ⟨lt_ten_pow_of_le (by decide +kernel : _ < 10 ^ 1) (by decide),
        lt_ten_pow_of_le (by decide +kernel : _ < 10 ^ 1) (by decide)⟩
    · trivial
    · trivial
  have settled := @parsed_evaluates_to_finite_or_error ⟨.standard, farArguments⟩ _ _ accepted bounded
  exact ⟨_, accepted, bounded, settled.2.1, by decide +kernel⟩

end Scope

end DecimalFormula
