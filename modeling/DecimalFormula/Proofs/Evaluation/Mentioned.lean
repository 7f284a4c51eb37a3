import Mathlib
import DecimalFormula.Proofs.Engine
import DecimalFormula.Proofs.Evaluation.Recursion

/-!
# The arguments that an expression mentions

Evaluation looks up an argument where the expression refers to it, and converts it then.
So the outcome, be it a value or the failure that comes first, depends on what becomes of
the arguments that are mentioned. The others may be anything, and there may be any number
of them.
-/

set_option autoImplicit false

namespace DecimalFormula

open Decimal

namespace Scope

variable {context : Context} {expr : Expr} {first second : List Value}

/-- Both vectors reach to every argument that the expression mentions, and convert it with
the same outcome. -/
def SuppliedAlike (context : Context) (expr : Expr) (first second : List Value) : Prop :=
  ∀ index, .argument index ∈ expr.parts →
    ∃ value other, first[index]? = some value ∧ second[index]? = some other ∧
      value.toDecimal context = other.toDecimal context

/-- Scopes that differ in their arguments only give the same outcome if every reference in
the expression has the same outcome. -/
theorem evaluate_congr
    (same : ∀ index, .argument index ∈ expr.parts →
      argument ⟨context, first⟩ index = argument ⟨context, second⟩ index) :
    evaluate ⟨context, first⟩ expr = evaluate ⟨context, second⟩ expr := by
  induction expr with
  | constant => rfl
  | argument index =>
      rw [evaluate_argument, evaluate_argument]
      exact same index (List.mem_singleton_self _)
  | binary op left right leftIH rightIH =>
      have leftSame := leftIH fun index member => same index (Expr.mem_parts_binary.mpr (.inr (.inl member)))
      have rightSame := rightIH fun index member => same index (Expr.mem_parts_binary.mpr (.inr (.inr member)))
      rw [evaluate_binary, evaluate_binary, leftSame, rightSame]
      rfl
  | negate operand ih =>
      have operandSame := ih fun index member => same index (Expr.mem_parts_negate.mpr (.inr member))
      rw [evaluate_negate, evaluate_negate, operandSame]
      rfl
  | foreign => rfl

theorem SuppliedAlike.evaluate_eq (alike : SuppliedAlike context expr first second) :
    evaluate ⟨context, first⟩ expr = evaluate ⟨context, second⟩ expr := by
  refine evaluate_congr fun index member => ?_
  obtain ⟨value, other, supplied, otherSupplied, converted⟩ := alike index member
  simp only [argument, supplied, otherSupplied, converted]

/-- No argument is skipped on the way to a value: each that is mentioned was converted. -/
theorem exists_argument_of_evaluate {scope : Scope} {result : Decimal} (evaluated : scope.evaluate expr = .ok result)
    {index : Nat} (member : .argument index ∈ expr.parts) : ∃ value, scope.argument index = .ok value := by
  induction expr generalizing result with
  | constant | foreign => cases List.mem_singleton.mp member
  | argument =>
      cases List.mem_singleton.mp member
      exact ⟨result, (scope.evaluate_argument index).symm.trans evaluated⟩
  | binary op left right leftIH rightIH =>
      obtain ⟨start, operand, leftValue, rightValue, _⟩ := scope.exists_of_evaluate_binary evaluated
      obtain same | inLeft | inRight := Expr.mem_parts_binary.mp member
      · cases same
      · exact leftIH leftValue inLeft
      · exact rightIH rightValue inRight
  | negate operand ih =>
      obtain ⟨value, operandValue, _⟩ := scope.exists_of_evaluate_negate evaluated
      obtain same | inOperand := Expr.mem_parts_negate.mp member
      · cases same
      · exact ih operandValue inOperand

theorem lt_length_of_argument {scope : Scope} {index : Nat} {value : Decimal}
    (supplied : scope.argument index = .ok value) : index < scope.arguments.length := by
  by_contra! beyond
  rw [argument, List.getElem?_eq_none beyond] at supplied
  cases supplied

/-- An argument that is not mentioned may be replaced by anything, convertible or not. -/
theorem evaluate_set (arguments : List Value) {index : Nat} (unmentioned : .argument index ∉ expr.parts)
    (value : Value) : evaluate ⟨context, arguments.set index value⟩ expr = evaluate ⟨context, arguments⟩ expr := by
  refine evaluate_congr fun mentioned member => ?_
  have different : index ≠ mentioned := by
    rintro rfl
    exact unmentioned member
  simp only [argument, List.getElem?_set_ne different, List.length_set]

theorem evaluate_append {arguments : List Value} {result : Decimal}
    (evaluated : evaluate ⟨context, arguments⟩ expr = .ok result) (more : List Value) :
    evaluate ⟨context, arguments ++ more⟩ expr = .ok result := by
  refine (evaluate_congr fun index member => ?_).trans evaluated
  obtain ⟨value, supplied⟩ := exists_argument_of_evaluate evaluated member
  have reached : index < arguments.length := lt_length_of_argument supplied
  simp only [argument, List.getElem?_append_left reached, List.getElem?_eq_getElem reached]

/-- A parsed source has the same outcome on any two vectors that supply alike what it
mentions, in a context as well as in an engine of the same precision. Arguments that it
does not mention do no harm, and more of them never change a value. -/
theorem evaluate_depends_on_mentioned {source : String} (accepted : Expr.parse source = .ok expr)
    (context : Context) :
    (∀ first second, SuppliedAlike context expr first second →
      evaluate ⟨context, first⟩ expr = evaluate ⟨context, second⟩ expr ∧
        ∀ settings : Settings, settings.context = context →
          settings.evaluateAfresh source first = settings.evaluateAfresh source second) ∧
      (∀ (arguments : List Value) (index : Nat) (value : Value), .argument index ∉ expr.parts →
        evaluate ⟨context, arguments.set index value⟩ expr = evaluate ⟨context, arguments⟩ expr) ∧
      ∀ (arguments more : List Value) (result : Decimal), evaluate ⟨context, arguments⟩ expr = .ok result →
        evaluate ⟨context, arguments ++ more⟩ expr = .ok result := by
  refine ⟨fun first second alike => ⟨alike.evaluate_eq, ?_⟩, ?_, ?_⟩
  · rintro settings rfl
    rw [settings.evaluateAfresh_of_parse accepted, settings.evaluateAfresh_of_parse accepted, alike.evaluate_eq]
  · intro arguments index value unmentioned
    exact evaluate_set arguments unmentioned value
  · intro arguments more result evaluated
    exact evaluate_append evaluated more

/-- Two vectors of different lengths and kinds of values, which agree on the first, second
and fourth argument. -/
def someArguments : List Value :=
  [.integer 1, .text "0", .list [], .text "abc"]

def otherArguments : List Value :=
  [.boolean true, .nothing, .text "ignored", .text "abc", .decimal (.infinite true)]

/-- Dividing by zero comes before the argument that is no number. -/
theorem evaluate_depends_on_mentioned_someArguments :
    ∃ expr, Expr.parse "x / y - {3}" = .ok expr ∧
      SuppliedAlike .standard expr someArguments otherArguments ∧
      evaluate ⟨.standard, someArguments⟩ expr = evaluate ⟨.standard, otherArguments⟩ expr ∧
      evaluate ⟨.standard, otherArguments⟩ expr = .error (.evaluation .divisionByZero) ∧
      evaluate ⟨.standard, someArguments.set 2 (.bytes [])⟩ expr = .error (.evaluation .divisionByZero) := by
  have accepted : Expr.parse "x / y - {3}" =
      .ok (.binary .subtract (.binary .divide (.argument 0) (.argument 1)) (.argument 3)) := by
    decide +kernel
  have alike : SuppliedAlike .standard
      (.binary .subtract (.binary .divide (.argument 0) (.argument 1)) (.argument 3)) someArguments otherArguments := by
    intro index member
    simp only [Expr.parts, List.cons_append, List.nil_append, List.mem_cons, List.not_mem_nil, or_false, reduceCtorEq,
      false_or, Expr.argument.injEq] at member
    obtain rfl | rfl | rfl := member
    · exact ⟨_, _, rfl, rfl, by decide +kernel⟩
    · exact ⟨_, _, rfl, rfl, by decide +kernel⟩
    · exact ⟨_, _, rfl, rfl, by decide +kernel⟩
  obtain ⟨onAlike, onUnmentioned, _⟩ := evaluate_depends_on_mentioned accepted .standard
  have same := (onAlike someArguments otherArguments alike).1
  have failed : evaluate ⟨.standard, otherArguments⟩
      (.binary .subtract (.binary .divide (.argument 0) (.argument 1)) (.argument 3)) =
        .error (.evaluation .divisionByZero) := by
    decide +kernel
  refine ⟨_, accepted, alike, same, failed, ?_⟩
  have unmentioned : Expr.argument 2 ∉
      Expr.parts (.binary .subtract (.binary .divide (.argument 0) (.argument 1)) (.argument 3)) := by
    decide
  exact (onUnmentioned someArguments 2 (.bytes []) unmentioned).trans (same.trans failed)

end Scope

end DecimalFormula
