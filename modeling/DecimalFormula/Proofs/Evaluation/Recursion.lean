import Mathlib
import DecimalFormula.Evaluation.Basic
import DecimalFormula.Proofs.Expr.Printing

/-!
# Chains and plain recursion

A chain of operations is unwound in a loop when it is evaluated and when it is printed.
Both give what plain recursion on the tree gives: the operands from left to right and
then the operation, with the first failure of all. No tree is excepted, whatever
constants and foreign things are in it.
-/

set_option autoImplicit false

namespace DecimalFormula

/-- The expressions that an expression consists of: itself and the parts of its
operands. -/
def Expr.parts : Expr → List Expr
  | .binary op left right => .binary op left right :: (left.parts ++ right.parts)
  | .negate operand => .negate operand :: operand.parts
  | expr => [expr]

namespace Expr

theorem mem_parts_binary {part left right : Expr} {op : Operator} :
    part ∈ (binary op left right).parts ↔ part = binary op left right ∨ part ∈ left.parts ∨ part ∈ right.parts := by
  rw [parts, List.mem_cons, List.mem_append]

theorem mem_parts_negate {part operand : Expr} :
    part ∈ (negate operand).parts ↔ part = negate operand ∨ part ∈ operand.parts := by
  rw [parts, List.mem_cons]

/-- Every argument that an expression mentions has a property, as far as it is supplied. -/
def MentionsOnly (property : Value → Prop) (arguments : List Value) (expr : Expr) : Prop :=
  ∀ index value, .argument index ∈ expr.parts → arguments[index]? = some value → property value

variable {property : Value → Prop} {arguments : List Value}

theorem mentionsOnly_of_forall (all : ∀ value ∈ arguments, property value) (expr : Expr) :
    expr.MentionsOnly property arguments :=
  fun _ value _ supplied => all value (List.mem_of_getElem? supplied)

theorem MentionsOnly.imp {other : Value → Prop} {expr : Expr} (mentions : expr.MentionsOnly property arguments)
    (weaker : ∀ value, property value → other value) : expr.MentionsOnly other arguments :=
  fun index value member supplied => weaker value (mentions index value member supplied)

theorem MentionsOnly.of_binary {left right : Expr} {op : Operator}
    (mentions : (binary op left right).MentionsOnly property arguments) :
    left.MentionsOnly property arguments ∧ right.MentionsOnly property arguments :=
  ⟨fun index value member => mentions index value (mem_parts_binary.mpr (.inr (.inl member))),
    fun index value member => mentions index value (mem_parts_binary.mpr (.inr (.inr member)))⟩

theorem MentionsOnly.of_negate {operand : Expr} (mentions : (negate operand).MentionsOnly property arguments) :
    operand.MentionsOnly property arguments :=
  fun index value member => mentions index value (mem_parts_negate.mpr (.inr member))

end Expr

theorem exists_of_bind_ok {α β ε : Type} {computation : Except ε α} {next : α → Except ε β} {result : β}
    (finished : computation >>= next = .ok result) : ∃ value, computation = .ok value ∧ next value = .ok result := by
  cases computation with
  | error failure => cases finished
  | ok value => exact ⟨value, rfl, finished⟩

namespace Scope

/-- The value of an expression by recursion on the tree: that of the left operand, that
of the right operand, and then that of the operation. -/
def valueByRecursion (scope : Scope) : Expr → Except EvaluationFailure Decimal
  | .constant value => .ok value
  | .argument index => scope.argument index
  | .binary op left right => do
      let start ← scope.valueByRecursion left
      let operand ← scope.valueByRecursion right
      scope.apply op start operand
  | .negate operand => do
      let value ← scope.valueByRecursion operand
      scope.negate value
  | .foreign typeName => .error (.foreignNode ⟨typeName⟩)

variable (scope : Scope)

/-- The loop passes the value of the expression on through the waiting steps: each turn
makes the start of the chain smaller and adds one step. -/
theorem evaluateChain_eq (expr : Expr) (steps : List (Decimal → Except EvaluationFailure Decimal)) :
    scope.evaluateChain expr steps = scope.valueByRecursion expr >>= steps.foldlM fun start step => step start := by
  induction expr generalizing steps with
  | constant value => rfl
  | argument index => rfl
  | binary op left right leftIH rightIH =>
      have operand : scope.evaluateChain right [] = scope.valueByRecursion right := (rightIH []).trans (bind_pure _)
      rw [evaluateChain, leftIH, valueByRecursion, operand]
      simp only [List.foldlM_cons, bind_assoc]
  | negate operand ih =>
      have operandValue : scope.evaluateChain operand [] = scope.valueByRecursion operand := (ih []).trans (bind_pure _)
      rw [evaluateChain, operandValue, valueByRecursion]
      simp only [bind_assoc]
  | foreign typeName => rfl

theorem evaluate_eq_valueByRecursion (expr : Expr) : scope.evaluate expr = scope.valueByRecursion expr := by
  rw [evaluate, evaluateChain_eq]
  exact bind_pure _

/-!
## Equations for the kinds of expressions
-/

theorem evaluate_argument (index : Nat) : scope.evaluate (.argument index) = scope.argument index :=
  scope.evaluate_eq_valueByRecursion _

theorem evaluate_binary (op : Operator) (left right : Expr) :
    scope.evaluate (.binary op left right) =
      scope.evaluate left >>= fun start => scope.evaluate right >>= fun operand => scope.apply op start operand := by
  simp only [evaluate_eq_valueByRecursion, valueByRecursion]

theorem evaluate_negate (operand : Expr) :
    scope.evaluate (.negate operand) = scope.evaluate operand >>= scope.negate := by
  simp only [evaluate_eq_valueByRecursion, valueByRecursion]

/-- An operation has a value only if both operands have. -/
theorem exists_of_evaluate_binary {op : Operator} {left right : Expr} {result : Decimal}
    (evaluated : scope.evaluate (.binary op left right) = .ok result) :
    ∃ start operand, scope.evaluate left = .ok start ∧ scope.evaluate right = .ok operand ∧
      scope.apply op start operand = .ok result := by
  rw [evaluate_binary] at evaluated
  obtain ⟨start, leftValue, continued⟩ := exists_of_bind_ok evaluated
  obtain ⟨operand, rightValue, applied⟩ := exists_of_bind_ok continued
  exact ⟨start, operand, leftValue, rightValue, applied⟩

theorem exists_of_evaluate_negate {operand : Expr} {result : Decimal}
    (evaluated : scope.evaluate (.negate operand) = .ok result) :
    ∃ value, scope.evaluate operand = .ok value ∧ scope.negate value = .ok result := by
  rw [evaluate_negate] at evaluated
  exact exists_of_bind_ok evaluated

end Scope

end DecimalFormula
