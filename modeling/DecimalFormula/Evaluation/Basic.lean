import DecimalFormula.Evaluation.Argument

/-!
# Evaluating expressions

The value of an expression over an argument vector. Operands are evaluated from left
to right and the first failure counts. A chain of operations that leans to the left
is unwound in a loop, so that the depth of the recursion does not grow with the
length of a chain.
-/

set_option autoImplicit false

namespace DecimalFormula

/-- What an expression is evaluated in: the bounds on results and the arguments. -/
structure Scope where
  context : Decimal.Context
  arguments : List Value

namespace Scope

def argument (scope : Scope) (index : Nat) : Except EvaluationFailure Decimal :=
  match scope.arguments[index]? with
  | some value => value.toDecimal scope.context
  | none => .error (.evaluation (.indexOutOfRange index scope.arguments.length))

def compute (scope : Scope) : Operator → Decimal → Decimal → Except Decimal.Condition Decimal
  | .add => Decimal.add scope.context
  | .subtract => Decimal.subtract scope.context
  | .multiply => Decimal.multiply scope.context
  | .divide => Decimal.divide scope.context

def failure (outOfRange : EvaluationError) : Decimal.Condition → EvaluationFailure
  | .overflow => .evaluation outOfRange
  | .divisionByZero => .evaluation .divisionByZero
  | .invalidOperation => .invalidOperation

def dividesByZero (op : Operator) (right : Decimal) : Except Decimal.Condition Bool :=
  match op with
  | .divide => right.equalsZero
  | _ => .ok false

def apply (scope : Scope) (op : Operator) (left right : Decimal) : Except EvaluationFailure Decimal :=
  match dividesByZero op right with
  | .ok true => .error (.evaluation .divisionByZero)
  | .ok false => (scope.compute op left right).mapError (failure (.resultOutOfRange op left right))
  | .error condition => .error (failure (.resultOutOfRange op left right) condition)

def negate (scope : Scope) (operand : Decimal) : Except EvaluationFailure Decimal :=
  (operand.negate scope.context).mapError (failure (.negationOutOfRange operand))

/-- The value of a chain: that of the expression at its start, passed on through each
waiting step in turn. -/
def evaluateChain (scope : Scope) :
    Expr → List (Decimal → Except EvaluationFailure Decimal) → Except EvaluationFailure Decimal
  | .binary op left right, steps =>
      scope.evaluateChain left ((fun start => do
        let operand ← scope.evaluateChain right []
        scope.apply op start operand) :: steps)
  | .constant value, steps => steps.foldlM (fun start step => step start) value
  | .argument index, steps => do
      let value ← scope.argument index
      steps.foldlM (fun start step => step start) value
  | .negate operand, steps => do
      let value ← scope.evaluateChain operand []
      let negative ← scope.negate value
      steps.foldlM (fun start step => step start) negative
  | .foreign typeName, _ => .error (.foreignNode ⟨typeName⟩)

def evaluate (scope : Scope) (expr : Expr) : Except EvaluationFailure Decimal :=
  scope.evaluateChain expr []

end Scope

end DecimalFormula
