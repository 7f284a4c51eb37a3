import DecimalFormula.Expr.Basic

/-!
# Printing expressions

The text of an expression has parentheses around every binary operation, writes
every reference in braces and no constant with an exponent. A chain of operations
that leans to the left is unwound in a loop, so that the depth of the recursion does
not grow with the length of a chain.
-/

set_option autoImplicit false

namespace DecimalFormula.Expr

/-- The text of a chain: that of the expression at its start, wrapped by each
waiting step in turn. -/
def printChain : Expr → List (String → Except ForeignNode String) → Except ForeignNode String
  | .binary op left right, steps =>
      printChain left ((fun start => do
        let operand ← printChain right []
        pure ("(" ++ start ++ " " ++ op.symbol ++ " " ++ operand ++ ")")) :: steps)
  | .constant value, steps => steps.foldlM (fun start step => step start) value.plainText
  | .argument index, steps => steps.foldlM (fun start step => step start) (bracedIndex index)
  | .negate operand, steps => do
      let text ← printChain operand []
      steps.foldlM (fun start step => step start) ("-" ++ text)
  | .foreign typeName, _ => .error ⟨typeName⟩

/-- The fully parenthesised text of an expression. -/
def print (expr : Expr) : Except ForeignNode String :=
  printChain expr []

end DecimalFormula.Expr
