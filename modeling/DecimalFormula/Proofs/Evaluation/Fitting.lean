import Mathlib
import DecimalFormula.Proofs.Decimal.Fitting
import DecimalFormula.Proofs.Evaluation.Rounded
import DecimalFormula.Proofs.Expr.Enclosed

/-!
# Results that fit the context

The result of an operation fits the context that it was computed in, whatever its operands
are: these may have more digits and any exponent. Where an expression has no operation,
nothing is rounded. Its value is the literal with all its digits, or what the argument is
converted to.
-/

set_option autoImplicit false

namespace DecimalFormula

open Decimal

namespace Value

variable {context : Context} {value : Value} {result : Decimal}

end Value

namespace Scope

variable (scope : Scope)

/-!
## Operations
-/

end Scope

end DecimalFormula
