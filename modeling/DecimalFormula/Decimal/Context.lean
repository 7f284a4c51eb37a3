import DecimalFormula.Decimal.Basic

/-!
# Rounding to a context

A context bounds the results of arithmetic: the digits of a coefficient and the
exponent of the leading digit. A result that does not fit is rounded once, to the
nearest number that fits, and to the even one of two that are equally near. Below
the least exponent of a leading digit the numbers keep a fixed last place, so that
small results lose digits and may become zero. A result that is too large has no
number to be rounded to.

The bounds are all that contexts differ in. The way to round is the same in all of them,
and so are the conditions that are failures: overflow, division by zero and operations
that are not defined. Large exponents are not clamped.
-/

set_option autoImplicit false

namespace DecimalFormula.Decimal

structure Context where
  /-- The most digits of a coefficient. -/
  precision : Nat
  /-- The least exponent of the leading digit of a number with all its digits. -/
  leastExponent : Int
  /-- The greatest exponent of a leading digit. -/
  greatestExponent : Int
  precision_pos : 0 < precision
  leastExponent_nonpos : leastExponent ≤ 0
  greatestExponent_nonneg : 0 ≤ greatestExponent
  deriving Repr

namespace Context

def standard : Context where
  precision := 28
  leastExponent := -999999
  greatestExponent := 999999
  precision_pos := by decide
  leastExponent_nonpos := by decide
  greatestExponent_nonneg := by decide

/-- The exponent of the last place that small results keep. -/
def lastPlace (context : Context) : Int :=
  context.leastExponent - (context.precision - 1)

end Context

/-- A natural number divided by a power of ten and rounded to the nearest integer,
to the even one of two that are equally near. -/
def dropDigits (number places : Nat) : Nat :=
  if digitCount number < places then
    0
  else
    let unit := powerOfTen places
    let quotient := number / unit
    let excess := 2 * (number % unit)
    if excess < unit then quotient
    else if unit < excess then quotient + 1
    else quotient + quotient % 2

namespace Context

/-- The exponent that a nonzero number has after rounding, unless rounding carries
into one digit more. -/
def roundedExponent (context : Context) (number : Finite) : Int :=
  max number.exponent (max (number.adjusted - context.precision + 1) context.lastPlace)

/-- The nearest number that fits, or none if the value is too large. The exponent
of a zero is moved to the nearest that a number may have. -/
def round? (context : Context) (number : Finite) : Option Finite :=
  if number.coefficient = 0 then
    some { number with exponent := max context.lastPlace (min number.exponent context.greatestExponent) }
  else
    let exponent := context.roundedExponent number
    let coefficient := dropDigits number.coefficient (exponent - number.exponent).toNat
    let rounded : Finite :=
      if context.precision < digitCount coefficient then ⟨number.negative, coefficient / 10, exponent + 1⟩
      else ⟨number.negative, coefficient, exponent⟩
    if rounded.coefficient ≠ 0 ∧ context.greatestExponent < rounded.adjusted then none else some rounded

end Context

end DecimalFormula.Decimal
