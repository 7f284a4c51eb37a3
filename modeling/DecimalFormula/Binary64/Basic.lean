import DecimalFormula.Decimal.Basic

/-!
# Binary floating-point numbers of 64 bits

A finite number is a sign, a significand below 2 ^ 53 and a power of two of at
least 2 ^ -1074. All numbers but the smallest have a significand of at least
2 ^ 52, so that equal numbers have equal parts. A positive rational has one nearest
number, with ties to the even significand, or is beyond the largest.
-/

set_option autoImplicit false

namespace DecimalFormula

/-- A binary number of 64 bits, an infinity or the result that is not a number. -/
inductive Binary64 where
  | finite (negative : Bool) (significand : Nat) (exponent : Int)
  | infinite (negative : Bool)
  | undefined
  deriving DecidableEq, Repr

namespace Binary64

def powerOfTwo (exponent : Nat) : Nat :=
  Nat.pow 2 exponent

def minExponent : Int := -1074

def maxExponent : Int := 971

/-- The quotient of two natural numbers rounded to the nearest integer, to the even
one of two that are equally near. -/
def roundedQuotient (dividend divisor : Nat) : Nat :=
  let quotient := dividend / divisor
  let excess := 2 * (dividend % divisor)
  if excess < divisor then quotient
  else if divisor < excess then quotient + 1
  else quotient + quotient % 2

/-- The exponent of the leading binary digit of a positive quotient. -/
def leadingExponent (dividend divisor : Nat) : Int :=
  let estimate : Int := (Nat.log2 dividend : Int) - Nat.log2 divisor
  if divisor * powerOfTwo estimate.toNat ≤ dividend * powerOfTwo (-estimate).toNat then estimate else estimate - 1

def nearestQuotient (negative : Bool) (dividend divisor : Nat) : Binary64 :=
  let exponent := max minExponent (leadingExponent dividend divisor - 52)
  let significand := roundedQuotient (dividend * powerOfTwo (-exponent).toNat) (divisor * powerOfTwo exponent.toNat)
  let carried := significand = powerOfTwo 53
  let exponent := if carried then exponent + 1 else exponent
  let significand := if carried then powerOfTwo 52 else significand
  if maxExponent < exponent then .infinite negative else .finite negative significand exponent

/-- The nearest number to a decimal one. Decimal exponents that only zero or an
infinity can be near to are settled without computing their powers. -/
def ofFinite (number : Decimal.Finite) : Binary64 :=
  if number.coefficient = 0 ∨ number.adjusted < -400 then .finite number.negative 0 minExponent
  else if 400 < number.adjusted then .infinite number.negative
  else
    nearestQuotient number.negative (number.coefficient * Decimal.powerOfTen number.exponent.toNat)
      (Decimal.powerOfTen (-number.exponent).toNat)

/-- The nearest number to a decimal one, if that is not a signalling undefined
result. -/
def ofDecimal? : Decimal → Option Binary64
  | .finite number => some (ofFinite number)
  | .infinite negative => some (.infinite negative)
  | .undefined result => if result.signalling then none else some .undefined

end Binary64

end DecimalFormula
