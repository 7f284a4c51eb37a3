import DecimalFormula.Decimal.Context

/-!
# Arithmetic in a context

Each operation computes the exact result on its operands, with the exponent that
the operation prefers, and rounds it once to the context. Infinities follow the
usual limits; an undefined operand makes the result undefined, and a signalling
one stops the computation, as do operations that have no result at all.
-/

set_option autoImplicit false

namespace DecimalFormula.Decimal

inductive Condition where
  /-- No value is reasonable, as for the difference of two infinities. -/
  | invalidOperation
  /-- A nonzero number was divided by zero. -/
  | divisionByZero
  /-- The rounded result is too large for the context. -/
  | overflow
  deriving DecidableEq, Repr

namespace Finite

/-- The signed coefficient that the number has at a smaller exponent. -/
def unitsAt (exponent : Int) (number : Finite) : Int :=
  if number.coefficient = 0 then 0
  else number.signedCoefficient * powerOfTen (number.exponent - exponent).toNat

/-- The exact sum, at the smaller exponent. A zero sum is negative only if both
operands are. -/
def sum (left right : Finite) : Finite :=
  let exponent := min left.exponent right.exponent
  let total := left.unitsAt exponent + right.unitsAt exponent
  ⟨if total = 0 then left.negative && right.negative else total < 0, total.natAbs, exponent⟩

def product (left right : Finite) : Finite :=
  ⟨left.negative != right.negative, left.coefficient * right.coefficient, left.exponent + right.exponent⟩

/-- The number without some of the zeros at the end of its coefficient, at most as
many as given. -/
def withoutZeros : Nat → Finite → Finite
  | 0, number => number
  | limit + 1, number =>
      if number.coefficient % 10 = 0 then
        withoutZeros limit ⟨number.negative, number.coefficient / 10, number.exponent + 1⟩
      else
        number

/-- The quotient by a nonzero number, to more digits than the given precision. If
it ends within them it is exact, at the exponent nearest to the difference of the
exponents. Otherwise a final digit one stands for the digits that were cut off. -/
def quotient (precision : Nat) (dividend divisor : Finite) : Finite :=
  let negative := dividend.negative != divisor.negative
  let exponent := dividend.exponent - divisor.exponent
  if dividend.coefficient = 0 then
    ⟨negative, 0, exponent⟩
  else
    let places := digitCount divisor.coefficient + precision + 1 - digitCount dividend.coefficient
    let scaled := dividend.coefficient * powerOfTen places
    let whole := scaled / divisor.coefficient
    if scaled % divisor.coefficient = 0 then
      withoutZeros places ⟨negative, whole, exponent - places⟩
    else
      ⟨negative, 10 * whole + 1, exponent - places - 1⟩

end Finite

namespace Context

/-- What stands for a smaller summand. If all its digits are below the last one that
can matter, it only breaks ties, and a single unit just there does so as well. -/
def standIn (context : Context) (larger smaller : Finite) : Finite :=
  let place := larger.exponent - 1 + min 0 ((digitCount larger.coefficient : Int) - context.precision - 1)
  if larger.coefficient ≠ 0 ∧ smaller.adjusted < place then
    ⟨smaller.negative, min smaller.coefficient 1, place⟩
  else
    smaller

/-- A sum that rounds as the exact one does. -/
def roundableSum (context : Context) (left right : Finite) : Finite :=
  if right.exponent < left.exponent then left.sum (context.standIn left right)
  else (context.standIn right left).sum right

def fit (context : Context) (exact : Finite) : Except Condition Decimal :=
  match context.round? exact with
  | some number => .ok (.finite number)
  | none => .error .overflow

/-- An undefined operand as a result: its payload keeps only its last digits. -/
def passOn (context : Context) (operand : Undefined) : Except Condition Decimal :=
  if operand.signalling then
    .error .invalidOperation
  else if context.precision < digitCount operand.payload then
    .ok (.undefined { operand with payload := operand.payload % powerOfTen context.precision })
  else
    .ok (.undefined operand)

end Context

/-- The undefined operand that decides a result: a signalling one before a quiet
one, and the left before the right. -/
def decisive (left right : Undefined) : Undefined :=
  if right.signalling && !left.signalling then right else left

/-- The number with the other sign; an undefined result stays as it is. -/
def opposite : Decimal → Decimal
  | .finite number => .finite number.opposite
  | .infinite negative => .infinite !negative
  | .undefined result => .undefined result

def add (context : Context) : Decimal → Decimal → Except Condition Decimal
  | .undefined left, .undefined right => context.passOn (decisive left right)
  | .undefined left, _ => context.passOn left
  | _, .undefined right => context.passOn right
  | .infinite left, .infinite right => if left = right then .ok (.infinite left) else .error .invalidOperation
  | .infinite left, .finite _ => .ok (.infinite left)
  | .finite _, .infinite right => .ok (.infinite right)
  | .finite left, .finite right => context.fit (context.roundableSum left right)

def subtract (context : Context) (left right : Decimal) : Except Condition Decimal :=
  add context left right.opposite

def multiply (context : Context) : Decimal → Decimal → Except Condition Decimal
  | .undefined left, .undefined right => context.passOn (decisive left right)
  | .undefined left, _ => context.passOn left
  | _, .undefined right => context.passOn right
  | .infinite left, .infinite right => .ok (.infinite (left != right))
  | .infinite left, .finite right =>
      if right.isZero then .error .invalidOperation else .ok (.infinite (left != right.negative))
  | .finite left, .infinite right =>
      if left.isZero then .error .invalidOperation else .ok (.infinite (left.negative != right))
  | .finite left, .finite right => context.fit (left.product right)

def divide (context : Context) : Decimal → Decimal → Except Condition Decimal
  | .undefined left, .undefined right => context.passOn (decisive left right)
  | .undefined left, _ => context.passOn left
  | _, .undefined right => context.passOn right
  | .infinite _, .infinite _ => .error .invalidOperation
  | .infinite left, .finite right => .ok (.infinite (left != right.negative))
  | .finite left, .infinite right => .ok (.finite ⟨left.negative != right, 0, context.lastPlace⟩)
  | .finite left, .finite right =>
      if right.isZero then
        if left.isZero then .error .invalidOperation else .error .divisionByZero
      else
        context.fit (left.quotient context.precision right)

/-- The number with the other sign, rounded to the context. A zero of either sign
becomes the positive zero. -/
def negate (context : Context) : Decimal → Except Condition Decimal
  | .finite number => context.fit (if number.isZero then { number with negative := false } else number.opposite)
  | .infinite negative => .ok (.infinite !negative)
  | .undefined operand => context.passOn operand

/-- Whether a number equals zero. An undefined result does not; a signalling one
cannot be compared. -/
def equalsZero : Decimal → Except Condition Bool
  | .finite number => .ok number.isZero
  | .infinite _ => .ok false
  | .undefined operand => if operand.signalling then .error .invalidOperation else .ok false

end DecimalFormula.Decimal
