/-!
# Decimal numbers

A number with a sign, a coefficient and a power of ten. The three parts are kept
as they are: `1.50` and `1.5` are different numbers of equal value, and zero has a
sign and an exponent. Beside the finite numbers stand the two infinities and the
results that are not numbers, which carry a sign and a payload.
-/

set_option autoImplicit false

namespace DecimalFormula

namespace Decimal

/-- The number `±coefficient · 10 ^ exponent`. -/
structure Finite where
  negative : Bool
  coefficient : Nat
  exponent : Int
  deriving DecidableEq, Repr

/-- What stands for an undefined result. A signalling one refuses to be computed
with; the payload says where it came from. -/
structure Undefined where
  negative : Bool
  signalling : Bool
  payload : Nat
  deriving DecidableEq, Repr

end Decimal

inductive Decimal where
  | finite (number : Decimal.Finite)
  | infinite (negative : Bool)
  | undefined (result : Decimal.Undefined)
  deriving DecidableEq, Repr

namespace Decimal

/-- How many digits a natural number has in decimal; zero has one. -/
def digitCount (number : Nat) : Nat :=
  (Nat.toDigits 10 number).length

def powerOfTen (exponent : Nat) : Nat :=
  Nat.pow 10 exponent

theorem digitCount_pos (number : Nat) : 0 < digitCount number :=
  Nat.length_toDigits_pos

theorem digitCount_le_iff {number digits : Nat} (some_digit : 0 < digits) :
    digitCount number ≤ digits ↔ number < powerOfTen digits :=
  Nat.length_toDigits_le_iff (by decide) some_digit

namespace Finite

/-- The exponent of the leading digit; of a zero, that of its one digit. -/
def adjusted (number : Finite) : Int :=
  number.exponent + digitCount number.coefficient - 1

def signedCoefficient (number : Finite) : Int :=
  if number.negative then -(number.coefficient : Int) else number.coefficient

def ofInt (value : Int) : Finite :=
  ⟨value < 0, value.natAbs, 0⟩

/-- Whether the value is zero, of either sign and with any exponent. -/
def isZero (number : Finite) : Bool :=
  number.coefficient == 0

def opposite (number : Finite) : Finite :=
  { number with negative := !number.negative }

end Finite

def ofInt (value : Int) : Decimal :=
  .finite (.ofInt value)

def zero : Decimal :=
  ofInt 0

def isFinite : Decimal → Bool
  | .finite _ => true
  | _ => false

end Decimal

end DecimalFormula
