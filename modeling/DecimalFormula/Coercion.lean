import DecimalFormula.Binary64.Shortest
import DecimalFormula.Decimal.Notation
import DecimalFormula.Text.Integer

/-!
# Coercing results

A result is handed over as the kind of value that its receiver expects: the decimal
number itself, its text, the integer that truncation toward zero leaves, or the
nearest binary number.
-/

set_option autoImplicit false

namespace DecimalFormula

/-- What a receiver expects. -/
inductive Target where
  | decimal
  | text
  | integer
  | binary64
  /-- A type that no result can be coerced to, by its qualified name. -/
  | unsupported (typeName : String)
  deriving DecidableEq, Repr

inductive Coerced where
  | decimal (number : Decimal)
  | text (content : String)
  | integer (number : Int)
  | binary64 (number : Binary64)
  deriving DecidableEq, Repr

inductive CoercionFailure where
  | unsupportedTarget (typeName : String)
  | undefinedToInteger
  | infinityToInteger
  | signallingToBinary64
  deriving DecidableEq, Repr

def CoercionFailure.message : CoercionFailure → String
  | .unsupportedTarget typeName => "Unsupported target type " ++ typeName
  | .undefinedToInteger => "cannot convert NaN to integer"
  | .infinityToInteger => "cannot convert Infinity to integer"
  | .signallingToBinary64 => "cannot convert signaling NaN to float"

namespace Decimal

def Finite.truncate (number : Finite) : Int :=
  let places := (-number.exponent).toNat
  let magnitude :=
    if digitCount number.coefficient ≤ places then 0
    else number.coefficient * powerOfTen number.exponent.toNat / powerOfTen places
  Text.signedInteger number.negative magnitude

def coerce (number : Decimal) : Target → Except CoercionFailure Coerced
  | .decimal => .ok (.decimal number)
  | .text => .ok (.text number.text)
  | .integer =>
      match number with
      | .finite number => .ok (.integer number.truncate)
      | .infinite _ => .error .infinityToInteger
      | .undefined _ => .error .undefinedToInteger
  | .binary64 =>
      match Binary64.ofDecimal? number with
      | some nearest => .ok (.binary64 nearest)
      | none => .error .signallingToBinary64
  | .unsupported typeName => .error (.unsupportedTarget typeName)

end Decimal

def Coerced.display : Coerced → String
  | .decimal number => number.text
  | .text content => content
  | .integer number => Text.integerText number
  | .binary64 number => number.text

end DecimalFormula
