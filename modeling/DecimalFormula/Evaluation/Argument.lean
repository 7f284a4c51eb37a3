import DecimalFormula.Decimal.Arithmetic
import DecimalFormula.Decimal.Numeral
import DecimalFormula.Evaluation.Failure
import DecimalFormula.Value.Display

/-!
# Arguments as decimal numbers

Every kind of number and every numeral has one decimal value. It is exact, apart
from a fraction, which is a quotient rounded to the context; a binary number stands
for its shortest decimal text. Nothing counts as zero. What is not finite is refused.
-/

set_option autoImplicit false

namespace DecimalFormula

/-- A failure that shows a value, if the value can be shown. -/
def EvaluationFailure.about (value : Value) (cause : String → EvaluationError) : EvaluationFailure :=
  match value.display? with
  | some shown => .evaluation (cause shown)
  | none => .integerTooLong

namespace Value

def number (context : Decimal.Context) (value : Value) : Except EvaluationFailure Decimal :=
  let numeral (text : String) : Except EvaluationFailure Decimal :=
    match Decimal.ofText? text with
    | some number => .ok number
    | none => .error (.about value .notANumber)
  match value with
  | .nothing => .ok .zero
  | .decimal number => .ok number
  | .boolean truth => .ok (.ofInt truth.toInt)
  | .integer number => .ok (.ofInt number)
  | .binary64 number => numeral number.text
  | .fraction number =>
      match context.round? ((Decimal.Finite.ofInt number.num).quotient context.precision (.ofInt number.den)) with
      | some quotient => .ok (.finite quotient)
      | none => .error (.about value .argumentOutOfRange)
  | .text content => numeral content
  | .unwritableText codes => .error (.evaluation (.unwritableArgument (Text.readCodes codes)))
  | other => .error (.evaluation (.notConvertible other.typeName))

def toDecimal (context : Decimal.Context) (value : Value) : Except EvaluationFailure Decimal := do
  let number ← value.number context
  if number.isFinite then pure number else throw (.about value .notFinite)

end Value

end DecimalFormula
