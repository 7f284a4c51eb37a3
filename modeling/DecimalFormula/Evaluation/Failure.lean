import DecimalFormula.Decimal.Notation
import DecimalFormula.Expr.Basic
import DecimalFormula.Expr.Fault

/-!
# Failures of evaluation

An evaluation error is the fault of the arguments or of the bounds on results. The
other failures come from trees and numbers that no source text yields: foreign nodes
and constants that are not finite.
-/

set_option autoImplicit false

namespace DecimalFormula

inductive EvaluationError where
  | indexOutOfRange (index supplied : Nat)
  | divisionByZero
  | resultOutOfRange (op : Operator) (left right : Decimal)
  | negationOutOfRange (operand : Decimal)
  | notConvertible (typeName : String)
  | notANumber (argument : String)
  | argumentOutOfRange (argument : String)
  | notFinite (argument : String)
  /-- An argument is a text that cannot be written; what it is read as. -/
  | unwritableArgument (argument : String)
  deriving DecidableEq, Repr

namespace EvaluationError

inductive Kind where
  | indexOutOfRange
  | divisionByZero
  | overflow
  | invalidArgument
  deriving DecidableEq, Repr

def kind : EvaluationError → Kind
  | .indexOutOfRange .. => .indexOutOfRange
  | .divisionByZero => .divisionByZero
  | .resultOutOfRange .. => .overflow
  | .negationOutOfRange _ => .overflow
  | .argumentOutOfRange _ => .overflow
  | .notConvertible _ => .invalidArgument
  | .notANumber _ => .invalidArgument
  | .notFinite _ => .invalidArgument
  | .unwritableArgument _ => .invalidArgument

def message : EvaluationError → String
  | .indexOutOfRange index supplied =>
      "parameter index " ++ Text.naturalText index ++ " is out of range. " ++
        Text.naturalText supplied ++ " parameter(s) supplied"
  | .divisionByZero => "Division by zero"
  | .resultOutOfRange op left right =>
      "Result of " ++ left.text ++ " " ++ op.symbol ++ " " ++ right.text ++ " is out of range"
  | .negationOutOfRange operand => "Result of -" ++ operand.text ++ " is out of range"
  | .notConvertible typeName => "Cannot convert " ++ typeName ++ " to a number"
  | .notANumber argument | .unwritableArgument argument => apostrophed argument ++ " is not a valid number"
  | .argumentOutOfRange argument => apostrophed argument ++ " is out of range"
  | .notFinite argument => apostrophed argument ++ " is not a finite number"

end EvaluationError

/-- Why evaluating a tree yields no number. -/
inductive EvaluationFailure where
  | evaluation (cause : EvaluationError)
  | foreignNode (node : ForeignNode)
  /-- Arithmetic on numbers that are not finite has no result. -/
  | invalidOperation
  /-- A message would show an integer beyond the limit on digits. -/
  | integerTooLong
  deriving DecidableEq, Repr

/-- The complaint about writing an integer beyond the limit on digits. -/
def integerTooLongMessage : String :=
  "Exceeds the limit (" ++ Text.naturalText Text.maxIntegerDigits ++
    " digits) for integer string conversion; use sys.set_int_max_str_digits() to increase the limit"

def EvaluationFailure.message : EvaluationFailure → String
  | .evaluation cause => cause.message
  | .foreignNode node => node.message
  | .invalidOperation => "[<class 'decimal.InvalidOperation'>]"
  | .integerTooLong => integerTooLongMessage

end DecimalFormula
