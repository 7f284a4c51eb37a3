import DecimalFormula.Coercion
import DecimalFormula.Engine

/-!
# Converters

A converter stands between bound values and the receiver of a result: it evaluates
its parameter, an expression over the values, and coerces the result. Failures do
not reach the receiver. It gets nothing, and the failure is logged.
-/

set_option autoImplicit false

namespace DecimalFormula

/-- A converter: the settings it evaluates under and its cache. -/
structure Converter where
  settings : Settings
  cache : Cache

/-- What one conversion leads to: a result, or nothing, and the warnings logged. -/
structure Conversion where
  result : Option Coerced
  warnings : List String
  deriving DecidableEq, Repr

inductive ConversionFailure where
  /-- The parameter holds an integer beyond the limit on digits. -/
  | parameterTooLong
  | engine (cause : EngineFailure)
  | coercion (cause : CoercionFailure)
  deriving DecidableEq, Repr

def ConversionFailure.message : ConversionFailure → String
  | .parameterTooLong => integerTooLongMessage
  | .engine cause => cause.message
  | .coercion cause => cause.message

def ConversionFailure.warning (failure : ConversionFailure) : String :=
  "WARNING mathexpr.converter: MathConverter: " ++ failure.message

namespace Converter

def ofSettings (settings : Settings) : Converter :=
  ⟨settings, .ofCompiler .parsing⟩

/-- The source text that a parameter stands for: what it is read as if it is a text, or
else its display. -/
def sourceText (parameter : Value) : Except ConversionFailure String :=
  match parameter.content?.or parameter.display? with
  | some source => .ok source
  | none => .error .parameterTooLong

/-- The result of the parameter over some values, with the cache as it is afterwards. -/
def attempt (converter : Converter) (values : List Value) (target : Target) (parameter : Value) :
    Except ConversionFailure Coerced × Cache :=
  match sourceText parameter with
  | .error failure => (.error failure, converter.cache)
  | .ok source =>
      let (result, cache) := converter.cache.evaluate converter.settings (.text source) values
      match result with
      | .ok number => ((number.coerce target).mapError .coercion, cache)
      | .error failure => (.error (.engine failure), cache)

def convertMany (converter : Converter) (values : List Value) (target : Target) (parameter : Value) :
    Conversion × Converter :=
  let (result, cache) := converter.attempt values target parameter
  let conversion : Conversion :=
    match result with
    | .ok coerced => ⟨some coerced, []⟩
    | .error failure => ⟨none, [failure.warning]⟩
  (conversion, { converter with cache })

def convert (converter : Converter) (value : Value) (target : Target) (parameter : Value) :
    Conversion × Converter :=
  converter.convertMany [value] target parameter

inductive Request where
  | convert (value : Value) (target : Target) (parameter : Value)
  | convertMany (values : List Value) (target : Target) (parameter : Value)
  | convertBack

inductive Answer where
  | converted (conversion : Conversion)
  | cannotConvertBack
  deriving DecidableEq, Repr

/-- The complaint of a converter that is asked to convert a result back. -/
def convertBackMessage : String :=
  "MathConverter does not support converting back"

def answer (converter : Converter) : Request → Answer × Converter
  | .convert value target parameter =>
      let (conversion, converter) := converter.convert value target parameter
      (.converted conversion, converter)
  | .convertMany values target parameter =>
      let (conversion, converter) := converter.convertMany values target parameter
      (.converted conversion, converter)
  | .convertBack => (.cannotConvertBack, converter)

def run (converter : Converter) : List Request → List Answer × Converter
  | [] => ([], converter)
  | request :: requests =>
      let (answer, converter) := converter.answer request
      let (answers, converter) := converter.run requests
      (answer :: answers, converter)

end Converter

end DecimalFormula
