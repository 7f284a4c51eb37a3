import DecimalFormula.Text.Integer

/-!
# Faults of a source text

Why a text is not an expression, and where: the position counts the characters
before it. An index of too many digits is a failure of its own, without a place.
-/

set_option autoImplicit false

namespace DecimalFormula

inductive Fault where
  | unexpectedEnd
  | unexpectedCharacter (found : Char)
  | expectedCharacter (wanted : Char)
  | nestedTooDeeply
  | unmatchedBrace
  | missingIndex
  | malformedIndex (found : List Char)
  | malformedNumber (found : List Char)
  deriving DecidableEq, Repr

def apostrophed (text : String) : String :=
  "'" ++ text ++ "'"

def Fault.detail : Fault → String
  | .unexpectedEnd => "Unexpected end of text"
  | .unexpectedCharacter found => "Unexpected character " ++ apostrophed (String.singleton found)
  | .expectedCharacter wanted => "Expected " ++ apostrophed (String.singleton wanted)
  | .nestedTooDeeply => "Expression is nested too deeply"
  | .unmatchedBrace => "Unmatched '\x7b'"
  | .missingIndex => "Missing parameter index after '\x7b'"
  | .malformedIndex found => apostrophed (String.ofList found) ++ " is not a valid parameter index"
  | .malformedNumber found => apostrophed (String.ofList found) ++ " is not a valid number"

structure ParseError where
  fault : Fault
  position : Int
  source : String
  deriving DecidableEq, Repr

def ParseError.message (error : ParseError) : String :=
  "error parsing expression " ++ apostrophed error.source ++ ". " ++ error.fault.detail ++
    " at position " ++ Text.integerText error.position

inductive SourceError where
  | malformed (error : ParseError)
  | indexTooLong (digits : Nat)
  deriving DecidableEq, Repr

def SourceError.message : SourceError → String
  | .malformed error => error.message
  | .indexTooLong digits => Text.tooManyDigitsMessage digits

end DecimalFormula
