import DecimalFormula.Decimal.Basic
import DecimalFormula.Text.Integer

/-!
# Reading decimal numerals

A numeral is an optional sign, digits with an optional point, and an optional
exponent; or the name of an infinity or of an undefined result, in any case. White
space around it and all underscores are ignored, and the digits may be of any
script. The number is exact: it has the digits of the numeral as its coefficient,
whatever their count. Only exponents far outside all arithmetic are refused.
-/

set_option autoImplicit false

namespace DecimalFormula.Decimal

/-- The greatest exponent that the leading digit of any number may have. -/
def maxExponent : Int := 999999999999999999

def minExponent : Int := -1999999999999999997

/-- Whether the exponents of a number are within the bounds on all numbers. -/
def Finite.isRepresentable (number : Finite) : Bool :=
  minExponent ≤ number.exponent && number.adjusted ≤ maxExponent

/-- The value of the part of a numeral after its digits: nothing, or the letter E,
an optional sign and digits. -/
def readExponent? : List Char → Option Int
  | [] => some 0
  | letter :: rest =>
      let (negative, digits) := Text.splitSign rest
      if (letter == 'e' || letter == 'E') && digits ≠ [] && digits.all Char.isDigit then
        some (Text.signedInteger negative (Nat.ofDigitChars 10 digits 0))
      else
        none

/-- The number that digits, an optional point and an optional exponent denote. -/
def readUnsigned? (negative : Bool) (numeral : List Char) : Option Finite := do
  let whole := numeral.takeWhile Char.isDigit
  let afterWhole := numeral.dropWhile Char.isDigit
  let (fraction, afterFraction) :=
    match afterWhole with
    | '.' :: rest => (rest.takeWhile Char.isDigit, rest.dropWhile Char.isDigit)
    | rest => ([], rest)
  let exponent ← readExponent? afterFraction
  let digits := whole ++ fraction
  let number : Finite := ⟨negative, Nat.ofDigitChars 10 digits 0, exponent - fraction.length⟩
  if digits ≠ [] && number.isRepresentable then some number else none

/-- The payload of an undefined result: digits, or nothing. -/
def readPayload? (digits : List Char) : Option Nat :=
  if digits.all Char.isDigit then some (Nat.ofDigitChars 10 digits 0) else none

/-- The number that a numeral without white space and underscores denotes. -/
def readNumeral? (numeral : List Char) : Option Decimal :=
  let (negative, unsigned) := Text.splitSign numeral
  match unsigned.map Char.toLower with
  | ['i', 'n', 'f'] => some (.infinite negative)
  | ['i', 'n', 'f', 'i', 'n', 'i', 't', 'y'] => some (.infinite negative)
  | 'n' :: 'a' :: 'n' :: payload => (readPayload? payload).map fun value => .undefined ⟨negative, false, value⟩
  | 's' :: 'n' :: 'a' :: 'n' :: payload => (readPayload? payload).map fun value => .undefined ⟨negative, true, value⟩
  | _ => (readUnsigned? negative unsigned).map .finite

/-- A text as a bare numeral: without the white space around it and without
underscores, and with ASCII digits. -/
def bareNumeral (text : List Char) : List Char :=
  ((Text.strip text).filter (· ≠ '_')).map Text.asciiDigit

def ofText? (text : String) : Option Decimal :=
  readNumeral? (bareNumeral text.toList)

end DecimalFormula.Decimal
