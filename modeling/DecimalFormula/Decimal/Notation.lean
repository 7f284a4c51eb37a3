import DecimalFormula.Decimal.Basic

/-!
# Decimal notation

Two ways to write a number, which both show every digit of its coefficient. The
scientific text shows the exponent as well, so it reads back to the same number;
it uses positional notation where the exponent is not positive and at most six
places follow the point before the leading digit. The plain text is always
positional and writes zeros for a positive exponent.
-/

set_option autoImplicit false

namespace DecimalFormula.Decimal

def signText (negative : Bool) : List Char :=
  if negative then ['-'] else []

/-- Digits with a point before the last places, padded with zeros up to the point. -/
def pointed (digits : List Char) (places : Nat) : List Char :=
  if places = 0 then digits
  else
    let padded := List.replicate (places + 1 - digits.length) '0' ++ digits
    let whole := padded.length - places
    padded.take whole ++ '.' :: padded.drop whole

def pointedAfterFirst : List Char → List Char
  | [] => []
  | [digit] => [digit]
  | digit :: rest => digit :: '.' :: rest

def signedText (value : Int) : List Char :=
  (if value < 0 then '-' else '+') :: Nat.toDigits 10 value.natAbs

namespace Finite

def digits (number : Finite) : List Char :=
  Nat.toDigits 10 number.coefficient

def scientific (number : Finite) : List Char :=
  signText number.negative ++
    if number.exponent ≤ 0 ∧ -6 ≤ number.adjusted then
      pointed number.digits number.exponent.natAbs
    else
      pointedAfterFirst number.digits ++ 'E' :: signedText number.adjusted

def plain (number : Finite) : List Char :=
  signText number.negative ++
    if number.exponent ≤ 0 then pointed number.digits number.exponent.natAbs
    else if number.isZero then number.digits
    else number.digits ++ List.replicate number.exponent.toNat '0'

end Finite

def Undefined.text (result : Undefined) : List Char :=
  signText result.negative ++ (if result.signalling then "sNaN".toList else "NaN".toList) ++
    if result.payload = 0 then [] else Nat.toDigits 10 result.payload

def infinityText (negative : Bool) : List Char :=
  signText negative ++ "Infinity".toList

def text : Decimal → String
  | .finite number => String.ofList number.scientific
  | .infinite negative => String.ofList (infinityText negative)
  | .undefined result => String.ofList result.text

def plainText : Decimal → String
  | .finite number => String.ofList number.plain
  | .infinite negative => String.ofList (infinityText negative)
  | .undefined result => String.ofList result.text

end DecimalFormula.Decimal
