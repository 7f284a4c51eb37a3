import DecimalFormula.Binary64.Basic
import DecimalFormula.Decimal.Notation

/-!
# The shortest decimal text of a binary number

A binary number is written with the fewest decimal digits that are nearer to it
than to any other binary number, and of those with the digits nearest to it. The
text is positional while the leading digit stands for at least 10 ^ -4 and less
than 10 ^ 16, and then always has a digit after the point; outside, the exponent is
written with its sign and at least two digits.
-/

set_option autoImplicit false

namespace DecimalFormula.Binary64

/-- A positive quotient of natural numbers, compared by cross multiplication. -/
structure Quotient where
  dividend : Nat
  divisor : Nat

def Quotient.ofBinary (significand : Nat) (exponent : Int) : Quotient :=
  ⟨significand * powerOfTwo exponent.toNat, powerOfTwo (-exponent).toNat⟩

def Quotient.ofDecimal (coefficient : Nat) (exponent : Int) : Quotient :=
  ⟨coefficient * Decimal.powerOfTen exponent.toNat, Decimal.powerOfTen (-exponent).toNat⟩

def Quotient.less (left right : Quotient) : Bool :=
  left.dividend * right.divisor < right.dividend * left.divisor

/-- The exponent of the leading decimal digit of a positive quotient. -/
def Quotient.decimalExponent (value : Quotient) : Int :=
  let estimate : Int := (Decimal.digitCount value.dividend : Int) - Decimal.digitCount value.divisor
  if value.less (.ofDecimal 1 estimate) then estimate - 1 else estimate

/-- The numbers between which every decimal is nearest to one binary number; the
ends belong to it if its significand is even. -/
structure Neighbourhood where
  lower : Quotient
  upper : Quotient
  closed : Bool

/-- The neighbourhood of a positive binary number. Below a power of two the binary
numbers are twice as dense. -/
def neighbourhood (significand : Nat) (exponent : Int) : Neighbourhood where
  lower :=
    if significand = powerOfTwo 52 ∧ minExponent < exponent then .ofBinary (4 * significand - 1) (exponent - 2)
    else .ofBinary (2 * significand - 1) (exponent - 1)
  upper := .ofBinary (2 * significand + 1) (exponent - 1)
  closed := significand % 2 = 0

def Neighbourhood.contains (range : Neighbourhood) (value : Quotient) : Bool :=
  if range.closed then !value.less range.lower && !range.upper.less value
  else range.lower.less value && value.less range.upper

/-- The decimal with a given last place that is in the neighbourhood of a binary
number and nearest to it: one of the two around it. -/
def nearestAt? (range : Neighbourhood) (value : Quotient) (place : Int) : Option Nat :=
  let dividend := value.dividend * Decimal.powerOfTen (-place).toNat
  let divisor := value.divisor * Decimal.powerOfTen place.toNat
  let below := dividend / divisor
  let above := below + 1
  let excess := 2 * (dividend % divisor)
  let nearest := if excess < divisor then below else if divisor < excess then above else below + below % 2
  let other := if nearest = below then above else below
  [nearest, other].find? fun candidate => range.contains (.ofDecimal candidate place)

/-- The decimal of the fewest digits, from a given last place downwards. -/
def shortestFrom (range : Neighbourhood) (value : Quotient) : Nat → Int → Nat × Int
  | 0, place => ((nearestAt? range value place).getD 0, place)
  | further + 1, place =>
      match nearestAt? range value place with
      | some coefficient => (coefficient, place)
      | none => shortestFrom range value further (place - 1)

/-- The shortest decimal that reads back to a finite binary number; seventeen
digits always suffice. -/
def shortest (negative : Bool) (significand : Nat) (exponent : Int) : Decimal.Finite :=
  if significand = 0 then
    ⟨negative, 0, 0⟩
  else
    let value := Quotient.ofBinary significand exponent
    let (coefficient, place) :=
      shortestFrom (neighbourhood significand exponent) value 16 value.decimalExponent
    if coefficient = 10 then ⟨negative, 1, place + 1⟩ else ⟨negative, coefficient, place⟩

def exponentText (exponent : Int) : List Char :=
  let digits := Nat.toDigits 10 exponent.natAbs
  (if exponent < 0 then '-' else '+') :: (List.replicate (2 - digits.length) '0' ++ digits)

def layout (number : Decimal.Finite) : List Char :=
  let adjusted := number.adjusted
  Decimal.signText number.negative ++
    if -4 ≤ adjusted ∧ adjusted < 16 then
      if number.exponent < 0 then Decimal.pointed number.digits number.exponent.natAbs
      else number.digits ++ List.replicate number.exponent.toNat '0' ++ ['.', '0']
    else
      Decimal.pointedAfterFirst number.digits ++ 'e' :: exponentText adjusted

def text : Binary64 → String
  | .finite negative significand exponent => String.ofList (layout (shortest negative significand exponent))
  | .infinite negative => String.ofList (Decimal.signText negative ++ ['i', 'n', 'f'])
  | .undefined => "nan"

end DecimalFormula.Binary64
