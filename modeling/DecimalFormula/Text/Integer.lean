import DecimalFormula.Text.Blank
import DecimalFormula.Text.Digit

/-!
# Integer numerals

Integers as settings spell them: white space around, an optional sign, then digits
of any script with single underscores between them. The information separators
U+001C to U+001F may not stand around an integer, unlike other white space. A numeral
of more than 4300 digits is refused, and so is writing an integer that long,
because the conversion takes quadratic time.
-/

set_option autoImplicit false

namespace DecimalFormula.Text

/-- The most digits that an integer numeral may have, read or written. -/
def maxIntegerDigits : Nat := 4300

/-- The digits of a numeral whose underscores stand singly between two digits. -/
def ungrouped? : List Char → Option (List Char)
  | [] => none
  | [c] => if c.isDigit then some [c] else none
  | c :: '_' :: rest => if c.isDigit then (ungrouped? rest).map (c :: ·) else none
  | c :: rest => if c.isDigit then (ungrouped? rest).map (c :: ·) else none

/-- A sign is split off its numeral; no sign is a plus. -/
def splitSign : List Char → Bool × List Char
  | '-' :: rest => (true, rest)
  | '+' :: rest => (false, rest)
  | rest => (false, rest)

def signedInteger (negative : Bool) (magnitude : Nat) : Int :=
  if negative then -(magnitude : Int) else magnitude

/-- The white space that may stand around an integer numeral. -/
def isIntegerMargin (c : Char) : Bool :=
  isBlank c && !(0x1C ≤ c.toNat && c.toNat ≤ 0x1F)

def trimIntegerMargin (text : List Char) : List Char :=
  ((text.dropWhile isIntegerMargin).reverse.dropWhile isIntegerMargin).reverse

/-- The integer that a text spells, if it does and within the limit on digits. -/
def readInteger? (text : String) : Option Int := do
  let (negative, numeral) := splitSign (trimIntegerMargin (text.toList.map asciiDigit))
  let digits ← ungrouped? numeral
  if digits.length ≤ maxIntegerDigits then
    some (signedInteger negative (Nat.ofDigitChars 10 digits 0))
  else
    none

def naturalText (number : Nat) : String :=
  String.ofList (Nat.toDigits 10 number)

def integerText (number : Int) : String :=
  if number < 0 then String.ofList ('-' :: Nat.toDigits 10 number.natAbs) else naturalText number.natAbs

/-- The decimal text of an integer, unless it exceeds the limit on digits. -/
def boundedIntegerText? (number : Int) : Option String :=
  if (Nat.toDigits 10 number.natAbs).length ≤ maxIntegerDigits then some (integerText number) else none

def tooManyDigitsMessage (digits : Nat) : String :=
  "Exceeds the limit (" ++ naturalText maxIntegerDigits ++
    " digits) for integer string conversion: value has " ++ naturalText digits ++
    " digits; use sys.set_int_max_str_digits() to increase the limit"

end DecimalFormula.Text
