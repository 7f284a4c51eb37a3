import DecimalFormula.Binary64.Shortest
import DecimalFormula.Text.Integer
import DecimalFormula.Text.Quoted
import DecimalFormula.Value.Basic

/-!
# Showing values

Two texts of a value. The display is what a value contributes to a message or to a
source text: a text stands for itself. The quotation tells values of different kinds
apart: texts are quoted and exact numbers wrapped in the name of their kind; it is
also how the items of a sequence are displayed. Neither exists for a value that
holds an integer beyond the limit on digits. A text that cannot be written has only a
quotation, but can be read, with a replacement for each code that is no character.
-/

set_option autoImplicit false

namespace DecimalFormula.Value

mutual

def quotation? : Value → Option String
  | .nothing => some "None"
  | .boolean true => some "True"
  | .boolean false => some "False"
  | .integer number => Text.boundedIntegerText? number
  | .binary64 number => some number.text
  | .decimal number => some ("Decimal('" ++ number.text ++ "')")
  | .fraction number => do
      let numerator ← Text.boundedIntegerText? number.num
      let denominator ← Text.boundedIntegerText? number.den
      some ("Fraction(" ++ numerator ++ ", " ++ denominator ++ ")")
  | .text content => some (Text.quoted content)
  | .unwritableText codes => some (Text.quotedCodes codes)
  | .bytes content => some (Text.quotedBytes content)
  | .tuple [item] => do
      let shown ← quotation? item
      some ("(" ++ shown ++ ",)")
  | .tuple items => do
      let shown ← quotations? items
      some ("(" ++ String.intercalate ", " shown ++ ")")
  | .list items => do
      let shown ← quotations? items
      some ("[" ++ String.intercalate ", " shown ++ "]")
  | .mapping entries => do
      let shown ← entryQuotations? entries
      some ("\x7b" ++ String.intercalate ", " shown ++ "\x7d")
  | .foreign value => some value.quotation

def quotations? : List Value → Option (List String)
  | [] => some []
  | item :: items => do
      let shown ← quotation? item
      let others ← quotations? items
      some (shown :: others)

def entryQuotations? : List (String × Value) → Option (List String)
  | [] => some []
  | (key, value) :: entries => do
      let shown ← quotation? value
      let others ← entryQuotations? entries
      some ((Text.quoted key ++ ": " ++ shown) :: others)

end

/-- The display of a fraction: an integer if it is one. -/
def fractionDisplay? (number : Rat) : Option String := do
  let numerator ← Text.boundedIntegerText? number.num
  if number.den = 1 then
    some numerator
  else
    let denominator ← Text.boundedIntegerText? number.den
    some (numerator ++ "/" ++ denominator)

def display? : Value → Option String
  | .text content => some content
  | .unwritableText _ => none
  | .decimal number => some number.text
  | .fraction number => fractionDisplay? number
  | .foreign value => some value.display
  | value => value.quotation?

/-- What a text is read as, if a value is a text: itself, unless it cannot be written. -/
def content? : Value → Option String
  | .text content => some content
  | .unwritableText codes => some (Text.readCodes codes)
  | _ => none

@[simp] theorem content?_text (content : String) : (text content).content? = some content := rfl

@[simp] theorem content?_unwritableText (codes : List Nat) :
    (unwritableText codes).content? = some (Text.readCodes codes) := rfl

end DecimalFormula.Value
