import DecimalFormula.Text.Blank
import DecimalFormula.Text.Integer

/-!
# Numerals and braced references

The two lexemes of more than one character, at the start of a text. A numeral is as
long as possible: digits with an optional point, or a point with digits after it. A
braced reference ends at the first closing brace, and holds an index with white
space around it.
-/

set_option autoImplicit false

namespace DecimalFormula.Lexeme

/-- The longest numeral at the start of a text, or nothing. -/
def numeral (text : List Char) : List Char :=
  match text.takeWhile Char.isDigit, text.dropWhile Char.isDigit with
  | [], '.' :: rest =>
      match rest.takeWhile Char.isDigit with
      | [] => []
      | fraction => '.' :: fraction
  | [], _ => []
  | whole, '.' :: rest => whole ++ '.' :: rest.takeWhile Char.isDigit
  | whole, _ => whole

/-- What a text after an opening brace turns out to be. -/
inductive Braced where
  /-- An index, and the text after the closing brace. -/
  | index (value : Nat) (rest : List Char)
  /-- An index of too many digits, and the text after the closing brace. -/
  | tooLong (digits : Nat) (rest : List Char)
  /-- No closing brace follows. -/
  | unmatched
  /-- Only white space is in the braces; the text from the closing brace on. -/
  | missing (rest : List Char)
  /-- Something else is in the braces, and the text from there on. -/
  | malformed (found rest : List Char)
  deriving DecidableEq, Repr

def braced (text : List Char) : Braced :=
  match text.dropWhile (· ≠ '}') with
  | [] => .unmatched
  | closing :: rest =>
      match Text.strip (text.takeWhile (· ≠ '}')) with
      | [] => .missing (closing :: rest)
      | found =>
          if found.all Char.isDigit then
            if found.length ≤ Text.maxIntegerDigits then .index (Nat.ofDigitChars 10 found 0) rest
            else .tooLong found.length rest
          else
            .malformed found (Text.skipBlanks text)

/-- A reference that was read leaves less text than it was read from. -/
theorem length_lt_of_braced_index {text rest : List Char} {value : Nat} (read : braced text = .index value rest) :
    rest.length < text.length := by
  have bound := (List.dropWhile_sublist (p := (· ≠ '}')) (l := text)).length_le
  unfold braced at read
  split at read
  · cases read
  · next closing after found =>
      rw [found, List.length_cons] at bound
      split at read
      · cases read
      · split at read
        · split at read
          · cases read
            omega
          · cases read
        · cases read

end DecimalFormula.Lexeme
