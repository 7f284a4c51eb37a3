import Mathlib
import DecimalFormula.Expr.Scanner
import DecimalFormula.Proofs.Decimal.Numeral
import DecimalFormula.Proofs.Decimal.Value
import DecimalFormula.Proofs.Text.Pattern

/-!
# The longest numeral

A numeral is the longest one that stands at the cursor. The pattern of numerals tries digits
in front of the point before it tries to do without them, and what it takes first is the
longest of all that it could take.
-/

set_option autoImplicit false

namespace DecimalFormula.Lexeme

open Text Decimal

/-!
## The pattern of numerals
-/

def digitsPattern : Pattern :=
  .sequence (.one Char.isDigit) (.many Char.isDigit)

def pointPattern : Pattern :=
  .optional (.one (· == '.'))

/-- Digits, and perhaps a point and more digits; or else perhaps digits and a point, and digits. -/
def numeralPattern : Pattern :=
  .orElse (.sequence digitsPattern (.sequence pointPattern (.many Char.isDigit)))
    (.sequence (.many Char.isDigit) (.sequence pointPattern digitsPattern))

theorem describes_digitsPattern_iff {text : List Char} :
    digitsPattern.Describes text ↔ Digits text ∧ text ≠ [] := by
  rw [digitsPattern, Pattern.describes_sequence_iff]
  simp only [Pattern.describes_one_iff, Pattern.describes_many_iff]
  constructor
  · intro parts
    obtain ⟨_, others, ⟨digit, isDigit, rfl⟩, digits, rfl⟩ := parts
    exact ⟨List.forall_mem_cons.mpr ⟨isDigit, digits⟩, List.cons_ne_nil _ _⟩
  · intro both
    obtain ⟨digits, nonempty⟩ := both
    obtain ⟨digit, others, rfl⟩ := List.exists_cons_of_ne_nil nonempty
    obtain ⟨isDigit, digits⟩ := List.forall_mem_cons.mp digits
    exact ⟨[digit], others, ⟨digit, isDigit, rfl⟩, digits, rfl⟩

theorem describes_pointPattern_iff {text : List Char} : pointPattern.Describes text ↔ text = [] ∨ text = ['.'] := by
  rw [pointPattern, Pattern.describes_optional_iff, Pattern.describes_one_iff]
  simp

/-- The pattern describes numerals and nothing else. -/
theorem describes_numeralPattern_iff {text : List Char} :
    numeralPattern.Describes text ↔ ∃ whole fraction, Numeral text whole fraction := by
  rw [numeralPattern, Pattern.describes_orElse_iff]
  simp only [Pattern.describes_sequence_iff, describes_digitsPattern_iff, describes_pointPattern_iff,
    Pattern.describes_many_iff]
  constructor
  · intro either
    obtain ⟨whole, _, ⟨wholeDigits, nonempty⟩, ⟨_, fraction, rfl | rfl, fractionDigits, rfl⟩, rfl⟩ |
      ⟨whole, _, wholeDigits, ⟨_, fraction, rfl | rfl, ⟨fractionDigits, nonempty⟩, rfl⟩, rfl⟩ := either
    · exact ⟨_, _, .integer (wholeDigits.append fractionDigits) (by simp [nonempty])⟩
    · exact ⟨_, _, .pointed wholeDigits fractionDigits (by simp [nonempty])⟩
    · exact ⟨_, _, .integer (Digits.append wholeDigits fractionDigits) (by simp [nonempty])⟩
    · exact ⟨_, _, .pointed wholeDigits fractionDigits (by simp [nonempty])⟩
  · intro numeral
    obtain ⟨whole, fraction, numeral⟩ := numeral
    cases numeral with
    | integer wholeDigits nonempty =>
        exact .inl ⟨_, [], ⟨wholeDigits, nonempty⟩, ⟨[], [], .inl rfl, by simp, rfl⟩, by simp⟩
    | pointed wholeDigits fractionDigits nonempty =>
        cases whole with
        | nil => exact .inr ⟨[], _, wholeDigits, ⟨['.'], fraction, .inr rfl, ⟨fractionDigits, nonempty⟩, rfl⟩, rfl⟩
        | cons digit others =>
            exact .inl ⟨_, _, ⟨wholeDigits, List.cons_ne_nil _ _⟩, ⟨['.'], fraction, .inr rfl, fractionDigits, rfl⟩, rfl⟩

/-!
## What the pattern takes
-/

theorem take?_digitsPattern (text : List Char) :
    digitsPattern.take? text =
      if text.takeWhile Char.isDigit = [] then none else some (text.takeWhile Char.isDigit) := by
  cases text with
  | nil => rfl
  | cons c rest =>
      rw [digitsPattern, Pattern.take?_sequence_one_cons, Pattern.take?_many]
      by_cases digit : c.isDigit <;> simp [digit]

theorem take?_pointPattern_point (rest : List Char) : pointPattern.take? ('.' :: rest) = some ['.'] :=
  rfl

theorem take?_pointPattern_of_ne {text : List Char} (noPoint : ∀ rest, text ≠ '.' :: rest) :
    pointPattern.take? text = some [] := by
  rw [pointPattern, Pattern.take?_optional]
  cases text with
  | nil => rfl
  | cons c rest =>
      have apart : c ≠ '.' := fun same => noPoint rest (same ▸ rfl)
      simp [Pattern.take?_one_cons, apart]

theorem take?_fraction_point (rest : List Char) :
    (Pattern.sequence pointPattern (.many Char.isDigit)).take? ('.' :: rest) =
      some ('.' :: rest.takeWhile Char.isDigit) := by
  rw [Pattern.take?_sequence (by simp [Pattern.take?_many]), take?_pointPattern_point]
  simp [Pattern.take?_many]

theorem take?_fraction_of_ne {text : List Char} (noPoint : ∀ rest, text ≠ '.' :: rest) :
    (Pattern.sequence pointPattern (.many Char.isDigit)).take? text = some (text.takeWhile Char.isDigit) := by
  rw [Pattern.take?_sequence (by simp [Pattern.take?_many]), take?_pointPattern_of_ne noPoint]
  simp [Pattern.take?_many]

theorem take?_fraction_ne_none (text : List Char) :
    (Pattern.sequence pointPattern (.many Char.isDigit)).take? text ≠ none := by
  by_cases point : ∃ rest, text = '.' :: rest
  · obtain ⟨rest, rfl⟩ := point
    simp [take?_fraction_point]
  · simp [take?_fraction_of_ne (not_exists.mp point)]

/-- Where digits are in front, the first alternative takes them and what may follow. -/
theorem take?_numeralPattern_of_digits {text : List Char} (digits : text.takeWhile Char.isDigit ≠ []) :
    numeralPattern.take? text = some (numeral text) := by
  have behind : text.drop (text.takeWhile Char.isDigit).length = text.dropWhile Char.isDigit := by
    have split := List.takeWhile_append_dropWhile (p := Char.isDigit) (l := text)
    generalize text.takeWhile Char.isDigit = front at split
    rw [← split, List.drop_left, split]
  rw [numeralPattern, Pattern.take?_orElse, Pattern.take?_sequence take?_fraction_ne_none, take?_digitsPattern,
    if_neg digits, Option.bind_some, behind]
  by_cases point : ∃ rest, text.dropWhile Char.isDigit = '.' :: rest
  · obtain ⟨rest, point⟩ := point
    rw [numeral_of_point point, if_neg (by simp [digits]), point, take?_fraction_point]
    rfl
  · have noPoint := not_exists.mp point
    rw [numeral_of_no_point noPoint, take?_fraction_of_ne noPoint, (endsDigits_dropWhile text).takeWhile_eq_nil]
    simp

/-- Where no digit is in front, only the second alternative can take something. -/
theorem take?_numeralPattern_cons {c : Char} (noDigit : c.isDigit = false) (rest : List Char) :
    numeralPattern.take? (c :: rest) = if numeral (c :: rest) = [] then none else some (numeral (c :: rest)) := by
  have noDigits : (c :: rest).takeWhile Char.isDigit = [] := by simp [noDigit]
  have behind : (c :: rest).dropWhile Char.isDigit = c :: rest := by simp [noDigit]
  rw [numeralPattern, Pattern.take?_orElse, Pattern.take?_sequence take?_fraction_ne_none, take?_digitsPattern,
    if_pos noDigits, Option.bind_none, Option.none_or, Pattern.take?_sequence_many_cons noDigit, pointPattern,
    Pattern.take?_sequence_optional, Pattern.take?_sequence_one_cons, take?_digitsPattern (c :: rest),
    if_pos noDigits, Option.or_none]
  by_cases point : c = '.'
  · subst point
    rw [numeral_of_point behind, noDigits, take?_digitsPattern]
    by_cases fraction : rest.takeWhile Char.isDigit = [] <;> simp [fraction]
  · have noPoint : ∀ others, (c :: rest).dropWhile Char.isDigit ≠ '.' :: others := by
      simp [noDigit, point]
    rw [numeral_of_no_point noPoint, noDigits]
    simp [point]

/-- What the pattern takes first is what the scanner takes. -/
theorem take?_numeralPattern (text : List Char) :
    numeralPattern.take? text = if numeral text = [] then none else some (numeral text) := by
  cases text with
  | nil => rfl
  | cons c rest =>
      cases digit : c.isDigit with
      | false => exact take?_numeralPattern_cons digit rest
      | true =>
          have taken := take?_numeralPattern_of_digits (show (c :: rest).takeWhile Char.isDigit ≠ [] by simp [digit])
          obtain ⟨_, _, isNumeral⟩ := describes_numeralPattern_iff.mp (Pattern.describes_of_take? taken).1
          obtain ⟨first, others, same, _⟩ := isNumeral.exists_cons
          rw [taken, if_neg (same ▸ List.cons_ne_nil first others)]

/-!
## Length
-/

theorem takeWhile_starts_numeral (text : List Char) : text.takeWhile Char.isDigit <+: numeral text := by
  by_cases point : ∃ rest, text.dropWhile Char.isDigit = '.' :: rest
  · obtain ⟨rest, point⟩ := point
    rw [numeral_of_point point]
    split
    · next empty => simp [(List.append_eq_nil_iff.mp empty).1]
    · exact List.prefix_append _ _
  · rw [numeral_of_no_point (not_exists.mp point)]

/-- A numeral at the start of a text is a part of the one that the scanner takes. -/
theorem starts_numeral_of_numeral {text found whole fraction : List Char} (isNumeral : Numeral found whole fraction)
    (starts : found <+: text) : found <+: numeral text := by
  obtain ⟨rest, rfl⟩ := starts
  cases isNumeral with
  | integer wholeDigits nonempty =>
      refine List.IsPrefix.trans ?_ (takeWhile_starts_numeral _)
      rw [List.takeWhile_append_of_pos wholeDigits]
      exact List.prefix_append _ _
  | pointed wholeDigits fractionDigits nonempty =>
      have pointEnds := EndsDigits.cons (show '.'.isDigit = false by decide) (fraction ++ rest)
      have more : (fraction ++ rest).takeWhile Char.isDigit = fraction ++ rest.takeWhile Char.isDigit :=
        List.takeWhile_append_of_pos fractionDigits
      rw [List.append_assoc, List.cons_append, numeral_of_point (wholeDigits.dropWhile_append pointEnds),
        wholeDigits.takeWhile_append pointEnds, more, if_neg]
      · exact ⟨rest.takeWhile Char.isDigit, by simp⟩
      · rw [← List.append_assoc]
        exact List.append_ne_nil_of_left_ne_nil nonempty _

/-- The longest numeral that a text starts with, and its digits before and after the point. -/
structure LongestNumeral (text found whole fraction : List Char) : Prop where
  isNumeral : Numeral found whole fraction
  starts : found <+: text
  longest : ∀ other otherWhole otherFraction, Numeral other otherWhole otherFraction → other <+: text →
    other.length ≤ found.length

theorem take?_numeralPattern_eq_none_iff {text : List Char} :
    numeralPattern.take? text = none ↔ ∀ found whole fraction, Numeral found whole fraction → ¬ found <+: text := by
  rw [Pattern.take?_eq_none_iff]
  constructor
  · intro nothing found whole fraction isNumeral
    exact nothing found (describes_numeralPattern_iff.mpr ⟨whole, fraction, isNumeral⟩)
  · intro nothing found described
    obtain ⟨whole, fraction, isNumeral⟩ := describes_numeralPattern_iff.mp described
    exact nothing found whole fraction isNumeral

theorem exists_longestNumeral {text found : List Char} (taken : numeralPattern.take? text = some found) :
    ∃ whole fraction, LongestNumeral text found whole fraction := by
  obtain ⟨described, starts⟩ := Pattern.describes_of_take? taken
  obtain ⟨whole, fraction, isNumeral⟩ := describes_numeralPattern_iff.mp described
  refine ⟨whole, fraction, isNumeral, starts, ?_⟩
  intro other otherWhole otherFraction otherNumeral otherStarts
  rw [take?_numeralPattern] at taken
  split at taken
  · cases taken
  · cases taken
    exact (starts_numeral_of_numeral otherNumeral otherStarts).length_le

end DecimalFormula.Lexeme

/-!
## The scanner
-/

namespace DecimalFormula

open Decimal

/-- Only a text of more digits than any exponent admits is too long for a number. -/
theorem Decimal.Numeral.ofText?_of_short {text whole fraction : List Char} (isNumeral : Numeral text whole fraction)
    (short : text.length ≤ 999999999999999999) :
    ofText? (String.ofList text) = some (.finite (Finite.ofDigits whole fraction)) := by
  obtain ⟨digits, present, count⟩ : Text.Digits (whole ++ fraction) ∧ 0 < (whole ++ fraction).length ∧
      (whole ++ fraction).length ≤ text.length := by
    cases isNumeral with
    | integer wholeDigits nonempty =>
        rw [List.append_nil]
        exact ⟨wholeDigits, List.length_pos_iff.mpr nonempty, le_rfl⟩
    | pointed wholeDigits fractionDigits nonempty =>
        refine ⟨wholeDigits.append fractionDigits, List.length_pos_iff.mpr nonempty, ?_⟩
        simp
  have coefficient := (digitCount_le_iff present).mpr digits.ofDigitChars_lt
  have representable : (Finite.ofDigits whole fraction).isRepresentable = true := by
    rw [List.length_append] at coefficient count
    simp only [Finite.isRepresentable, Bool.and_eq_true, decide_eq_true_eq]
    simp only [Finite.adjusted, Finite.ofDigits, minExponent, maxExponent]
    omega
  rw [isNumeral.ofText?_eq, if_pos representable]

namespace Scanner

/-- The text at the cursor. Before the start it is the whole text. -/
def remaining (scanner : Scanner) : List Char :=
  scanner.source.drop scanner.position.toNat

/-- The numeral at the cursor and the scanner past it; where there is none, the scanner stays. -/
def takeNumeral (scanner : Scanner) : Option String × Scanner :=
  match scanner.numeral? with
  | some (found, after) => (some found, after)
  | none => (none, scanner)

theorem numeral?_eq (scanner : Scanner) :
    scanner.numeral? = (Lexeme.numeralPattern.take? scanner.remaining).map fun found =>
      (String.ofList found, { scanner with position := max 0 scanner.position + found.length }) := by
  have text : scanner.textFrom (max 0 scanner.position) = scanner.remaining := by
    rw [textFrom, if_neg (by omega), remaining]
    congr 1
    omega
  rw [numeral?, Lexeme.take?_numeralPattern]
  simp only [text]
  cases Lexeme.numeral scanner.remaining <;> rfl

/-- What the scanner takes is what the pattern of numerals tries first. If the text at the
cursor starts with a numeral, it is the longest one, the cursor is moved past it, and it is
read as the number with all its digits as the coefficient and the places after the point as
the exponent, unless it is too long for a number. If not, the cursor stays. -/
theorem takeNumeral_longest (scanner : Scanner) :
    scanner.takeNumeral.1 = (Lexeme.numeralPattern.take? scanner.remaining).map String.ofList ∧
    (scanner.takeNumeral = (none, scanner) ↔
      ∀ found whole fraction, Numeral found whole fraction → ¬ found <+: scanner.remaining) ∧
    (scanner.takeNumeral = (none, scanner) ∨
      ∃ found whole fraction, Lexeme.LongestNumeral scanner.remaining found whole fraction ∧
        scanner.takeNumeral =
          (some (String.ofList found), { scanner with position := max 0 scanner.position + found.length }) ∧
        (ofText? (String.ofList found) = some (.finite (Finite.ofDigits whole fraction)) ∨
          999999999999999999 < found.length ∧ ofText? (String.ofList found) = none)) := by
  rw [takeNumeral, numeral?_eq, ← Lexeme.take?_numeralPattern_eq_none_iff]
  cases taken : Lexeme.numeralPattern.take? scanner.remaining with
  | none => simp
  | some found =>
      refine ⟨rfl, by simp, .inr ?_⟩
      obtain ⟨whole, fraction, longest⟩ := Lexeme.exists_longestNumeral taken
      refine ⟨found, whole, fraction, longest, rfl, ?_⟩
      by_cases short : found.length ≤ 999999999999999999
      · exact .inl (longest.isNumeral.ofText?_of_short short)
      · rw [longest.isNumeral.ofText?_eq]
        split
        · exact .inl rfl
        · exact .inr ⟨not_le.mp short, rfl⟩

example : takeNumeral ⟨"x.5.2".toList, 1⟩ = (some ".5", ⟨"x.5.2".toList, 3⟩) := by decide

end Scanner

end DecimalFormula
