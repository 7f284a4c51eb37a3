import Mathlib
import DecimalFormula.Decimal.Notation
import DecimalFormula.Decimal.Numeral
import DecimalFormula.Expr.Lexeme
import DecimalFormula.Proofs.Text.Blank

/-!
# The language of numerals

The numerals of the expression language are digits alone, or digits around a point
with at least one of them. A numeral denotes the number with all its digits as the
coefficient and the places after the point as the exponent. The scanner takes a
numeral off a text whole if the text goes on with something that is no part of it,
the general reader of numbers reads it as the number it denotes, and the plain text
of a number without a sign is a numeral that denotes this number.
-/

set_option autoImplicit false

namespace DecimalFormula.Decimal

open Text

/-- The texts of numerals, each with its digits before and after the point. -/
inductive Numeral : (text whole fraction : List Char) → Prop where
  | integer {whole : List Char} : Digits whole → whole ≠ [] → Numeral whole whole []
  | pointed {whole fraction : List Char} :
      Digits whole → Digits fraction → whole ++ fraction ≠ [] →
      Numeral (whole ++ '.' :: fraction) whole fraction

/-- The number that digits before and after a point denote. -/
def Finite.ofDigits (whole fraction : List Char) : Finite :=
  ⟨false, Nat.ofDigitChars 10 (whole ++ fraction) 0, -(fraction.length : Int)⟩

namespace Numeral

variable {text whole fraction : List Char}

/-- A numeral starts with a digit or with a point. -/
theorem exists_cons (numeral : Numeral text whole fraction) :
    ∃ first rest, text = first :: rest ∧ (first.isDigit = true ∨ first = '.') := by
  cases numeral with
  | integer wholeDigits nonempty =>
      obtain ⟨digit, rest, rfl⟩ := List.exists_cons_of_ne_nil nonempty
      exact ⟨digit, rest, rfl, .inl (wholeDigits digit List.mem_cons_self)⟩
  | @pointed whole fraction wholeDigits =>
      cases whole with
      | nil => exact ⟨'.', fraction, rfl, .inr rfl⟩
      | cons digit others => exact ⟨digit, _, rfl, .inl (wholeDigits digit List.mem_cons_self)⟩

/-- A numeral holds digits and points only. -/
theorem mem (numeral : Numeral text whole fraction) {c : Char} (member : c ∈ text) :
    c.isDigit = true ∨ c = '.' := by
  cases numeral with
  | integer wholeDigits => exact .inl (wholeDigits c member)
  | @pointed whole fraction wholeDigits fractionDigits =>
      rcases List.mem_append.mp member with inWhole | later
      · exact .inl (wholeDigits c inWhole)
      · rcases List.mem_cons.mp later with rfl | inFraction
        · exact .inr rfl
        · exact .inl (fractionDigits c inFraction)

end Numeral

end DecimalFormula.Decimal

/-!
## Scanning
-/

namespace DecimalFormula.Lexeme

open Text Decimal

/-- What may follow a numeral: nothing that would make it longer. -/
def EndsNumeral (rest : List Char) : Prop :=
  ∀ c ∈ rest.head?, c.isDigit = false ∧ c ≠ '.'

theorem EndsNumeral.nil : EndsNumeral [] :=
  fun _ first => nomatch first

theorem EndsNumeral.cons {c : Char} (noDigit : c.isDigit = false) (noPoint : c ≠ '.') (rest : List Char) :
    EndsNumeral (c :: rest) := by
  intro first isFirst
  obtain rfl : c = first := Option.some.inj isFirst
  exact ⟨noDigit, noPoint⟩

theorem EndsNumeral.endsDigits {rest : List Char} (ends : EndsNumeral rest) : EndsDigits rest :=
  fun c first => (ends c first).1

theorem numeral_of_point {text rest : List Char} (point : text.dropWhile Char.isDigit = '.' :: rest) :
    Lexeme.numeral text =
      if text.takeWhile Char.isDigit ++ rest.takeWhile Char.isDigit = [] then []
      else text.takeWhile Char.isDigit ++ '.' :: rest.takeWhile Char.isDigit := by
  rw [Lexeme.numeral, point]
  cases whole : text.takeWhile Char.isDigit with
  | nil => cases fraction : rest.takeWhile Char.isDigit <;> simp [fraction]
  | cons digit others => simp

theorem numeral_of_no_point {text : List Char} (noPoint : ∀ rest, text.dropWhile Char.isDigit ≠ '.' :: rest) :
    Lexeme.numeral text = text.takeWhile Char.isDigit := by
  rw [Lexeme.numeral]
  split
  · next rest _ point => exact absurd point (noPoint rest)
  · next empty _ => exact empty.symm
  · next rest point _ => exact absurd point (noPoint rest)
  · rfl

theorem numeral_append_of_digits {whole rest : List Char} (wholeDigits : Digits whole) (ends : EndsNumeral rest) :
    Lexeme.numeral (whole ++ rest) = whole := by
  have left := wholeDigits.dropWhile_append ends.endsDigits
  rw [numeral_of_no_point, wholeDigits.takeWhile_append ends.endsDigits]
  intro others point
  rw [left] at point
  exact (ends '.' (by rw [point]; rfl)).2 rfl

/-- A second point does not make a numeral longer. -/
theorem numeral_append_of_pointed {whole fraction rest : List Char} (wholeDigits : Digits whole)
    (fractionDigits : Digits fraction) (nonempty : whole ++ fraction ≠ []) (ends : EndsDigits rest) :
    Lexeme.numeral (whole ++ '.' :: fraction ++ rest) = whole ++ '.' :: fraction := by
  have pointEnds := EndsDigits.cons (show '.'.isDigit = false by decide) (fraction ++ rest)
  rw [List.append_assoc, List.cons_append, numeral_of_point (wholeDigits.dropWhile_append pointEnds),
    wholeDigits.takeWhile_append pointEnds, fractionDigits.takeWhile_append ends, if_neg nonempty]

/-- The scanner takes a whole numeral, and no more. -/
theorem numeral_append {text whole fraction rest : List Char} (numeral : Numeral text whole fraction)
    (ends : EndsNumeral rest) : Lexeme.numeral (text ++ rest) = text := by
  cases numeral with
  | integer wholeDigits => exact numeral_append_of_digits wholeDigits ends
  | pointed wholeDigits fractionDigits nonempty =>
      exact numeral_append_of_pointed wholeDigits fractionDigits nonempty ends.endsDigits

/-- What follows does not change the numeral at the start of a text. -/
theorem EndsNumeral.numeral_append {rest : List Char} (ends : EndsNumeral rest) (text : List Char) :
    Lexeme.numeral (text ++ rest) = Lexeme.numeral text := by
  have left := ends.endsDigits.dropWhile_append text
  by_cases point : ∃ others, text.dropWhile Char.isDigit = '.' :: others
  · obtain ⟨others, point⟩ := point
    rw [point, List.cons_append] at left
    rw [numeral_of_point left, numeral_of_point point, ends.endsDigits.takeWhile_append,
      ends.endsDigits.takeWhile_append]
  · have noPoint : ∀ others, text.dropWhile Char.isDigit ≠ '.' :: others := fun others found => point ⟨others, found⟩
    rw [numeral_of_no_point noPoint, numeral_of_no_point, ends.endsDigits.takeWhile_append]
    intro others found
    rw [left] at found
    cases behind : text.dropWhile Char.isDigit with
    | nil =>
        rw [behind, List.nil_append] at found
        exact (ends '.' (by rw [found]; rfl)).2 rfl
    | cons c more =>
        rw [behind, List.cons_append] at found
        exact noPoint more (behind.trans (by rw [(List.cons.inj found).1]))

/-- What the scanner takes is a numeral at the start of the text. -/
theorem exists_numeral {text : List Char} (found : Lexeme.numeral text ≠ []) :
    ∃ whole fraction rest, Numeral (Lexeme.numeral text) whole fraction ∧
      text = Lexeme.numeral text ++ rest := by
  have wholeDigits := digits_takeWhile text
  have split := List.takeWhile_append_dropWhile (p := Char.isDigit) (l := text)
  by_cases point : ∃ rest, text.dropWhile Char.isDigit = '.' :: rest
  · obtain ⟨rest, point⟩ := point
    have splitRest := List.takeWhile_append_dropWhile (p := Char.isDigit) (l := rest)
    rw [numeral_of_point point] at found ⊢
    by_cases nonempty : text.takeWhile Char.isDigit ++ rest.takeWhile Char.isDigit = []
    · exact absurd (if_pos nonempty) found
    · rw [if_neg nonempty]
      refine ⟨_, _, rest.dropWhile Char.isDigit, .pointed wholeDigits (digits_takeWhile rest) nonempty, ?_⟩
      rw [List.append_assoc, List.cons_append, splitRest, ← point, split]
  · have noPoint := not_exists.mp point
    rw [numeral_of_no_point noPoint] at found ⊢
    exact ⟨_, _, _, .integer wholeDigits found, split.symm⟩

/-- The scanner decides where a numeral ends by the character that follows. -/
theorem numeral_append_congr {text rest other : List Char} (taken : Lexeme.numeral (text ++ rest) = text)
    (nonempty : text ≠ []) (same : rest.head? = other.head?) : Lexeme.numeral (text ++ other) = text := by
  have wholeDigits := digits_takeWhile (text ++ rest)
  have split := List.takeWhile_append_dropWhile (p := Char.isDigit) (l := text ++ rest)
  by_cases point : ∃ others, (text ++ rest).dropWhile Char.isDigit = '.' :: others
  · obtain ⟨others, point⟩ := point
    have present : (text ++ rest).takeWhile Char.isDigit ++ others.takeWhile Char.isDigit ≠ [] := by
      intro empty
      rw [numeral_of_point point, if_pos empty] at taken
      exact nonempty taken.symm
    rw [numeral_of_point point, if_neg present] at taken
    rw [point] at split
    generalize (text ++ rest).takeWhile Char.isDigit = whole at wholeDigits present taken split
    subst taken
    have behind : rest = others.dropWhile Char.isDigit := by
      have fraction := List.takeWhile_append_dropWhile (p := Char.isDigit) (l := others)
      refine (List.append_right_inj (whole ++ '.' :: others.takeWhile Char.isDigit)).mp ?_
      rw [← split, List.append_assoc, List.cons_append, fraction]
    refine numeral_append_of_pointed wholeDigits (digits_takeWhile others) present ?_
    exact fun c first => endsDigits_dropWhile others c (behind ▸ same ▸ first)
  · have noPoint := not_exists.mp point
    rw [numeral_of_no_point noPoint] at taken
    rw [taken] at split wholeDigits
    have behind := List.append_cancel_left split
    rw [behind] at noPoint
    refine numeral_append_of_digits wholeDigits fun c first => ⟨?_, ?_⟩
    · exact endsDigits_dropWhile (text ++ rest) c (behind.symm ▸ same ▸ first)
    · rintro rfl
      obtain ⟨others, starts⟩ := List.head?_eq_some_iff.mp (same.trans first)
      exact noPoint others starts

end DecimalFormula.Lexeme

/-!
## Reading
-/

namespace DecimalFormula.Decimal

open Text

theorem toLower_of_isDigit {c : Char} (digit : c.isDigit = true) : c.toLower = c := by
  have small : c.toNat ≤ 57 := (Char.isDigit_iff_toNat.mp digit).2
  rw [Char.toLower, dif_neg]
  intro upper
  have large : 65 ≤ c.toNat := UInt32.le_iff_toNat_le.mp upper.1
  omega

theorem splitSign_of_ne {first : Char} (noMinus : first ≠ '-') (noPlus : first ≠ '+') (rest : List Char) :
    splitSign (first :: rest) = (false, first :: rest) := by
  rw [splitSign]
  · rintro others ⟨⟩
    exact noMinus rfl
  · rintro others ⟨⟩
    exact noPlus rfl

theorem ne_of_start {first other : Char} (start : first.isDigit = true ∨ first = '.')
    (noDigit : other.isDigit = false) (noPoint : other ≠ '.') : first ≠ other := by
  rcases start with digit | rfl
  · exact ne_of_isDigit digit noDigit
  · exact noPoint.symm

/-- What starts as a numeral does, after its sign, is neither the name of an infinity nor
of an undefined result. -/
theorem readNumeral?_of_start {text rest : List Char} {negative : Bool} {first : Char}
    (split : splitSign text = (negative, first :: rest)) (start : first.isDigit = true ∨ first = '.') :
    readNumeral? text = (readUnsigned? negative (first :: rest)).map .finite := by
  have lower : first.toLower = first := by
    rcases start with digit | rfl
    · exact toLower_of_isDigit digit
    · decide
  rw [readNumeral?, split]
  simp only [List.map_cons, lower]
  split
  · next same => exact absurd (List.cons.inj same).1 (ne_of_start start (by decide) (by decide))
  · next same => exact absurd (List.cons.inj same).1 (ne_of_start start (by decide) (by decide))
  · next same => exact absurd (List.cons.inj same).1 (ne_of_start start (by decide) (by decide))
  · next same => exact absurd (List.cons.inj same).1 (ne_of_start start (by decide) (by decide))
  · rfl

theorem splitSign_of_start {first : Char} (start : first.isDigit = true ∨ first = '.') (rest : List Char) :
    splitSign (first :: rest) = (false, first :: rest) :=
  splitSign_of_ne (ne_of_start start (by decide) (by decide)) (ne_of_start start (by decide) (by decide)) rest

/-- Digits, points, signs and the letter E are kept when a text is made a bare numeral. -/
theorem bareNumeral_eq_self {text : List Char}
    (plain : ∀ c ∈ text, c.isDigit = true ∨ c ∈ ['.', '+', '-', 'e', 'E']) : bareNumeral text = text := by
  have kept : ∀ c ∈ text, isBlank c = false ∧ c ≠ '_' ∧ asciiDigit c = c := by
    intro c member
    rcases plain c member with digit | mark
    · exact ⟨isBlank_of_isDigit digit, ne_of_isDigit digit (by decide), asciiDigit_of_isDigit digit⟩
    · simp only [List.mem_cons, List.not_mem_nil, or_false] at mark
      rcases mark with rfl | rfl | rfl | rfl | rfl <;> decide
  have visible : Visible text := fun c member => (kept c member).1
  have stripped : strip text = text := by
    cases text with
    | nil => rfl
    | cons first rest =>
        have margins := visible.strip_margins (List.cons_ne_nil first rest) Blank.nil Blank.nil
        rwa [List.nil_append, List.append_nil] at margins
  have noUnderscore : text.filter (· ≠ '_') = text :=
    List.filter_eq_self.mpr fun c member => decide_eq_true (kept c member).2.1
  have ascii : text.map asciiDigit = text :=
    (List.map_congr_left fun c member => (kept c member).2.2).trans (List.map_id text)
  rw [bareNumeral, stripped, noUnderscore, ascii]

namespace Numeral

variable {text whole fraction : List Char}

theorem visible (numeral : Numeral text whole fraction) : Visible text := by
  intro c member
  rcases numeral.mem member with digit | rfl
  · exact isBlank_of_isDigit digit
  · decide

theorem bareNumeral_eq (numeral : Numeral text whole fraction) : bareNumeral text = text :=
  bareNumeral_eq_self fun c member => (numeral.mem member).imp_right (by rintro rfl; decide)

/-- A numeral and what may follow it are read as digits and as an exponent. -/
theorem readUnsigned?_append (numeral : Numeral text whole fraction) (negative : Bool) {rest : List Char}
    {exponent : Int} (ends : Lexeme.EndsNumeral rest) (read : readExponent? rest = some exponent) :
    readUnsigned? negative (text ++ rest) =
      if Finite.isRepresentable ⟨negative, Nat.ofDigitChars 10 (whole ++ fraction) 0, exponent - fraction.length⟩ then
        some ⟨negative, Nat.ofDigitChars 10 (whole ++ fraction) 0, exponent - fraction.length⟩
      else none := by
  have noPoint : ∀ others, rest ≠ '.' :: others := by
    rintro others rfl
    exact (ends '.' rfl).2 rfl
  cases numeral with
  | integer wholeDigits nonempty =>
      have taken := wholeDigits.takeWhile_append ends.endsDigits
      have left := wholeDigits.dropWhile_append ends.endsDigits
      rw [readUnsigned?, taken, left]
      split
      next digits others same =>
        split at same
        · next later _ => exact absurd rfl (noPoint _)
        · cases same
          simp [read, nonempty]
  | pointed wholeDigits fractionDigits nonempty =>
      have pointEnds := EndsDigits.cons (show '.'.isDigit = false by decide) (fraction ++ rest)
      have taken := wholeDigits.takeWhile_append pointEnds
      have left := wholeDigits.dropWhile_append pointEnds
      have fractionTaken := fractionDigits.takeWhile_append ends.endsDigits
      have fractionLeft := fractionDigits.dropWhile_append ends.endsDigits
      rw [List.append_assoc, List.cons_append]
      simp only [readUnsigned?, taken, left, fractionTaken, fractionLeft, read, Option.bind_eq_bind, Option.bind_some,
        ne_eq, nonempty, not_false_eq_true, decide_true, Bool.true_and]

theorem readUnsigned?_eq (numeral : Numeral text whole fraction) :
    readUnsigned? false text =
      if (Finite.ofDigits whole fraction).isRepresentable then some (Finite.ofDigits whole fraction)
      else none := by
  have read := numeral.readUnsigned?_append false Lexeme.EndsNumeral.nil (show readExponent? [] = some 0 from rfl)
  rwa [List.append_nil, Int.zero_sub] at read

/-- The general reader of numbers reads a numeral as the number it denotes, within the
bounds on all numbers. -/
theorem ofText?_eq (numeral : Numeral text whole fraction) :
    ofText? (String.ofList text) =
      if (Finite.ofDigits whole fraction).isRepresentable then some (.finite (Finite.ofDigits whole fraction))
      else none := by
  have read := numeral.readUnsigned?_eq
  have bare := numeral.bareNumeral_eq
  obtain ⟨first, rest, rfl, start⟩ := numeral.exists_cons
  rw [ofText?, String.toList_ofList, bare, readNumeral?_of_start (splitSign_of_start start rest) start, read]
  split <;> rfl

end Numeral

end DecimalFormula.Decimal

/-!
## Writing
-/

namespace DecimalFormula.Decimal

open Text

theorem digits_toDigits (number : Nat) : Digits (Nat.toDigits 10 number) :=
  fun _ member => Nat.isDigit_of_mem_toDigits (by decide) (by decide) member

namespace Numeral

/-- Digits with a point before their last places are a numeral of the same digits, apart
from zeros in front. -/
theorem exists_pointed {digits : List Char} (only : Digits digits) (nonempty : digits ≠ []) (places : Nat) :
    ∃ whole fraction, Numeral (Decimal.pointed digits places) whole fraction ∧ fraction.length = places ∧
      Nat.ofDigitChars 10 (whole ++ fraction) 0 = Nat.ofDigitChars 10 digits 0 := by
  rw [Decimal.pointed]
  split
  · next integral => exact ⟨digits, [], .integer only nonempty, integral.symm, by rw [List.append_nil]⟩
  · simp only
    generalize padding : places + 1 - digits.length = zeros
    have paddedDigits : Digits (List.replicate zeros '0' ++ digits) := by
      refine Digits.append (fun c member => ?_) only
      rw [(List.mem_replicate.mp member).2]
      decide
    have value : Nat.ofDigitChars 10 (List.replicate zeros '0' ++ digits) 0 = Nat.ofDigitChars 10 digits 0 := by
      rw [Nat.ofDigitChars_append, Nat.ofDigitChars_replicate_zero, Nat.mul_zero]
    have long : places < (List.replicate zeros '0' ++ digits).length := by
      rw [List.length_append, List.length_replicate]
      omega
    generalize List.replicate zeros '0' ++ digits = padded at *
    refine ⟨_, _, .pointed (fun c member => paddedDigits c (List.mem_of_mem_take member))
      (fun c member => paddedDigits c (List.mem_of_mem_drop member)) ?_, ?_, ?_⟩
    · rw [List.take_append_drop]
      exact List.length_pos_iff.mp (by omega)
    · rw [List.length_drop]
      omega
    · rw [List.take_append_drop, value]

/-- The plain text of a number without a sign and without places before the point is a
numeral that denotes it. -/
theorem exists_plain {number : Finite} (unsigned : number.negative = false) (places : number.exponent ≤ 0) :
    ∃ whole fraction, Numeral number.plain whole fraction ∧ Finite.ofDigits whole fraction = number := by
  obtain ⟨whole, fraction, numeral, length, value⟩ :=
    exists_pointed (digits_toDigits number.coefficient) Nat.toDigits_ne_nil number.exponent.natAbs
  refine ⟨whole, fraction, ?_, ?_⟩
  · rwa [Finite.plain, if_pos places, unsigned]
  · obtain ⟨negative, coefficient, exponent⟩ := number
    subst unsigned
    rw [Finite.ofDigits, value, Nat.ofDigitChars_ten_toDigits, length]
    simp only [Finite.mk.injEq, true_and]
    simp only at places
    omega

end Numeral

end DecimalFormula.Decimal
