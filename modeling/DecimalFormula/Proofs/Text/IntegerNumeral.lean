import Mathlib
import DecimalFormula.Proofs.Decimal.Scientific

/-!
# The language of integer numerals

What the reader of integers takes: an optional sign, then digits of any script with
single underscores between them, and around it the white space that integers admit. The
reader accepts these texts and no others, up to the limit on digits.
-/

set_option autoImplicit false

namespace DecimalFormula.Text

open Decimal

/-- Digits of any script with single underscores between them, and the same digits in ASCII. -/
inductive GroupedDigits : List Char → List Char → Prop where
  | single {c : Char} {value : Nat} : digitValue? c = some value → GroupedDigits [c] [Nat.digitChar value]
  | next {c : Char} {value : Nat} {text digits : List Char} :
      digitValue? c = some value → GroupedDigits text digits → GroupedDigits (c :: text) (Nat.digitChar value :: digits)
  | underscore {c : Char} {value : Nat} {text digits : List Char} :
      digitValue? c = some value → GroupedDigits text digits →
      GroupedDigits (c :: '_' :: text) (Nat.digitChar value :: digits)

/-- The texts of integers without anything around them. -/
inductive IntegerNumeral : List Char → Int → Prop where
  | signed {sign text digits : List Char} {negative : Bool} :
      SpelledSign sign negative → GroupedDigits text digits → digits.length ≤ 4300 →
      IntegerNumeral (sign ++ text) (signedInteger negative (Nat.ofDigitChars 10 digits 0))

/-- White space that may stand around an integer. -/
def IntegerMargin (text : List Char) : Prop :=
  ∀ c ∈ text, isIntegerMargin c = true

/-!
## Digits of any script
-/

theorem exists_zero_of_digitValue? {c : Char} {value : Nat} (found : digitValue? c = some value) :
    ∃ first ∈ digitZeros, c.toNat = first + value ∧ value < 10 := by
  obtain ⟨first, isFirst, rfl⟩ := Option.map_eq_some_iff.mp found
  have range := List.find?_some isFirst
  simp only [Bool.and_eq_true, decide_eq_true_eq] at range
  exact ⟨first, List.mem_of_find?_eq_some isFirst, by omega, by omega⟩

theorem isBlank_of_digitValue? {c : Char} {value : Nat} (found : digitValue? c = some value) : isBlank c = false := by
  have apart : ∀ first ∈ digitZeros, ∀ value < 10, isBlank (Char.ofNat (first + value)) = false := by
    decide +kernel
  obtain ⟨first, member, code, small⟩ := exists_zero_of_digitValue? found
  have visible := apart first member value small
  rwa [← code, Char.ofNat_toNat] at visible

theorem isDigit_digitChar {value : Nat} (small : value < 10) : (Nat.digitChar value).isDigit = true := by
  have all : ∀ value < 10, (Nat.digitChar value).isDigit = true := by decide
  exact all value small

theorem digitValue?_of_isDigit {c : Char} (digit : c.isDigit = true) : digitValue? c = some (c.toNat - 48) := by
  have range : 48 ≤ c.toNat ∧ c.toNat < 48 + 10 := (Char.isDigit_iff_toNat.mp digit).imp_right Nat.lt_succ_of_le
  simp [digitValue?, digitZeros, range.1, range.2]

theorem ne_of_digitValue? {c mark : Char} {value : Nat} (found : digitValue? c = some value)
    (unchanged : digitValue? mark = none) : c ≠ mark := by
  intro same
  rw [same, unchanged] at found
  cases found

theorem asciiDigit_of_digitValue? {c : Char} {value : Nat} (found : digitValue? c = some value) :
    asciiDigit c = Nat.digitChar value := by
  rw [asciiDigit, found]

theorem asciiDigit_eq_self {c : Char} (noDigit : digitValue? c = none) : asciiDigit c = c := by
  rw [asciiDigit, noDigit]

/-- What counts as a digit in a numeral is a digit of some script. -/
theorem isDigit_asciiDigit_iff {c : Char} : (asciiDigit c).isDigit = true ↔ ∃ value, digitValue? c = some value := by
  cases found : digitValue? c with
  | none =>
      rw [asciiDigit_eq_self found]
      constructor
      · intro digit
        rw [digitValue?_of_isDigit digit] at found
        cases found
      · intro present
        cases present.choose_spec
  | some value =>
      obtain ⟨_, _, _, small⟩ := exists_zero_of_digitValue? found
      rw [asciiDigit_of_digitValue? found]
      exact iff_of_true (isDigit_digitChar small) ⟨value, rfl⟩

/-- A character that is no digit is told apart as well when digits have become ASCII digits. -/
theorem asciiDigit_eq_iff {c mark : Char} (noDigit : mark.isDigit = false) (unchanged : digitValue? mark = none) :
    asciiDigit c = mark ↔ c = mark := by
  constructor
  · intro same
    cases found : digitValue? c with
    | none => rwa [asciiDigit_eq_self found] at same
    | some value =>
        have digit := isDigit_asciiDigit_iff.mpr ⟨value, found⟩
        rw [same, noDigit] at digit
        cases digit
  · intro same
    rw [same, asciiDigit_eq_self unchanged]

theorem isIntegerMargin_of_visible {c : Char} (visible : isBlank c = false) : isIntegerMargin c = false := by
  rw [isIntegerMargin, visible, Bool.false_and]

theorem isIntegerMargin_asciiDigit (c : Char) : isIntegerMargin (asciiDigit c) = isIntegerMargin c := by
  cases found : digitValue? c with
  | none => rw [asciiDigit_eq_self found]
  | some value =>
      have digit := isDigit_asciiDigit_iff.mpr ⟨value, found⟩
      rw [isIntegerMargin_of_visible (isBlank_of_isDigit digit),
        isIntegerMargin_of_visible (isBlank_of_digitValue? found)]

/-!
## Margins
-/

theorem trimIntegerMargin_map (text : List Char) :
    trimIntegerMargin (text.map asciiDigit) = (trimIntegerMargin text).map asciiDigit := by
  have same : isIntegerMargin ∘ asciiDigit = isIntegerMargin := funext isIntegerMargin_asciiDigit
  simp only [trimIntegerMargin, List.dropWhile_map, ← List.map_reverse, same]

theorem exists_trimIntegerMargin (text : List Char) :
    ∃ before after, text = before ++ (trimIntegerMargin text ++ after) ∧ IntegerMargin before ∧ IntegerMargin after := by
  have front := List.takeWhile_append_dropWhile (p := isIntegerMargin) (l := text)
  have back := List.takeWhile_append_dropWhile (p := isIntegerMargin) (l := (text.dropWhile isIntegerMargin).reverse)
  refine ⟨text.takeWhile isIntegerMargin,
    ((text.dropWhile isIntegerMargin).reverse.takeWhile isIntegerMargin).reverse, ?_, ?_, ?_⟩
  · rw [trimIntegerMargin, ← List.reverse_append, back, List.reverse_reverse, front]
  · exact fun _ member => List.mem_takeWhile_imp member
  · exact fun _ member => List.mem_takeWhile_imp (List.mem_reverse.mp member)

theorem dropWhile_margin {margin text : List Char} (only : IntegerMargin margin)
    (noMargin : ∀ c ∈ text, isIntegerMargin c = false) (nonempty : text ≠ []) (rest : List Char) :
    (margin ++ (text ++ rest)).dropWhile isIntegerMargin = text ++ rest := by
  obtain ⟨first, others, rfl⟩ := List.exists_cons_of_ne_nil nonempty
  rw [List.dropWhile_append_of_pos only, List.cons_append, List.dropWhile_cons_of_neg]
  simp [noMargin first List.mem_cons_self]

theorem trimIntegerMargin_margins {before text after : List Char} (beforeMargin : IntegerMargin before)
    (noMargin : ∀ c ∈ text, isIntegerMargin c = false) (nonempty : text ≠ []) (afterMargin : IntegerMargin after) :
    trimIntegerMargin (before ++ (text ++ after)) = text := by
  have backMargin : IntegerMargin after.reverse := fun c member => afterMargin c (List.mem_reverse.mp member)
  have backNoMargin : ∀ c ∈ text.reverse, isIntegerMargin c = false := fun c member =>
    noMargin c (List.mem_reverse.mp member)
  have back := dropWhile_margin backMargin backNoMargin (mt List.reverse_eq_nil_iff.mp nonempty) []
  rw [List.append_nil] at back
  rw [trimIntegerMargin, dropWhile_margin beforeMargin noMargin nonempty, List.reverse_append, back,
    List.reverse_reverse]

/-!
## Numerals
-/

theorem splitSign_map (text : List Char) :
    splitSign (text.map asciiDigit) = ((splitSign text).1, (splitSign text).2.map asciiDigit) := by
  have minus {c : Char} : asciiDigit c = '-' ↔ c = '-' := asciiDigit_eq_iff rfl (by decide)
  have plus {c : Char} : asciiDigit c = '+' ↔ c = '+' := asciiDigit_eq_iff rfl (by decide)
  cases text with
  | nil => rfl
  | cons c rest =>
      by_cases isMinus : c = '-'
      · subst isMinus
        rw [List.map_cons, minus.mpr rfl]
        rfl
      by_cases isPlus : c = '+'
      · subst isPlus
        rw [List.map_cons, plus.mpr rfl]
        rfl
      rw [List.map_cons, splitSign_of_ne (mt minus.mp isMinus) (mt plus.mp isPlus), splitSign_of_ne isMinus isPlus,
        List.map_cons]

theorem asciiDigit_underscore_iff {c : Char} : asciiDigit c = '_' ↔ c = '_' :=
  asciiDigit_eq_iff rfl (by decide)

theorem ungrouped?_underscore (c : Char) (rest : List Char) :
    ungrouped? (c :: '_' :: rest) = if c.isDigit then (ungrouped? rest).map (c :: ·) else none := by
  rw [ungrouped?]

theorem ungrouped?_next (c : Char) {second : Char} (noUnderscore : second ≠ '_') (rest : List Char) :
    ungrouped? (c :: second :: rest) =
      if c.isDigit then (ungrouped? (second :: rest)).map (c :: ·) else none := by
  rw [ungrouped?]
  · exact nofun
  · intro others same
    exact noUnderscore (List.cons.inj same).1

theorem GroupedDigits.exists_cons {text digits : List Char} (grouped : GroupedDigits text digits) :
    ∃ first rest value, text = first :: rest ∧ digitValue? first = some value := by
  cases grouped with
  | single found | next found | underscore found => exact ⟨_, _, _, rfl, found⟩

theorem GroupedDigits.ungrouped?_eq {text digits : List Char} (grouped : GroupedDigits text digits) :
    ungrouped? (text.map asciiDigit) = some digits := by
  induction grouped with
  | single found =>
      have digit := isDigit_asciiDigit_iff.mpr ⟨_, found⟩
      rw [List.map_singleton, ungrouped?, if_pos digit, asciiDigit_of_digitValue? found]
  | next found grouped ih =>
      have digit := isDigit_asciiDigit_iff.mpr ⟨_, found⟩
      obtain ⟨second, rest, value, rfl, secondFound⟩ := grouped.exists_cons
      have noUnderscore : asciiDigit second ≠ '_' :=
        ne_of_isDigit (isDigit_asciiDigit_iff.mpr ⟨value, secondFound⟩) (by decide)
      rw [List.map_cons] at ih
      rw [List.map_cons, List.map_cons, ungrouped?_next _ noUnderscore, if_pos digit, ih,
        asciiDigit_of_digitValue? found, Option.map_some]
  | underscore found _ ih =>
      have digit := isDigit_asciiDigit_iff.mpr ⟨_, found⟩
      rw [List.map_cons, List.map_cons, asciiDigit_underscore_iff.mpr rfl, ungrouped?_underscore, if_pos digit, ih,
        asciiDigit_of_digitValue? found, Option.map_some]

/-- Where digits are read, they stand in groups. The recursion is that of the reader. -/
theorem groupedDigits_of_ungrouped? : ∀ {text digits : List Char},
    ungrouped? (text.map asciiDigit) = some digits → GroupedDigits text digits
  | [], _, read => nomatch read
  | [c], _, read => by
      rw [List.map_singleton, ungrouped?] at read
      split at read
      · next digit =>
          obtain ⟨value, found⟩ := isDigit_asciiDigit_iff.mp digit
          cases read
          rw [asciiDigit_of_digitValue? found]
          exact .single found
      · cases read
  | c :: second :: rest, _, read => by
      by_cases underscore : second = '_'
      · subst underscore
        rw [List.map_cons, List.map_cons, asciiDigit_underscore_iff.mpr rfl, ungrouped?_underscore] at read
        split at read
        · next digit =>
            obtain ⟨value, found⟩ := isDigit_asciiDigit_iff.mp digit
            obtain ⟨others, othersRead, rfl⟩ := Option.map_eq_some_iff.mp read
            rw [asciiDigit_of_digitValue? found]
            exact .underscore found (groupedDigits_of_ungrouped? othersRead)
        · cases read
      · have noUnderscore := mt asciiDigit_underscore_iff.mp underscore
        rw [List.map_cons, List.map_cons, ungrouped?_next _ noUnderscore] at read
        split at read
        · next digit =>
            obtain ⟨value, found⟩ := isDigit_asciiDigit_iff.mp digit
            obtain ⟨others, othersRead, rfl⟩ := Option.map_eq_some_iff.mp read
            have grouped : GroupedDigits (second :: rest) others := groupedDigits_of_ungrouped? othersRead
            rw [asciiDigit_of_digitValue? found]
            exact .next found grouped
        · cases read

/-!
## Whole texts
-/

theorem GroupedDigits.noMargin {text digits : List Char} (grouped : GroupedDigits text digits) :
    ∀ c ∈ text, isIntegerMargin c = false := by
  have noMargin {c : Char} {value : Nat} (found : digitValue? c = some value) : isIntegerMargin c = false :=
    isIntegerMargin_of_visible (isBlank_of_digitValue? found)
  induction grouped with
  | single found => exact List.forall_mem_singleton.mpr (noMargin found)
  | next found _ ih => exact List.forall_mem_cons.mpr ⟨noMargin found, ih⟩
  | underscore found _ ih =>
      exact List.forall_mem_cons.mpr ⟨noMargin found, List.forall_mem_cons.mpr ⟨by decide, ih⟩⟩

theorem GroupedDigits.splitSign_append {sign text digits : List Char} {negative : Bool}
    (signed : SpelledSign sign negative) (grouped : GroupedDigits text digits) :
    splitSign (sign ++ text) = (negative, text) := by
  cases signed with
  | plus | minus => rfl
  | absent =>
      obtain ⟨first, rest, value, rfl, found⟩ := grouped.exists_cons
      exact splitSign_of_ne (ne_of_digitValue? found (by decide)) (ne_of_digitValue? found (by decide)) rest

/-- A text is read as an integer exactly if it is the text of the integer with nothing but white
space that integers admit around it. -/
theorem readInteger?_eq_some_iff {text : String} {number : Int} :
    readInteger? text = some number ↔
      ∃ before numeral after, text.toList = before ++ (numeral ++ after) ∧ IntegerMargin before ∧
        IntegerNumeral numeral number ∧ IntegerMargin after := by
  have read : readInteger? text = (ungrouped? ((splitSign (trimIntegerMargin text.toList)).2.map asciiDigit)).bind
      fun digits => if digits.length ≤ maxIntegerDigits then
        some (signedInteger (splitSign (trimIntegerMargin text.toList)).1 (Nat.ofDigitChars 10 digits 0))
      else none := by
    simp only [readInteger?, trimIntegerMargin_map, splitSign_map, Option.bind_eq_bind]
  rw [read, Option.bind_eq_some_iff]
  constructor
  · intro found
    obtain ⟨digits, grouped, short⟩ := found
    obtain ⟨before, after, split, beforeMargin, afterMargin⟩ := exists_trimIntegerMargin text.toList
    obtain ⟨sign, numeral, signed⟩ := exists_spelledSign (trimIntegerMargin text.toList)
    split at short
    · next few =>
        cases short
        have spelled := IntegerNumeral.signed signed (groupedDigits_of_ungrouped? grouped) few
        rw [← numeral] at spelled
        exact ⟨before, _, after, split, beforeMargin, spelled, afterMargin⟩
    · cases short
  · intro spelled
    obtain ⟨before, numeral, after, split, beforeMargin, spelled, afterMargin⟩ := spelled
    cases spelled with
    | @signed sign grouped digits negative signed isGrouped few =>
        have noMargin : ∀ c ∈ sign ++ grouped, isIntegerMargin c = false := by
          refine List.forall_mem_append.mpr ⟨?_, isGrouped.noMargin⟩
          cases signed with
          | absent => exact List.forall_mem_nil _
          | plus | minus => exact List.forall_mem_singleton.mpr (by decide)
        obtain ⟨first, rest, value, rfl, _⟩ := isGrouped.exists_cons
        have nonempty : sign ++ first :: rest ≠ [] := List.append_ne_nil_of_right_ne_nil _ (List.cons_ne_nil _ _)
        rw [split, trimIntegerMargin_margins beforeMargin noMargin nonempty afterMargin,
          isGrouped.splitSign_append signed]
        exact ⟨digits, isGrouped.ungrouped?_eq, if_pos few⟩

end DecimalFormula.Text
