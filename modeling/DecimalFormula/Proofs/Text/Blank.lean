import Mathlib
import DecimalFormula.Text.Blank
import DecimalFormula.Text.Digit

/-!
# Runs of white space and of digits

Skipping white space leaves what stands after a run of it, and stripping a text
leaves what stands between two runs. Digits are told apart from white space and from
every punctuation mark, so that a run of them ends where something else begins.
-/

set_option autoImplicit false

namespace DecimalFormula.Text

/-- A text of white space only. -/
def Blank (text : List Char) : Prop :=
  ∀ c ∈ text, isBlank c = true

/-- A text without white space. -/
def Visible (text : List Char) : Prop :=
  ∀ c ∈ text, isBlank c = false

/-- A text of ASCII digits only. -/
def Digits (text : List Char) : Prop :=
  ∀ c ∈ text, c.isDigit = true

theorem Blank.nil : Blank [] :=
  fun _ member => absurd member List.not_mem_nil

theorem Blank.append {first second : List Char} (firstBlank : Blank first) (secondBlank : Blank second) :
    Blank (first ++ second) := by
  intro c member
  rcases List.mem_append.mp member with inFirst | inSecond
  · exact firstBlank c inFirst
  · exact secondBlank c inSecond

theorem Blank.not_mem {blank : List Char} (only : Blank blank) {c : Char} (visible : isBlank c = false) : c ∉ blank :=
  fun member => Bool.false_ne_true (visible.symm.trans (only c member))

theorem Digits.not_mem {digits : List Char} (only : Digits digits) {c : Char} (noDigit : c.isDigit = false) :
    c ∉ digits :=
  fun member => Bool.false_ne_true (noDigit.symm.trans (only c member))

theorem Digits.append {first second : List Char} (firstDigits : Digits first) (secondDigits : Digits second) :
    Digits (first ++ second) := by
  intro c member
  rcases List.mem_append.mp member with inFirst | inSecond
  · exact firstDigits c inFirst
  · exact secondDigits c inSecond

theorem Digits.visible {digits : List Char} (only : Digits digits) : Visible digits :=
  fun c member => isBlank_of_isDigit (only c member)

theorem not_isDigit_of_isBlank {c : Char} (blank : isBlank c = true) : c.isDigit = false := by
  cases digit : c.isDigit with
  | false => rfl
  | true => exact absurd blank (by simp [isBlank_of_isDigit digit])

theorem ne_of_isDigit {c other : Char} (digit : c.isDigit = true) (noDigit : other.isDigit = false) :
    c ≠ other := by
  rintro rfl
  exact Bool.false_ne_true (noDigit.symm.trans digit)

/-- What may follow a run of digits: nothing that would make it longer. -/
def EndsDigits (rest : List Char) : Prop :=
  ∀ c ∈ rest.head?, c.isDigit = false

theorem EndsDigits.nil : EndsDigits [] :=
  fun _ first => nomatch first

theorem EndsDigits.cons {c : Char} (noDigit : c.isDigit = false) (rest : List Char) : EndsDigits (c :: rest) := by
  intro first isFirst
  obtain rfl : c = first := Option.some.inj isFirst
  exact noDigit

theorem Blank.endsDigits {blank : List Char} (only : Blank blank) : EndsDigits blank :=
  fun _ first => not_isDigit_of_isBlank (only _ (List.mem_of_head? first))

theorem EndsDigits.takeWhile_eq_nil {rest : List Char} (ends : EndsDigits rest) :
    rest.takeWhile Char.isDigit = [] := by
  cases rest with
  | nil => rfl
  | cons c others => simp [ends c rfl]

theorem EndsDigits.dropWhile_eq_self {rest : List Char} (ends : EndsDigits rest) :
    rest.dropWhile Char.isDigit = rest := by
  cases rest with
  | nil => rfl
  | cons c others => simp [ends c rfl]

theorem Digits.takeWhile_append {digits rest : List Char} (only : Digits digits) (ends : EndsDigits rest) :
    (digits ++ rest).takeWhile Char.isDigit = digits := by
  rw [List.takeWhile_append_of_pos only, ends.takeWhile_eq_nil, List.append_nil]

theorem Digits.dropWhile_append {digits rest : List Char} (only : Digits digits) (ends : EndsDigits rest) :
    (digits ++ rest).dropWhile Char.isDigit = rest := by
  rw [List.dropWhile_append_of_pos only, ends.dropWhile_eq_self]

/-- What follows does not change the digits at the start of a text. -/
theorem EndsDigits.takeWhile_append {rest : List Char} (ends : EndsDigits rest) (text : List Char) :
    (text ++ rest).takeWhile Char.isDigit = text.takeWhile Char.isDigit := by
  induction text with
  | nil => exact ends.takeWhile_eq_nil
  | cons c others ih => cases digit : c.isDigit <;> simp [digit, ih]

theorem EndsDigits.dropWhile_append {rest : List Char} (ends : EndsDigits rest) (text : List Char) :
    (text ++ rest).dropWhile Char.isDigit = text.dropWhile Char.isDigit ++ rest := by
  induction text with
  | nil => exact ends.dropWhile_eq_self
  | cons c others ih => cases digit : c.isDigit <;> simp [digit, ih]

theorem digits_takeWhile (text : List Char) : Digits (text.takeWhile Char.isDigit) :=
  fun _ member => List.mem_takeWhile_imp member

theorem endsDigits_dropWhile (text : List Char) : EndsDigits (text.dropWhile Char.isDigit) := by
  intro c first
  have stopped := List.head?_dropWhile_not Char.isDigit text
  rw [Option.mem_def.mp first] at stopped
  exact stopped

theorem digits_replicate_zero (count : Nat) : Digits (List.replicate count '0') := by
  intro c member
  rw [List.eq_of_mem_replicate member]
  decide

/-- The value of digits is below the power of ten that has as many zeros. -/
theorem Digits.ofDigitChars_lt {digits : List Char} (only : Digits digits) :
    Nat.ofDigitChars 10 digits 0 < 10 ^ digits.length := by
  induction digits with
  | nil => simp
  | cons digit others ih =>
      have value := ih fun c member => only c (List.mem_cons_of_mem _ member)
      have leading : digit.toNat - '0'.toNat ≤ 9 :=
        Nat.sub_le_of_le_add (Char.isDigit_iff_toNat.mp (only digit List.mem_cons_self)).2
      rw [Nat.ofDigitChars_cons, Nat.ofDigitChars_eq_ofDigitChars_zero, List.length_cons]
      calc 10 ^ others.length * (10 * 0 + (digit.toNat - '0'.toNat)) + Nat.ofDigitChars 10 others 0
          < 10 ^ others.length * (digit.toNat - '0'.toNat) + 10 ^ others.length := by
            rw [Nat.mul_zero, Nat.zero_add]
            exact Nat.add_lt_add_left value _
        _ ≤ 10 ^ others.length * 9 + 10 ^ others.length :=
            Nat.add_le_add_right (Nat.mul_le_mul_left _ leading) _
        _ = 10 ^ (others.length + 1) := by ring

/-!
## Skipping
-/

theorem skipBlanks_append {blank : List Char} (only : Blank blank) (rest : List Char) :
    skipBlanks (blank ++ rest) = skipBlanks rest :=
  List.dropWhile_append_of_pos only

theorem skipBlanks_eq_nil {text : List Char} (only : Blank text) : skipBlanks text = [] :=
  List.dropWhile_eq_nil_iff.mpr only

theorem skipBlanks_cons {c : Char} (visible : isBlank c = false) (rest : List Char) :
    skipBlanks (c :: rest) = c :: rest := by
  simp [skipBlanks, visible]

/-- White space before a visible character is skipped, and nothing else. -/
theorem skipBlanks_append_cons {blank : List Char} (only : Blank blank) {c : Char} (visible : isBlank c = false)
    (rest : List Char) : skipBlanks (blank ++ c :: rest) = c :: rest := by
  rw [skipBlanks_append only, skipBlanks_cons visible]

theorem exists_skipBlanks (text : List Char) : ∃ blank, Blank blank ∧ text = blank ++ skipBlanks text :=
  ⟨text.takeWhile isBlank, fun _ member => List.mem_takeWhile_imp member, List.takeWhile_append_dropWhile.symm⟩

theorem visible_of_skipBlanks {text rest : List Char} {c : Char} (skipped : skipBlanks text = c :: rest) :
    isBlank c = false := by
  have stopped := List.head?_dropWhile_not isBlank text
  rw [← skipBlanks, skipped] at stopped
  exact stopped

@[simp] theorem skipBlanks_skipBlanks (text : List Char) : skipBlanks (skipBlanks text) = skipBlanks text := by
  cases skipped : skipBlanks text with
  | nil => rfl
  | cons c rest => exact skipBlanks_cons (visible_of_skipBlanks skipped) rest

/-!
## Stripping
-/

theorem exists_trimEnd (text : List Char) : ∃ after, Blank after ∧ text = trimEnd text ++ after := by
  obtain ⟨blank, only, split⟩ := exists_skipBlanks text.reverse
  refine ⟨blank.reverse, fun c member => only c (List.mem_reverse.mp member), ?_⟩
  rw [trimEnd, ← List.reverse_append, ← skipBlanks, ← split, List.reverse_reverse]

theorem exists_strip (text : List Char) :
    ∃ before after, Blank before ∧ Blank after ∧ text = before ++ strip text ++ after := by
  obtain ⟨before, beforeBlank, split⟩ := exists_skipBlanks text
  obtain ⟨after, afterBlank, trimmed⟩ := exists_trimEnd (skipBlanks text)
  refine ⟨before, after, beforeBlank, afterBlank, ?_⟩
  rw [List.append_assoc, strip, ← trimmed, ← split]

theorem strip_append {blank : List Char} (only : Blank blank) (rest : List Char) :
    strip (blank ++ rest) = strip rest := by
  rw [strip, skipBlanks_append only, strip]

theorem strip_eq_nil_iff {text : List Char} : strip text = [] ↔ Blank text := by
  constructor
  · intro empty
    obtain ⟨before, after, beforeBlank, afterBlank, margins⟩ := exists_strip text
    rw [empty, List.append_nil] at margins
    rw [margins]
    exact beforeBlank.append afterBlank
  · intro only
    rw [strip, skipBlanks_eq_nil only]
    rfl

theorem Visible.singleton {c : Char} (visible : isBlank c = false) : Visible [c] :=
  List.forall_mem_singleton.mpr visible

theorem Visible.skipBlanks_append {text : List Char} (visible : Visible text) (nonempty : text ≠ [])
    (rest : List Char) : skipBlanks (text ++ rest) = text ++ rest := by
  cases text with
  | nil => exact absurd rfl nonempty
  | cons c others => exact skipBlanks_cons (visible c List.mem_cons_self) _

theorem Visible.trimEnd_append {text after : List Char} (visible : Visible text) (nonempty : text ≠ [])
    (afterBlank : Blank after) : trimEnd (text ++ after) = text := by
  have reversed : Visible text.reverse := fun c member => visible c (List.mem_reverse.mp member)
  have skipped := reversed.skipBlanks_append (mt List.reverse_eq_nil_iff.mp nonempty) []
  have afterReversed : Blank after.reverse := fun c member => afterBlank c (List.mem_reverse.mp member)
  rw [List.append_nil] at skipped
  rw [trimEnd, List.reverse_append, ← skipBlanks, Text.skipBlanks_append afterReversed, skipped,
    List.reverse_reverse]

/-- A visible text with white space around it is what stripping leaves. -/
theorem Visible.strip_margins {before text after : List Char} (visible : Visible text) (nonempty : text ≠ [])
    (beforeBlank : Blank before) (afterBlank : Blank after) : strip (before ++ (text ++ after)) = text := by
  rw [strip, Text.skipBlanks_append beforeBlank, visible.skipBlanks_append nonempty,
    visible.trimEnd_append nonempty afterBlank]

theorem length_strip_le (text : List Char) : (strip text).length ≤ text.length := by
  obtain ⟨before, after, _, _, margins⟩ := exists_strip text
  conv_rhs => rw [margins]
  simp only [List.length_append]
  omega

/-- The digits in front of a text are as long as the text without the white space after it exactly
if they are all of that. -/
theorem length_takeWhile_eq_length_strip_iff {text : List Char} (starts : skipBlanks text = text) :
    (text.takeWhile Char.isDigit).length = (strip text).length ↔ Digits (strip text) := by
  obtain ⟨after, afterBlank, trimmed⟩ := exists_trimEnd text
  have stripped : text = strip text ++ after := by rw [strip, starts, ← trimmed]
  constructor
  · intro sameLength
    have front : strip text <+: text := ⟨after, stripped.symm⟩
    have shorter := List.prefix_of_prefix_length_le (List.takeWhile_prefix Char.isDigit) front sameLength.le
    rw [← shorter.eq_of_length sameLength]
    exact digits_takeWhile text
  · intro only
    conv_lhs => rw [stripped, only.takeWhile_append afterBlank.endsDigits]

/-!
## ASCII digits among the digits of all scripts
-/

/-- An ASCII digit stands for itself. -/
theorem asciiDigit_of_isDigit {c : Char} (digit : c.isDigit = true) : asciiDigit c = c := by
  have range : 48 ≤ c.toNat ∧ c.toNat < 48 + 10 := (Char.isDigit_iff_toNat.mp digit).imp_right Nat.lt_succ_of_le
  have written : ∀ value < 10, Nat.digitChar value = Char.ofNat (48 + value) := by decide
  have value : digitValue? c = some (c.toNat - 48) := by
    simp [digitValue?, digitZeros, range.1, range.2]
  rw [asciiDigit, value]
  simp only
  rw [written _ (by omega), show 48 + (c.toNat - 48) = c.toNat by omega, Char.ofNat_toNat]

end DecimalFormula.Text
