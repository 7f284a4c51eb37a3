import Mathlib
import DecimalFormula.Expr.Lexeme
import DecimalFormula.Proofs.Text.Blank

/-!
# Indices in braces

The text after an opening brace is an index exactly if digits follow, with white space
around them, up to the first closing brace. What it is read as otherwise depends on
whether such a brace follows, and on whether there is anything but white space before it.
-/

set_option autoImplicit false

namespace DecimalFormula.Lexeme

open Text

theorem ne_brace_of_mem {content : List Char} (inside : '}' ∉ content) : ∀ c ∈ content, decide (c ≠ '}') = true := by
  intro c member
  rw [decide_eq_true_eq]
  rintro rfl
  exact inside member

theorem takeWhile_append_brace {content : List Char} (inside : '}' ∉ content) (rest : List Char) :
    (content ++ '}' :: rest).takeWhile (· ≠ '}') = content := by
  rw [List.takeWhile_append_of_pos (ne_brace_of_mem inside)]
  simp

theorem dropWhile_append_brace {content : List Char} (inside : '}' ∉ content) (rest : List Char) :
    (content ++ '}' :: rest).dropWhile (· ≠ '}') = '}' :: rest := by
  rw [List.dropWhile_append_of_pos (ne_brace_of_mem inside)]
  simp

/-- What is neither a digit nor white space stands in no index. -/
theorem not_mem_spaced {before digits after : List Char} (beforeBlank : Blank before) (only : Digits digits)
    (afterBlank : Blank after) {c : Char} (visible : isBlank c = false) (noDigit : c.isDigit = false) :
    c ∉ before ++ (digits ++ after) := by
  simp only [List.mem_append, not_or]
  exact ⟨beforeBlank.not_mem visible, only.not_mem noDigit, afterBlank.not_mem visible⟩

/-- Digits with white space around them are an index, if they are not too many. -/
theorem braced_digits {before digits after : List Char} (beforeBlank : Blank before) (only : Digits digits)
    (nonempty : digits ≠ []) (afterBlank : Blank after) (rest : List Char) :
    braced (before ++ (digits ++ after) ++ '}' :: rest) =
      if digits.length ≤ maxIntegerDigits then .index (Nat.ofDigitChars 10 digits 0) rest
      else .tooLong digits.length rest := by
  have inside : '}' ∉ before ++ (digits ++ after) :=
    not_mem_spaced beforeBlank only afterBlank (by decide) (by decide)
  have allDigits : digits.all Char.isDigit = true := List.all_eq_true.mpr only
  obtain ⟨digit, others, rfl⟩ := List.exists_cons_of_ne_nil nonempty
  rw [braced, dropWhile_append_brace inside, takeWhile_append_brace inside,
    only.visible.strip_margins nonempty beforeBlank afterBlank]
  simp only [allDigits, if_true]

theorem braced_of_not_mem {text : List Char} (unclosed : '}' ∉ text) : braced text = .unmatched := by
  have passed : text.dropWhile (· ≠ '}') = [] := List.dropWhile_eq_nil_iff.mpr (ne_brace_of_mem unclosed)
  rw [braced, passed]

theorem braced_blank {blank : List Char} (only : Blank blank) (rest : List Char) :
    braced (blank ++ '}' :: rest) = .missing ('}' :: rest) := by
  have inside : '}' ∉ blank := only.not_mem (by decide)
  rw [braced, dropWhile_append_brace inside, takeWhile_append_brace inside, strip_eq_nil_iff.mpr only]

/-- What is neither white space nor digits with white space around them is no index. -/
theorem braced_of_no_digits {content : List Char} (inside : '}' ∉ content) (visible : strip content ≠ [])
    (noDigits : ¬ Digits (strip content)) (rest : List Char) :
    braced (content ++ '}' :: rest) = .malformed (strip content) (skipBlanks (content ++ '}' :: rest)) := by
  have notAll : ¬ (strip content).all Char.isDigit = true := mt List.all_eq_true.mp noDigits
  obtain ⟨first, others, found⟩ := List.exists_cons_of_ne_nil visible
  rw [found] at notAll
  rw [braced, dropWhile_append_brace inside, takeWhile_append_brace inside, found]
  simp only [if_neg notAll]

/-- What a text after an opening brace is read as, by what it is made of. -/
inductive Reads : List Char → Braced → Prop where
  | index {before digits after rest : List Char} :
      Blank before → Digits digits → digits ≠ [] → Blank after → digits.length ≤ maxIntegerDigits →
      Reads (before ++ (digits ++ after) ++ '}' :: rest) (.index (Nat.ofDigitChars 10 digits 0) rest)
  | tooLong {before digits after rest : List Char} :
      Blank before → Digits digits → digits ≠ [] → Blank after → maxIntegerDigits < digits.length →
      Reads (before ++ (digits ++ after) ++ '}' :: rest) (.tooLong digits.length rest)
  | unmatched {text : List Char} : '}' ∉ text → Reads text .unmatched
  | missing {blank rest : List Char} : Blank blank → Reads (blank ++ '}' :: rest) (.missing ('}' :: rest))
  | malformed {content rest : List Char} : '}' ∉ content → strip content ≠ [] → ¬ Digits (strip content) →
      Reads (content ++ '}' :: rest) (.malformed (strip content) (skipBlanks (content ++ '}' :: rest)))

theorem reads_braced (text : List Char) : Reads text (braced text) := by
  by_cases closed : '}' ∈ text
  · obtain ⟨content, rest, rfl, inside⟩ := List.eq_append_cons_of_mem closed
    by_cases visible : strip content = []
    · have blank := strip_eq_nil_iff.mp visible
      rw [braced_blank blank]
      exact .missing blank
    by_cases only : Digits (strip content)
    · obtain ⟨before, after, beforeBlank, afterBlank, margins⟩ := exists_strip content
      rw [margins, List.append_assoc before, braced_digits beforeBlank only visible afterBlank]
      split
      · next short => exact .index beforeBlank only visible afterBlank short
      · next long => exact .tooLong beforeBlank only visible afterBlank (Nat.lt_of_not_le long)
    · rw [braced_of_no_digits inside visible only]
      exact .malformed inside visible only
  · rw [braced_of_not_mem closed]
    exact .unmatched closed

/-- An index stands between white space before the first closing brace. -/
theorem exists_of_braced_index {text rest : List Char} {value : Nat} (read : braced text = .index value rest) :
    ∃ before digits after, Blank before ∧ Digits digits ∧ digits ≠ [] ∧ Blank after ∧
      digits.length ≤ maxIntegerDigits ∧ value = Nat.ofDigitChars 10 digits 0 ∧
      text = before ++ (digits ++ after) ++ '}' :: rest := by
  have reads := reads_braced text
  rw [read] at reads
  cases reads with
  | index beforeBlank only nonempty afterBlank short =>
      exact ⟨_, _, _, beforeBlank, only, nonempty, afterBlank, short, rfl, rfl⟩

theorem exists_of_braced_tooLong {text rest : List Char} {count : Nat} (read : braced text = .tooLong count rest) :
    ∃ before digits after, Blank before ∧ Digits digits ∧ Blank after ∧ digits.length = count ∧
      maxIntegerDigits < count ∧ text = before ++ (digits ++ after) ++ '}' :: rest := by
  have reads := reads_braced text
  rw [read] at reads
  cases reads with
  | tooLong beforeBlank only _ afterBlank long => exact ⟨_, _, _, beforeBlank, only, afterBlank, rfl, long, rfl⟩

theorem not_mem_of_braced_unmatched {text : List Char} (read : braced text = .unmatched) : '}' ∉ text := by
  have reads := reads_braced text
  rw [read] at reads
  cases reads with
  | unmatched unclosed => exact unclosed

/-- Where no index is found, white space fills the braces. -/
theorem exists_of_braced_missing {text rest : List Char} (read : braced text = .missing rest) :
    ∃ blank others, Blank blank ∧ rest = '}' :: others ∧ text = blank ++ '}' :: others := by
  have reads := reads_braced text
  rw [read] at reads
  cases reads with
  | missing blank => exact ⟨_, _, blank, rfl, rfl⟩

theorem strip_prefix_skipBlanks {content : List Char} (nonempty : strip content ≠ []) (rest : List Char) :
    strip content <+: skipBlanks (content ++ rest) := by
  obtain ⟨after, _, trimmed⟩ := exists_trimEnd (skipBlanks content)
  have visible : skipBlanks content ≠ [] := by
    intro empty
    rw [strip, empty] at nonempty
    exact nonempty rfl
  have skipped : skipBlanks (content ++ rest) = skipBlanks content ++ rest := by
    rw [skipBlanks, List.dropWhile_append, if_neg (by simpa [skipBlanks] using visible)]
    rfl
  rw [skipped, trimmed, List.append_assoc]
  exact List.prefix_append _ _

/-- What is no index starts after the white space in the braces. -/
theorem exists_of_braced_malformed {text found rest : List Char} (read : braced text = .malformed found rest) :
    rest = skipBlanks text ∧ found <+: rest := by
  have reads := reads_braced text
  rw [read] at reads
  cases reads with
  | malformed _ visible _ => exact ⟨rfl, strip_prefix_skipBlanks visible _⟩

theorem braced_append {text rest : List Char} {value : Nat} (read : braced text = .index value rest)
    (more : List Char) : braced (text ++ more) = .index value (rest ++ more) := by
  obtain ⟨before, digits, after, beforeBlank, only, nonempty, afterBlank, short, rfl, rfl⟩ :=
    exists_of_braced_index read
  rw [List.append_assoc, List.cons_append, braced_digits beforeBlank only nonempty afterBlank, if_pos short]

/-- An opening brace is in no index, so that an index found before it ends there. -/
theorem exists_braced_of_append_opening {text tail rest : List Char} {value : Nat}
    (read : braced (text ++ '\x7b' :: tail) = .index value rest) : ∃ others, braced text = .index value others := by
  obtain ⟨before, digits, after, beforeBlank, only, nonempty, afterBlank, short, rfl, split⟩ :=
    exists_of_braced_index read
  rcases List.append_eq_append_iff.mp split with ⟨opened, content, later⟩ | ⟨closed, content, earlier⟩
  · have noOpening : '\x7b' ∉ before ++ (digits ++ after) :=
      not_mem_spaced beforeBlank only afterBlank (by decide) (by decide)
    cases opened with
    | nil => simp at later
    | cons first others =>
        obtain rfl : '\x7b' = first := (List.cons.inj later).1
        exact absurd (content ▸ List.mem_append_right _ List.mem_cons_self) noOpening
  · cases closed with
    | nil => simp at earlier
    | cons first others =>
        obtain rfl : '}' = first := (List.cons.inj earlier).1
        exact ⟨others, by rw [content, braced_digits beforeBlank only nonempty afterBlank, if_pos short]⟩

end DecimalFormula.Lexeme
