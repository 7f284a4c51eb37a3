import Mathlib
import DecimalFormula.Expr.Scanner
import DecimalFormula.Proofs.Expr.Braced
import DecimalFormula.Proofs.Expr.LongestNumeral
import DecimalFormula.Proofs.Text.Integer

/-!
# Braced references at a cursor

A braced reference can be found by separate scans: one for the closing brace, one over white
space, one over digits, and one over what stands up to the brace, without the white space
around it. If the digits are as long as that, nothing but white space stands around them. The
reader in one piece does the same at every cursor. What stands between the cursor and the first
closing brace decides whether an index is read, and if not, why, and where the cursor is left.
-/

set_option autoImplicit false

namespace DecimalFormula.Lexeme

open Text

/-- Digits with white space around them, and nothing else. -/
def SpacedDigits (content digits : List Char) : Prop :=
  ∃ before after, Blank before ∧ Digits digits ∧ digits ≠ [] ∧ Blank after ∧ content = before ++ (digits ++ after)

theorem SpacedDigits.not_mem {content digits : List Char} (spaced : SpacedDigits content digits) : '}' ∉ content := by
  obtain ⟨before, after, beforeBlank, only, _, afterBlank, rfl⟩ := spaced
  exact not_mem_spaced beforeBlank only afterBlank (by decide) (by decide)

theorem exists_spacedDigits_iff {content : List Char} :
    (∃ digits, SpacedDigits content digits) ↔ Digits (strip content) ∧ strip content ≠ [] := by
  constructor
  · intro spaced
    obtain ⟨digits, before, after, beforeBlank, only, nonempty, afterBlank, rfl⟩ := spaced
    rw [only.visible.strip_margins nonempty beforeBlank afterBlank]
    exact ⟨only, nonempty⟩
  · intro stripped
    obtain ⟨only, nonempty⟩ := stripped
    obtain ⟨before, after, beforeBlank, afterBlank, margins⟩ := exists_strip content
    exact ⟨_, before, after, beforeBlank, only, nonempty, afterBlank, by rw [← List.append_assoc, ← margins]⟩

end DecimalFormula.Lexeme

namespace DecimalFormula.Scanner

open Text Lexeme

/-!
## Four scans
-/

/-- Where a place is in the source; a negative one counts from the end. -/
def offset (scanner : Scanner) (place : Int) : Nat :=
  (if place < 0 then scanner.length + place else place).toNat

def closingBrace? (scanner : Scanner) (place : Int) : Option Nat :=
  ((scanner.textFrom place).idxOf? '}').map (scanner.offset place + ·)

/-- The text from the cursor up to a place. -/
def textUpTo (scanner : Scanner) (place : Nat) : List Char :=
  (scanner.source.take place).drop (scanner.offset scanner.position)

/-- Reads an integer that has too many digits if it cannot be read. -/
def readIndex (digits : List Char) : Except Failure Nat :=
  match readInteger? (String.ofList digits) with
  | some value => .ok value.toNat
  | none => .error (.source (.indexTooLong digits.length))

/-- How far from the cursor the digits reach that are found there; digits are not found before the
start. -/
def digitsReach? (scanner : Scanner) : Option Int :=
  (digitsPattern.take? scanner.remaining).map fun digits =>
    max 0 scanner.position + digits.length - scanner.position

/-- Reads the digits at the cursor as an index if they are as long as the text up to the closing
brace is without the white space around it. -/
def indexUpTo (scanner : Scanner) (closing : Nat) : Except Failure Nat × Scanner :=
  let content := strip (scanner.textUpTo closing)
  if scanner.digitsReach? = some (content.length : Int) then
    (readIndex content, { scanner with position := closing + 1 })
  else
    (.error (scanner.fail (.malformedIndex content) scanner.position), scanner)

/-- Reads a braced reference by separate scans. -/
def referenceByScans (scanner : Scanner) : Except Failure Nat × Scanner :=
  match scanner.closingBrace? (scanner.position + 1) with
  | none => (.error (scanner.fail .unmatchedBrace scanner.position), scanner)
  | some closing =>
      match (scanner.advance 1).skipBlanks with
      | .error failure => (.error failure, scanner.advance 1)
      | .ok inside =>
          if inside.position = closing then (.error (inside.fail .missingIndex inside.position), inside)
          else inside.indexUpTo closing

/-!
## What the scans find
-/

/-- The cursor behind the place where it is taken to be on a brace, and behind white space. -/
def pastBlank (scanner : Scanner) (blank : List Char) : Scanner :=
  (scanner.advance 1).advance blank.length

/-- Behind the cursor stand white space, what else is in the braces, and a closing brace. -/
structure Braces (scanner : Scanner) (blank visible rest : List Char) : Prop where
  inText : -scanner.length ≤ scanner.position + 1
  text : scanner.textFrom (scanner.position + 1) = blank ++ (visible ++ '}' :: rest)
  blankOnly : Blank blank
  starts : Text.skipBlanks visible = visible
  inside : '}' ∉ visible

variable {scanner : Scanner} {blank visible rest : List Char}

theorem exists_braces (inText : -scanner.length ≤ scanner.position + 1)
    (closed : '}' ∈ scanner.textFrom (scanner.position + 1)) :
    ∃ blank visible rest, scanner.Braces blank visible rest := by
  obtain ⟨content, rest, text, inside⟩ := List.eq_append_cons_of_mem closed
  obtain ⟨blank, blankOnly, split⟩ := exists_skipBlanks content
  refine ⟨blank, Text.skipBlanks content, rest, inText, ?_, blankOnly, skipBlanks_skipBlanks content, ?_⟩
  · rw [← List.append_assoc, ← split, text]
  · exact fun member => inside (split ▸ List.mem_append_right _ member)

theorem closingBrace?_eq_none {place : Int} (unclosed : '}' ∉ scanner.textFrom place) :
    scanner.closingBrace? place = none := by
  rw [closingBrace?, List.idxOf?_eq_none_iff.mpr unclosed, Option.map_none]

theorem exists_closingBrace? {place : Int} (closed : '}' ∈ scanner.textFrom place) :
    ∃ closing, scanner.closingBrace? place = some closing := by
  obtain ⟨index, found⟩ := Option.isSome_iff_exists.mp (List.isSome_idxOf?.mpr closed)
  exact ⟨_, by rw [closingBrace?, found, Option.map_some]⟩

namespace Braces

theorem not_mem (braces : scanner.Braces blank visible rest) : '}' ∉ blank ++ visible := by
  rw [List.mem_append, not_or]
  exact ⟨braces.blankOnly.not_mem (by decide), braces.inside⟩

theorem text_eq (braces : scanner.Braces blank visible rest) :
    scanner.textFrom (scanner.position + 1) = blank ++ visible ++ '}' :: rest := by
  rw [braces.text, List.append_assoc]

theorem mem (braces : scanner.Braces blank visible rest) : '}' ∈ scanner.textFrom (scanner.position + 1) := by
  rw [braces.text_eq]
  exact List.mem_append_right _ List.mem_cons_self

/-- The text behind the cursor reaches up to the end of the source. -/
theorem offset_eq (braces : scanner.Braces blank visible rest) :
    scanner.offset (scanner.position + 1) + (blank.length + visible.length + 1 + rest.length) =
      scanner.source.length := by
  have length := congrArg List.length braces.text_eq
  rw [textFrom, List.length_drop] at length
  simp only [List.length_append, List.length_cons] at length
  rw [offset]
  omega

theorem closingBrace?_eq (braces : scanner.Braces blank visible rest) :
    scanner.closingBrace? (scanner.position + 1) =
      some (scanner.offset (scanner.position + 1) + (blank ++ visible).length) := by
  have passed : (blank ++ visible).findIdx? (· == '}') = none := List.idxOf?_eq_none_iff.mpr braces.not_mem
  have found : (blank ++ visible ++ '}' :: rest).idxOf? '}' = some (blank ++ visible).length := by
    change List.findIdx? (· == '}') _ = _
    rw [List.findIdx?_append, passed]
    simp [List.findIdx?_cons]
  rw [closingBrace?, braces.text_eq, found, Option.map_some]

theorem exists_ahead (braces : scanner.Braces blank visible rest) :
    ∃ more, (scanner.advance 1).ahead = .ok (blank ++ (visible ++ '}' :: more)) := by
  have inText : ¬ (scanner.advance 1).position < -(scanner.advance 1).length := not_lt.mpr braces.inText
  rw [ahead, if_neg inText]
  split
  · refine ⟨rest ++ scanner.source, congrArg Except.ok ?_⟩
    change scanner.textFrom (scanner.position + 1) ++ scanner.source = _
    rw [braces.text, List.append_assoc, List.append_assoc, List.cons_append]
  · exact ⟨rest, congrArg Except.ok braces.text⟩

/-- White space ends at the closing brace at the latest. -/
theorem takeWhile_isBlank (braces : scanner.Braces blank visible rest) (more : List Char) :
    (blank ++ (visible ++ '}' :: more)).takeWhile isBlank = blank := by
  rw [List.takeWhile_append_of_pos braces.blankOnly]
  cases visible with
  | nil => simp [show isBlank '}' = false by decide]
  | cons c others => simp [visible_of_skipBlanks braces.starts]

theorem skipBlanks_eq (braces : scanner.Braces blank visible rest) :
    (scanner.advance 1).skipBlanks = .ok (scanner.pastBlank blank) := by
  obtain ⟨more, ahead⟩ := braces.exists_ahead
  rw [Scanner.skipBlanks, ahead, Except.map, braces.takeWhile_isBlank]
  rfl

/-- The place behind the white space. -/
theorem offset_add (braces : scanner.Braces blank visible rest) :
    scanner.offset (scanner.position + 1 + blank.length) = scanner.offset (scanner.position + 1) + blank.length := by
  have reach := braces.offset_eq
  have inText := braces.inText
  unfold offset length at *
  omega

theorem textUpTo_eq (braces : scanner.Braces blank visible rest) :
    (scanner.pastBlank blank).textUpTo
      (scanner.offset (scanner.position + 1) + (blank ++ visible).length) = visible := by
  have text : scanner.source.drop (scanner.offset (scanner.position + 1)) = blank ++ visible ++ '}' :: rest :=
    braces.text_eq
  change (scanner.source.take _).drop (scanner.offset (scanner.position + 1 + blank.length)) = visible
  rw [braces.offset_add, ← List.drop_drop, ← List.take_drop, text, List.take_left, List.drop_left]

/-- What is skipped behind the cursor is all of the white space. -/
theorem strip_ne_nil (braces : scanner.Braces blank visible rest) (present : visible ≠ []) : strip visible ≠ [] := by
  intro empty
  obtain ⟨c, others, rfl⟩ := List.exists_cons_of_ne_nil present
  have isBlank := strip_eq_nil_iff.mp empty c List.mem_cons_self
  rw [visible_of_skipBlanks braces.starts] at isBlank
  cases isBlank

theorem digitsReach?_eq (braces : scanner.Braces blank visible rest) (within : 0 ≤ scanner.position + 1) :
    (scanner.pastBlank blank).digitsReach? =
      if visible.takeWhile Char.isDigit = [] then none else some ((visible.takeWhile Char.isDigit).length : Int) := by
  have place : (scanner.position + 1 + blank.length).toNat = scanner.offset (scanner.position + 1) + blank.length := by
    rw [offset, if_neg (not_lt.mpr within)]
    omega
  have text : scanner.source.drop (scanner.offset (scanner.position + 1)) = blank ++ (visible ++ '}' :: rest) :=
    braces.text
  have remaining : (scanner.pastBlank blank).remaining = visible ++ '}' :: rest := by
    change scanner.source.drop (scanner.position + 1 + blank.length).toNat = _
    rw [place, ← List.drop_drop, text, List.drop_left]
  have digits : (visible ++ '}' :: rest).takeWhile Char.isDigit = visible.takeWhile Char.isDigit :=
    (EndsDigits.cons (by decide) rest).takeWhile_append visible
  rw [digitsReach?, remaining, take?_digitsPattern, digits]
  split
  · rfl
  · change some (max 0 (scanner.position + 1 + blank.length) + _ - (scanner.position + 1 + blank.length)) = _
    rw [max_eq_right (by omega), add_sub_cancel_left]

/-- Before the start, digits reach farther than the text up to the closing brace. -/
theorem length_lt_digitsReach? (braces : scanner.Braces blank visible rest) (beforeStart : scanner.position + 1 < 0)
    {count : Int} (reached : (scanner.pastBlank blank).digitsReach? = some count) :
    (visible.length : Int) < count := by
  obtain ⟨digits, _, rfl⟩ := Option.map_eq_some_iff.mp reached
  have reach := braces.offset_eq
  rw [offset, if_pos beforeStart, length] at reach
  change (visible.length : Int) <
    max 0 (scanner.position + 1 + blank.length) + digits.length - (scanner.position + 1 + blank.length)
  omega

/-- The two lengths are the same exactly if nothing but the digits stands between white space. -/
theorem digitsReach?_eq_iff (braces : scanner.Braces blank visible rest)
    (offBrace : ¬ (0 ≤ scanner.position + 1 ∧ visible = [])) :
    (scanner.pastBlank blank).digitsReach? = some ((strip visible).length : Int) ↔
      0 ≤ scanner.position + 1 ∧ Digits (strip visible) := by
  rw [← length_takeWhile_eq_length_strip_iff braces.starts]
  by_cases within : 0 ≤ scanner.position + 1
  · rw [braces.digitsReach?_eq within]
    have stripped := List.length_pos_iff.mpr (braces.strip_ne_nil (not_and.mp offBrace within))
    split
    · next none =>
        simp only [none, List.length_nil, reduceCtorEq, false_iff]
        omega
    · simp [within]
  · refine iff_of_false (fun reached => ?_) (fun both => within both.1)
    have longer := braces.length_lt_digitsReach? (not_le.mp within) reached
    have shorter := length_strip_le visible
    omega

end Braces

theorem readIndex_of_digits {digits : List Char} (only : Digits digits) (nonempty : digits ≠ []) :
    readIndex digits =
      if digits.length ≤ maxIntegerDigits then .ok (Nat.ofDigitChars 10 digits 0)
      else .error (.source (.indexTooLong digits.length)) := by
  rw [readIndex, only.readInteger?_eq nonempty]
  by_cases short : digits.length ≤ maxIntegerDigits
  · rw [if_pos short, if_pos short]
    rfl
  · rw [if_neg short, if_neg short]

/-!
## The reader in one piece
-/

/-- The place behind the closing brace, counted from the end of the source. -/
theorem Braces.length_rest (braces : scanner.Braces blank visible rest) (within : 0 ≤ scanner.position + 1) :
    scanner.length - rest.length = scanner.position + 1 + (blank ++ visible).length + 1 := by
  have reach := braces.offset_eq
  rw [offset, if_neg (not_lt.mpr within)] at reach
  rw [length, List.length_append]
  omega

theorem reference_of_not_mem (unclosed : '}' ∉ scanner.textFrom (scanner.position + 1)) :
    scanner.reference = (.error (scanner.fail .unmatchedBrace scanner.position), scanner) := by
  simp only [reference, unclosed, and_false, if_false, braced_of_not_mem unclosed]

theorem Braces.reference_of_blank (braces : scanner.Braces blank [] rest) (within : 0 ≤ scanner.position + 1) :
    scanner.reference =
      (.error (scanner.fail .missingIndex (scanner.position + 1 + blank.length)),
        scanner.pastBlank blank) := by
  have place : scanner.length - ('}' :: rest).length = scanner.position + 1 + blank.length := by
    have past := braces.length_rest within
    rw [List.append_nil] at past
    rw [List.length_cons]
    omega
  simp only [reference, not_lt.mpr within, false_and, if_false, braces.text, List.nil_append,
    braced_blank braces.blankOnly, place]
  rfl

theorem Braces.reference_of_digits (braces : scanner.Braces blank visible rest)
    (within : 0 ≤ scanner.position + 1) (present : visible ≠ []) (only : Digits (strip visible)) :
    scanner.reference =
      (readIndex (strip visible),
        { scanner with position := scanner.position + 1 + (blank ++ visible).length + 1 }) := by
  have nonempty := braces.strip_ne_nil present
  obtain ⟨after, afterBlank, trimmed⟩ := exists_trimEnd visible
  have content : blank ++ visible = blank ++ (strip visible ++ after) := by
    rw [strip, braces.starts, ← trimmed]
  have found := braced_digits braces.blankOnly only nonempty afterBlank rest
  rw [← content] at found
  rw [readIndex_of_digits only nonempty]
  by_cases short : (strip visible).length ≤ maxIntegerDigits
  · rw [if_pos short] at found ⊢
    simp only [reference, not_lt.mpr within, false_and, if_false, braces.text_eq, found, braces.length_rest within]
  · rw [if_neg short] at found ⊢
    simp only [reference, not_lt.mpr within, false_and, if_false, braces.text_eq, found, braces.length_rest within]

theorem Braces.reference_of_no_digits (braces : scanner.Braces blank visible rest)
    (within : 0 ≤ scanner.position + 1) (present : visible ≠ []) (noDigits : ¬ Digits (strip visible)) :
    scanner.reference =
      (.error (scanner.fail (.malformedIndex (strip visible)) (scanner.position + 1 + blank.length)),
        scanner.pastBlank blank) := by
  have stripped := strip_append braces.blankOnly visible
  have found := braced_of_no_digits braces.not_mem (stripped ▸ braces.strip_ne_nil present) (stripped ▸ noDigits) rest
  have place : scanner.length - (Text.skipBlanks (blank ++ visible ++ '}' :: rest)).length =
      scanner.position + 1 + blank.length := by
    have past := braces.length_rest within
    have split := congrArg List.length
      (List.takeWhile_append_dropWhile (p := isBlank) (l := blank ++ (visible ++ '}' :: rest)))
    rw [braces.takeWhile_isBlank] at split
    rw [List.append_assoc, Text.skipBlanks]
    simp only [List.length_append, List.length_cons] at past split
    omega
  simp only [reference, not_lt.mpr within, false_and, if_false, braces.text_eq, found, place, stripped]
  rfl

/-- Before the start, every reference that is closed is refused. -/
theorem Braces.reference_of_beforeStart (braces : scanner.Braces blank visible rest)
    (beforeStart : scanner.position + 1 < 0) :
    scanner.reference =
      (.error (scanner.fail (.malformedIndex (strip visible)) (scanner.position + 1 + blank.length)),
        scanner.pastBlank blank) := by
  have closed := braces.mem
  have refused : scanner.reference =
      scanner.referenceBeforeStart (scanner.position + 1) (scanner.textFrom (scanner.position + 1)) := by
    simp only [reference, beforeStart, closed, and_self, if_true]
  rw [refused, referenceBeforeStart, if_neg (not_lt.mpr braces.inText), braces.text, braces.takeWhile_isBlank,
    ← List.append_assoc, takeWhile_append_brace braces.not_mem, strip_append braces.blankOnly]
  rfl

/-- The scans for the brace, for what is not white space, and for digits. -/
theorem Braces.referenceByScans_eq (braces : scanner.Braces blank visible rest) :
    scanner.referenceByScans =
      if 0 ≤ scanner.position + 1 ∧ visible = [] then
        (.error (scanner.fail .missingIndex (scanner.position + 1 + blank.length)),
          scanner.pastBlank blank)
      else
        (scanner.pastBlank blank).indexUpTo
          (scanner.offset (scanner.position + 1) + (blank ++ visible).length) := by
  have atBrace : scanner.position + 1 + blank.length =
      (scanner.offset (scanner.position + 1) + (blank ++ visible).length : Nat) ↔
      0 ≤ scanner.position + 1 ∧ visible = [] := by
    have reach := braces.offset_eq
    rw [← List.length_eq_zero_iff, List.length_append]
    unfold offset length at *
    omega
  simp only [referenceByScans, braces.closingBrace?_eq, braces.skipBlanks_eq]
  exact if_congr atBrace rfl rfl

theorem Braces.indexUpTo_eq (braces : scanner.Braces blank visible rest) :
    (scanner.pastBlank blank).indexUpTo
        (scanner.offset (scanner.position + 1) + (blank ++ visible).length) =
      if (scanner.pastBlank blank).digitsReach? = some ((strip visible).length : Int) then
        (readIndex (strip visible),
          { scanner with
            position := (scanner.offset (scanner.position + 1) + (blank ++ visible).length : Nat) + 1 })
      else
        (.error (scanner.fail (.malformedIndex (strip visible)) (scanner.position + 1 + blank.length)),
          scanner.pastBlank blank) := by
  rw [indexUpTo, braces.textUpTo_eq]
  rfl

theorem Braces.reference_eq_referenceByScans (braces : scanner.Braces blank visible rest) :
    scanner.reference = scanner.referenceByScans := by
  rw [braces.referenceByScans_eq]
  by_cases onBrace : 0 ≤ scanner.position + 1 ∧ visible = []
  · obtain ⟨within, rfl⟩ := onBrace
    rw [if_pos ⟨within, rfl⟩, braces.reference_of_blank within]
  rw [if_neg onBrace, braces.indexUpTo_eq]
  by_cases same : 0 ≤ scanner.position + 1 ∧ Digits (strip visible)
  · have offset : scanner.offset (scanner.position + 1) = scanner.position + 1 := by
      rw [offset, if_neg (not_lt.mpr same.1)]
      omega
    rw [if_pos ((braces.digitsReach?_eq_iff onBrace).mpr same),
      braces.reference_of_digits same.1 (not_and.mp onBrace same.1) same.2, Nat.cast_add, offset]
  rw [if_neg (mt (braces.digitsReach?_eq_iff onBrace).mp same)]
  by_cases within : 0 ≤ scanner.position + 1
  · exact braces.reference_of_no_digits within (not_and.mp onBrace within) (not_and.mp same within)
  · exact braces.reference_of_beforeStart (not_le.mp within)

theorem reference_of_outsideText (outside : scanner.position + 1 < -scanner.length)
    (closed : '}' ∈ scanner.textFrom (scanner.position + 1)) :
    scanner.reference = (.error .outsideText, scanner.advance 1) := by
  have beforeStart : scanner.position + 1 < 0 := by
    unfold length at outside
    omega
  simp only [reference, beforeStart, closed, and_self, if_true, referenceBeforeStart, outside]
  rfl

theorem referenceByScans_of_outsideText (outside : scanner.position + 1 < -scanner.length)
    (closed : '}' ∈ scanner.textFrom (scanner.position + 1)) :
    scanner.referenceByScans = (.error .outsideText, scanner.advance 1) := by
  have advanced : (scanner.advance 1).position < -(scanner.advance 1).length := outside
  have skipped : (scanner.advance 1).skipBlanks = .error .outsideText := by
    rw [Scanner.skipBlanks, ahead, if_pos advanced]
    rfl
  obtain ⟨closing, found⟩ := exists_closingBrace? closed
  simp only [referenceByScans, found, skipped]

/-- At every cursor, the reader in one piece does what the separate scans do. -/
theorem reference_eq_referenceByScans (scanner : Scanner) : scanner.reference = scanner.referenceByScans := by
  by_cases closed : '}' ∈ scanner.textFrom (scanner.position + 1)
  · by_cases inText : -scanner.length ≤ scanner.position + 1
    · obtain ⟨blank, visible, rest, braces⟩ := exists_braces inText closed
      exact braces.reference_eq_referenceByScans
    · rw [reference_of_outsideText (not_le.mp inText) closed, referenceByScans_of_outsideText (not_le.mp inText) closed]
  · rw [reference_of_not_mem closed, referenceByScans, closingBrace?_eq_none closed]

/-!
## What the text in the braces decides
-/

variable {source : List Char} {place : Nat} {content : List Char}

/-- From behind a place up to the first closing brace there is the given text. -/
def BracedText (source : List Char) (place : Nat) (content : List Char) : Prop :=
  '}' ∉ content ∧ content ++ ['}'] <+: source.drop (place + 1)

/-- Why no index is read at a place, and where the cursor is then. -/
inductive RefusesReference (source : List Char) (place : Nat) : Failure → Scanner → Prop where
  /-- The cursor stays where it is. -/
  | unmatched : '}' ∉ source.drop (place + 1) →
      RefusesReference source place (fail ⟨source, place⟩ .unmatchedBrace place) ⟨source, place⟩
  /-- The cursor is on the closing brace. -/
  | missing {content : List Char} : BracedText source place content → Blank content →
      RefusesReference source place (fail ⟨source, place⟩ .missingIndex (place + 1 + content.length))
        ⟨source, place + 1 + content.length⟩
  /-- The cursor is on the first character that is not white space. -/
  | malformed {blank others : List Char} {first : Char} :
      BracedText source place (blank ++ first :: others) → Blank blank → isBlank first = false →
      (∀ digits, ¬ SpacedDigits (blank ++ first :: others) digits) →
      RefusesReference source place
        (fail ⟨source, place⟩ (.malformedIndex (strip (first :: others))) (place + 1 + blank.length))
        ⟨source, place + 1 + blank.length⟩
  /-- The cursor is behind the closing brace. -/
  | tooLong {content digits : List Char} :
      BracedText source place content → SpacedDigits content digits → 4300 < digits.length →
      RefusesReference source place (.source (.indexTooLong digits.length)) ⟨source, place + 1 + content.length + 1⟩

theorem textFrom_behind (source : List Char) (place : Nat) :
    textFrom ⟨source, place⟩ ((place : Int) + 1) = source.drop (place + 1) := by
  rw [textFrom, if_neg (by omega), show ((place : Int) + 1).toNat = place + 1 by omega]

theorem BracedText.exists_braces {blank visible : List Char} (braced : BracedText source place (blank ++ visible))
    (blankOnly : Blank blank) (starts : Text.skipBlanks visible = visible) :
    ∃ rest, Braces ⟨source, place⟩ blank visible rest := by
  obtain ⟨inside, rest, text⟩ := braced
  refine ⟨rest, ?_, ?_, blankOnly, starts, fun member => inside (List.mem_append_right _ member)⟩
  · change -(source.length : Int) ≤ place + 1
    omega
  · rw [textFrom_behind, ← text]
    simp

theorem reference_of_spacedDigits {digits : List Char} (braced : BracedText source place content)
    (spaced : SpacedDigits content digits) :
    reference ⟨source, place⟩ =
      (if digits.length ≤ 4300 then .ok (Nat.ofDigitChars 10 digits 0)
        else .error (.source (.indexTooLong digits.length)), ⟨source, place + 1 + content.length + 1⟩) := by
  obtain ⟨before, after, beforeBlank, only, nonempty, afterBlank, rfl⟩ := spaced
  obtain ⟨rest, braces⟩ := braced.exists_braces beforeBlank (only.visible.skipBlanks_append nonempty after)
  have stripped : strip (digits ++ after) = digits := only.visible.strip_margins nonempty .nil afterBlank
  have read := braces.reference_of_digits (Int.natCast_nonneg (place + 1))
    (List.append_ne_nil_of_left_ne_nil nonempty after) (stripped.symm ▸ only)
  rw [stripped, readIndex_of_digits only nonempty] at read
  exact read

theorem RefusesReference.reference_eq {failure : Failure} {after : Scanner}
    (refused : RefusesReference source place failure after) :
    reference ⟨source, place⟩ = (.error failure, after) := by
  have within : 0 ≤ (place : Int) + 1 := Int.natCast_nonneg (place + 1)
  cases refused with
  | unmatched unclosed => exact reference_of_not_mem ((textFrom_behind source place).symm ▸ unclosed)
  | @missing content braced blank =>
      have braced : BracedText source place (content ++ []) := by rwa [List.append_nil]
      obtain ⟨rest, braces⟩ := braced.exists_braces blank rfl
      exact braces.reference_of_blank within
  | malformed braced blank visible noIndex =>
      obtain ⟨rest, braces⟩ := braced.exists_braces blank (skipBlanks_cons visible _)
      refine braces.reference_of_no_digits within (List.cons_ne_nil _ _) fun only => ?_
      have nonempty := braces.strip_ne_nil (List.cons_ne_nil _ _)
      rw [← strip_append blank] at only nonempty
      obtain ⟨digits, spaced⟩ := exists_spacedDigits_iff.mpr ⟨only, nonempty⟩
      exact noIndex digits spaced
  | tooLong braced spaced many => rw [reference_of_spacedDigits braced spaced, if_neg (not_le.mpr many)]

theorem BracedText.of_drop {content rest : List Char} (inside : '}' ∉ content)
    (text : source.drop (place + 1) = content ++ '}' :: rest) : BracedText source place content :=
  ⟨inside, rest, by rw [text, List.append_assoc, List.singleton_append]⟩

/-- An index stands in the braces, or there is a reason why none is read. -/
theorem index_or_refused (source : List Char) (place : Nat) :
    (∃ content digits, BracedText source place content ∧ SpacedDigits content digits ∧ digits.length ≤ 4300) ∨
      ∃ failure after, RefusesReference source place failure after := by
  have reads := reads_braced (source.drop (place + 1))
  generalize braced (source.drop (place + 1)) = outcome at reads
  generalize text : source.drop (place + 1) = behind at reads
  cases reads with
  | index beforeBlank only nonempty afterBlank short =>
      have spaced : SpacedDigits _ _ := ⟨_, _, beforeBlank, only, nonempty, afterBlank, rfl⟩
      exact .inl ⟨_, _, .of_drop spaced.not_mem text, spaced, short⟩
  | tooLong beforeBlank only nonempty afterBlank long =>
      have spaced : SpacedDigits _ _ := ⟨_, _, beforeBlank, only, nonempty, afterBlank, rfl⟩
      exact .inr ⟨_, _, .tooLong (.of_drop spaced.not_mem text) spaced long⟩
  | unmatched unclosed => exact .inr ⟨_, _, .unmatched (text ▸ unclosed)⟩
  | missing blank => exact .inr ⟨_, _, .missing (.of_drop (blank.not_mem (by decide)) text) blank⟩
  | @malformed content rest inside visible noDigits =>
      obtain ⟨blank, blankOnly, split⟩ := exists_skipBlanks content
      cases skipped : Text.skipBlanks content with
      | nil => exact absurd (by rw [strip, skipped]; rfl) visible
      | cons first others =>
          have noIndex (digits : List Char) (spaced : SpacedDigits content digits) : False :=
            noDigits (exists_spacedDigits_iff.mp ⟨digits, spaced⟩).1
          rw [skipped] at split
          rw [split] at noIndex inside text
          exact .inr ⟨_, _, .malformed (.of_drop inside text) blankOnly (visible_of_skipBlanks skipped) noIndex⟩

/-- Separate scans that compare two lengths read a reference exactly as the reader in one piece
does. An index is read exactly if a closing brace follows and up to the first one there are white
space, at most 4300 digits, and white space; it is the number that the digits denote, and the
cursor is then past the brace. In each other case there is one reason why none is read. -/
theorem reference_outcomes (source : List Char) (place : Nat) :
    reference ⟨source, place⟩ = referenceByScans ⟨source, place⟩ ∧
    (∀ value after, reference ⟨source, place⟩ = (.ok value, after) ↔
      ∃ content digits, BracedText source place content ∧ SpacedDigits content digits ∧ digits.length ≤ 4300 ∧
        value = Nat.ofDigitChars 10 digits 0 ∧ after = ⟨source, place + 1 + content.length + 1⟩) ∧
    ∀ failure after, reference ⟨source, place⟩ = (.error failure, after) ↔
      RefusesReference source place failure after := by
  refine ⟨reference_eq_referenceByScans _, fun value after => ⟨fun found => ?_, ?_⟩, fun failure after =>
    ⟨fun found => ?_, RefusesReference.reference_eq⟩⟩
  · obtain ⟨content, digits, braced, spaced, short⟩ | ⟨failure, others, refused⟩ := index_or_refused source place
    · rw [reference_of_spacedDigits braced spaced, if_pos short] at found
      cases found
      exact ⟨content, digits, braced, spaced, short, rfl, rfl⟩
    · rw [refused.reference_eq] at found
      cases found
  · intro index
    obtain ⟨content, digits, braced, spaced, short, rfl, rfl⟩ := index
    rw [reference_of_spacedDigits braced spaced, if_pos short]
  · obtain ⟨content, digits, braced, spaced, short⟩ | ⟨others, cursor, refused⟩ := index_or_refused source place
    · rw [reference_of_spacedDigits braced spaced, if_pos short] at found
      cases found
    · rw [refused.reference_eq] at found
      cases found
      exact refused

example : reference ⟨"x{1 2}".toList, 1⟩ =
    (.error (fail ⟨"x{1 2}".toList, 1⟩ (.malformedIndex "1 2".toList) 2), ⟨"x{1 2}".toList, 2⟩) := by decide

end DecimalFormula.Scanner
