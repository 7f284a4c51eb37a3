import Mathlib
import DecimalFormula.Text.ControlSequence

/-!
# Plain text in parts

No control sequence goes across a character that can be neither inside one nor at its
end. Such a character, for instance a colon, divides a text into two parts that are made
plain each on its own.
-/

set_option autoImplicit false

namespace DecimalFormula.Text

/-- A character that no control sequence has after its first. -/
def EndsSequence (c : Char) : Prop :=
  c ≠ '[' ∧ isSequenceParameter c = false ∧ c.isAlpha = false

theorem endsSequence_colon : EndsSequence ':' := by
  refine ⟨by decide, by decide, by decide⟩

theorem takeWhile_append_of_not {c : Char} (noParameter : isSequenceParameter c = false) (text rest : List Char) :
    (text ++ c :: rest).takeWhile isSequenceParameter = text.takeWhile isSequenceParameter := by
  induction text with
  | nil => simp [noParameter]
  | cons first text ih => simp only [List.cons_append, List.takeWhile_cons, ih]

theorem dropWhile_append_of_not {c : Char} (noParameter : isSequenceParameter c = false) (text rest : List Char) :
    (text ++ c :: rest).dropWhile isSequenceParameter = text.dropWhile isSequenceParameter ++ c :: rest := by
  induction text with
  | nil => simp [noParameter]
  | cons first text ih =>
      simp only [List.cons_append, List.dropWhile_cons, ih]
      split <;> rfl

theorem controlSequenceTail?_append {c : Char} (ends : EndsSequence c) (first : Char) (text rest : List Char) :
    controlSequenceTail? (first :: (text ++ c :: rest)) = controlSequenceTail? (first :: text) := by
  obtain ⟨noBracket, noParameter, noLetter⟩ := ends
  by_cases escape : first = '\x1b'
  · subst escape
    cases text with
    | nil =>
        rw [List.nil_append]
        unfold controlSequenceTail?
        split
        · next same => exact absurd (List.cons.inj (List.cons.inj same).2).1 noBracket
        · rfl
    | cons second text =>
        by_cases bracket : second = '['
        · subst bracket
          simp only [List.cons_append, controlSequenceTail?, takeWhile_append_of_not noParameter,
            dropWhile_append_of_not noParameter]
          cases text.dropWhile isSequenceParameter with
          | nil => simp [noLetter]
          | cons last others => rfl
        · simp [controlSequenceTail?, bracket]
  · rw [controlSequenceTail?_of_ne escape, controlSequenceTail?_of_ne escape]

theorem length_controlSequenceTail?_le {first : Char} {text : List Char} {pending : Nat}
    (found : controlSequenceTail? (first :: text) = some pending) : pending ≤ text.length := by
  unfold controlSequenceTail? at found
  split at found
  · next rest same =>
      cases same
      split at found
      · cases found
      · next last others left =>
          split at found
          · cases found
            have parts := congrArg List.length (List.takeWhile_append_dropWhile (p := isSequenceParameter) (l := rest))
            rw [left] at parts
            simp only [List.length_append, List.length_cons] at parts ⊢
            omega
          · cases found
  · cases found

theorem plainAfter_append {c : Char} (ends : EndsSequence c) (text rest : List Char) :
    ∀ pending ≤ text.length,
      plainAfter pending (text ++ c :: rest) = plainAfter pending text ++ plainAfter 0 (c :: rest) := by
  induction text with
  | nil =>
      intro pending bound
      cases Nat.le_zero.mp bound
      simp [plainAfter]
  | cons first text ih =>
      intro pending bound
      cases pending with
      | succ pending =>
          rw [List.length_cons, Nat.add_le_add_iff_right] at bound
          simpa only [List.cons_append, plainAfter] using ih pending bound
      | zero =>
          simp only [List.cons_append, plainAfter, controlSequenceTail?_append ends]
          cases found : controlSequenceTail? (first :: text) with
          | none => simp only [ih 0 (Nat.zero_le _), plainAfter, List.cons_append]
          | some pending => exact ih pending (length_controlSequenceTail?_le found)

theorem plain_append {c : Char} (ends : EndsSequence c) (text rest : String) :
    plain (text ++ String.ofList (c :: rest.toList)) = plain text ++ plain (String.ofList (c :: rest.toList)) := by
  simp only [plain, String.toList_append, String.toList_ofList]
  rw [plainAfter_append ends _ _ 0 (Nat.zero_le _), String.ofList_append]

/-- A part without control sequences that stands in front stays as it is. -/
theorem plain_append_of_not_mem {lead : String} (free : '\x1b' ∉ lead.toList) (text : String) :
    plain (lead ++ text) = lead ++ plain text := by
  have kept : ∀ chars : List Char, '\x1b' ∉ chars →
      plainAfter 0 (chars ++ text.toList) = chars ++ plainAfter 0 text.toList := by
    intro chars
    induction chars with
    | nil => intro _; rfl
    | cons c chars ih =>
        intro free
        simp only [List.mem_cons, not_or] at free
        simp only [List.cons_append, plainAfter, controlSequenceTail?_of_ne (Ne.symm free.1), ih free.2]
  simp only [plain, String.toList_append, kept _ free, String.ofList_append, String.ofList_toList]

theorem plain_named (name text : String) : plain (name ++ ": " ++ text) = plain name ++ ": " ++ plain text := by
  have rest : name ++ ": " ++ text = name ++ String.ofList (':' :: (" " ++ text).toList) := by
    apply String.ext
    simp
  have colon : String.ofList (':' :: (" " ++ text).toList) = ": " ++ text := by
    apply String.ext
    simp
  rw [rest, plain_append endsSequence_colon, colon, plain_append_of_not_mem (by decide), String.append_assoc]

end DecimalFormula.Text
