import Mathlib
import DecimalFormula.Text.Integer
import DecimalFormula.Proofs.Decimal.Numeral

/-!
# Reading plain digits as an integer

A numeral of ASCII digits needs nothing of what else integers may be spelled with, and
is read as the number that its digits denote. So a natural number is read from the text
that it is written as.
-/

set_option autoImplicit false

namespace DecimalFormula.Text

variable {digits : List Char}

theorem Digits.ungrouped?_eq (only : Digits digits) (nonempty : digits ≠ []) : ungrouped? digits = some digits := by
  induction digits with
  | nil => exact absurd rfl nonempty
  | cons first rest ih =>
      have digit := only first List.mem_cons_self
      cases rest with
      | nil => simp [ungrouped?, digit]
      | cons second rest =>
          have others : Digits (second :: rest) := fun c member => only c (List.mem_cons_of_mem _ member)
          have noUnderscore : second ≠ '_' := ne_of_isDigit (others second List.mem_cons_self) (by decide)
          simp [ungrouped?, digit, noUnderscore, ih others (List.cons_ne_nil _ _)]

theorem Digits.trimIntegerMargin_eq (only : Digits digits) : trimIntegerMargin digits = digits := by
  have noMargin (c : Char) (digit : c.isDigit = true) : isIntegerMargin c = false := by
    simp [isIntegerMargin, isBlank_of_isDigit digit]
  have kept (text : List Char) (textOnly : Digits text) : text.dropWhile isIntegerMargin = text := by
    cases text with
    | nil => rfl
    | cons first rest => simp [noMargin first (textOnly first List.mem_cons_self)]
  have backwards : Digits digits.reverse := fun c member => only c (List.mem_reverse.mp member)
  rw [trimIntegerMargin, kept digits only, kept _ backwards, List.reverse_reverse]

theorem Digits.readInteger?_eq (only : Digits digits) (nonempty : digits ≠ []) :
    readInteger? (String.ofList digits) =
      if digits.length ≤ maxIntegerDigits then some ((Nat.ofDigitChars 10 digits 0 : Nat) : Int) else none := by
  have ascii : digits.map asciiDigit = digits :=
    List.map_congr_left (fun c member => asciiDigit_of_isDigit (only c member)) |>.trans (List.map_id digits)
  have unsigned : splitSign digits = (false, digits) := by
    cases digits with
    | nil => rfl
    | cons first rest => exact Decimal.splitSign_of_start (.inl (only first List.mem_cons_self)) rest
  simp only [readInteger?, String.toList_ofList, ascii, only.trimIntegerMargin_eq, unsigned,
    only.ungrouped?_eq nonempty, Option.bind_eq_bind, Option.bind_some]
  rfl

/-- A natural number of few enough digits is read from its text. -/
theorem readInteger?_naturalText {number : Nat} (short : number < 10 ^ maxIntegerDigits) :
    readInteger? (naturalText number) = some (number : Int) := by
  have only : Digits (Nat.toDigits 10 number) := Decimal.digits_toDigits number
  have length : (Nat.toDigits 10 number).length ≤ maxIntegerDigits :=
    (Nat.length_toDigits_le_iff (by decide) (by decide)).mpr short
  rw [naturalText, only.readInteger?_eq Nat.toDigits_ne_nil, if_pos length, Nat.ofDigitChars_ten_toDigits]

end DecimalFormula.Text
