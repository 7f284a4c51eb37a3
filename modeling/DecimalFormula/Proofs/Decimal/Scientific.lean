import Mathlib
import DecimalFormula.Proofs.Decimal.Numeral

/-!
# The language of signed numerals with exponents

What the general reader of numbers takes for a finite number: an optional sign, a
numeral, and an optional exponent. The reader accepts these texts and no others, as
long as the number they denote is within the bounds on all numbers.
-/

set_option autoImplicit false

namespace DecimalFormula.Decimal

open Text Lexeme

/-- An optional sign, with whether it is a minus. -/
inductive SpelledSign : List Char → Bool → Prop where
  | absent : SpelledSign [] false
  | plus : SpelledSign ['+'] false
  | minus : SpelledSign ['-'] true

/-- An optional exponent, with its value. -/
inductive SpelledExponent : List Char → Int → Prop where
  | absent : SpelledExponent [] 0
  | present {letter : Char} {sign digits : List Char} {negative : Bool} :
      letter = 'e' ∨ letter = 'E' → SpelledSign sign negative → Digits digits → digits ≠ [] →
      SpelledExponent (letter :: (sign ++ digits)) (signedInteger negative (Nat.ofDigitChars 10 digits 0))

/-- The texts of finite numbers. -/
inductive Spelled : List Char → Finite → Prop where
  | number {sign text whole fraction power : List Char} {negative : Bool} {exponent : Int} :
      SpelledSign sign negative → Numeral text whole fraction → SpelledExponent power exponent →
      Spelled (sign ++ (text ++ power))
        ⟨negative, Nat.ofDigitChars 10 (whole ++ fraction) 0, exponent - fraction.length⟩

/-!
## Signs
-/

theorem exists_spelledSign (text : List Char) :
    ∃ sign, text = sign ++ (splitSign text).2 ∧ SpelledSign sign (splitSign text).1 := by
  unfold splitSign
  split
  · exact ⟨['-'], rfl, .minus⟩
  · exact ⟨['+'], rfl, .plus⟩
  · exact ⟨[], rfl, .absent⟩

theorem SpelledSign.splitSign_append {sign : List Char} {negative : Bool} (spelled : SpelledSign sign negative)
    {first : Char} (start : first.isDigit = true ∨ first = '.') (rest : List Char) :
    splitSign (sign ++ first :: rest) = (negative, first :: rest) := by
  cases spelled with
  | absent => exact splitSign_of_start start rest
  | plus | minus => rfl

/-!
## Exponents
-/

theorem SpelledExponent.read {power : List Char} {exponent : Int} (spelled : SpelledExponent power exponent) :
    readExponent? power = some exponent := by
  cases spelled with
  | absent => rfl
  | present isLetter sign only nonempty =>
      obtain ⟨digit, others, rfl⟩ := List.exists_cons_of_ne_nil nonempty
      have split := sign.splitSign_append (.inl (only digit List.mem_cons_self)) others
      have allDigits : (digit :: others).all Char.isDigit = true := List.all_eq_true.mpr only
      have letter : ∀ {c : Char}, c = 'e' ∨ c = 'E' → (c == 'e' || c == 'E') = true := by
        rintro c (rfl | rfl) <;> rfl
      rw [readExponent?, split]
      simp [letter isLetter, allDigits]

theorem SpelledExponent.of_read {power : List Char} {exponent : Int} (read : readExponent? power = some exponent) :
    SpelledExponent power exponent := by
  cases power with
  | nil =>
      cases read
      exact .absent
  | cons letter rest =>
      obtain ⟨sign, split, spelled⟩ := exists_spelledSign rest
      rw [readExponent?] at read
      simp only [Option.ite_none_right_eq_some, Bool.and_eq_true, Bool.or_eq_true, beq_iff_eq, decide_eq_true_eq,
        Option.some.injEq] at read
      obtain ⟨⟨⟨isLetter, nonempty⟩, allDigits⟩, rfl⟩ := read
      have present := SpelledExponent.present isLetter spelled (List.all_eq_true.mp allDigits) nonempty
      rwa [← split] at present

theorem SpelledExponent.endsNumeral {power : List Char} {exponent : Int} (spelled : SpelledExponent power exponent) :
    EndsNumeral power := by
  cases spelled with
  | absent => exact EndsNumeral.nil
  | present isLetter => rcases isLetter with rfl | rfl <;> exact EndsNumeral.cons (by decide) (by decide) _

/-!
## Numbers
-/

theorem exists_of_readUnsigned? {unsigned : List Char} {negative : Bool} {number : Finite}
    (read : readUnsigned? negative unsigned = some number) :
    ∃ text whole fraction power exponent, unsigned = text ++ power ∧ Numeral text whole fraction ∧
      SpelledExponent power exponent ∧
      number = ⟨negative, Nat.ofDigitChars 10 (whole ++ fraction) 0, exponent - fraction.length⟩ ∧
      number.isRepresentable = true := by
  have wholeDigits := digits_takeWhile unsigned
  have split := List.takeWhile_append_dropWhile (p := Char.isDigit) (l := unsigned)
  simp only [readUnsigned?, Option.bind_eq_bind, Option.bind_eq_some_iff, Option.ite_none_right_eq_some,
    Bool.and_eq_true, decide_eq_true_eq, Option.some.injEq] at read
  generalize unsigned.takeWhile Char.isDigit = whole at *
  split at read
  · next others point =>
      obtain ⟨exponent, powerRead, ⟨nonempty, representable⟩, rfl⟩ := read
      have places := List.takeWhile_append_dropWhile (p := Char.isDigit) (l := others)
      refine ⟨_, whole, _, _, exponent, ?_, .pointed wholeDigits (digits_takeWhile others) nonempty,
        .of_read powerRead, rfl, representable⟩
      rw [List.append_assoc, List.cons_append, places, ← point, split]
  · obtain ⟨exponent, powerRead, ⟨nonempty, representable⟩, rfl⟩ := read
    rw [List.append_nil] at nonempty
    refine ⟨whole, whole, [], _, exponent, split.symm, .integer wholeDigits nonempty, .of_read powerRead, ?_,
      representable⟩
    rfl

theorem readUnsigned?_of_finite {text : List Char} {number : Finite}
    (read : readNumeral? text = some (.finite number)) :
    readUnsigned? (splitSign text).1 (splitSign text).2 = some number := by
  rw [readNumeral?] at read
  simp only at read
  split at read
  · cases read
  · cases read
  · simp at read
  · simp at read
  · simpa using read

/-- The reader takes a text for a finite number if the text spells it and the number is
within the bounds on all numbers. -/
theorem readNumeral?_eq_finite_iff {text : List Char} {number : Finite} :
    readNumeral? text = some (.finite number) ↔ Spelled text number ∧ number.isRepresentable = true := by
  constructor
  · intro read
    obtain ⟨sign, split, sign_spelled⟩ := exists_spelledSign text
    obtain ⟨digits, whole, fraction, power, exponent, unsigned, numeral, power_spelled, rfl, representable⟩ :=
      exists_of_readUnsigned? (readUnsigned?_of_finite read)
    have spelled := Spelled.number sign_spelled numeral power_spelled
    rw [← unsigned, ← split] at spelled
    exact ⟨spelled, representable⟩
  · rintro ⟨spelled, representable⟩
    cases spelled with
    | @number sign digits whole fraction power negative exponent signSpelled numeral powerSpelled =>
        have read := numeral.readUnsigned?_append negative powerSpelled.endsNumeral powerSpelled.read
        obtain ⟨first, rest, rfl, start⟩ := numeral.exists_cons
        rw [List.cons_append] at read ⊢
        rw [readNumeral?_of_start (signSpelled.splitSign_append start _) start, read, if_pos representable]
        rfl

theorem SpelledSign.mem {sign : List Char} {negative : Bool} (spelled : SpelledSign sign negative) {c : Char}
    (member : c ∈ sign) : c = '+' ∨ c = '-' := by
  cases spelled with
  | absent => cases member
  | plus => exact .inl (List.mem_singleton.mp member)
  | minus => exact .inr (List.mem_singleton.mp member)

theorem Spelled.mem {text : List Char} {number : Finite} (spelled : Spelled text number) {c : Char}
    (member : c ∈ text) : c.isDigit = true ∨ c ∈ ['.', '+', '-', 'e', 'E'] := by
  have ofSign : c = '+' ∨ c = '-' → c.isDigit = true ∨ c ∈ ['.', '+', '-', 'e', 'E'] := by
    rintro (rfl | rfl) <;> exact .inr (by decide)
  cases spelled with
  | number sign numeral power =>
      rcases List.mem_append.mp member with inSign | later
      · exact ofSign (sign.mem inSign)
      rcases List.mem_append.mp later with inNumeral | inPower
      · exact (numeral.mem inNumeral).imp_right (by rintro rfl; decide)
      cases power with
      | absent => cases inPower
      | present letter powerSign digits =>
          rcases List.mem_cons.mp inPower with rfl | inPower
          · rcases letter with rfl | rfl <;> exact .inr (by decide)
          rcases List.mem_append.mp inPower with inSign | inDigits
          · exact ofSign (powerSign.mem inSign)
          · exact .inl (digits c inDigits)

theorem Spelled.ofText?_eq {text : List Char} {number : Finite} (spelled : Spelled text number)
    (representable : number.isRepresentable = true) : ofText? (String.ofList text) = some (.finite number) := by
  rw [ofText?, String.toList_ofList, bareNumeral_eq_self fun c => spelled.mem]
  exact readNumeral?_eq_finite_iff.mpr ⟨spelled, representable⟩

/-!
## Writing
-/

theorem spelledSign_signText (negative : Bool) : SpelledSign (signText negative) negative := by
  cases negative
  · exact .absent
  · exact .minus

theorem signedInteger_natAbs (value : Int) : signedInteger (decide (value < 0)) value.natAbs = value := by
  rw [signedInteger]
  split
  · next negative =>
      have := of_decide_eq_true negative
      omega
  · next notNegative =>
      have := of_decide_eq_false (Bool.eq_false_iff.mpr notNegative)
      omega

/-- Leading zeros do not change an exponent. -/
theorem spelledExponent_padded {letter : Char} (isLetter : letter = 'e' ∨ letter = 'E') (value : Int) (zeros : Nat) :
    SpelledExponent
      (letter :: (if value < 0 then '-' else '+') :: (List.replicate zeros '0' ++ Nat.toDigits 10 value.natAbs))
      value := by
  have sign : SpelledSign [if value < 0 then '-' else '+'] (decide (value < 0)) := by
    by_cases negative : value < 0
    · simpa only [negative, if_true, decide_true] using SpelledSign.minus
    · simpa only [negative, if_false, decide_false] using SpelledSign.plus
  have only := (digits_replicate_zero zeros).append (digits_toDigits value.natAbs)
  have spelled := SpelledExponent.present isLetter sign only (by simp [Nat.toDigits_ne_nil])
  rwa [Nat.ofDigitChars_append, Nat.ofDigitChars_replicate_zero, Nat.mul_zero, Nat.ofDigitChars_ten_toDigits,
    signedInteger_natAbs] at spelled

namespace Finite

variable (number : Finite)

theorem spelled_pointed (places : number.exponent ≤ 0) :
    Spelled (signText number.negative ++ pointed number.digits number.exponent.natAbs) number := by
  obtain ⟨whole, fraction, numeral, length, value⟩ :=
    Numeral.exists_pointed (digits_toDigits number.coefficient) Nat.toDigits_ne_nil number.exponent.natAbs
  have spelled := Spelled.number (spelledSign_signText number.negative) numeral .absent
  rw [List.append_nil, value, Nat.ofDigitChars_ten_toDigits, length] at spelled
  have exponent : 0 - (number.exponent.natAbs : Int) = number.exponent := by omega
  rwa [exponent] at spelled

theorem exists_pointedAfterFirst {digits : List Char} (only : Digits digits) (nonempty : digits ≠ []) :
    ∃ whole fraction, Numeral (pointedAfterFirst digits) whole fraction ∧ whole ++ fraction = digits ∧
      fraction.length + 1 = digits.length := by
  match digits, nonempty with
  | [digit], _ => exact ⟨[digit], [], .integer only (List.cons_ne_nil _ _), rfl, rfl⟩
  | digit :: next :: rest, _ =>
      have first : Digits [digit] := fun c member => only c (List.mem_singleton.mp member ▸ List.mem_cons_self)
      have others : Digits (next :: rest) := fun c member => only c (List.mem_cons_of_mem _ member)
      exact ⟨[digit], next :: rest, .pointed first others (List.cons_ne_nil _ _), rfl, rfl⟩

theorem spelled_pointedAfterFirst {power : List Char} (spelledPower : SpelledExponent power number.adjusted) :
    Spelled (signText number.negative ++ (pointedAfterFirst number.digits ++ power)) number := by
  obtain ⟨whole, fraction, numeral, digits, length⟩ :=
    exists_pointedAfterFirst (digits_toDigits number.coefficient) Nat.toDigits_ne_nil
  have spelled := Spelled.number (spelledSign_signText number.negative) numeral spelledPower
  have exponent : number.adjusted - (fraction.length : Int) = number.exponent := by
    rw [adjusted, digitCount]
    omega
  rwa [digits, Nat.ofDigitChars_ten_toDigits, exponent] at spelled

/-- The scientific text of a number spells it. -/
theorem spelled_scientific : Spelled number.scientific number := by
  unfold scientific
  split
  · next positional => exact number.spelled_pointed positional.1
  · exact number.spelled_pointedAfterFirst (spelledExponent_padded (.inr rfl) number.adjusted 0)

end Finite

end DecimalFormula.Decimal
