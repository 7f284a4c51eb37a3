import Mathlib
import DecimalFormula.Proofs.Expr.Printing

/-!
# Texts that tell trees apart

Trees that are printed alike are the same tree, however deep they are. The reader does not
show this, since it refuses the texts of trees that are too deep. Texts are compared from
their start instead. The first character tells which node a text stands for, and where the
text of an operand ends does not depend on what follows it. Only a constant has no mark at
its end. It is never followed by a digit or by a point.
-/

set_option autoImplicit false

namespace DecimalFormula

open Text Decimal

/-!
## Digits and numerals
-/

theorem Text.Digits.eq_of_append_eq {first second rest other : List Char} (firstDigits : Digits first)
    (secondDigits : Digits second) (ends : EndsDigits rest) (otherEnds : EndsDigits other)
    (same : first ++ rest = second ++ other) : first = second ∧ rest = other := by
  have taken := congrArg (List.takeWhile Char.isDigit) same
  have left := congrArg (List.dropWhile Char.isDigit) same
  rw [firstDigits.takeWhile_append ends, secondDigits.takeWhile_append otherEnds] at taken
  rw [firstDigits.dropWhile_append ends, secondDigits.dropWhile_append otherEnds] at left
  exact ⟨taken, left⟩

theorem toDigits_injective {first second : Nat} (same : Nat.toDigits 10 first = Nat.toDigits 10 second) :
    first = second := by
  have values := congrArg (Nat.ofDigitChars 10 · 0) same
  simpa only [Nat.ofDigitChars_ten_toDigits] using values

namespace Decimal

/-- A numeral determines its digits before and after the point. -/
theorem Numeral.digits_eq {text whole fraction : List Char} (numeral : Numeral text whole fraction) :
    text.takeWhile Char.isDigit = whole ∧ (text.dropWhile Char.isDigit).tail = fraction := by
  cases numeral with
  | integer wholeDigits =>
      have taken := wholeDigits.takeWhile_append EndsDigits.nil
      have left := wholeDigits.dropWhile_append EndsDigits.nil
      rw [List.append_nil] at taken left
      exact ⟨taken, congrArg List.tail left⟩
  | pointed wholeDigits =>
      have ends := EndsDigits.cons (show '.'.isDigit = false by decide) fraction
      exact ⟨wholeDigits.takeWhile_append ends, congrArg List.tail (wholeDigits.dropWhile_append ends)⟩

namespace Finite

variable {first second : Finite}

/-- The plain text of a number ends where the text goes on with something else than a digit
or a point, and it determines the number. -/
theorem eq_of_plain_append_eq (firstUnsigned : first.negative = false) (firstPlaces : first.exponent ≤ 0)
    (secondUnsigned : second.negative = false) (secondPlaces : second.exponent ≤ 0) {rest other : List Char}
    (ends : Lexeme.EndsNumeral rest) (otherEnds : Lexeme.EndsNumeral other)
    (same : first.plain ++ rest = second.plain ++ other) : first = second ∧ rest = other := by
  obtain ⟨firstWhole, firstFraction, firstNumeral, firstDenotes⟩ := Numeral.exists_plain firstUnsigned firstPlaces
  obtain ⟨secondWhole, secondFraction, secondNumeral, secondDenotes⟩ := Numeral.exists_plain secondUnsigned secondPlaces
  have taken : first.plain = second.plain := by
    have scanned := congrArg Lexeme.numeral same
    rwa [Lexeme.numeral_append firstNumeral ends, Lexeme.numeral_append secondNumeral otherEnds] at scanned
  rw [taken] at firstNumeral same
  obtain ⟨rfl, rfl⟩ := firstNumeral.digits_eq
  obtain ⟨rfl, rfl⟩ := secondNumeral.digits_eq
  exact ⟨firstDenotes.symm.trans secondDenotes, List.append_cancel_left same⟩

theorem plain_append_ne_cons (unsigned : first.negative = false) (places : first.exponent ≤ 0) {mark : Char}
    (noDigit : mark.isDigit = false) (noPoint : mark ≠ '.') (rest other : List Char) :
    first.plain ++ rest ≠ mark :: other := by
  intro same
  obtain ⟨whole, fraction, numeral, _⟩ := Numeral.exists_plain unsigned places
  obtain ⟨start, more, shape, isStart⟩ := numeral.exists_cons
  rw [shape, List.cons_append] at same
  exact ne_of_start isStart noDigit noPoint (List.cons.inj same).1

end Finite

end Decimal

theorem Operator.sign_injective {first second : Operator} (same : first.sign = second.sign) : first = second := by
  cases first <;> cases second <;> first | rfl | exact absurd same (by decide)

namespace Expr

/-!
## Trees and their texts
-/

/-- The trees whose constants have no sign and no positive exponent. Numbers, indices and
depth are not bounded. A constant with a sign would be printed as a negation is, and one with
a positive exponent as another constant with zeros at its end. -/
inductive Plain : Expr → Prop where
  | constant {number : Finite} : number.negative = false → number.exponent ≤ 0 → Plain (.constant (.finite number))
  | argument {index : Nat} : Plain (.argument index)
  | binary {op : Operator} {left right : Expr} : Plain left → Plain right → Plain (.binary op left right)
  | negate {operand : Expr} : Plain operand → Plain (.negate operand)

/-- The texts of plain trees. -/
inductive Shows : Expr → List Char → Prop where
  | constant {number : Finite} :
      number.negative = false → number.exponent ≤ 0 → Shows (.constant (.finite number)) number.plain
  | argument {index : Nat} : Shows (.argument index) ('\x7b' :: (Nat.toDigits 10 index ++ ['}']))
  | binary {op : Operator} {left right : Expr} {leftText rightText : List Char} :
      Shows left leftText → Shows right rightText →
      Shows (.binary op left right) ('(' :: (leftText ++ ' ' :: op.sign :: ' ' :: (rightText ++ [')'])))
  | negate {operand : Expr} {text : List Char} : Shows operand text → Shows (.negate operand) ('-' :: text)

/-- A plain tree is printed, whatever its depth. -/
theorem Plain.exists_shows {expr : Expr} (plain : expr.Plain) :
    ∃ text, expr.print = .ok text ∧ Shows expr text.toList := by
  induction plain with
  | @constant number unsigned places =>
      refine ⟨_, rfl, ?_⟩
      rw [plainText, String.toList_ofList]
      exact .constant unsigned places
  | @argument index =>
      refine ⟨_, rfl, ?_⟩
      have shows : Shows (.argument index) _ := .argument
      simpa [bracedIndex, naturalText] using shows
  | @binary op left right _ _ leftIH rightIH =>
      obtain ⟨leftText, leftPrinted, leftShows⟩ := leftIH
      obtain ⟨rightText, rightPrinted, rightShows⟩ := rightIH
      have shows : Shows (.binary op left right) _ := .binary leftShows rightShows
      exact ⟨_, print_binary leftPrinted rightPrinted, by simpa [op.toList_symbol] using shows⟩
  | @negate operand _ ih =>
      obtain ⟨text, printed, operandShows⟩ := ih
      have shows : Shows (.negate operand) _ := .negate operandShows
      exact ⟨_, print_negate printed, by simpa using shows⟩

/-- A text starts with the text of one tree only, and what follows it is determined. -/
theorem Shows.eq_of_append_eq {first second : Expr} {text other : List Char} (shows : Shows first text)
    (otherShows : Shows second other) {rest otherRest : List Char} (ends : Lexeme.EndsNumeral rest)
    (otherEnds : Lexeme.EndsNumeral otherRest) (same : text ++ rest = other ++ otherRest) :
    first = second ∧ rest = otherRest := by
  induction shows generalizing second other rest otherRest with
  | constant unsigned places =>
      cases otherShows with
      | constant otherUnsigned otherPlaces =>
          obtain ⟨rfl, left⟩ :=
            Finite.eq_of_plain_append_eq unsigned places otherUnsigned otherPlaces ends otherEnds same
          exact ⟨rfl, left⟩
      | argument | binary | negate =>
          exact absurd same (Finite.plain_append_ne_cons unsigned places (by decide) (by decide) _ _)
  | argument =>
      cases otherShows with
      | constant otherUnsigned otherPlaces =>
          exact absurd same.symm (Finite.plain_append_ne_cons otherUnsigned otherPlaces (by decide) (by decide) _ _)
      | argument =>
          simp only [List.cons_append, List.append_assoc, List.nil_append, List.cons.injEq, true_and] at same
          have closes : ∀ after, EndsDigits ('}' :: after) := EndsDigits.cons (by decide)
          obtain ⟨digits, closed⟩ := (digits_toDigits _).eq_of_append_eq (digits_toDigits _) (closes _) (closes _) same
          obtain rfl := toDigits_injective digits
          exact ⟨rfl, (List.cons.inj closed).2⟩
      | binary | negate => simp at same
  | @binary op left right leftText rightText _ _ leftIH rightIH =>
      cases otherShows with
      | constant otherUnsigned otherPlaces =>
          exact absurd same.symm (Finite.plain_append_ne_cons otherUnsigned otherPlaces (by decide) (by decide) _ _)
      | binary otherLeft otherRight =>
          simp only [List.cons_append, List.append_assoc, List.nil_append, List.cons.injEq, true_and] at same
          have operator : ∀ after, Lexeme.EndsNumeral (' ' :: after) := Lexeme.EndsNumeral.cons (by decide) (by decide)
          have closes : ∀ after, Lexeme.EndsNumeral (')' :: after) := Lexeme.EndsNumeral.cons (by decide) (by decide)
          obtain ⟨rfl, afterLeft⟩ := leftIH otherLeft (operator _) (operator _) same
          simp only [List.cons.injEq, true_and] at afterLeft
          obtain ⟨sign, afterSign⟩ := afterLeft
          obtain ⟨rfl, afterRight⟩ := rightIH otherRight (closes _) (closes _) afterSign
          rw [Operator.sign_injective sign]
          exact ⟨rfl, (List.cons.inj afterRight).2⟩
      | argument | negate => simp at same
  | negate _ ih =>
      cases otherShows with
      | constant otherUnsigned otherPlaces =>
          exact absurd same.symm (Finite.plain_append_ne_cons otherUnsigned otherPlaces (by decide) (by decide) _ _)
      | negate otherOperand =>
          rw [List.cons_append, List.cons_append] at same
          obtain ⟨rfl, left⟩ := ih otherOperand ends otherEnds (List.cons.inj same).2
          exact ⟨rfl, left⟩
      | argument | binary => simp at same

/-- A text is printed for one plain tree only. -/
theorem print_eq_ok_iff_of_plain {first second : Expr} (firstPlain : first.Plain) (secondPlain : second.Plain)
    {text : String} (printed : first.print = .ok text) : second.print = .ok text ↔ second = first := by
  constructor
  · intro secondPrinted
    obtain ⟨_, firstSame, shows⟩ := firstPlain.exists_shows
    obtain ⟨_, secondSame, otherShows⟩ := secondPlain.exists_shows
    obtain rfl := Except.ok.inj (firstSame.symm.trans printed)
    obtain rfl := Except.ok.inj (secondSame.symm.trans secondPrinted)
    exact (otherShows.eq_of_append_eq shows Lexeme.EndsNumeral.nil Lexeme.EndsNumeral.nil rfl).1
  · rintro rfl
    exact printed

/-- A tree under many negations. -/
def negated : Nat → Expr → Expr
  | 0, expr => expr
  | count + 1, expr => .negate (negated count expr)

theorem Plain.negated {expr : Expr} (plain : expr.Plain) (count : Nat) : (negated count expr).Plain := by
  induction count with
  | zero => exact plain
  | succ count ih => exact .negate ih

/-- Two hundred negations, more than the reader accepts, of two differences. What these
subtract has the same value, but one of the constants has one more zero. -/
theorem print_eq_ok_iff_of_plain_negated :
    ∃ text, (negated 200 (.binary .subtract (.argument 0)
        (.negate (.constant (.finite ⟨false, 10, -1⟩))))).print = .ok text ∧
      (negated 200 (.binary .subtract (.argument 0)
        (.negate (.constant (.finite ⟨false, 100, -2⟩))))).print ≠ .ok text := by
  have short : Plain (.binary .subtract (.argument 0) (.negate (.constant (.finite ⟨false, 10, -1⟩)))) :=
    .binary .argument (.negate (.constant rfl (by decide)))
  have long : Plain (.binary .subtract (.argument 0) (.negate (.constant (.finite ⟨false, 100, -2⟩)))) :=
    .binary .argument (.negate (.constant rfl (by decide)))
  obtain ⟨text, printed, _⟩ := (short.negated 200).exists_shows
  refine ⟨text, printed, fun alike => ?_⟩
  have same := (print_eq_ok_iff_of_plain (short.negated 200) (long.negated 200) printed).mp alike
  exact absurd same (by decide +kernel)

end Expr

end DecimalFormula
