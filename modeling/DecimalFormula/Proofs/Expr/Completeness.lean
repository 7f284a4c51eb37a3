import Mathlib
import DecimalFormula.Proofs.Expr.Soundness

/-!
# What is derivable is read

From a text that spells the tokens of a phrase, the reader of this kind of phrases
takes just this phrase, whatever comes after it, as long as that does not prolong the
last numeral of the phrase. A chain may go on after a phrase: there the reader is then
as far as if it had read the phrase as the beginning of the chain. With what readers
do being sound, the texts that are parsed are exactly those that write an expression.
-/

set_option autoImplicit false

namespace DecimalFormula.Expr.Reader

open Text Decimal Lexeme

/-!
## What comes after a phrase
-/

/-- After white space, no operator of a chain follows. -/
def EndsChain (operator? : Char → Option Operator) (rest : List Char) : Prop :=
  ∀ c ∈ (skipBlanks rest).head?, operator? c = none

theorem endsChain_append_cons (operator? : Char → Option Operator) {blank : List Char} (before : Blank blank)
    {c : Char} (visible : isBlank c = false) (noOperator : operator? c = none) (rest : List Char) :
    EndsChain operator? (blank ++ c :: rest) := by
  intro first isFirst
  rw [skipBlanks_append_cons before visible] at isFirst
  obtain rfl : c = first := Option.some.inj isFirst
  exact noOperator

theorem endsChain_blank (operator? : Char → Option Operator) {blank : List Char} (only : Blank blank) :
    EndsChain operator? blank := by
  intro first isFirst
  rw [skipBlanks_eq_nil only] at isFirst
  cases isFirst

theorem endsNumeral_blank {blank : List Char} (only : Blank blank) : EndsNumeral blank := by
  cases blank with
  | nil => exact EndsNumeral.nil
  | cons c others =>
      have isBlank := only c List.mem_cons_self
      refine EndsNumeral.cons (not_isDigit_of_isBlank isBlank) ?_ others
      rintro rfl
      exact absurd isBlank (by decide)

theorem endsNumeral_append_cons {blank : List Char} (before : Blank blank) {c : Char}
    (noDigit : c.isDigit = false) (noPoint : c ≠ '.') (rest : List Char) :
    EndsNumeral (blank ++ c :: rest) := by
  cases blank with
  | nil => exact EndsNumeral.cons noDigit noPoint rest
  | cons first others =>
      obtain ⟨noDigit, noPoint⟩ := endsNumeral_blank before first rfl
      exact EndsNumeral.cons noDigit noPoint _

theorem visible_sign (op : Operator) : isBlank op.sign = false := by
  cases op <;> decide

theorem endsNumeral_sign {blank : List Char} (before : Blank blank) (op : Operator) (rest : List Char) :
    EndsNumeral (blank ++ op.sign :: rest) := by
  refine endsNumeral_append_cons before ?_ ?_ rest <;> cases op <;> decide

/-!
## Tokens
-/

theorem visible_of_named {name : Char} {index : Nat} (named : namedArgument? name = some index) :
    isBlank name = false := by
  unfold namedArgument? at named
  split at named <;> first | decide | cases named

theorem outcome_factor_argument {index : Nat} {blank spelling : List Char} (nesting : Nat) (before : Blank blank)
    (spelled : Token.Spelled (.argument index) spelling) (rest : List Char) :
    outcome (factor nesting (blank ++ spelling ++ rest)) = .ok (.argument index, rest) := by
  rw [List.append_assoc]
  cases spelled with
  | letter named =>
      rw [List.singleton_append, outcome_factor_visible nesting before (visible_of_named named),
        outcome_letter _ named]
  | @braced inside digits behind insideBlank only nonempty short behindBlank =>
      have content := braced_digits insideBlank only nonempty behindBlank rest
      rw [if_pos (show digits.length ≤ maxIntegerDigits from short)] at content
      rw [List.cons_append, List.append_assoc _ _ rest, List.singleton_append,
        outcome_factor_visible nesting before (by decide)]
      change outcome (reference _) = _
      rw [outcome_reference, content]

theorem namedArgument?_of_start {first : Char} (start : first.isDigit = true ∨ first = '.') :
    namedArgument? first = none := by
  unfold namedArgument?
  split <;> first | rfl | exact absurd rfl (ne_of_start start (by decide) (by decide))

theorem outcome_factor_number {value : Finite} {blank spelling rest : List Char} (nesting : Nat)
    (before : Blank blank) (spelled : Token.Spelled (.number value) spelling) (ends : EndsNumeral rest) :
    outcome (factor nesting (blank ++ spelling ++ rest)) = .ok (.constant (.finite value), rest) := by
  cases spelled with
  | @number text whole fraction numeral representable =>
      obtain ⟨first, others, rfl, start⟩ := numeral.exists_cons
      have visible := numeral.visible first List.mem_cons_self
      have scanned := numeral_append numeral ends
      have read := numeral.ofText?_eq
      rw [if_pos representable] at read
      rw [List.append_assoc, List.cons_append, outcome_factor_visible nesting before visible,
        factorAt_eq_numeral _ (namedArgument?_of_start start) (ne_of_start start (by decide) (by decide))
          (ne_of_start start (by decide) (by decide)) (ne_of_start start (by decide) (by decide))
          (ne_of_start start (by decide) (by decide)), outcome_numeral]
      rw [List.cons_append] at scanned
      simp only [scanned, read, List.drop_left]

/-!
## Chains
-/

section Chain

variable {operator? : Char → Option Operator} {operand : Reader}

theorem outcome_extend_end (left : Expr) {rest : List Char} (ends : EndsChain operator? rest) :
    outcome (extend operator? operand left rest) = .ok (left, skipBlanks rest) := by
  rw [outcome_extend]
  cases blanks : skipBlanks rest with
  | nil => rfl
  | cons symbol after =>
      have noOperator := ends symbol (by rw [blanks]; rfl)
      simp only [noOperator]

theorem outcome_extend_step (left : Expr) {blank : List Char} (before : Blank blank) {op : Operator}
    (found : operator? op.sign = some op) {after rest : List Char} {right : Expr}
    (read : outcome (operand after) = .ok (right, rest)) :
    outcome (extend operator? operand left (blank ++ op.sign :: after)) =
      outcome (extend operator? operand (.binary op left right) rest) := by
  rw [outcome_extend, skipBlanks_append_cons before (visible_sign op)]
  simp only [found, read]

end Chain

/-!
## Phrases
-/

/-- The reader of the phrases of a kind takes a text off the front of all texts that do
not prolong it. A chain may still go on. -/
def IsRead (nesting : Nat) (text : List Char) (expr : Expr) : Phrase → Prop
  | .factor => ∀ rest, EndsNumeral rest → outcome (factor nesting (text ++ rest)) = .ok (expr, rest)
  | .product => ∀ rest, EndsNumeral rest →
      outcome (chain multiplicative? (factor nesting) (text ++ rest)) =
        outcome (extend multiplicative? (factor nesting) expr rest)
  | .sum => ∀ rest, EndsNumeral rest → EndsChain multiplicative? rest →
      outcome (sum (factor nesting) (text ++ rest)) =
        outcome (extend additive? (chain multiplicative? (factor nesting)) expr rest)

/-- A text that spells the tokens of a phrase is read as the tree of the phrase. The
induction is on the derivation. -/
theorem isRead_of_derives {phrase : Phrase} {nesting : Nat} {tokens : List Token} {expr : Expr}
    (derived : Derives phrase nesting tokens expr) {text : List Char} (spelled : Spells tokens text) :
    IsRead nesting text expr phrase := by
  induction derived generalizing text with
  | argument =>
      intro rest _
      obtain ⟨blank, spelling, rfl, before, spells⟩ := spelled.exists_single
      exact outcome_factor_argument _ before spells rest
  | number =>
      intro rest ends
      obtain ⟨blank, spelling, rfl, before, spells⟩ := spelled.exists_single
      exact outcome_factor_number _ before spells ends
  | plus _ ih =>
      intro rest ends
      obtain ⟨blank, others, rfl, before, spells⟩ := spelled.exists_operator
      rw [List.append_assoc, List.cons_append, outcome_factor_visible _ before (visible_sign .add)]
      exact (outcome_plus _ _).trans (ih spells rest ends)
  | minus _ ih =>
      intro rest ends
      obtain ⟨blank, others, rfl, before, spells⟩ := spelled.exists_operator
      rw [List.append_assoc, List.cons_append, outcome_factor_visible _ before (visible_sign .subtract)]
      refine (outcome_minus _ _).trans ?_
      rw [ih spells rest ends]
  | group _ ih =>
      intro rest ends
      obtain ⟨blank, spelling, others, rfl, before, spells, inner⟩ := spelled.exists_cons
      obtain ⟨innerText, closingText, rfl, innerSpelled, closingSpelled⟩ := inner.exists_append
      obtain ⟨gap, closing, rfl, gapBlank, closes⟩ := closingSpelled.exists_single
      cases spells with
      | opening =>
          cases closes with
          | closing =>
              have innerRead := ih innerSpelled (gap ++ ')' :: rest)
                (endsNumeral_append_cons gapBlank (by decide) (by decide) rest)
                (endsChain_append_cons _ gapBlank (by decide) rfl rest)
              have innerEnds : EndsChain additive? (gap ++ ')' :: rest) :=
                endsChain_append_cons _ gapBlank (by decide) rfl rest
              rw [outcome_extend_end _ innerEnds, skipBlanks_append_cons gapBlank (by decide)] at innerRead
              rw [List.append_assoc, List.singleton_append, List.cons_append, List.append_assoc innerText,
                List.append_assoc gap, List.singleton_append, outcome_factor_visible _ before (by decide),
                outcome_opening, outcome_grouped, innerRead]
              rfl
  | product _ ih =>
      intro rest ends
      rw [outcome_chain, ih spelled rest ends]
  | productStep _ multiplicative _ leftIH rightIH =>
      intro rest ends
      obtain ⟨leftText, rightText, rfl, leftSpelled, rightSpelled⟩ := spelled.exists_append
      obtain ⟨gap, others, rfl, gapBlank, rightSpelled⟩ := rightSpelled.exists_operator
      rw [List.append_assoc, List.append_assoc gap, List.cons_append,
        leftIH leftSpelled _ (endsNumeral_sign gapBlank _ _)]
      refine outcome_extend_step _ gapBlank ?_ (rightIH rightSpelled rest ends)
      rcases multiplicative with rfl | rfl <;> rfl
  | sum _ ih =>
      intro rest ends endsProduct
      rw [sum, outcome_chain, ih spelled rest ends, outcome_extend_end _ endsProduct]
      exact outcome_extend_congr _ _ _ (skipBlanks_skipBlanks rest)
  | @sumStep _ _ _ op _ _ _ additive _ leftIH rightIH =>
      intro rest ends endsProduct
      obtain ⟨leftText, rightText, rfl, leftSpelled, rightSpelled⟩ := spelled.exists_append
      obtain ⟨gap, others, rfl, gapBlank, rightSpelled⟩ := rightSpelled.exists_operator
      have rightRead := rightIH rightSpelled rest ends
      rw [outcome_extend_end _ endsProduct] at rightRead
      have leftEnds : EndsChain multiplicative? (gap ++ op.sign :: (others ++ rest)) :=
        endsChain_append_cons _ gapBlank (visible_sign op) (by rcases additive with rfl | rfl <;> rfl) _
      rw [List.append_assoc, List.append_assoc gap, List.cons_append,
        leftIH leftSpelled _ (endsNumeral_sign gapBlank _ _) leftEnds]
      refine (outcome_extend_step _ gapBlank ?_ rightRead).trans
        (outcome_extend_congr _ _ _ (skipBlanks_skipBlanks rest))
      rcases additive with rfl | rfl <;> rfl

end DecimalFormula.Expr.Reader

/-!
## Whole texts
-/

namespace DecimalFormula.Expr

open Text Reader

theorem parseChars_eq (source : List Char) :
    parseChars source =
      match outcome (sum (factor maxNesting) source) with
      | .error refusal => .error refusal
      | .ok (expr, rest) =>
          match skipBlanks rest with
          | [] => .ok expr
          | first :: after => .error (.faulty (.unexpectedCharacter first) (first :: after)) := by
  rw [parseChars]
  cases sum (factor maxNesting) source <;> rfl

theorem parse_eq_ok_iff (source : String) (expr : Expr) :
    parse source = .ok expr ↔
      ∃ rest, outcome (sum (factor maxNesting) source.toList) = .ok (expr, rest) ∧ skipBlanks rest = [] := by
  rw [parse, parseChars_eq]
  cases outcome (sum (factor maxNesting) source.toList) with
  | error refusal => simp [Except.mapError]
  | ok result =>
      obtain ⟨read, rest⟩ := result
      cases blanks : skipBlanks rest <;> simp [blanks, Except.mapError]

theorem parse_eq_ok_iff_writes (source : String) (expr : Expr) :
    parse source = .ok expr ↔ Writes source expr := by
  rw [parse_eq_ok_iff]
  constructor
  · rintro ⟨rest, read, finished⟩
    obtain ⟨tokens, front, blank, split, spelled, between, derived⟩ :=
      (startsWith_of_sum (startsWith_of_factor maxNesting) read).skip
    rw [finished, List.append_nil] at split
    exact ⟨tokens, front, blank, split, spelled, between, derived⟩
  · rintro ⟨tokens, text, after, split, spelled, afterBlank, derived⟩
    have read := isRead_of_derives derived spelled after (endsNumeral_blank afterBlank)
      (endsChain_blank _ afterBlank)
    rw [outcome_extend_end _ (endsChain_blank _ afterBlank), ← split] at read
    exact ⟨skipBlanks after, read, by rw [skipBlanks_skipBlanks, skipBlanks_eq_nil afterBlank]⟩

end DecimalFormula.Expr
