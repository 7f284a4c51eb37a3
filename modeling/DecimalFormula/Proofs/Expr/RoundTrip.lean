import Mathlib
import DecimalFormula.Proofs.Expr.Completeness
import DecimalFormula.Proofs.Expr.Printing

/-!
# Printing and parsing again

The text of a tree is parsed as the same tree, as long as the tree nests no more
operations than a source text may nest signs and parentheses. The text of a deeper
tree is refused for its nesting, and for nothing else: up to the place where the
nesting is too deep the reader finds all operands well formed.
-/

set_option autoImplicit false

namespace DecimalFormula.Expr

open Text Decimal Lexeme

/-!
## Refusals
-/

namespace Reader

variable {operator? : Char → Option Operator} {operand : Reader} {refusal : Refusal}

theorem outcome_chain_refused {text : List Char} (refused : outcome (operand text) = .error refusal) :
    outcome (chain operator? operand text) = .error refusal := by
  rw [outcome_chain, refused]

theorem outcome_extend_refused (left : Expr) {blank : List Char} (before : Blank blank) {op : Operator}
    (found : operator? op.sign = some op) {after : List Char}
    (refused : outcome (operand after) = .error refusal) :
    outcome (extend operator? operand left (blank ++ op.sign :: after)) = .error refusal := by
  rw [outcome_extend, skipBlanks_append_cons before (visible_sign op)]
  simp only [found, refused]

theorem outcome_sum_refused_left {factor : Reader} {text : List Char}
    (refused : outcome (factor text) = .error refusal) : outcome (sum factor text) = .error refusal :=
  outcome_chain_refused (outcome_chain_refused refused)

/-- A sum is refused where the second operand of its first operation is, whichever of
the two chains the operation belongs to. -/
theorem outcome_sum_refused_right {factor : Reader} {text blank after : List Char} {left : Expr} {op : Operator}
    (before : Blank blank) (read : outcome (factor text) = .ok (left, blank ++ op.sign :: after))
    (refused : outcome (factor after) = .error refusal) : outcome (sum factor text) = .error refusal := by
  have kinds : multiplicative? op.sign = some op ∨
      multiplicative? op.sign = none ∧ additive? op.sign = some op := by
    cases op
    · exact .inr ⟨rfl, rfl⟩
    · exact .inr ⟨rfl, rfl⟩
    · exact .inl rfl
    · exact .inl rfl
  rcases kinds with multiplicative | ⟨noProduct, additive⟩
  · apply outcome_chain_refused
    rw [outcome_chain, read]
    exact outcome_extend_refused left before multiplicative refused
  · have ends := endsChain_append_cons multiplicative? before (visible_sign op) noProduct after
    rw [sum, outcome_chain, outcome_chain, read]
    simp only [outcome_extend_end left ends]
    rw [outcome_extend_congr _ _ _ (skipBlanks_skipBlanks _)]
    exact outcome_extend_refused left before additive (outcome_chain_refused refused)

/-- A factor that would nest too deep is refused at its first sign or parenthesis. -/
theorem outcome_factor_zero {blank : List Char} (before : Blank blank) {first : Char}
    (opens : first = '-' ∨ first = '(') (after : List Char) :
    outcome (factor 0 (blank ++ first :: after)) = .error (.faulty .nestedTooDeeply (first :: after)) := by
  rcases opens with rfl | rfl
  all_goals
    rw [outcome_factor_visible 0 before (by decide)]
    rfl

end Reader

open Reader

theorem exists_of_spells_binary {op : Operator} {leftTokens rightTokens : List Token} {text : List Char}
    (spelled : Spells (.opening :: (leftTokens ++ .operator op :: rightTokens ++ [.closing])) text) :
    ∃ blank leftText gap rightText after,
      text = blank ++ '(' :: (leftText ++ (gap ++ op.sign :: (rightText ++ after))) ∧
      Blank blank ∧ Spells leftTokens leftText ∧ Blank gap ∧ Spells rightTokens rightText := by
  obtain ⟨blank, spelling, others, rfl, before, opens, inside⟩ := spelled.exists_cons
  obtain ⟨operation, closing, rfl, operationSpelled, closes⟩ := inside.exists_append
  obtain ⟨leftText, remainder, rfl, leftSpelled, rightSpelled⟩ := operationSpelled.exists_append
  obtain ⟨gap, rightText, rfl, gapBlank, rightSpelled⟩ := rightSpelled.exists_operator
  cases opens with
  | opening =>
      refine ⟨blank, leftText, gap, rightText, closing, ?_, before, leftSpelled, gapBlank, rightSpelled⟩
      simp only [List.append_assoc, List.cons_append, List.nil_append]

/-- The text of a tree that nests too many operations is refused for its nesting. The
induction is on the tree; a left operand that is not too deep itself is read, and the
operator after it as well. -/
theorem Writable.outcome_too_deep {expr : Expr} (writable : expr.Writable) {nesting : Nat}
    (deep : nesting < expr.nest) {text : List Char} (spelled : Spells expr.tokens text) (rest : List Char) :
    ∃ left, outcome (factor nesting (text ++ rest)) = .error (.faulty .nestedTooDeeply left) := by
  induction writable generalizing nesting text rest with
  | constant => exact absurd deep (Nat.not_lt_zero _)
  | argument => exact absurd deep (Nat.not_lt_zero _)
  | @negate operand _ ih =>
      rw [tokens] at spelled
      obtain ⟨blank, others, rfl, before, spells⟩ := spelled.exists_operator
      rw [List.append_assoc, List.cons_append]
      cases nesting with
      | zero => exact ⟨_, outcome_factor_zero before (.inl rfl) _⟩
      | succ inner =>
          have operandDeep : inner < operand.nest := by
            simp only [nest] at deep
            omega
          obtain ⟨left, refused⟩ := ih operandDeep spells rest
          refine ⟨left, ?_⟩
          rw [outcome_factor_visible _ before (visible_sign .subtract)]
          exact (outcome_minus _ _).trans (by rw [refused])
  | @binary op left right leftWritable _ leftIH rightIH =>
      obtain ⟨blank, leftText, gap, rightText, after, rfl, before, leftSpelled, gapBlank, rightSpelled⟩ :=
        exists_of_spells_binary spelled
      rw [List.append_assoc, List.cons_append, List.append_assoc leftText, List.append_assoc gap, List.cons_append,
        List.append_assoc rightText]
      cases nesting with
      | zero => exact ⟨_, outcome_factor_zero before (.inr rfl) _⟩
      | succ inner =>
          rw [outcome_factor_visible _ before (by decide), outcome_opening, outcome_grouped]
          by_cases leftDeep : inner < left.nest
          · obtain ⟨deepest, refused⟩ := leftIH leftDeep leftSpelled
              (gap ++ op.sign :: (rightText ++ (after ++ rest)))
            exact ⟨deepest, by rw [outcome_sum_refused_left refused]⟩
          · have rightDeep : inner < right.nest := by
              simp only [nest] at deep
              omega
            have read := isRead_of_derives (leftWritable.derives (Nat.le_of_not_lt leftDeep)) leftSpelled
              (gap ++ op.sign :: (rightText ++ (after ++ rest))) (endsNumeral_sign gapBlank op _)
            obtain ⟨deepest, refused⟩ := rightIH rightDeep rightSpelled (after ++ rest)
            exact ⟨deepest, by rw [outcome_sum_refused_right gapBlank read refused]⟩

/-!
## The text of a tree
-/

variable {expr : Expr} {text : String}

theorem Writable.parse_of_nest_le (writable : expr.Writable) (spelled : Spells expr.tokens text.toList)
    (shallow : expr.nest ≤ 100) : parse text = .ok expr := by
  refine (parse_eq_ok_iff_writes text expr).mpr ⟨expr.tokens, text.toList, [], ?_, spelled, Blank.nil, ?_⟩
  · rw [List.append_nil]
  · exact .sum (.product (writable.derives shallow))

theorem Writable.parse_of_lt_nest (writable : expr.Writable) (spelled : Spells expr.tokens text.toList)
    (deep : 100 < expr.nest) : ∃ position, parse text = .error (.malformed ⟨.nestedTooDeeply, position, text⟩) := by
  have tooDeep : maxNesting < expr.nest := deep
  obtain ⟨left, refused⟩ := writable.outcome_too_deep tooDeep spelled []
  rw [List.append_nil] at refused
  rw [parse, parseChars_eq, outcome_sum_refused_left refused]
  exact ⟨_, rfl⟩

/-- The text of a tree is parsed as the tree if the tree nests at most a hundred
operations, and is refused for its nesting if it nests more. -/
theorem parse_print_exact_nesting (writable : expr.Writable) :
    ∃ printed, expr.print = .ok printed ∧
      (expr.nest ≤ 100 → parse printed = .ok expr) ∧
      (100 < expr.nest → ∃ error : ParseError, parse printed = .error (.malformed error) ∧
        error.fault.detail = "Expression is nested too deeply") := by
  obtain ⟨printed, prints, spelled⟩ := writable.spells
  refine ⟨printed, prints, writable.parse_of_nest_le spelled, ?_⟩
  intro deep
  obtain ⟨position, refused⟩ := writable.parse_of_lt_nest spelled deep
  exact ⟨_, refused, rfl⟩

/-!
## The bound on nesting
-/

/-- The first argument, negated so many times. -/
def repeatedNegation : Nat → Expr
  | 0 => .argument 0
  | times + 1 => .negate (repeatedNegation times)

theorem writable_repeatedNegation (times : Nat) : (repeatedNegation times).Writable := by
  induction times with
  | zero => exact .argument (lt_ten_pow_of_le (by decide : 0 < 10 ^ 1) (by decide))
  | succ times ih => exact .negate ih

theorem nest_repeatedNegation (times : Nat) : (repeatedNegation times).nest = times := by
  induction times with
  | zero => rfl
  | succ times ih => rw [repeatedNegation, nest, ih, Nat.add_comm]

/-- A hundred negations on one side of a difference leave no room for the parentheses
around it. -/
theorem parse_print_of_nest_100_and_101 :
    (∃ printed, (repeatedNegation 100).print = .ok printed ∧ parse printed = .ok (repeatedNegation 100)) ∧
      ∃ printed, (binary .subtract (.constant (.finite ⟨false, 150, -2⟩)) (repeatedNegation 100)).print = .ok printed ∧
        ∃ error : ParseError, parse printed = .error (.malformed error) ∧
          error.fault.detail = "Expression is nested too deeply" := by
  constructor
  · obtain ⟨printed, prints, accepted, _⟩ := parse_print_exact_nesting (writable_repeatedNegation 100)
    exact ⟨printed, prints, accepted (nest_repeatedNegation 100).le⟩
  · have amount : Writable (.constant (.finite ⟨false, 150, -2⟩)) := .constant rfl (by decide) (by decide)
    have writable : Writable (.binary .subtract _ _) := .binary amount (writable_repeatedNegation 100)
    obtain ⟨printed, prints, _, refused⟩ := parse_print_exact_nesting writable
    exact ⟨printed, prints, refused (by simp only [nest, nest_repeatedNegation]; decide)⟩

end DecimalFormula.Expr
