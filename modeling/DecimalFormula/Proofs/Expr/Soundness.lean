import Mathlib
import DecimalFormula.Proofs.Expr.Braced
import DecimalFormula.Proofs.Expr.Grammar
import DecimalFormula.Proofs.Expr.Reading

/-!
# What is read is derivable

Whatever a reader takes off the front of a text spells tokens from which the grammar
derives the expression that was read. A reader may take white space as well that
belongs to the next token, which is why white space may stand between the phrase and
what is left.
-/

set_option autoImplicit false

namespace DecimalFormula.Expr.Reader

open Text Decimal

/-- A text starts with a phrase, and the rest stands after it and after white space. -/
def StartsWith (phrase : Phrase) (nesting : Nat) (text : List Char) (expr : Expr) (rest : List Char) : Prop :=
  ∃ tokens front blank, text = front ++ (blank ++ rest) ∧ Spells tokens front ∧ Blank blank ∧
    Derives phrase nesting tokens expr

namespace StartsWith

variable {phrase : Phrase} {nesting : Nat} {text rest : List Char} {expr : Expr}

theorem length_le (started : StartsWith phrase nesting text expr rest) : rest.length ≤ text.length := by
  obtain ⟨_, front, blank, rfl, _⟩ := started
  rw [List.length_append, List.length_append]
  omega

theorem blank_append {blank : List Char} (started : StartsWith phrase nesting text expr rest)
    (before : Blank blank) : StartsWith phrase nesting (blank ++ text) expr rest := by
  obtain ⟨tokens, front, between, rfl, spelled, betweenBlank, derived⟩ := started
  exact ⟨tokens, blank ++ front, between, by rw [List.append_assoc],
    spelled.blank_append before derived.tokens_ne_nil, betweenBlank, derived⟩

/-- White space after a phrase may be counted as before the rest. -/
theorem skip (started : StartsWith phrase nesting text expr rest) :
    StartsWith phrase nesting text expr (skipBlanks rest) := by
  obtain ⟨tokens, front, blank, rfl, spelled, between, derived⟩ := started
  obtain ⟨skipped, skippedBlank, split⟩ := exists_skipBlanks rest
  refine ⟨tokens, front, blank ++ skipped, ?_, spelled, between.append skippedBlank, derived⟩
  rw [List.append_assoc, ← split]

end StartsWith

/-- The operators that a reader knows are those of the grammar between the operands of
a phrase. -/
structure Links (operator? : Char → Option Operator) (lower upper : Phrase) : Prop where
  sign : ∀ {symbol : Char} {op : Operator}, operator? symbol = some op → op.sign = symbol
  seed : ∀ {nesting : Nat} {tokens : List Token} {expr : Expr},
    Derives lower nesting tokens expr → Derives upper nesting tokens expr
  step : ∀ {symbol : Char} {op : Operator} {nesting : Nat} {before after : List Token} {left right : Expr},
    operator? symbol = some op → Derives upper nesting before left → Derives lower nesting after right →
    Derives upper nesting (before ++ .operator op :: after) (.binary op left right)

theorem links_multiplicative : Links multiplicative? .factor .product where
  sign found := by
    unfold multiplicative? at found
    split at found <;> cases found <;> rfl
  seed := .product
  step found left right := by
    refine .productStep left ?_ right
    unfold multiplicative? at found
    split at found <;> cases found
    · exact .inl rfl
    · exact .inr rfl

theorem links_additive : Links additive? .product .sum where
  sign found := by
    unfold additive? at found
    split at found <;> cases found <;> rfl
  seed := .sum
  step found left right := by
    refine .sumStep left ?_ right
    unfold additive? at found
    split at found <;> cases found
    · exact .inl rfl
    · exact .inr rfl

section Chain

variable {operator? : Char → Option Operator} {operand : Reader} {lower upper : Phrase} {nesting : Nat}

/-- One operation more of a chain. -/
theorem StartsWith.step (links : Links operator? lower upper) {source text after rest : List Char} {left right : Expr}
    {symbol : Char} {op : Operator} (started : StartsWith upper nesting source left text)
    (blanks : skipBlanks text = symbol :: after) (found : operator? symbol = some op)
    (operandStarted : StartsWith lower nesting after right rest) :
    StartsWith upper nesting source (.binary op left right) rest := by
  obtain ⟨tokens, front, gap, split, spelled, gapBlank, derived⟩ := started.skip
  obtain ⟨rightTokens, rightFront, blank, rfl, rightSpelled, between, rightDerived⟩ := operandStarted
  have sign : Spells (.operator op :: rightTokens) (gap ++ ([symbol] ++ rightFront)) :=
    .cons gapBlank (links.sign found ▸ op.toList_symbol ▸ .operator) rightSpelled
  refine ⟨_, _, blank, ?_, spelled.append sign, between, links.step found derived rightDerived⟩
  rw [split, blanks]
  simp only [List.append_assoc, List.cons_append, List.nil_append]

/-- Reading on in a chain extends the phrase at the start of the source, by induction on
the length of what is left to read. -/
theorem startsWith_of_extend (links : Links operator? lower upper)
    (operandSound : ∀ {text rest : List Char} {expr : Expr},
      outcome (operand text) = .ok (expr, rest) → StartsWith lower nesting text expr rest)
    {source text rest : List Char} {left expr : Expr} (started : StartsWith upper nesting source left text)
    (read : outcome (extend operator? operand left text) = .ok (expr, rest)) :
    StartsWith upper nesting source expr rest := by
  induction size : text.length using Nat.strongRecOn generalizing text left with
  | ind length ih =>
      rw [outcome_extend] at read
      cases blanks : skipBlanks text with
      | nil =>
          simp only [blanks] at read
          cases read
          exact blanks ▸ started.skip
      | cons symbol after =>
          simp only [blanks] at read
          cases found : operator? symbol with
          | none =>
              simp only [found] at read
              cases read
              exact blanks ▸ started.skip
          | some op =>
              simp only [found] at read
              cases operandRead : outcome (operand after) with
              | error refusal => simp [operandRead] at read
              | ok result =>
                  obtain ⟨right, others⟩ := result
                  simp only [operandRead] at read
                  have operandStarted := operandSound operandRead
                  have shorter : others.length < length := by
                    have skipped := length_skipBlanks_le text
                    have taken := operandStarted.length_le
                    rw [blanks, List.length_cons] at skipped
                    omega
                  exact ih _ shorter (started.step links blanks found operandStarted) read rfl

theorem startsWith_of_chain (links : Links operator? lower upper)
    (operandSound : ∀ {text rest : List Char} {expr : Expr},
      outcome (operand text) = .ok (expr, rest) → StartsWith lower nesting text expr rest)
    {text rest : List Char} {expr : Expr} (read : outcome (chain operator? operand text) = .ok (expr, rest)) :
    StartsWith upper nesting text expr rest := by
  rw [outcome_chain] at read
  cases operandRead : outcome (operand text) with
  | error refusal => simp [operandRead] at read
  | ok result =>
      obtain ⟨first, others⟩ := result
      simp only [operandRead] at read
      obtain ⟨tokens, front, blank, split, spelled, between, derived⟩ := operandSound operandRead
      exact startsWith_of_extend links operandSound ⟨tokens, front, blank, split, spelled, between,
        links.seed derived⟩ read

end Chain

theorem startsWith_of_sum {factor : Reader} {nesting : Nat}
    (factorSound : ∀ {text rest : List Char} {expr : Expr},
      outcome (factor text) = .ok (expr, rest) → StartsWith .factor nesting text expr rest)
    {text rest : List Char} {expr : Expr} (read : outcome (sum factor text) = .ok (expr, rest)) :
    StartsWith .sum nesting text expr rest :=
  startsWith_of_chain links_additive (startsWith_of_chain links_multiplicative factorSound) read

/-!
## Factors
-/

section Factor

variable {nesting : Nat} {first : Char} {text after rest : List Char} {expr : Expr}

/-- A factor of one token stands before what is left of a text. -/
theorem startsWith_token {token : Token} {spelling : List Char} (spelled : token.Spelled spelling)
    (derived : Derives .factor nesting [token] expr) : StartsWith .factor nesting (spelling ++ rest) expr rest :=
  ⟨[token], spelling, [], rfl, Spells.single Blank.nil spelled, Blank.nil, derived⟩

/-- A sign before a factor is a factor that nests once more. -/
theorem startsWith_sign {op : Operator} {operand : Expr} (started : StartsWith .factor nesting after operand rest)
    (derives : ∀ {tokens}, Derives .factor nesting tokens operand →
      Derives .factor (nesting + 1) (.operator op :: tokens) expr) :
    StartsWith .factor (nesting + 1) (op.sign :: after) expr rest := by
  obtain ⟨tokens, front, blank, rfl, spelled, between, derived⟩ := started
  have sign : Spells [.operator op] op.symbol.toList := Spells.single Blank.nil .operator
  rw [op.toList_symbol] at sign
  exact ⟨_, _, blank, rfl, sign.append spelled, between, derives derived⟩

theorem startsWith_of_reference (read : outcome (reference after) = .ok (expr, rest)) :
    StartsWith .factor nesting ('\x7b' :: after) expr rest := by
  rw [outcome_reference] at read
  cases braced : Lexeme.braced after with
  | index value others =>
      simp only [braced] at read
      cases read
      obtain ⟨before, digits, behind, beforeBlank, only, nonempty, behindBlank, short, rfl, rfl⟩ :=
        Lexeme.exists_of_braced_index braced
      have derived : Derives .factor nesting [.argument (Nat.ofDigitChars 10 digits 0)] _ := .argument
      have started : StartsWith .factor nesting _ _ rest :=
        startsWith_token (.braced beforeBlank only nonempty short behindBlank) derived
      simpa only [List.cons_append, List.append_assoc, List.nil_append] using started
  | tooLong | unmatched | missing | malformed => simp [braced] at read

theorem startsWith_of_numeral (read : outcome (numeral first after) = .ok (expr, rest)) :
    StartsWith .factor nesting (first :: after) expr rest := by
  rw [outcome_numeral] at read
  cases found : Lexeme.numeral (first :: after) with
  | nil => simp [found] at read
  | cons digit digits =>
      simp only [found] at read
      have present : Lexeme.numeral (first :: after) ≠ [] := by simp [found]
      obtain ⟨whole, fraction, others, numeral, split⟩ := Lexeme.exists_numeral present
      rw [found] at numeral split
      rw [numeral.ofText?_eq] at read
      by_cases representable : (Finite.ofDigits whole fraction).isRepresentable = true
      · simp only [representable, if_true, Except.ok.injEq, Prod.mk.injEq] at read
        obtain ⟨rfl, rfl⟩ := read
        obtain ⟨rfl, rfl⟩ := List.cons.inj (split.trans List.cons_append)
        rw [List.drop_left]
        exact startsWith_token (.number numeral representable) .number
      · simp [representable] at read

theorem startsWith_of_grouped (innerSound : ∀ {text rest : List Char} {expr : Expr},
      outcome (factor nesting text) = .ok (expr, rest) → StartsWith .factor nesting text expr rest)
    (read : outcome (grouped (factor nesting) after) = .ok (expr, rest)) :
    StartsWith .factor (nesting + 1) ('(' :: after) expr rest := by
  rw [outcome_grouped] at read
  cases innerRead : outcome (sum (factor nesting) after) with
  | error refusal => simp [innerRead] at read
  | ok result =>
      obtain ⟨inner, others⟩ := result
      simp only [innerRead] at read
      split at read
      · next behind closing =>
          cases read
          obtain ⟨tokens, front, blank, split, spelled, between, derived⟩ :=
            (startsWith_of_sum innerSound innerRead).skip
          have opening : Spells [.opening] ['('] := Spells.single Blank.nil .opening
          have closed : Spells [.closing] (blank ++ [')']) := Spells.single between .closing
          refine ⟨_, _, [], ?_, opening.append (spelled.append closed), Blank.nil, .group derived⟩
          rw [split, closing]
          simp only [List.append_assoc, List.cons_append, List.nil_append]
      · cases read

theorem startsWith_of_factorAt
    (nestedSound : ∀ {fewer : Nat} {text rest : List Char} {expr : Expr}, nesting = fewer + 1 →
      outcome (factor fewer text) = .ok (expr, rest) → StartsWith .factor fewer text expr rest)
    (read : outcome (factorAt (deeper nesting) first after) = .ok (expr, rest)) :
    StartsWith .factor nesting (first :: after) expr rest := by
  cases named : namedArgument? first with
  | some index =>
      rw [outcome_letter _ named] at read
      cases read
      exact startsWith_token (.letter named) .argument
  | none =>
      by_cases brace : first = '\x7b'
      · subst brace
        exact startsWith_of_reference read
      by_cases plus : first = '+'
      · subst plus
        cases nesting with
        | zero => cases read
        | succ fewer =>
            rw [outcome_plus] at read
            exact startsWith_sign (nestedSound rfl read) .plus
      by_cases minus : first = '-'
      · subst minus
        cases nesting with
        | zero => cases read
        | succ fewer =>
            rw [outcome_minus] at read
            cases operandRead : outcome (factor fewer after) with
            | error refusal => simp [operandRead] at read
            | ok result =>
                simp only [operandRead] at read
                cases read
                exact startsWith_sign (nestedSound rfl operandRead) .minus
      by_cases opening : first = '('
      · subst opening
        cases nesting with
        | zero => cases read
        | succ fewer =>
            rw [outcome_opening] at read
            exact startsWith_of_grouped (nestedSound rfl) read
      rw [factorAt_eq_numeral _ named brace plus minus opening] at read
      exact startsWith_of_numeral read

end Factor

theorem startsWith_of_factor (nesting : Nat) {text rest : List Char} {expr : Expr}
    (read : outcome (factor nesting text) = .ok (expr, rest)) : StartsWith .factor nesting text expr rest := by
  induction nesting using Nat.strongRecOn generalizing text rest expr with
  | ind nesting ih =>
      obtain ⟨blank, before, split⟩ := exists_skipBlanks text
      rw [outcome_factor] at read
      cases blanks : skipBlanks text with
      | nil => simp [blanks] at read
      | cons first after =>
          simp only [blanks] at read
          rw [split, blanks]
          refine (startsWith_of_factorAt ?_ read).blank_append before
          intro fewer text rest expr same
          exact ih fewer (by omega)

end DecimalFormula.Expr.Reader
