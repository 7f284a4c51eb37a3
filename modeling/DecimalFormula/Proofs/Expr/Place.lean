import Mathlib
import DecimalFormula.Proofs.Expr.Completeness

/-!
# The places of faults

A reader leaves an end of the text it was given, and so does a fault: its place is in
the text. For this, and for what else is true of all readers, a chain is taken apart
into its operands and a factor by its first character, once and for all.
-/

set_option autoImplicit false

namespace DecimalFormula.Expr.Reader

open Text Lexeme

/-- An expression and the rest of the text, or a refusal. -/
abbrev Outcome :=
  Except Refusal (Expr × List Char)

/-- Reads on where something was read. -/
def andThen (first : Outcome) (next : Expr → List Char → Outcome) : Outcome :=
  match first with
  | .error refusal => .error refusal
  | .ok (expr, rest) => next expr rest

/-- Takes the closing parenthesis after a sum. -/
def close (inner : Expr) (rest : List Char) : Outcome :=
  match skipBlanks rest with
  | ')' :: others => .ok (inner, others)
  | others => .error (.faulty (.expectedCharacter ')') others)

theorem length_lt_of_outcome {length : Nat} {result : Except Refusal (Parsed length)} {expr : Expr}
    {rest : List Char} (read : outcome result = .ok (expr, rest)) : rest.length < length := by
  cases result with
  | error refusal => cases read
  | ok parsed =>
      cases read
      exact parsed.shorter

section Chain

variable {operator? : Char → Option Operator} {operand : Reader}

theorem outcome_chain_eq_andThen (text : List Char) :
    outcome (chain operator? operand text) =
      andThen (outcome (operand text)) fun first rest => outcome (extend operator? operand first rest) :=
  outcome_chain operator? operand text

theorem outcome_extend_operator (left : Expr) {text after : List Char} {symbol : Char} {op : Operator}
    (blanks : skipBlanks text = symbol :: after) (found : operator? symbol = some op) :
    outcome (extend operator? operand left text) =
      andThen (outcome (operand after)) fun right rest =>
        outcome (extend operator? operand (.binary op left right) rest) := by
  rw [outcome_extend, blanks]
  simp only [found]
  rfl

variable (operator? operand) in
/-- A chain ends, or an operator and an operand are read and the chain goes on with the
rest, which is shorter. -/
theorem extend_induction {motive : Expr → List Char → Prop}
    (ends : ∀ left text, EndsChain operator? text → motive left text)
    (step : ∀ left text symbol after op, skipBlanks text = symbol :: after → operator? symbol = some op →
      (∀ right rest, outcome (operand after) = .ok (right, rest) → motive (.binary op left right) rest) →
      motive left text)
    (left : Expr) (text : List Char) : motive left text := by
  induction size : text.length using Nat.strongRecOn generalizing text left with
  | ind length ih =>
      cases blanks : skipBlanks text with
      | nil => exact ends left text fun c first => by simp [blanks] at first
      | cons symbol after =>
          cases found : operator? symbol with
          | none =>
              refine ends left text fun c first => ?_
              rw [blanks] at first
              obtain rfl : symbol = c := Option.some.inj first
              exact found
          | some op =>
              refine step left text symbol after op blanks found fun right rest read => ?_
              have skipped := length_skipBlanks_le text
              have taken := length_lt_of_outcome read
              rw [blanks, List.length_cons] at skipped
              exact ih rest.length (by omega) _ rest rfl

end Chain

/-- What a factor is after its first character. -/
theorem factorAt_cases {motive : (List Char → Outcome) → Prop} (nesting : Nat) (first : Char)
    (letter : ∀ index, motive fun after => .ok (.argument index, after))
    (braced : first = '\x7b' → motive fun after => outcome (reference after))
    (tooDeep : first ∈ ['+', '-', '('] → motive fun after => .error (.faulty .nestedTooDeeply (first :: after)))
    (plus : ∀ fewer, nesting = fewer + 1 → first = '+' → motive fun after => outcome (factor fewer after))
    (minus : ∀ fewer, nesting = fewer + 1 → first = '-' →
      motive fun after => andThen (outcome (factor fewer after)) fun operand rest => .ok (.negate operand, rest))
    (group : ∀ fewer, nesting = fewer + 1 → first = '(' →
      motive fun after => andThen (outcome (sum (factor fewer) after)) close)
    (number : motive fun after => outcome (numeral first after)) :
    motive fun after => outcome (factorAt (deeper nesting) first after) := by
  cases named : namedArgument? first with
  | some index =>
      simp only [outcome_letter _ named]
      exact letter index
  | none =>
      by_cases brace : first = '\x7b'
      · subst brace
        exact braced rfl
      by_cases plusSign : first = '+'
      · subst plusSign
        cases nesting with
        | zero => exact tooDeep (by decide)
        | succ fewer =>
            simp only [outcome_plus]
            exact plus fewer rfl rfl
      by_cases minusSign : first = '-'
      · subst minusSign
        cases nesting with
        | zero => exact tooDeep (by decide)
        | succ fewer =>
            simp only [outcome_minus]
            exact minus fewer rfl rfl
      by_cases opening : first = '('
      · subst opening
        cases nesting with
        | zero => exact tooDeep (by decide)
        | succ fewer =>
            simp only [outcome_opening, outcome_grouped]
            exact group fewer rfl rfl
      simp only [factorAt_eq_numeral _ named brace plusSign minusSign opening]
      exact number

/-!
## Places
-/

/-- What is left of a text, or the place of a fault, is an end of the text. -/
def Within (text : List Char) : Outcome → Prop
  | .ok (_, rest) => rest <:+ text
  | .error (.faulty _ rest) => rest <:+ text
  | .error (.indexTooLong count) => maxIntegerDigits < count

theorem Within.mono {text longer : List Char} {result : Outcome} (within : Within text result)
    (ending : text <:+ longer) : Within longer result := by
  match result, within with
  | .ok _, within => exact within.trans ending
  | .error (.faulty _ _), within => exact within.trans ending
  | .error (.indexTooLong _), within => exact within

theorem Within.andThen {text : List Char} {first : Outcome} {next : Expr → List Char → Outcome}
    (within : Within text first)
    (nextWithin : ∀ expr rest, first = .ok (expr, rest) → Within rest (next expr rest)) :
    Within text (Reader.andThen first next) := by
  cases first with
  | error refusal => exact within
  | ok result => exact (nextWithin _ _ rfl).mono within

theorem skipBlanks_suffix (text : List Char) : skipBlanks text <:+ text :=
  List.dropWhile_suffix _

theorem within_close (inner : Expr) (rest : List Char) : Within rest (close inner rest) := by
  have ending := skipBlanks_suffix rest
  rw [close]
  split
  · next others closing => exact (List.suffix_cons _ _).trans (closing ▸ ending)
  · exact ending

section Chain

variable {operator? : Char → Option Operator} {operand : Reader}

theorem within_extend (operandWithin : ∀ text, Within text (outcome (operand text))) (left : Expr)
    (text : List Char) : Within text (outcome (extend operator? operand left text)) := by
  induction left, text using extend_induction operator? operand with
  | ends left text ends =>
      rw [outcome_extend_end left ends]
      exact skipBlanks_suffix text
  | step left text symbol after op blanks found ih =>
      rw [outcome_extend_operator left blanks found]
      have ending : after <:+ text := (List.suffix_cons _ _).trans (blanks ▸ skipBlanks_suffix text)
      exact ((operandWithin after).andThen ih).mono ending

theorem within_chain (operandWithin : ∀ text, Within text (outcome (operand text))) (text : List Char) :
    Within text (outcome (chain operator? operand text)) := by
  rw [outcome_chain_eq_andThen]
  exact (operandWithin text).andThen fun first rest _ => within_extend operandWithin first rest

end Chain

theorem within_sum {factor : Reader} (factorWithin : ∀ text, Within text (outcome (factor text))) (text : List Char) :
    Within text (outcome (sum factor text)) :=
  within_chain (within_chain factorWithin) text

theorem within_reference (after : List Char) : Within ('\x7b' :: after) (outcome (reference after)) := by
  have opened : ∀ {rest}, rest <:+ after → rest <:+ '\x7b' :: after := fun ending =>
    ending.trans (List.suffix_cons _ _)
  rw [outcome_reference]
  cases found : braced after with
  | index value rest =>
      obtain ⟨before, digits, behind, _, _, _, _, _, _, rfl⟩ := exists_of_braced_index found
      exact opened ((List.suffix_cons _ _).trans (List.suffix_append _ _))
  | tooLong count rest =>
      obtain ⟨_, _, _, _, _, _, _, long, _⟩ := exists_of_braced_tooLong found
      exact long
  | unmatched => exact List.suffix_rfl
  | missing rest =>
      obtain ⟨blank, others, _, rfl, rfl⟩ := exists_of_braced_missing found
      exact opened (List.suffix_append _ _)
  | malformed content rest =>
      obtain ⟨rfl, _⟩ := exists_of_braced_malformed found
      exact opened (skipBlanks_suffix after)

theorem within_numeral (first : Char) (after : List Char) :
    Within (first :: after) (outcome (numeral first after)) := by
  rw [outcome_numeral]
  split
  · exact List.suffix_rfl
  · split
    · exact (List.drop_suffix _ _).trans (List.suffix_cons _ _)
    · exact List.suffix_rfl

theorem within_factor (nesting : Nat) (text : List Char) : Within text (outcome (factor nesting text)) := by
  induction nesting using Nat.strongRecOn generalizing text with
  | ind nesting ih =>
      have factorAtWithin (first : Char) (after : List Char) :
          Within (first :: after) (outcome (factorAt (deeper nesting) first after)) := by
        revert after
        refine factorAt_cases (motive := fun read => ∀ after, Within (first :: after) (read after)) nesting first
          ?letter ?braced ?tooDeep ?plus ?minus ?group ?number
        case letter => exact fun _ _ => List.suffix_cons _ _
        case braced =>
          rintro rfl after
          exact within_reference after
        case tooDeep => exact fun _ _ => List.suffix_rfl
        case plus => exact fun fewer same _ after => (ih fewer (by omega) after).mono (List.suffix_cons _ _)
        case minus =>
          intro fewer same _ after
          have negated : ∀ operand rest, Within rest (.ok (.negate operand, rest)) := fun _ _ => List.suffix_rfl
          exact ((ih fewer (by omega) after).andThen fun _ _ _ => negated _ _).mono (List.suffix_cons _ _)
        case group =>
          intro fewer same _ after
          have inner := within_sum (ih fewer (by omega)) after
          exact (inner.andThen fun _ _ _ => within_close _ _).mono (List.suffix_cons _ _)
        case number => exact within_numeral first
      rw [outcome_factor]
      split
      · exact List.nil_suffix
      · next first after blanks => exact (factorAtWithin first after).mono (blanks ▸ skipBlanks_suffix text)

end DecimalFormula.Expr.Reader
