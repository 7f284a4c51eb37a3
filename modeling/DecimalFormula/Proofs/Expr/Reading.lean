import Mathlib
import DecimalFormula.Expr.Parser
import DecimalFormula.Proofs.Text.Blank

/-!
# What readers do

The readers of expressions carry a proof that they shorten their text. Without it,
an outcome is an expression with the rest of the text, or a refusal, and each reader
has an equation that says what its outcome is in terms of the readers it calls.
-/

set_option autoImplicit false

namespace DecimalFormula.Expr.Reader

open Text

/-- What was read and what is left of the text. -/
def outcome {length : Nat} (result : Except Refusal (Parsed length)) : Except Refusal (Expr × List Char) :=
  result.map fun parsed => (parsed.expr, parsed.rest)

section

variable {length longer : Nat}

@[simp] theorem outcome_ok (parsed : Parsed length) : outcome (.ok parsed) = .ok (parsed.expr, parsed.rest) :=
  rfl

@[simp] theorem outcome_error (refusal : Refusal) :
    outcome (.error refusal : Except Refusal (Parsed length)) = .error refusal :=
  rfl

@[simp] theorem outcome_map_widen (result : Except Refusal (Parsed length)) (bound : length ≤ longer) :
    outcome (result.map (Parsed.widen bound)) = outcome result := by
  cases result <;> rfl

end

/-!
## Chains
-/

variable (operator? : Char → Option Operator) (operand : Reader)

theorem outcome_extend (left : Expr) (text : List Char) :
    outcome (extend operator? operand left text) =
      match skipBlanks text with
      | [] => .ok (left, [])
      | symbol :: after =>
          match operator? symbol with
          | none => .ok (left, symbol :: after)
          | some op =>
              match outcome (operand after) with
              | .error refusal => .error refusal
              | .ok (right, rest) => outcome (extend operator? operand (.binary op left right) rest) := by
  rw [extend]
  split
  · next blanks => simp [blanks]
  · next symbol after blanks =>
      simp only [blanks]
      cases operator? symbol with
      | none => rfl
      | some op =>
          simp only
          cases operand after with
          | error refusal => rfl
          | ok right => simp only [outcome_map_widen, outcome_ok]

theorem outcome_chain (text : List Char) :
    outcome (chain operator? operand text) =
      match outcome (operand text) with
      | .error refusal => .error refusal
      | .ok (first, rest) => outcome (extend operator? operand first rest) := by
  rw [chain]
  cases operand text with
  | error refusal => rfl
  | ok first => simp only [outcome_map_widen, outcome_ok]

/-- White space before the next operator makes no difference to a chain. -/
theorem outcome_extend_congr (left : Expr) {text other : List Char} (same : skipBlanks text = skipBlanks other) :
    outcome (extend operator? operand left text) = outcome (extend operator? operand left other) := by
  rw [outcome_extend, outcome_extend, same]

/-!
## Factors
-/

/-- The reader of what a sign or a parenthesis opens, if anything may be nested. -/
def deeper : Nat → Option Reader
  | 0 => none
  | nesting + 1 => some (factor nesting)

theorem outcome_factor (nesting : Nat) (text : List Char) :
    outcome (factor nesting text) =
      match skipBlanks text with
      | [] => .error (.faulty .unexpectedEnd [])
      | first :: after => outcome (factorAt (deeper nesting) first after) := by
  have unfolded : factor nesting = factorWith (deeper nesting) := by
    cases nesting <;> rfl
  rw [unfolded, factorWith]
  split
  · next blanks => simp [blanks]
  · next first after blanks => simp [blanks]

/-- Reading a factor is deciding on its first visible character. -/
theorem outcome_factor_visible (nesting : Nat) {blank : List Char} (before : Blank blank) {first : Char}
    (visible : isBlank first = false) (after : List Char) :
    outcome (factor nesting (blank ++ first :: after)) = outcome (factorAt (deeper nesting) first after) := by
  rw [outcome_factor, skipBlanks_append_cons before visible]

theorem outcome_reference (after : List Char) :
    outcome (reference after) =
      match Lexeme.braced after with
      | .index value rest => .ok (.argument value, rest)
      | .tooLong digits _ => .error (.indexTooLong digits)
      | .unmatched => .error (.faulty .unmatchedBrace ('\x7b' :: after))
      | .missing rest => .error (.faulty .missingIndex rest)
      | .malformed found rest => .error (.faulty (.malformedIndex found) rest) := by
  rw [reference]
  split <;> next read => simp [read]

theorem outcome_numeral (first : Char) (after : List Char) :
    outcome (numeral first after) =
      match Lexeme.numeral (first :: after) with
      | [] => .error (.faulty (.unexpectedCharacter first) (first :: after))
      | digit :: digits =>
          match Decimal.ofText? (String.ofList (digit :: digits)) with
          | some value => .ok (.constant value, after.drop digits.length)
          | none => .error (.faulty (.malformedNumber (digit :: digits)) (first :: after)) := by
  rw [numeral]
  cases Lexeme.numeral (first :: after) with
  | nil => rfl
  | cons digit digits =>
      simp only
      cases Decimal.ofText? (String.ofList (digit :: digits)) <;> rfl

theorem outcome_grouped (factor : Reader) (after : List Char) :
    outcome (grouped factor after) =
      match outcome (sum factor after) with
      | .error refusal => .error refusal
      | .ok (inner, rest) =>
          match skipBlanks rest with
          | ')' :: others => .ok (inner, others)
          | others => .error (.faulty (.expectedCharacter ')') others) := by
  rw [grouped]
  cases sum factor after with
  | error refusal => rfl
  | ok inner =>
      simp only [outcome_ok]
      split
      · next others blanks => simp [blanks]
      · next noClosing =>
          split
          · next after closing => exact absurd closing (noClosing after)
          · rfl

theorem outcome_letter (nested : Option Reader) {name : Char} {index : Nat}
    (named : namedArgument? name = some index) (after : List Char) :
    outcome (factorAt nested name after) = .ok (.argument index, after) := by
  simp only [factorAt, named, outcome_ok]

theorem outcome_plus (nesting : Nat) (after : List Char) :
    outcome (factorAt (deeper (nesting + 1)) '+' after) = outcome (factor nesting after) :=
  outcome_map_widen _ _

theorem outcome_minus (nesting : Nat) (after : List Char) :
    outcome (factorAt (deeper (nesting + 1)) '-' after) =
      match outcome (factor nesting after) with
      | .error refusal => .error refusal
      | .ok (operand, rest) => .ok (.negate operand, rest) := by
  change outcome ((factor nesting after).map _) = _
  cases factor nesting after <;> rfl

theorem outcome_opening (nesting : Nat) (after : List Char) :
    outcome (factorAt (deeper (nesting + 1)) '(' after) = outcome (grouped (factor nesting) after) :=
  rfl

/-- A character that opens nothing and names nothing may only start a numeral. -/
theorem factorAt_eq_numeral (nested : Option Reader) {first : Char} (unnamed : namedArgument? first = none)
    (noBrace : first ≠ '\x7b') (noPlus : first ≠ '+') (noMinus : first ≠ '-') (noOpening : first ≠ '(')
    (after : List Char) : factorAt nested first after = numeral first after := by
  simp only [factorAt, unnamed]

end DecimalFormula.Expr.Reader
