import Mathlib
import DecimalFormula.Proofs.Expr.Place

/-!
# Longer texts

A reader that is given a text that goes on with an opening brace does what it does
with the text alone. Only where a factor is missing at the end of the text does it
take the reference after it.
-/

set_option autoImplicit false

namespace DecimalFormula.Expr.Reader

open Text Lexeme

/-- What a reader makes of a text that goes on with an opening brace, by what it makes of
the text alone. Where a factor is missing at the end of the text, the reference is read. -/
inductive Resumed (tail : List Char) : Outcome → Outcome → Prop where
  | read {expr : Expr} {rest : List Char} : Resumed tail (.ok (expr, rest)) (.ok (expr, rest ++ '\x7b' :: tail))
  | cutOff {result : Outcome} :
      (∀ count rest, braced tail = .tooLong count rest → result = .error (.indexTooLong count)) →
      (∀ expr rest, result = .ok (expr, rest) → rest.length ≤ tail.length) →
      Resumed tail (.error (.faulty .unexpectedEnd [])) result
  | refused {refusal other : Refusal} :
      refusal ≠ .faulty .unexpectedEnd [] → Resumed tail (.error refusal) (.error other)

/-- The reader of a chain or of a factor resumes at an opening brace. -/
def Resumes (read : List Char → Outcome) : Prop :=
  ∀ text tail, Resumed tail (read text) (read (text ++ '\x7b' :: tail))

namespace Resumed

variable {tail rest : List Char} {first second : Outcome} {expr : Expr}

theorem eq_ok (resumed : Resumed tail first (.ok (expr, rest ++ '\x7b' :: tail))) : first = .ok (expr, rest) := by
  generalize same : (.ok (expr, rest ++ '\x7b' :: tail) : Outcome) = second at resumed
  cases resumed with
  | read =>
      simp only [Except.ok.injEq, Prod.mk.injEq, List.append_cancel_right_eq] at same
      rw [same.1, same.2]
  | cutOff _ shorter =>
      have bound := shorter _ _ same.symm
      rw [List.length_append, List.length_cons] at bound
      omega
  | refused => cases same

theorem andThen (resumed : Resumed tail first second) {next : Expr → List Char → Outcome}
    (nextWithin : ∀ expr rest, Within rest (next expr rest))
    (nextResumed : ∀ expr rest, first = .ok (expr, rest) →
      Resumed tail (next expr rest) (next expr (rest ++ '\x7b' :: tail))) :
    Resumed tail (Reader.andThen first next) (Reader.andThen second next) := by
  cases resumed with
  | read => exact nextResumed _ _ rfl
  | refused different => exact .refused different
  | cutOff tooLong shorter =>
      refine .cutOff ?_ ?_
      · intro count rest found
        rw [tooLong count rest found]
        rfl
      · intro expr rest found
        cases second with
        | error refusal => cases found
        | ok result =>
            have ending := nextWithin result.1 result.2
            rw [show next result.1 result.2 = .ok (expr, rest) from found] at ending
            exact ending.length_le.trans (shorter _ _ rfl)

end Resumed

theorem visible_brace : isBlank '\x7b' = false := by
  decide

theorem endsNumeral_brace (tail : List Char) : EndsNumeral ('\x7b' :: tail) :=
  EndsNumeral.cons (by decide) (by decide) tail

theorem skipBlanks_append_brace (text tail : List Char) :
    skipBlanks (text ++ '\x7b' :: tail) = skipBlanks text ++ '\x7b' :: tail := by
  obtain ⟨blank, before, split⟩ := exists_skipBlanks text
  cases blanks : skipBlanks text with
  | nil =>
      rw [split, blanks, List.append_nil, List.nil_append, skipBlanks_append_cons before visible_brace]
  | cons first after =>
      rw [split, blanks, List.append_assoc, List.cons_append,
        skipBlanks_append_cons before (visible_of_skipBlanks blanks)]

theorem resumed_close (inner : Expr) (rest tail : List Char) :
    Resumed tail (close inner rest) (close inner (rest ++ '\x7b' :: tail)) := by
  rw [close, close, skipBlanks_append_brace]
  split
  · next others closing =>
      rw [closing]
      exact .read
  · next others noClosing =>
      split
      · next after closing =>
          cases blanks : skipBlanks rest with
          | nil => simp [blanks] at closing
          | cons first more =>
              rw [blanks] at closing
              obtain rfl : first = ')' := (List.cons.inj closing).1
              exact absurd blanks (noClosing more)
      · exact .refused (by simp)

section Chain

variable {operator? : Char → Option Operator} {operand : Reader}

theorem resumes_extend (noBrace : operator? '\x7b' = none)
    (operandWithin : ∀ text, Within text (outcome (operand text)))
    (operandResumes : Resumes fun text => outcome (operand text)) (left : Expr) :
    Resumes fun text => outcome (extend operator? operand left text) := by
  intro text tail
  induction left, text using extend_induction operator? operand with
  | ends left text ends =>
      have longerEnds : EndsChain operator? (text ++ '\x7b' :: tail) := by
        intro c first
        rw [skipBlanks_append_brace] at first
        cases blanks : skipBlanks text with
        | nil =>
            rw [blanks] at first
            obtain rfl : '\x7b' = c := Option.some.inj first
            exact noBrace
        | cons symbol after =>
            rw [blanks] at first
            exact ends c (by rw [blanks]; exact first)
      simp only [outcome_extend_end left ends, outcome_extend_end left longerEnds, skipBlanks_append_brace]
      exact .read
  | step left text symbol after op blanks found ih =>
      have longerBlanks : skipBlanks (text ++ '\x7b' :: tail) = symbol :: (after ++ '\x7b' :: tail) := by
        rw [skipBlanks_append_brace, blanks, List.cons_append]
      simp only [outcome_extend_operator left blanks found, outcome_extend_operator left longerBlanks found]
      exact (operandResumes after tail).andThen (fun right => within_extend operandWithin _) ih

theorem resumes_chain (noBrace : operator? '\x7b' = none)
    (operandWithin : ∀ text, Within text (outcome (operand text)))
    (operandResumes : Resumes fun text => outcome (operand text)) :
    Resumes fun text => outcome (chain operator? operand text) := by
  intro text tail
  simp only [outcome_chain_eq_andThen]
  exact (operandResumes text tail).andThen (fun first => within_extend operandWithin first)
    fun first rest _ => resumes_extend noBrace operandWithin operandResumes first rest tail

end Chain

theorem resumes_reference : Resumes fun after => outcome (reference after) := by
  intro after tail
  simp only [outcome_reference]
  cases found : braced after with
  | index value rest =>
      rw [braced_append found]
      exact .read
  | tooLong | unmatched | missing | malformed =>
      simp only
      cases longer : braced (after ++ '\x7b' :: tail) with
      | index value rest =>
          obtain ⟨others, read⟩ := exists_braced_of_append_opening longer
          rw [read] at found
          cases found
      | tooLong | unmatched | missing | malformed => exact .refused (by simp)

theorem resumes_numeral (first : Char) : Resumes fun after => outcome (numeral first after) := by
  intro after tail
  have scanned := (endsNumeral_brace tail).numeral_append (first :: after)
  simp only [outcome_numeral, ← List.cons_append, scanned]
  cases found : Lexeme.numeral (first :: after) with
  | nil => exact .refused (by simp)
  | cons digit digits =>
      simp only
      cases Decimal.ofText? (String.ofList (digit :: digits)) with
      | none => exact .refused (by simp)
      | some value =>
          have present : Lexeme.numeral (first :: after) ≠ [] := by simp [found]
          obtain ⟨_, _, rest, _, split⟩ := Lexeme.exists_numeral present
          rw [found] at split
          obtain ⟨rfl, rfl⟩ := List.cons.inj (split.trans List.cons_append)
          rw [List.append_assoc, List.drop_left, List.drop_left]
          exact .read

theorem resumes_sum {factor : Reader} (factorWithin : ∀ text, Within text (outcome (factor text)))
    (factorResumes : Resumes fun text => outcome (factor text)) : Resumes fun text => outcome (sum factor text) :=
  resumes_chain rfl (within_chain factorWithin) (resumes_chain rfl factorWithin factorResumes)

/-- A factor that is missing at the end of a text is the reference after it. -/
theorem resumed_at_brace (nesting : Nat) {blank : List Char} (before : Blank blank) (tail : List Char) :
    Resumed tail (.error (.faulty .unexpectedEnd [])) (outcome (factor nesting (blank ++ '\x7b' :: tail))) := by
  rw [outcome_factor_visible nesting before visible_brace]
  change Resumed tail _ (outcome (reference tail))
  rw [outcome_reference]
  refine .cutOff ?_ ?_
  · intro count rest found
    rw [found]
  · intro expr rest found
    cases read : braced tail with
    | index value others =>
        rw [read] at found
        cases found
        obtain ⟨before, digits, behind, _, _, _, _, _, _, rfl⟩ := exists_of_braced_index read
        rw [List.length_append, List.length_cons]
        omega
    | tooLong | unmatched | missing | malformed =>
        rw [read] at found
        cases found

theorem resumes_factor (nesting : Nat) : Resumes fun text => outcome (factor nesting text) := by
  induction nesting using Nat.strongRecOn with
  | ind nesting ih =>
      have factorAtResumes (first : Char) : Resumes fun after => outcome (factorAt (deeper nesting) first after) := by
        refine factorAt_cases (motive := Resumes) nesting first
          ?letter ?braced ?tooDeep ?plus ?minus ?group ?number
        case letter => exact fun _ _ _ => .read
        case braced => exact fun _ => resumes_reference
        case tooDeep => exact fun _ _ _ => .refused (by simp)
        case plus => exact fun fewer same _ => ih fewer (by omega)
        case minus =>
          intro fewer same _ after tail
          exact (ih fewer (by omega) after tail).andThen (fun _ _ => List.suffix_rfl) fun _ _ _ => .read
        case group =>
          intro fewer same _ after tail
          have inner := resumes_sum (within_factor fewer) (ih fewer (by omega))
          exact (inner after tail).andThen within_close fun _ _ _ => resumed_close _ _ tail
        case number => exact resumes_numeral first
      intro text tail
      obtain ⟨blank, before, split⟩ := exists_skipBlanks text
      cases blanks : skipBlanks text with
      | nil =>
          rw [blanks, List.append_nil] at split
          subst split
          have missing : outcome (factor nesting text) = .error (.faulty .unexpectedEnd []) := by
            rw [outcome_factor, blanks]
          simp only [missing]
          exact resumed_at_brace nesting before tail
      | cons first after =>
          simp only [outcome_factor, skipBlanks_append_brace, blanks, List.cons_append]
          exact factorAtResumes first after tail

end DecimalFormula.Expr.Reader
