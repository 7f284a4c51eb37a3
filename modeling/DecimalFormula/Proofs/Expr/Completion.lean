import Mathlib
import DecimalFormula.Proofs.Expr.Place

/-!
# What comes before a fault

A fault names what stands at its place. What comes before the place is the beginning of
a phrase: up to there nothing is wrong with the text, however many signs and parentheses
are open. For this the readers keep on the way what has been derived so far, and a fault
in an operand leaves the chain before it as it is.
-/

set_option autoImplicit false

namespace DecimalFormula

open Text Decimal

/-- What a fault says about the text from its place on. -/
def Fault.Describes : Fault → List Char → Prop
  | .unexpectedEnd, rest => rest = []
  | .unexpectedCharacter found, rest => rest.head? = some found
  | .expectedCharacter wanted, rest => rest.head? ≠ some wanted
  | .nestedTooDeeply, rest => ∃ first after, rest = first :: after ∧ first ∈ ['+', '-', '(']
  | .unmatchedBrace, rest => ∃ after, rest = '\x7b' :: after ∧ '}' ∉ after
  | .missingIndex, rest => rest.head? = some '}'
  | .malformedIndex found, rest => found <+: rest
  | .malformedNumber found, rest => found <+: rest

/-- With some more text, a text spells a phrase. -/
def Completable (phrase : Phrase) (nesting : Nat) (front : List Char) : Prop :=
  ∃ more tokens expr, Spells tokens (front ++ more) ∧ Derives phrase nesting tokens expr

namespace Completable

variable {phrase : Phrase} {nesting : Nat} {front : List Char}

theorem nil (nesting : Nat) : Completable .factor nesting [] :=
  ⟨['x'], [.argument 0], _, Spells.single Blank.nil (.letter rfl), .argument⟩

theorem brace {blank : List Char} (only : Blank blank) (nesting : Nat) :
    Completable .factor nesting ('\x7b' :: blank) := by
  have spelled : Token.Spelled (.argument 0) ('\x7b' :: (blank ++ (['0'] ++ []) ++ ['}'])) :=
    .braced only (digits_replicate_zero 1) (List.cons_ne_nil _ _) (by decide) Blank.nil
  refine ⟨['0', '}'], [.argument 0], _, ?_, .argument⟩
  simpa using Spells.single Blank.nil spelled

theorem blank_append (completable : Completable phrase nesting front) {blank : List Char} (only : Blank blank) :
    Completable phrase nesting (blank ++ front) := by
  obtain ⟨more, tokens, expr, spelled, derived⟩ := completable
  refine ⟨more, tokens, expr, ?_, derived⟩
  rw [List.append_assoc]
  exact spelled.blank_append only derived.tokens_ne_nil

theorem plus (completable : Completable .factor nesting front) : Completable .factor (nesting + 1) ('+' :: front) := by
  obtain ⟨more, tokens, expr, spelled, derived⟩ := completable
  have sign : Spells [.operator .add] ['+'] := Spells.single Blank.nil .operator
  exact ⟨more, _, _, sign.append spelled, .plus derived⟩

theorem minus (completable : Completable .factor nesting front) : Completable .factor (nesting + 1) ('-' :: front) := by
  obtain ⟨more, tokens, expr, spelled, derived⟩ := completable
  have sign : Spells [.operator .subtract] ['-'] := Spells.single Blank.nil .operator
  exact ⟨more, _, _, sign.append spelled, .minus derived⟩

theorem opening (completable : Completable .sum nesting front) : Completable .factor (nesting + 1) ('(' :: front) := by
  obtain ⟨more, tokens, expr, spelled, derived⟩ := completable
  have opening : Spells [.opening] ['('] := Spells.single Blank.nil .opening
  have closing : Spells [.closing] [')'] := Spells.single Blank.nil .closing
  refine ⟨more ++ [')'], _, _, ?_, .group derived⟩
  simpa using opening.append (spelled.append closing)

end Completable

end DecimalFormula

namespace DecimalFormula.Expr.Reader

open Text Lexeme

/-- A fault describes what stands at its place, and what comes before can be completed. -/
def Completes (phrase : Phrase) (nesting : Nat) (text : List Char) : Outcome → Prop
  | .ok _ => True
  | .error (.faulty fault rest) =>
      fault.Describes rest ∧ ∃ front, text = front ++ rest ∧ Completable phrase nesting front
  | .error (.indexTooLong _) => True

namespace Completes

variable {phrase lower upper : Phrase} {nesting : Nat} {text : List Char} {result : Outcome}

theorem mono (completes : Completes lower nesting text result) {longer : List Char} {deeper : Nat}
    (lengthened : ∀ front rest, text = front ++ rest → Completable lower nesting front →
      ∃ longerFront, longer = longerFront ++ rest ∧ Completable upper deeper longerFront) :
    Completes upper deeper longer result := by
  match result, completes with
  | .ok _, _ => trivial
  | .error (.indexTooLong _), _ => trivial
  | .error (.faulty _ rest), ⟨describes, front, split, completable⟩ =>
      exact ⟨describes, lengthened front rest split completable⟩

/-- Where something was read, it is what follows that is completed. -/
theorem andThen {first : Outcome} {next : Expr → List Char → Outcome} (completes : Completes phrase nesting text first)
    (nextCompletes : ∀ expr rest, first = .ok (expr, rest) → Completes phrase nesting text (next expr rest)) :
    Completes phrase nesting text (Reader.andThen first next) := by
  cases first with
  | error refusal => exact completes
  | ok result => exact nextCompletes _ _ rfl

end Completes

/-!
## Chains
-/

section Chain

variable {operator? : Char → Option Operator} {operand : Reader} {lower upper : Phrase} {nesting : Nat}

theorem Completes.seed (links : Links operator? lower upper) {text : List Char} {result : Outcome}
    (completes : Completes lower nesting text result) : Completes upper nesting text result := by
  refine completes.mono fun front rest split completable => ⟨front, split, ?_⟩
  obtain ⟨more, tokens, expr, spelled, derived⟩ := completable
  exact ⟨more, tokens, expr, spelled, links.seed derived⟩

/-- An operand that can be completed completes the chain before it. -/
theorem Completes.step (links : Links operator? lower upper) {source text after : List Char} {left : Expr}
    {symbol : Char} {op : Operator} {result : Outcome} (started : StartsWith upper nesting source left text)
    (blanks : skipBlanks text = symbol :: after) (found : operator? symbol = some op)
    (completes : Completes lower nesting after result) : Completes upper nesting source result := by
  obtain ⟨tokens, chain, gap, split, spelled, gapBlank, derived⟩ := started.skip
  refine completes.mono fun front rest operandSplit completable => ?_
  obtain ⟨more, rightTokens, right, rightSpelled, rightDerived⟩ := completable
  have sign : Spells (.operator op :: rightTokens) (gap ++ ([symbol] ++ (front ++ more))) :=
    .cons gapBlank (links.sign found ▸ op.toList_symbol ▸ .operator) rightSpelled
  refine ⟨chain ++ (gap ++ symbol :: front), ?_, more, _, _, ?_, links.step found derived rightDerived⟩
  · rw [split, blanks, operandSplit]
    simp only [List.append_assoc, List.cons_append]
  · simpa only [List.append_assoc, List.cons_append, List.nil_append] using spelled.append sign

theorem completes_extend (links : Links operator? lower upper)
    (operandSound : ∀ {text rest : List Char} {expr : Expr},
      outcome (operand text) = .ok (expr, rest) → StartsWith lower nesting text expr rest)
    (operandCompletes : ∀ text, Completes lower nesting text (outcome (operand text)))
    {source text : List Char} {left : Expr} (started : StartsWith upper nesting source left text) :
    Completes upper nesting source (outcome (extend operator? operand left text)) := by
  induction left, text using extend_induction operator? operand with
  | ends left text ends =>
      rw [outcome_extend_end left ends]
      trivial
  | step left text symbol after op blanks found ih =>
      rw [outcome_extend_operator left blanks found]
      refine ((operandCompletes after).step links started blanks found).andThen fun right rest read => ?_
      exact ih right rest read (started.step links blanks found (operandSound read))

theorem completes_chain (links : Links operator? lower upper)
    (operandSound : ∀ {text rest : List Char} {expr : Expr},
      outcome (operand text) = .ok (expr, rest) → StartsWith lower nesting text expr rest)
    (operandCompletes : ∀ text, Completes lower nesting text (outcome (operand text))) (text : List Char) :
    Completes upper nesting text (outcome (chain operator? operand text)) := by
  rw [outcome_chain_eq_andThen]
  refine ((operandCompletes text).seed links).andThen fun first rest read => ?_
  obtain ⟨tokens, front, blank, split, spelled, between, derived⟩ := operandSound read
  exact completes_extend links operandSound operandCompletes
    ⟨tokens, front, blank, split, spelled, between, links.seed derived⟩

end Chain

theorem completes_sum {nesting : Nat}
    (factorCompletes : ∀ text, Completes .factor nesting text (outcome (factor nesting text))) (text : List Char) :
    Completes .sum nesting text (outcome (sum (factor nesting) text)) := by
  have factorSound {text rest : List Char} {expr : Expr} := @startsWith_of_factor nesting text rest expr
  exact completes_chain links_additive (startsWith_of_chain links_multiplicative factorSound)
    (completes_chain links_multiplicative factorSound factorCompletes) text

/-!
## Factors
-/

theorem completes_here {nesting : Nat} {text : List Char} {fault : Fault} (describes : fault.Describes text) :
    Completes .factor nesting text (.error (.faulty fault text)) :=
  ⟨describes, [], rfl, .nil nesting⟩

theorem completes_reference (nesting : Nat) (after : List Char) :
    Completes .factor nesting ('\x7b' :: after) (outcome (reference after)) := by
  rw [outcome_reference]
  cases found : braced after with
  | index => trivial
  | tooLong => trivial
  | unmatched => exact completes_here ⟨after, rfl, not_mem_of_braced_unmatched found⟩
  | missing rest =>
      obtain ⟨blank, others, only, rfl, rfl⟩ := exists_of_braced_missing found
      exact ⟨rfl, '\x7b' :: blank, rfl, .brace only nesting⟩
  | malformed content rest =>
      obtain ⟨rfl, starts⟩ := exists_of_braced_malformed found
      obtain ⟨blank, only, split⟩ := exists_skipBlanks after
      exact ⟨starts, '\x7b' :: blank, congrArg _ split, .brace only nesting⟩

theorem completes_numeral (nesting : Nat) (first : Char) (after : List Char) :
    Completes .factor nesting (first :: after) (outcome (numeral first after)) := by
  rw [outcome_numeral]
  cases found : Lexeme.numeral (first :: after) with
  | nil => exact completes_here rfl
  | cons digit digits =>
      simp only
      split
      · trivial
      · have present : Lexeme.numeral (first :: after) ≠ [] := by simp [found]
        obtain ⟨_, _, rest, _, split⟩ := exists_numeral present
        rw [found] at split
        exact completes_here ⟨rest, split.symm⟩

theorem completes_close {nesting : Nat} {after rest : List Char} {inner : Expr}
    (started : StartsWith .sum nesting after inner rest) :
    Completes .factor (nesting + 1) ('(' :: after) (close inner rest) := by
  obtain ⟨tokens, front, blank, split, spelled, between, derived⟩ := started.skip
  rw [close]
  split
  · trivial
  · next noClosing =>
      have opening : Spells [.opening] ['('] := Spells.single Blank.nil .opening
      have closing : Spells [.closing] (blank ++ [')']) := Spells.single between .closing
      refine ⟨?_, '(' :: (front ++ blank), ?_, [')'], _, _, ?_, .group derived⟩
      · intro closes
        cases others : skipBlanks rest with
        | nil => simp [others] at closes
        | cons first behind =>
            rw [others] at closes
            obtain rfl : first = ')' := Option.some.inj closes
            exact noClosing behind others
      · rw [split, List.cons_append, List.append_assoc]
      · simpa only [List.append_assoc, List.cons_append, List.nil_append] using opening.append (spelled.append closing)

theorem completes_factor (nesting : Nat) (text : List Char) :
    Completes .factor nesting text (outcome (factor nesting text)) := by
  induction nesting using Nat.strongRecOn generalizing text with
  | ind nesting ih =>
      have factorAtCompletes (first : Char) (after : List Char) :
          Completes .factor nesting (first :: after) (outcome (factorAt (deeper nesting) first after)) := by
        revert after
        refine factorAt_cases (motive := fun read => ∀ after, Completes .factor nesting (first :: after) (read after))
          nesting first ?letter ?braced ?tooDeep ?plus ?minus ?group ?number
        case letter => exact fun _ _ => trivial
        case braced =>
          rintro rfl after
          exact completes_reference nesting after
        case tooDeep => exact fun opens after => completes_here ⟨first, after, rfl, opens⟩
        case plus =>
          rintro fewer rfl rfl after
          refine (ih fewer (by omega) after).mono fun front rest split completable => ?_
          exact ⟨'+' :: front, congrArg _ split, completable.plus⟩
        case minus =>
          rintro fewer rfl rfl after
          have operand : Completes .factor (fewer + 1) ('-' :: after) (outcome (factor fewer after)) :=
            (ih fewer (by omega) after).mono fun front rest split completable =>
              ⟨'-' :: front, congrArg _ split, completable.minus⟩
          exact operand.andThen fun _ _ _ => trivial
        case group =>
          rintro fewer rfl rfl after
          have inner : Completes .factor (fewer + 1) ('(' :: after) (outcome (sum (factor fewer) after)) :=
            (completes_sum (ih fewer (by omega)) after).mono fun front rest split completable =>
              ⟨'(' :: front, congrArg _ split, completable.opening⟩
          exact inner.andThen fun expr rest read => completes_close (startsWith_of_sum (startsWith_of_factor fewer) read)
        case number => exact completes_numeral nesting first
      obtain ⟨blank, only, split⟩ := exists_skipBlanks text
      rw [outcome_factor]
      cases blanks : skipBlanks text with
      | nil =>
          rw [blanks] at split
          exact ⟨rfl, blank, split, by simpa using (Completable.nil nesting).blank_append only⟩
      | cons first after =>
          rw [blanks] at split
          refine (factorAtCompletes first after).mono fun front rest found completable => ?_
          exact ⟨blank ++ front, by rw [split, found, List.append_assoc], completable.blank_append only⟩

end DecimalFormula.Expr.Reader

namespace DecimalFormula.Expr

open Text Reader

/-- What comes before a fault is the beginning of a text that is accepted. -/
theorem exists_completion {text rest : List Char} {fault : Fault}
    (refused : parseChars text = .error (.faulty fault rest)) :
    fault.Describes rest ∧ ∃ front more expr, text = front ++ rest ∧ Writes (String.ofList (front ++ more)) expr := by
  have completes := completes_sum (completes_factor maxNesting) text
  rw [parseChars_eq] at refused
  cases read : outcome (sum (factor maxNesting) text) with
  | error refusal =>
      rw [read] at refused completes
      cases refused
      obtain ⟨describes, front, split, more, tokens, expr, spelled, derived⟩ := completes
      exact ⟨describes, front, more, expr, split, tokens, front ++ more, [], by simp, spelled, Blank.nil, derived⟩
  | ok result =>
      obtain ⟨expr, others⟩ := result
      obtain ⟨tokens, front, blank, split, spelled, between, derived⟩ :=
        (startsWith_of_sum (startsWith_of_factor maxNesting) read).skip
      rw [read] at refused
      cases blanks : skipBlanks others with
      | nil => simp [blanks] at refused
      | cons first after =>
          simp only [blanks] at refused
          cases refused
          refine ⟨rfl, front ++ blank, [], expr, ?_, tokens, front, blank, ?_, spelled, between, derived⟩
          · rw [split, blanks, List.append_assoc]
          · rw [String.toList_ofList, List.append_nil]

end DecimalFormula.Expr
