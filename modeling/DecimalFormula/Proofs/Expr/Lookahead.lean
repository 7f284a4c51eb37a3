import Mathlib
import DecimalFormula.Proofs.Expr.Completion
import DecimalFormula.Proofs.Expr.Refusal

/-!
# One character ahead

A reader decides by the next character. What it makes of a text up to a character is
settled when it has seen that character: it goes on beyond it, or it does the same
whatever follows. Only the faults of a lexeme depend on what comes later, because they
stand where the lexeme begins.
-/

set_option autoImplicit false

namespace DecimalFormula

open Text

/-- The faults of a lexeme that is read to its end: they stand at its beginning. -/
def Fault.IsLexical : Fault → Prop
  | .unmatchedBrace | .malformedIndex _ | .malformedNumber _ => True
  | .unexpectedEnd | .unexpectedCharacter _ | .expectedCharacter _ | .nestedTooDeeply | .missingIndex => False

/-- A point that begins no number. -/
def LonePoint (text : List Char) : Prop :=
  ∃ after, text = '.' :: after ∧ EndsDigits after

end DecimalFormula

namespace DecimalFormula.Expr.Reader

open Text Lexeme

/-- An outcome beyond the character before the given text, or one whose place is not where
it was decided. -/
def Passes (after : List Char) : Outcome → Prop
  | .ok (_, rest) => rest.length ≤ after.length
  | .error (.faulty fault rest) => rest.length ≤ after.length ∨ fault.IsLexical ∨ LonePoint rest
  | .error (.indexTooLong _) => True

/-- What a reader makes of a text and of another one that is the same up to a character:
they are read up to it, or they are both refused, or the first goes beyond it. -/
inductive Settled (c : Char) (after other : List Char) : Outcome → Outcome → Prop where
  | read {expr : Expr} {rest : List Char} :
      Settled c after other (.ok (expr, rest ++ c :: after)) (.ok (expr, rest ++ c :: other))
  | refused {first second : Refusal} : Settled c after other (.error first) (.error second)
  | passed {first second : Outcome} : Passes after first → Settled c after other first second

def LooksAhead (read : List Char → Outcome) : Prop :=
  ∀ front c after other, Settled c after other (read (front ++ c :: after)) (read (front ++ c :: other))

theorem Passes.of_within {text after : List Char} {result : Outcome} (within : Within text result)
    (behind : text.length ≤ after.length) : Passes after result := by
  match result, within with
  | .ok _, within => exact within.length_le.trans behind
  | .error (.faulty _ _), within => exact .inl (within.length_le.trans behind)
  | .error (.indexTooLong _), _ => trivial

theorem Passes.andThen {after : List Char} {first : Outcome} {next : Expr → List Char → Outcome}
    (passes : Passes after first) (nextWithin : ∀ expr rest, Within rest (next expr rest)) :
    Passes after (Reader.andThen first next) := by
  cases first with
  | error refusal => exact passes
  | ok result => exact .of_within (nextWithin _ _) passes

theorem Settled.andThen {c : Char} {after other : List Char} {first second : Outcome}
    {next : Expr → List Char → Outcome} (settled : Settled c after other first second)
    (nextWithin : ∀ expr rest, Within rest (next expr rest))
    (nextSettled : ∀ expr rest, first = .ok (expr, rest ++ c :: after) →
      Settled c after other (next expr (rest ++ c :: after)) (next expr (rest ++ c :: other))) :
    Settled c after other (Reader.andThen first next) (Reader.andThen second next) := by
  cases settled with
  | read => exact nextSettled _ _ rfl
  | refused => exact .refused
  | passed passes => exact .passed (passes.andThen nextWithin)

/-- White space is skipped up to a character that is the given one or stands before it,
or all of it is skipped, and the given one as well. -/
theorem skipBlanks_cases (front : List Char) (c : Char) :
    (∃ kept, ∀ after, skipBlanks (front ++ c :: after) = kept ++ c :: after) ∨
      ∀ after, skipBlanks (front ++ c :: after) = skipBlanks after := by
  obtain ⟨blank, only, split⟩ := exists_skipBlanks front
  cases blanks : skipBlanks front with
  | cons first kept =>
      refine .inl ⟨first :: kept, fun after => ?_⟩
      rw [split, blanks, List.append_assoc, List.cons_append,
        skipBlanks_append_cons only (visible_of_skipBlanks blanks)]
  | nil =>
      rw [blanks, List.append_nil] at split
      subst split
      cases visible : isBlank c with
      | false => exact .inl ⟨[], fun after => skipBlanks_append_cons only visible after⟩
      | true =>
          refine .inr fun after => ?_
          rw [skipBlanks_append only, skipBlanks, List.dropWhile_cons_of_pos visible]
          rfl

theorem looksAhead_close (inner : Expr) : LooksAhead (close inner) := by
  intro front c after other
  rcases skipBlanks_cases front c with ⟨kept, stops⟩ | beyond
  · simp only [close, stops]
    cases kept with
    | nil =>
        by_cases closing : c = ')'
        · subst closing
          exact .passed (Nat.le_refl _)
        · simp only [List.nil_append, List.cons.injEq, closing, false_and, imp_self, implies_true]
          exact .refused
    | cons first kept =>
        by_cases closing : first = ')'
        · subst closing
          exact .read
        · simp only [List.cons_append, List.cons.injEq, closing, false_and, imp_self, implies_true]
          exact .refused
  · have skipped : close inner (front ++ c :: after) = close inner after := by
      simp only [close, beyond]
    rw [skipped]
    exact .passed (.of_within (within_close inner after) (Nat.le_refl _))

section Chain

variable {operator? : Char → Option Operator} {operand : Reader}

theorem looksAhead_extend (operandWithin : ∀ text, Within text (outcome (operand text)))
    (operandLooks : LooksAhead fun text => outcome (operand text)) (left : Expr) :
    LooksAhead fun text => outcome (extend operator? operand left text) := by
  intro front c after other
  generalize same : front ++ c :: after = text
  induction left, text using extend_induction operator? operand generalizing front with
  | ends left text ends =>
      subst same
      simp only [outcome_extend_end left ends]
      rcases skipBlanks_cases front c with ⟨kept, stops⟩ | beyond
      · have otherEnds : EndsChain operator? (front ++ c :: other) := by
          intro symbol starts
          apply ends symbol
          rw [stops] at starts ⊢
          cases kept <;> exact starts
        rw [outcome_extend_end left otherEnds, stops, stops]
        exact .read
      · rw [beyond]
        exact .passed (skipBlanks_suffix after).length_le
  | step left text symbol behind op blanks found ih =>
      subst same
      simp only [outcome_extend_operator left blanks found]
      have within : Within behind (andThen (outcome (operand behind)) fun right rest =>
          outcome (extend operator? operand (.binary op left right) rest)) :=
        (operandWithin behind).andThen fun _ rest _ => within_extend operandWithin _ rest
      rcases skipBlanks_cases front c with ⟨kept, stops⟩ | beyond
      · rw [stops] at blanks
        cases kept with
        | nil =>
            obtain ⟨rfl, rfl⟩ := List.cons.inj blanks
            exact .passed (.of_within within (Nat.le_refl _))
        | cons first kept =>
            obtain ⟨rfl, rfl⟩ := List.cons.inj blanks
            rw [outcome_extend_operator left (stops other) found]
            refine (operandLooks kept c after other).andThen (fun right => within_extend operandWithin _) ?_
            exact fun right rest read => ih right _ read rest rfl
      · rw [beyond] at blanks
        have ending : behind <:+ after := (List.suffix_cons _ _).trans (blanks ▸ skipBlanks_suffix after)
        exact .passed (.of_within within ending.length_le)

theorem looksAhead_chain (operandWithin : ∀ text, Within text (outcome (operand text)))
    (operandLooks : LooksAhead fun text => outcome (operand text)) :
    LooksAhead fun text => outcome (chain operator? operand text) := by
  intro front c after other
  simp only [outcome_chain_eq_andThen]
  exact (operandLooks front c after other).andThen (fun first => within_extend operandWithin first)
    fun first rest _ => looksAhead_extend operandWithin operandLooks first rest c after other

end Chain

theorem looksAhead_sum {factor : Reader} (factorWithin : ∀ text, Within text (outcome (factor text)))
    (factorLooks : LooksAhead fun text => outcome (factor text)) : LooksAhead fun text => outcome (sum factor text) :=
  looksAhead_chain (within_chain factorWithin) (looksAhead_chain factorWithin factorLooks)

/-!
## Lexemes
-/

/-- A mark in a text stands before the given character, is it, or stands after it. -/
theorem mark_cases {front content after rest : List Char} {c mark : Char}
    (split : front ++ c :: after = content ++ mark :: rest) :
    (∃ others, front = content ++ mark :: others ∧ rest = others ++ c :: after) ∨
      (front = content ∧ c = mark ∧ after = rest) ∨ (mark :: rest).length ≤ after.length := by
  rcases List.append_eq_append_iff.mp split with ⟨behind, rfl, later⟩ | ⟨behind, rfl, earlier⟩
  · cases behind with
    | nil =>
        obtain ⟨same, rest⟩ := List.cons.inj later
        exact .inr (.inl ⟨(List.append_nil front).symm, same, rest⟩)
    | cons first behind =>
        obtain ⟨rfl, rfl⟩ := List.cons.inj later
        exact .inr (.inr (by simp))
  · cases behind with
    | nil =>
        obtain ⟨same, rest⟩ := List.cons.inj earlier
        exact .inr (.inl ⟨List.append_nil content, same.symm, rest.symm⟩)
    | cons first behind =>
        obtain ⟨rfl, rfl⟩ := List.cons.inj earlier
        exact .inl ⟨behind, rfl, rfl⟩

theorem passes_reference (after : List Char) : Passes after (outcome (reference after)) := by
  have within := within_reference after
  rw [outcome_reference] at within ⊢
  cases found : braced after with
  | index value rest => exact (length_lt_of_braced_index found).le
  | tooLong => trivial
  | unmatched => exact .inr (.inl trivial)
  | missing rest =>
      obtain ⟨blank, others, only, rfl, rfl⟩ := exists_of_braced_missing found
      exact .inl (List.suffix_append _ _).length_le
  | malformed => exact .inr (.inl trivial)

theorem looksAhead_reference : LooksAhead fun after => outcome (reference after) := by
  intro front c after other
  simp only [outcome_reference]
  cases found : braced (front ++ c :: after) with
  | index value rest =>
      obtain ⟨before, digits, blank, beforeBlank, only, nonempty, afterBlank, short, rfl, split⟩ :=
        exists_of_braced_index found
      rcases mark_cases split with ⟨others, rfl, rfl⟩ | ⟨_, _, rfl⟩ | behind
      · have closed := braced_digits beforeBlank only nonempty afterBlank others
        rw [if_pos short] at closed
        rw [braced_append closed]
        exact .read
      · exact .passed (Nat.le_refl _)
      · exact .passed ((Nat.le_succ _).trans behind)
  | missing rest =>
      obtain ⟨blank, others, only, rfl, split⟩ := exists_of_braced_missing found
      rcases mark_cases split with ⟨others, rfl, rfl⟩ | ⟨rfl, rfl, rfl⟩ | behind
      · have closed := braced_blank only (others ++ c :: other)
        rw [← List.cons_append, ← List.append_assoc] at closed
        rw [closed]
        exact .refused
      · rw [braced_blank only]
        exact .refused
      · exact .passed (.inl behind)
  | tooLong => exact .passed trivial
  | unmatched => exact .passed (.inr (.inl trivial))
  | malformed => exact .passed (.inr (.inl trivial))

/-- A character that starts no numeral starts none in any text, unless it is a point. -/
theorem numeral_eq_nil_cases {first : Char} {rest : List Char} (nothing : Lexeme.numeral (first :: rest) = []) :
    LonePoint (first :: rest) ∨ ∀ other, Lexeme.numeral (first :: other) = [] := by
  by_cases point : first = '.'
  · subst point
    rw [numeral_of_point rfl] at nothing
    refine .inl ⟨rest, rfl, ?_⟩
    by_cases empty : rest.takeWhile Char.isDigit = []
    · have ends := endsDigits_dropWhile rest
      rwa [← List.nil_append (rest.dropWhile _), ← empty, List.takeWhile_append_dropWhile] at ends
    · rw [if_neg fun all => empty (List.append_eq_nil_iff.mp all).2] at nothing
      simp at nothing
  · cases digit : first.isDigit with
    | false => exact .inr fun other => (EndsNumeral.cons digit point other).numeral_append []
    | true =>
        rw [Lexeme.numeral, List.takeWhile_cons_of_pos digit] at nothing
        split at nothing <;> simp_all

/-- A numeral goes on to a given character or ends before it, whatever follows. -/
theorem numeral_cases {front after found : List Char} {c : Char}
    (taken : Lexeme.numeral (front ++ c :: after) = found) (nonempty : found ≠ []) :
    (∃ rest, front ++ c :: after = found ++ rest ∧ rest.length ≤ after.length) ∨
      ∃ kept, front = found ++ kept ∧ ∀ other, Lexeme.numeral (front ++ c :: other) = found := by
  obtain ⟨_, _, rest, _, split⟩ := Lexeme.exists_numeral (taken.trans_ne nonempty)
  rw [taken] at split
  by_cases beyond : rest.length ≤ after.length
  · exact .inl ⟨rest, split, beyond⟩
  · have lengths := congrArg List.length split
    simp only [List.length_cons, List.length_append] at lengths
    have prior : found <+: front :=
      List.prefix_of_prefix_length_le ⟨rest, split.symm⟩ ⟨c :: after, rfl⟩ (by omega)
    obtain ⟨kept, rfl⟩ := prior
    refine .inr ⟨kept, rfl, fun other => ?_⟩
    have same : (kept ++ c :: after).head? = (kept ++ c :: other).head? := by
      cases kept <;> rfl
    rw [List.append_assoc] at taken ⊢
    exact numeral_append_congr taken nonempty same

theorem settled_numeral {first c : Char} {behind others after other : List Char} (front : List Char)
    (split : first :: behind = front ++ c :: after) (otherSplit : first :: others = front ++ c :: other) :
    Settled c after other (outcome (numeral first behind)) (outcome (numeral first others)) := by
  rw [outcome_numeral, outcome_numeral]
  cases found : Lexeme.numeral (first :: behind) with
  | nil =>
      rcases numeral_eq_nil_cases found with lone | nothing
      · exact .passed (.inr (.inr lone))
      · rw [nothing]
        exact .refused
  | cons digit digits =>
      simp only
      cases read : Decimal.ofText? (String.ofList (digit :: digits)) with
      | none => exact .passed (.inr (.inl trivial))
      | some value =>
          rw [split] at found
          rcases numeral_cases found (List.cons_ne_nil _ _) with ⟨rest, taken, beyond⟩ | ⟨kept, rfl, otherFound⟩
          · obtain ⟨rfl, rfl⟩ := List.cons.inj ((split.trans taken).trans List.cons_append)
            simp only [List.drop_left]
            exact .passed beyond
          · rw [otherSplit, otherFound other]
            rw [List.append_assoc, List.cons_append] at split otherSplit
            obtain ⟨rfl, rfl⟩ := List.cons.inj split
            obtain ⟨-, rfl⟩ := List.cons.inj otherSplit
            simp only [read, List.drop_left]
            exact .read

/-!
## Factors
-/

theorem settled_factorAt (nesting : Nat) (c : Char) (after other : List Char) :
    Settled c after other (outcome (factorAt (deeper nesting) c after))
      (outcome (factorAt (deeper nesting) c other)) := by
  revert after other
  refine factorAt_cases (motive := fun read => ∀ after other, Settled c after other (read after) (read other))
    nesting c ?letter ?braced ?tooDeep ?plus ?minus ?group ?number
  case letter => exact fun _ _ _ => .passed (Nat.le_refl _)
  case braced => exact fun _ after _ => .passed (passes_reference after)
  case tooDeep => exact fun _ _ _ => .refused
  case plus => exact fun fewer _ _ after _ => .passed (.of_within (within_factor fewer after) (Nat.le_refl _))
  case minus =>
    intro fewer _ _ after other
    have operand := Passes.of_within (within_factor fewer after) (Nat.le_refl _)
    exact .passed (operand.andThen fun _ _ => List.suffix_rfl)
  case group =>
    intro fewer _ _ after other
    have inner := Passes.of_within (within_sum (within_factor fewer) after) (Nat.le_refl _)
    exact .passed (inner.andThen within_close)
  case number => exact fun after other => settled_numeral [] rfl rfl

theorem looksAhead_factor (nesting : Nat) : LooksAhead fun text => outcome (factor nesting text) := by
  induction nesting using Nat.strongRecOn with
  | ind nesting ih =>
      have factorAtLooks (first : Char) : LooksAhead fun after => outcome (factorAt (deeper nesting) first after) := by
        refine factorAt_cases (motive := LooksAhead) nesting first
          ?letter ?braced ?tooDeep ?plus ?minus ?group ?number
        case letter => exact fun _ _ _ _ _ => .read
        case braced => exact fun _ => looksAhead_reference
        case tooDeep => exact fun _ _ _ _ _ => .refused
        case plus => exact fun fewer same _ => ih fewer (by omega)
        case minus =>
          intro fewer same _ front c after other
          exact (ih fewer (by omega) front c after other).andThen (fun _ _ => List.suffix_rfl) fun _ _ _ => .read
        case group =>
          intro fewer same _ front c after other
          have inner := looksAhead_sum (within_factor fewer) (ih fewer (by omega))
          exact (inner front c after other).andThen within_close fun inner rest _ =>
            looksAhead_close inner rest c after other
        case number => exact fun front c after other => settled_numeral (first :: front) rfl rfl
      intro front c after other
      simp only [outcome_factor]
      rcases skipBlanks_cases front c with ⟨kept, stops⟩ | beyond
      · rw [stops, stops]
        cases kept with
        | nil => exact settled_factorAt nesting c after other
        | cons first kept => exact factorAtLooks first kept c after other
      · have within := within_factor nesting after
        rw [outcome_factor] at within
        rw [beyond]
        exact .passed (.of_within within (Nat.le_refl _))

/-!
## Whole texts
-/

def finish (expr : Expr) (rest : List Char) : Outcome :=
  match skipBlanks rest with
  | [] => .ok (expr, [])
  | first :: after => .error (.faulty (.unexpectedCharacter first) (first :: after))

theorem within_finish (expr : Expr) (rest : List Char) : Within rest (finish expr rest) := by
  rw [finish]
  cases blanks : skipBlanks rest with
  | nil => exact List.nil_suffix
  | cons first after =>
      have ending := skipBlanks_suffix rest
      rw [blanks] at ending
      exact ending

theorem looksAhead_finish (expr : Expr) : LooksAhead (finish expr) := by
  intro front c after other
  rcases skipBlanks_cases front c with ⟨kept, stops⟩ | beyond
  · simp only [finish, stops]
    cases kept <;> exact .refused
  · have skipped : finish expr (front ++ c :: after) = finish expr after := by
      simp only [finish, beyond]
    rw [skipped]
    exact .passed (.of_within (within_finish expr after) (Nat.le_refl _))

theorem parseChars_eq_finish (text : List Char) :
    parseChars text = (andThen (outcome (sum (factor maxNesting) text)) finish).map Prod.fst := by
  rw [parseChars_eq]
  cases outcome (sum (factor maxNesting) text) with
  | error refusal => rfl
  | ok result =>
      simp only [andThen, finish]
      cases skipBlanks result.2 <;> rfl

theorem looksAhead_parseChars :
    LooksAhead fun text => andThen (outcome (sum (factor maxNesting) text)) finish := by
  intro front c after other
  have settled := looksAhead_sum (within_factor maxNesting) (looksAhead_factor maxNesting) front c after other
  exact settled.andThen within_finish fun expr rest _ => looksAhead_finish expr rest c after other

end DecimalFormula.Expr.Reader

namespace DecimalFormula.Expr

open Text Reader

/-- Where a text is refused at a character, all texts are refused that are the same up to
it. Lexical faults and points that begin no number are the exceptions. -/
theorem parseChars_refused_at {front after : List Char} {c : Char} {fault : Fault}
    (refused : parseChars (front ++ c :: after) = .error (.faulty fault (c :: after))) (notLexical : ¬ fault.IsLexical)
    (notLone : ¬ LonePoint (c :: after)) (other : List Char) :
    ∃ refusal, parseChars (front ++ c :: other) = .error refusal := by
  have settled := looksAhead_parseChars front c after other
  simp only at settled
  rw [parseChars_eq_finish] at refused ⊢
  generalize andThen (outcome (sum (factor maxNesting) (front ++ c :: after))) finish = first at settled refused
  generalize andThen (outcome (sum (factor maxNesting) (front ++ c :: other))) finish = second at settled
  cases settled with
  | read => cases refused
  | refused => exact ⟨_, rfl⟩
  | passed passes =>
      cases first with
      | ok result => cases refused
      | error refusal =>
          cases refused
          rcases passes with behind | lexical | lone
          · exact absurd behind (Nat.not_succ_le_self _)
          · exact absurd lexical notLexical
          · exact absurd lone notLone

variable {source : String} {error : ParseError}

theorem exists_viable_prefix (refused : parse source = .error (.malformed error)) :
    ∃ front rest, source.toList = front ++ rest ∧ error.position = front.length ∧ error.fault.Describes rest ∧
      (∃ more expr, parse (String.ofList (front ++ more)) = .ok expr) ∧
      (¬ error.fault.IsLexical → ¬ LonePoint rest → ∀ c after, rest = c :: after →
        ∀ accepted expr, parse accepted = .ok expr → ¬ front ++ [c] <+: accepted.toList) := by
  obtain ⟨rest, read, -, position⟩ := exists_of_malformed refused
  obtain ⟨describes, front, more, expr, split, written⟩ := exists_completion read
  refine ⟨front, rest, split, ?_, describes, ⟨more, expr, (parse_eq_ok_iff_writes _ expr).mpr written⟩, ?_⟩
  · rw [position, ← String.length_toList, split, List.length_append]
    omega
  · rintro notLexical notLone c after rfl accepted expr parsed ⟨other, longer⟩
    rw [split] at read
    obtain ⟨refusal, fails⟩ := parseChars_refused_at read notLexical notLone other
    rw [List.append_assoc, List.singleton_append] at longer
    rw [longer] at fails
    rw [parse, fails] at parsed
    cases parsed

/-- The source up to the position of an error is the beginning of a source that is accepted.
With one more character it is not, unless the fault is lexical or a point that begins no
number. -/
theorem parse_refused_viable_prefix (refused : parse source = .error (.malformed error)) :
    0 ≤ error.position ∧ error.position ≤ source.length ∧
      (∃ more expr, parse (String.ofList (source.toList.take error.position.toNat ++ more)) = .ok expr) ∧
      (¬ error.fault.IsLexical → ¬ LonePoint (source.toList.drop error.position.toNat) →
        error.position < source.length → ∀ accepted expr, parse accepted = .ok expr →
          ¬ source.toList.take (error.position.toNat + 1) <+: accepted.toList) ∧
      (error.fault = .unmatchedBrace →
        ∃ after, source.toList.drop error.position.toNat = '\x7b' :: after ∧ '}' ∉ after) ∧
      (error.fault = .unexpectedEnd → error.position = source.length) := by
  obtain ⟨front, rest, split, position, describes, completed, stops⟩ := exists_viable_prefix refused
  have length : source.length = front.length + rest.length := by
    rw [← String.length_toList, split, List.length_append]
  simp only [position, split, length, Int.toNat_natCast, List.take_left, List.drop_left]
  refine ⟨Int.natCast_nonneg _, by omega, completed, ?_, ?_, ?_⟩
  · intro notLexical notLone inside
    cases rest with
    | nil => simp at inside
    | cons c after =>
        rw [List.take_length_add_append]
        exact stops notLexical notLone c after rfl
  · intro unmatched
    rw [unmatched] at describes
    exact describes
  · intro ended
    rw [ended] at describes
    rw [describes]
    rfl

/-- An operator is missing before the last character, and no text helps after it. -/
theorem parse_refused_viable_prefix_missing_operator :
    parse "(x + 2 y" = .error (.malformed ⟨.expectedCharacter ')', 7, "(x + 2 y"⟩) ∧
      ∀ accepted expr, parse accepted = .ok expr → ¬ "(x + 2 y".toList <+: accepted.toList := by
  have refused : parse "(x + 2 y" = .error (.malformed ⟨.expectedCharacter ')', 7, "(x + 2 y"⟩) := by
    decide +kernel
  obtain ⟨_, _, _, stops, _, _⟩ := parse_refused_viable_prefix refused
  refine ⟨refused, stops (fun lexical => lexical) ?_ (by decide)⟩
  rintro ⟨after, point, _⟩
  cases point

end DecimalFormula.Expr
