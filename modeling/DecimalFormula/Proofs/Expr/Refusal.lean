import Mathlib
import DecimalFormula.Proofs.Expr.Resumption

/-!
# What source texts are refused

Every refusal but one names a place in the source. The one without a place is that of
a reference of too many digits, and it occurs exactly where a factor is missing at the
end of what stands before the reference.
-/

set_option autoImplicit false

namespace DecimalFormula.Expr.Reader

open Text Lexeme

/-- A reference of too many digits stands where a factor is missing at the end of what is
before it. -/
def FoundLate (read : List Char → Outcome) (text : List Char) : Prop :=
  ∀ count, read text = .error (.indexTooLong count) →
    ∃ front tail rest, text = front ++ '\x7b' :: tail ∧ braced tail = .tooLong count rest ∧
      read front = .error (.faulty .unexpectedEnd [])

theorem FoundLate.andThen {read : List Char → Outcome} {next : Expr → List Char → Outcome} {text : List Char}
    (within : Within text (read text)) (resumes : Resumes read) (found : FoundLate read text)
    (nextFound : ∀ expr rest, read text = .ok (expr, rest) → FoundLate (next expr) rest) :
    FoundLate (fun text => Reader.andThen (read text) next) text := by
  intro count refused
  cases first : read text with
  | error refusal =>
      simp only [first] at refused
      cases refused
      obtain ⟨front, tail, rest, split, long, missing⟩ := found count first
      exact ⟨front, tail, rest, split, long, by simp only [missing]; rfl⟩
  | ok result =>
      obtain ⟨expr, rest⟩ := result
      simp only [first] at refused
      rw [first] at within
      obtain ⟨taken, rfl⟩ := within
      obtain ⟨front, tail, others, rfl, long, missing⟩ := nextFound expr rest first count refused
      have resumed := resumes (taken ++ front) tail
      rw [List.append_assoc, first] at resumed
      refine ⟨taken ++ front, tail, others, by rw [List.append_assoc], long, ?_⟩
      simp only [resumed.eq_ok]
      exact missing

theorem FoundLate.of_visible {read readAfter : List Char → Outcome} {text after : List Char} {first : Char}
    (blanks : skipBlanks text = first :: after) (found : FoundLate readAfter after)
    (same : ∀ blank after, Blank blank → read (blank ++ first :: after) = readAfter after) : FoundLate read text := by
  obtain ⟨blank, before, split⟩ := exists_skipBlanks text
  rw [blanks] at split
  subst split
  intro count refused
  rw [same blank after before] at refused
  obtain ⟨front, tail, rest, rfl, long, missing⟩ := found count refused
  refine ⟨blank ++ first :: front, tail, rest, ?_, long, ?_⟩
  · rw [List.append_assoc, List.cons_append]
  · rw [same blank front before]
    exact missing

section Chain

variable {operator? : Char → Option Operator} {operand : Reader}

theorem foundLate_extend (operandWithin : ∀ text, Within text (outcome (operand text)))
    (operandResumes : Resumes fun text => outcome (operand text))
    (operandFound : ∀ text, FoundLate (fun text => outcome (operand text)) text) (left : Expr) (text : List Char) :
    FoundLate (fun text => outcome (extend operator? operand left text)) text := by
  induction left, text using extend_induction operator? operand with
  | ends left text ends =>
      intro count refused
      simp only [outcome_extend_end left ends] at refused
      cases refused
  | step left text symbol after op blanks found ih =>
      refine .of_visible blanks ((operandFound after).andThen (operandWithin after) operandResumes ih) ?_
      intro blank after before
      exact outcome_extend_operator left
        (skipBlanks_append_cons before (visible_of_skipBlanks blanks) after) found

theorem foundLate_chain (operandWithin : ∀ text, Within text (outcome (operand text)))
    (operandResumes : Resumes fun text => outcome (operand text))
    (operandFound : ∀ text, FoundLate (fun text => outcome (operand text)) text) (text : List Char) :
    FoundLate (fun text => outcome (chain operator? operand text)) text := by
  simp only [outcome_chain_eq_andThen]
  exact (operandFound text).andThen (operandWithin text) operandResumes fun first rest _ =>
    foundLate_extend operandWithin operandResumes operandFound first rest

end Chain

theorem foundLate_sum {nesting : Nat}
    (factorFound : ∀ text, FoundLate (fun text => outcome (factor nesting text)) text) (text : List Char) :
    FoundLate (fun text => outcome (sum (factor nesting) text)) text := by
  have within := within_factor nesting
  have resumes := resumes_factor nesting
  exact foundLate_chain (within_chain within) (resumes_chain rfl within resumes)
    (foundLate_chain within resumes factorFound) text

theorem numeral_ne_indexTooLong (first : Char) (after : List Char) (count : Nat) :
    outcome (numeral first after) ≠ .error (.indexTooLong count) := by
  rw [outcome_numeral]
  split
  · simp
  · split <;> simp

theorem close_ne_indexTooLong (inner : Expr) (rest : List Char) (count : Nat) :
    close inner rest ≠ .error (.indexTooLong count) := by
  rw [close]
  split <;> simp

theorem foundLate_reference {nesting : Nat} {text after : List Char} (blanks : skipBlanks text = '\x7b' :: after) :
    FoundLate (fun text => outcome (factor nesting text)) text := by
  intro count refused
  have atBrace : outcome (factor nesting text) = outcome (reference after) := by
    rw [outcome_factor, blanks]
    rfl
  obtain ⟨blank, before, split⟩ := exists_skipBlanks text
  simp only [atBrace, outcome_reference] at refused
  cases found : braced after with
  | tooLong digits rest =>
      rw [found] at refused
      cases refused
      refine ⟨blank, after, rest, by rw [← blanks, ← split], found, ?_⟩
      simp only [outcome_factor, skipBlanks_eq_nil before]
  | index | unmatched | missing | malformed =>
      rw [found] at refused
      cases refused

theorem foundLate_factor (nesting : Nat) (text : List Char) :
    FoundLate (fun text => outcome (factor nesting text)) text := by
  induction nesting using Nat.strongRecOn generalizing text with
  | ind nesting ih =>
      have factorAtFound (first : Char) : first ≠ '\x7b' → ∀ after,
          FoundLate (fun after => outcome (factorAt (deeper nesting) first after)) after := by
        refine factorAt_cases (motive := fun read => first ≠ '\x7b' → ∀ after, FoundLate read after) nesting first
          ?letter ?braced ?tooDeep ?plus ?minus ?group ?number
        case letter => exact fun _ _ _ _ refused => nomatch refused
        case braced => exact fun brace noBrace => absurd brace noBrace
        case tooDeep => exact fun _ _ _ _ refused => nomatch refused
        case plus => exact fun fewer same _ _ => ih fewer (by omega)
        case minus =>
          intro fewer same _ _ after
          exact (ih fewer (by omega) after).andThen (within_factor fewer after) (resumes_factor fewer)
            fun _ _ _ _ refused => nomatch refused
        case group =>
          intro fewer same _ _ after
          have within := within_factor fewer
          exact (foundLate_sum (ih fewer (by omega)) after).andThen (within_sum within after)
            (resumes_sum within (resumes_factor fewer)) fun inner rest _ count refused =>
              absurd refused (close_ne_indexTooLong inner rest count)
        case number => exact fun _ after count refused => absurd refused (numeral_ne_indexTooLong first after count)
      cases blanks : skipBlanks text with
      | nil =>
          intro count refused
          simp only [outcome_factor, blanks] at refused
          cases refused
      | cons first after =>
          by_cases brace : first = '\x7b'
          · exact foundLate_reference (brace ▸ blanks)
          · refine .of_visible blanks (factorAtFound first brace after) fun blank after before => ?_
            exact outcome_factor_visible nesting before (visible_of_skipBlanks blanks) after

end DecimalFormula.Expr.Reader

namespace DecimalFormula.Expr

open Text Lexeme Reader

variable {source : String} {text : List Char} {count : Nat}

theorem parseChars_eq_indexTooLong_iff :
    parseChars text = .error (.indexTooLong count) ↔
      outcome (sum (factor maxNesting) text) = .error (.indexTooLong count) := by
  rw [parseChars_eq]
  cases outcome (sum (factor maxNesting) text) with
  | error refusal => simp
  | ok result => cases blanks : skipBlanks result.2 <;> simp [blanks]

theorem parseChars_eq_unexpectedEnd_iff {rest : List Char} :
    parseChars text = .error (.faulty .unexpectedEnd rest) ↔
      outcome (sum (factor maxNesting) text) = .error (.faulty .unexpectedEnd rest) := by
  rw [parseChars_eq]
  cases outcome (sum (factor maxNesting) text) with
  | error refusal => simp
  | ok result => cases blanks : skipBlanks result.2 <;> simp [blanks]

theorem suffix_of_parseChars {fault : Fault} {rest : List Char}
    (refused : parseChars text = .error (.faulty fault rest)) : rest <:+ text := by
  have within := within_sum (within_factor maxNesting) text
  rw [parseChars_eq] at refused
  cases read : outcome (sum (factor maxNesting) text) with
  | error refusal =>
      rw [read] at refused within
      cases refused
      exact within
  | ok result =>
      obtain ⟨expr, others⟩ := result
      rw [read] at refused within
      have ending := skipBlanks_suffix others
      cases blanks : skipBlanks others with
      | nil => simp [blanks] at refused
      | cons first after =>
          simp only [blanks] at refused ending
          cases refused
          exact ending.trans within

/-- A factor is missing at the end of a text. -/
def MissesFactor (text : List Char) : Prop :=
  parse (String.ofList text) = .error (.malformed ⟨.unexpectedEnd, text.length, String.ofList text⟩)

theorem missesFactor_iff : MissesFactor text ↔ parseChars text = .error (.faulty .unexpectedEnd []) := by
  rw [MissesFactor, parse, String.toList_ofList]
  cases parseChars text with
  | ok expr => simp [Except.mapError]
  | error refusal =>
      cases refusal with
      | indexTooLong count => simp [Except.mapError, Refusal.locate]
      | faulty fault rest => simp [Except.mapError, Refusal.locate, String.length_ofList]

/-- A reference of so many digits, and that is more than an index may have, stands where a
factor is missing at the end of what is before it. -/
def HasLongIndex (source : String) (count : Nat) : Prop :=
  ∃ front before digits after rest,
    source.toList = front ++ '\x7b' :: (before ++ (digits ++ after) ++ '}' :: rest) ∧ MissesFactor front ∧
      Blank before ∧ Digits digits ∧ Blank after ∧ digits.length = count ∧ maxIntegerDigits < count

theorem not_hasLongIndex_of_not_mem {source : String} (noBrace : '\x7b' ∉ source.toList) (count : Nat) :
    ¬ HasLongIndex source count := by
  rintro ⟨front, before, digits, after, rest, braced, -⟩
  exact noBrace (by simp [braced])

theorem parseChars_eq_of_long_index {front before digits after rest : List Char} (missing : MissesFactor front)
    (beforeBlank : Blank before) (only : Digits digits) (afterBlank : Blank after)
    (long : maxIntegerDigits < digits.length) :
    parseChars (front ++ '\x7b' :: (before ++ (digits ++ after) ++ '}' :: rest)) =
      .error (.indexTooLong digits.length) := by
  have nonempty : digits ≠ [] := List.ne_nil_of_length_pos (Nat.zero_lt_of_lt long)
  have found := braced_digits beforeBlank only nonempty afterBlank rest
  rw [if_neg (Nat.not_le_of_lt long)] at found
  have resumed := resumes_sum (within_factor maxNesting) (resumes_factor maxNesting) front
    (before ++ (digits ++ after) ++ '}' :: rest)
  simp only [parseChars_eq_unexpectedEnd_iff.mp (missesFactor_iff.mp missing)] at resumed
  rw [parseChars_eq_indexTooLong_iff]
  generalize outcome (sum (factor maxNesting) _) = result at resumed
  cases resumed with
  | cutOff tooLong _ => exact tooLong _ _ found
  | refused different => exact absurd rfl different

theorem parse_eq_indexTooLong_iff : parse source = .error (.indexTooLong count) ↔ HasLongIndex source count := by
  have located : parse source = .error (.indexTooLong count) ↔
      parseChars source.toList = .error (.indexTooLong count) := by
    rw [parse]
    cases parseChars source.toList with
    | ok expr => simp [Except.mapError]
    | error refusal => cases refusal <;> simp [Except.mapError, Refusal.locate]
  rw [located]
  constructor
  · intro refused
    obtain ⟨front, tail, rest, split, long, missing⟩ :=
      foundLate_sum (foundLate_factor maxNesting) source.toList count (parseChars_eq_indexTooLong_iff.mp refused)
    obtain ⟨before, digits, after, beforeBlank, only, afterBlank, counted, tooLong, rfl⟩ :=
      exists_of_braced_tooLong long
    have missesFactor := missesFactor_iff.mpr (parseChars_eq_unexpectedEnd_iff.mpr missing)
    exact ⟨front, before, digits, after, rest, split, missesFactor, beforeBlank, only, afterBlank, counted, tooLong⟩
  · rintro ⟨front, before, digits, after, rest, split, missing, beforeBlank, only, afterBlank, rfl, tooLong⟩
    rw [split]
    exact parseChars_eq_of_long_index missing beforeBlank only afterBlank tooLong

theorem exists_of_malformed {error : ParseError} (refused : parse source = .error (.malformed error)) :
    ∃ rest, parseChars source.toList = .error (.faulty error.fault rest) ∧ error.source = source ∧
      error.position = source.length - rest.length := by
  rw [parse] at refused
  cases read : parseChars source.toList with
  | ok expr => simp [read, Except.mapError] at refused
  | error refusal =>
      rw [read] at refused
      cases refusal with
      | indexTooLong count => cases refused
      | faulty fault rest =>
          cases refused
          exact ⟨rest, rfl, rfl, rfl⟩

theorem position_of_malformed {error : ParseError} (refused : parse source = .error (.malformed error)) :
    error.source = source ∧ 0 ≤ error.position ∧ error.position ≤ source.length := by
  obtain ⟨rest, read, same, position⟩ := exists_of_malformed refused
  have bound := (suffix_of_parseChars read).length_le
  rw [String.length_toList] at bound
  exact ⟨same, by omega, by omega⟩

/-- A source text is parsed or refused at a place in it, unless a factor of it is a reference
of too many digits. Such a reference is the one thing that is refused without a place. -/
theorem parse_refuses_at_place_unless_long_index (source : String) :
    ((∃ expr, parse source = .ok expr) ∨
      (∃ error, parse source = .error (.malformed error) ∧ error.source = source ∧ 0 ≤ error.position ∧
        error.position ≤ source.length) ∨
      ∃ count, parse source = .error (.indexTooLong count)) ∧
    ∀ count, parse source = .error (.indexTooLong count) ↔ HasLongIndex source count := by
  refine ⟨?_, fun count => parse_eq_indexTooLong_iff⟩
  cases read : parse source with
  | ok expr => exact .inl ⟨expr, rfl⟩
  | error refusal =>
      cases refusal with
      | malformed error => exact .inr (.inl ⟨error, rfl, position_of_malformed read⟩)
      | indexTooLong count => exact .inr (.inr ⟨count, rfl⟩)

/-- The first argument, with so many zeros for its index. -/
def longReference (zeros : Nat) : String :=
  String.ofList ('\x7b' :: (List.replicate zeros '0' ++ ['}']))

/-- Leading zeros are digits as well: the reference is well formed, its index is zero, and the
source is refused without a place. -/
theorem parse_reference_of_4301_zeros : parse (longReference 4301) = .error (.indexTooLong 4301) := by
  refine parse_eq_indexTooLong_iff.mpr ⟨[], [], List.replicate 4301 '0', [], [], ?_, ?_, Blank.nil,
    digits_replicate_zero 4301, Blank.nil, List.length_replicate, by decide⟩
  · rw [longReference, String.toList_ofList, List.append_nil, List.nil_append, List.nil_append]
  · rw [missesFactor_iff]
    decide +kernel

end DecimalFormula.Expr
