import Mathlib
import DecimalFormula.Proofs.Expr.Lookahead
import DecimalFormula.Proofs.Expr.Printing
import DecimalFormula.Proofs.Expr.Replacement

/-!
# Names of arguments

Each of the first four arguments has two names. Where one of them stands, the other may
stand as well: readers take the same steps on both texts, whether the name is a
reference or a stray character, and refuse them at the same place. In a text that is
accepted every name is a reference, which may also be spelled with its index in braces.
-/

set_option autoImplicit false

namespace DecimalFormula

open Text

/-- The same character, or two names of one argument. -/
inductive Synonym : Char → Char → Prop where
  | same {c : Char} : Synonym c c
  | named {c other : Char} {index : Nat} :
      Expr.namedArgument? c = some index → Expr.namedArgument? other = some index → Synonym c other

/-- Texts that differ in the names of arguments only. -/
abbrev Synonyms : List Char → List Char → Prop :=
  List.Forall₂ Synonym

namespace Synonym

variable {c other : Char}

theorem symm (synonym : Synonym c other) : Synonym other c := by
  cases synonym with
  | same => exact .same
  | named first second => exact .named second first

/-- What is the same for all names does not tell synonyms apart. -/
theorem apply_eq {α : Type} {f : Char → α} {value : α} (synonym : Synonym c other)
    (onNames : ∀ {name index}, Expr.namedArgument? name = some index → f name = value) : f other = f c := by
  cases synonym with
  | same => rfl
  | named first second => rw [onNames first, onNames second]

theorem eq_of_unnamed (synonym : Synonym c other) (unnamed : Expr.namedArgument? c = none) : other = c := by
  cases synonym with
  | same => rfl
  | named first _ => rw [unnamed] at first; cases first

theorem eq_iff (synonym : Synonym c other) {mark : Char} (unnamed : Expr.namedArgument? mark = none) :
    other = mark ↔ c = mark := by
  constructor
  · intro same
    subst same
    exact synonym.symm.eq_of_unnamed unnamed
  · intro same
    subst same
    exact synonym.eq_of_unnamed unnamed

end Synonym

theorem not_isDigit_of_named {name : Char} {index : Nat} (named : Expr.namedArgument? name = some index) :
    name.isDigit = false := by
  unfold Expr.namedArgument? at named
  split at named <;> first | decide | cases named

theorem ne_brace_of_named {name : Char} {index : Nat} (named : Expr.namedArgument? name = some index) :
    decide (name ≠ '}') = true := by
  rw [decide_eq_true_eq]
  rintro rfl
  cases named

theorem unnamed_of_isDigit {c : Char} (digit : c.isDigit = true) : Expr.namedArgument? c = none :=
  Expr.Reader.namedArgument?_of_start (.inl digit)

namespace Synonyms

variable {text other : List Char}

theorem refl (text : List Char) : Synonyms text text :=
  List.forall₂_same.mpr fun _ _ => .same

theorem eq_of_unnamed (synonyms : Synonyms text other) (unnamed : ∀ c ∈ text, Expr.namedArgument? c = none) :
    other = text := by
  induction synonyms with
  | nil => rfl
  | cons synonym _ ih =>
      obtain ⟨unnamedHere, unnamedLater⟩ := List.forall_mem_cons.mp unnamed
      rw [synonym.eq_of_unnamed unnamedHere, ih unnamedLater]

section

variable {p : Char → Bool} {value : Bool}

theorem takeWhile (synonyms : Synonyms text other)
    (onNames : ∀ {name index}, Expr.namedArgument? name = some index → p name = value) :
    Synonyms (text.takeWhile p) (other.takeWhile p) := by
  induction synonyms with
  | nil => exact .nil
  | @cons c other _ _ synonym _ ih =>
      have same := synonym.apply_eq onNames
      cases passes : p c with
      | false => simp [passes, same]
      | true => simpa [passes, same] using ⟨synonym, ih⟩

theorem dropWhile (synonyms : Synonyms text other)
    (onNames : ∀ {name index}, Expr.namedArgument? name = some index → p name = value) :
    Synonyms (text.dropWhile p) (other.dropWhile p) := by
  induction synonyms with
  | nil => exact .nil
  | @cons c other _ _ synonym rest ih =>
      have same := synonym.apply_eq onNames
      cases passes : p c with
      | false => simpa [passes, same] using ⟨synonym, rest⟩
      | true => simpa [passes, same] using ih

end

theorem skipBlanks (synonyms : Synonyms text other) : Synonyms (skipBlanks text) (skipBlanks other) :=
  synonyms.dropWhile Expr.Reader.visible_of_named

theorem strip (synonyms : Synonyms text other) : Synonyms (strip text) (strip other) := by
  have reversed := List.rel_reverse synonyms.skipBlanks
  exact List.rel_reverse (Synonyms.skipBlanks reversed)

theorem all_isDigit (synonyms : Synonyms text other) : other.all Char.isDigit = text.all Char.isDigit := by
  induction synonyms with
  | nil => rfl
  | cons synonym _ ih => rw [List.all_cons, List.all_cons, synonym.apply_eq not_isDigit_of_named, ih]

theorem takeWhile_isDigit (synonyms : Synonyms text other) :
    other.takeWhile Char.isDigit = text.takeWhile Char.isDigit :=
  (synonyms.takeWhile not_isDigit_of_named).eq_of_unnamed fun _ member =>
    unnamed_of_isDigit (digits_takeWhile text _ member)

/-- Names are no parts of numerals. -/
theorem numeral_eq (synonyms : Synonyms text other) : Lexeme.numeral other = Lexeme.numeral text := by
  have dropped := synonyms.dropWhile not_isDigit_of_named
  by_cases point : ∃ rest, text.dropWhile Char.isDigit = '.' :: rest
  · obtain ⟨rest, point⟩ := point
    rw [point] at dropped
    obtain ⟨mark, otherRest, synonym, restSynonyms, otherPoint⟩ := List.forall₂_cons_left_iff.mp dropped
    rw [synonym.eq_of_unnamed rfl] at otherPoint
    rw [Lexeme.numeral_of_point point, Lexeme.numeral_of_point otherPoint, synonyms.takeWhile_isDigit,
      Synonyms.takeWhile_isDigit restSynonyms]
  · have otherNoPoint : ∀ rest, other.dropWhile Char.isDigit ≠ '.' :: rest := by
      intro rest otherPoint
      rw [otherPoint] at dropped
      obtain ⟨mark, others, synonym, _, found⟩ := List.forall₂_cons_right_iff.mp dropped
      rw [(synonym.eq_iff rfl).mp rfl] at found
      exact point ⟨others, found⟩
    rw [Lexeme.numeral_of_no_point (not_exists.mp point), Lexeme.numeral_of_no_point otherNoPoint,
      synonyms.takeWhile_isDigit]

end Synonyms

/-- Faults that differ in the names among the characters that they show only. -/
inductive Fault.Alike : Fault → Fault → Prop where
  | same {fault : Fault} : Alike fault fault
  | character {found other : Char} :
      Synonym found other → Alike (.unexpectedCharacter found) (.unexpectedCharacter other)
  | index {found other : List Char} : Synonyms found other → Alike (.malformedIndex found) (.malformedIndex other)

end DecimalFormula

namespace DecimalFormula.Expr.Reader

open Text Lexeme

/-- The same expression or the same refusal, but for the names in what is left. -/
inductive Alike : Outcome → Outcome → Prop where
  | read {expr : Expr} {rest other : List Char} : Synonyms rest other → Alike (.ok (expr, rest)) (.ok (expr, other))
  | refused {fault otherFault : Fault} {rest other : List Char} :
      fault.Alike otherFault → Synonyms rest other →
      Alike (.error (.faulty fault rest)) (.error (.faulty otherFault other))
  | indexTooLong {digits : Nat} : Alike (.error (.indexTooLong digits)) (.error (.indexTooLong digits))

theorem unnamed_additive {name : Char} {index : Nat} (named : namedArgument? name = some index) :
    additive? name = none := by
  unfold namedArgument? at named
  split at named <;> first | rfl | cases named

theorem unnamed_multiplicative {name : Char} {index : Nat} (named : namedArgument? name = some index) :
    multiplicative? name = none := by
  unfold namedArgument? at named
  split at named <;> first | rfl | cases named

def RespectsSynonyms (read : List Char → Outcome) : Prop :=
  ∀ text other, Synonyms text other → Alike (read text) (read other)

theorem Alike.andThen {first second : Outcome} {next : Expr → List Char → Outcome} (alike : Alike first second)
    (nextAlike : ∀ expr rest other, first = .ok (expr, rest) → Synonyms rest other →
      Alike (next expr rest) (next expr other)) :
    Alike (Reader.andThen first next) (Reader.andThen second next) := by
  cases alike with
  | read rest => exact nextAlike _ _ _ rfl rest
  | refused fault rest => exact .refused fault rest
  | indexTooLong => exact .indexTooLong

theorem respectsSynonyms_close (inner : Expr) : RespectsSynonyms (close inner) := by
  intro rest other synonyms
  have skipped := synonyms.skipBlanks
  rw [close, close]
  generalize skipBlanks rest = text at skipped
  generalize skipBlanks other = otherText at skipped
  cases skipped with
  | nil => exact .refused .same .nil
  | @cons c otherChar _ _ synonym rest =>
      by_cases closing : c = ')'
      · obtain rfl := (synonym.eq_iff rfl).mpr closing
        subst closing
        exact .read rest
      · have otherNoClosing := mt (synonym.eq_iff rfl).mp closing
        simp only [List.cons.injEq, closing, otherNoClosing, false_and, imp_self, implies_true]
        exact .refused .same (.cons synonym rest)

section Chain

variable {operator? : Char → Option Operator} {operand : Reader}

theorem respectsSynonyms_extend (noName : ∀ {name index}, namedArgument? name = some index → operator? name = none)
    (operandRespects : RespectsSynonyms fun text => outcome (operand text)) (left : Expr) :
    RespectsSynonyms fun text => outcome (extend operator? operand left text) := by
  intro text other synonyms
  have skipped := synonyms.skipBlanks
  induction left, text using extend_induction operator? operand generalizing other with
  | ends left text ends =>
      have otherEnds : EndsChain operator? other := by
        intro otherSymbol starts
        obtain ⟨otherAfter, otherBlanks⟩ := List.head?_eq_some_iff.mp starts
        rw [otherBlanks] at skipped
        obtain ⟨symbol, after, synonym, _, blanks⟩ := List.forall₂_cons_right_iff.mp skipped
        rw [synonym.apply_eq noName]
        exact ends symbol (by rw [blanks]; rfl)
      simp only [outcome_extend_end left ends, outcome_extend_end left otherEnds]
      exact .read skipped
  | step left text symbol after op blanks found ih =>
      rw [blanks] at skipped
      obtain ⟨otherSymbol, otherAfter, synonym, afterSynonyms, otherBlanks⟩ := List.forall₂_cons_left_iff.mp skipped
      have otherFound := (synonym.apply_eq noName).trans found
      simp only [outcome_extend_operator left blanks found, outcome_extend_operator left otherBlanks otherFound]
      exact (operandRespects after otherAfter afterSynonyms).andThen fun right rest other read restSynonyms =>
        ih right rest read other restSynonyms restSynonyms.skipBlanks

theorem respectsSynonyms_chain (noName : ∀ {name index}, namedArgument? name = some index → operator? name = none)
    (operandRespects : RespectsSynonyms fun text => outcome (operand text)) :
    RespectsSynonyms fun text => outcome (chain operator? operand text) := by
  intro text other synonyms
  simp only [outcome_chain_eq_andThen]
  exact (operandRespects text other synonyms).andThen fun first rest other _ =>
    respectsSynonyms_extend noName operandRespects first rest other

end Chain

theorem respectsSynonyms_sum {factor : Reader} (factorRespects : RespectsSynonyms fun text => outcome (factor text)) :
    RespectsSynonyms fun text => outcome (sum factor text) :=
  respectsSynonyms_chain unnamed_additive (respectsSynonyms_chain unnamed_multiplicative factorRespects)

/-!
## Lexemes
-/

/-- A reference ends at the same brace, and its index has no names. -/
theorem respectsSynonyms_reference : RespectsSynonyms fun after => outcome (reference after) := by
  intro after other synonyms
  have content := (synonyms.takeWhile ne_brace_of_named).strip
  have dropped := synonyms.dropWhile ne_brace_of_named
  simp only [outcome_reference, braced]
  generalize strip (after.takeWhile (· ≠ '}')) = found at content
  generalize strip (other.takeWhile (· ≠ '}')) = otherFound at content
  generalize after.dropWhile (· ≠ '}') = closed at dropped
  generalize other.dropWhile (· ≠ '}') = otherClosed at dropped
  cases dropped with
  | nil => exact .refused .same (.cons .same synonyms)
  | cons closing rest =>
      by_cases digits : found.all Char.isDigit = true
      · have unnamed : ∀ c ∈ found, namedArgument? c = none := fun c member =>
          unnamed_of_isDigit (List.all_eq_true.mp digits c member)
        obtain rfl := content.eq_of_unnamed unnamed
        cases otherFound with
        | nil => exact .refused .same (.cons closing rest)
        | cons first others =>
            by_cases short : (first :: others).length ≤ maxIntegerDigits
            · simp only [digits, short, if_true]
              exact .read rest
            · simp only [digits, short, if_true, if_false]
              exact .indexTooLong
      · have otherDigits : ¬ otherFound.all Char.isDigit = true := by rwa [content.all_isDigit]
        cases content with
        | nil => exact absurd rfl digits
        | cons first others =>
            simp only [digits, otherDigits]
            exact .refused (.index (.cons first others)) synonyms.skipBlanks

theorem respectsSynonyms_numeral (first : Char) : RespectsSynonyms fun after => outcome (numeral first after) := by
  intro after other synonyms
  have whole : Synonyms (first :: after) (first :: other) := .cons .same synonyms
  simp only [outcome_numeral, whole.numeral_eq]
  cases Lexeme.numeral (first :: after) with
  | nil => exact .refused .same whole
  | cons digit digits =>
      simp only
      cases Decimal.ofText? (String.ofList (digit :: digits)) with
      | none => exact .refused .same whole
      | some value => exact .read (List.forall₂_drop _ synonyms)

/-!
## Factors
-/

theorem respectsSynonyms_factor (nesting : Nat) : RespectsSynonyms fun text => outcome (factor nesting text) := by
  induction nesting using Nat.strongRecOn with
  | ind nesting ih =>
      have factorAtRespects (first : Char) :
          RespectsSynonyms fun after => outcome (factorAt (deeper nesting) first after) := by
        refine factorAt_cases (motive := RespectsSynonyms) nesting first
          ?letter ?braced ?tooDeep ?plus ?minus ?group ?number
        case letter => exact fun _ _ _ synonyms => .read synonyms
        case braced => exact fun _ => respectsSynonyms_reference
        case tooDeep => exact fun _ _ _ synonyms => .refused .same (.cons .same synonyms)
        case plus => exact fun fewer same _ => ih fewer (by omega)
        case minus =>
          intro fewer same _ after other synonyms
          exact (ih fewer (by omega) after other synonyms).andThen fun _ _ _ _ rest => .read rest
        case group =>
          intro fewer same _ after other synonyms
          have inner := respectsSynonyms_sum (ih fewer (by omega))
          exact (inner after other synonyms).andThen fun inner rest other _ => respectsSynonyms_close inner rest other
        case number => exact respectsSynonyms_numeral first
      intro text other synonyms
      have skipped := synonyms.skipBlanks
      simp only [outcome_factor]
      generalize skipBlanks text = visible at skipped
      generalize skipBlanks other = otherVisible at skipped
      cases skipped with
      | nil => exact .refused .same .nil
      | @cons first otherFirst _ _ synonym after =>
          cases synonym with
          | same => exact factorAtRespects first _ _ after
          | named named otherNamed =>
              simp only [outcome_letter _ named, outcome_letter _ otherNamed]
              exact .read after

/-!
## Whole texts
-/

theorem respectsSynonyms_finish (expr : Expr) : RespectsSynonyms (finish expr) := by
  intro rest other synonyms
  have skipped := synonyms.skipBlanks
  rw [finish, finish]
  generalize skipBlanks rest = behind at skipped
  generalize skipBlanks other = otherBehind at skipped
  cases skipped with
  | nil => exact .read .nil
  | cons synonym after => exact .refused (.character synonym) (.cons synonym after)

end DecimalFormula.Expr.Reader

namespace DecimalFormula.Expr

open Text Reader

theorem alike_parseChars {text other : List Char} (synonyms : Synonyms text other) :
    (∃ expr, parseChars text = .ok expr ∧ parseChars other = .ok expr) ∨
      (∃ fault otherFault rest otherRest, parseChars text = .error (.faulty fault rest) ∧
        parseChars other = .error (.faulty otherFault otherRest) ∧ fault.Alike otherFault ∧ Synonyms rest otherRest) ∨
      ∃ digits, parseChars text = .error (.indexTooLong digits) ∧ parseChars other = .error (.indexTooLong digits) := by
  have alike := (respectsSynonyms_sum (respectsSynonyms_factor maxNesting) text other synonyms).andThen
    fun expr rest otherRest _ => respectsSynonyms_finish expr rest otherRest
  rw [parseChars_eq_finish, parseChars_eq_finish]
  generalize andThen _ finish = first at alike ⊢
  generalize andThen _ finish = second at alike ⊢
  cases alike with
  | read => exact .inl ⟨_, rfl, rfl⟩
  | refused fault rest => exact .inr (.inl ⟨_, _, _, _, rfl, rfl, fault, rest⟩)
  | indexTooLong => exact .inr (.inr ⟨_, rfl, rfl⟩)

/-- A name in a source text is replaced by the index that it stands for, in braces. -/
inductive BracedName : List Char → List Char → Prop where
  | name {name : Char} {index : Nat} : namedArgument? name = some index → BracedName [name] (bracedIndex index).toList

theorem replacesReferences_bracedName : ReplacesReferences BracedName Eq where
  refl := fun _ => rfl
  exists_tokens := by
    intro part new replaces
    cases replaces with
    | name named =>
        have spelled := spelled_bracedIndex (lt_ten_pow_of_le (namedArgument?_lt named) (by decide))
        exact ⟨_, _, .letter named, spelled, rfl⟩

/-- The names of arguments can be told apart by nothing but the characters in a message: texts
that differ in them only are parsed as the same tree or refused at the same place, also where
names are stray characters. In a text that is accepted the index in braces may stand for a name. -/
theorem parse_independent_of_spelling (source : String) :
    (∀ other : String, Synonyms source.toList other.toList →
      (∃ expr, parse source = .ok expr ∧ parse other = .ok expr) ∨
      (∃ error otherError, parse source = .error (.malformed error) ∧ parse other = .error (.malformed otherError) ∧
        error.position = otherError.position ∧ error.fault.Alike otherError.fault) ∨
      ∃ digits, parse source = .error (.indexTooLong digits) ∧ parse other = .error (.indexTooLong digits)) ∧
    ∀ expr text, parse source = .ok expr → Replaced BracedName source.toList text →
      parse (String.ofList text) = .ok expr := by
  constructor
  · intro other synonyms
    obtain ⟨expr, read, otherRead⟩ | ⟨fault, otherFault, rest, otherRest, read, otherRead, alike, left⟩ |
      ⟨digits, read, otherRead⟩ := alike_parseChars synonyms
    · exact .inl ⟨expr, by rw [parse, read]; rfl, by rw [parse, otherRead]; rfl⟩
    · have located : (source.length : Int) - rest.length = other.length - otherRest.length := by
        rw [← String.length_toList, ← String.length_toList, synonyms.length_eq, left.length_eq]
      exact .inr (.inl ⟨_, _, by rw [parse, read]; rfl, by rw [parse, otherRead]; rfl, located, alike⟩)
    · exact .inr (.inr ⟨digits, by rw [parse, read]; rfl, by rw [parse, otherRead]; rfl⟩)
  · intro expr text accepted replaced
    obtain ⟨tokens, front, after, split, spelled, afterBlank, derived⟩ :=
      (parse_eq_ok_iff_writes source expr).mp accepted
    rw [split] at replaced
    obtain ⟨newTokens, newFront, rfl, newSpelled, same⟩ :=
      spelled.exists_of_replaced replacesReferences_bracedName afterBlank replaced
    rw [List.forall₂_eq_eq_eq] at same
    subst same
    exact (parse_eq_ok_iff_writes _ _).mpr
      ⟨tokens, newFront, after, String.toList_ofList, newSpelled, afterBlank, derived⟩

/-- Both names of a sum of references are exchanged, and one of them is written with its index.
A stray name is exchanged as well: both texts are refused at it. -/
theorem parse_independent_of_spelling_scaledSum :
    Synonyms "2*(x+t)".toList "2*(a+d)".toList ∧
      Replaced BracedName "2*(x+t)".toList (['2', '*', '('] ++ ((bracedIndex 0).toList ++ ['+', 't', ')'])) ∧
      Synonyms "1 x".toList "1 a".toList ∧
      ∃ expr error otherError, parse "2*(x+t)" = .ok expr ∧ parse "2*(a+d)" = .ok expr ∧
        parse (String.ofList (['2', '*', '('] ++ ((bracedIndex 0).toList ++ ['+', 't', ')']))) = .ok expr ∧
        parse "1 x" = .error (.malformed error) ∧ parse "1 a" = .error (.malformed otherError) ∧
        error.position = 2 ∧ otherError.position = 2 := by
  have first : Synonym 'x' 'a' := .named rfl rfl
  have fourth : Synonym 't' 'd' := .named rfl rfl
  have exchanged : Synonyms "2*(x+t)".toList "2*(a+d)".toList :=
    .cons .same (.cons .same (.cons .same (.cons first (.cons .same (.cons fourth (.cons .same .nil))))))
  have behind : Replaced BracedName (['x'] ++ ['+', 't', ')']) ((bracedIndex 0).toList ++ ['+', 't', ')']) :=
    .replace (.name rfl) (.keep (.keep (.keep .nil)))
  have written : Replaced BracedName "2*(x+t)".toList
      (['2', '*', '('] ++ ((bracedIndex 0).toList ++ ['+', 't', ')'])) :=
    .keep (.keep (.keep behind))
  have stray : Synonyms "1 x".toList "1 a".toList := .cons .same (.cons .same (.cons first .nil))
  have accepted : parse "2*(x+t)" = .ok (.binary .multiply (.constant (.finite ⟨false, 2, 0⟩))
      (.binary .add (.argument 0) (.argument 3))) := by
    decide +kernel
  have refused : parse "1 x" = .error (.malformed ⟨.unexpectedCharacter 'x', 2, "1 x"⟩) := by
    decide +kernel
  obtain ⟨sameSum, bracedSum⟩ := parse_independent_of_spelling "2*(x+t)"
  obtain ⟨sameStray, _⟩ := parse_independent_of_spelling "1 x"
  refine ⟨exchanged, written, stray, ?_⟩
  obtain ⟨expr, read, otherRead⟩ | ⟨_, _, read, _⟩ | ⟨_, read, _⟩ := sameSum _ exchanged
  · obtain ⟨_, read', _⟩ | ⟨error, otherError, strayRead, strayOtherRead, located, _⟩ | ⟨_, read', _⟩ :=
      sameStray _ stray
    · rw [refused] at read'
      cases read'
    · rw [refused] at strayRead
      cases strayRead
      exact ⟨expr, _, otherError, read, otherRead, bracedSum _ _ read written, refused, strayOtherRead, rfl, located.symm⟩
    · rw [refused] at read'
      cases read'
  · rw [accepted] at read
    cases read
  · rw [accepted] at read
    cases read

end DecimalFormula.Expr
