import Mathlib
import DecimalFormula.Proofs.Expr.Completeness

/-!
# Replacing references in a source text

References to arguments may be replaced by other tokens in the middle of a text. A
reference is recognised wherever it stands: no other token has a character at which a
reference could start, and a reference has none after its first. So the text that
results spells the tokens of the first text, some of them replaced.
-/

set_option autoImplicit false

namespace DecimalFormula

open Text Decimal

/-- The second text is the first with some of its parts replaced. -/
inductive Replaced (replaces : List Char → List Char → Prop) : List Char → List Char → Prop where
  | nil : Replaced replaces [] []
  | keep {c : Char} {text other : List Char} :
      Replaced replaces text other → Replaced replaces (c :: text) (c :: other)
  | replace {part new text other : List Char} :
      replaces part new → Replaced replaces text other → Replaced replaces (part ++ text) (new ++ other)

/-- What is replaced is a reference, by a spelling of a token that is related to it. -/
structure ReplacesReferences (replaces : List Char → List Char → Prop) (related : Token → Token → Prop) : Prop where
  refl : ∀ token, related token token
  exists_tokens : ∀ {part new}, replaces part new →
    ∃ index token, Token.Spelled (.argument index) part ∧ token.Spelled new ∧ related (.argument index) token

/-!
## Where references start
-/

def StartsReference (c : Char) : Prop :=
  c = '\x7b' ∨ ∃ index, Expr.namedArgument? c = some index

theorem not_startsReference {c : Char} (noBrace : c ≠ '\x7b') (unnamed : Expr.namedArgument? c = none) :
    ¬ StartsReference c := by
  rintro (brace | ⟨index, named⟩)
  · exact noBrace brace
  · rw [unnamed] at named
    cases named

theorem not_startsReference_of_isBlank {c : Char} (blank : isBlank c = true) : ¬ StartsReference c := by
  rintro (rfl | ⟨index, named⟩)
  · exact absurd blank (by decide)
  · exact absurd blank (by simp [Expr.Reader.visible_of_named named])

theorem not_startsReference_of_numeral {c : Char} (numeric : c.isDigit = true ∨ c = '.') : ¬ StartsReference c :=
  not_startsReference (ne_of_start numeric (by decide) (by decide)) (Expr.Reader.namedArgument?_of_start numeric)

namespace Token.Spelled

theorem exists_start {index : Nat} {spelling : List Char} (spelled : Token.Spelled (.argument index) spelling) :
    ∃ first rest, spelling = first :: rest ∧ StartsReference first := by
  cases spelled with
  | letter named => exact ⟨_, [], rfl, .inr ⟨_, named⟩⟩
  | braced => exact ⟨_, _, rfl, .inl rfl⟩

/-- After its first character no token has a character that a reference could start with, and
at its first only a reference has. -/
theorem exists_cons {token : Token} {spelling : List Char} (spelled : token.Spelled spelling) :
    ∃ first rest, spelling = first :: rest ∧ (StartsReference first → ∃ index, token = .argument index) ∧
      ∀ c ∈ rest, ¬ StartsReference c := by
  cases spelled with
  | letter named => exact ⟨_, [], rfl, fun _ => ⟨_, rfl⟩, List.forall_mem_nil _⟩
  | @braced before digits after beforeBlank only _ _ afterBlank =>
      refine ⟨_, _, rfl, fun _ => ⟨_, rfl⟩, fun c member => ?_⟩
      simp only [List.mem_append, List.mem_singleton] at member
      rcases member with (inBefore | inDigits | inAfter) | rfl
      · exact not_startsReference_of_isBlank (beforeBlank c inBefore)
      · exact not_startsReference_of_numeral (.inl (only c inDigits))
      · exact not_startsReference_of_isBlank (afterBlank c inAfter)
      · exact not_startsReference (by decide) rfl
  | number numeral _ =>
      obtain ⟨first, rest, rfl, _⟩ := numeral.exists_cons
      have noStart : ∀ c ∈ first :: rest, ¬ StartsReference c := fun c member =>
        not_startsReference_of_numeral (numeral.mem member)
      exact ⟨first, rest, rfl, fun start => absurd start (noStart _ List.mem_cons_self),
        fun c member => noStart c (List.mem_cons_of_mem _ member)⟩
  | @operator op =>
      have noStart : ¬ StartsReference op.sign := by
        cases op <;> exact not_startsReference (by decide) rfl
      exact ⟨_, [], op.toList_symbol, fun start => absurd start noStart, List.forall_mem_nil _⟩
  | opening =>
      exact ⟨_, [], rfl, fun start => absurd start (not_startsReference (by decide) rfl), List.forall_mem_nil _⟩
  | closing =>
      exact ⟨_, [], rfl, fun start => absurd start (not_startsReference (by decide) rfl), List.forall_mem_nil _⟩

/-- The reader of factors tells where a reference at the start of a text ends. -/
theorem argument_unique {index other : Nat} {first second firstRest secondRest : List Char}
    (firstSpelled : Token.Spelled (.argument index) first) (secondSpelled : Token.Spelled (.argument other) second)
    (same : first ++ firstRest = second ++ secondRest) : index = other ∧ firstRest = secondRest := by
  have firstRead := Expr.Reader.outcome_factor_argument 0 Blank.nil firstSpelled firstRest
  have secondRead := Expr.Reader.outcome_factor_argument 0 Blank.nil secondSpelled secondRest
  rw [List.nil_append] at firstRead secondRead
  rw [same, secondRead] at firstRead
  simp only [Except.ok.injEq, Prod.mk.injEq, Expr.argument.injEq] at firstRead
  exact ⟨firstRead.1.symm, firstRead.2.symm⟩

end Token.Spelled

/-!
## Texts with references replaced
-/

section

variable {replaces : List Char → List Char → Prop} {related : Token → Token → Prop}

/-- A text in which no reference starts is kept. -/
theorem Replaced.exists_kept (references : ReplacesReferences replaces related) {kept text other : List Char}
    (noStart : ∀ c ∈ kept, ¬ StartsReference c) (replaced : Replaced replaces (kept ++ text) other) :
    ∃ rest, other = kept ++ rest ∧ Replaced replaces text rest := by
  induction kept generalizing other with
  | nil => exact ⟨other, rfl, replaced⟩
  | cons c others ih =>
      obtain ⟨noStartHere, noStartLater⟩ := List.forall_mem_cons.mp noStart
      generalize split : c :: others ++ text = whole at replaced
      cases replaced with
      | nil => cases split
      | keep replaced =>
          obtain ⟨rfl, rfl⟩ := List.cons.inj split
          obtain ⟨rest, rfl, restReplaced⟩ := ih noStartLater replaced
          exact ⟨rest, rfl, restReplaced⟩
      | replace replaces =>
          obtain ⟨_, _, spelled, _, _⟩ := references.exists_tokens replaces
          obtain ⟨first, rest, rfl, start⟩ := spelled.exists_start
          obtain ⟨rfl, _⟩ := List.cons.inj split
          exact absurd start noStartHere

theorem Replaced.eq_nil (references : ReplacesReferences replaces related) {other : List Char}
    (replaced : Replaced replaces [] other) : other = [] := by
  generalize split : [] = text at replaced
  cases replaced with
  | nil => rfl
  | keep => cases split
  | replace replaces =>
      obtain ⟨_, _, spelled, _, _⟩ := references.exists_tokens replaces
      obtain ⟨first, rest, rfl, _⟩ := spelled.exists_start
      cases split

/-- The token at the start of a text is kept or replaced as a whole. -/
theorem Token.Spelled.exists_of_replaced (references : ReplacesReferences replaces related) {token : Token}
    {spelling text other : List Char} (spelled : token.Spelled spelling)
    (replaced : Replaced replaces (spelling ++ text) other) :
    ∃ newToken newSpelling rest, other = newSpelling ++ rest ∧ newToken.Spelled newSpelling ∧
      related token newToken ∧ Replaced replaces text rest := by
  obtain ⟨first, behind, rfl, isReference, noStart⟩ := spelled.exists_cons
  generalize split : first :: behind ++ text = whole at replaced
  cases replaced with
  | nil => cases split
  | keep replaced =>
      obtain ⟨rfl, rfl⟩ := List.cons.inj split
      obtain ⟨rest, rfl, restReplaced⟩ := Replaced.exists_kept references noStart replaced
      exact ⟨token, _, rest, rfl, spelled, references.refl token, restReplaced⟩
  | @replace part new others rest replaces restReplaced =>
      obtain ⟨index, newToken, partSpelled, newSpelled, tokensRelated⟩ := references.exists_tokens replaces
      obtain ⟨start, partRest, rfl, starts⟩ := partSpelled.exists_start
      obtain rfl : first = start := (List.cons.inj split).1
      obtain ⟨reference, rfl⟩ := isReference starts
      obtain ⟨rfl, rfl⟩ := spelled.argument_unique partSpelled split
      exact ⟨newToken, new, rest, rfl, newSpelled, tokensRelated, restReplaced⟩

/-- A text with references replaced spells the tokens of the text with some of them replaced. -/
theorem Spells.exists_of_replaced (references : ReplacesReferences replaces related) {tokens : List Token}
    {text after other : List Char} (spelled : Spells tokens text) (afterBlank : Blank after)
    (replaced : Replaced replaces (text ++ after) other) :
    ∃ newTokens newText, other = newText ++ after ∧ Spells newTokens newText ∧
      List.Forall₂ related tokens newTokens := by
  induction spelled generalizing other with
  | nil =>
      rw [List.nil_append, ← List.append_nil after] at replaced
      obtain ⟨rest, rfl, restReplaced⟩ := replaced.exists_kept references fun c member =>
        not_startsReference_of_isBlank (afterBlank c member)
      obtain rfl := restReplaced.eq_nil references
      exact ⟨[], [], List.append_nil _, .nil, .nil⟩
  | @cons token tokens blank spelling text before spells _ ih =>
      rw [List.append_assoc, List.append_assoc] at replaced
      obtain ⟨fromToken, rfl, tokenReplaced⟩ := replaced.exists_kept references fun c member =>
        not_startsReference_of_isBlank (before c member)
      obtain ⟨newToken, newSpelling, fromRest, rfl, newSpelled, tokensRelated, restReplaced⟩ :=
        spells.exists_of_replaced references tokenReplaced
      obtain ⟨newTokens, newText, rfl, othersSpelled, othersRelated⟩ := ih restReplaced
      refine ⟨newToken :: newTokens, blank ++ (newSpelling ++ newText), ?_, .cons before newSpelled othersSpelled,
        .cons tokensRelated othersRelated⟩
      simp only [List.append_assoc]

end

end DecimalFormula
