import Mathlib

/-!
# Patterns with ordered choice

A pattern takes a text off the start of another one. Where it can take several, it tries one
way before the other: the first of two alternatives before the second, a part that may be
absent before its absence, and more of a repetition before less. What it can take is what it
describes; which of these it takes depends on the order.
-/

set_option autoImplicit false

namespace DecimalFormula.Text

inductive Pattern where
  /-- One of some characters. -/
  | one (admits : Char → Bool)
  /-- As many of some characters as possible, or fewer. -/
  | many (admits : Char → Bool)
  | optional (part : Pattern)
  | sequence (first second : Pattern)
  | orElse (first second : Pattern)

namespace Pattern

/-- The texts that a pattern describes. -/
inductive Describes : Pattern → List Char → Prop where
  | one {admits : Char → Bool} {c : Char} : admits c = true → Describes (.one admits) [c]
  | many {admits : Char → Bool} {text : List Char} : (∀ c ∈ text, admits c = true) → Describes (.many admits) text
  | absent {part : Pattern} : Describes (.optional part) []
  | present {part : Pattern} {text : List Char} : Describes part text → Describes (.optional part) text
  | sequence {first second : Pattern} {front back : List Char} :
      Describes first front → Describes second back → Describes (.sequence first second) (front ++ back)
  | first {first second : Pattern} {text : List Char} : Describes first text → Describes (.orElse first second) text
  | second {first second : Pattern} {text : List Char} : Describes second text → Describes (.orElse first second) text

/-- The runs of some characters at the start of a text, the longest one first. -/
def runs (admits : Char → Bool) : List Char → List (List Char)
  | [] => [[]]
  | c :: rest => if admits c then (runs admits rest).map (c :: ·) ++ [[]] else [[]]

/-- The texts that a pattern can take off the start of a text, in the order in which they
are tried. -/
def candidates : Pattern → List Char → List (List Char)
  | .one _, [] => []
  | .one admits, c :: _ => if admits c then [[c]] else []
  | .many admits, text => runs admits text
  | .optional part, text => part.candidates text ++ [[]]
  | .sequence first second, text =>
      (first.candidates text).flatMap fun front => (second.candidates (text.drop front.length)).map (front ++ ·)
  | .orElse first second, text => first.candidates text ++ second.candidates text

theorem candidates_one_cons (admits : Char → Bool) (c : Char) (rest : List Char) :
    (one admits).candidates (c :: rest) = if admits c then [[c]] else [] :=
  rfl

theorem candidates_many (admits : Char → Bool) (text : List Char) :
    (many admits).candidates text = runs admits text := by
  cases text <;> rfl

theorem candidates_optional (part : Pattern) (text : List Char) :
    (optional part).candidates text = part.candidates text ++ [[]] := by
  cases text <;> rfl

theorem candidates_sequence (first second : Pattern) (text : List Char) :
    (sequence first second).candidates text =
      (first.candidates text).flatMap fun front =>
        (second.candidates (text.drop front.length)).map (front ++ ·) := by
  cases text <;> rfl

theorem candidates_orElse (first second : Pattern) (text : List Char) :
    (orElse first second).candidates text = first.candidates text ++ second.candidates text := by
  cases text <;> rfl

/-- The text that a pattern takes off the start of a text. -/
def take? (pattern : Pattern) (text : List Char) : Option (List Char) :=
  (pattern.candidates text).head?

/-!
## What can be taken
-/

theorem describes_one_iff {admits : Char → Bool} {text : List Char} :
    (one admits).Describes text ↔ ∃ c, admits c = true ∧ text = [c] := by
  constructor
  · intro described
    cases described with
    | one admitted => exact ⟨_, admitted, rfl⟩
  · intro single
    obtain ⟨c, admitted, rfl⟩ := single
    exact .one admitted

theorem describes_many_iff {admits : Char → Bool} {text : List Char} :
    (many admits).Describes text ↔ ∀ c ∈ text, admits c = true := by
  constructor
  · intro described
    cases described with
    | many admitted => exact admitted
  · exact .many

theorem describes_optional_iff {part : Pattern} {text : List Char} :
    (optional part).Describes text ↔ text = [] ∨ part.Describes text := by
  constructor
  · intro described
    cases described with
    | absent => exact .inl rfl
    | present described => exact .inr described
  · intro either
    obtain rfl | described := either
    · exact .absent
    · exact .present described

theorem describes_sequence_iff {first second : Pattern} {text : List Char} :
    (sequence first second).Describes text ↔
      ∃ front back, first.Describes front ∧ second.Describes back ∧ text = front ++ back := by
  constructor
  · intro described
    cases described with
    | sequence front back => exact ⟨_, _, front, back, rfl⟩
  · intro parts
    obtain ⟨front, back, isFront, isBack, rfl⟩ := parts
    exact .sequence isFront isBack

theorem describes_orElse_iff {first second : Pattern} {text : List Char} :
    (orElse first second).Describes text ↔ first.Describes text ∨ second.Describes text := by
  constructor
  · intro described
    cases described with
    | first described => exact .inl described
    | second described => exact .inr described
  · intro either
    obtain described | described := either
    · exact .first described
    · exact .second described

theorem mem_runs_iff {admits : Char → Bool} {text found : List Char} :
    found ∈ runs admits text ↔ (∀ c ∈ found, admits c = true) ∧ found <+: text := by
  induction text generalizing found with
  | nil =>
      rw [runs, List.mem_singleton, List.prefix_nil]
      constructor
      · intro empty
        subst empty
        exact ⟨fun _ member => absurd member List.not_mem_nil, rfl⟩
      · exact And.right
  | cons c rest ih =>
      cases found with
      | nil => by_cases admitted : admits c <;> simp [runs, admitted]
      | cons first others =>
          have step : first :: others ∈ runs admits (c :: rest) ↔
              (first = c ∧ admits c = true) ∧ others ∈ runs admits rest := by
            by_cases admitted : admits c <;> simp [runs, admitted, and_comm, eq_comm]
          rw [step, ih, List.forall_mem_cons, List.cons_prefix_cons]
          constructor
          · intro taken
            obtain ⟨⟨rfl, admitted⟩, allAdmitted, starts⟩ := taken
            exact ⟨⟨admitted, allAdmitted⟩, rfl, starts⟩
          · intro taken
            obtain ⟨⟨admitted, allAdmitted⟩, rfl, starts⟩ := taken
            exact ⟨⟨rfl, admitted⟩, allAdmitted, starts⟩

/-- A pattern can take off a text what it describes and what the text starts with. -/
theorem mem_candidates_iff {pattern : Pattern} {text found : List Char} :
    found ∈ pattern.candidates text ↔ pattern.Describes found ∧ found <+: text := by
  induction pattern generalizing text found with
  | one admits =>
      rw [describes_one_iff]
      constructor
      · intro taken
        cases text with
        | nil => exact absurd taken List.not_mem_nil
        | cons c rest =>
            obtain ⟨admitted, rfl⟩ : admits c = true ∧ found = [c] := by
              simpa [candidates_one_cons] using taken
            exact ⟨⟨c, admitted, rfl⟩, ⟨rest, rfl⟩⟩
      · intro taken
        obtain ⟨⟨c, admitted, rfl⟩, rest, rfl⟩ := taken
        simp [candidates_one_cons, admitted]
  | many admits => rw [candidates_many, mem_runs_iff, describes_many_iff]
  | optional part ih =>
      rw [candidates_optional, List.mem_append, List.mem_singleton, ih, describes_optional_iff]
      constructor
      · intro taken
        rcases taken with ⟨described, starts⟩ | absent
        · exact ⟨.inr described, starts⟩
        · exact ⟨.inl absent, absent ▸ List.nil_prefix⟩
      · intro taken
        obtain ⟨absent | described, starts⟩ := taken
        · exact .inr absent
        · exact .inl ⟨described, starts⟩
  | sequence first second firstIH secondIH =>
      rw [candidates_sequence, List.mem_flatMap, describes_sequence_iff]
      simp only [List.mem_map, firstIH, secondIH]
      constructor
      · intro taken
        obtain ⟨front, ⟨isFront, starts⟩, back, ⟨isBack, follows⟩, rfl⟩ := taken
        refine ⟨⟨front, back, isFront, isBack, rfl⟩, ?_⟩
        obtain ⟨rest, rfl⟩ := starts
        rw [List.drop_left] at follows
        exact (List.prefix_append_right_inj front).mpr follows
      · intro taken
        obtain ⟨⟨front, back, isFront, isBack, rfl⟩, rest, rfl⟩ := taken
        refine ⟨front, ⟨isFront, ⟨back ++ rest, (List.append_assoc _ _ _).symm⟩⟩, back, ⟨isBack, ?_⟩, rfl⟩
        rw [List.append_assoc, List.drop_left]
        exact List.prefix_append back rest
  | orElse first second firstIH secondIH =>
      rw [candidates_orElse, List.mem_append, firstIH, secondIH, describes_orElse_iff, or_and_right]

theorem take?_eq_none_iff {pattern : Pattern} {text : List Char} :
    pattern.take? text = none ↔ ∀ found, pattern.Describes found → ¬ found <+: text := by
  rw [take?, List.head?_eq_none_iff, List.eq_nil_iff_forall_not_mem]
  simp only [mem_candidates_iff, not_and]

theorem describes_of_take? {pattern : Pattern} {text found : List Char} (taken : pattern.take? text = some found) :
    pattern.Describes found ∧ found <+: text :=
  mem_candidates_iff.mp (List.mem_of_head? taken)

/-!
## What is taken
-/

theorem take?_orElse (first second : Pattern) (text : List Char) :
    (orElse first second).take? text = (first.take? text).or (second.take? text) := by
  rw [take?, candidates_orElse, List.head?_append, ← take?, ← take?]

theorem take?_optional (part : Pattern) (text : List Char) :
    (optional part).take? text = some ((part.take? text).getD []) := by
  rw [take?, candidates_optional, List.head?_append, ← take?]
  cases part.take? text <;> rfl

theorem take?_many (admits : Char → Bool) (text : List Char) :
    (many admits).take? text = some (text.takeWhile admits) := by
  rw [take?, candidates_many]
  induction text with
  | nil => rfl
  | cons c rest ih =>
      by_cases admitted : admits c
      · simp [runs, admitted, ih]
      · simp [runs, admitted]

theorem take?_one_cons (admits : Char → Bool) (c : Char) (rest : List Char) :
    (one admits).take? (c :: rest) = if admits c then some [c] else none := by
  rw [take?, candidates_one_cons]
  split <;> rfl

/-- Where the second part can always take something, the first part need not give anything back. -/
theorem take?_sequence {second : Pattern} (total : ∀ rest, second.take? rest ≠ none) (first : Pattern)
    (text : List Char) :
    (sequence first second).take? text =
      (first.take? text).bind fun front => (second.take? (text.drop front.length)).map (front ++ ·) := by
  rw [take?, candidates_sequence, List.head?_flatMap, take?]
  cases first.candidates text with
  | nil => rfl
  | cons front others =>
      obtain ⟨back, taken⟩ := Option.ne_none_iff_exists'.mp (total (text.drop front.length))
      rw [take?] at taken
      simp [List.head?_map, taken, take?]

theorem take?_sequence_optional (part second : Pattern) (text : List Char) :
    (sequence (optional part) second).take? text = ((sequence part second).take? text).or (second.take? text) := by
  rw [take?, candidates_sequence, candidates_optional, List.flatMap_append, List.head?_append, take?,
    candidates_sequence, take?]
  simp

theorem take?_sequence_one_cons (admits : Char → Bool) (second : Pattern) (c : Char) (rest : List Char) :
    (sequence (one admits) second).take? (c :: rest) =
      if admits c then (second.take? rest).map (c :: ·) else none := by
  rw [take?, candidates_sequence, candidates_one_cons, take?]
  split <;> simp

theorem take?_sequence_many_cons {admits : Char → Bool} {c : Char} (refused : admits c = false) (second : Pattern)
    (rest : List Char) : (sequence (many admits) second).take? (c :: rest) = second.take? (c :: rest) := by
  simp [take?, candidates_sequence, candidates_many, runs, refused]

end Pattern

end DecimalFormula.Text
