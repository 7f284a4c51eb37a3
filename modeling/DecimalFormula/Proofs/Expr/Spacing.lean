import Mathlib
import DecimalFormula.Proofs.Expr.Completeness

/-!
# White space in source texts

White space that is left out of a source text or put into it makes no difference to
the tree that the text writes, wherever it stands. Only digits and points next to
each other may not be taken apart: they are one numeral or one index. Nothing grows
together when white space is left out, because no phrase has two numerals next to
each other.
-/

set_option autoImplicit false

namespace DecimalFormula

open Text Decimal

/-- The second text is the first without some of its white space. -/
inductive BlanksDeleted : List Char → List Char → Prop where
  | nil : BlanksDeleted [] []
  | keep {c : Char} {text other : List Char} : BlanksDeleted text other → BlanksDeleted (c :: text) (c :: other)
  | delete {c : Char} {text other : List Char} :
      isBlank c = true → BlanksDeleted text other → BlanksDeleted (c :: text) other

/-- A place between two characters each of which is a digit or a point. -/
def SplitsNumber (front back : List Char) : Prop :=
  ∃ before ∈ front.getLast?, ∃ after ∈ back.head?,
    (before.isDigit = true ∨ before = '.') ∧ (after.isDigit = true ∨ after = '.')

/-!
## Leaving out
-/

namespace BlanksDeleted

variable {text other : List Char}

theorem sublist (deleted : BlanksDeleted text other) : other.Sublist text := by
  induction deleted with
  | nil => exact .slnil
  | keep _ ih => exact ih.cons_cons _
  | delete _ _ ih => exact ih.cons _

theorem blank (deleted : BlanksDeleted text other) (only : Blank text) : Blank other :=
  fun c member => only c (deleted.sublist.mem member)

theorem eq_of_visible (deleted : BlanksDeleted text other) (visible : Visible text) : other = text := by
  induction deleted with
  | nil => rfl
  | keep _ ih => rw [ih fun c member => visible c (List.mem_cons_of_mem _ member)]
  | delete blank => exact absurd blank (by simp [visible _ List.mem_cons_self])

theorem exists_append {first second : List Char} (deleted : BlanksDeleted (first ++ second) other) :
    ∃ otherFirst otherSecond, other = otherFirst ++ otherSecond ∧ BlanksDeleted first otherFirst ∧
      BlanksDeleted second otherSecond := by
  induction first generalizing other with
  | nil => exact ⟨[], other, rfl, .nil, deleted⟩
  | cons c rest ih =>
      cases deleted with
      | keep deleted =>
          obtain ⟨otherFirst, otherSecond, rfl, firstDeleted, secondDeleted⟩ := ih deleted
          exact ⟨c :: otherFirst, otherSecond, rfl, .keep firstDeleted, secondDeleted⟩
      | delete blank deleted =>
          obtain ⟨otherFirst, otherSecond, rfl, firstDeleted, secondDeleted⟩ := ih deleted
          exact ⟨otherFirst, otherSecond, rfl, .delete blank firstDeleted, secondDeleted⟩

end BlanksDeleted

/-- White space can be left out of the spelling of a reference only, around its index. -/
theorem Token.Spelled.blanksDeleted {token : Token} {spelling other : List Char} (spelled : token.Spelled spelling)
    (deleted : BlanksDeleted spelling other) : token.Spelled other := by
  cases spelled with
  | letter named =>
      rw [deleted.eq_of_visible (.singleton (Expr.Reader.visible_of_named named))]
      exact .letter named
  | @braced before digits after beforeBlank only nonempty short afterBlank =>
      cases deleted with
      | delete blank => exact absurd blank (by decide)
      | keep deleted =>
          obtain ⟨content, closing, rfl, contentDeleted, closingDeleted⟩ := deleted.exists_append
          obtain ⟨otherBefore, behind, rfl, beforeDeleted, behindDeleted⟩ := contentDeleted.exists_append
          obtain ⟨otherDigits, otherAfter, rfl, digitsDeleted, afterDeleted⟩ := behindDeleted.exists_append
          rw [closingDeleted.eq_of_visible (.singleton (by decide)), digitsDeleted.eq_of_visible only.visible]
          exact .braced (beforeDeleted.blank beforeBlank) only nonempty short (afterDeleted.blank afterBlank)
  | number numeral representable =>
      rw [deleted.eq_of_visible numeral.visible]
      exact .number numeral representable
  | @operator op =>
      rw [deleted.eq_of_visible (op.toList_symbol ▸ .singleton (Expr.Reader.visible_sign op))]
      exact .operator
  | opening =>
      rw [deleted.eq_of_visible (.singleton (by decide))]
      exact .opening
  | closing =>
      rw [deleted.eq_of_visible (.singleton (by decide))]
      exact .closing

theorem Spells.blanksDeleted {tokens : List Token} {text other : List Char} (spelled : Spells tokens text)
    (deleted : BlanksDeleted text other) : Spells tokens other := by
  induction spelled generalizing other with
  | nil =>
      cases deleted
      exact .nil
  | cons before spelling _ ih =>
      obtain ⟨otherBefore, behind, rfl, beforeDeleted, behindDeleted⟩ := deleted.exists_append
      obtain ⟨otherSpelling, others, rfl, spellingDeleted, othersDeleted⟩ := behindDeleted.exists_append
      exact .cons (beforeDeleted.blank before) (spelling.blanksDeleted spellingDeleted) (ih othersDeleted)

theorem Writes.blanksDeleted {source : String} {expr : Expr} {text : List Char} (writes : Writes source expr)
    (deleted : BlanksDeleted source.toList text) : Writes (String.ofList text) expr := by
  obtain ⟨tokens, spelling, after, split, spelled, afterBlank, derived⟩ := writes
  rw [split] at deleted
  obtain ⟨otherSpelling, otherAfter, rfl, spellingDeleted, afterDeleted⟩ := deleted.exists_append
  exact ⟨tokens, otherSpelling, otherAfter, String.toList_ofList, spelled.blanksDeleted spellingDeleted,
    afterDeleted.blank afterBlank, derived⟩

/-!
## Putting in
-/

/-- A place that takes no number apart takes none apart in what stands around it. -/
theorem SplitsNumber.append {front back : List Char} (splits : SplitsNumber front back) (before after : List Char) :
    SplitsNumber (before ++ front) (back ++ after) := by
  obtain ⟨last, isLast, first, isFirst, numeric⟩ := splits
  refine ⟨last, ?_, first, ?_, numeric⟩
  · rw [List.getLast?_append, isLast]
    rfl
  · rw [List.head?_append, isFirst]
    rfl

theorem splitsNumber_of_forall {front back : List Char} (frontNonempty : front ≠ []) (backNonempty : back ≠ [])
    (numeric : ∀ c ∈ front ++ back, c.isDigit = true ∨ c = '.') : SplitsNumber front back := by
  obtain ⟨last, isLast⟩ := Option.isSome_iff_exists.mp (List.getLast?_isSome.mpr frontNonempty)
  obtain ⟨first, isFirst⟩ := Option.isSome_iff_exists.mp (List.isSome_head?.mpr backNonempty)
  exact ⟨last, isLast, first, isFirst, numeric last (List.mem_append_left _ (List.mem_of_getLast? isLast)),
    numeric first (List.mem_append_right _ (List.mem_of_head? isFirst))⟩

/-- White space can be put into a reference, around its index. -/
theorem Token.Spelled.insert_braced {before digits after front back blank : List Char} (beforeBlank : Blank before)
    (only : Digits digits) (nonempty : digits ≠ []) (short : digits.length ≤ 4300) (afterBlank : Blank after)
    (split : before ++ (digits ++ (after ++ ['}'])) = front ++ back) (backNonempty : back ≠ [])
    (whole : ¬ SplitsNumber front back) (blankOnly : Blank blank) :
    Token.Spelled (.argument (Nat.ofDigitChars 10 digits 0)) ('\x7b' :: (front ++ (blank ++ back))) := by
  have spelled {before after text : List Char} (beforeBlank : Blank before) (afterBlank : Blank after)
      (shape : before ++ (digits ++ (after ++ ['}'])) = text) :
      Token.Spelled (.argument (Nat.ofDigitChars 10 digits 0)) ('\x7b' :: text) := by
    rw [← shape, ← List.append_assoc digits, ← List.append_assoc before]
    exact .braced beforeBlank only nonempty short afterBlank
  rcases List.append_eq_append_iff.mp split with ⟨opened, rfl, behind⟩ | ⟨others, rfl, rfl⟩
  · rcases List.append_eq_append_iff.mp behind with ⟨closed, rfl, ending⟩ | ⟨lower, rfl, rfl⟩
    · rcases List.append_eq_append_iff.mp ending with ⟨last, rfl, brace⟩ | ⟨others, rfl, rfl⟩
      · obtain ⟨rfl, rfl⟩ : last = [] ∧ back = ['}'] := by
          rcases List.append_eq_singleton_iff.mp brace.symm with split | split
          · exact split
          · exact absurd split.2 backNonempty
        exact spelled beforeBlank (afterBlank.append blankOnly) (by simp)
      · obtain ⟨closedBlank, othersBlank⟩ := List.forall_mem_append.mp afterBlank
        have inserted : Blank (closed ++ (blank ++ others)) := Blank.append closedBlank (blankOnly.append othersBlank)
        exact spelled beforeBlank inserted (by simp)
    · by_cases upperEmpty : opened = []
      · subst upperEmpty
        exact spelled (beforeBlank.append blankOnly) afterBlank (by simp)
      by_cases lowerEmpty : lower = []
      · subst lowerEmpty
        exact spelled beforeBlank (blankOnly.append afterBlank) (by simp)
      · have splits := splitsNumber_of_forall upperEmpty lowerEmpty fun c member => .inl (only c member)
        exact absurd (splits.append before (after ++ ['}'])) whole
  · obtain ⟨frontBlank, othersBlank⟩ := List.forall_mem_append.mp beforeBlank
    have inserted : Blank (front ++ (blank ++ others)) := Blank.append frontBlank (blankOnly.append othersBlank)
    exact spelled inserted afterBlank (by simp)

/-- White space can be put into the spelling of a reference only, and of no other token. -/
theorem Token.Spelled.insert {token : Token} {front back blank : List Char} (spelled : token.Spelled (front ++ back))
    (frontNonempty : front ≠ []) (backNonempty : back ≠ []) (whole : ¬ SplitsNumber front back)
    (blankOnly : Blank blank) : token.Spelled (front ++ (blank ++ back)) := by
  have notSingle {c : Char} : front ++ back ≠ [c] := by
    intro single
    rcases List.append_eq_singleton_iff.mp single with ⟨empty, _⟩ | ⟨_, empty⟩
    · exact frontNonempty empty
    · exact backNonempty empty
  generalize split : front ++ back = spelling at spelled
  cases spelled with
  | letter named => exact absurd split notSingle
  | @braced before digits after beforeBlank only nonempty short afterBlank =>
      cases front with
      | nil => exact absurd rfl frontNonempty
      | cons first others =>
          rw [List.cons_append] at split
          obtain ⟨rfl, content⟩ := List.cons.inj split
          have inside : ¬ SplitsNumber others back := fun splits => by
            have around := splits.append ['\x7b'] []
            rw [List.append_nil] at around
            exact whole around
          refine Token.Spelled.insert_braced beforeBlank only nonempty short afterBlank ?_ backNonempty inside blankOnly
          simpa only [List.append_assoc] using content.symm
  | number numeral _ =>
      refine absurd (splitsNumber_of_forall frontNonempty backNonempty fun c member => ?_) whole
      rw [split] at member
      exact numeral.mem member
  | @operator op => exact absurd (split.trans op.toList_symbol) notSingle
  | opening | closing => exact absurd split notSingle

/-- White space can be put before any character of a text but between the digits and the
point of a number. -/
theorem Spells.insert {tokens : List Token} {text front back blank : List Char} (spelled : Spells tokens text)
    (split : text = front ++ back) (backNonempty : back ≠ []) (whole : ¬ SplitsNumber front back)
    (blankOnly : Blank blank) : Spells tokens (front ++ (blank ++ back)) := by
  induction spelled generalizing front with
  | nil => exact absurd (List.append_eq_nil_iff.mp split.symm).2 backNonempty
  | @cons token tokens before spelling rest beforeBlank spells others ih =>
      rcases List.append_eq_append_iff.mp split with ⟨taken, rfl, behind⟩ | ⟨margin, rfl, rfl⟩
      · rcases List.append_eq_append_iff.mp behind with ⟨upper, rfl, rfl⟩ | ⟨lower, rfl, rfl⟩
        · have inside : ¬ SplitsNumber upper back := fun splits => by
            have around := splits.append (before ++ spelling) []
            rw [List.append_nil, List.append_assoc] at around
            exact whole around
          have inserted := Spells.cons beforeBlank spells (ih rfl inside)
          simpa only [List.append_assoc] using inserted
        · by_cases takenEmpty : taken = []
          · subst takenEmpty
            have inserted := Spells.cons (beforeBlank.append blankOnly) spells others
            simpa only [List.append_assoc, List.append_nil, List.nil_append] using inserted
          by_cases lowerEmpty : lower = []
          · subst lowerEmpty
            rw [List.append_nil] at spells
            have nowhere : ¬ SplitsNumber [] rest := fun ⟨_, isLast, _⟩ => nomatch isLast
            have inserted := Spells.cons beforeBlank spells (ih rfl nowhere)
            simpa only [List.append_assoc, List.nil_append] using inserted
          · have inside : ¬ SplitsNumber taken lower := fun splits => whole (splits.append before rest)
            have inserted := Spells.cons beforeBlank
              (spells.insert takenEmpty lowerEmpty inside blankOnly) others
            simpa only [List.append_assoc] using inserted
      · obtain ⟨frontBlank, marginBlank⟩ := List.forall_mem_append.mp beforeBlank
        have margins : Blank (front ++ (blank ++ margin)) := Blank.append frontBlank (blankOnly.append marginBlank)
        simpa only [List.append_assoc] using Spells.cons margins spells others

theorem Writes.insert {source : String} {expr : Expr} {front back blank : List Char} (writes : Writes source expr)
    (split : source.toList = front ++ back) (whole : ¬ SplitsNumber front back) (blankOnly : Blank blank) :
    Writes (String.ofList (front ++ (blank ++ back))) expr := by
  obtain ⟨tokens, spelling, after, margins, spelled, afterBlank, derived⟩ := writes
  rw [margins] at split
  have written {spelling after : List Char} (spelled : Spells tokens spelling) (afterBlank : Blank after)
      (shape : front ++ (blank ++ back) = spelling ++ after) :
      Writes (String.ofList (front ++ (blank ++ back))) expr :=
    ⟨tokens, spelling, after, String.toList_ofList.trans shape, spelled, afterBlank, derived⟩
  rcases List.append_eq_append_iff.mp split with ⟨upper, rfl, rfl⟩ | ⟨lower, rfl, rfl⟩
  · obtain ⟨upperBlank, backBlank⟩ := List.forall_mem_append.mp afterBlank
    have inserted : Blank (upper ++ (blank ++ back)) := Blank.append upperBlank (blankOnly.append backBlank)
    exact written spelled inserted (by rw [List.append_assoc])
  · by_cases lowerEmpty : lower = []
    · subst lowerEmpty
      rw [List.append_nil] at spelled
      exact written spelled (blankOnly.append afterBlank) rfl
    · have inside : ¬ SplitsNumber front lower := fun splits => whole (splits.append [] after)
      have inserted := spelled.insert rfl lowerEmpty inside blankOnly
      exact written inserted afterBlank (by simp only [List.append_assoc])

end DecimalFormula

namespace DecimalFormula.Expr

open Text

/-- What a source text is parsed as does not depend on its white space: any of it may be
left out, and more may stand anywhere but between the digits and the point of a number. -/
theorem parse_respaced {source : String} {expr : Expr} (accepted : parse source = .ok expr) :
    (∀ text, BlanksDeleted source.toList text → parse (String.ofList text) = .ok expr) ∧
      ∀ front blank back, source.toList = front ++ back → Blank blank → ¬ SplitsNumber front back →
        parse (String.ofList (front ++ (blank ++ back))) = .ok expr := by
  have writes := (parse_eq_ok_iff_writes source expr).mp accepted
  constructor
  · intro text deleted
    exact (parse_eq_ok_iff_writes _ _).mpr (writes.blanksDeleted deleted)
  · intro front blank back split blankOnly whole
    exact (parse_eq_ok_iff_writes _ _).mpr (writes.insert split whole blankOnly)

/-- The space inside of the braces may go, and a wide space may stand after the number. -/
theorem parse_respaced_scaledReference :
    ∃ expr, parse "1.5*{ 2} " = .ok expr ∧
      BlanksDeleted "1.5*{ 2} ".toList ['1', '.', '5', '*', '\x7b', '2', '}', ' '] ∧
      parse (String.ofList ['1', '.', '5', '*', '\x7b', '2', '}', ' ']) = .ok expr ∧
      ¬ SplitsNumber ['1', '.', '5'] ['*', '\x7b', ' ', '2', '}', ' '] ∧
      parse (String.ofList ['1', '.', '5', '\u3000', '*', '\x7b', ' ', '2', '}', ' ']) = .ok expr := by
  have accepted : parse "1.5*{ 2} " = .ok (.binary .multiply (.constant (.finite ⟨false, 15, -1⟩)) (.argument 2)) := by
    decide +kernel
  have deleted : BlanksDeleted "1.5*{ 2} ".toList ['1', '.', '5', '*', '\x7b', '2', '}', ' '] :=
    .keep (.keep (.keep (.keep (.keep (.delete (by decide) (.keep (.keep (.keep .nil))))))))
  have whole : ¬ SplitsNumber ['1', '.', '5'] ['*', '\x7b', ' ', '2', '}', ' '] := by
    simp [SplitsNumber]
  have wide : Blank ['\u3000'] := List.forall_mem_singleton.mpr (by decide)
  obtain ⟨shorter, longer⟩ := parse_respaced accepted
  exact ⟨_, accepted, deleted, shorter _ deleted, whole, longer ['1', '.', '5'] ['\u3000'] _ rfl wide whole⟩

end DecimalFormula.Expr
