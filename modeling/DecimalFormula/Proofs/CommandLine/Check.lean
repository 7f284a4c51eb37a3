import Mathlib
import DecimalFormula.CommandLine.Check
import DecimalFormula.Proofs.Expr.RoundTrip

/-!
# Checking what was printed by checking

The command that checks prints a text of the tree it found. Given this text, it finds
the same tree and prints the same text, unless the tree nests more than a hundred
operations: then it refuses its own output. A chain of operations nests as many of
them as it is long, while its source text need not nest anything.
-/

set_option autoImplicit false

open DecimalFormula.Text DecimalFormula.Decimal DecimalFormula.Expr

namespace DecimalFormula.CommandLine.Check

/-!
## Printed lines
-/

theorem escape_not_mem_of_spells {tokens : List Token} {text : List Char} (spelled : Spells tokens text) :
    '\x1b' ∉ text :=
  fun member => absurd (spelled.admitted _ member) (by decide)

theorem line_of_spells {tokens : List Token} {text : String} (spelled : Spells tokens text.toList) :
    Outcome.line text = ⟨0, text ++ "\n", ""⟩ := by
  rw [Outcome.line, writtenLine, plain_of_not_mem (escape_not_mem_of_spells spelled)]

/-!
## Checking again
-/

theorem check_of_parse {source text : String} {expr : Expr} (parsed : parse source = .ok expr)
    (printed : expr.print = .ok text) : check source = .line text := by
  rw [check, parsed]
  simp only [printed]

theorem check_of_malformed {source : String} {error : ParseError} (refused : parse source = .error (.malformed error)) :
    check source = .failure error.message "" := by
  rw [check, refused]

/-- The printed text of an accepted source is accepted again, as the same tree and with
the same output, exactly if the tree nests at most a hundred operations. Otherwise it
is refused for its nesting. -/
theorem check_again_iff_nest_le {source : String} {expr : Expr} (accepted : parse source = .ok expr) :
    ∃ printed, expr.print = .ok printed ∧ check source = ⟨0, printed ++ "\n", ""⟩ ∧
      (parse printed = .ok expr ↔ expr.nest ≤ 100) ∧
      (check printed = check source ↔ expr.nest ≤ 100) ∧
      (100 < expr.nest → ∃ error : ParseError, parse printed = .error (.malformed error) ∧
        error.fault = .nestedTooDeeply ∧ check printed = .failure error.message "") := by
  have writable := writable_of_writes ((parse_eq_ok_iff_writes source expr).mp accepted)
  obtain ⟨printed, prints, spelled⟩ := writable.spells
  have checked := check_of_parse accepted prints
  have line := line_of_spells spelled
  have deepRefused : 100 < expr.nest → ∃ error : ParseError, parse printed = .error (.malformed error) ∧
      error.fault = .nestedTooDeeply ∧ check printed = .failure error.message "" := by
    intro deep
    obtain ⟨position, refused⟩ := writable.parse_of_lt_nest spelled deep
    exact ⟨_, refused, rfl, check_of_malformed refused⟩
  have shallowAccepted := writable.parse_of_nest_le spelled
  refine ⟨printed, prints, checked.trans line, ⟨?_, shallowAccepted⟩, ⟨?_, ?_⟩, deepRefused⟩
  · intro again
    by_contra deep
    obtain ⟨error, refused, _⟩ := deepRefused (Nat.lt_of_not_le deep)
    rw [again] at refused
    cases refused
  · intro again
    by_contra deep
    obtain ⟨error, _, _, failed⟩ := deepRefused (Nat.lt_of_not_le deep)
    rw [failed, checked, line] at again
    cases congrArg Outcome.exitCode again
  · intro shallow
    rw [check_of_parse (shallowAccepted shallow) prints, checked]

/-!
## Long sums
-/

/-- The sum of the first argument with itself, so many times. -/
def repeatedSum : Nat → Expr
  | 0 => .argument 0
  | times + 1 => .binary .add (repeatedSum times) (.argument 0)

/-- A source text of the sum, without any parentheses. -/
def repeatedSumText : Nat → String
  | 0 => "x"
  | times + 1 => repeatedSumText times ++ "+x"

theorem nest_repeatedSum (times : Nat) : (repeatedSum times).nest = times := by
  induction times with
  | zero => rfl
  | succ times ih => simp [repeatedSum, nest, ih, Nat.add_comm]

theorem spells_repeatedSum (times : Nat) :
    ∃ tokens, Spells tokens (repeatedSumText times).toList ∧ Derives .sum 100 tokens (repeatedSum times) := by
  induction times with
  | zero => exact ⟨[.argument 0], Spells.single Blank.nil (.letter rfl), .sum (.product .argument)⟩
  | succ times ih =>
      obtain ⟨tokens, spelled, derived⟩ := ih
      have sign : Spells [.operator .add] ['+'] := Spells.single Blank.nil .operator
      have name : Spells [.argument 0] ['x'] := Spells.single Blank.nil (.letter rfl)
      refine ⟨tokens ++ .operator .add :: [.argument 0], ?_, .sumStep derived (.inl rfl) (.product .argument)⟩
      rw [repeatedSumText, String.toList_append]
      exact spelled.append (sign.append name)

theorem parse_repeatedSumText (times : Nat) : parse (repeatedSumText times) = .ok (repeatedSum times) := by
  obtain ⟨tokens, spelled, derived⟩ := spells_repeatedSum times
  exact (parse_eq_ok_iff_writes _ _).mpr ⟨tokens, _, [], (List.append_nil _).symm, spelled, Blank.nil, derived⟩

/-- A sum of a hundred and two summands is accepted, and what is printed for it is not. -/
theorem check_again_refused_at_101 :
    parse (repeatedSumText 101) = .ok (repeatedSum 101) ∧
      ∃ printed, (repeatedSum 101).print = .ok printed ∧
        check (repeatedSumText 101) = ⟨0, printed ++ "\n", ""⟩ ∧
        ∃ error : ParseError, parse printed = .error (.malformed error) ∧ error.fault = .nestedTooDeeply ∧
          check printed = .failure error.message "" := by
  refine ⟨parse_repeatedSumText 101, ?_⟩
  obtain ⟨printed, prints, checked, _, _, refused⟩ := check_again_iff_nest_le (parse_repeatedSumText 101)
  exact ⟨printed, prints, checked, refused (by rw [nest_repeatedSum]; decide)⟩

end DecimalFormula.CommandLine.Check
