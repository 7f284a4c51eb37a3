import Mathlib
import DecimalFormula.Proofs.Evaluation.Conversion
import DecimalFormula.Proofs.Evaluation.Recursion
import DecimalFormula.Proofs.Expr.Replacement

/-!
# Literals in place of arguments

An argument that is the text of a numeral may as well be written into the source: the
literal and the argument are the same number, with the same digits, and neither is
rounded. So any of the references to it may be replaced by the numeral, and the value
or the failure stays the same.
-/

set_option autoImplicit false

namespace DecimalFormula

open Text Decimal

/-- The second token is the first, or it is the number in place of a reference to the
argument. -/
def LiteralFor (index : Nat) (number : Finite) (token other : Token) : Prop :=
  other = token ∨ token = .argument index ∧ other = .number number

theorem LiteralFor.eq_of_ne {index : Nat} {number : Finite} {token other : Token}
    (literal : LiteralFor index number token other) (noReference : token ≠ .argument index) : other = token :=
  literal.resolve_right fun reference => noReference reference.1

theorem exists_append_of_forall₂ {α β : Type} {related : α → β → Prop} {first second : List α} {others : List β}
    (pairs : List.Forall₂ related (first ++ second) others) :
    ∃ otherFirst otherSecond, others = otherFirst ++ otherSecond ∧ List.Forall₂ related first otherFirst ∧
      List.Forall₂ related second otherSecond := by
  induction first generalizing others with
  | nil => exact ⟨[], others, rfl, .nil, pairs⟩
  | cons item items ih =>
      cases pairs with
      | cons pair rest =>
          obtain ⟨otherFirst, otherSecond, rfl, firstPairs, secondPairs⟩ := ih rest
          exact ⟨_ :: otherFirst, otherSecond, rfl, .cons pair firstPairs, secondPairs⟩

theorem exists_operator_of_literals {index : Nat} {number : Finite} {before after others : List Token} {op : Operator}
    (literals : List.Forall₂ (LiteralFor index number) (before ++ .operator op :: after) others) :
    ∃ otherBefore otherAfter, others = otherBefore ++ .operator op :: otherAfter ∧
      List.Forall₂ (LiteralFor index number) before otherBefore ∧
      List.Forall₂ (LiteralFor index number) after otherAfter := by
  obtain ⟨otherBefore, behind, rfl, beforeLiterals, behindLiterals⟩ := exists_append_of_forall₂ literals
  cases behindLiterals with
  | cons sign afterLiterals =>
      obtain rfl := sign.eq_of_ne nofun
      exact ⟨otherBefore, _, rfl, beforeLiterals, afterLiterals⟩

namespace Scope

variable {scope : Scope} {index : Nat} {number : Finite}

/-- Numbers in place of references to an argument that holds them change neither what a
phrase is nor what it evaluates to. The induction is on the derivation. -/
theorem exists_derives_literal (holds : scope.argument index = .ok (.finite number)) {phrase : Phrase} {nesting : Nat}
    {tokens others : List Token} {expr : Expr} (derived : Derives phrase nesting tokens expr)
    (literals : List.Forall₂ (LiteralFor index number) tokens others) :
    ∃ other, Derives phrase nesting others other ∧ scope.evaluate other = scope.evaluate expr := by
  induction derived generalizing others with
  | @argument _ reference =>
      cases literals with
      | cons literal rest =>
          cases rest
          rcases literal with rfl | ⟨same, rfl⟩
          · exact ⟨_, .argument, rfl⟩
          · obtain rfl : reference = index := Token.argument.inj same
            refine ⟨_, .number, ?_⟩
            rw [evaluate_argument, holds]
            rfl
  | number =>
      cases literals with
      | cons literal rest =>
          cases rest
          obtain rfl := literal.eq_of_ne nofun
          exact ⟨_, .number, rfl⟩
  | plus _ ih =>
      cases literals with
      | cons literal rest =>
          obtain rfl := literal.eq_of_ne nofun
          obtain ⟨other, derived, same⟩ := ih rest
          exact ⟨other, .plus derived, same⟩
  | minus _ ih =>
      cases literals with
      | cons literal rest =>
          obtain rfl := literal.eq_of_ne nofun
          obtain ⟨other, derived, same⟩ := ih rest
          refine ⟨.negate other, .minus derived, ?_⟩
          rw [evaluate_negate, evaluate_negate, same]
  | group _ ih =>
      cases literals with
      | cons opening rest =>
          obtain ⟨inner, closing, rfl, innerLiterals, closingLiterals⟩ := exists_append_of_forall₂ rest
          cases closingLiterals with
          | cons closing nothing =>
              cases nothing
              obtain rfl := opening.eq_of_ne nofun
              obtain rfl := closing.eq_of_ne nofun
              obtain ⟨other, derived, same⟩ := ih innerLiterals
              exact ⟨other, .group derived, same⟩
  | product _ ih =>
      obtain ⟨other, derived, same⟩ := ih literals
      exact ⟨other, .product derived, same⟩
  | productStep _ multiplicative _ leftIH rightIH =>
      obtain ⟨_, _, rfl, leftLiterals, rightLiterals⟩ := exists_operator_of_literals literals
      obtain ⟨left, leftDerived, leftSame⟩ := leftIH leftLiterals
      obtain ⟨right, rightDerived, rightSame⟩ := rightIH rightLiterals
      refine ⟨_, .productStep leftDerived multiplicative rightDerived, ?_⟩
      rw [evaluate_binary, evaluate_binary, leftSame, rightSame]
  | sum _ ih =>
      obtain ⟨other, derived, same⟩ := ih literals
      exact ⟨other, .sum derived, same⟩
  | sumStep _ additive _ leftIH rightIH =>
      obtain ⟨_, _, rfl, leftLiterals, rightLiterals⟩ := exists_operator_of_literals literals
      obtain ⟨left, leftDerived, leftSame⟩ := leftIH leftLiterals
      obtain ⟨right, rightDerived, rightSame⟩ := rightIH rightLiterals
      refine ⟨_, .sumStep leftDerived additive rightDerived, ?_⟩
      rw [evaluate_binary, evaluate_binary, leftSame, rightSame]

theorem argument_of_literal {literal : String} (supplied : scope.arguments[index]? = some (.text literal))
    (constructed : ofText? literal = some (.finite number)) : scope.argument index = .ok (.finite number) := by
  rw [argument, supplied]
  exact Value.toDecimal_of_ofText? constructed

/-- Any of the references to an argument that is the text of a numeral may be replaced by
this numeral: the source text is accepted as before, and evaluating it on the same arguments
gives the same number or the same failure. -/
theorem evaluate_literal_for_argument {source literal : String} {expr : Expr} {whole fraction text : List Char}
    {value : Decimal} (accepted : Expr.parse source = .ok expr)
    (supplied : scope.arguments[index]? = some (.text literal)) (numeral : Numeral literal.toList whole fraction)
    (constructed : ofText? literal = some value)
    (replaced : Replaced (fun reference new => Token.Spelled (.argument index) reference ∧ new = literal.toList)
      source.toList text) :
    ∃ other, Expr.parse (String.ofList text) = .ok other ∧ scope.evaluate other = scope.evaluate expr := by
  have read := numeral.ofText?_eq
  rw [String.ofList_toList, constructed] at read
  split at read
  · next representable =>
      obtain rfl : value = .finite (Finite.ofDigits whole fraction) := Option.some.inj read
      have references : ReplacesReferences
          (fun reference new => Token.Spelled (.argument index) reference ∧ new = literal.toList)
          (LiteralFor index (Finite.ofDigits whole fraction)) := by
        refine ⟨fun _ => .inl rfl, ?_⟩
        rintro reference new ⟨spelled, rfl⟩
        exact ⟨index, _, spelled, .number numeral representable, .inr ⟨rfl, rfl⟩⟩
      obtain ⟨tokens, front, after, split, spelled, afterBlank, derived⟩ :=
        (Expr.parse_eq_ok_iff_writes source expr).mp accepted
      rw [split] at replaced
      obtain ⟨newTokens, newFront, rfl, newSpelled, literals⟩ := spelled.exists_of_replaced references afterBlank replaced
      obtain ⟨other, newDerived, same⟩ :=
        exists_derives_literal (argument_of_literal supplied constructed) derived literals
      refine ⟨other, (Expr.parse_eq_ok_iff_writes _ _).mpr ?_, same⟩
      exact ⟨newTokens, newFront, after, String.toList_ofList, newSpelled, afterBlank, newDerived⟩
  · cases read

/-- A precision of one digit, and for an argument a text of more. -/
def halfScope : Scope where
  context := { Decimal.Context.standard with precision := 1, precision_pos := Nat.one_pos }
  arguments := [.text ".50", .integer 3]

/-- The second of two references to the same argument is replaced. The product is a quarter,
rounded to 0.2, and the sum is rounded again. -/
theorem evaluate_literal_for_half :
    ∃ expr, Expr.parse "x*{ 0 }+y" = .ok expr ∧ halfScope.arguments[0]? = some (.text ".50") ∧
      Numeral ".50".toList [] ['5', '0'] ∧ ofText? ".50" = some (.finite ⟨false, 50, -2⟩) ∧
      Replaced (fun reference new => Token.Spelled (.argument 0) reference ∧ new = ".50".toList)
        "x*{ 0 }+y".toList ['x', '*', '.', '5', '0', '+', 'y'] ∧
      ∃ other, Expr.parse (String.ofList ['x', '*', '.', '5', '0', '+', 'y']) = .ok other ∧ other ≠ expr ∧
        halfScope.evaluate other = halfScope.evaluate expr ∧
        halfScope.evaluate expr = .ok (.finite ⟨false, 3, 0⟩) := by
  have accepted : Expr.parse "x*{ 0 }+y" =
      .ok (.binary .add (.binary .multiply (.argument 0) (.argument 0)) (.argument 1)) := by
    decide +kernel
  have numeral : Numeral ".50".toList [] ['5', '0'] := by
    have only : Digits ['5', '0'] := by simp [Digits]
    exact .pointed (List.forall_mem_nil _) only (List.cons_ne_nil _ _)
  have constructed : ofText? ".50" = some (.finite ⟨false, 50, -2⟩) := by
    decide +kernel
  have space : Blank [' '] := List.forall_mem_singleton.mpr (by decide)
  have zero : Digits ['0'] := by simp [Digits]
  have reference : Token.Spelled (.argument 0) ['\x7b', ' ', '0', ' ', '}'] :=
    .braced space zero (List.cons_ne_nil _ _) (by decide) space
  have secondReplaced : Replaced (fun reference new => Token.Spelled (.argument 0) reference ∧ new = ".50".toList)
      (['\x7b', ' ', '0', ' ', '}'] ++ ['+', 'y']) (['.', '5', '0'] ++ ['+', 'y']) :=
    .replace ⟨reference, rfl⟩ (.keep (.keep .nil))
  have replaced : Replaced (fun reference new => Token.Spelled (.argument 0) reference ∧ new = ".50".toList)
      "x*{ 0 }+y".toList ['x', '*', '.', '5', '0', '+', 'y'] :=
    .keep (.keep secondReplaced)
  have supplied : halfScope.arguments[0]? = some (.text ".50") := rfl
  obtain ⟨other, parsed, same⟩ := evaluate_literal_for_argument accepted supplied numeral constructed replaced
  refine ⟨_, accepted, supplied, numeral, constructed, replaced, other, parsed, ?_, same, by decide +kernel⟩
  rintro rfl
  exact absurd parsed (by decide +kernel)

end Scope

end DecimalFormula
