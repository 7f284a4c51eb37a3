import Mathlib
import DecimalFormula.Proofs.Expr.Completeness

/-!
# Operands on their own

A source text whose tree has no operation consists of one literal or one reference. Only
parentheses, plus signs before it and white space may be around it, and these leave no
trace in the tree.
-/

set_option autoImplicit false

namespace DecimalFormula

open Text Decimal

/-- There is nothing in a text but an operand, white space, plus signs and opening
parentheses before it and closing parentheses after it. -/
def Encloses (text operand : List Char) : Prop :=
  ∃ before after, text = before ++ (operand ++ after) ∧
    (∀ c ∈ before, isBlank c = true ∨ c = '+' ∨ c = '(') ∧ ∀ c ∈ after, isBlank c = true ∨ c = ')'

namespace Encloses

variable {text operand front back : List Char}

theorem append (encloses : Encloses text operand) (closes : ∀ c ∈ back, isBlank c = true ∨ c = ')') :
    Encloses (text ++ back) operand := by
  obtain ⟨before, after, rfl, opens, afterCloses⟩ := encloses
  refine ⟨before, after ++ back, by simp only [List.append_assoc], opens, ?_⟩
  intro c member
  exact (List.mem_append.mp member).elim (afterCloses c) (closes c)

end Encloses

end DecimalFormula
