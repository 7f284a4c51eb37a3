import Mathlib
import DecimalFormula.Expr.Printer
import DecimalFormula.Proofs.Expr.Grammar

/-!
# Printed texts

The loop that unwinds a chain prints what plain recursion on the tree prints. The text
of a tree spells the tokens of the tree, with all its parentheses: every operation is
one factor, so the tokens of a tree are derived with as many nested signs and
parentheses as the tree has nested operations.
-/

set_option autoImplicit false

namespace DecimalFormula.Expr

open Text Decimal

/-!
## The loop
-/

/-- The text of an expression by recursion on the tree. -/
def parenthesised : Expr → Except ForeignNode String
  | .constant value => .ok value.plainText
  | .argument index => .ok (bracedIndex index)
  | .binary op left right => do
      let start ← left.parenthesised
      let operand ← right.parenthesised
      pure ("(" ++ start ++ " " ++ op.symbol ++ " " ++ operand ++ ")")
  | .negate operand => do
      let text ← operand.parenthesised
      pure ("-" ++ text)
  | .foreign typeName => .error ⟨typeName⟩

theorem printChain_eq (expr : Expr) (steps : List (String → Except ForeignNode String)) :
    printChain expr steps = expr.parenthesised >>= steps.foldlM fun start step => step start := by
  induction expr generalizing steps with
  | constant value => rfl
  | argument index => rfl
  | binary op left right leftIH rightIH =>
      have rightText : printChain right [] = right.parenthesised := (rightIH []).trans (bind_pure _)
      rw [printChain, leftIH, parenthesised, rightText]
      simp only [List.foldlM_cons, bind_assoc, pure_bind]
  | negate operand ih =>
      have operandText : printChain operand [] = operand.parenthesised := (ih []).trans (bind_pure _)
      rw [printChain, operandText, parenthesised]
      simp only [bind_assoc, pure_bind]
  | foreign typeName => rfl

theorem print_eq_parenthesised (expr : Expr) : expr.print = expr.parenthesised := by
  rw [print, printChain_eq]
  exact bind_pure _

theorem print_binary {op : Operator} {left right : Expr} {leftText rightText : String}
    (leftPrinted : left.print = .ok leftText) (rightPrinted : right.print = .ok rightText) :
    (binary op left right).print = .ok ("(" ++ leftText ++ " " ++ op.symbol ++ " " ++ rightText ++ ")") := by
  rw [print_eq_parenthesised] at leftPrinted rightPrinted ⊢
  rw [parenthesised, leftPrinted, rightPrinted]
  rfl

theorem print_negate {operand : Expr} {text : String} (printed : operand.print = .ok text) :
    (negate operand).print = .ok ("-" ++ text) := by
  rw [print_eq_parenthesised] at printed ⊢
  rw [parenthesised, printed]
  rfl

/-!
## Trees that can be written
-/

/-- The trees that can be written down: constants are numbers without a sign, without
zeros before the point that are not digits of theirs and within the bounds on all
numbers, and indices have at most 4300 digits. -/
inductive Writable : Expr → Prop where
  | constant {number : Finite} :
      number.negative = false → number.exponent ≤ 0 → number.isRepresentable = true →
      Writable (.constant (.finite number))
  | argument {index : Nat} : index < 10 ^ 4300 → Writable (.argument index)
  | binary {op : Operator} {left right : Expr} : Writable left → Writable right → Writable (.binary op left right)
  | negate {operand : Expr} : Writable operand → Writable (.negate operand)

theorem writable_of_derives {phrase : Phrase} {nesting : Nat} {tokens : List Token} {expr : Expr}
    (derived : Derives phrase nesting tokens expr) (bounded : ∀ token ∈ tokens, token.Bounded) :
    expr.Writable := by
  induction derived with
  | argument => exact .argument (bounded _ List.mem_cons_self)
  | number =>
      obtain ⟨unsigned, places, representable⟩ := bounded _ List.mem_cons_self
      exact .constant unsigned places representable
  | plus _ ih => exact ih (List.forall_mem_cons.mp bounded).2
  | minus _ ih => exact .negate (ih (List.forall_mem_cons.mp bounded).2)
  | group _ ih => exact ih (List.forall_mem_append.mp (List.forall_mem_cons.mp bounded).2).1
  | product _ ih | sum _ ih => exact ih bounded
  | productStep _ _ _ leftIH rightIH | sumStep _ _ _ leftIH rightIH =>
      obtain ⟨leftBounded, rightBounded⟩ := List.forall_mem_append.mp bounded
      exact .binary (leftIH leftBounded) (rightIH (List.forall_mem_cons.mp rightBounded).2)

/-- Whatever a source text writes can be written down. -/
theorem writable_of_writes {source : String} {expr : Expr} (writes : Writes source expr) : expr.Writable := by
  obtain ⟨tokens, text, after, _, spelled, _, derived⟩ := writes
  exact writable_of_derives derived spelled.bounded

/-- How deep operations are nested. -/
def nest : Expr → Nat
  | .constant _ => 0
  | .argument _ => 0
  | .binary _ left right => 1 + max left.nest right.nest
  | .negate operand => 1 + operand.nest
  | .foreign _ => 0

/-- The tokens of the text of a tree. What no token stands for has none. -/
def tokens : Expr → List Token
  | .constant (.finite number) => [.number number]
  | .constant _ => []
  | .argument index => [.argument index]
  | .binary op left right => .opening :: (left.tokens ++ .operator op :: right.tokens ++ [.closing])
  | .negate operand => .operator .subtract :: operand.tokens
  | .foreign _ => []

theorem derives_binary {op : Operator} {nesting : Nat} {left right : Expr} {leftTokens rightTokens : List Token}
    (leftDerived : Derives .factor nesting leftTokens left) (rightDerived : Derives .factor nesting rightTokens right) :
    Derives .sum nesting (leftTokens ++ .operator op :: rightTokens) (.binary op left right) := by
  cases op with
  | add => exact .sumStep (.sum (.product leftDerived)) (.inl rfl) (.product rightDerived)
  | subtract => exact .sumStep (.sum (.product leftDerived)) (.inr rfl) (.product rightDerived)
  | multiply => exact .sum (.productStep (.product leftDerived) (.inl rfl) rightDerived)
  | divide => exact .sum (.productStep (.product leftDerived) (.inr rfl) rightDerived)

/-- A tree is a factor of its tokens under any bound on nesting that it keeps. -/
theorem Writable.derives {expr : Expr} (writable : expr.Writable) {nesting : Nat} (bound : expr.nest ≤ nesting) :
    Derives .factor nesting expr.tokens expr := by
  induction writable generalizing nesting with
  | constant => exact .number
  | argument => exact .argument
  | binary _ _ leftIH rightIH =>
      simp only [nest] at bound
      cases nesting with
      | zero => omega
      | succ inner => exact .group (derives_binary (leftIH (by omega)) (rightIH (by omega)))
  | negate _ ih =>
      simp only [nest] at bound
      cases nesting with
      | zero => omega
      | succ inner => exact .minus (ih (by omega))

theorem length_toDigits_le {index places : Nat} (some_place : 0 < places) (bound : index < 10 ^ places) :
    (Nat.toDigits 10 index).length ≤ places :=
  (Nat.length_toDigits_le_iff (by decide) some_place).mpr bound

theorem spelled_bracedIndex {index : Nat} (bound : index < 10 ^ 4300) :
    Token.Spelled (.argument index) (bracedIndex index).toList := by
  have short := length_toDigits_le (by decide) bound
  have spelled := Token.Spelled.braced Blank.nil (digits_toDigits index) Nat.toDigits_ne_nil short Blank.nil
  rw [Nat.ofDigitChars_ten_toDigits] at spelled
  simpa [bracedIndex, naturalText] using spelled

theorem spelled_plainText {number : Finite} (unsigned : number.negative = false) (places : number.exponent ≤ 0)
    (representable : number.isRepresentable = true) :
    Token.Spelled (.number number) (plainText (.finite number)).toList := by
  obtain ⟨whole, fraction, numeral, denotes⟩ := Numeral.exists_plain unsigned places
  have spelled := Token.Spelled.number numeral (denotes.symm ▸ representable)
  rw [denotes] at spelled
  rwa [plainText, String.toList_ofList]

theorem spells_binary {op : Operator} {leftTokens rightTokens : List Token} {leftText rightText : List Char}
    (leftSpelled : Spells leftTokens leftText) (rightSpelled : Spells rightTokens rightText)
    (nonempty : rightTokens ≠ []) :
    Spells (.opening :: (leftTokens ++ .operator op :: rightTokens ++ [.closing]))
      ('(' :: (leftText ++ ' ' :: op.sign :: ' ' :: rightText ++ [')'])) := by
  have space : Blank [' '] := by
    intro c member
    rw [List.mem_singleton.mp member]
    decide
  have opening : Spells [.opening] ['('] := Spells.single Blank.nil .opening
  have sign : Spells [.operator op] (' ' :: op.symbol.toList) := Spells.single space .operator
  have closing : Spells [.closing] [')'] := Spells.single Blank.nil .closing
  have spelled := opening.append
    ((leftSpelled.append (sign.append (rightSpelled.blank_append space nonempty))).append closing)
  simpa [op.toList_symbol] using spelled

/-- What is printed spells the tokens of the tree. -/
theorem Writable.spells {expr : Expr} (writable : expr.Writable) :
    ∃ text, expr.print = .ok text ∧ Spells expr.tokens text.toList := by
  induction writable with
  | constant unsigned places representable =>
      exact ⟨_, rfl, Spells.single Blank.nil (spelled_plainText unsigned places representable)⟩
  | argument bound => exact ⟨_, rfl, Spells.single Blank.nil (spelled_bracedIndex bound)⟩
  | @binary op left right leftWritable rightWritable leftIH rightIH =>
      obtain ⟨leftText, leftPrinted, leftSpelled⟩ := leftIH
      obtain ⟨rightText, rightPrinted, rightSpelled⟩ := rightIH
      have nonempty := (rightWritable.derives (Nat.le_refl _)).tokens_ne_nil
      have spelled := @spells_binary op _ _ _ _ leftSpelled rightSpelled nonempty
      exact ⟨_, print_binary leftPrinted rightPrinted, by simpa [op.toList_symbol, tokens] using spelled⟩
  | negate _ ih =>
      obtain ⟨text, printed, spelled⟩ := ih
      have sign : Spells [.operator .subtract] ['-'] := Spells.single Blank.nil .operator
      exact ⟨_, print_negate printed, by simpa [tokens] using sign.append spelled⟩

end DecimalFormula.Expr
