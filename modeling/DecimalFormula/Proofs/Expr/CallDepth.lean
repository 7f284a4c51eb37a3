import Mathlib
import DecimalFormula.Proofs.Expr.Completeness

/-!
# How deep evaluating and printing recur

A chain of operations is unwound in a loop, which calls itself once for the operand at
the start of the chain and once for the right operand of each step. How deep these
calls nest does not depend on the length of a source text: between two parentheses or
signs there are at most two of them, one for a product in a sum and one for a factor
in a product.
-/

set_option autoImplicit false

namespace DecimalFormula.Expr

mutual

/-- How deep the calls nest that evaluating or printing an expression makes. -/
def callDepth : Expr → Nat
  | .constant _ => 0
  | .argument _ => 0
  | .binary _ left right => 1 + max left.chainDepth right.callDepth
  | .negate operand => 1 + operand.callDepth
  | .foreign _ => 0

/-- How deep the calls nest that are made for the operands of a chain. What is no
operation is a chain of one operand. -/
def chainDepth : Expr → Nat
  | .constant _ => 0
  | .argument _ => 0
  | .binary _ left right => max left.chainDepth right.callDepth
  | .negate operand => 1 + operand.callDepth
  | .foreign _ => 0

end

/-- The operand at the start of a chain, and the right operands of its steps. -/
def chainOperands : Expr → List Expr
  | .binary _ left right => left.chainOperands ++ [right]
  | expr => [expr]

theorem callDepth_binary (op : Operator) (left right : Expr) :
    (binary op left right).callDepth = 1 + (binary op left right).chainDepth :=
  rfl

theorem chainDepth_eq (expr : Expr) : expr.chainDepth = (expr.chainOperands.map callDepth).foldr max 0 := by
  induction expr with
  | constant | argument | negate | foreign => simp [chainDepth, chainOperands, callDepth]
  | binary op left right leftIH _ =>
      have split (depths : List Nat) (last : Nat) : (depths ++ [last]).foldr max 0 = max (depths.foldr max 0) last := by
        induction depths with
        | nil => simp
        | cons depth depths ih => simp only [List.cons_append, List.foldr_cons, ih, Nat.max_assoc]
      rw [chainDepth, chainOperands, List.map_append, List.map_singleton, split, ← leftIH]

/-- The calls for an operation are those for the operands of its chain, one deeper. -/
theorem callDepth_binary_eq (op : Operator) (left right : Expr) :
    (binary op left right).callDepth =
      1 + ((binary op left right).chainOperands.map callDepth).foldr max 0 := by
  rw [callDepth_binary, chainDepth_eq]

theorem chainDepth_le_callDepth (expr : Expr) : expr.chainDepth ≤ expr.callDepth := by
  cases expr with
  | constant | argument | negate | foreign => exact Nat.le_refl _
  | binary op left right => exact Nat.le_add_left _ _

theorem callDepth_le_chainDepth_succ (expr : Expr) : expr.callDepth ≤ expr.chainDepth + 1 := by
  cases expr with
  | constant | argument | negate | foreign => exact Nat.le_succ _
  | binary op left right => exact (Nat.add_comm _ _).le

/-!
## The bound
-/

/-- How deep the calls for a phrase of a kind may nest. -/
def DepthWithin (nesting : Nat) (expr : Expr) : Phrase → Prop
  | .factor => expr.callDepth ≤ 2 * nesting
  | .product => expr.chainDepth ≤ 2 * nesting
  | .sum => expr.chainDepth ≤ 2 * nesting + 1

/-- Each sign and each parenthesis makes room for two calls more. -/
theorem depthWithin_of_derives {phrase : Phrase} {nesting : Nat} {tokens : List Token} {expr : Expr}
    (derived : Derives phrase nesting tokens expr) : DepthWithin nesting expr phrase := by
  induction derived with
  | argument | number => exact Nat.zero_le _
  | plus _ ih =>
      simp only [DepthWithin] at ih ⊢
      omega
  | minus _ ih =>
      simp only [DepthWithin, callDepth] at ih ⊢
      omega
  | @group _ _ inner _ ih =>
      have oneMore := inner.callDepth_le_chainDepth_succ
      simp only [DepthWithin] at ih ⊢
      omega
  | @product _ _ expr _ ih =>
      have chain := expr.chainDepth_le_callDepth
      exact chain.trans ih
  | productStep _ _ _ leftIH rightIH => exact Nat.max_le.mpr ⟨leftIH, rightIH⟩
  | sum _ ih => exact ih.trans (Nat.le_succ _)
  | @sumStep _ _ _ _ _ right _ _ _ leftIH rightIH =>
      have oneMore := right.callDepth_le_chainDepth_succ
      exact Nat.max_le.mpr ⟨leftIH, oneMore.trans (Nat.succ_le_succ rightIH)⟩

theorem callDepth_le_of_parse {source : String} {expr : Expr} (accepted : parse source = .ok expr) :
    expr.callDepth ≤ 202 := by
  obtain ⟨tokens, _, _, _, _, _, derived⟩ := (parse_eq_ok_iff_writes source expr).mp accepted
  have within := depthWithin_of_derives derived
  exact expr.callDepth_le_chainDepth_succ.trans (Nat.succ_le_succ within)

/-!
## The deepest calls
-/

/-- A sum with a product in it, and in the product the same again, in so many parentheses. -/
def nestedSum : Nat → Expr
  | 0 => .binary .add (.argument 0) (.binary .multiply (.argument 0) (.argument 0))
  | times + 1 => .binary .add (.argument 0) (.binary .multiply (.argument 0) (nestedSum times))

def nestedSumText : Nat → List Char
  | 0 => ['x', '+', 'x', '*', 'x']
  | times + 1 => 'x' :: '+' :: 'x' :: '*' :: '(' :: (nestedSumText times ++ [')'])

theorem callDepth_nestedSum (times : Nat) : (nestedSum times).callDepth = 2 * times + 2 := by
  induction times with
  | zero => rfl
  | succ times ih =>
      simp only [nestedSum, callDepth, chainDepth, ih, Nat.zero_max]
      omega

/-- A product of the first argument with a factor, added to the first argument. -/
theorem derives_scaled {nesting : Nat} {tokens : List Token} {factor : Expr}
    (derived : Derives .factor nesting tokens factor) :
    Derives .sum nesting (.argument 0 :: .operator .add :: .argument 0 :: .operator .multiply :: tokens)
      (.binary .add (.argument 0) (.binary .multiply (.argument 0) factor)) := by
  have product : Derives .product nesting ([.argument 0] ++ .operator .multiply :: tokens)
      (.binary .multiply (.argument 0) factor) :=
    .productStep (.product .argument) (.inl rfl) derived
  have sum : Derives .sum nesting ([.argument 0] ++ .operator .add :: ([.argument 0] ++ .operator .multiply :: tokens))
      (.binary .add (.argument 0) (.binary .multiply (.argument 0) factor)) :=
    .sumStep (.sum (.product .argument)) (.inl rfl) product
  exact sum

theorem spells_scaled {tokens : List Token} {text : List Char} (spelled : Spells tokens text) :
    Spells (.argument 0 :: .operator .add :: .argument 0 :: .operator .multiply :: tokens)
      ('x' :: '+' :: 'x' :: '*' :: text) := by
  have name : Spells [.argument 0] ['x'] := Spells.single Text.Blank.nil (.letter rfl)
  have plus : Spells [.operator .add] ['+'] := Spells.single Text.Blank.nil .operator
  have times : Spells [.operator .multiply] ['*'] := Spells.single Text.Blank.nil .operator
  exact name.append (plus.append (name.append (times.append spelled)))

theorem spells_nestedSum (times : Nat) :
    ∃ tokens, Spells tokens (nestedSumText times) ∧ Derives .sum times tokens (nestedSum times) := by
  induction times with
  | zero =>
      have name : Spells [.argument 0] ['x'] := Spells.single Text.Blank.nil (.letter rfl)
      exact ⟨_, spells_scaled name, derives_scaled .argument⟩
  | succ times ih =>
      obtain ⟨tokens, spelled, derived⟩ := ih
      have opening : Spells [.opening] ['('] := Spells.single Text.Blank.nil .opening
      have closing : Spells [.closing] [')'] := Spells.single Text.Blank.nil .closing
      exact ⟨_, spells_scaled (opening.append (spelled.append closing)), derives_scaled (.group derived)⟩

theorem parse_nestedSumText : parse (String.ofList (nestedSumText 100)) = .ok (nestedSum 100) := by
  obtain ⟨tokens, spelled, derived⟩ := spells_nestedSum 100
  refine (parse_eq_ok_iff_writes _ _).mpr ⟨tokens, nestedSumText 100, [], ?_, spelled, Text.Blank.nil, derived⟩
  rw [String.toList_ofList, List.append_nil]

/-- Among the source texts that are accepted, of whatever length, the deepest calls nest 202
deep. -/
theorem isGreatest_callDepth :
    IsGreatest {depth | ∃ source expr, parse source = .ok expr ∧ expr.callDepth = depth} 202 := by
  refine ⟨⟨_, nestedSum 100, parse_nestedSumText, callDepth_nestedSum 100⟩, ?_⟩
  rintro depth ⟨source, expr, accepted, rfl⟩
  exact callDepth_le_of_parse accepted

end DecimalFormula.Expr
