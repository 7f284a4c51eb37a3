import Mathlib
import DecimalFormula.Expr.Basic
import DecimalFormula.Proofs.Decimal.Numeral

/-!
# The grammar of expressions

A source text is a sequence of tokens with white space before any of them and at the
end. The tokens of a factor are a reference to an argument, a number, a sign with a
factor after it, or a sum in parentheses. A product is a chain of factors, a sum a
chain of products, and the tree of a chain groups to the left: the last operation
of a chain is at its root. A plus sign leaves no trace in the tree. A derivation may
pass through a bounded number of signs and parentheses on its way to a token.

The grammar does not say how far a scanner goes: digits next to each other may be
taken apart into several numerals, but no phrase has two numerals next to each other.
-/

set_option autoImplicit false

namespace DecimalFormula

open Text Decimal

/-- The tokens of expressions. A token stands for what it means: references to one
argument are the same token, whichever way they are spelled. -/
inductive Token where
  | argument (index : Nat)
  | number (value : Finite)
  | operator (op : Operator)
  | opening
  | closing
  deriving DecidableEq

/-- The ways to spell a token. -/
inductive Token.Spelled : Token → List Char → Prop where
  | letter {name : Char} {index : Nat} :
      Expr.namedArgument? name = some index → Spelled (.argument index) [name]
  | braced {before digits after : List Char} :
      Blank before → Digits digits → digits ≠ [] → digits.length ≤ 4300 → Blank after →
      Spelled (.argument (Nat.ofDigitChars 10 digits 0)) ('\x7b' :: (before ++ (digits ++ after) ++ ['\x7d']))
  | number {text whole fraction : List Char} :
      Numeral text whole fraction → (Finite.ofDigits whole fraction).isRepresentable = true →
      Spelled (.number (Finite.ofDigits whole fraction)) text
  | operator {op : Operator} : Spelled (.operator op) op.symbol.toList
  | opening : Spelled .opening ['(']
  | closing : Spelled .closing [')']

/-- A text spells tokens, one after the other, with white space before any of them. -/
inductive Spells : List Token → List Char → Prop where
  | nil : Spells [] []
  | cons {token : Token} {tokens : List Token} {blank spelling text : List Char} :
      Blank blank → token.Spelled spelling → Spells tokens text →
      Spells (token :: tokens) (blank ++ (spelling ++ text))

/-- The kinds of phrases, from the tightest to the loosest. -/
inductive Phrase where
  | factor
  | product
  | sum

/-- The tokens of a phrase with its tree. On no path does the derivation pass through
more than the given number of signs and parentheses. -/
inductive Derives : Phrase → Nat → List Token → Expr → Prop where
  | argument {nesting index : Nat} : Derives .factor nesting [.argument index] (.argument index)
  | number {nesting : Nat} {value : Finite} : Derives .factor nesting [.number value] (.constant (.finite value))
  | plus {nesting : Nat} {tokens : List Token} {operand : Expr} :
      Derives .factor nesting tokens operand →
      Derives .factor (nesting + 1) (.operator .add :: tokens) operand
  | minus {nesting : Nat} {tokens : List Token} {operand : Expr} :
      Derives .factor nesting tokens operand →
      Derives .factor (nesting + 1) (.operator .subtract :: tokens) (.negate operand)
  | group {nesting : Nat} {tokens : List Token} {inner : Expr} :
      Derives .sum nesting tokens inner →
      Derives .factor (nesting + 1) (.opening :: (tokens ++ [.closing])) inner
  | product {nesting : Nat} {tokens : List Token} {expr : Expr} :
      Derives .factor nesting tokens expr → Derives .product nesting tokens expr
  | productStep {nesting : Nat} {before after : List Token} {op : Operator} {left right : Expr} :
      Derives .product nesting before left → op = .multiply ∨ op = .divide →
      Derives .factor nesting after right →
      Derives .product nesting (before ++ .operator op :: after) (.binary op left right)
  | sum {nesting : Nat} {tokens : List Token} {expr : Expr} :
      Derives .product nesting tokens expr → Derives .sum nesting tokens expr
  | sumStep {nesting : Nat} {before after : List Token} {op : Operator} {left right : Expr} :
      Derives .sum nesting before left → op = .add ∨ op = .subtract →
      Derives .product nesting after right →
      Derives .sum nesting (before ++ .operator op :: after) (.binary op left right)

/-- A source text writes an expression. -/
def Writes (source : String) (expr : Expr) : Prop :=
  ∃ tokens text after, source.toList = text ++ after ∧ Spells tokens text ∧ Blank after ∧
    Derives .sum 100 tokens expr

/-!
## Sequences of tokens
-/

/-- The character that writes an operation. -/
def Operator.sign : Operator → Char
  | .add => '+'
  | .subtract => '-'
  | .multiply => '*'
  | .divide => '/'

theorem Operator.toList_symbol (op : Operator) : op.symbol.toList = [op.sign] := by
  cases op <;> rfl

namespace Spells

theorem single {token : Token} {blank spelling : List Char} (before : Blank blank)
    (spelled : token.Spelled spelling) : Spells [token] (blank ++ spelling) := by
  simpa only [List.append_nil] using Spells.cons before spelled .nil

theorem append {first second : List Token} {firstText secondText : List Char}
    (firstSpelled : Spells first firstText) (secondSpelled : Spells second secondText) :
    Spells (first ++ second) (firstText ++ secondText) := by
  induction firstSpelled with
  | nil => exact secondSpelled
  | cons before spelled _ ih =>
      simpa only [List.cons_append, List.append_assoc] using Spells.cons before spelled ih

/-- White space may be added before the first token. -/
theorem blank_append {tokens : List Token} {blank text : List Char} (before : Blank blank)
    (spelled : Spells tokens text) (nonempty : tokens ≠ []) : Spells tokens (blank ++ text) := by
  cases spelled with
  | nil => exact absurd rfl nonempty
  | cons others spelling rest =>
      simpa only [List.append_assoc] using Spells.cons (before.append others) spelling rest

theorem exists_cons {token : Token} {tokens : List Token} {text : List Char}
    (spelled : Spells (token :: tokens) text) :
    ∃ blank spelling rest, text = blank ++ (spelling ++ rest) ∧ Blank blank ∧ token.Spelled spelling ∧
      Spells tokens rest := by
  cases spelled with
  | cons before spelling rest => exact ⟨_, _, _, rfl, before, spelling, rest⟩

/-- The one token of a text stands at its end. -/
theorem exists_single {token : Token} {text : List Char} (spelled : Spells [token] text) :
    ∃ blank spelling, text = blank ++ spelling ∧ Blank blank ∧ token.Spelled spelling := by
  obtain ⟨blank, spelling, rest, rfl, before, spells, others⟩ := spelled.exists_cons
  cases others with
  | nil => exact ⟨blank, spelling, by rw [List.append_nil], before, spells⟩

theorem exists_append {first second : List Token} {text : List Char}
    (spelled : Spells (first ++ second) text) :
    ∃ firstText secondText, text = firstText ++ secondText ∧ Spells first firstText ∧
      Spells second secondText := by
  induction first generalizing text with
  | nil => exact ⟨[], text, rfl, .nil, spelled⟩
  | cons token tokens ih =>
      obtain ⟨blank, spelling, rest, rfl, before, spells, others⟩ := spelled.exists_cons
      obtain ⟨firstText, secondText, rfl, firstSpelled, secondSpelled⟩ := ih others
      refine ⟨blank ++ (spelling ++ firstText), secondText, ?_, .cons before spells firstSpelled, secondSpelled⟩
      simp only [List.append_assoc]

end Spells

/-- An operator stands before the text of the tokens after it. -/
theorem Spells.exists_operator {op : Operator} {tokens : List Token} {text : List Char}
    (spelled : Spells (.operator op :: tokens) text) :
    ∃ blank rest, text = blank ++ op.sign :: rest ∧ Blank blank ∧ Spells tokens rest := by
  obtain ⟨blank, spelling, rest, rfl, before, spells, others⟩ := spelled.exists_cons
  cases spells with
  | operator => exact ⟨blank, rest, by rw [op.toList_symbol, List.singleton_append], before, others⟩

theorem Derives.tokens_ne_nil {phrase : Phrase} {nesting : Nat} {tokens : List Token} {expr : Expr}
    (derived : Derives phrase nesting tokens expr) : tokens ≠ [] := by
  induction derived with
  | argument | number | plus | minus | group => exact List.cons_ne_nil _ _
  | product _ ih | sum _ ih => exact ih
  | productStep | sumStep => exact List.append_ne_nil_of_right_ne_nil _ (List.cons_ne_nil _ _)

/-!
## Characters of expressions
-/

/-- Whether expressions are written with a character: white space, a name, a digit or a
mark. -/
def Expr.isAdmitted (c : Char) : Bool :=
  isBlank c || (namedArgument? c).isSome || c.isDigit ||
    ['.', '+', '-', '*', '/', '(', ')', '\x7b', '\x7d'].contains c

theorem Text.Blank.admitted {blank : List Char} (only : Blank blank) : ∀ c ∈ blank, Expr.isAdmitted c = true := by
  intro c member
  simp [Expr.isAdmitted, only c member]

theorem Text.Digits.admitted {digits : List Char} (only : Digits digits) : ∀ c ∈ digits, Expr.isAdmitted c = true := by
  intro c member
  simp [Expr.isAdmitted, only c member]

theorem Token.Spelled.admitted {token : Token} {spelling : List Char} (spelled : token.Spelled spelling) :
    ∀ c ∈ spelling, Expr.isAdmitted c = true := by
  cases spelled with
  | letter named => simp [Expr.isAdmitted, named]
  | braced before only _ _ after =>
      simp only [List.forall_mem_cons, List.forall_mem_append]
      exact ⟨rfl, ⟨before.admitted, only.admitted, after.admitted⟩, rfl, List.forall_mem_nil _⟩
  | number numeral _ =>
      intro c member
      rcases numeral.mem member with digit | rfl
      · simp [Expr.isAdmitted, digit]
      · rfl
  | @operator op =>
      rw [op.toList_symbol, List.forall_mem_singleton]
      cases op <;> rfl
  | opening | closing => exact List.forall_mem_singleton.mpr rfl

theorem Spells.admitted {tokens : List Token} {text : List Char} (spelled : Spells tokens text) :
    ∀ c ∈ text, Expr.isAdmitted c = true := by
  induction spelled with
  | nil => exact List.forall_mem_nil _
  | cons before spelling _ ih =>
      simp only [List.forall_mem_append]
      exact ⟨before.admitted, spelling.admitted, ih⟩

theorem Writes.admitted {source : String} {expr : Expr} (writes : Writes source expr) :
    ∀ c ∈ source.toList, Expr.isAdmitted c = true := by
  obtain ⟨tokens, text, after, split, spelled, blank, _⟩ := writes
  rw [split, List.forall_mem_append]
  exact ⟨spelled.admitted, blank.admitted⟩

/-!
## Bounds on tokens
-/

/-- The tokens that a spelling can stand for: indices have at most 4300 digits, numbers
no sign and no exponent above zero. -/
def Token.Bounded : Token → Prop
  | .argument index => index < 10 ^ 4300
  | .number value => value.negative = false ∧ value.exponent ≤ 0 ∧ value.isRepresentable = true
  | .operator _ => True
  | .opening => True
  | .closing => True

theorem Expr.namedArgument?_lt {name : Char} {index : Nat} (named : namedArgument? name = some index) :
    index < 10 ^ 1 := by
  unfold namedArgument? at named
  split at named <;> cases named <;> decide

theorem lt_ten_pow_of_le {index places more : Nat} (bound : index < 10 ^ places) (fewer : places ≤ more) :
    index < 10 ^ more :=
  Nat.lt_of_lt_of_le bound (Nat.pow_le_pow_right (by decide) fewer)

theorem Token.Spelled.bounded {token : Token} {spelling : List Char} (spelled : token.Spelled spelling) :
    token.Bounded := by
  cases spelled with
  | letter named => exact lt_ten_pow_of_le (Expr.namedArgument?_lt named) (by decide)
  | braced _ only _ short _ => exact lt_ten_pow_of_le only.ofDigitChars_lt short
  | number _ representable =>
      exact ⟨rfl, Int.neg_nonpos_of_nonneg (Int.natCast_nonneg _), representable⟩
  | operator | opening | closing => trivial

theorem Spells.bounded {tokens : List Token} {text : List Char} (spelled : Spells tokens text) :
    ∀ token ∈ tokens, token.Bounded := by
  induction spelled with
  | nil => exact fun _ member => nomatch member
  | cons _ spelling _ ih => exact List.forall_mem_cons.mpr ⟨spelling.bounded, ih⟩

end DecimalFormula
