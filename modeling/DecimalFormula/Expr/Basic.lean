import DecimalFormula.Decimal.Notation
import DecimalFormula.Text.Integer

/-!
# Expressions

An arithmetic expression over an argument vector: decimal constants, references to
arguments by index, the four binary operations and negation. A tree that was built
by hand may also hold things that are no expressions; only the name of their type
is kept, because nothing can be done with them but refuse them.
-/

set_option autoImplicit false

namespace DecimalFormula

inductive Operator where
  | add
  | subtract
  | multiply
  | divide
  deriving DecidableEq, Repr

def Operator.symbol : Operator → String
  | .add => "+"
  | .subtract => "-"
  | .multiply => "*"
  | .divide => "/"

inductive Expr where
  | constant (value : Decimal)
  | argument (index : Nat)
  | binary (op : Operator) (left right : Expr)
  | negate (operand : Expr)
  | foreign (typeName : String)
  deriving DecidableEq, Repr

namespace Expr

def namedArgument? : Char → Option Nat
  | 'x' | 'a' => some 0
  | 'y' | 'b' => some 1
  | 'z' | 'c' => some 2
  | 't' | 'd' => some 3
  | _ => none

def bracedIndex (index : Nat) : String :=
  "\x7b" ++ Text.naturalText index ++ "\x7d"

/-- The nodes of a tree in postorder, one text for each, and then some more texts. -/
def reversePolishThen : Expr → List String → List String
  | .constant value, rest => value.text :: rest
  | .argument index, rest => bracedIndex index :: rest
  | .binary op left right, rest => left.reversePolishThen (right.reversePolishThen (op.symbol :: rest))
  | .negate operand, rest => operand.reversePolishThen ("neg" :: rest)
  | .foreign typeName, rest => typeName :: rest

/-- The nodes of a tree in postorder, one text for each. -/
def reversePolish (expr : Expr) : List String :=
  expr.reversePolishThen []

end Expr

/-- A thing of the named type stands where an expression should. -/
structure ForeignNode where
  typeName : String
  deriving DecidableEq, Repr

def ForeignNode.message (node : ForeignNode) : String :=
  "Unknown node type: " ++ node.typeName

end DecimalFormula
