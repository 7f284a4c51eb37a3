import DecimalFormula.Text.Integer
import DecimalFormula.Value.Basic

/-!
# Nodes of documents

A node is what a document writes, with its integers still unread and all entries of its
mappings. It has a value if no integer in it has too many digits. Of several entries
with one key the last counts, in the place of the first.
-/

set_option autoImplicit false

namespace DecimalFormula.Document

inductive Node where
  | scalar (value : Value)
  | integer (negative : Bool) (digits : List Char)
  | list (items : List Node)
  | mapping (entries : List (String × Node))
  deriving Inhabited

namespace Node

/-- How many digits an integer has, if they are too many. -/
def excess? : Node → Option Nat
  | .integer _ digits => if Text.maxIntegerDigits < digits.length then some digits.length else none
  | _ => none

def children : Node → List Node
  | .list items => items
  | .mapping entries => entries.map (·.2)
  | _ => []

/-- The digits of the first integer that has too many, among nodes and what is inside them
down to a depth. Outer integers come before inner ones. -/
def firstExcess? : Nat → List Node → Option Nat
  | 0, _ => none
  | depth + 1, nodes =>
      if nodes.isEmpty then none
      else (nodes.findSome? excess?).or (firstExcess? depth (nodes.flatMap children))

/-- Adds an entry to a mapping, or changes the value of the one with its key. -/
def putEntry (key : String) (value : Value) (entries : List (String × Value)) : List (String × Value) :=
  if entries.any (·.1 == key) then
    entries.map fun entry => if entry.1 == key then (key, value) else entry
  else
    entries ++ [(key, value)]

mutual

def value : Node → Value
  | .scalar value => value
  | .integer negative digits => .integer (Text.signedInteger negative (Nat.ofDigitChars 10 digits 0))
  | .list items => .list (values items)
  | .mapping entries => .mapping (entryValues [] entries)

def values : List Node → List Value
  | [] => []
  | item :: items => item.value :: values items

/-- The values of the entries of a mapping, after those of entries before them. -/
def entryValues (known : List (String × Value)) : List (String × Node) → List (String × Value)
  | [] => known
  | (key, item) :: entries => entryValues (putEntry key item.value known) entries

end

end Node

end DecimalFormula.Document
