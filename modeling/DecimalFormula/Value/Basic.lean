import DecimalFormula.Binary64.Basic
import DecimalFormula.Decimal.Basic

/-!
# Values

The values that hosts bind and that documents hold: numbers of several kinds,
texts, sequences and mappings. A mapping keeps its entries in the order in which
they were written. Of a value of any other kind there is what others see of it.
-/

set_option autoImplicit false

namespace DecimalFormula

/-- A value of a kind of its own, by what others see of it. -/
structure ForeignValue where
  typeName : String
  display : String
  quotation : String
  isSomething : Bool
  /-- Why it cannot be looked up among keys, if it cannot. -/
  keyFault? : Option String
  deriving DecidableEq, Repr, Inhabited

/-- A value that arguments and settings may have. -/
inductive Value where
  | nothing
  | boolean (truth : Bool)
  | integer (number : Int)
  | binary64 (number : Binary64)
  | decimal (number : Decimal)
  | fraction (number : Rat)
  | text (content : String)
  /-- A text some of whose codes are those of no characters. It cannot be written. -/
  | unwritableText (codes : List Nat)
  | bytes (content : List UInt8)
  | tuple (items : List Value)
  | list (items : List Value)
  | mapping (entries : List (String × Value))
  | foreign (value : ForeignValue)
  deriving Inhabited

namespace Value

def typeName : Value → String
  | .nothing => "NoneType"
  | .boolean _ => "bool"
  | .integer _ => "int"
  | .binary64 _ => "float"
  | .decimal _ => "Decimal"
  | .fraction _ => "Fraction"
  | .text _ => "str"
  | .unwritableText _ => "str"
  | .bytes _ => "bytes"
  | .tuple _ => "tuple"
  | .list _ => "list"
  | .mapping _ => "dict"
  | .foreign value => value.typeName

/-- Whether a value counts as something: not nothing, not false, not zero and not
empty. -/
def isSomething : Value → Bool
  | .nothing => false
  | .boolean truth => truth
  | .integer number => number != 0
  | .binary64 (.finite _ significand _) => significand != 0
  | .binary64 _ => true
  | .decimal (.finite number) => !number.isZero
  | .decimal _ => true
  | .fraction number => number.num != 0
  | .text content => !content.isEmpty
  | .unwritableText codes => !codes.isEmpty
  | .bytes content => !content.isEmpty
  | .tuple items => !items.isEmpty
  | .list items => !items.isEmpty
  | .mapping entries => !entries.isEmpty
  | .foreign value => value.isSomething

def lookup? (key : String) (entries : List (String × Value)) : Option Value :=
  (entries.find? (·.1 == key)).map (·.2)

mutual

/-- Why a value cannot be looked up among keys, if it cannot: a list or a mapping may
change, and a signalling undefined result refuses every use. -/
def keyFault? : Value → Option String
  | .list _ => some "unhashable type: 'list'"
  | .mapping _ => some "unhashable type: 'dict'"
  | .decimal (.undefined result) =>
      if result.signalling then some "Cannot hash a signaling NaN value" else none
  | .tuple items => firstKeyFault? items
  | .foreign value => value.keyFault?
  | _ => none

/-- Why the first of several values that cannot be looked up cannot. -/
def firstKeyFault? : List Value → Option String
  | [] => none
  | item :: items => (keyFault? item).or (firstKeyFault? items)

end

/-- The values that a sequence supplies as arguments; a text supplies its characters
one by one. -/
def arguments? : Value → Option (List Value)
  | .tuple items => some items
  | .list items => some items
  | .text content => some (content.toList.map fun c => .text (String.singleton c))
  | _ => none

end Value

end DecimalFormula
