import DecimalFormula.Decimal.Numeral
import DecimalFormula.Document.Node
import DecimalFormula.Document.QuotedText

/-!
# Documents

A document is a text that holds one value: nothing, a truth value, a number, a quoted
text, a list in brackets or a mapping in braces. Blanks and line ends may stand
between its tokens, but a key and its colon are on one line and close together; a blank
document holds nothing. Control characters may stand nowhere. A number without a point
and an exponent is an integer, one with a point is a binary number if its exponent,
should it have one, is signed; any other is taken as a text.
-/

set_option autoImplicit false

namespace DecimalFormula

/-- A document: its value, if it holds one. -/
inductive Document where
  | malformed
  /-- Well formed but for an integer of too many digits. -/
  | integerTooLong (digits : Nat)
  | holding (value : Value)
  deriving Inhabited

namespace Document

def isAdmitted (c : Char) : Bool :=
  let code := c.toNat
  code == 0x09 || code == 0x0A || code == 0x0D || (0x20 ≤ code && code ≤ 0x7E) || code == 0x85 ||
    (0xA0 ≤ code && code ≠ 0xFFFE && code ≠ 0xFFFF)

def skipSpace (text : List Char) : List Char :=
  text.dropWhile fun c => c == ' ' || isLineEnd c

def isNumberChar (c : Char) : Bool :=
  c.isDigit || c == '-' || c == '+' || c == '.' || c == 'e' || c == 'E'

/-- Whether a text is the exponent of a number: nothing, or the letter E, an optional
sign and digits. -/
def isExponent : List Char → Bool
  | 'e' :: rest | 'E' :: rest =>
      let digits := (Text.splitSign rest).2
      digits ≠ [] && digits.all Char.isDigit
  | rest => rest.isEmpty

def isPlainExponent : List Char → Bool
  | [] => true
  | _ :: '+' :: _ => true
  | _ :: '-' :: _ => true
  | _ => false

def number? (numeral : List Char) : Option Node :=
  let (negative, unsigned) :=
    match numeral with
    | '-' :: rest => (true, rest)
    | rest => (false, rest)
  let whole := unsigned.takeWhile Char.isDigit
  let wellFormedWhole := whole ≠ [] && (whole.length == 1 || whole.head? ≠ some '0')
  match unsigned.dropWhile Char.isDigit with
  | [] => if wellFormedWhole then some (.integer negative whole) else none
  | '.' :: rest =>
      let exponent := rest.dropWhile Char.isDigit
      if wellFormedWhole && rest.head?.any Char.isDigit && isExponent exponent then
        if isPlainExponent exponent then do
          let number ← Decimal.ofText? (String.ofList numeral)
          let nearest ← Binary64.ofDecimal? number
          some (.scalar (.binary64 nearest))
        else
          some (.scalar (.text (String.ofList numeral)))
      else
        none
  | exponent =>
      if wellFormedWhole && isExponent exponent then some (.scalar (.text (String.ofList numeral))) else none

/-- The greatest distance from the opening quote of a key to its colon. -/
def maxKeyWidth : Nat := 1024

def key? (text : List Char) : Option (String × List Char) := do
  let (quoted, rest) ← quotedText? text
  let blanks := (rest.takeWhile (· == ' ')).length
  match rest.dropWhile (· == ' ') with
  | ':' :: rest =>
      if quoted.isOnOneLine && 1 + quoted.width + blanks ≤ maxKeyWidth then
        some (String.ofList (joinedChars quoted.codes), rest)
      else
        none
  | _ => none

mutual

def node? : Nat → List Char → Option (Node × List Char)
  | 0, _ => none
  | depth + 1, text =>
      match skipSpace text with
      | 'n' :: 'u' :: 'l' :: 'l' :: rest => some (.scalar .nothing, rest)
      | 't' :: 'r' :: 'u' :: 'e' :: rest => some (.scalar (.boolean true), rest)
      | 'f' :: 'a' :: 'l' :: 's' :: 'e' :: rest => some (.scalar (.boolean false), rest)
      | '"' :: rest => do
          let (quoted, rest) ← quotedText? rest
          some (.scalar (textValue quoted.codes), rest)
      | '[' :: rest =>
          match skipSpace rest with
          | ']' :: rest => some (.list [], rest)
          | rest => do
              let (items, rest) ← items? depth rest
              some (.list items, rest)
      | '\x7b' :: rest =>
          match skipSpace rest with
          | '\x7d' :: rest => some (.mapping [], rest)
          | rest => do
              let (entries, rest) ← entries? depth rest
              some (.mapping entries, rest)
      | text => do
          let number ← number? (text.takeWhile isNumberChar)
          some (number, text.dropWhile isNumberChar)

def items? : Nat → List Char → Option (List Node × List Char)
  | 0, _ => none
  | depth + 1, text => do
      let (item, rest) ← node? depth text
      match skipSpace rest with
      | ',' :: rest =>
          let (items, rest) ← items? depth rest
          some (item :: items, rest)
      | ']' :: rest => some ([item], rest)
      | _ => none

def entries? : Nat → List Char → Option (List (String × Node) × List Char)
  | 0, _ => none
  | depth + 1, text =>
      match skipSpace text with
      | '"' :: rest => do
          let (key, rest) ← key? rest
          let (item, rest) ← node? depth rest
          match skipSpace rest with
          | ',' :: rest =>
              let (entries, rest) ← entries? depth rest
              some ((key, item) :: entries, rest)
          | '\x7d' :: rest => some ([(key, item)], rest)
          | _ => none
      | _ => none

end

/-- The document that a node makes up, if it is nested at most so deep. -/
def ofNode (depth : Nat) (node : Node) : Document :=
  match Node.firstExcess? depth [node] with
  | some digits => .integerTooLong digits
  | none => .holding node.value

def ofText (text : String) : Document :=
  if text.toList.all isAdmitted then
    match skipSpace text.toList with
    | [] => .holding .nothing
    | content =>
        let depth := content.length + 1
        match node? depth content with
        | some (node, rest) => if (skipSpace rest).isEmpty then ofNode depth node else .malformed
        | none => .malformed
  else
    .malformed

end Document

inductive DocumentError where
  | malformed (path : String)
  | integerTooLong (digits : Nat)
  | notAMapping (path : String)
  deriving DecidableEq, Repr

def DocumentError.message : DocumentError → String
  | .malformed path => path ++ ": YAML parse error: no value can be read"
  | .integerTooLong digits => Text.tooManyDigitsMessage digits
  | .notAMapping path => path ++ ": expected a mapping at top level"

/-- The entries of a document that holds a mapping; one that holds nothing has none. -/
def Document.entries (path : String) : Document → Except DocumentError (List (String × Value))
  | .malformed => .error (.malformed path)
  | .integerTooLong digits => .error (.integerTooLong digits)
  | .holding .nothing => .ok []
  | .holding (.mapping entries) => .ok entries
  | .holding _ => .error (.notAMapping path)

end DecimalFormula
