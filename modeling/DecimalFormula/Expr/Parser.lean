import DecimalFormula.Decimal.Numeral
import DecimalFormula.Expr.Basic
import DecimalFormula.Expr.Fault
import DecimalFormula.Expr.Lexeme

/-!
# Parsing expressions

A sum is a chain of products, a product a chain of factors, and both group to the
left. A factor is a numeral, a reference, a signed factor or a sum in parentheses;
white space may stand before every token. A reader takes an expression off the front
of a text and always shortens it, which is why chains end. Signs and parentheses may
be nested at most a hundred deep.
-/

set_option autoImplicit false

namespace DecimalFormula.Expr

/-- How many signs and parentheses may be open at a place of a source text. -/
def maxNesting : Nat := 100

/-- Why no expression could be read, with the text from the fault on. -/
inductive Refusal where
  | faulty (fault : Fault) (rest : List Char)
  | indexTooLong (digits : Nat)
  deriving DecidableEq, Repr

/-- An expression read off the front of a text of the given length, and what is left
of the text. -/
structure Parsed (length : Nat) where
  expr : Expr
  rest : List Char
  shorter : rest.length < length

namespace Parsed

/-- What was read off a text was also read off a longer one that ends in it. -/
def widen {length longer : Nat} (bound : length ≤ longer) (parsed : Parsed length) : Parsed longer :=
  ⟨parsed.expr, parsed.rest, Nat.lt_of_lt_of_le parsed.shorter bound⟩

def mapExpr {length : Nat} (change : Expr → Expr) (parsed : Parsed length) : Parsed length :=
  { parsed with expr := change parsed.expr }

end Parsed

/-- Takes an expression off the front of a text. -/
abbrev Reader :=
  (text : List Char) → Except Refusal (Parsed text.length)

namespace Reader

def additive? : Char → Option Operator
  | '+' => some .add
  | '-' => some .subtract
  | _ => none

def multiplicative? : Char → Option Operator
  | '*' => some .multiply
  | '/' => some .divide
  | _ => none

/-- Extends a chain as long as an operator follows, each step on top of those before
it. -/
def extend (operator? : Char → Option Operator) (operand : Reader) (left : Expr) (text : List Char) :
    Except Refusal (Parsed (text.length + 1)) :=
  match blanks : Text.skipBlanks text with
  | [] => .ok ⟨left, [], Nat.succ_pos _⟩
  | symbol :: after =>
      have bound : after.length < text.length := by
        have := Text.length_skipBlanks_le text
        rw [blanks, List.length_cons] at this
        omega
      match operator? symbol with
      | none => .ok ⟨left, symbol :: after, Nat.succ_lt_succ bound⟩
      | some op =>
          match operand after with
          | .error refusal => .error refusal
          | .ok right =>
              have := right.shorter
              (extend operator? operand (.binary op left right.expr) right.rest).map
                (Parsed.widen (by omega))
termination_by text.length

/-- Reads a chain of operands. -/
def chain (operator? : Char → Option Operator) (operand : Reader) : Reader := fun text =>
  match operand text with
  | .error refusal => .error refusal
  | .ok first => (extend operator? operand first.expr first.rest).map (Parsed.widen first.shorter)

/-- Reads a chain of products of factors. -/
def sum (factor : Reader) : Reader :=
  chain additive? (chain multiplicative? factor)

def numeral (first : Char) (after : List Char) : Except Refusal (Parsed (after.length + 1)) :=
  match Lexeme.numeral (first :: after) with
  | [] => .error (.faulty (.unexpectedCharacter first) (first :: after))
  | digit :: digits =>
      match Decimal.ofText? (String.ofList (digit :: digits)) with
      | some value =>
          .ok ⟨.constant value, after.drop digits.length, by rw [List.length_drop]; omega⟩
      | none => .error (.faulty (.malformedNumber (digit :: digits)) (first :: after))

def reference (after : List Char) : Except Refusal (Parsed (after.length + 1)) :=
  match read : Lexeme.braced after with
  | .index value rest =>
      .ok ⟨.argument value, rest, Nat.lt_succ_of_lt (Lexeme.length_lt_of_braced_index read)⟩
  | .tooLong digits _ => .error (.indexTooLong digits)
  | .unmatched => .error (.faulty .unmatchedBrace ('\x7b' :: after))
  | .missing rest => .error (.faulty .missingIndex rest)
  | .malformed found rest => .error (.faulty (.malformedIndex found) rest)

/-- Reads a sum after its opening parenthesis, and the closing one. -/
def grouped (factor : Reader) (after : List Char) : Except Refusal (Parsed (after.length + 1)) :=
  match sum factor after with
  | .error refusal => .error refusal
  | .ok inner =>
      match blanks : Text.skipBlanks inner.rest with
      | ')' :: rest =>
          .ok ⟨inner.expr, rest, by
            have := Text.length_skipBlanks_le inner.rest
            have := inner.shorter
            rw [blanks, List.length_cons] at *
            omega⟩
      | rest => .error (.faulty (.expectedCharacter ')') rest)

/-- Reads a factor that starts with the given character. What a sign or a
parenthesis opens is read by the given reader, if anything may be nested here. -/
def factorAt (deeper : Option Reader) (first : Char) (after : List Char) :
    Except Refusal (Parsed (after.length + 1)) :=
  let nested (read : Reader → Except Refusal (Parsed (after.length + 1))) :=
    match deeper with
    | some factor => read factor
    | none => .error (.faulty .nestedTooDeeply (first :: after))
  match namedArgument? first with
  | some index => .ok ⟨.argument index, after, Nat.lt_succ_self _⟩
  | none =>
      match first with
      | '\x7b' => reference after
      | '+' => nested fun factor => (factor after).map (Parsed.widen (Nat.le_succ _))
      | '-' => nested fun factor => (factor after).map fun operand =>
          (operand.widen (Nat.le_succ _)).mapExpr .negate
      | '(' => nested fun factor => grouped factor after
      | _ => numeral first after

/-- Reads a factor after the white space before it. -/
def factorWith (deeper : Option Reader) : Reader := fun text =>
  match blanks : Text.skipBlanks text with
  | [] => .error (.faulty .unexpectedEnd [])
  | first :: after =>
      (factorAt deeper first after).map (Parsed.widen (by
        have := Text.length_skipBlanks_le text
        rw [blanks] at this
        exact this))

/-- Reads a factor in which signs and parentheses are nested at most so deep. -/
def factor : Nat → Reader
  | 0 => factorWith none
  | nesting + 1 => factorWith (some (factor nesting))

end Reader

def Refusal.locate (source : String) : Refusal → SourceError
  | .faulty fault rest => .malformed ⟨fault, source.length - rest.length, source⟩
  | .indexTooLong digits => .indexTooLong digits

def parseChars (text : List Char) : Except Refusal Expr :=
  match Reader.sum (Reader.factor maxNesting) text with
  | .error refusal => .error refusal
  | .ok parsed =>
      match Text.skipBlanks parsed.rest with
      | [] => .ok parsed.expr
      | first :: after => .error (.faulty (.unexpectedCharacter first) (first :: after))

def parse (source : String) : Except SourceError Expr :=
  (parseChars source.toList).mapError (Refusal.locate source)

end DecimalFormula.Expr
