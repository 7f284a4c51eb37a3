import DecimalFormula.Text.Quoted
import DecimalFormula.Value.Basic

/-!
# Quoted texts of documents

A quoted text ends at the next quote that is not escaped. Backslashes escape characters
by a letter or by four hexadecimal digits; two escaped halves of a surrogate pair stay
two codes. A line end that is written as itself is folded, together with the blanks
around it.
-/

set_option autoImplicit false

namespace DecimalFormula.Document

def isLineEnd (c : Char) : Bool :=
  let code := c.toNat
  code == 0x0A || code == 0x0D || code == 0x85 || code == 0x2028 || code == 0x2029

def hexadecimalDigit? (c : Char) : Option Nat :=
  if c.isDigit then some (c.toNat - '0'.toNat)
  else if 'a' ≤ c ∧ c ≤ 'f' then some (c.toNat - 'a'.toNat + 10)
  else if 'A' ≤ c ∧ c ≤ 'F' then some (c.toNat - 'A'.toNat + 10)
  else none

def codeUnit? (a b c d : Char) : Option Nat := do
  let a ← hexadecimalDigit? a
  let b ← hexadecimalDigit? b
  let c ← hexadecimalDigit? c
  let d ← hexadecimalDigit? d
  some (((a * 16 + b) * 16 + c) * 16 + d)

def escaped? : Char → Option Char
  | '"' => some '"'
  | '\\' => some '\\'
  | '/' => some '/'
  | 'b' => some '\x08'
  | 'f' => some '\x0c'
  | 'n' => some '\n'
  | 'r' => some '\r'
  | 't' => some '\t'
  | _ => none

/-- A piece of a quoted text: a blank or a line end that is written as itself, or the
code of anything else. -/
inductive Piece where
  | blank
  | lineEnd (code : Nat)
  | code (code : Nat)
  deriving DecidableEq, Repr

/-- The piece that a character which is written as itself is. The next line stands for
the line end of the system. -/
def Piece.ofChar (c : Char) : Piece :=
  if c == ' ' then .blank
  else if isLineEnd c then .lineEnd (if c.toNat == 0x85 then 0x0A else c.toNat)
  else .code c.toNat

/-- A quoted text as it is written: its pieces, and how many characters they take with
the closing quote. -/
structure QuotedText where
  pieces : List Piece
  width : Nat
  deriving DecidableEq, Repr

def QuotedText.cons (piece : Piece) (width : Nat) (quoted : QuotedText) : QuotedText :=
  ⟨piece :: quoted.pieces, width + quoted.width⟩

/-- Whether a line starts with the mark that parts two documents. -/
def startsWithMark : List Char → Bool
  | '-' :: '-' :: '-' :: c :: _ => c == ' ' || isLineEnd c
  | '.' :: '.' :: '.' :: c :: _ => c == ' ' || isLineEnd c
  | _ => false

def quotedText? : List Char → Option (QuotedText × List Char)
  | '"' :: rest => some (⟨[], 1⟩, rest)
  | '\\' :: 'u' :: a :: b :: c :: d :: rest => do
      let code ← codeUnit? a b c d
      let (quoted, rest) ← quotedText? rest
      some (quoted.cons (.code code) 6, rest)
  | '\\' :: letter :: rest => do
      let c ← escaped? letter
      let (quoted, rest) ← quotedText? rest
      some (quoted.cons (.code c.toNat) 2, rest)
  | c :: rest =>
      if c == '\\' || c.toNat < 0x20 || (isLineEnd c && startsWithMark rest) then none
      else do
        let (quoted, rest) ← quotedText? rest
        some (quoted.cons (.ofChar c) 1, rest)
  | [] => none

/-- Where folding has come to: into a line, after so many blanks, or past a line end,
with the line ends after it. -/
inductive Fold where
  | inLine (blanks : Nat)
  | pastLineEnd (code : Nat) (others : List Nat)

/-- The codes that a place in folding leaves behind. A single line end of the system
becomes a blank; if others follow it, only they are kept. -/
def Fold.codes : Fold → List Nat
  | .inLine blanks => List.replicate blanks 0x20
  | .pastLineEnd 0x0A [] => [0x20]
  | .pastLineEnd 0x0A others => others
  | .pastLineEnd code others => code :: others

def Fold.passBlank : Fold → Fold
  | .inLine blanks => .inLine (blanks + 1)
  | place => place

/-- The place after a line end. Blanks before it are lost. -/
def Fold.passLineEnd (code : Nat) : Fold → Fold
  | .inLine _ => .pastLineEnd code []
  | .pastLineEnd first others => .pastLineEnd first (others ++ [code])

def foldedFrom (place : Fold) : List Piece → List Nat
  | [] => place.codes
  | .blank :: pieces => foldedFrom place.passBlank pieces
  | .lineEnd code :: pieces => foldedFrom (place.passLineEnd code) pieces
  | .code code :: pieces => place.codes ++ code :: foldedFrom (.inLine 0) pieces

def QuotedText.codes (quoted : QuotedText) : List Nat :=
  foldedFrom (.inLine 0) quoted.pieces

def QuotedText.isOnOneLine (quoted : QuotedText) : Bool :=
  quoted.pieces.all fun
    | .lineEnd _ => false
    | _ => true

def textValue (codes : List Nat) : Value :=
  match codes.mapM Text.character? with
  | some chars => .text (String.ofList chars)
  | none => .unwritableText codes

/-- The characters that codes make up, if two halves of a surrogate pair are taken for
one. A half without the other is replaced. -/
def joinedChars : List Nat → List Char
  | high :: low :: rest =>
      if 0xD800 ≤ high ∧ high < 0xDC00 ∧ 0xDC00 ≤ low ∧ low < 0xE000 then
        Char.ofNat (0x10000 + (high - 0xD800) * 0x400 + (low - 0xDC00)) :: joinedChars rest
      else
        Text.readChar high :: joinedChars (low :: rest)
  | [code] => [Text.readChar code]
  | [] => []

end DecimalFormula.Document
