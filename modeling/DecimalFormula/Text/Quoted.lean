import DecimalFormula.Text.Printable

/-!
# Quoted text

A text between quotes, as error messages show a value. The quote is an apostrophe
unless the text has apostrophes and no double quotes. The quote itself, the
backslash, the tabulator and the line ends are escaped by a letter, other
characters that cannot be shown by their code in two, four or eight lower-case
hexadecimal digits.
-/

set_option autoImplicit false

namespace DecimalFormula.Text

/-- A number in lower-case hexadecimal digits, padded with zeros to a width. -/
def hexadecimal (width number : Nat) : List Char :=
  let digits := Nat.toDigits 16 number
  List.replicate (width - digits.length) '0' ++ digits

def enclosingQuote (text : List Char) : Char :=
  if text.contains '\'' && !text.contains '"' then '"' else '\''

/-- The escape by a letter, for the characters that have one in either kind of
quoted text. -/
def letterEscape? (quote c : Char) : Option (List Char) :=
  if c == quote || c == '\\' then some ['\\', c]
  else if c == '\t' then some ['\\', 't']
  else if c == '\n' then some ['\\', 'n']
  else if c == '\r' then some ['\\', 'r']
  else none

def quotedChar (quote c : Char) : List Char :=
  match letterEscape? quote c with
  | some escape => escape
  | none =>
      if isPrintable c then [c]
      else if c.toNat < 0x100 then '\\' :: 'x' :: hexadecimal 2 c.toNat
      else if c.toNat < 0x10000 then '\\' :: 'u' :: hexadecimal 4 c.toNat
      else '\\' :: 'U' :: hexadecimal 8 c.toNat

def quoted (text : String) : String :=
  let quote := enclosingQuote text.toList
  String.ofList (quote :: text.toList.flatMap (quotedChar quote) ++ [quote])

/-- The character with a code. The codes of the halves of surrogate pairs have none. -/
def character? (code : Nat) : Option Char :=
  if code.isValidChar then some (Char.ofNat code) else none

/-- The character that a code is read as: its own, or the replacement character. -/
def readChar (code : Nat) : Char :=
  (character? code).getD '\ufffd'

/-- A text of which the codes are given, as it is read. -/
def readCodes (codes : List Nat) : String :=
  String.ofList (codes.map readChar)

/-- A text of which the codes are given, between quotes: a code without a character is
escaped like a character that cannot be shown. -/
def quotedCodes (codes : List Nat) : String :=
  let quote := enclosingQuote (codes.filterMap character?)
  let shown := codes.flatMap fun code =>
    match character? code with
    | some c => quotedChar quote c
    | none => '\\' :: 'u' :: hexadecimal 4 code
  String.ofList (quote :: shown ++ [quote])

/-- Bytes between quotes: what is not printable ASCII is escaped by its code. -/
def quotedBytes (bytes : List UInt8) : String :=
  let chars := bytes.map fun byte => Char.ofNat byte.toNat
  let quote := enclosingQuote chars
  let shown := chars.flatMap fun c =>
    match letterEscape? quote c with
    | some escape => escape
    | none => if 0x20 ≤ c.toNat && c.toNat < 0x7F then [c] else '\\' :: 'x' :: hexadecimal 2 c.toNat
  String.ofList ('b' :: quote :: shown ++ [quote])

end DecimalFormula.Text
