import DecimalFormula.Expr.Fault
import DecimalFormula.Expr.Lexeme

/-!
# A cursor over a source text

The cursor is moved by hand or past the lexeme that stands at it. It may be moved
beyond the end, where nothing is left to read. A cursor before the start counts from
the end, as far as the text reaches: moving forward from there it passes the end of
the text and then the whole text.
-/

set_option autoImplicit false

namespace DecimalFormula

structure Scanner where
  source : List Char
  position : Int
  deriving DecidableEq, Repr

namespace Scanner

inductive Failure where
  | source (error : SourceError)
  /-- The cursor is so far before the start that it points at nothing. -/
  | outsideText
  deriving DecidableEq, Repr

def ofText (source : String) : Scanner :=
  ⟨source.toList, 0⟩

def length (scanner : Scanner) : Int :=
  scanner.source.length

def atEnd (scanner : Scanner) : Bool :=
  scanner.length ≤ scanner.position

/-- The text from a place on; a negative place counts from the end. -/
def textFrom (scanner : Scanner) (place : Int) : List Char :=
  scanner.source.drop (if place < 0 then scanner.length + place else place).toNat

def ahead (scanner : Scanner) : Except Failure (List Char) :=
  if scanner.position < -scanner.length then .error .outsideText
  else if scanner.position < 0 then .ok (scanner.textFrom scanner.position ++ scanner.source)
  else .ok (scanner.textFrom scanner.position)

def fail (scanner : Scanner) (fault : Fault) (place : Int) : Failure :=
  .source (.malformed ⟨fault, place, String.ofList scanner.source⟩)

def current? (scanner : Scanner) : Except Failure (Option Char) :=
  scanner.ahead.map List.head?

def advance (scanner : Scanner) (count : Int) : Scanner :=
  { scanner with position := scanner.position + count }

def skipBlanks (scanner : Scanner) : Except Failure Scanner :=
  scanner.ahead.map fun text => scanner.advance (text.takeWhile Text.isBlank).length

def numeral? (scanner : Scanner) : Option (String × Scanner) :=
  let start := max 0 scanner.position
  match Lexeme.numeral (scanner.textFrom start) with
  | [] => none
  | found => some (String.ofList found, { scanner with position := start + found.length })

/-- Refuses a braced reference that lies before the start, whatever is in it. -/
def referenceBeforeStart (scanner : Scanner) (inside : Int) (after : List Char) : Except Failure Nat × Scanner :=
  if inside < -scanner.length then
    (.error .outsideText, { scanner with position := inside })
  else
    let place := inside + (after.takeWhile Text.isBlank).length
    let content := Text.strip (after.takeWhile (· ≠ '\x7d'))
    (.error (scanner.fail (.malformedIndex content) place), { scanner with position := place })

/-- Reads a braced reference whose opening brace is taken to be at the cursor. What
was read stays read if the reference turns out to be wrong. -/
def reference (scanner : Scanner) : Except Failure Nat × Scanner :=
  let inside := scanner.position + 1
  let after := scanner.textFrom inside
  let upTo (rest : List Char) : Scanner := { scanner with position := scanner.length - rest.length }
  if inside < 0 ∧ '\x7d' ∈ after then
    scanner.referenceBeforeStart inside after
  else
    match Lexeme.braced after with
    | .index value rest => (.ok value, upTo rest)
    | .tooLong digits rest => (.error (.source (.indexTooLong digits)), upTo rest)
    | .unmatched => (.error (scanner.fail .unmatchedBrace scanner.position), scanner)
    | .missing rest => (.error (scanner.fail .missingIndex (upTo rest).position), upTo rest)
    | .malformed content rest =>
        (.error (scanner.fail (.malformedIndex content) (upTo rest).position), upTo rest)

def expect (scanner : Scanner) (wanted : Char) : Except Failure Scanner := do
  if (← scanner.current?) = some wanted then
    pure (scanner.advance 1)
  else
    throw (scanner.fail (.expectedCharacter wanted) scanner.position)

def requireEnd (scanner : Scanner) : Except Failure Unit := do
  match ← scanner.current? with
  | some found => throw (scanner.fail (.unexpectedCharacter found) scanner.position)
  | none => pure ()

end Scanner

end DecimalFormula
