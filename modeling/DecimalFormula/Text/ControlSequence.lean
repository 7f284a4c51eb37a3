/-!
# Control sequences

A control sequence tells a terminal to change the style of what follows or to move
its cursor: the escape character and an opening bracket, then any ASCII digits,
semicolons and question marks, and an ASCII letter at the end. Plain text is text
without its control sequences. They are looked for once from the start on, so that
characters which come together when one is left out do not make up another.
-/

set_option autoImplicit false

namespace DecimalFormula.Text

/-- Whether a character may stand between the bracket and the last letter of a control
sequence. -/
def isSequenceParameter (c : Char) : Bool :=
  c.isDigit || c == ';' || c == '?'

/-- How many characters the control sequence at the start of a text has after its first,
if there is one. -/
def controlSequenceTail? : List Char → Option Nat
  | '\x1b' :: '[' :: rest =>
      match rest.dropWhile isSequenceParameter with
      | [] => none
      | last :: _ =>
          if last.isAlpha then some ((rest.takeWhile isSequenceParameter).length + 2) else none
  | _ => none

/-- A text without its control sequences, and without so many characters that still
belong to one. -/
def plainAfter : Nat → List Char → List Char
  | _, [] => []
  | pending + 1, _ :: rest => plainAfter pending rest
  | 0, c :: rest =>
      match controlSequenceTail? (c :: rest) with
      | some pending => plainAfter pending rest
      | none => c :: plainAfter 0 rest

def plain (text : String) : String :=
  String.ofList (plainAfter 0 text.toList)

theorem controlSequenceTail?_of_ne {c : Char} (different : c ≠ '\x1b') (rest : List Char) :
    controlSequenceTail? (c :: rest) = none := by
  unfold controlSequenceTail?
  split
  · next same => exact absurd (List.cons.inj same).1 different
  · rfl

theorem plain_of_not_mem {text : String} (free : '\x1b' ∉ text.toList) : plain text = text := by
  have kept : ∀ chars : List Char, '\x1b' ∉ chars → plainAfter 0 chars = chars := by
    intro chars
    induction chars with
    | nil => intro _; rfl
    | cons c rest ih =>
        intro free
        simp only [List.mem_cons, not_or] at free
        simp only [plainAfter, controlSequenceTail?_of_ne (Ne.symm free.1), ih free.2]
  simp only [plain, kept _ free, String.ofList_toList]

end DecimalFormula.Text
