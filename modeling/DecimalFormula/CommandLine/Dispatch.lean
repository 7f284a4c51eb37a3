import DecimalFormula.CommandLine.Batch
import DecimalFormula.CommandLine.Check
import DecimalFormula.CommandLine.Evaluate

/-!
# Choosing a command

The first word names the command, and the words after it are the command's own.
-/

set_option autoImplicit false

namespace DecimalFormula.CommandLine

def synopsis : Synopsis :=
  ⟨"mathexpr", "[OPTIONS] COMMAND [ARGS]..."⟩

def leadingOptions : Options :=
  { Options.helpOnly with mixesPositional := false }

/-- Whether a word may be meant as the name of a command. One that starts with a sign
is taken for a question about usage. -/
def looksLikeCommand (word : String) : Bool :=
  match word.toList with
  | first :: _ => first.isAlphanum || 0x80 ≤ first.toNat
  | [] => true

/-- The path that the command line names, if its command reads one. -/
def path? (words : List String) : Option String :=
  match leadingOptions.read words with
  | .ok ⟨_, "batch" :: words⟩ =>
      match Options.helpOnly.read words with
      | .ok words => words.positional.head?
      | .error _ => none
  | _ => none

def run (world : World) (words : List String) : Outcome :=
  match leadingOptions.read words with
  | .error error => synopsis.misuse error
  | .ok leading =>
      if words.isEmpty || leading.options.any (·.1 == .help) then
        ⟨0, synopsis.usage, ""⟩
      else
        match leading.positional with
        | [] => synopsis.misuse .missingCommand
        | "eval" :: words => Evaluate.run world words
        | "check" :: words => Check.run words
        | "batch" :: words => Batch.run world words
        | name :: _ =>
            if looksLikeCommand name then synopsis.misuse (.noSuchCommand (Text.quoted name))
            else ⟨0, synopsis.usage, ""⟩

end DecimalFormula.CommandLine
