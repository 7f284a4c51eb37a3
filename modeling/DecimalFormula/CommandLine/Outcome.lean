import DecimalFormula.CommandLine.Options
import DecimalFormula.Document
import DecimalFormula.Text.ControlSequence

/-!
# Outcomes of commands

A command writes to the output and to the error output and ends with an exit code:
zero for success, one for a failure and two for a command line that does not make
sense. What it writes is plain text, whatever it was given to show. Commands see the
part of the world that they read, the environment variable and the files, as values.
-/

set_option autoImplicit false

namespace DecimalFormula.CommandLine

structure Outcome where
  exitCode : Nat
  output : String
  errorOutput : String
  deriving DecidableEq, Repr

/-- A line as commands write it: plain text and a line end. -/
def writtenLine (text : String) : String :=
  Text.plain text ++ "\n"

namespace Outcome

def line (text : String) : Outcome :=
  ⟨0, writtenLine text, ""⟩

/-- A command that failed and says why, after what it wrote before. -/
def failure (message : String) (output : String) : Outcome :=
  ⟨1, output, writtenLine ("Error: " ++ message)⟩

/-- A command that broke off without a word, after what it wrote before. -/
def broken (output : String) : Outcome :=
  ⟨1, output, ""⟩

end Outcome

/-- What the user types before the words of a command, and what may follow. -/
structure Synopsis where
  command : String
  words : String

def Synopsis.usage (synopsis : Synopsis) : String :=
  "Usage: " ++ synopsis.command ++ " " ++ synopsis.words ++ "\n"

def Synopsis.reminder (synopsis : Synopsis) : String :=
  synopsis.usage ++ "Try '" ++ synopsis.command ++ " --help' for help.\n\n"

/-- A command line that does not make sense. An error about the value of an option is
reported without the reminder. -/
def Synopsis.misuse (synopsis : Synopsis) (error : UsageError) : Outcome :=
  let reminder := if error.isAboutOptionValue then "" else synopsis.reminder
  ⟨2, "", reminder ++ writtenLine ("Error: " ++ error.message)⟩

inductive FileEntry where
  | document (content : Document)
  | directory

/-- The world that commands see: the environment variable for the precision, if it is
set, and what stands at each path. -/
structure World where
  precisionVariable : Option String
  entry? : String → Option FileEntry

end DecimalFormula.CommandLine
