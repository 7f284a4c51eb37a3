import DecimalFormula.CommandLine.Outcome
import DecimalFormula.Coercion
import DecimalFormula.Engine

/-!
# The command that evaluates

It evaluates one expression over the texts that follow it and prints the result,
coerced to the target. The precision is that of its option, or else of the
environment variable.
-/

set_option autoImplicit false

namespace DecimalFormula.CommandLine.Evaluate

def synopsis : Synopsis :=
  ⟨"mathexpr eval", "[OPTIONS] EXPRESSION [ARGS]..."⟩

/-- Unknown options pass, so that negative numbers can be arguments. -/
def options : Options where
  long := [("--target", .target, true), ("--precision", .precision, true), ("--help", .help, false)]
  short := [('t', .target), ('p', .precision)]
  passesUnknown := true
  mixesPositional := true

def targets : List (String × Target) :=
  [("decimal", .decimal), ("str", .text), ("int", .integer), ("float", .binary64)]

structure Choices where
  target : Target
  precision : Option Int
  deriving DecidableEq, Repr

def Choices.choose (choices : Choices) (choice : Choice) (value : String) : Except UsageError Choices :=
  match choice with
  | .help => .ok choices
  | .target =>
      match targets.lookup value with
      | some target => .ok { choices with target }
      | none =>
          .error (.invalidValue "'--target' / '-t'" (Text.quoted value ++ " is not one of " ++
            String.intercalate ", " (targets.map fun target => Text.quoted target.1) ++ "."))
  | .precision =>
      match Text.readInteger? value with
      | some precision => .ok { choices with precision := some precision }
      | none => .error (.invalidValue "'--precision' / '-p'" (Text.quoted value ++ " is not a valid integer."))

/-- The last value of each option, in the order in which the options first appear. -/
def lastValues (chosen : List (Choice × String)) : List (Choice × String) :=
  (chosen.map (·.1)).eraseDups.filterMap fun choice => (chosen.reverse.lookup choice).map (choice, ·)

/-- Makes all choices, or says which is the first that does not make sense. -/
def choicesOf (chosen : List (Choice × String)) : Except UsageError Choices :=
  (lastValues chosen).foldlM (fun choices option => choices.choose option.1 option.2) ⟨.decimal, none⟩

def settings (world : World) (choices : Choices) : Except SettingsError Settings :=
  match choices.precision with
  | some precision => Settings.ofInteger precision
  | none => Settings.ofVariable world.precisionVariable

def evaluate (settings : Settings) (target : Target) (expression : String) (arguments : List String) : Outcome :=
  match ((Cache.ofCompiler .parsing).evaluate settings (.text expression) (arguments.map .text)).1 with
  | .ok number =>
      match number.coerce target with
      | .ok coerced => .line coerced.display
      | .error _ => .broken ""
  | .error failure => if failure.isExpected then .failure failure.message "" else .broken ""

def run (world : World) (words : List String) : Outcome :=
  match options.read words with
  | .error error => synopsis.misuse error
  | .ok words =>
      if words.options.any (·.1 == .help) then
        ⟨0, synopsis.usage, ""⟩
      else
        match choicesOf words.options, words.positional with
        | .error error, _ => synopsis.misuse error
        | .ok _, [] => synopsis.misuse (.missingArgument "EXPRESSION")
        | .ok choices, expression :: arguments =>
            match settings world choices with
            | .error error => synopsis.misuse (.invalidValue "precision" error.message)
            | .ok settings => evaluate settings choices.target expression arguments

end DecimalFormula.CommandLine.Evaluate
