import DecimalFormula.CommandLine.Outcome
import DecimalFormula.Expr.Parser
import DecimalFormula.Expr.Printer

/-!
# The command that checks

It prints an expression with all its parentheses, if the text is an expression.
-/

set_option autoImplicit false

namespace DecimalFormula.CommandLine.Check

def synopsis : Synopsis :=
  ⟨"mathexpr check", "[OPTIONS] EXPRESSION"⟩

def check (source : String) : Outcome :=
  match Expr.parse source with
  | .error (.malformed error) => .failure error.message ""
  | .error (.indexTooLong _) => .broken ""
  | .ok expr =>
      match expr.print with
      | .ok text => .line text
      | .error _ => .broken ""

def run (words : List String) : Outcome :=
  match Options.helpOnly.read words with
  | .error error => synopsis.misuse error
  | .ok words =>
      if words.options.any (·.1 == .help) then
        ⟨0, synopsis.usage, ""⟩
      else
        match words.positional with
        | [] => synopsis.misuse (.missingArgument "EXPRESSION")
        | [source] => check source
        | _ :: extra => synopsis.misuse (.extraArguments extra)

end DecimalFormula.CommandLine.Check
