import DecimalFormula.CommandLine.Outcome
import DecimalFormula.Engine

/-!
# The command that evaluates a batch

It evaluates the cases that a document lists, under the precision of the document,
and prints one block for each: its name and the result or the error. A summary
follows. All cases share one cache. An entry that is no case ends the batch.
-/

set_option autoImplicit false

namespace DecimalFormula.CommandLine.Batch

def synopsis : Synopsis :=
  ⟨"mathexpr batch", "[OPTIONS] PATH"⟩

structure Case where
  name : Value
  expression : Value
  arguments : List Value

/-- The arguments that an entry gives: none, those of a list, or a single one. -/
def argumentsOf : Option Value → List Value
  | none => []
  | some .nothing => []
  | some (.list items) => items
  | some value => [value]

/-- The case that the entry of a number writes, if it is one. A case without a name
is named by its number. -/
def Case.ofEntry? (number : Nat) : Value → Option Case
  | .mapping entries => do
      let expression ← Value.lookup? "expression" entries
      some {
        name := (Value.lookup? "name" entries).getD (.text ("#" ++ Text.naturalText number))
        expression := expression
        arguments := argumentsOf (Value.lookup? "args" entries) }
  | _ => none

/-- How far a batch has come: what it printed, how many cases failed, and its cache. -/
structure Progress where
  output : String
  failures : Nat
  cache : Cache

inductive Interruption where
  /-- An entry is no case. -/
  | noCase (output : String)
  /-- A case failed in a way that is not reported. -/
  | unreported (output : String)

def Progress.step (settings : Settings) (progress : Progress) (item : Case) : Except Interruption Progress :=
  match item.expression.display? with
  | none => .error (.unreported progress.output)
  | some source =>
      let (result, cache) := progress.cache.evaluate settings (.text source) item.arguments
      let block : Option (String × Nat) :=
        match result with
        | .ok number => some (number.text, 0)
        | .error failure => if failure.isExpected then some ("error: " ++ failure.message, 1) else none
      match block, item.name.display? with
      | some (text, failed), some name =>
          .ok ⟨progress.output ++ writtenLine (name ++ ": " ++ text), progress.failures + failed, cache⟩
      | _, _ => .error (.unreported progress.output)

def evaluateFrom (settings : Settings) : Nat → List Value → Progress → Except (Nat × Interruption) Progress
  | _, [], progress => .ok progress
  | number, entry :: entries, progress =>
      match Case.ofEntry? number entry with
      | none => .error (number, .noCase progress.output)
      | some item =>
          match progress.step settings item with
          | .error interruption => .error (number, interruption)
          | .ok progress => evaluateFrom settings (number + 1) entries progress

def summary (cases : Nat) (progress : Progress) : String :=
  "\n" ++ Text.naturalText cases ++ " expression(s) evaluated, " ++ Text.naturalText progress.failures ++
    " failed, " ++ Text.naturalText progress.cache.store.size ++ " compiled.\n"

def evaluate (settings : Settings) (path : String) (entries : List Value) : Outcome :=
  match evaluateFrom settings 1 entries ⟨"", 0, .ofCompiler .parsing⟩ with
  | .ok progress =>
      ⟨if progress.failures = 0 then 0 else 1, progress.output ++ summary entries.length progress, ""⟩
  | .error (number, .noCase output) =>
      .failure (path ++ ": entry " ++ Text.naturalText number ++
        " must be a mapping with an 'expression' key") output
  | .error (_, .unreported output) => .broken output

/-- Evaluates the document at a path. A document whose list of expressions is absent or
counts as nothing has no cases. -/
def evaluateDocument (path : String) (document : Document) : Outcome :=
  match document.entries path with
  | .error error => .failure error.message ""
  | .ok entries =>
      match Settings.ofEntries entries with
      | .error error => .failure error.message ""
      | .ok settings =>
          match (Value.lookup? "expressions" entries).getD .nothing with
          | .list cases => evaluate settings path cases
          | value =>
              if value.isSomething then .failure (path ++ ": 'expressions' must be a list") ""
              else evaluate settings path []

/-- A path without empty steps and steps that stay in place. -/
def normalizedPath (path : String) : String :=
  let steps := (path.splitOn "/").filter fun step => step ≠ "" && step ≠ "."
  let root := if path.startsWith "/" then "/" else ""
  if steps.isEmpty && root.isEmpty then "." else root ++ String.intercalate "/" steps

/-- Runs the command on its words. A path with a null character cannot be looked up. -/
def run (world : World) (words : List String) : Outcome :=
  match Options.helpOnly.read words with
  | .error error => synopsis.misuse error
  | .ok words =>
      if words.options.any (·.1 == .help) then
        ⟨0, synopsis.usage, ""⟩
      else
        match words.positional with
        | [] => synopsis.misuse (.missingArgument "PATH")
        | path :: extra =>
            if path.toList.contains '\x00' then .broken ""
            else
              match world.entry? path with
              | none =>
                  synopsis.misuse (.invalidValue "'PATH'" ("File " ++ Text.quoted path ++ " does not exist."))
              | some .directory =>
                  synopsis.misuse (.invalidValue "'PATH'" ("File " ++ Text.quoted path ++ " is a directory."))
              | some (.document document) =>
                  if extra.isEmpty then evaluateDocument (normalizedPath path) document
                  else synopsis.misuse (.extraArguments extra)

end DecimalFormula.CommandLine.Batch
