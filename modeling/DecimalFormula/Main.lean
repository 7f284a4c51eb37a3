import DecimalFormula.CommandLine.Dispatch

/-!
# The program

It reads the environment variable and the file that the command line names, leaves
everything else to the commands, and prints what they leave behind.
-/

set_option autoImplicit false

open DecimalFormula CommandLine

def readEntry (path : String) : IO (Option FileEntry) := do
  try
    let text ← IO.FS.readFile path
    return some (.document (Document.ofText text))
  catch
    | .inappropriateType .. => return some .directory
    | _ => return none

def main (words : List String) : IO UInt32 := do
  let precisionVariable ← IO.getEnv Settings.variableName
  let entries ← (path? words).toList.mapM fun path => do return (path, ← readEntry path)
  let world : World := ⟨precisionVariable, fun path => (entries.lookup path).join⟩
  let outcome := run world words
  IO.print outcome.output
  IO.eprint outcome.errorOutput
  return UInt32.ofNat outcome.exitCode
