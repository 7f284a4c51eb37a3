import DecimalFormula.CommandLine.Suggestion

/-!
# Options

The words of a command line are options, with or without a value, and positional
arguments. A long option has its value after an equals sign or in the next word. A
word with one leading dash is a group of letters, each a short option; a letter that
takes a value takes the rest of the word, or else the next word. After a word of two
dashes all words are positional. A command may let unknown options pass as
positional arguments, and may end its options at the first positional argument.
-/

set_option autoImplicit false

namespace DecimalFormula.CommandLine

inductive Choice where
  | help
  | target
  | precision
  deriving DecidableEq, Repr

inductive UsageError where
  | noSuchOption (name : String) (suggestions : List String)
  | missingValue (name : String)
  | unwantedValue (name : String)
  | missingArgument (name : String)
  | missingCommand
  | noSuchCommand (quotation : String)
  | extraArguments (words : List String)
  | invalidValue (name message : String)
  deriving DecidableEq, Repr

def UsageError.message : UsageError → String
  | .noSuchOption name [] => "No such option: " ++ name
  | .noSuchOption name [suggestion] => "No such option: " ++ name ++ " Did you mean " ++ suggestion ++ "?"
  | .noSuchOption name suggestions =>
      "No such option: " ++ name ++ " (Possible options: " ++ String.intercalate ", " suggestions ++ ")"
  | .missingValue name => "Option '" ++ name ++ "' requires an argument."
  | .unwantedValue name => "Option '" ++ name ++ "' does not take a value."
  | .missingArgument name => "Missing argument '" ++ name ++ "'."
  | .missingCommand => "Missing command."
  | .noSuchCommand quotation => "No such command " ++ quotation ++ "."
  | .extraArguments [word] => "Got unexpected extra argument (" ++ word ++ ")"
  | .extraArguments words => "Got unexpected extra arguments (" ++ String.intercalate " " words ++ ")"
  | .invalidValue name message => "Invalid value for " ++ name ++ ": " ++ message

/-- Whether an option lacks its value or has one that it does not take. Such an error is
reported alone, any other with a reminder of how the command is used. -/
def UsageError.isAboutOptionValue : UsageError → Bool
  | .missingValue _ | .unwantedValue _ => true
  | _ => false

structure Options where
  /-- Long options by their names, and whether they take a value. -/
  long : List (String × Choice × Bool)
  /-- Short options by their letters; all of them take a value. -/
  short : List (Char × Choice)
  /-- Unknown options pass as positional arguments. -/
  passesUnknown : Bool
  /-- Options may follow positional arguments. -/
  mixesPositional : Bool

/-- The words of a command line, told apart: the options with their values, in their
order, and the positional arguments. -/
structure Words where
  options : List (Choice × String)
  positional : List String
  deriving DecidableEq, Repr

inductive Word where
  | positional
  | endOfOptions
  /-- Options with their values, letters or a word that pass as a positional argument,
  and an option whose value is the next word, by its name. -/
  | options (chosen : List (Choice × String)) (passed : Option String) (pending : Option (String × Choice))
  deriving DecidableEq, Repr

namespace Options

/-- The options of a command that has none but the one for help. -/
def helpOnly : Options where
  long := [("--help", .help, false)]
  short := []
  passesUnknown := false
  mixesPositional := true

/-- A word before and after its first equals sign. -/
def splitValue (word : List Char) : List Char × Option (List Char) :=
  match word.dropWhile (· ≠ '=') with
  | [] => (word, none)
  | _ :: value => (word.takeWhile (· ≠ '='), some value)

/-- Reads the letters of a group of short options, some of which were unknown. -/
def readGroup (options : Options) (unknown : List Char) : List Char → Except UsageError Word
  | [] => .ok (.options [] (passedLetters unknown) none)
  | letter :: rest =>
      match options.short.lookup letter with
      | some choice =>
          if rest.isEmpty then
            .ok (.options [] (passedLetters unknown) (some (String.ofList ['-', letter], choice)))
          else
            .ok (.options [(choice, String.ofList rest)] (passedLetters unknown) none)
      | none =>
          if options.passesUnknown then options.readGroup (unknown ++ [letter]) rest
          else .error (.noSuchOption (String.ofList ['-', letter]) [])
where
  /-- The unknown letters of a group as a word of their own. -/
  passedLetters (unknown : List Char) : Option String :=
    if unknown.isEmpty then none else some (String.ofList ('-' :: unknown))

def readWord (options : Options) (word : String) : Except UsageError Word :=
  match word.toList with
  | ['-', '-'] => .ok .endOfOptions
  | '-' :: second :: others =>
      let (name, value) := splitValue ('-' :: second :: others)
      let name := String.ofList name
      match options.long.lookup name, value with
      | some (choice, true), some value => .ok (.options [(choice, String.ofList value)] none none)
      | some (choice, true), none => .ok (.options [] none (some (name, choice)))
      | some (_, false), some _ => .error (.unwantedValue name)
      | some (choice, false), none => .ok (.options [(choice, "")] none none)
      | none, _ =>
          if second = '-' then
            if options.passesUnknown then .ok (.options [] (some word) none)
            else .error (.noSuchOption name ((options.long.map (·.1)).filter (isClose · name)))
          else
            options.readGroup [] (second :: others)
  | _ => .ok .positional

def read (options : Options) : List String → Except UsageError Words
  | [] => .ok ⟨[], []⟩
  | word :: rest =>
      match options.readWord word with
      | .error error => .error error
      | .ok .endOfOptions => .ok ⟨[], rest⟩
      | .ok .positional =>
          if options.mixesPositional then
            (options.read rest).map fun words => ⟨words.options, word :: words.positional⟩
          else
            .ok ⟨[], word :: rest⟩
      | .ok (.options chosen passed none) =>
          (options.read rest).map fun words => ⟨chosen ++ words.options, passed.toList ++ words.positional⟩
      | .ok (.options chosen passed (some (name, choice))) =>
          match rest with
          | [] => .error (.missingValue name)
          | value :: rest =>
              (options.read rest).map fun words =>
                ⟨chosen ++ (choice, value) :: words.options, passed.toList ++ words.positional⟩

end Options

end DecimalFormula.CommandLine
