import DecimalFormula.Decimal.Context
import DecimalFormula.Evaluation.Failure
import DecimalFormula.Value.Display

/-!
# Settings

The one setting is the precision: how many digits a result of arithmetic keeps. It
may come from a value, from an entry of a mapping or from the text of an environment
variable; wherever it comes from, it is an integer from one to a fixed maximum.
-/

set_option autoImplicit false

namespace DecimalFormula

def maxPrecision : Nat := 999999999999999999

/-- Settings that evaluation can be run with. -/
structure Settings where
  precision : Nat
  precision_pos : 0 < precision
  precision_le : precision ≤ maxPrecision
  deriving DecidableEq, Repr

inductive SettingsError where
  /-- A value that is not an integer; its quotation. -/
  | notAnInteger (quotation : String)
  | notPositive (precision : String)
  | tooLarge (precision : String)
  /-- The text of a variable that spells no integer; its quotation. -/
  | notANumeral (variableName quotation : String)
  /-- A message would show an integer beyond the limit on digits. -/
  | integerTooLong
  deriving DecidableEq, Repr

def SettingsError.message : SettingsError → String
  | .notAnInteger quotation => "precision must be an integer, got " ++ quotation
  | .notPositive precision => "precision must be positive, got " ++ precision
  | .tooLarge precision =>
      "precision must be at most " ++ Text.naturalText maxPrecision ++ ", got " ++ precision
  | .notANumeral variableName quotation => variableName ++ " must be an integer, got " ++ quotation
  | .integerTooLong => integerTooLongMessage

namespace Settings

/-- The settings where none are chosen: the precision of the standard context. -/
def standard : Settings where
  precision := Decimal.Context.standard.precision
  precision_pos := Decimal.Context.standard.precision_pos
  precision_le := by decide

def variableName : String := "MATHEXPR_PRECISION"

def context (settings : Settings) : Decimal.Context :=
  { Decimal.Context.standard with
    precision := settings.precision
    precision_pos := settings.precision_pos }

def complaint (shown : Option String) (error : String → SettingsError) : SettingsError :=
  match shown with
  | some text => error text
  | none => .integerTooLong

def ofInteger (precision : Int) : Except SettingsError Settings :=
  if positive : 0 < precision.toNat then
    if bounded : precision.toNat ≤ maxPrecision then
      .ok ⟨precision.toNat, positive, bounded⟩
    else
      .error (complaint (Text.boundedIntegerText? precision) .tooLarge)
  else
    .error (complaint (Text.boundedIntegerText? precision) .notPositive)

def ofValue : Value → Except SettingsError Settings
  | .integer precision => ofInteger precision
  | value => .error (complaint value.quotation? .notAnInteger)

/-- Settings from the entries of a mapping, of which others than the precision are
ignored. -/
def ofEntries (entries : List (String × Value)) : Except SettingsError Settings :=
  match Value.lookup? "precision" entries with
  | some value => ofValue value
  | none => .ok standard

/-- Settings from the text of the environment variable. Unset or empty, it chooses
nothing. -/
def ofVariable : Option String → Except SettingsError Settings
  | none => .ok standard
  | some text =>
      if text.isEmpty then .ok standard
      else
        match Text.readInteger? text with
        | some precision => ofInteger precision
        | none => .error (.notANumeral variableName (Text.quoted text))

end Settings

end DecimalFormula
