import Mathlib
import DecimalFormula.Converter
import DecimalFormula.Proofs.Engine.Account

/-!
# Converters let no failure out and no history in

A converter answers each request as one that has just been made. A conversion gives the
coerced value of its parameter, evaluated afresh, or nothing and one warning with the
message of what failed, at whichever stage that was. What earlier requests leave behind
are the trees of their parameters, also of those that could not be evaluated or coerced.
-/

set_option autoImplicit false

namespace DecimalFormula.Converter

/-- What a conversion comes to when its parameter is parsed and evaluated afresh. -/
def convertedAfresh (settings : Settings) (values : List Value) (target : Target) (parameter : Value) :
    Except ConversionFailure Coerced := do
  let source ← sourceText parameter
  let number ← (settings.evaluateAfresh source values).mapError .engine
  (number.coerce target).mapError .coercion

/-- A result without a warning, or no result and one warning with the message of the
failure. -/
def reported : Except ConversionFailure Coerced → Conversion
  | .ok coerced => ⟨some coerced, []⟩
  | .error failure => ⟨none, ["WARNING mathexpr.converter: MathConverter: " ++ failure.message]⟩

namespace Request

def answeredAfresh (settings : Settings) : Request → Answer
  | .convert value target parameter => .converted (reported (convertedAfresh settings [value] target parameter))
  | .convertMany values target parameter => .converted (reported (convertedAfresh settings values target parameter))
  | .convertBack => .cannotConvertBack

/-- The source text that a request needs the tree of. -/
def source? : Request → Option String
  | .convert _ _ parameter | .convertMany _ _ parameter => (sourceText parameter).toOption
  | .convertBack => none

end Request

/-!
## One request
-/

variable {converter : Converter} {sources : List String}

/-- A converter whose cache holds the expressions among the texts that it met, the latest
first. -/
structure Holds (sources : List String) (converter : Converter) : Prop where
  parses : converter.cache.Parses
  accounts : converter.cache.store.Accounts (Cache.parseable sources)

theorem holds_ofSettings (settings : Settings) : (ofSettings settings).Holds [] :=
  ⟨Cache.parses_ofCompiler, Store.accounts_empty⟩

theorem attempt_of_sourceText {parameter : Value} {source : String} (written : sourceText parameter = .ok source)
    (converter : Converter) (values : List Value) (target : Target) :
    converter.attempt values target parameter =
      ((converter.cache.evaluate converter.settings (.text source) values).1.mapError .engine >>=
          fun number => (number.coerce target).mapError .coercion,
        (converter.cache.evaluate converter.settings (.text source) values).2) := by
  simp only [attempt, written]
  rcases converter.cache.evaluate converter.settings (.text source) values with ⟨_ | _, _⟩ <;> rfl

theorem convertMany_eq (converter : Converter) (values : List Value) (target : Target) (parameter : Value) :
    converter.convertMany values target parameter =
      (reported (converter.attempt values target parameter).1,
        { converter with cache := (converter.attempt values target parameter).2 }) := by
  rw [Converter.convertMany]
  rcases converter.attempt values target parameter with ⟨_ | _, _⟩ <;> rfl

theorem Holds.convertMany (holds : converter.Holds sources) (values : List Value) (target : Target)
    (parameter : Value) :
    (converter.convertMany values target parameter).1 =
        reported (convertedAfresh converter.settings values target parameter) ∧
      (converter.convertMany values target parameter).2.settings = converter.settings ∧
      (converter.convertMany values target parameter).2.Holds ((sourceText parameter).toOption.toList ++ sources) := by
  rw [convertMany_eq, convertedAfresh]
  cases written : sourceText parameter with
  | error failure =>
      rw [attempt, written]
      exact ⟨rfl, rfl, holds⟩
  | ok source =>
      rw [attempt_of_sourceText written, holds.parses.evaluate_text]
      exact ⟨rfl, rfl, holds.parses.evaluate _ _ _, holds.parses.accounts_evaluate holds.accounts _ _ _⟩

theorem Holds.answer (holds : converter.Holds sources) (request : Request) :
    (converter.answer request).1 = request.answeredAfresh converter.settings ∧
      (converter.answer request).2.settings = converter.settings ∧
      (converter.answer request).2.Holds (request.source?.toList ++ sources) := by
  cases request with
  | convert value target parameter =>
      obtain ⟨converted, same, after⟩ := holds.convertMany [value] target parameter
      exact ⟨congrArg Answer.converted converted, same, after⟩
  | convertMany values target parameter =>
      obtain ⟨converted, same, after⟩ := holds.convertMany values target parameter
      exact ⟨congrArg Answer.converted converted, same, after⟩
  | convertBack => exact ⟨rfl, rfl, holds⟩

/-!
## Runs of requests
-/

theorem Holds.run (holds : converter.Holds sources) (requests : List Request) :
    (converter.run requests).1 = requests.map (·.answeredAfresh converter.settings) ∧
      (converter.run requests).2.settings = converter.settings ∧
      (converter.run requests).2.Holds ((requests.filterMap (·.source?)).reverse ++ sources) := by
  induction requests generalizing converter sources with
  | nil => exact ⟨rfl, rfl, holds⟩
  | cons request requests ih =>
      obtain ⟨answered, same, after⟩ := holds.answer request
      obtain ⟨answers, settings, final⟩ := ih after
      rw [same] at answers settings
      refine ⟨?_, settings, ?_⟩
      · simp only [Converter.run, answers, answered, List.map_cons]
      · rw [← List.append_assoc] at final
        simp only [Converter.run, List.filterMap_cons]
        cases source : request.source? with
        | none => simpa [source] using final
        | some source => simpa [source] using final

/-- Whatever a converter was asked, it answers as if it had just been made, and its cache
holds the parameters it met that are expressions. Converting one value is converting it
as the only one, and to be asked to convert back changes nothing. -/
theorem run_answers_afresh (settings : Settings) (requests : List Request) :
    ((ofSettings settings).run requests).1 = requests.map (·.answeredAfresh settings) ∧
      (∀ source, ((ofSettings settings).run requests).2.cache.store.contains source = true ↔
        source ∈ requests.filterMap (·.source?) ∧ ∃ expr, Expr.parse source = .ok expr) ∧
      (∀ value target parameter, ((ofSettings settings).run requests).2.convert value target parameter =
        ((ofSettings settings).run requests).2.convertMany [value] target parameter) ∧
      ((ofSettings settings).run requests).2.answer .convertBack =
        (.cannotConvertBack, ((ofSettings settings).run requests).2) := by
  obtain ⟨answers, _, final⟩ := (holds_ofSettings settings).run requests
  refine ⟨answers, ?_, fun _ _ _ => rfl, rfl⟩
  intro source
  rw [Store.contains_iff, final.accounts.held, Cache.mem_parseable, List.append_nil, List.mem_reverse]

end DecimalFormula.Converter
