import Mathlib
import DecimalFormula.CommandLine.Dispatch
import DecimalFormula.Proofs.CommandLine.Batch
import DecimalFormula.Proofs.Converter
import DecimalFormula.Proofs.Decimal.Scientific
import DecimalFormula.Proofs.Text.ControlSequence
import DecimalFormula.Proofs.Text.Integer

/-!
# Commands and converters agree

The command that evaluates, a batch of one case and a converter are three ways to have an
expression evaluated over texts. They come to the same value or to the same failure. The
commands write its message as plain text, the converter logs it as it is.
-/

set_option autoImplicit false

namespace DecimalFormula

theorem Decimal.Finite.plain_text (number : Finite) : Text.plain (finite number).text = (finite number).text := by
  apply Text.plain_of_not_mem
  intro member
  rw [text, String.toList_ofList] at member
  rcases number.spelled_scientific.mem member with digit | mark
  · exact absurd digit (by decide)
  · exact absurd mark (by decide)

theorem Settings.ofInteger_precision (settings : Settings) : ofInteger settings.precision = .ok settings := by
  simp [ofInteger, settings.precision_pos, settings.precision_le]

theorem Settings.readInteger?_precision (settings : Settings) :
    Text.readInteger? (Text.naturalText settings.precision) = some (settings.precision : Int) := by
  apply Text.readInteger?_naturalText
  calc settings.precision ≤ maxPrecision := settings.precision_le
    _ < 10 ^ 18 := by decide
    _ ≤ 10 ^ Text.maxIntegerDigits := Nat.pow_le_pow_right (by decide) (by decide)

namespace CommandLine

open Text

variable {world : World} {settings : Settings} {path name expression : String} {arguments : List String}

/-!
## The command that evaluates
-/

/-- The command line that evaluates an expression over texts under settings. -/
def evalWords (settings : Settings) (expression : String) (arguments : List String) : List String :=
  "eval" :: "-p" :: naturalText settings.precision :: "--" :: expression :: arguments

theorem run_eval (world : World) (words : List String) : run world ("eval" :: words) = Evaluate.run world words := by
  have leading : leadingOptions.read ("eval" :: words) = .ok ⟨[], "eval" :: words⟩ := by
    simp [Options.read, Options.readWord, leadingOptions, Options.helpOnly]
  simp [run, leading]

theorem read_precisionWords (precision expression : String) (arguments : List String) :
    Evaluate.options.read ("-p" :: precision :: "--" :: expression :: arguments) =
      .ok ⟨[(.precision, precision)], expression :: arguments⟩ := by
  have option : Evaluate.options.readWord "-p" = .ok (.options [] none (some ("-p", .precision))) := by decide
  have dashes : Evaluate.options.readWord "--" = .ok .endOfOptions := rfl
  simp [Options.read, option, dashes, Except.map]

theorem choicesOf_precision {precision : String} {number : Int} (read : readInteger? precision = some number) :
    Evaluate.choicesOf [(.precision, precision)] = .ok ⟨.decimal, some number⟩ := by
  have last : Evaluate.lastValues [(.precision, precision)] = [(.precision, precision)] := rfl
  simp only [Evaluate.choicesOf, last, List.foldlM_cons, List.foldlM_nil, Evaluate.Choices.choose, read]
  rfl

theorem run_evalWords (world : World) (settings : Settings) (expression : String) (arguments : List String) :
    run world (evalWords settings expression arguments) =
      match settings.evaluateAfresh expression (arguments.map .text) with
      | .ok number => .line number.text
      | .error failure => if failure.isExpected then .failure failure.message "" else .broken "" := by
  have read := choicesOf_precision settings.readInteger?_precision
  rw [evalWords, run_eval]
  simp only [Evaluate.run, read_precisionWords, read, Evaluate.settings, settings.ofInteger_precision]
  unfold Evaluate.evaluate
  simp only [Cache.parses_ofCompiler.evaluate_text]
  cases settings.evaluateAfresh expression (arguments.map .text) <;> rfl

/-!
## A batch of one case
-/

def caseDocument (settings : Settings) (name expression : String) (arguments : List String) : Document :=
  .holding (.mapping [("precision", .integer settings.precision),
    ("expressions", .list [Batch.namedCase name expression (arguments.map .text)])])

def caseSummary (expression : String) (failures : Nat) : String :=
  "\n1 expression(s) evaluated, " ++ naturalText failures ++ " failed, " ++
    naturalText (if (Expr.parse expression).isOk then 1 else 0) ++ " compiled.\n"

theorem closing_singleton (report : Batch.Report) :
    Batch.closing [report] = caseSummary report.source report.failed.toNat := by
  have failures : [report].countP (·.failed) = report.failed.toNat := by
    cases failed : report.failed <;> simp [failed]
  have compiled : (Cache.parseable [report.source]).toFinset.card =
      if (Expr.parse report.source).isOk then 1 else 0 := by
    cases parsed : (Expr.parse report.source).isOk <;> simp [Cache.parseable, parsed]
  have single : "\n" ++ naturalText 1 ++ " expression(s) evaluated, " = "\n1 expression(s) evaluated, " := by
    decide +kernel
  rw [Batch.closing, List.map_singleton, failures, compiled]
  exact congrArg (· ++ naturalText report.failed.toNat ++ " failed, " ++
    naturalText (if (Expr.parse report.source).isOk then 1 else 0) ++ " compiled.\n") single

theorem lists_caseDocument (settings : Settings) (path name expression : String) (arguments : List String) :
    Batch.Lists (caseDocument settings name expression arguments) path settings
      [Batch.namedCase name expression (arguments.map .text)] :=
  ⟨_, rfl, settings.ofInteger_precision, rfl⟩

theorem run_batchWords {document : Document} (noNull : '\x00' ∉ path.toList)
    (stored : world.entry? path = some (.document document)) :
    run world ["batch", "--", path] = Batch.evaluateDocument (Batch.normalizedPath path) document := by
  have leading : leadingOptions.read ["batch", "--", path] = .ok ⟨[], ["batch", "--", path]⟩ := by
    simp [Options.read, Options.readWord, leadingOptions, Options.helpOnly]
  have dashes : Options.helpOnly.readWord "--" = .ok .endOfOptions := rfl
  have own : Options.helpOnly.read ["--", path] = .ok ⟨[], [path]⟩ := by
    simp [Options.read, dashes]
  simp [run, leading, Batch.run, own, noNull, stored]

theorem run_batch_of_report {report : Batch.Report} (noNull : '\x00' ∉ path.toList)
    (stored : world.entry? path = some (.document (caseDocument settings name expression arguments)))
    (reported : Batch.Case.report? settings ⟨.text name, .text expression, arguments.map .text⟩ = some report) :
    run world ["batch", "--", path] =
      ⟨if report.failed then 1 else 0,
        writtenLine report.text ++ caseSummary report.source report.failed.toNat, ""⟩ := by
  have single : Batch.Reported settings 1 [Batch.namedCase name expression (arguments.map .text)] [report] :=
    .cons (Batch.Case.written_iff.mp rfl) reported .nil
  rw [run_batchWords noNull stored, (lists_caseDocument _ _ _ _ _).evaluateDocument_eq,
    Batch.evaluate_of_reported single, Batch.completed, closing_singleton]
  simp [Batch.lines, String.join]

/-!
## Three ways to one outcome
-/

/-- What a converter makes of an expression over texts if its receiver expects a text. -/
def conversion (settings : Settings) (expression : String) (arguments : List String) : Conversion :=
  ((Converter.ofSettings settings).convertMany (arguments.map .text) .text (.text expression)).1

theorem conversion_eq (settings : Settings) (expression : String) (arguments : List String) :
    conversion settings expression arguments =
      match settings.evaluateAfresh expression (arguments.map .text) with
      | .ok number => ⟨some (.text number.text), []⟩
      | .error failure => ⟨none, ["WARNING mathexpr.converter: MathConverter: " ++ failure.message]⟩ := by
  rw [conversion, ((Converter.holds_ofSettings settings).convertMany _ _ _).1]
  change Converter.reported ((settings.evaluateAfresh expression (arguments.map .text)).mapError .engine >>=
    fun number => (number.coerce .text).mapError .coercion) = _
  cases settings.evaluateAfresh expression (arguments.map .text) <;> rfl

theorem prints_of_value {number : Decimal.Finite} (noNull : '\x00' ∉ path.toList)
    (stored : world.entry? path = some (.document (caseDocument settings name expression arguments)))
    (evaluated : settings.evaluateAfresh expression (arguments.map .text) = .ok (.finite number)) :
    run world (evalWords settings expression arguments) = ⟨0, (Decimal.finite number).text ++ "\n", ""⟩ ∧
      run world ["batch", "--", path] =
        ⟨0, plain name ++ ": " ++ (Decimal.finite number).text ++ "\n" ++ caseSummary expression 0, ""⟩ ∧
      conversion settings expression arguments = ⟨some (.text (Decimal.finite number).text), []⟩ := by
  have reported : Batch.Case.report? settings ⟨.text name, .text expression, arguments.map .text⟩ =
      some ⟨expression, name ++ ": " ++ (Decimal.finite number).text, false⟩ := by
    simp [Batch.Case.report?, Value.display?, evaluated]
  refine ⟨?_, ?_, ?_⟩
  · simp only [run_evalWords, evaluated, Outcome.line, writtenLine, number.plain_text]
  · simp [run_batch_of_report noNull stored reported, writtenLine, plain_named, number.plain_text]
  · simp only [conversion_eq, evaluated]

theorem prints_of_failure {failure : EngineFailure} (noNull : '\x00' ∉ path.toList)
    (stored : world.entry? path = some (.document (caseDocument settings name expression arguments)))
    (evaluated : settings.evaluateAfresh expression (arguments.map .text) = .error failure)
    (expected : failure.isExpected = true) :
    run world (evalWords settings expression arguments) = ⟨1, "", "Error: " ++ plain failure.message ++ "\n"⟩ ∧
      run world ["batch", "--", path] =
        ⟨1, plain name ++ ": error: " ++ plain failure.message ++ "\n" ++ caseSummary expression 1, ""⟩ ∧
      conversion settings expression arguments =
        ⟨none, ["WARNING mathexpr.converter: MathConverter: " ++ failure.message]⟩ := by
  have reported : Batch.Case.report? settings ⟨.text name, .text expression, arguments.map .text⟩ =
      some ⟨expression, name ++ ": " ++ ("error: " ++ failure.message), true⟩ := by
    simp [Batch.Case.report?, Value.display?, evaluated, expected]
  have block : plain (name ++ ": " ++ ("error: " ++ failure.message)) =
      plain name ++ ": error: " ++ plain failure.message := by
    calc plain (name ++ ": " ++ ("error: " ++ failure.message))
        = plain name ++ ": " ++ ("error: " ++ plain failure.message) := by
          rw [plain_named, plain_append_of_not_mem (by decide)]
      _ = plain name ++ (": " ++ "error: ") ++ plain failure.message := by simp only [String.append_assoc]
  refine ⟨?_, ?_, ?_⟩
  · simp [run_evalWords, evaluated, expected, Outcome.failure, writtenLine, plain_append_of_not_mem]
  · simp [run_batch_of_report noNull stored reported, writtenLine, block]
  · simp only [conversion_eq, evaluated]

/-- The command that evaluates, a batch of one case and a converter agree: on the value, or
on the message of the failure. An expression without a reference of too many digits leads
to one or the other. -/
theorem evaluations_agree (short : ∀ count, ¬ Expr.HasLongIndex expression count) (noNull : '\x00' ∉ path.toList)
    (stored : world.entry? path = some (.document (caseDocument settings name expression arguments))) :
    (∀ text,
      (run world (evalWords settings expression arguments) = ⟨0, text ++ "\n", ""⟩ ↔
        run world ["batch", "--", path] =
          ⟨0, plain name ++ ": " ++ text ++ "\n" ++ caseSummary expression 0, ""⟩) ∧
      (run world (evalWords settings expression arguments) = ⟨0, text ++ "\n", ""⟩ ↔
        conversion settings expression arguments = ⟨some (.text text), []⟩)) ∧
    ((∃ text, run world (evalWords settings expression arguments) = ⟨0, text ++ "\n", ""⟩) ∨
      ∃ message,
        run world (evalWords settings expression arguments) = ⟨1, "", "Error: " ++ plain message ++ "\n"⟩ ∧
        run world ["batch", "--", path] =
          ⟨1, plain name ++ ": error: " ++ plain message ++ "\n" ++ caseSummary expression 1, ""⟩ ∧
        conversion settings expression arguments =
          ⟨none, ["WARNING mathexpr.converter: MathConverter: " ++ message]⟩) := by
  have suitable : ∀ value ∈ arguments.map Value.text, value.Bounded ∧ value.CanBeWritten := by
    intro value member
    obtain ⟨content, _, rfl⟩ := List.mem_map.mp member
    exact ⟨trivial, trivial⟩
  obtain ⟨number, evaluated⟩ | ⟨failure, evaluated, expected⟩ :=
    settings.evaluateAfresh_cases short (suits_of_forall suitable expression)
  · obtain ⟨printed, reported, converted⟩ := prints_of_value noNull stored evaluated
    refine ⟨?_, .inl ⟨_, printed⟩⟩
    intro text
    rw [printed, reported, converted]
    constructor <;> simp
  · obtain ⟨printed, reported, converted⟩ := prints_of_failure noNull stored evaluated expected
    refine ⟨?_, .inr ⟨failure.message, printed, reported, converted⟩⟩
    intro text
    rw [printed, reported, converted]
    constructor <;> simp

def worldOf (document : Document) : World :=
  ⟨none, fun _ => some (.document document)⟩

def fiveDigits : Settings :=
  ⟨5, by decide, by decide⟩

theorem evaluations_agree_thirds :
    run (worldOf (caseDocument fiveDigits "thirds" "x / 3" ["2"])) ["batch", "--", "batch.yaml"] =
        ⟨0, "thirds: 0.66667\n\n1 expression(s) evaluated, 0 failed, 1 compiled.\n", ""⟩ ∧
      conversion fiveDigits "x / 3" ["2"] = ⟨some (.text "0.66667"), []⟩ := by
  have printed : run (worldOf (caseDocument fiveDigits "thirds" "x / 3" ["2"])) (evalWords fiveDigits "x / 3" ["2"]) =
      ⟨0, "0.66667" ++ "\n", ""⟩ := by
    decide +kernel
  have stored : World.entry? (worldOf (caseDocument fiveDigits "thirds" "x / 3" ["2"])) "batch.yaml" =
      some (.document (caseDocument fiveDigits "thirds" "x / 3" ["2"])) := rfl
  obtain ⟨batch, converter⟩ :=
    (evaluations_agree (Expr.not_hasLongIndex_of_not_mem (by decide)) (by decide) stored).1 "0.66667"
  refine ⟨(batch.mp printed).trans (by decide +kernel), converter.mp printed⟩

/-- A control sequence in an expression is in the message that a converter logs and not in
the one that the command writes. -/
theorem messages_differ_at_controlSequence :
    (run (worldOf .malformed) (evalWords fiveDigits "\x1b[m" [])).exitCode = 1 ∧
      ¬ ∃ message,
        (run (worldOf .malformed) (evalWords fiveDigits "\x1b[m" [])).errorOutput = "Error: " ++ message ++ "\n" ∧
        conversion fiveDigits "\x1b[m" [] = ⟨none, ["WARNING mathexpr.converter: MathConverter: " ++ message]⟩ := by
  refine ⟨by decide +kernel, ?_⟩
  rintro ⟨message, printed, logged⟩
  have warned : conversion fiveDigits "\x1b[m" [] = ⟨none, ["WARNING mathexpr.converter: MathConverter: " ++
      "error parsing expression '\x1b[m'. Unexpected character '\x1b' at position 0"]⟩ := by
    decide +kernel
  have warnings := congrArg Conversion.warnings (warned.symm.trans logged)
  have same : "error parsing expression '\x1b[m'. Unexpected character '\x1b' at position 0" = message :=
    (String.append_right_inj _).mp (List.cons.inj warnings).1
  subst same
  exact absurd printed (by decide +kernel)

end CommandLine

end DecimalFormula
