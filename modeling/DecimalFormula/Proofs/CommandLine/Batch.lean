import Mathlib
import DecimalFormula.CommandLine.Batch
import DecimalFormula.Proofs.Engine.Account
import DecimalFormula.Proofs.Engine.Expected

/-!
# Batches report each case as if it were alone

The report on a case depends on the case only: its text is parsed and evaluated afresh.
A batch writes the reports on its cases in their order and sums them up, up to the first
entry that is no case or that cannot be reported. The order of cases changes no report,
and neither the summary nor the exit code.
-/

set_option autoImplicit false

namespace DecimalFormula.CommandLine.Batch

/-!
## What an entry writes
-/

namespace Case

inductive Named (number : Nat) (fields : List (String × Value)) : Value → Prop where
  | given {name : Value} : Value.lookup? "name" fields = some name → Named number fields name
  | numbered : Value.lookup? "name" fields = none → Named number fields (.text ("#" ++ Text.naturalText number))

inductive Supplied (fields : List (String × Value)) : List Value → Prop where
  | absent : Value.lookup? "args" fields = none → Supplied fields []
  | nothing : Value.lookup? "args" fields = some .nothing → Supplied fields []
  | listed {items : List Value} : Value.lookup? "args" fields = some (.list items) → Supplied fields items
  | single {value : Value} : Value.lookup? "args" fields = some value → value ≠ .nothing →
      (∀ items, value ≠ .list items) → Supplied fields [value]

/-- The case that the entry of a number writes. -/
inductive Written (number : Nat) : Value → Case → Prop where
  | mapping {fields : List (String × Value)} {name expression : Value} {arguments : List Value} :
      Value.lookup? "expression" fields = some expression → Named number fields name → Supplied fields arguments →
      Written number (.mapping fields) ⟨name, expression, arguments⟩

variable {number : Nat} {fields : List (String × Value)}

theorem named_iff {name : Value} :
    (Value.lookup? "name" fields).getD (.text ("#" ++ Text.naturalText number)) = name ↔
      Named number fields name := by
  constructor
  · rintro rfl
    cases given : Value.lookup? "name" fields with
    | none => exact .numbered given
    | some name => exact .given given
  · rintro (given | missing)
    · rw [given, Option.getD_some]
    · rw [missing, Option.getD_none]

theorem supplied_iff {arguments : List Value} :
    argumentsOf (Value.lookup? "args" fields) = arguments ↔ Supplied fields arguments := by
  constructor
  · rintro rfl
    unfold argumentsOf
    split
    · next missing => exact .absent missing
    · next given => exact .nothing given
    · next items given => exact .listed given
    · next value something noList given => exact .single given something noList
  · rintro (missing | given | given | ⟨given, something, noList⟩)
    · rw [missing, argumentsOf]
    · rw [given, argumentsOf]
    · rw [given, argumentsOf]
    · rw [given, argumentsOf]
      · exact something
      · exact noList

theorem written_iff {entry : Value} {item : Case} :
    ofEntry? number entry = some item ↔ Written number entry item := by
  constructor
  · intro found
    unfold ofEntry? at found
    split at found
    · next fields =>
        cases expressed : Value.lookup? "expression" fields with
        | none =>
            rw [expressed] at found
            cases found
        | some expression =>
            rw [expressed] at found
            cases found
            exact .mapping expressed (named_iff.mp rfl) (supplied_iff.mp rfl)
    · cases found
  · rintro ⟨found, named, supplied⟩
    simp [Case.ofEntry?, found, named_iff.mpr named, supplied_iff.mpr supplied]

end Case

/-!
## Reports
-/

/-- What a case adds to a batch: its source text, a line, and whether it failed. -/
structure Report where
  source : String
  text : String
  failed : Bool
  deriving DecidableEq, Repr

/-- The report on a case that is evaluated alone: its name, and its value or its error. -/
def Case.report? (settings : Settings) (item : Case) : Option Report := do
  let source ← item.expression.display?
  let name ← item.name.display?
  match settings.evaluateAfresh source item.arguments with
  | .ok number => some ⟨source, name ++ ": " ++ number.text, false⟩
  | .error failure =>
      if failure.isExpected then some ⟨source, name ++ ": " ++ ("error: " ++ failure.message), true⟩
      else none

/-- The reports on entries that are cases, the first of which has the given number. -/
inductive Reported (settings : Settings) : Nat → List Value → List Report → Prop where
  | nil {number : Nat} : Reported settings number [] []
  | cons {number : Nat} {entry : Value} {entries : List Value} {item : Case} {report : Report}
      {reports : List Report} :
      Case.Written number entry item → item.report? settings = some report →
      Reported settings (number + 1) entries reports →
      Reported settings number (entry :: entries) (report :: reports)

def lines (reports : List Report) : String :=
  String.join (reports.map fun report => writtenLine report.text)

/-- The summary of all reports: how many there are, how many failed, and how many different
texts are expressions. -/
def closing (reports : List Report) : String :=
  "\n" ++ Text.naturalText reports.length ++ " expression(s) evaluated, " ++
    Text.naturalText (reports.countP (·.failed)) ++ " failed, " ++
    Text.naturalText (Cache.parseable (reports.map (·.source))).toFinset.card ++ " compiled.\n"

def completed (reports : List Report) : Outcome :=
  ⟨if reports.any (·.failed) then 1 else 0, lines reports ++ closing reports, ""⟩

theorem lines_concat (reports : List Report) (report : Report) :
    lines (reports ++ [report]) = lines reports ++ writtenLine report.text := by
  simp [lines, String.join, List.foldl_append]

theorem closing_of_perm {reports others : List Report} (same : reports.Perm others) :
    closing reports = closing others := by
  have expressions : (Cache.parseable (reports.map (·.source))).Perm (Cache.parseable (others.map (·.source))) :=
    (same.map _).filter _
  rw [closing, closing, same.length_eq, same.countP_eq, List.toFinset_eq_of_perm _ _ expressions]

theorem completed_of_perm {reports others : List Report} (same : reports.Perm others) :
    completed others = ⟨(completed reports).exitCode, lines others ++ closing reports, ""⟩ := by
  rw [completed, completed, closing_of_perm same, same.any_eq]

/-!
## One case after others
-/

/-- A batch that has come as far as these reports. -/
structure Progress.Tells (reports : List Report) (progress : Progress) : Prop where
  output : progress.output = lines reports
  failures : progress.failures = reports.countP (·.failed)
  parses : progress.cache.Parses
  accounts : progress.cache.store.Accounts (Cache.parseable (reports.map (·.source)).reverse)

theorem Progress.tells_start : Progress.Tells [] ⟨"", 0, .ofCompiler .parsing⟩ where
  output := rfl
  failures := rfl
  parses := Cache.parses_ofCompiler
  accounts := Store.accounts_empty

namespace Progress

variable {settings : Settings} {progress : Progress} {reports : List Report} {item : Case}

/-- A batch adds the report on a case that is evaluated alone, or breaks off. -/
theorem step_eq (parses : progress.cache.Parses) (settings : Settings) (item : Case) :
    progress.step settings item =
      match item.report? settings with
      | some report =>
          .ok ⟨progress.output ++ writtenLine report.text, progress.failures + report.failed.toNat,
            (progress.cache.evaluate settings (.text report.source) item.arguments).2⟩
      | none => .error (.unreported progress.output) := by
  simp only [step, Case.report?, Option.bind_eq_bind]
  cases item.expression.display? with
  | none => rfl
  | some source =>
      simp only [parses.evaluate_text, Option.bind_some]
      cases settings.evaluateAfresh source item.arguments with
      | ok number => cases item.name.display? <;> simp
      | error failure =>
          cases item.name.display? with
          | none => cases failure.isExpected <;> simp
          | some name => cases expected : failure.isExpected <;> simp [expected]

theorem Tells.step (tells : progress.Tells reports) {report : Report}
    (reported : item.report? settings = some report) :
    ∃ next, progress.step settings item = .ok next ∧ next.Tells (reports ++ [report]) := by
  refine ⟨_, by rw [step_eq tells.parses, reported], ?_, ?_, tells.parses.evaluate _ _ _, ?_⟩
  · rw [lines_concat, tells.output]
  · rw [List.countP_append, tells.failures]
    cases failed : report.failed <;> simp [failed]
  · simpa using tells.parses.accounts_evaluate tells.accounts settings report.source item.arguments

end Progress

/-!
## All cases

A batch ends with the summary after the last entry, with an error at the first that is no
case, and without a word at a case that cannot be reported.
-/

variable {settings : Settings} {progress : Progress} {earlier reports : List Report} {before : List Value}
  {number : Nat}

/-- The entries that are reported are left behind, and their reports told. -/
theorem evaluateFrom_append (reported : Reported settings number before reports) (tells : progress.Tells earlier)
    (after : List Value) :
    ∃ next, evaluateFrom settings number (before ++ after) progress =
        evaluateFrom settings (before.length + number) after next ∧ next.Tells (earlier ++ reports) := by
  induction reported generalizing progress earlier with
  | nil =>
      rw [List.append_nil]
      exact ⟨progress, by rw [List.nil_append, List.length_nil, Nat.zero_add], tells⟩
  | @cons number entry entries item report reports found single _ ih =>
      obtain ⟨next, stepped, told⟩ := tells.step single
      obtain ⟨final, ran, finalTold⟩ := ih told
      refine ⟨final, ?_, ?_⟩
      · rw [List.cons_append, evaluateFrom, Case.written_iff.mpr found]
        simp only [stepped, ran, List.length_cons]
        congr 1
        omega
      · rwa [List.append_assoc] at finalTold

theorem Reported.length_eq (reported : Reported settings number before reports) : reports.length = before.length := by
  induction reported with
  | nil => rfl
  | cons _ _ _ ih => rw [List.length_cons, List.length_cons, ih]

theorem evaluate_of_reported {entries : List Value} (reported : Reported settings 1 entries reports) (path : String) :
    evaluate settings path entries = completed reports := by
  obtain ⟨final, ran, told⟩ := evaluateFrom_append reported Progress.tells_start []
  rw [List.append_nil] at ran
  rw [List.nil_append] at told
  have compiled : final.cache.store.size = (Cache.parseable (reports.map (·.source))).toFinset.card := by
    rw [told.accounts.size_eq, Cache.parseable, Cache.parseable, List.filter_reverse, List.toFinset_reverse]
  have code : (if reports.countP (·.failed) = 0 then 0 else 1) = if reports.any (·.failed) then 1 else 0 := by
    have noFailure : reports.countP (·.failed) = 0 ↔ reports.any (·.failed) = false := by
      rw [List.countP_eq_zero, List.any_eq_false]
    by_cases failed : reports.any (·.failed) = true <;> simp [noFailure, failed]
  simp only [evaluate, ran, evaluateFrom, completed, summary, closing, code, told.output, told.failures,
    compiled, reported.length_eq]

theorem evaluate_of_noCase {entry : Value} (reported : Reported settings 1 before reports)
    (noCase : Case.ofEntry? (before.length + 1) entry = none) (path : String) (after : List Value) :
    evaluate settings path (before ++ entry :: after) =
      .failure (path ++ ": entry " ++ Text.naturalText (before.length + 1) ++
        " must be a mapping with an 'expression' key") (lines reports) := by
  obtain ⟨final, ran, told⟩ := evaluateFrom_append reported Progress.tells_start (entry :: after)
  simp only [evaluate, ran, evaluateFrom, noCase, told.output, List.nil_append]

theorem evaluate_of_unreported {entry : Value} {item : Case} (reported : Reported settings 1 before reports)
    (written : Case.Written (before.length + 1) entry item) (unreported : item.report? settings = none)
    (path : String) (after : List Value) :
    evaluate settings path (before ++ entry :: after) = .broken (lines reports) := by
  obtain ⟨final, ran, told⟩ := evaluateFrom_append reported Progress.tells_start (entry :: after)
  simp only [evaluate, ran, evaluateFrom, Case.written_iff.mpr written, Progress.step_eq told.parses, unreported,
    told.output, List.nil_append]

/-!
## Which entries are reported

The number of an entry matters only where it stands in for a name, so that named entries
have their reports wherever they are.
-/

/-- An entry that is a case: a mapping with an expression. -/
def IsCase (entry : Value) : Prop :=
  ∃ fields expression, entry = .mapping fields ∧ Value.lookup? "expression" fields = some expression

/-- A mapping that gives a name. -/
def IsNamed (entry : Value) : Prop :=
  ∃ fields name, entry = .mapping fields ∧ Value.lookup? "name" fields = some name

theorem IsCase.exists_written {entry : Value} (isCase : IsCase entry) (number : Nat) :
    ∃ item, Case.Written number entry item := by
  obtain ⟨fields, expression, rfl, found⟩ := isCase
  exact ⟨_, .mapping found (Case.named_iff.mp rfl) (Case.supplied_iff.mp rfl)⟩

theorem Case.Written.isCase {entry : Value} {item : Case} (written : Written number entry item) : IsCase entry := by
  cases written with
  | mapping found _ _ => exact ⟨_, _, rfl, found⟩

theorem ofEntry?_eq_none {entry : Value} (noCase : ¬ IsCase entry) (number : Nat) :
    Case.ofEntry? number entry = none := by
  cases found : Case.ofEntry? number entry with
  | none => rfl
  | some item => exact absurd (Case.written_iff.mp found).isCase noCase

theorem IsNamed.ofEntry?_eq {entry : Value} (named : IsNamed entry) (number other : Nat) :
    Case.ofEntry? number entry = Case.ofEntry? other entry := by
  obtain ⟨fields, name, rfl, found⟩ := named
  simp only [Case.ofEntry?, found, Option.getD_some]

/-- An entry of which the case has a report, whatever the number of the entry. -/
def IsReported (settings : Settings) (entry : Value) : Prop :=
  ∀ number item, Case.Written number entry item → ∃ report, item.report? settings = some report

/-- A case whose report can be written: its name and its expression have a text, no
reference in that has too many digits, and the arguments that it mentions can be shown. -/
structure Case.Presentable (item : Case) : Prop where
  name : ∃ shown, item.name.display? = some shown
  expression : ∃ source, item.expression.display? = some source ∧ (∀ count, ¬ Expr.HasLongIndex source count) ∧
    Suits source item.arguments

theorem Case.Presentable.exists_report {item : Case} (presentable : item.Presentable) (settings : Settings) :
    ∃ report, item.report? settings = some report := by
  obtain ⟨name, named⟩ := presentable.name
  obtain ⟨source, written, short, suits⟩ := presentable.expression
  simp only [report?, named, written, Option.bind_eq_bind, Option.bind_some]
  obtain ⟨number, evaluated⟩ | ⟨failure, evaluated, expected⟩ := settings.evaluateAfresh_cases short suits
  · simp [evaluated]
  · simp [evaluated, expected]

def IsPresentable (entry : Value) : Prop :=
  ∀ number item, Case.Written number entry item → item.Presentable

theorem IsPresentable.isReported {entry : Value} (presentable : IsPresentable entry) (settings : Settings) :
    IsReported settings entry :=
  fun number item written => (presentable number item written).exists_report settings

def namedCase (name source : String) (arguments : List Value) : Value :=
  .mapping [("name", .text name), ("expression", .text source), ("args", .list arguments)]

theorem isNamed_namedCase (name source : String) (arguments : List Value) :
    IsNamed (namedCase name source arguments) :=
  ⟨_, _, rfl, rfl⟩

theorem namedCase_sound (name : String) {source : String} {arguments : List Value}
    (short : ∀ count, ¬ Expr.HasLongIndex source count) (suits : Suits source arguments) :
    IsCase (namedCase name source arguments) ∧ IsPresentable (namedCase name source arguments) := by
  refine ⟨⟨_, _, rfl, rfl⟩, ?_⟩
  intro number item written
  cases Case.written_iff.mpr written
  exact ⟨⟨name, rfl⟩, ⟨source, rfl, short, suits⟩⟩

theorem exists_reported {entries : List Value}
    (sound : ∀ entry ∈ entries, IsCase entry ∧ IsReported settings entry) (number : Nat) :
    ∃ reports, Reported settings number entries reports := by
  induction entries generalizing number with
  | nil => exact ⟨[], .nil⟩
  | cons entry entries ih =>
      rw [List.forall_mem_cons] at sound
      obtain ⟨⟨isCase, isReported⟩, others⟩ := sound
      obtain ⟨item, written⟩ := isCase.exists_written number
      obtain ⟨report, single⟩ := isReported number item written
      obtain ⟨reports, reported⟩ := ih others (number + 1)
      exact ⟨report :: reports, .cons written single reported⟩

theorem Reported.eq_filterMap {entries : List Value} (reported : Reported settings number entries reports)
    (named : ∀ entry ∈ entries, IsNamed entry) (other : Nat) :
    reports = entries.filterMap fun entry => (Case.ofEntry? other entry).bind (Case.report? settings) := by
  induction reported with
  | nil => rfl
  | cons written single _ ih =>
      rw [List.forall_mem_cons] at named
      rw [List.filterMap_cons, named.1.ofEntry?_eq other, Case.written_iff.mpr written, Option.bind_some, single,
        ← ih named.2]

theorem Reported.perm {entries others : List Value} {otherReports : List Report}
    (reported : Reported settings number entries reports)
    (otherReported : Reported settings number others otherReports)
    (named : ∀ entry ∈ entries, IsNamed entry) (same : entries.Perm others) : reports.Perm otherReports := by
  rw [reported.eq_filterMap named number,
    otherReported.eq_filterMap (fun entry member => named entry (same.mem_iff.mpr member)) number]
  exact same.filterMap _

/-!
## Documents
-/

/-- A document that lists entries under settings. -/
def Lists (document : Document) (path : String) (settings : Settings) (entries : List Value) : Prop :=
  ∃ fields, document.entries path = .ok fields ∧ Settings.ofEntries fields = .ok settings ∧
    Value.lookup? "expressions" fields = some (.list entries)

theorem Lists.evaluateDocument_eq {document : Document} {path : String} {entries : List Value}
    (lists : Lists document path settings entries) :
    evaluateDocument path document = evaluate settings path entries := by
  obtain ⟨fields, loaded, valid, listed⟩ := lists
  simp only [evaluateDocument, loaded, valid, listed, Option.getD_some]

/-- A batch reports the cases that its document lists as if each were alone, and sums them
up. An entry that is no case ends it after the reports on the entries before it, and so
does, without a word, a case that cannot be reported. Named cases in another order have
the same reports in that order, the same summary and the same exit code. There is a report
on every case that can be presented. -/
theorem evaluateDocument_reports {document : Document} {path : String} {entries : List Value}
    (lists : Lists document path settings entries) :
    (∀ entry, IsPresentable entry → IsReported settings entry) ∧
    ((∀ entry ∈ entries, IsCase entry ∧ IsReported settings entry) →
      ∃ reports, Reported settings 1 entries reports ∧ evaluateDocument path document = completed reports) ∧
    (∀ before entry after, entries = before ++ entry :: after →
      (∀ entry ∈ before, IsCase entry ∧ IsReported settings entry) →
      ∃ reports, Reported settings 1 before reports ∧
        (¬ IsCase entry →
          evaluateDocument path document =
            .failure (path ++ ": entry " ++ Text.naturalText (before.length + 1) ++
              " must be a mapping with an 'expression' key") (lines reports)) ∧
        ∀ item, Case.Written (before.length + 1) entry item → item.report? settings = none →
          evaluateDocument path document = .broken (lines reports)) ∧
    ∀ other others, Lists other path settings others → entries.Perm others →
      (∀ entry ∈ entries, IsCase entry ∧ IsReported settings entry) → (∀ entry ∈ entries, IsNamed entry) →
      ∃ reports otherReports, Reported settings 1 entries reports ∧ Reported settings 1 others otherReports ∧
        reports.Perm otherReports ∧ evaluateDocument path document = completed reports ∧
        evaluateDocument path other =
          ⟨(completed reports).exitCode, lines otherReports ++ closing reports, ""⟩ := by
  rw [lists.evaluateDocument_eq]
  refine ⟨fun entry presentable => presentable.isReported settings, ?_, ?_, ?_⟩
  · intro sound
    obtain ⟨reports, reported⟩ := exists_reported sound 1
    exact ⟨reports, reported, evaluate_of_reported reported path⟩
  · rintro before entry after rfl sound
    obtain ⟨reports, reported⟩ := exists_reported sound 1
    refine ⟨reports, reported, ?_, ?_⟩
    · intro noCase
      exact evaluate_of_noCase reported (ofEntry?_eq_none noCase _) path after
    · intro item written unreported
      exact evaluate_of_unreported reported written unreported path after
  · intro other others otherLists same sound named
    obtain ⟨reports, reported⟩ := exists_reported sound 1
    have otherSound : ∀ entry ∈ others, IsCase entry ∧ IsReported settings entry :=
      fun entry member => sound entry (same.mem_iff.mpr member)
    obtain ⟨otherReports, otherReported⟩ := exists_reported otherSound 1
    have permuted := reported.perm otherReported named same
    refine ⟨reports, otherReports, reported, otherReported, permuted, evaluate_of_reported reported path, ?_⟩
    rw [otherLists.evaluateDocument_eq, evaluate_of_reported otherReported, completed_of_perm permuted]

def listing (entries : List Value) : Document :=
  .holding (.mapping [("expressions", .list entries)])

theorem lists_listing (entries : List Value) (path : String) : Lists (listing entries) path .standard entries :=
  ⟨_, rfl, rfl, rfl⟩

theorem evaluateDocument_reports_halfAndPole :
    ∃ reports otherReports,
      Reported .standard 1 [namedCase "half" "x / 2" [.integer 5], namedCase "pole" "1 / x" [.integer 0]] reports ∧
      Reported .standard 1 [namedCase "pole" "1 / x" [.integer 0], namedCase "half" "x / 2" [.integer 5]]
        otherReports ∧
      reports.Perm otherReports ∧
      evaluateDocument "batch.yaml"
          (listing [namedCase "half" "x / 2" [.integer 5], namedCase "pole" "1 / x" [.integer 0]]) =
        completed reports ∧
      evaluateDocument "batch.yaml"
          (listing [namedCase "pole" "1 / x" [.integer 0], namedCase "half" "x / 2" [.integer 5]]) =
        ⟨(completed reports).exitCode, lines otherReports ++ closing reports, ""⟩ := by
  have suitable (number : Int) : ∀ value ∈ [Value.integer number], value.Bounded ∧ value.CanBeWritten :=
    List.forall_mem_singleton.mpr ⟨trivial, trivial⟩
  have half := namedCase_sound "half" (Expr.not_hasLongIndex_of_not_mem (by decide : '\x7b' ∉ "x / 2".toList))
    (suits_of_forall (suitable 5) _)
  have pole := namedCase_sound "pole" (Expr.not_hasLongIndex_of_not_mem (by decide : '\x7b' ∉ "1 / x".toList))
    (suits_of_forall (suitable 0) _)
  obtain ⟨reported, _, _, reordered⟩ := evaluateDocument_reports (lists_listing
    [namedCase "half" "x / 2" [.integer 5], namedCase "pole" "1 / x" [.integer 0]] "batch.yaml")
  refine reordered _ _ (lists_listing _ _) (.swap _ _ []) ?_ ?_
  · simp [half.1, pole.1, reported _ half.2, reported _ pole.2]
  · simp [isNamed_namedCase]

/-- A control sequence in a name is part of the report and is not written. -/
theorem evaluateDocument_boldHalf :
    Reported .standard 1 [namedCase "\x1b[1mhalf" "x / 2" [.integer 5]] [⟨"x / 2", "\x1b[1mhalf: 2.5", false⟩] ∧
      (evaluateDocument "batch.yaml" (listing [namedCase "\x1b[1mhalf" "x / 2" [.integer 5]])).output =
        "half: 2.5\n\n1 expression(s) evaluated, 0 failed, 1 compiled.\n" ∧
      (evaluateDocument "batch.yaml" (listing [namedCase "\x1b[1mhalf" "x / 2" [.integer 5]])).output ≠
        "\x1b[1mhalf: 2.5\n" ++ closing [⟨"x / 2", "\x1b[1mhalf: 2.5", false⟩] := by
  refine ⟨.cons (Case.written_iff.mp rfl) (by decide +kernel) .nil, by decide +kernel, by decide +kernel⟩

end DecimalFormula.CommandLine.Batch
