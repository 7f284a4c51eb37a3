import Mathlib
import DecimalFormula.Proofs.CommandLine.Agreement
import DecimalFormula.Proofs.Text.IntegerNumeral

/-!
# Ways to choose the precision

The text of the environment variable, that of the option of the command that evaluates, and
the integer that a text spells, as a value or as an entry of a mapping, choose the same
precision or are all refused. The precisions that can be chosen are those of settings. The
variable does not matter where the option is given.
-/

set_option autoImplicit false

namespace DecimalFormula

theorem Settings.ofInteger_eq_ok_iff {number : Int} {settings : Settings} :
    ofInteger number = .ok settings ↔ number = settings.precision := by
  constructor
  · intro accepted
    rw [ofInteger] at accepted
    split at accepted
    · split at accepted
      · cases accepted
        simp only
        omega
      · cases accepted
    · cases accepted
  · intro same
    rw [same, settings.ofInteger_precision]

theorem Settings.exists_ofInteger_error {number : Int} (refused : ∀ settings : Settings, number ≠ settings.precision) :
    ∃ error, ofInteger number = .error error := by
  cases result : ofInteger number with
  | error error => exact ⟨error, rfl⟩
  | ok settings => exact absurd (ofInteger_eq_ok_iff.mp result) (refused settings)

theorem Settings.ofVariable_of_reads {text : String} {number : Int} (nonempty : text ≠ "")
    (reads : Text.readInteger? text = some number) : Settings.ofVariable (some text) = Settings.ofInteger number := by
  simp [Settings.ofVariable, nonempty, reads]

theorem Settings.ofEntries_of_entry {entries : List (String × Value)} {value : Value}
    (entry : Value.lookup? "precision" entries = some value) : Settings.ofEntries entries = Settings.ofValue value := by
  rw [Settings.ofEntries, entry]

theorem Settings.exists_ofValue_error {value : Value} (other : ∀ number, value ≠ .integer number) :
    ∃ error, Settings.ofValue value = .error error := by
  cases value with
  | integer number => exact absurd rfl (other number)
  | _ => exact ⟨_, rfl⟩

namespace CommandLine

open Text

namespace Evaluate

/-!
## Options
-/

/-- What an option says is among the choices. -/
inductive Choices.Agrees (choices : Choices) : Choice × String → Prop where
  | help {text : String} : choices.Agrees (.help, text)
  | target {text : String} : targets.lookup text = some choices.target → choices.Agrees (.target, text)
  | precision {text : String} {number : Int} :
      readInteger? text = some number → choices.precision = some number → choices.Agrees (.precision, text)

/-- Choices that were made by some options on top of earlier choices. -/
structure Choices.MadeBy (options : List (Choice × String)) (start final : Choices) : Prop where
  agrees : ∀ option ∈ options, final.Agrees option
  target : (∀ text, (Choice.target, text) ∉ options) → final.target = start.target
  precision : (∀ text, (Choice.precision, text) ∉ options) → final.precision = start.precision

theorem Choices.madeBy_nil_iff {start final : Choices} : MadeBy [] start final ↔ start = final := by
  constructor
  · intro made
    obtain ⟨target, precision⟩ := start
    obtain ⟨finalTarget, finalPrecision⟩ := final
    obtain rfl : finalTarget = target := made.target fun _ => List.not_mem_nil
    obtain rfl : finalPrecision = precision := made.precision fun _ => List.not_mem_nil
    rfl
  · intro same
    subst same
    exact ⟨fun _ member => absurd member List.not_mem_nil, fun _ => rfl, fun _ => rfl⟩

/-- What the first of several options does, if no other is for the same choice. -/
theorem Choices.madeBy_cons_iff {choice : Choice} {text : String} {options : List (Choice × String)}
    {start final : Choices} (single : ∀ other, (choice, other) ∉ options) :
    MadeBy ((choice, text) :: options) start final ↔
      ∃ next, start.choose choice text = .ok next ∧ MadeBy options next final := by
  constructor
  · intro made
    have agrees : final.Agrees (choice, text) := made.agrees _ List.mem_cons_self
    have others : ∀ option ∈ options, final.Agrees option :=
      fun option member => made.agrees option (List.mem_cons_of_mem _ member)
    cases agrees with
    | help =>
        refine ⟨start, rfl, others, ?_, ?_⟩
        · intro none
          exact made.target (by simpa using none)
        · intro none
          exact made.precision (by simpa using none)
    | target found =>
        refine ⟨{ start with target := final.target }, by rw [choose, found], others, fun _ => rfl, ?_⟩
        intro none
        exact made.precision (by simpa using none)
    | precision read chosen =>
        refine ⟨{ start with precision := final.precision }, by rw [choose, read, chosen], others, ?_, fun _ => rfl⟩
        intro none
        exact made.target (by simpa using none)
  · intro steps
    obtain ⟨next, chosen, made⟩ := steps
    have agrees : final.Agrees (choice, text) ∧ (choice ≠ .target → next.target = start.target) ∧
        (choice ≠ .precision → next.precision = start.precision) := by
      cases choice with
      | help =>
          cases chosen
          exact ⟨.help, fun _ => rfl, fun _ => rfl⟩
      | target =>
          rw [choose] at chosen
          split at chosen
          case h_1 target found =>
            cases chosen
            exact ⟨.target (found.trans (congrArg some (made.target single).symm)),
              fun other => absurd rfl other, fun _ => rfl⟩
          case h_2 => cases chosen
      | precision =>
          rw [choose] at chosen
          split at chosen
          case h_1 number read =>
            cases chosen
            exact ⟨.precision read (made.precision single), fun _ => rfl, fun other => absurd rfl other⟩
          case h_2 => cases chosen
    obtain ⟨first, sameTarget, samePrecision⟩ := agrees
    refine ⟨List.forall_mem_cons.mpr ⟨first, made.agrees⟩, ?_, ?_⟩
    · intro none
      have apart : choice ≠ .target := fun same => none text (same ▸ List.mem_cons_self)
      rw [made.target fun other member => none other (List.mem_cons_of_mem _ member), sameTarget apart]
    · intro none
      have apart : choice ≠ .precision := fun same => none text (same ▸ List.mem_cons_self)
      rw [made.precision fun other member => none other (List.mem_cons_of_mem _ member), samePrecision apart]

theorem foldlM_choose_eq_ok_iff {options : List (Choice × String)} {start final : Choices}
    (once : (options.map (·.1)).Nodup) :
    options.foldlM (fun choices option => choices.choose option.1 option.2) start = .ok final ↔
      Choices.MadeBy options start final := by
  induction options generalizing start with
  | nil =>
      rw [Choices.madeBy_nil_iff, List.foldlM_nil]
      exact Except.ok.injEq start final ▸ Iff.rfl
  | cons option options ih =>
      obtain ⟨choice, text⟩ := option
      obtain ⟨fresh, once⟩ := List.nodup_cons.mp once
      have single : ∀ other, (choice, other) ∉ options :=
        fun other member => fresh (List.mem_map.mpr ⟨_, member, rfl⟩)
      rw [List.foldlM_cons, Choices.madeBy_cons_iff single]
      constructor
      · intro finished
        obtain ⟨next, chosen, rest⟩ := exists_of_bind_ok finished
        exact ⟨next, chosen, (ih once).mp rest⟩
      · intro steps
        obtain ⟨next, chosen, made⟩ := steps
        rw [chosen]
        exact (ih once).mpr made

/-- The last text that is given for a choice. -/
def lastText? (chosen : List (Choice × String)) (choice : Choice) : Option String :=
  chosen.reverse.lookup choice

theorem lastText?_isSome_iff {chosen : List (Choice × String)} {choice : Choice} :
    (lastText? chosen choice).isSome ↔ choice ∈ chosen.map (·.1) := by
  rw [lastText?, List.lookup_isSome_iff]
  simp

theorem mem_lastValues_iff {chosen : List (Choice × String)} {choice : Choice} {text : String} :
    (choice, text) ∈ lastValues chosen ↔ lastText? chosen choice = some text := by
  rw [lastValues, List.mem_filterMap]
  constructor
  · intro found
    obtain ⟨_, _, paired⟩ := found
    obtain ⟨_, last, same⟩ := Option.map_eq_some_iff.mp paired
    obtain ⟨rfl, rfl⟩ := Prod.mk.inj same
    exact last
  · intro last
    have given : choice ∈ chosen.map (·.1) := lastText?_isSome_iff.mp (Option.isSome_of_eq_some last)
    exact ⟨choice, List.mem_eraseDups.mpr given, Option.map_eq_some_iff.mpr ⟨text, last, rfl⟩⟩

theorem nodup_eraseDups (choices : List Choice) : choices.eraseDups.Nodup := by
  induction size : choices.length using Nat.strong_induction_on generalizing choices with
  | h size ih =>
      cases choices with
      | nil => exact List.nodup_nil
      | cons choice others =>
          rw [List.eraseDups_cons, List.nodup_cons]
          subst size
          refine ⟨?_, ih _ (Nat.lt_succ_of_le (List.length_filter_le _ _)) _ rfl⟩
          rw [List.mem_eraseDups, List.mem_filter]
          simp

theorem nodup_lastValues (chosen : List (Choice × String)) : ((lastValues chosen).map (·.1)).Nodup := by
  have sublist : ∀ choices : List Choice,
      ((choices.filterMap fun choice => (lastText? chosen choice).map (choice, ·)).map (·.1)).Sublist choices := by
    intro choices
    induction choices with
    | nil => exact List.Sublist.refl _
    | cons choice others ih =>
        cases last : lastText? chosen choice with
        | none => simpa [last] using ih.cons choice
        | some text => simpa [last] using ih.cons_cons choice
  exact (nodup_eraseDups _).sublist (sublist _)

theorem choicesOf_eq_ok_iff {chosen : List (Choice × String)} {final : Choices} :
    choicesOf chosen = .ok final ↔ Choices.MadeBy (lastValues chosen) ⟨.decimal, none⟩ final :=
  foldlM_choose_eq_ok_iff (nodup_lastValues chosen)

theorem exists_precision_of_choicesOf {chosen : List (Choice × String)} {choices : Choices}
    (given : Choice.precision ∈ chosen.map (·.1)) (made : choicesOf chosen = .ok choices) :
    ∃ number, choices.precision = some number := by
  obtain ⟨text, last⟩ := Option.isSome_iff_exists.mp (lastText?_isSome_iff.mpr given)
  cases (choicesOf_eq_ok_iff.mp made).agrees _ (mem_lastValues_iff.mpr last) with
  | precision _ chosen => exact ⟨_, chosen⟩

/-- The words that follow the name of the command where it is asked to evaluate an expression
over texts, with the last text that is given for the precision and with a target that makes
sense. -/
inductive Asks (precision : String) (target : Target) (expression : String) (arguments : List String) :
    List String → Prop where
  | read {words : List String} {chosen : List (Choice × String)} :
      options.read words = .ok ⟨chosen, expression :: arguments⟩ →
      Choice.help ∉ chosen.map (·.1) →
      lastText? chosen .precision = some precision →
      (lastText? chosen .target).elim (some .decimal) (targets.lookup ·) = some target →
      Asks precision target expression arguments words

theorem asks_precision (precision expression : String) (arguments : List String) :
    Asks precision .decimal expression arguments ("--precision" :: precision :: "--" :: expression :: arguments) := by
  have option : options.readWord "--precision" = .ok (.options [] none (some ("--precision", .precision))) := by
    decide
  have dashes : options.readWord "--" = .ok .endOfOptions := rfl
  have read : options.read ("--precision" :: precision :: "--" :: expression :: arguments) =
      .ok ⟨[(.precision, precision)], expression :: arguments⟩ := by
    simp [Options.read, option, dashes, Except.map]
  exact .read read (by simp) rfl rfl

theorem choicesOf_of_reads {chosen : List (Choice × String)} {precision : String} {number : Int} {target : Target}
    (last : lastText? chosen .precision = some precision) (reads : readInteger? precision = some number)
    (targeted : (lastText? chosen .target).elim (some .decimal) (targets.lookup ·) = some target) :
    choicesOf chosen = .ok ⟨target, some number⟩ := by
  rw [choicesOf_eq_ok_iff]
  refine ⟨?_, ?_, ?_⟩
  · intro option member
    obtain ⟨choice, text⟩ := option
    have given := mem_lastValues_iff.mp member
    cases choice with
    | help => exact .help
    | target =>
        rw [given] at targeted
        exact .target targeted
    | precision =>
        obtain rfl : precision = text := Option.some.inj (last.symm.trans given)
        exact .precision reads rfl
  · intro none
    have absent : lastText? chosen .target = Option.none :=
      Option.eq_none_iff_forall_ne_some.mpr fun text given => none text (mem_lastValues_iff.mpr given)
    rw [absent] at targeted
    exact (Option.some.inj targeted).symm
  · intro none
    exact absurd (mem_lastValues_iff.mpr last) (none precision)

theorem exists_choicesOf_error {chosen : List (Choice × String)} {precision : String}
    (last : lastText? chosen .precision = some precision) (refused : readInteger? precision = none) :
    ∃ error, choicesOf chosen = .error error := by
  cases made : choicesOf chosen with
  | error error => exact ⟨error, rfl⟩
  | ok choices =>
      cases (choicesOf_eq_ok_iff.mp made).agrees _ (mem_lastValues_iff.mpr last) with
      | precision reads _ => cases refused.symm.trans reads

/-!
## Runs
-/

theorem any_isHelp {chosen : List (Choice × String)} (noHelp : Choice.help ∉ chosen.map (·.1)) :
    chosen.any (·.1 == .help) = false := by
  rw [List.any_eq_false]
  intro option member isHelp
  exact noHelp (List.mem_map.mpr ⟨option, member, eq_of_beq isHelp⟩)

theorem Asks.run_eq {precision expression : String} {target : Target} {arguments words : List String} {number : Int}
    (asks : Asks precision target expression arguments words) (reads : readInteger? precision = some number)
    (world : World) :
    run world words =
      match Settings.ofInteger number with
      | .error error => synopsis.misuse (.invalidValue "precision" error.message)
      | .ok settings => evaluate settings target expression arguments := by
  obtain ⟨read, noHelp, last, targeted⟩ := asks
  simp only [run, read, any_isHelp noHelp, choicesOf_of_reads last reads targeted, settings]
  rfl

theorem Asks.run_of_not_reads {precision expression : String} {target : Target} {arguments words : List String}
    (asks : Asks precision target expression arguments words) (refused : readInteger? precision = none)
    (world : World) : ∃ error, run world words = synopsis.misuse error := by
  obtain ⟨read, noHelp, last, _⟩ := asks
  obtain ⟨error, failed⟩ := exists_choicesOf_error last refused
  refine ⟨error, ?_⟩
  simp only [run, read, any_isHelp noHelp, failed]
  rfl

/-- The variable does not matter where the option is given. -/
theorem run_eq_of_precision {words : List String} {read : Words} (reads : options.read words = .ok read)
    (given : Choice.precision ∈ read.options.map (·.1)) (world other : World) : run world words = run other words := by
  have same : ∀ choices, choicesOf read.options = .ok choices → settings world choices = settings other choices := by
    intro choices made
    obtain ⟨number, chosen⟩ := exists_precision_of_choicesOf given made
    simp only [settings, chosen]
  simp only [run, reads]
  split
  · rfl
  · cases made : choicesOf read.options with
    | error error => rfl
    | ok choices =>
        cases read.positional with
        | nil => rfl
        | cons expression arguments => simp only [same choices made]

end Evaluate

/-!
## All ways together
-/

/-- The settings that a text chooses, whichever way it is given. -/
structure ChosenBy (text : String) (settings : Settings) : Prop where
  reads : readInteger? text = some (settings.precision : Int)
  environment : Settings.ofVariable (some text) = .ok settings
  value : Settings.ofValue (.integer settings.precision) = .ok settings
  entry : ∀ entries, Value.lookup? "precision" entries = some (.integer settings.precision) →
    Settings.ofEntries entries = .ok settings
  option : ∀ world words target expression arguments, Evaluate.Asks text target expression arguments words →
    run world ("eval" :: words) = Evaluate.evaluate settings target expression arguments

/-- A text that chooses no settings, whichever way it is given. -/
structure ChoosesNone (text : String) : Prop where
  environment : ∃ error, Settings.ofVariable (some text) = .error error
  value : ∀ number, readInteger? text = some number → ∃ error, Settings.ofValue (.integer number) = .error error
  entry : ∀ number entries, readInteger? text = some number →
    Value.lookup? "precision" entries = some (.integer number) → ∃ error, Settings.ofEntries entries = .error error
  option : ∀ world words target expression arguments, Evaluate.Asks text target expression arguments words →
    ∃ message, run world ("eval" :: words) = ⟨2, "", message⟩

theorem chosenBy_of_reads {text : String} {settings : Settings} (nonempty : text ≠ "")
    (reads : readInteger? text = some (settings.precision : Int)) : ChosenBy text settings where
  reads := reads
  environment := (Settings.ofVariable_of_reads nonempty reads).trans settings.ofInteger_precision
  value := settings.ofInteger_precision
  entry entries entry := (Settings.ofEntries_of_entry entry).trans settings.ofInteger_precision
  option world words target expression arguments asks := by
    rw [run_eval, asks.run_eq reads, settings.ofInteger_precision]

theorem choosesNone_of_reads {text : String} {number : Int} (nonempty : text ≠ "")
    (reads : readInteger? text = some number) (refused : ∀ settings : Settings, number ≠ settings.precision) :
    ChoosesNone text := by
  obtain ⟨error, failed⟩ := Settings.exists_ofInteger_error refused
  have only : ∀ other, readInteger? text = some other → Settings.ofInteger other = .error error := by
    intro other read
    obtain rfl : number = other := Option.some.inj (reads.symm.trans read)
    exact failed
  refine ⟨⟨error, (Settings.ofVariable_of_reads nonempty reads).trans failed⟩, ?_, ?_, ?_⟩
  · intro other read
    exact ⟨error, only other read⟩
  · intro other entries read entry
    exact ⟨error, (Settings.ofEntries_of_entry entry).trans (only other read)⟩
  · intro world words target expression arguments asks
    rw [run_eval, asks.run_eq reads, failed]
    exact ⟨_, rfl⟩

theorem choosesNone_of_not_reads {text : String} (nonempty : text ≠ "") (refused : readInteger? text = none) :
    ChoosesNone text := by
  have nothing : ∀ number, readInteger? text ≠ some number := by
    intro number read
    cases refused.symm.trans read
  refine ⟨?_, ?_, ?_, ?_⟩
  · simp [Settings.ofVariable, nonempty, refused]
  · intro number read
    exact absurd read (nothing number)
  · intro number _ read
    exact absurd read (nothing number)
  · intro world words target expression arguments asks
    obtain ⟨error, failed⟩ := asks.run_of_not_reads refused world
    rw [run_eval, failed]
    exact ⟨_, rfl⟩

/-- All ways to choose the precision by a text agree. It is an integer from one to the maximum
that the text spells, or the text is refused, whichever way it is given. Values other than
integers are refused, and where the option is given the world does not matter. -/
theorem ways_agree {text : String} (nonempty : text ≠ "") :
    (∀ number, readInteger? text = some number ↔
      ∃ before numeral after, text.toList = before ++ (numeral ++ after) ∧ IntegerMargin before ∧
        IntegerNumeral numeral number ∧ IntegerMargin after) ∧
    (∀ expression arguments, Evaluate.Asks text .decimal expression arguments
      ("--precision" :: text :: "--" :: expression :: arguments)) ∧
    ((∃ settings, (1 ≤ settings.precision ∧ settings.precision ≤ 999999999999999999) ∧ ChosenBy text settings) ∨
      ChoosesNone text) ∧
    (ChoosesNone text ↔
      ∀ number, readInteger? text = some number → ¬ (1 ≤ number ∧ number ≤ 999999999999999999)) ∧
    (∀ value, (∀ number, value ≠ .integer number) →
      (∃ error, Settings.ofValue value = .error error) ∧
      ∀ entries, Value.lookup? "precision" entries = some value → ∃ error, Settings.ofEntries entries = .error error) ∧
    ∀ words read, Evaluate.options.read words = .ok read → Choice.precision ∈ read.options.map (·.1) →
      ∀ world other, run world ("eval" :: words) = run other ("eval" :: words) := by
  have inRange : ∀ settings : Settings, 1 ≤ settings.precision ∧ settings.precision ≤ 999999999999999999 :=
    fun settings => ⟨settings.precision_pos, settings.precision_le⟩
  have outOfRange : ∀ number : Int, ¬ (1 ≤ number ∧ number ≤ 999999999999999999) →
      ∀ settings : Settings, number ≠ settings.precision := by
    intro number beyond settings same
    have := inRange settings
    omega
  refine ⟨fun number => readInteger?_eq_some_iff, Evaluate.asks_precision text, ?_, ⟨?_, ?_⟩, ?_, ?_⟩
  · cases reads : readInteger? text with
    | none => exact .inr (choosesNone_of_not_reads nonempty reads)
    | some number =>
        by_cases possible : ∃ settings : Settings, number = settings.precision
        · obtain ⟨settings, rfl⟩ := possible
          exact .inl ⟨settings, inRange settings, chosenBy_of_reads nonempty reads⟩
        · exact .inr (choosesNone_of_reads nonempty reads (not_exists.mp possible))
  · intro refused number reads range
    have chosen : ChosenBy text ⟨number.toNat, by omega, by rw [maxPrecision]; omega⟩ :=
      chosenBy_of_reads nonempty (reads.trans (congrArg some (Int.toNat_of_nonneg (by omega)).symm))
    obtain ⟨error, failed⟩ := refused.environment
    cases failed.symm.trans chosen.environment
  · intro beyond
    cases reads : readInteger? text with
    | none => exact choosesNone_of_not_reads nonempty reads
    | some number => exact choosesNone_of_reads nonempty reads (outOfRange number (beyond number reads))
  · intro value other
    obtain ⟨error, failed⟩ := Settings.exists_ofValue_error other
    exact ⟨⟨error, failed⟩, fun entries entry => ⟨error, (Settings.ofEntries_of_entry entry).trans failed⟩⟩
  · intro words read reads given world other
    rw [run_eval, run_eval, Evaluate.run_eq_of_precision reads given world other]

/-- Digits of another script are an integer, and a variable that spells none does not matter. -/
theorem ways_agree_arabicDigits :
    "+٠_٥" ≠ "" ∧ ∀ documents,
      run ⟨some "five", documents⟩ ["eval", "--precision", "+٠_٥", "--", "x / 3", "2"] = ⟨0, "0.66667\n", ""⟩ := by
  have nonempty : "+٠_٥" ≠ "" := by decide
  have five : Settings.ofVariable (some "+٠_٥") = .ok fiveDigits := by decide +kernel
  refine ⟨nonempty, ?_⟩
  intro documents
  obtain ⟨-, asks, ⟨settings, -, chosen⟩ | refused, -⟩ := ways_agree nonempty
  · obtain rfl : fiveDigits = settings := Except.ok.inj (five.symm.trans chosen.environment)
    rw [chosen.option _ _ _ _ _ (asks "x / 3" ["2"])]
    decide +kernel
  · obtain ⟨error, failed⟩ := refused.environment
    cases five.symm.trans failed

/-- A separator is white space, but an integer does not admit it. -/
theorem separator_not_read :
    IntegerNumeral (strip "\x1c5".toList) 5 ∧ readInteger? "\x1c5" = none ∧
      ∃ error, Settings.ofVariable (some "\x1c5") = .error error := by
  have stripped : strip "\x1c5".toList = ['5'] := by decide +kernel
  have digit : GroupedDigits ['5'] [Nat.digitChar 5] := .single (by decide +kernel)
  have numeral : IntegerNumeral ['5'] 5 := .signed .absent digit (by decide)
  have nothing : readInteger? "\x1c5" = none := by decide +kernel
  refine ⟨stripped ▸ numeral, nothing, ?_⟩
  simp [Settings.ofVariable, nothing]

end CommandLine

end DecimalFormula
