import Mathlib
import DecimalFormula.Engine
import DecimalFormula.Proofs.Store

/-!
# Engines answer as if nothing were kept

An engine that keeps trees gives the answers of one that parses every source afresh:
its values have its own precision, and its trees are those of the sources. This holds
however engines share caches, whatever they were asked before and in whatever order,
after failures and after caches were cleared.
-/

set_option autoImplicit false

namespace DecimalFormula

/-!
## Answers without a cache
-/

/-- The tree of a source, parsed afresh. What is no text has none. -/
def Value.parsedAfresh : Value → Except EngineFailure Expr
  | .text source => (Expr.parse source).mapError .source
  | .unwritableText codes => (Expr.parse (Text.readCodes codes)).mapError .source
  | other => .error (.sourceNotText other.typeName)

theorem Value.parsedAfresh_of_text {source : Value} {text : String} (isText : source.content? = some text) :
    source.parsedAfresh = (Expr.parse text).mapError .source := by
  cases source with
  | text | unwritableText =>
      cases isText
      rfl
  | _ => cases isText

theorem Value.parsedAfresh_of_no_text {source : Value} (noText : source.content? = none) :
    source.parsedAfresh = .error (.sourceNotText source.typeName) := by
  cases source with
  | text | unwritableText => cases noText
  | _ => rfl

/-- The answer to a request without a cache, if the request has one. -/
def Request.answeredAfresh? (settings : Settings) : Request → Option (Except EngineFailure Answer)
  | .evaluate source arguments =>
      some do
        let expr ← source.parsedAfresh
        ((Scope.evaluate ⟨settings.context, arguments⟩ expr).mapError .evaluation).map .value
  | .compile source => some (source.parsedAfresh.map fun expr => .tree (some expr))
  | .contains _ => none
  | .clear => some (.ok .done)
  | .precision => some (.ok (.precision settings.precision))

/-- The value of a source text, parsed and evaluated afresh. -/
def Settings.evaluateAfresh (settings : Settings) (source : String) (arguments : List Value) :
    Except EngineFailure Decimal := do
  let expr ← (Expr.parse source).mapError .source
  (Scope.evaluate ⟨settings.context, arguments⟩ expr).mapError .evaluation

theorem Settings.evaluateAfresh_of_parse (settings : Settings) {source : String} {expr : Expr}
    (accepted : Expr.parse source = .ok expr) (arguments : List Value) :
    settings.evaluateAfresh source arguments =
      (Scope.evaluate ⟨settings.context, arguments⟩ expr).mapError .evaluation := by
  rw [evaluateAfresh, accepted]
  rfl

/-!
## One cache
-/

/-- A cache whose trees are what parsing gives. -/
structure Cache.Parses (cache : Cache) : Prop where
  compiler : cache.compiler = .parsing
  faithful : cache.store.Faithful Compiler.parse

namespace Cache

variable {cache : Cache}

theorem parses_ofCompiler : (ofCompiler .parsing).Parses :=
  ⟨rfl, Store.faithful_empty⟩

theorem Parses.clear (parses : cache.Parses) : cache.clear.Parses :=
  ⟨parses.compiler, Store.faithful_empty⟩

theorem compile_of_text {source : Value} {text : String} (isText : source.content? = some text) (cache : Cache) :
    cache.compile source =
      ((cache.store.fetch (cache.compiler cache.calls) text).1.mapError .ofCompiler,
        { cache with
          store := (cache.store.fetch (cache.compiler cache.calls) text).2
          calls := cache.calls + (cache.store.misses text).toNat }) := by
  simp only [compile, isText]

theorem compile_of_no_text {source : Value} (noText : source.content? = none) (cache : Cache) :
    cache.compile source = (.error (.sourceNotText source.typeName), cache) := by
  simp only [compile, noText]

theorem Parses.fetch_answer (parses : cache.Parses) (text : String) :
    (cache.store.fetch (cache.compiler cache.calls) text).1 = Compiler.parse text := by
  rw [parses.compiler]
  exact parses.faithful.fetch_answer text

theorem Parses.fetch_of_parse (parses : cache.Parses) {text : String} {expr : Expr}
    (accepted : Expr.parse text = .ok expr) :
    (cache.store.fetch (cache.compiler cache.calls) text).1 = .ok (some expr) := by
  rw [parses.fetch_answer, Compiler.parse, accepted]
  rfl

theorem Parses.fetch_of_refused (parses : cache.Parses) {text : String} {error : SourceError}
    (refused : Expr.parse text = .error error) :
    (cache.store.fetch (cache.compiler cache.calls) text).1 = .error (.source error) := by
  rw [parses.fetch_answer, Compiler.parse, refused]
  rfl

theorem Parses.compile_answer (parses : cache.Parses) (source : Value) :
    (cache.compile source).1 = source.parsedAfresh.map some := by
  cases isText : source.content? with
  | some text =>
      rw [compile_of_text isText, Value.parsedAfresh_of_text isText]
      cases parsed : Expr.parse text with
      | ok expr =>
          rw [parses.fetch_of_parse parsed]
          rfl
      | error error =>
          rw [parses.fetch_of_refused parsed]
          rfl
  | none =>
      rw [compile_of_no_text isText, Value.parsedAfresh_of_no_text isText]
      rfl

theorem Parses.compile (parses : cache.Parses) (source : Value) : (cache.compile source).2.Parses := by
  cases isText : source.content? with
  | some text =>
      rw [compile_of_text isText, parses.compiler]
      exact ⟨rfl, parses.faithful.fetch text⟩
  | none =>
      rw [compile_of_no_text isText]
      exact parses

theorem evaluate_eq (settings : Settings) (source : Value) (arguments : List Value) (cache : Cache) :
    cache.evaluate settings source arguments =
      ((cache.compile source).1.bind fun tree =>
        (Scope.evaluateTree ⟨settings.context, arguments⟩ tree).mapError .evaluation, (cache.compile source).2) := by
  rw [evaluate]
  rcases cache.compile source with ⟨_ | _, _⟩ <;> rfl

theorem Parses.evaluate_text (parses : cache.Parses) (settings : Settings) (source : String) (arguments : List Value) :
    (cache.evaluate settings (.text source) arguments).1 = settings.evaluateAfresh source arguments := by
  simp only [evaluate_eq, parses.compile_answer, Value.parsedAfresh, Settings.evaluateAfresh]
  cases Expr.parse source <;> rfl

theorem Parses.evaluate (parses : cache.Parses) (settings : Settings) (source : Value) (arguments : List Value) :
    (cache.evaluate settings source arguments).2.Parses := by
  simp only [evaluate_eq]
  exact parses.compile source

theorem Parses.answer (parses : cache.Parses) (settings : Settings) (request : Request) :
    (cache.answer settings request).2.Parses := by
  cases request with
  | evaluate source arguments => exact parses.evaluate settings source arguments
  | compile source => exact parses.compile source
  | contains => exact parses
  | clear => exact parses.clear
  | precision => exact parses

theorem Parses.answer_eq (parses : cache.Parses) {settings : Settings} {request : Request}
    {expected : Except EngineFailure Answer} (afresh : request.answeredAfresh? settings = some expected) :
    (cache.answer settings request).1 = expected := by
  cases request with
  | evaluate source arguments =>
      cases afresh
      simp only [Cache.answer, evaluate_eq, parses.compile_answer]
      cases source.parsedAfresh <;> rfl
  | compile source =>
      cases afresh
      simp only [Cache.answer, parses.compile_answer]
      cases source.parsedAfresh <;> rfl
  | contains => cases afresh
  | clear | precision =>
      cases afresh
      rfl

end Cache

/-!
## Engines that share caches
-/

namespace Workshop

variable {workshop : Workshop}

/-- A workshop of engines whose caches exist and hold what parsing gives. -/
structure Sound (workshop : Workshop) : Prop where
  parses : ∀ cache ∈ workshop.caches, cache.Parses
  connected : ∀ engine ∈ workshop.engines, engine.cache < workshop.caches.length

theorem sound_of_fresh (fresh : ∀ cache ∈ workshop.caches, cache = .ofCompiler .parsing)
    (connected : ∀ engine ∈ workshop.engines, engine.cache < workshop.caches.length) : workshop.Sound where
  parses cache member := fresh cache member ▸ Cache.parses_ofCompiler
  connected := connected

/-- The reply to what an engine was asked is the answer under its settings without a
cache. -/
def AnswersAfresh (engines : List Engine) (step : Nat × Request) (reply : Reply) : Prop :=
  ∃ engine, engines[step.1]? = some engine ∧
    ∀ expected, step.2.answeredAfresh? engine.settings = some expected → reply.answer = expected

theorem AnswersAfresh.answer_eq {engines : List Engine} {step : Nat × Request} {reply : Reply} {engine : Engine}
    {expected : Except EngineFailure Answer} (agrees : AnswersAfresh engines step reply)
    (found : engines[step.1]? = some engine)
    (afresh : step.2.answeredAfresh? engine.settings = some expected) : reply.answer = expected := by
  obtain ⟨_, same, answers⟩ := agrees
  cases found.symm.trans same
  exact answers expected afresh

theorem ask?_eq {number : Nat} {engine : Engine} {cache : Cache} (found : workshop.engines[number]? = some engine)
    (held : workshop.cacheOf? engine = some cache) (request : Request) :
    workshop.ask? number request =
      some (⟨(cache.answer engine.settings request).1, (cache.answer engine.settings request).2.store⟩,
        { workshop with
          caches := workshop.caches.set engine.cache (cache.answer engine.settings request).2 }) := by
  rw [ask?, found, Option.bind_eq_bind, Option.bind_some, held, Option.bind_eq_bind, Option.bind_some]

theorem Sound.ask? (sound : workshop.Sound) {number : Nat} (existing : number < workshop.engines.length)
    (request : Request) :
    ∃ reply next, workshop.ask? number request = some (reply, next) ∧
      AnswersAfresh workshop.engines (number, request) reply ∧ next.engines = workshop.engines ∧ next.Sound := by
  have found := List.getElem?_eq_getElem existing
  have connected := sound.connected _ (List.getElem_mem existing)
  have held : workshop.cacheOf? workshop.engines[number] = _ := List.getElem?_eq_getElem connected
  have parses := sound.parses _ (List.getElem_mem connected)
  refine ⟨_, _, ask?_eq found held request, ⟨_, found, ?_⟩, rfl, ?_, ?_⟩
  · intro expected afresh
    exact parses.answer_eq afresh
  · intro cache member
    obtain unchanged | rfl := List.mem_or_eq_of_mem_set member
    · exact sound.parses cache unchanged
    · exact parses.answer _ request
  · intro engine member
    rw [List.length_set]
    exact sound.connected engine member

theorem Sound.run? (sound : workshop.Sound) {steps : List (Nat × Request)}
    (addressed : ∀ step ∈ steps, step.1 < workshop.engines.length) :
    ∃ replies final, workshop.run? steps = some (replies, final) ∧
      List.Forall₂ (AnswersAfresh workshop.engines) steps replies ∧ final.engines = workshop.engines ∧ final.Sound := by
  induction steps generalizing workshop with
  | nil => exact ⟨[], workshop, rfl, .nil, rfl, sound⟩
  | cons step steps ih =>
      obtain ⟨existing, others⟩ := List.forall_mem_cons.mp addressed
      obtain ⟨reply, next, asked, agrees, sameEngines, nextSound⟩ := sound.ask? existing step.2
      rw [← sameEngines] at others
      obtain ⟨replies, final, ran, agree, finalEngines, finalSound⟩ := ih nextSound others
      rw [sameEngines] at agree finalEngines
      refine ⟨reply :: replies, final, ?_, .cons agrees agree, finalEngines, finalSound⟩
      simp only [Workshop.run?, asked, ran, Option.bind_eq_bind, Option.bind_some]

/-- Engines that start with empty caches, shared in any way, reply to whatever they are
asked in whatever order as engines without caches do. -/
theorem run?_answers_afresh (fresh : ∀ cache ∈ workshop.caches, cache = .ofCompiler .parsing)
    (connected : ∀ engine ∈ workshop.engines, engine.cache < workshop.caches.length) {steps : List (Nat × Request)}
    (addressed : ∀ step ∈ steps, step.1 < workshop.engines.length) :
    ∃ replies final, workshop.run? steps = some (replies, final) ∧
      List.Forall₂ (AnswersAfresh workshop.engines) steps replies := by
  obtain ⟨replies, final, ran, agree, _⟩ := (sound_of_fresh fresh connected).run? addressed
  exact ⟨replies, final, ran, agree⟩

/-- Two engines with a precision of two and of three digits that share a cache. -/
def twoPrecisions : Workshop where
  engines := [⟨⟨2, by decide, by decide⟩, 0⟩, ⟨⟨3, by decide, by decide⟩, 0⟩]
  caches := [.ofCompiler .parsing]

/-- One source text for each of two engines, then a cleared cache and no text at all. -/
def oneTextTwice : List (Nat × Request) :=
  [(0, .evaluate (.text "x/y") [.integer 1, .integer 3]), (1, .evaluate (.text "x/y") [.integer 1, .integer 3]),
    (0, .clear), (1, .compile (.integer 42))]

theorem run?_answers_afresh_twoPrecisions :
    ∃ replies final, twoPrecisions.run? oneTextTwice = some (replies, final) ∧
      replies.map (·.answer) = [.ok (.value (.finite ⟨false, 33, -2⟩)), .ok (.value (.finite ⟨false, 333, -3⟩)),
        .ok .done, .error (.sourceNotText "int")] := by
  have fresh : ∀ cache ∈ twoPrecisions.caches, cache = .ofCompiler .parsing := by simp [twoPrecisions]
  have addressed : ∀ step ∈ oneTextTwice, step.1 < twoPrecisions.engines.length := by
    simp [oneTextTwice, twoPrecisions]
  obtain ⟨replies, final, ran, agree⟩ := run?_answers_afresh fresh (by decide) addressed
  refine ⟨replies, final, ran, ?_⟩
  obtain _ | ⟨first, _ | ⟨second, _ | ⟨third, _ | ⟨fourth, _ | _⟩⟩⟩⟩ := agree
  have quotient : _ = Except.ok (Answer.value (.finite ⟨false, 33, -2⟩)) := first.answer_eq rfl (by decide +kernel)
  have longer : _ = Except.ok (Answer.value (.finite ⟨false, 333, -3⟩)) := second.answer_eq rfl (by decide +kernel)
  have cleared := third.answer_eq rfl rfl
  have refused := fourth.answer_eq rfl rfl
  simp only [List.map_cons, List.map_nil, quotient, longer, cleared, refused]
  rfl

end Workshop

end DecimalFormula
