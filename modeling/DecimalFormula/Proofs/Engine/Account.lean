import Mathlib
import DecimalFormula.Proofs.Engine
import DecimalFormula.Proofs.Expr.Completeness
import DecimalFormula.Proofs.Store.Account

/-!
# The accounts of shared caches

Engines write a record for each cache: the texts that it gave trees for since it was
cleared last, read off what the engines were asked and what they answered. However the
engines share caches and whatever their compilers do, also if they do different things at
different times, the record accounts for the entries and the counts of the cache. A step
in which no tree was had leaves both as they are, and a step of one engine changes no cache
but its own.
-/

set_option autoImplicit false

namespace DecimalFormula

/-- Whether a failure is that there is no tree: the source is no text, or does not
compile. -/
def EngineFailure.isRefusal : EngineFailure → Bool
  | .sourceNotText _ | .source _ | .compiler .. => true
  | .notAKey _ | .evaluation _ => false

def refuses : Except EngineFailure Answer → Bool
  | .ok _ => false
  | .error failure => failure.isRefusal

namespace Request

/-- The source that a request asks for the tree of, if it asks for one. -/
def compiled? : Request → Option Value
  | .evaluate source _ | .compile source => some source
  | .contains _ | .clear | .precision => none

/-- The text that a tree was given for, if a request asked for one and got it. -/
def served? (request : Request) (answer : Except EngineFailure Answer) : Option String :=
  if refuses answer then none else request.compiled?.bind Value.content?

def source? : Request → Option Value
  | .evaluate source _ | .compile source | .contains source => some source
  | .clear | .precision => none

/-- The record of a cache after a request: cleared, or with the text that a tree was
given for. -/
def record : Request → Except EngineFailure Answer → List String → List String
  | .clear, _, _ => []
  | request, answer, served => (request.served? answer).toList ++ served

variable {request : Request} {source : Value} {answer : Except EngineFailure Answer}

theorem record_of_granted {text : String} (wanted : request.compiled? = some source)
    (isText : source.content? = some text) (granted : refuses answer = false) (served : List String) :
    request.record answer served = text :: served := by
  cases request with
  | evaluate | compile => simp [record, served?, granted, wanted, isText]
  | contains | clear | precision => cases wanted

theorem record_of_refused (wanted : request.compiled? = some source) (refused : refuses answer = true)
    (served : List String) : request.record answer served = served := by
  cases request with
  | evaluate | compile => simp [record, served?, refused]
  | contains | clear | precision => cases wanted

end Request

/-!
## One cache
-/

namespace Cache

variable {cache : Cache} {served : List String}

/-- A cache after the tree of a text was fetched. -/
def fetched (text : String) (cache : Cache) : Cache :=
  { cache with
    store := (cache.store.fetch (cache.compiler cache.calls) text).2
    calls := cache.calls + (cache.store.misses text).toNat }

/-- A source has a tree if it is a text that one is held for or compiled. Otherwise the
cache holds and counts what it did. -/
theorem compile_cases (source : Value) (cache : Cache) :
    (∃ text tree, source.content? = some text ∧
      (cache.store.fetch (cache.compiler cache.calls) text).1 = .ok tree ∧
      cache.compile source = (.ok tree, cache.fetched text)) ∨
    ∃ failure calls, failure.isRefusal = true ∧ cache.compile source = (.error failure, { cache with calls }) := by
  cases isText : source.content? with
  | none => exact .inr ⟨_, cache.calls, rfl, compile_of_no_text isText cache⟩
  | some text =>
      rw [compile_of_text isText]
      cases found : (cache.store.fetch (cache.compiler cache.calls) text).1 with
      | ok tree => exact .inl ⟨text, tree, rfl, found, rfl⟩
      | error failure =>
          rw [Store.fetch_error found]
          exact .inr ⟨.ofCompiler failure, _, by cases failure <;> rfl, rfl⟩

/-- Asking for the tree of a text is a hit or a call of the compiler, and not both. -/
theorem calls_add_hits_compile {source : Value} {text : String} (isText : source.content? = some text)
    (cache : Cache) :
    (cache.compile source).2.calls + (cache.compile source).2.store.hits = cache.calls + cache.store.hits + 1 := by
  have counted := Store.hits_fetch (cache.compiler cache.calls) text cache.store
  rw [compile_of_text isText]
  dsimp only
  omega

/-- All that an answer can do to a cache: fetch the tree of a text, clear the cache, or
leave what it holds and counts as it is, in particular when there is no tree. -/
theorem answer_cases (settings : Settings) (request : Request) (cache : Cache) :
    (∃ text tree, (cache.store.fetch (cache.compiler cache.calls) text).1 = .ok tree ∧
      (∀ served, request.record (cache.answer settings request).1 served = text :: served) ∧
      refuses (cache.answer settings request).1 = false ∧
      (cache.answer settings request).2 = cache.fetched text) ∨
    ((∀ served, request.record (cache.answer settings request).1 served = []) ∧
      refuses (cache.answer settings request).1 = false ∧ (cache.answer settings request).2 = cache.clear) ∨
    ((∀ served, request.record (cache.answer settings request).1 served = served) ∧
      ∃ calls, (cache.answer settings request).2 = { cache with calls }) := by
  cases request with
  | evaluate source arguments =>
      simp only [Cache.answer, evaluate_eq]
      obtain ⟨text, tree, isText, found, compiled⟩ | ⟨failure, calls, isRefusal, compiled⟩ := compile_cases source cache
      · rw [compiled]
        have granted : refuses (((Except.ok tree).bind fun tree =>
            (Scope.evaluateTree ⟨settings.context, arguments⟩ tree).mapError .evaluation).map .value) = false := by
          simp only [Except.bind]
          cases Scope.evaluateTree ⟨settings.context, arguments⟩ tree <;> rfl
        exact .inl ⟨text, tree, found, Request.record_of_granted rfl isText granted, granted, rfl⟩
      · rw [compiled]
        exact .inr (.inr ⟨Request.record_of_refused rfl isRefusal, calls, rfl⟩)
  | compile source =>
      simp only [Cache.answer]
      obtain ⟨text, tree, isText, found, compiled⟩ | ⟨failure, calls, isRefusal, compiled⟩ := compile_cases source cache
      · rw [compiled]
        exact .inl ⟨text, tree, found, Request.record_of_granted rfl isText rfl, rfl, rfl⟩
      · rw [compiled]
        exact .inr (.inr ⟨Request.record_of_refused rfl isRefusal, calls, rfl⟩)
  | clear => exact .inr (.inl ⟨fun _ => rfl, rfl, rfl⟩)
  | contains source =>
      refine .inr (.inr ⟨fun served => ?_, cache.calls, rfl⟩)
      simp [Request.record, Request.served?, Request.compiled?]
  | precision => exact .inr (.inr ⟨fun _ => rfl, cache.calls, rfl⟩)

theorem store_answer_of_refused {settings : Settings} {request : Request}
    (refused : refuses (cache.answer settings request).1 = true) :
    (cache.answer settings request).2.store = cache.store := by
  obtain ⟨_, _, _, _, granted, _⟩ | ⟨_, granted, _⟩ | ⟨_, _, same⟩ := answer_cases settings request cache
  · rw [granted] at refused
    cases refused
  · rw [granted] at refused
    cases refused
  · rw [same]

theorem answer_of_no_text {settings : Settings} {request : Request} {source : Value}
    (wanted : request.source? = some source) (noText : source.content? = none) :
    (cache.answer settings request).2 = cache := by
  cases request with
  | evaluate | compile =>
      cases wanted
      simp only [Cache.answer, evaluate_eq, compile_of_no_text noText]
  | contains => rfl
  | clear | precision => cases wanted

/-- A cache whose record accounts for it. Its counts depend on whether its compiler
always finds a tree, or never does. -/
structure Accounts (served : List String) (cache : Cache) : Prop where
  store : cache.store.Accounts served
  trees : (∀ call source, cache.compiler call source ≠ .ok none) → cache.store.HoldsTrees
  noTrees : (∀ call source tree, cache.compiler call source ≠ .ok (some tree)) → cache.store.HoldsNoTrees

theorem accounts_clear (cache : Cache) : cache.clear.Accounts [] where
  store := Store.accounts_empty
  trees _ := Store.holdsTrees_empty
  noTrees _ := Store.holdsNoTrees_empty

theorem accounts_ofCompiler (compiler : Compiler) : (ofCompiler compiler).Accounts [] :=
  accounts_clear (ofCompiler compiler)

theorem Accounts.answer (accounts : cache.Accounts served) (settings : Settings) (request : Request) :
    (cache.answer settings request).2.Accounts (request.record (cache.answer settings request).1 served) := by
  obtain ⟨text, tree, found, recorded, _, same⟩ | ⟨recorded, _, same⟩ | ⟨recorded, _, same⟩ :=
    answer_cases settings request cache
  · rw [same, recorded]
    exact ⟨accounts.store.fetch_ok found, fun finds => (accounts.trees finds).fetch (finds _ text),
      fun finds => (accounts.noTrees finds).fetch (finds _ text)⟩
  · rw [same, recorded]
    exact accounts_clear cache
  · rw [same, recorded]
    exact ⟨accounts.store, accounts.trees, accounts.noTrees⟩

theorem compiler_answer (settings : Settings) (request : Request) (cache : Cache) :
    (cache.answer settings request).2.compiler = cache.compiler := by
  obtain ⟨_, _, _, _, _, same⟩ | ⟨_, _, same⟩ | ⟨_, _, same⟩ := answer_cases settings request cache
  · rw [same, fetched]
  · rw [same, clear]
  · rw [same]

/-- What is common to a cache and the one put in its place is common to all caches before
and after. -/
theorem map_set_of_eq {Property : Type} (property : Cache → Property) {caches : List Cache} {number : Nat}
    {after : Cache} (held : caches[number]? = some cache) (same : property after = property cache) :
    (caches.set number after).map property = caches.map property := by
  obtain ⟨inPlace, rfl⟩ := List.getElem?_eq_some_iff.mp held
  have alsoInPlace : number < (caches.map property).length := by rwa [List.length_map]
  have kept := List.set_getElem_self alsoInPlace
  rw [List.getElem_map] at kept
  rw [List.map_set, same, kept]

/-- The tree of a source is all that evaluation takes from a cache: whatever comes of it,
the cache is as after compiling the source. -/
theorem answer_evaluate (settings : Settings) (source : Value) (arguments : List Value) (cache : Cache) :
    (cache.answer settings (.evaluate source arguments)).2 = (cache.answer settings (.compile source)).2 := by
  simp only [Cache.answer, evaluate_eq]

def parseable (sources : List String) : List String :=
  sources.filter fun source => (Expr.parse source).isOk

theorem mem_parseable {source : String} {sources : List String} :
    source ∈ parseable sources ↔ source ∈ sources ∧ ∃ expr, Expr.parse source = .ok expr := by
  rw [parseable, List.mem_filter]
  cases Expr.parse source with
  | ok expr => simp [Except.isOk, Except.toBool]
  | error error => simp [Except.isOk, Except.toBool]

theorem Parses.accounts_evaluate (parses : cache.Parses) {sources : List String}
    (accounts : cache.store.Accounts (parseable sources)) (settings : Settings) (source : String)
    (arguments : List Value) :
    (cache.evaluate settings (.text source) arguments).2.store.Accounts (parseable (source :: sources)) := by
  simp only [evaluate_eq, compile_of_text (Value.content?_text source), parseable, List.filter_cons]
  cases parsed : Expr.parse source with
  | ok expr => exact accounts.fetch_ok (parses.fetch_of_parse parsed)
  | error error =>
      rw [Store.fetch_error (parses.fetch_of_refused parsed)]
      exact accounts

theorem replacement_mem_readCodes {codes : List Nat} (unwritable : ∃ code ∈ codes, Text.character? code = none) :
    '\ufffd' ∈ (Text.readCodes codes).toList := by
  obtain ⟨code, member, noCharacter⟩ := unwritable
  rw [Text.readCodes, String.toList_ofList]
  exact List.mem_map.mpr ⟨code, member, by rw [Text.readChar, noCharacter, Option.getD_none]⟩

/-- A text that cannot be written is no expression, and nothing is held for what it is read
as. -/
theorem Parses.compile_unwritable (parses : cache.Parses) {codes : List Nat}
    (unwritable : ∃ code ∈ codes, Text.character? code = none) :
    ∃ error, (cache.compile (.unwritableText codes)).1 = .error (.source error) ∧
      (cache.compile (.unwritableText codes)).2.store = cache.store := by
  rw [compile_of_text (Value.content?_unwritableText codes)]
  cases parsed : Expr.parse (Text.readCodes codes) with
  | ok expr =>
      have writes := (Expr.parse_eq_ok_iff_writes _ expr).mp parsed
      cases writes.admitted _ (replacement_mem_readCodes unwritable)
  | error error =>
      have refused := parses.fetch_of_refused parsed
      refine ⟨error, ?_, Store.fetch_error refused⟩
      rw [refused]
      rfl

end Cache

/-!
## Engines that share caches
-/

namespace Workshop

variable {workshop : Workshop}

def recordExchange (engines : List Engine) (cache : Nat) (served : List String)
    (exchange : (Nat × Request) × Reply) : List String :=
  if engines[exchange.1.1]?.map (·.cache) = some cache then exchange.1.2.record exchange.2.answer served else served

/-- The texts that a cache gave trees for since it was cleared last, the latest first. -/
def recordOf (engines : List Engine) (cache : Nat) (steps : List (Nat × Request)) (replies : List Reply) :
    List String :=
  (steps.zip replies).foldl (recordExchange engines cache) []

structure Accounts (records : Nat → List String) (workshop : Workshop) : Prop where
  caches : ∀ (number : Nat) (cache : Cache), workshop.caches[number]? = some cache → cache.Accounts (records number)
  connected : ∀ engine ∈ workshop.engines, engine.cache < workshop.caches.length

variable {records : Nat → List String}

theorem accounts_of_fresh (fresh : ∀ cache ∈ workshop.caches, ∃ compiler, cache = .ofCompiler compiler)
    (connected : ∀ engine ∈ workshop.engines, engine.cache < workshop.caches.length) :
    workshop.Accounts fun _ => [] where
  caches number cache found := by
    obtain ⟨compiler, rfl⟩ := fresh cache (List.mem_of_getElem? found)
    exact Cache.accounts_ofCompiler compiler
  connected := connected

theorem Accounts.exists_ask? (accounts : workshop.Accounts records) {number : Nat}
    (existing : number < workshop.engines.length) (request : Request) :
    ∃ engine cache, workshop.engines[number]? = some engine ∧ workshop.caches[engine.cache]? = some cache ∧
      workshop.ask? number request =
        some (⟨(cache.answer engine.settings request).1, (cache.answer engine.settings request).2.store⟩,
          { workshop with caches := workshop.caches.set engine.cache (cache.answer engine.settings request).2 }) := by
  have found := List.getElem?_eq_getElem existing
  have connected := accounts.connected _ (List.getElem_mem existing)
  have held := List.getElem?_eq_getElem connected
  exact ⟨_, _, found, held, ask?_eq found held request⟩

theorem Accounts.ask? (accounts : workshop.Accounts records) {number : Nat}
    (existing : number < workshop.engines.length) (request : Request) :
    ∃ reply next, workshop.ask? number request = some (reply, next) ∧ next.engines = workshop.engines ∧
      next.caches.map (·.compiler) = workshop.caches.map (·.compiler) ∧
      next.Accounts fun cache => recordExchange workshop.engines cache (records cache) ((number, request), reply) := by
  obtain ⟨engine, cache, found, held, asked⟩ := accounts.exists_ask? existing request
  refine ⟨_, _, asked, rfl, ?_, ?_, ?_⟩
  · exact Cache.map_set_of_eq (·.compiler) held (Cache.compiler_answer _ _ _)
  · intro other after foundAfter
    simp only [recordExchange, found, Option.map_some, Option.some.injEq]
    by_cases same : engine.cache = other
    · subst same
      have small := (List.getElem?_eq_some_iff.mp held).1
      rw [List.getElem?_set_self small] at foundAfter
      cases foundAfter
      rw [if_pos rfl]
      exact (accounts.caches _ cache held).answer _ request
    · rw [List.getElem?_set_ne same] at foundAfter
      rw [if_neg same]
      exact accounts.caches other after foundAfter
  · intro engine member
    rw [List.length_set]
    exact accounts.connected engine member

theorem Accounts.run? (accounts : workshop.Accounts records) {steps : List (Nat × Request)}
    (addressed : ∀ step ∈ steps, step.1 < workshop.engines.length) :
    ∃ replies final, workshop.run? steps = some (replies, final) ∧ final.engines = workshop.engines ∧
      final.caches.map (·.compiler) = workshop.caches.map (·.compiler) ∧
      final.Accounts fun cache =>
        (steps.zip replies).foldl (recordExchange workshop.engines cache) (records cache) := by
  induction steps generalizing workshop records with
  | nil => exact ⟨[], workshop, rfl, rfl, rfl, accounts⟩
  | cons step steps ih =>
      obtain ⟨existing, others⟩ := List.forall_mem_cons.mp addressed
      obtain ⟨reply, next, asked, sameEngines, sameCompilers, nextAccounts⟩ := accounts.ask? existing step.2
      rw [← sameEngines] at others
      obtain ⟨replies, final, ran, finalEngines, finalCompilers, finalAccounts⟩ := ih nextAccounts others
      rw [sameEngines] at finalEngines finalAccounts
      refine ⟨reply :: replies, final, ?_, finalEngines, finalCompilers.trans sameCompilers, finalAccounts⟩
      simp only [Workshop.run?, asked, ran, Option.bind_eq_bind, Option.bind_some]

/-!
## Every reachable state
-/

structure Confines (before : Workshop) (number : Nat) (engine : Engine) (request : Request) (reply : Reply)
    (after : Workshop) : Prop where
  engines : after.engines = before.engines
  otherCaches : ∀ other, other ≠ engine.cache → after.caches[other]? = before.caches[other]?
  notCompiled : ∀ failure, reply.answer = .error (.ofCompiler failure) →
    after.caches.map (·.store) = before.caches.map (·.store)
  notText : ∀ source, request.source? = some source → (∀ content, source ≠ .text content) →
    (∀ codes, source ≠ .unwritableText codes) → after = before
  onlyLooked : ∀ source, request = .contains source → after = before
  evaluated : ∀ source arguments, request = .evaluate source arguments →
    ∃ compiled, before.ask? number (.compile source) = some (compiled, after)

theorem Accounts.confines (accounts : workshop.Accounts records) {number : Nat}
    (existing : number < workshop.engines.length) (request : Request) :
    ∃ engine reply next, workshop.engines[number]? = some engine ∧
      workshop.ask? number request = some (reply, next) ∧ workshop.Confines number engine request reply next := by
  obtain ⟨engine, cache, found, held, asked⟩ := accounts.exists_ask? existing request
  obtain ⟨small, atPlace⟩ := List.getElem?_eq_some_iff.mp held
  have same (unchanged : (cache.answer engine.settings request).2 = cache) :
      { workshop with caches := workshop.caches.set engine.cache (cache.answer engine.settings request).2 } =
        workshop := by
    rw [unchanged, ← atPlace, List.set_getElem_self]
  refine ⟨engine, _, _, found, asked, rfl, ?_, ?_, ?_, ?_, ?_⟩
  · intro other different
    exact List.getElem?_set_ne (Ne.symm different)
  · intro failure refused
    have isRefusal : refuses (cache.answer engine.settings request).1 = true :=
      (congrArg refuses refused).trans (by cases failure <;> rfl)
    exact Cache.map_set_of_eq (·.store) held (Cache.store_answer_of_refused isRefusal)
  · intro source wanted notCharacters notCodes
    have noText : source.content? = none := by
      cases source with
      | text content => exact absurd rfl (notCharacters content)
      | unwritableText codes => exact absurd rfl (notCodes codes)
      | _ => rfl
    exact same (Cache.answer_of_no_text wanted noText)
  · rintro source rfl
    exact same rfl
  · rintro source arguments rfl
    rw [Cache.answer_evaluate]
    exact ⟨_, ask?_eq found held (.compile source)⟩

end Workshop

/-- The entries and counts of a cache, told by its record: each text for which there was a
tree is held once, and each time it was either compiled or a hit. Hits need trees. -/
structure Cache.Balanced (served : List String) (cache : Cache) : Prop where
  counted : cache.store.hits + cache.store.compilations = served.length
  unique : cache.store.sources.Nodup
  held : ∀ source, source ∈ cache.store.sources ↔ source ∈ served
  withTrees : (∀ call source, cache.compiler call source ≠ .ok none) →
    cache.store.hits + cache.store.size = served.length ∧ cache.store.compilations = cache.store.size ∧
      cache.store.size = served.toFinset.card
  withoutTrees : (∀ call source tree, cache.compiler call source ≠ .ok (some tree)) → cache.store.hits = 0

theorem Cache.Accounts.balanced {cache : Cache} {served : List String} (accounts : cache.Accounts served) :
    cache.Balanced served where
  counted := accounts.store.counted
  unique := accounts.store.unique
  held := accounts.store.held
  withTrees finds := by
    have counted := accounts.store.counted
    have compiledOnce := (accounts.trees finds).compiledOnce
    exact ⟨compiledOnce ▸ counted, compiledOnce, accounts.store.size_eq⟩
  withoutTrees finds := (accounts.noTrees finds).noHits

namespace Workshop

variable {workshop : Workshop}

/-- Caches with any compilers, shared by any engines: wherever a run ends, the record of
each cache accounts for its entries and counts, and whatever is asked next changes no
more than it must. -/
theorem run?_balances (fresh : ∀ cache ∈ workshop.caches, ∃ compiler, cache = .ofCompiler compiler)
    (connected : ∀ engine ∈ workshop.engines, engine.cache < workshop.caches.length) {steps : List (Nat × Request)}
    (addressed : ∀ step ∈ steps, step.1 < workshop.engines.length) :
    ∃ replies final, workshop.run? steps = some (replies, final) ∧
      final.caches.map (·.compiler) = workshop.caches.map (·.compiler) ∧
      (∀ (number : Nat) (cache : Cache), final.caches[number]? = some cache →
        cache.Balanced (recordOf workshop.engines number steps replies)) ∧
      ∀ number < workshop.engines.length, ∀ request, ∃ engine reply next,
        workshop.engines[number]? = some engine ∧ final.ask? number request = some (reply, next) ∧
          final.Confines number engine request reply next := by
  obtain ⟨replies, final, ran, sameEngines, sameCompilers, accounts⟩ :=
    (accounts_of_fresh fresh connected).run? addressed
  refine ⟨replies, final, ran, sameCompilers, ?_, ?_⟩
  · intro number cache found
    exact (accounts.caches number cache found).balanced
  · intro number existing request
    rw [← sameEngines] at existing ⊢
    exact accounts.confines existing request

/-- Two engines that share a cache that parses, and one with a cache of which the compiler
makes nothing of any text. -/
def sharedAndIdle : Workshop where
  engines := [⟨.standard, 0⟩, ⟨⟨7, by decide, by decide⟩, 0⟩, ⟨.standard, 1⟩]
  caches := [.ofCompiler .parsing, .ofCompiler .idle]

/-- A quotient that fails after it was compiled and is a hit for the other engine, a text
that is no expression, and a text without a tree that is asked for twice. -/
def mixedSteps : List (Nat × Request) :=
  [(0, .evaluate (.text "x/y") [.integer 1, .integer 0]), (1, .compile (.text "x/y")), (1, .compile (.text "x+")),
    (2, .compile (.text "x")), (2, .evaluate (.text "x") [.integer 1])]

theorem run?_balances_sharedAndIdle :
    ∃ replies final, sharedAndIdle.run? mixedSteps = some (replies, final) ∧
      recordOf sharedAndIdle.engines 0 mixedSteps replies = ["x/y", "x/y"] ∧
      recordOf sharedAndIdle.engines 1 mixedSteps replies = ["x", "x"] ∧
      (∀ cache, final.caches[0]? = some cache → cache.store.hits + cache.store.compilations = 2) ∧
      ∀ cache, final.caches[1]? = some cache → cache.store.hits = 0 ∧ cache.store.compilations = 2 := by
  have fresh : ∀ cache ∈ sharedAndIdle.caches, ∃ compiler, cache = .ofCompiler compiler := by
    simp [sharedAndIdle]
  have addressed : ∀ step ∈ mixedSteps, step.1 < sharedAndIdle.engines.length := by
    simp [mixedSteps, sharedAndIdle]
  obtain ⟨replies, final, ran, sameCompilers, balanced, _⟩ := run?_balances fresh (by decide) addressed
  have recorded (cache : Nat) :
      (sharedAndIdle.run? mixedSteps).map (fun result => recordOf sharedAndIdle.engines cache mixedSteps result.1) =
        some (recordOf sharedAndIdle.engines cache mixedSteps replies) := by
    rw [ran]
    rfl
  have shared : some (recordOf sharedAndIdle.engines 0 mixedSteps replies) = some ["x/y", "x/y"] :=
    (recorded 0).symm.trans (by decide +kernel)
  have idle : some (recordOf sharedAndIdle.engines 1 mixedSteps replies) = some ["x", "x"] :=
    (recorded 1).symm.trans (by decide +kernel)
  refine ⟨replies, final, ran, Option.some.inj shared, Option.some.inj idle, ?_, ?_⟩
  · intro cache found
    rw [(balanced 0 cache found).counted, Option.some.inj shared]
    rfl
  · intro cache found
    have compiler : cache.compiler = .idle := by
      have same := congrArg (·[1]?) sameCompilers
      simpa [found, sharedAndIdle, Cache.ofCompiler] using same
    have counted := (balanced 1 cache found).counted
    have noHits := (balanced 1 cache found).withoutTrees fun call source tree found => by
      rw [compiler] at found
      cases found
    rw [Option.some.inj idle, noHits, Nat.zero_add] at counted
    exact ⟨noHits, counted⟩

end Workshop

end DecimalFormula
