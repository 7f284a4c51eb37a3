import DecimalFormula.Evaluation.Basic
import DecimalFormula.Expr.Parser
import DecimalFormula.Settings
import DecimalFormula.Store

/-!
# Engines

An engine evaluates source texts under its settings and keeps what it compiled in a
cache, a store with the compiler that fills it. Several engines may use one cache:
what is held for a text does not depend on settings. A compiler may be any function of
the host's, with a state of its own and failures of its own. A workshop holds engines
and caches, and its steps say what callers can ask of them.
-/

set_option autoImplicit false

namespace DecimalFormula

/-- Why a compiler gives nothing for a text: an error in the text, or a failure of its
own. -/
inductive CompilerFailure where
  | source (cause : SourceError)
  | foreign (typeName message : String)
  deriving DecidableEq, Repr

/-- What a compiler gives for a text. It may depend on the calls before, which are known
by their number. -/
abbrev Compiler :=
  Nat → String → Except CompilerFailure (Option Expr)

namespace Compiler

/-- What parsing gives for a text. -/
def parse (source : String) : Except CompilerFailure (Option Expr) :=
  ((Expr.parse source).map some).mapError .source

def parsing : Compiler := fun _ =>
  parse

/-- The compiler that accepts every text and makes nothing of it. -/
def idle : Compiler := fun _ _ =>
  .ok none

end Compiler

structure Cache where
  compiler : Compiler
  /-- How often the compiler was called. -/
  calls : Nat
  store : Store Expr

/-- An empty cache. -/
def Cache.ofCompiler (compiler : Compiler) : Cache :=
  ⟨compiler, 0, .empty⟩

inductive EngineFailure where
  | sourceNotText (typeName : String)
  | notAKey (fault : String)
  | source (cause : SourceError)
  | compiler (typeName message : String)
  | evaluation (cause : EvaluationFailure)
  deriving DecidableEq, Repr

namespace EngineFailure

def ofCompiler : CompilerFailure → EngineFailure
  | .source cause => .source cause
  | .foreign typeName message => .compiler typeName message

def message : EngineFailure → String
  | .sourceNotText typeName => "expression source must be str, got " ++ typeName
  | .notAKey fault => fault
  | .source cause => cause.message
  | .compiler _ message => message
  | .evaluation cause => cause.message

/-- Whether a failure is one that every user of expressions must expect: a malformed
source text or an evaluation error. An error about a text that cannot be written is not
among them, because it cannot be reported. -/
def isExpected : EngineFailure → Bool
  | .source (.malformed _) => true
  | .evaluation (.evaluation (.unwritableArgument _)) => false
  | .evaluation (.evaluation _) => true
  | _ => false

end EngineFailure

namespace Cache

def compile (source : Value) (cache : Cache) : Except EngineFailure (Option Expr) × Cache :=
  match source.content? with
  | some text =>
      let (result, store) := cache.store.fetch (cache.compiler cache.calls) text
      (result.mapError .ofCompiler, { cache with store, calls := cache.calls + (cache.store.misses text).toNat })
  | none => (.error (.sourceNotText source.typeName), cache)

/-- Whether anything is held for a source. Nothing is held for what is no text. -/
def contains (source : Value) (cache : Cache) : Except EngineFailure Bool :=
  match source.content?, source.keyFault? with
  | some text, _ => .ok (cache.store.contains text)
  | none, none => .ok false
  | none, some fault => .error (.notAKey fault)

def clear (cache : Cache) : Cache :=
  { cache with store := .empty }

end Cache

/-- The value of what a source was compiled to. -/
def Scope.evaluateTree (scope : Scope) : Option Expr → Except EvaluationFailure Decimal
  | some expr => scope.evaluate expr
  | none => .error (.foreignNode ⟨Value.nothing.typeName⟩)

/-- The value of a source for some arguments under some settings, with the cache as it
is afterwards. -/
def Cache.evaluate (settings : Settings) (source : Value) (arguments : List Value) (cache : Cache) :
    Except EngineFailure Decimal × Cache :=
  match cache.compile source with
  | (.ok tree, cache) => ((Scope.evaluateTree ⟨settings.context, arguments⟩ tree).mapError .evaluation, cache)
  | (.error failure, cache) => (.error failure, cache)

/-- An engine: its settings and the number of the cache that it uses. -/
structure Engine where
  settings : Settings
  cache : Nat
  deriving DecidableEq, Repr

inductive Request where
  | evaluate (source : Value) (arguments : List Value)
  | compile (source : Value)
  | contains (source : Value)
  | clear
  | precision

inductive Answer where
  | value (number : Decimal)
  | tree (expr : Option Expr)
  | truth (held : Bool)
  | done
  | precision (digits : Nat)
  deriving DecidableEq, Repr

/-- Answers a request to an engine with the given settings that uses the cache. -/
def Cache.answer (settings : Settings) (request : Request) (cache : Cache) :
    Except EngineFailure Answer × Cache :=
  match request with
  | .evaluate source arguments =>
      let (result, cache) := cache.evaluate settings source arguments
      (result.map .value, cache)
  | .compile source =>
      let (result, cache) := cache.compile source
      (result.map .tree, cache)
  | .contains source => ((cache.contains source).map .truth, cache)
  | .clear => (.ok .done, cache.clear)
  | .precision => (.ok (.precision settings.precision), cache)

/-- An answer, and the store of the engine's cache after it. -/
structure Reply where
  answer : Except EngineFailure Answer
  store : Store Expr

structure Workshop where
  engines : List Engine
  caches : List Cache

namespace Workshop

/-- Adds an engine that uses a cache of the workshop, by its number, or one of its
own. -/
def addEngine (workshop : Workshop) (settings : Settings) : Option Nat → Workshop
  | some cache => { workshop with engines := workshop.engines ++ [⟨settings, cache⟩] }
  | none =>
      { engines := workshop.engines ++ [⟨settings, workshop.caches.length⟩]
        caches := workshop.caches ++ [.ofCompiler .parsing] }

/-- The cache that an engine uses, if both exist. -/
def cacheOf? (workshop : Workshop) (engine : Engine) : Option Cache :=
  workshop.caches[engine.cache]?

def ask? (workshop : Workshop) (number : Nat) (request : Request) : Option (Reply × Workshop) := do
  let engine ← workshop.engines[number]?
  let cache ← workshop.cacheOf? engine
  let (answer, cache) := cache.answer engine.settings request
  some (⟨answer, cache.store⟩, { workshop with caches := workshop.caches.set engine.cache cache })

def run? (workshop : Workshop) : List (Nat × Request) → Option (List Reply × Workshop)
  | [] => some ([], workshop)
  | (number, request) :: requests => do
      let (reply, workshop) ← workshop.ask? number request
      let (replies, workshop) ← workshop.run? requests
      some (reply :: replies, workshop)

end Workshop

end DecimalFormula
