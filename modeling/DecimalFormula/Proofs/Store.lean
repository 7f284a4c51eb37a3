import Mathlib
import DecimalFormula.Store

/-!
# Stores that hold what the compiler gives

A store is faithful to a compiler if it holds for a text only what the compiler makes
of the text. Whatever it was asked before, a faithful store answers as the compiler
does, and it is faithful again afterwards.
-/

set_option autoImplicit false

namespace DecimalFormula.Store

variable {Tree Error : Type} {compile : String → Except Error (Option Tree)} {store : Store Tree}

theorem fetch_of_held {source : String} {tree : Tree} (held : store.find? source = some (some tree)) :
    store.fetch compile source = (.ok (some tree), { store with hits := store.hits + 1 }) := by
  simp only [fetch, held]

theorem fetch_of_not_held {source : String} (missing : ∀ tree, store.find? source ≠ some (some tree)) :
    store.fetch compile source =
      match compile source with
      | .ok tree => (.ok tree, store.put source tree)
      | .error error => (.error error, store) := by
  rw [fetch]
  split
  · next tree held => exact absurd held (missing tree)
  · rfl

/-- All that can happen when a tree is asked for: it is held, or it is compiled and
then held, or it fails to compile. -/
theorem fetch_cases (compile : String → Except Error (Option Tree)) (source : String) (store : Store Tree) :
    (∃ tree, store.find? source = some (some tree) ∧
      store.fetch compile source = (.ok (some tree), { store with hits := store.hits + 1 })) ∨
    (∃ tree, (∀ held, store.find? source ≠ some (some held)) ∧ compile source = .ok tree ∧
      store.fetch compile source = (.ok tree, store.put source tree)) ∨
    (∃ error, (∀ held, store.find? source ≠ some (some held)) ∧ compile source = .error error ∧
      store.fetch compile source = (.error error, store)) := by
  by_cases found : ∃ tree, store.find? source = some (some tree)
  · obtain ⟨tree, held⟩ := found
    exact .inl ⟨tree, held, fetch_of_held held⟩
  · have missing := not_exists.mp found
    right
    rw [fetch_of_not_held missing]
    cases compile source with
    | ok tree => exact .inl ⟨tree, missing, rfl, rfl⟩
    | error error => exact .inr ⟨error, missing, rfl, rfl⟩

theorem misses_of_held {source : String} {tree : Tree} (held : store.find? source = some (some tree)) :
    store.misses source = false := by
  rw [misses, held]
  rfl

theorem misses_of_not_held {source : String} (missing : ∀ tree, store.find? source ≠ some (some tree)) :
    store.misses source = true := by
  rw [misses]
  match found : store.find? source with
  | none | some none => rfl
  | some (some tree) => exact absurd found (missing tree)

/-- What is held for a text is what the text compiles to. -/
def Faithful (compile : String → Except Error (Option Tree)) (store : Store Tree) : Prop :=
  ∀ ⦃source tree⦄, store.find? source = some tree → compile source = .ok tree

theorem faithful_empty : Faithful compile empty := by
  intro source tree found
  rw [find?_empty] at found
  cases found

theorem Faithful.put (faithful : Faithful compile store) {source : String} {tree : Option Tree}
    (compiled : compile source = .ok tree) : Faithful compile (store.put source tree) := by
  intro other held found
  by_cases same : other = source
  · rw [same, find?_put_self] at found
    rw [same, compiled, Option.some.inj found]
  · rw [find?_put_of_ne store tree same] at found
    exact faithful found

theorem Faithful.fetch_answer (faithful : Faithful compile store) (source : String) :
    (store.fetch compile source).1 = compile source := by
  obtain ⟨tree, held, fetched⟩ | ⟨tree, _, compiled, fetched⟩ | ⟨error, _, refused, fetched⟩ :=
    fetch_cases compile source store
  · rw [fetched, faithful held]
  · rw [fetched, compiled]
  · rw [fetched, refused]

theorem Faithful.fetch (faithful : Faithful compile store) (source : String) :
    Faithful compile (store.fetch compile source).2 := by
  obtain ⟨tree, _, fetched⟩ | ⟨tree, _, compiled, fetched⟩ | ⟨error, _, _, fetched⟩ :=
    fetch_cases compile source store
  · rw [fetched]
    exact faithful
  · rw [fetched]
    exact faithful.put compiled
  · rw [fetched]
    exact faithful

end DecimalFormula.Store
