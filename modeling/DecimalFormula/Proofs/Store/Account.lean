import Mathlib
import DecimalFormula.Proofs.Store

/-!
# The accounts of a store

Whenever a store gives a tree for a text, it counts either a hit or a compilation, and
afterwards it holds the text. So the texts that it gave trees for since it was empty
account for what it holds and for what it counted. How the counts divide depends on
what the compiler makes of texts: a text without a tree is held, and never a hit.
-/

set_option autoImplicit false

namespace DecimalFormula.Store

variable {Tree Error : Type} {compile : String → Except Error (Option Tree)} {store : Store Tree}

/-- The texts that something is held for. -/
def sources (store : Store Tree) : List String :=
  store.entries.map (·.1)

theorem mem_sources_of_find? {source : String} {tree : Option Tree} (found : store.find? source = some tree) :
    source ∈ store.sources := by
  obtain ⟨entry, held, _⟩ := Option.map_eq_some_iff.mp found
  have same : entry.1 = source := by simpa using List.find?_some held
  exact same ▸ List.mem_map_of_mem (List.mem_of_find?_eq_some held)

theorem exists_find?_of_mem {source : String} (member : source ∈ store.sources) :
    ∃ tree, store.find? source = some tree := by
  obtain ⟨entry, held, same⟩ := List.mem_map.mp member
  cases found : store.find? source with
  | some tree => exact ⟨tree, rfl⟩
  | none =>
      have missing := List.find?_eq_none.mp (Option.map_eq_none_iff.mp found) entry held
      exact absurd (beq_iff_eq.mpr same) missing

theorem contains_iff {source : String} : store.contains source = true ↔ source ∈ store.sources := by
  rw [contains, Option.isSome_iff_exists]
  constructor
  · rintro ⟨tree, found⟩
    exact mem_sources_of_find? found
  · exact exists_find?_of_mem

theorem sources_put (store : Store Tree) (source : String) (tree : Option Tree) :
    (store.put source tree).sources = source :: store.sources.filter (· != source) := by
  simp only [sources, put, List.map_cons, List.filter_map]
  rfl

theorem size_put_of_not_mem {source : String} (missing : source ∉ store.sources) (tree : Option Tree) :
    (store.put source tree).size = store.size + 1 := by
  have kept : store.entries.filter (·.1 != source) = store.entries := by
    refine List.filter_eq_self.mpr fun entry member => bne_iff_ne.mpr ?_
    rintro rfl
    exact missing (List.mem_map_of_mem member)
  simp only [size, put, kept, List.length_cons]

/-!
## Texts that were answered for
-/

/-- What a store holds and what it counted are accounted for by the texts it gave trees
for, the latest first. -/
structure Accounts (served : List String) (store : Store Tree) : Prop where
  counted : store.hits + store.compilations = served.length
  unique : store.sources.Nodup
  held : ∀ source, source ∈ store.sources ↔ source ∈ served

variable {served : List String}

theorem accounts_empty : (empty : Store Tree).Accounts [] where
  counted := rfl
  unique := List.nodup_nil
  held _ := Iff.rfl

theorem Accounts.hit (accounts : store.Accounts served) {source : String} (member : source ∈ store.sources) :
    { store with hits := store.hits + 1 }.Accounts (source :: served) where
  counted := by
    have counted := accounts.counted
    simp only [List.length_cons]
    omega
  unique := accounts.unique
  held other := by
    refine (accounts.held other).trans ⟨List.mem_cons_of_mem _, fun found => ?_⟩
    rcases List.mem_cons.mp found with rfl | earlier
    · exact (accounts.held other).mp member
    · exact earlier

theorem Accounts.put (accounts : store.Accounts served) (source : String) (tree : Option Tree) :
    (store.put source tree).Accounts (source :: served) where
  counted := by
    have counted := accounts.counted
    simp only [Store.put, List.length_cons]
    omega
  unique := by
    rw [sources_put, List.nodup_cons]
    exact ⟨by simp, accounts.unique.filter _⟩
  held other := by
    rw [sources_put, List.mem_cons, List.mem_cons, List.mem_filter, bne_iff_ne, accounts.held]
    constructor
    · exact Or.imp_right And.left
    · rintro (same | earlier)
      · exact .inl same
      · by_cases same : other = source
        · exact .inl same
        · exact .inr ⟨earlier, same⟩

/-- Each text is held once, so that there are as many entries as different texts. -/
theorem Accounts.size_eq (accounts : store.Accounts served) : store.size = served.toFinset.card := by
  have same : store.sources.toFinset = served.toFinset := by
    ext source
    rw [List.mem_toFinset, List.mem_toFinset, accounts.held]
  rw [← same, List.toFinset_card_of_nodup accounts.unique, sources, List.length_map, size]

theorem Accounts.fetch_ok (accounts : store.Accounts served) {source : String} {tree : Option Tree}
    (fetched : (store.fetch compile source).1 = .ok tree) :
    (store.fetch compile source).2.Accounts (source :: served) := by
  obtain ⟨_, found, hit⟩ | ⟨_, _, _, compiled⟩ | ⟨_, _, _, failed⟩ := fetch_cases compile source store
  · rw [hit]
    exact accounts.hit (mem_sources_of_find? found)
  · rw [compiled]
    exact accounts.put source _
  · rw [failed] at fetched
    cases fetched

theorem fetch_error {source : String} {error : Error} (fetched : (store.fetch compile source).1 = .error error) :
    (store.fetch compile source).2 = store := by
  obtain ⟨_, _, hit⟩ | ⟨_, _, _, compiled⟩ | ⟨_, _, _, failed⟩ := fetch_cases compile source store
  · rw [hit] at fetched
    cases fetched
  · rw [compiled] at fetched
    cases fetched
  · rw [failed]

/-- A tree that is asked for is a hit, or the compiler is asked for it. -/
theorem hits_fetch (compile : String → Except Error (Option Tree)) (source : String) (store : Store Tree) :
    (store.fetch compile source).2.hits + (store.misses source).toNat = store.hits + 1 := by
  obtain ⟨_, found, hit⟩ | ⟨_, missing, _, compiled⟩ | ⟨_, missing, _, failed⟩ := fetch_cases compile source store
  · rw [hit, misses_of_held found]
    rfl
  · rw [compiled, misses_of_not_held missing]
    rfl
  · rw [failed, misses_of_not_held missing]
    rfl

/-!
## Compilers that always find a tree, and compilers that never do
-/

/-- A store that holds trees only, each of which was compiled once. -/
structure HoldsTrees (store : Store Tree) : Prop where
  trees : ∀ source, store.find? source ≠ some none
  compiledOnce : store.compilations = store.size

theorem holdsTrees_empty : (empty : Store Tree).HoldsTrees where
  trees source found := by cases found
  compiledOnce := rfl

theorem HoldsTrees.fetch (holds : store.HoldsTrees) {source : String} (finds : compile source ≠ .ok none) :
    (store.fetch compile source).2.HoldsTrees := by
  obtain ⟨_, _, hit⟩ | ⟨tree, missing, compiled, fetched⟩ | ⟨_, _, _, failed⟩ := fetch_cases compile source store
  · rw [hit]
    exact ⟨holds.trees, holds.compiledOnce⟩
  · rw [fetched]
    have new : source ∉ store.sources := by
      intro member
      obtain ⟨_ | held, found⟩ := exists_find?_of_mem member
      · exact holds.trees source found
      · exact missing held found
    refine ⟨fun other found => ?_, ?_⟩
    · by_cases same : other = source
      · rw [same, find?_put_self] at found
        rw [Option.some.inj found] at compiled
        exact finds compiled
      · rw [find?_put_of_ne store tree same] at found
        exact holds.trees other found
    · rw [size_put_of_not_mem new, ← holds.compiledOnce, Store.put]
  · rw [failed]
    exact holds

/-- A store that holds texts without trees only, and has never had a hit. -/
structure HoldsNoTrees (store : Store Tree) : Prop where
  treeless : ∀ source tree, store.find? source ≠ some (some tree)
  noHits : store.hits = 0

theorem holdsNoTrees_empty : (empty : Store Tree).HoldsNoTrees where
  treeless source tree found := by cases found
  noHits := rfl

theorem HoldsNoTrees.fetch (holds : store.HoldsNoTrees) {source : String}
    (finds : ∀ tree, compile source ≠ .ok (some tree)) : (store.fetch compile source).2.HoldsNoTrees := by
  obtain ⟨_, found, _⟩ | ⟨tree, _, compiled, fetched⟩ | ⟨_, _, _, failed⟩ := fetch_cases compile source store
  · exact absurd found (holds.treeless source _)
  · rw [fetched]
    refine ⟨fun other held found => ?_, holds.noHits⟩
    by_cases same : other = source
    · rw [same, find?_put_self] at found
      rw [Option.some.inj found] at compiled
      exact finds held compiled
    · rw [find?_put_of_ne store tree same] at found
      exact holds.treeless other held found
  · rw [failed]
    exact holds

end DecimalFormula.Store
