/-!
# Stores of compiled texts

A store remembers what the texts given to it were compiled to, so that each text is
compiled once. Texts are told apart exactly. A compiler may also find that a text has
no tree; the store holds that too, but asks the compiler again the next time. It
counts the compilations and the times that it could answer by itself; clearing it
starts both counts anew.
-/

set_option autoImplicit false

namespace DecimalFormula

/-- A memory of compiled texts, the latest first. -/
structure Store (Tree : Type) where
  entries : List (String × Option Tree)
  compilations : Nat
  hits : Nat
  deriving DecidableEq, Repr

namespace Store

variable {Tree Error : Type}

def empty : Store Tree :=
  ⟨[], 0, 0⟩

def find? (store : Store Tree) (source : String) : Option (Option Tree) :=
  (store.entries.find? (·.1 == source)).map (·.2)

def contains (store : Store Tree) (source : String) : Bool :=
  (store.find? source).isSome

def size (store : Store Tree) : Nat :=
  store.entries.length

/-- Holds what a text was just compiled to, in place of what was held for it. -/
def put (store : Store Tree) (source : String) (tree : Option Tree) : Store Tree :=
  { store with
    entries := (source, tree) :: store.entries.filter (·.1 != source)
    compilations := store.compilations + 1 }

/-- Whether the compiler has to be asked for the tree of a text: unless one is held. -/
def misses (store : Store Tree) (source : String) : Bool :=
  (store.find? source).join.isNone

/-- The tree of a text, compiled if none is held. A text that fails to compile leaves
the store as it was. -/
def fetch (compile : String → Except Error (Option Tree)) (source : String) (store : Store Tree) :
    Except Error (Option Tree) × Store Tree :=
  match store.find? source with
  | some (some tree) => (.ok (some tree), { store with hits := store.hits + 1 })
  | _ =>
      match compile source with
      | .ok tree => (.ok tree, store.put source tree)
      | .error error => (.error error, store)

@[simp] theorem find?_empty (source : String) : (empty : Store Tree).find? source = none := rfl

@[simp] theorem find?_put_self (store : Store Tree) (source : String) (tree : Option Tree) :
    (store.put source tree).find? source = some tree := by
  simp [find?, put]

@[simp] theorem find?_put_of_ne (store : Store Tree) {source other : String} (tree : Option Tree)
    (different : other ≠ source) : (store.put source tree).find? other = store.find? other := by
  have skipped : (source == other) = false := by simp [Ne.symm different]
  simp only [find?, put, List.find?_cons, skipped, List.find?_filter]
  congr 2
  funext entry
  by_cases same : entry.1 = other <;> simp [same, different]

end Store

end DecimalFormula
