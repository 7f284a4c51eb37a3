/-!
# Suggestions

Which known name a mistyped one may have meant: the known names that have enough in
common with it. Two names have in common their longest common part, and what the
texts before it and the texts after it have in common in turn.
-/

set_option autoImplicit false

namespace DecimalFormula.CommandLine

/-- How many characters two texts begin with together. -/
def commonLead : List Char → List Char → Nat
  | a :: left, b :: right => if a == b then commonLead left right + 1 else 0
  | _, _ => 0

/-- A part that two texts share: where it starts in each, and its length. -/
structure SharedPart where
  left : Nat
  right : Nat
  length : Nat

/-- The longest part that two texts share, and of several the first. -/
def longestShared (left right : List Char) : SharedPart :=
  let parts := (List.range left.length).flatMap fun i =>
    (List.range right.length).map fun j =>
      (⟨i, j, commonLead (left.drop i) (right.drop j)⟩ : SharedPart)
  parts.foldl (fun best part => if best.length < part.length then part else best) ⟨0, 0, 0⟩

/-- How many characters two texts have in common, of which the first is no longer
than the bound. -/
def sharedCount : Nat → List Char → List Char → Nat
  | 0, _, _ => 0
  | bound + 1, left, right =>
      let part := longestShared left right
      if part.length = 0 then 0
      else
        part.length + sharedCount bound (left.take part.left) (right.take part.right) +
          sharedCount bound (left.drop (part.left + part.length)) (right.drop (part.right + part.length))

/-- Whether a known name is close to a mistyped one: three fifths of the characters of
both are shared. -/
def isClose (known typed : String) : Bool :=
  let shared := sharedCount known.length known.toList typed.toList
  3 * (known.length + typed.length) ≤ 10 * shared

end DecimalFormula.CommandLine
