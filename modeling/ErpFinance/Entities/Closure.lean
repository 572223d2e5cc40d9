import ErpFinance.Entities.Hierarchy
import Mathlib.Data.List.Find

/-!
# The paths of the hierarchy

The paths should be the closure of the stored parent: one for each entity and
each entity above it, with their distance.  A creation computes them by a
recursion that counts its own steps, and a move computes them for the moved
entity only.
-/

namespace ErpFinance.Entities

open Domain Library Library.Forest

/-! ## The rule and the condition -/

/-- No entity is above itself. -/
def Acyclic (tree : Tree) : Prop :=
  ∀ id k, 0 < k → above (parentOf tree.entities) k id ≠ some id

/-- There is a path of length k exactly between an entity and the k-th one above it. -/
def Closed (tree : Tree) : Prop :=
  ∀ a d k, 0 < k →
    (⟨a, d, k⟩ ∈ tree.paths.rows ↔ above (parentOf tree.entities) k d = some a)

/-- No entity has this one as its stored parent. -/
def Childless (tree : Tree) (id : Uuid) : Prop := ∀ c, parentOf tree.entities c ≠ some id

/-- The paths before the recursion of a creation. -/
def linkedPaths (tree : Tree) (id p : Uuid) : Table Path := tree.paths.insert ⟨p, id, 1⟩

/-- A creation below a parent writes its paths, and for each entity above the parent inserts the
row of the right length before the others.  An update does not ask for the parent's parent; and a
move that gets through, which it does not where its parent has a path to itself, is one of an entity
without children. -/
def Careful (tree : Tree) : Operation → Prop
  | .create o id (some p) =>
    Creates o tree id (some p) → o.linked = true ∧ o.extended = true ∧
      ∀ a k, 0 < k → above (parentOf tree.entities) k p = some a →
        ((o.order (hierarchyCTE (linkedPaths tree id p) id).dedup).find?
          (·.ancestorID = a)).map Path.depth = some (k + 1)
  | .update o id (some p) =>
    Reparents o tree id p →
      (getEntityParent o.sees tree id).bind Entity.parentID ≠ some p ∧
        (⟨p, p, 0⟩ ∉ tree.paths.rows → checkHierarchy tree.entities id (some p) = true →
          Childless tree id)
  | _ => True

def Guard (tree : Tree) (op : Operation) : Prop := Legal tree op ∧ Careful tree op

/-- The state that the condition keeps. -/
structure Kept (tree : Tree) : Prop where
  sane : Sane tree
  closed : Closed tree
  self : ∀ hp ∈ tree.paths.rows, hp.depth = 0 → hp.ancestorID = hp.descendantID

section Steps

variable {tree : Tree} {id p : Uuid}

theorem Kept.congr {after : Tree} (kept : Kept tree) (sane : Sane after)
    (parents : parentOf after.entities = parentOf tree.entities)
    (paths : after.paths = tree.paths) : Kept after where
  sane := sane
  closed a d k positive := by
    rw [paths, parents]
    exact kept.closed a d k positive
  self := paths.symm ▸ kept.self

variable {o : CreateOutcome}

end Steps

/-! ## A company of three -/

end ErpFinance.Entities
