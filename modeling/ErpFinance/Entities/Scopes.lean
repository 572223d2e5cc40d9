import ErpFinance.Entities.Closure
import ErpFinance.Iam.ResolvedSession

/-!
# Entity scopes

A user's session sees the entities that its scope admits.  The scope is read off
the level and the path of the user's entity, which no operation of the service
writes: the level of each row stays below that of a root, and its path absent.
-/

namespace ErpFinance.Entities

open Domain Iam Library Library.Forest

/-! ## Resolution -/

/-- `has_children`. -/
def hasChildren (entities : Table Entity) (id : Uuid) : Bool :=
  entities.rows.any fun c => c.parentID = some id && !c.deleted

/-- What a repository lists under a scope. -/
def admits (scope : EntityScope) (entity : Entity) : Bool :=
  match scope.type with
  | .all => true
  | .subtree => entity.entityPath.any fun path => scope.pathPrefix.toList.isPrefixOf path.toList
  | .entity => scope.entityID = some entity.uuid

/-! ## The rule -/

/-- The scope of an entity is over everything for a root only, and else over the entity and those
below it. -/
structure Exact (tree : Tree) (id : Uuid) (scope : EntityScope) : Prop where
  whole : scope.type = .all → parentOf tree.entities id = none
  subtree : scope.type ≠ .all → ∀ entity ∈ tree.entities.rows,
    (admits scope entity = true ↔ ∃ k, above (parentOf tree.entities) k entity.uuid = some id)

/-- Creations and updates only. -/
def Grows (tree : Tree) (op : Operation) : Prop :=
  Legal tree op ∧ match op with
    | .create .. => True
    | .update .. => True
    | _ => False

section Steps

variable {tree : Tree}

variable {id : Uuid}

end Steps

/-! ## Scopes in a company -/

end ErpFinance.Entities
