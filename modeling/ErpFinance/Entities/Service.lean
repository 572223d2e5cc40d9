import ErpFinance.Domain.Basics
import ErpFinance.Library.Table
import Mathlib.Data.List.Dedup

/-!
# Entities and their hierarchy

The entities of a tenant form a forest along the stored parent.  A second table
holds, for each pair of an ancestor and a descendant, how far they are apart.
The service writes both: the paths of a new entity after its row, the paths of a
moved one in the transaction that moves it.
-/

namespace ErpFinance.Entities

open Domain Library

/-! ## Tables -/

/-- A row of `entities`: the columns of the hierarchy. -/
structure Entity where
  uuid : Uuid
  parentID : Option Uuid
  entityPath : Option String
  entityLevel : Nat
  /-- `deleted_at` is set. -/
  deleted : Bool
deriving DecidableEq

/-- A row of `hierarchy_paths`. -/
structure Path where
  ancestorID : Uuid
  descendantID : Uuid
  depth : Nat
deriving DecidableEq

instance : Keyed Entity Uuid := ⟨Entity.uuid⟩

/-- `PRIMARY KEY (tenant_id, ancestor_id, descendant_id)`, within a tenant. -/
instance : Keyed Path (Uuid × Uuid) := ⟨fun path => (path.ancestorID, path.descendantID)⟩

structure Tree where
  entities : Table Entity
  paths : Table Path

/-- The stored parent. -/
def parentOf (entities : Table Entity) (id : Uuid) : Option Uuid :=
  (entities.get? id).bind Entity.parentID

/-! ## Statements

The service's plain queries compare the tenant with the setting of their
connection: where it is not set they see no row. -/

section Queries

variable (sees : Bool) (tree : Tree)

def getEntity (id : Uuid) : Option Entity :=
  if sees then (tree.entities.get? id).filter (!·.deleted) else none

def getEntityChildren (ancestorID : Uuid) : List Entity :=
  if sees then
    (tree.paths.rows.filter fun hp => hp.ancestorID = ancestorID ∧ hp.depth = 1).filterMap fun hp =>
      (tree.entities.get? hp.descendantID).filter (!·.deleted)
  else []

def getEntityParent (descendantID : Uuid) : Option Entity :=
  if sees then
    (tree.paths.rows.filter fun hp => hp.descendantID = descendantID ∧ hp.depth = 1).findSome?
      fun hp => (tree.entities.get? hp.ancestorID).filter (!·.deleted)
  else none

def isEntityAncestor (ancestorID descendantID : Uuid) : Bool :=
  sees && tree.paths.rows.any fun hp =>
    hp.ancestorID = ancestorID ∧ hp.descendantID = descendantID ∧ 0 < hp.depth

def validateEntityParent (parentID : Uuid) : Bool := (getEntity sees tree parentID).isSome

end Queries

section Hierarchy

variable (paths : Table Path)

def deleteHierarchyPaths (id : Uuid) : Table Path :=
  paths.keep fun hp => hp.ancestorID ≠ id && hp.descendantID ≠ id

/-- One level of `hierarchy_cte`: each path that ends in an ancestor leads to a further one. -/
def hierarchyLevel (child : Uuid) : Nat → List Path
  | 0 => [⟨child, child, 0⟩]
  | n + 1 => (hierarchyLevel child n).flatMap fun h =>
    (paths.rows.filter (·.descendantID = h.ancestorID)).map fun hp =>
      ⟨hp.ancestorID, h.descendantID, h.depth + 1⟩

/-- `hierarchy_cte`, which goes on while `depth < 5`. -/
def hierarchyCTE (child : Uuid) : List Path :=
  (List.range 6).flatMap (hierarchyLevel paths child)

/-- `UpdateHierarchyPaths`.  The distinct rows come in an order of the database's choice, and a row
whose key is taken is left out. -/
def updateHierarchyPaths (order : List Path → List Path) (child : Uuid) : Table Path :=
  (order (hierarchyCTE paths child).dedup).foldl Table.insert paths

/-- Insert a row; a key that is taken makes the statement fail. -/
def insertPath (path : Path) : Option (Table Path) :=
  if paths.get? (path.ancestorID, path.descendantID) = none then some (paths.insert path) else none

/-- One level of `affected_entities`. -/
def affectedLevel (id : Uuid) : Nat → List Uuid
  | 0 => [id]
  | n + 1 => (affectedLevel id n).flatMap fun e =>
    (paths.rows.filter (·.ancestorID = e)).map Path.descendantID

/-- `affected_entities`, which goes on while `depth < 10`. -/
def affectedEntities (id : Uuid) : List Uuid := (List.range 11).flatMap (affectedLevel paths id)

/-- The rows of `insert_new_paths`: every path to the new parent, then a step to the entity, then
every path from it. -/
def newPaths (id newParentID : Uuid) : List Path :=
  let ancestorPaths := (paths.rows.filter (·.descendantID = newParentID)).map (fun hp =>
    (hp.ancestorID, hp.depth)) ++ [(newParentID, 0)]
  let descendantPaths := (paths.rows.filter (·.ancestorID = id)).map (fun hp =>
    (hp.descendantID, hp.depth)) ++ [(id, 0)]
  (affectedEntities paths id).flatMap fun e => ancestorPaths.flatMap fun a =>
    (descendantPaths.filter (·.1 = e)).map fun d => ⟨a.1, e, a.2 + d.2 + 1⟩

end Hierarchy

/-- `check_entity_hierarchy_depth`: the walk up from the new parent comes by no entity twice and
by at most so many. -/
def hierarchyDepthOk (entities : Table Entity) : Nat → List Uuid → Option Uuid → Bool
  | _, _, none => true
  | fuel, seen, some current =>
    if current ∈ seen then false
    else match fuel with
      | 0 => false
      | fuel + 1 =>
        hierarchyDepthOk entities fuel (current :: seen) (parentOf entities current)

/-- The trigger on inserts and on updates of the parent. -/
def checkHierarchy (entities : Table Entity) (id : Uuid) (parentID : Option Uuid) : Bool :=
  hierarchyDepthOk entities 8 [id] parentID

/-- `SET parent_id`. -/
def setParent (id newParentID : Uuid) (entities : Table Entity) : Table Entity :=
  entities.mapRows (fun entity =>
    if entity.uuid = id then { entity with parentID := some newParentID } else entity) (by
      intro row
      split <;> rfl)

/-- `SET deleted_at`. -/
def setDeleted (id : Uuid) (deleted : Bool) (entities : Table Entity) : Table Entity :=
  entities.mapRows (fun entity =>
    if entity.uuid = id then { entity with deleted := deleted } else entity) (by
      intro row
      split <;> rfl)

/-- The statement of `MoveEntityToNewParent`, whose parts all read the paths as they are at its
start. -/
def moveStatement (id newParentID : Uuid) (tree : Tree) : Option Tree := do
  let affected := affectedEntities tree.paths id
  let kept := tree.paths.keep fun hp => hp.descendantID ∉ affected
  let paths ← (newPaths tree.paths id newParentID).foldlM insertPath kept
  if checkHierarchy tree.entities id (some newParentID) then
    some { entities := setParent id newParentID tree.entities, paths := paths }
  else none

/-- The effect of `ON DELETE CASCADE` on children: no entity stays whose parent is gone. -/
def cascade (entities : Table Entity) : Table Entity :=
  let kept := entities.keep fun e => e.parentID.all fun p => (entities.get? p).isSome
  if kept.rows.length < entities.rows.length then cascade kept else entities
termination_by entities.rows.length

/-- `HardDeleteEntity`, with the cascades to children and to paths. -/
def hardDeleteStatement (id : Uuid) (tree : Tree) : Tree :=
  let entities := cascade (tree.entities.remove id)
  { entities := entities
    paths := tree.paths.keep fun hp =>
      (entities.get? hp.ancestorID).isSome && (entities.get? hp.descendantID).isSome }

/-! ## The repository and the service

An operation returns whether it succeeded, and leaves the tables in a state
either way. -/

/-- `createHierarchyPaths`; its two statements may fail, and the caller only logs that. -/
def createHierarchyPaths (linked extended : Bool) (order : List Path → List Path)
    (parentID childID : Uuid) (tree : Tree) : Tree :=
  if linked then
    match insertPath tree.paths ⟨parentID, childID, 1⟩ with
    | none => tree
    | some paths =>
      if extended then { tree with paths := updateHierarchyPaths paths order childID }
      else { tree with paths := paths }
  else tree

/-- What the database does while an entity is created: the plain queries see the tenant, the checks
of name, code and type pass and the row is accepted, and the two statements on the paths succeed,
with their rows in some order. -/
structure CreateOutcome where
  sees : Bool
  accepted : Bool
  linked : Bool
  extended : Bool
  order : List Path → List Path

/-- `CreateEntity`, with a new identifier.  Path and level of the row are the zero values of the
parameters. -/
def createEntity (o : CreateOutcome) (id : Uuid) (parentID : Option Uuid) (tree : Tree) :
    Bool × Tree :=
  if !o.accepted || !(parentID.all (validateEntityParent o.sees tree)) then (false, tree)
  else if (tree.entities.get? id).isSome || !checkHierarchy tree.entities id parentID then
    (false, tree)
  else
    let entity : Entity :=
      { uuid := id, parentID := parentID, entityPath := none, entityLevel := 0, deleted := false }
    let inserted := { tree with entities := tree.entities.insert entity }
    match parentID with
    | none => (true, inserted)
    | some p => (true, createHierarchyPaths o.linked o.extended o.order p id inserted)

def moveEntityToNewParent (sees : Bool) (id newParentID : Uuid) (tree : Tree) : Option Tree :=
  if sees then
    moveStatement id newParentID { tree with paths := deleteHierarchyPaths tree.paths id }
  else none

/-- `handleParentChange`.  The row that `GetEntityParent` returns is the parent's own. -/
def handleParentChange (sees : Bool) (id newParentID : Uuid) (tree : Tree) : Option Tree :=
  if (getEntityParent sees tree id).bind Entity.parentID = some newParentID then some tree
  else if !validateEntityParent sees tree newParentID then none
  else if isEntityAncestor sees tree id newParentID then none
  else moveEntityToNewParent sees id newParentID tree

/-- What the database does while an entity is updated: the plain queries see the tenant, the checks
of name, code and type pass, and the final statement succeeds. -/
structure UpdateOutcome where
  sees : Bool
  accepted : Bool
  written : Bool

/-- `UpdateEntity`.  The entity that the service has loaded never carries a parent, so a given
parent is always checked. -/
def updateEntity (o : UpdateOutcome) (id : Uuid) (parentID : Option Uuid) (tree : Tree) :
    Bool × Tree :=
  if (getEntity o.sees tree id).isNone || !o.accepted then (false, tree)
  else match parentID with
    | none => (o.written, tree)
    | some p =>
      if !validateEntityParent o.sees tree p || isEntityAncestor o.sees tree id p then
        (false, tree)
      else match handleParentChange o.sees id p tree with
        | none => (false, tree)
        | some moved => (o.written, moved)

/-- `DeleteEntity`; the deletion itself may be refused. -/
def deleteEntity (sees accepted : Bool) (id : Uuid) (permanent : Bool) (tree : Tree) :
    Bool × Tree :=
  if (getEntity sees tree id).isNone || !accepted then (false, tree)
  else if permanent then
    if getEntityChildren sees tree id ≠ [] then (false, tree)
    else (true, hardDeleteStatement id { tree with paths := deleteHierarchyPaths tree.paths id })
  else
    (true, { tree with entities := setDeleted id true tree.entities })

def restoreEntity (sees accepted : Bool) (id : Uuid) (tree : Tree) : Bool × Tree :=
  if !accepted then (false, tree)
  else if sees then
    (true, { tree with entities := setDeleted id false tree.entities })
  else (true, tree)

/-- An operation of the service. -/
inductive Operation
  | create (o : CreateOutcome) (id : Uuid) (parentID : Option Uuid)
  | update (o : UpdateOutcome) (id : Uuid) (parentID : Option Uuid)
  | delete (sees accepted : Bool) (id : Uuid) (permanent : Bool)
  | restore (sees accepted : Bool) (id : Uuid)

/-- Whether an operation succeeds, and the tables after it. -/
def answer (tree : Tree) : Operation → Bool × Tree
  | .create o id parentID => createEntity o id parentID tree
  | .update o id parentID => updateEntity o id parentID tree
  | .delete sees accepted id permanent => deleteEntity sees accepted id permanent tree
  | .restore sees accepted id => restoreEntity sees accepted id tree

def step (tree : Tree) (op : Operation) : Tree := (answer tree op).2

/-- Identifiers are never nil, and the database reorders rows without adding or losing any. -/
def Legal (_ : Tree) : Operation → Prop
  | .create o id _ => id ≠ Uuid.Nil ∧ ∀ rows, (o.order rows).Perm rows
  | _ => True

end ErpFinance.Entities
