import ErpFinance.Compiler.Compile

/-!
# The runtime registry

The indexes of a compiled schema by every name an entity has, and by the path
of a route.  A later entity or route of one key replaces an earlier one.
-/

namespace ErpFinance.Runtime

open Compiler Library

structure RuntimeRegistry where
  byQualifiedName : String → Option EntitySchema
  byTable : String → Option EntitySchema
  byPermission : String → Option EntitySchema
  byWorkflow : String → Option EntitySchema
  byEvent : String → Option EntitySchema
  byCache : String → Option EntitySchema
  byMetric : String → Option EntitySchema
  byRoute : String → Option RouteDescriptor

def newRuntimeRegistry (schema : CompiledSchema) : RuntimeRegistry where
  byQualifiedName := index EntitySchema.qualifiedName schema.entities
  byTable := index EntitySchema.tableName schema.entities
  byPermission := index EntitySchema.permissionNamespace schema.entities
  byWorkflow := index EntitySchema.workflowNamespace schema.entities
  byEvent := index EntitySchema.eventNamespace schema.entities
  byCache := index EntitySchema.cacheNamespace schema.entities
  byMetric := index EntitySchema.metricNamespace schema.entities
  byRoute := index RouteDescriptor.path schema.routes

/-- A lookup in one of the indexes. -/
def find {α : Type} (entries : String → Option α) (key before after : String) : Except String α :=
  match entries key with
  | some value => .ok value
  | none => .error ("runtime: " ++ before ++ " " ++ quoted key ++ after)

namespace RuntimeRegistry

variable (r : RuntimeRegistry) (key : String)

def findEntity : Except String EntitySchema :=
  find r.byQualifiedName key "entity" " not found in compiled schema"

def findTable : Except String EntitySchema := find r.byTable key "no entity with table" ""

def findPermission : Except String EntitySchema :=
  find r.byPermission key "no entity with permission namespace" ""

def findWorkflow : Except String EntitySchema :=
  find r.byWorkflow key "no entity with workflow namespace" ""

def findEvent : Except String EntitySchema :=
  find r.byEvent key "no entity with event namespace" ""

def findCache : Except String EntitySchema :=
  find r.byCache key "no entity with cache namespace" ""

def findMetric : Except String EntitySchema :=
  find r.byMetric key "no entity with metric namespace" ""

def findRoute : Except String RouteDescriptor :=
  find r.byRoute key "no route descriptor for path" ""

end RuntimeRegistry

section Find

variable {α : Type} {key : α → String} {items : List α} {item : α}

theorem find_index_of_unique (member : item ∈ items)
    (unique : ∀ other ∈ items, key other = key item → other = item) (before after : String) :
    find (index key items) (key item) before after = .ok item := by
  rw [find, index_of_unique member unique]

/-- A value is found under its key by an index of items whose keys differ. -/
theorem find_index (nodup : (items.map key).Nodup) (member : item ∈ items)
    (before after : String) : find (index key items) (key item) before after = .ok item := by
  rw [find, index_key nodup member]

end Find

end ErpFinance.Runtime
