import ErpFinance.Def.Entity

/-!
# Compiled schemas

An entity's compiled schema, with the names and namespaces derived from its
definition, the routes emitted for it and the capability grants emitted from
its permission set.
-/

namespace ErpFinance.Compiler

open Def

structure EntitySchema where
  qualifiedName : String
  localName : String
  module : String
  isSystem : Bool
  allowAudit : Bool
  apiResource : String
  routePrefix : String
  eventNamespace : String
  workflowNamespace : String
  permissionNamespace : String
  metricNamespace : String
  cacheNamespace : String
  tableName : String
  fields : List FieldDef
  edges : List EdgeDef
  actions : List ActionDef
  permissions : PermissionSet
deriving DecidableEq

def entityAPIResource (d : EntityDefinition) (localName : String) : String :=
  if d.pluralName ≠ "" then d.pluralName else pluralizeLocal localName

def buildEntitySchema (d : EntityDefinition) : EntitySchema :=
  let qname := qualifiedName d
  let localName := localName d
  let resource := entityAPIResource d localName
  let dotNS := d.module ++ "." ++ localName
  { qualifiedName := qname
    localName := localName
    module := d.module
    isSystem := d.isSystem
    allowAudit := d.allowAudit
    apiResource := resource
    routePrefix := "/api/v1/" ++ d.module ++ "/" ++ resource
    eventNamespace := dotNS
    workflowNamespace := dotNS
    permissionNamespace := qname
    metricNamespace := qname
    cacheNamespace := d.module ++ ":" ++ localName
    tableName := if d.isSystem then qname else "custom_entity_records"
    fields := d.fields
    edges := d.edges
    actions := d.actions
    permissions := d.permissions }

/-- `ActionsByName`; of two actions of one name the map keeps the last. -/
def EntitySchema.actionsByName (es : EntitySchema) (name : String) : Option ActionDef :=
  es.actions.reverse.find? (fun a => a.name = name)

/-! ## Routes -/

structure RouteDescriptor where
  method : String
  path : String
  entityQualifiedName : String
  module : String
  resource : String
  operation : String
  actionName : String := ""
  requiredPermission : String

def crudRoute (es : EntitySchema) (method path operation requiredPermission : String) :
    RouteDescriptor :=
  { method := method, path := path, entityQualifiedName := es.qualifiedName, module := es.module
    resource := es.apiResource, operation := operation, requiredPermission := requiredPermission }

def actionRoute (es : EntitySchema) (action : ActionDef) : RouteDescriptor :=
  { method := if action.method = "" then "POST" else action.method
    path := es.routePrefix ++ "/:id/" ++ action.name
    entityQualifiedName := es.qualifiedName
    module := es.module
    resource := es.apiResource
    operation := "action"
    actionName := action.name
    requiredPermission := if action.permission = "" then "write" else action.permission }

def emitRoutes (es : EntitySchema) : List RouteDescriptor :=
  [crudRoute es "GET" es.routePrefix "list" "read",
   crudRoute es "GET" (es.routePrefix ++ "/:id") "get" "read",
   crudRoute es "POST" es.routePrefix "create" "create",
   crudRoute es "PATCH" (es.routePrefix ++ "/:id") "update" "write",
   crudRoute es "DELETE" (es.routePrefix ++ "/:id") "delete" "delete"] ++
    es.actions.map (actionRoute es)

/-- `auth.CapabilityGrant`. -/
structure CapabilityGrant where
  permission : String
  entity : String
  action : String

def emitCapabilityGrants (es : EntitySchema) : List CapabilityGrant :=
  let grant (action : String) (perms : List String) : List CapabilityGrant :=
    perms.map fun perm => { permission := perm, entity := es.qualifiedName, action := action }
  grant "create" es.permissions.create ++ grant "read" es.permissions.read ++
    grant "write" es.permissions.write ++ grant "delete" es.permissions.delete ++
    es.permissions.actions.flatMap fun (actionName, perms) => grant actionName perms

end ErpFinance.Compiler
