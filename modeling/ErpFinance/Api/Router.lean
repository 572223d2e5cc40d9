import ErpFinance.Auth.Casbin
import ErpFinance.Compiler.Compile
import ErpFinance.Domain.Basics

/-!
# The router

The routes mounted for the entities of a schema, the permission check in front
of each, and the handler of custom actions.  What Fiber makes of a path is a
parameter; so is the parser of record identifiers.
-/

namespace ErpFinance.Api

open Auth Compiler Def Domain Library

/-- `TrimRight(path, '/')`. -/
def trimSlashes (path : String) : String := String.ofList (path.toList.rdropWhile (· = '/'))

/-- The path of a route or group mounted in a group, and the parameters a pattern declares. -/
structure Fiber where
  groupPath : String → String → String
  declares : String → String → Bool

/-- A group's prefix loses its slashes at the end, and `:id` between slashes is a parameter. -/
structure Fiber.Documented (fiber : Fiber) : Prop where
  groupPath_eq : ∀ pre rest, fiber.groupPath pre ("/" ++ rest) = trimSlashes pre ++ "/" ++ rest
  declares_id : ∀ pre rest, fiber.declares (pre ++ "/:id/" ++ rest) "id" = true

/-! ## Mounted routes -/

/-- The methods of the entity and history handlers. -/
inductive Handler where
  | list
  | create
  | get
  | update
  | delete
  | action
  | history
deriving DecidableEq

/-- A route with the entity its handler was made for and the operation its check names. -/
structure MountedRoute where
  entity : EntitySchema
  method : String
  path : String
  check : Option String
  handler : Handler

section Register

variable (fiber : Fiber) (wired : Bool) (es : EntitySchema)

/-- A route in the entity's group; the check stands there when an evaluator is wired. -/
def mountRoute (method path operation : String) (handler : Handler) : MountedRoute where
  entity := es
  method := method
  path := fiber.groupPath
    (fiber.groupPath "/api/v1" ("/" ++ es.module ++ "/" ++ es.apiResource)) path
  check := if wired then some operation else none
  handler := handler

def mountCrud : List MountedRoute :=
  [mountRoute fiber wired es "GET" "/" "read" .list,
   mountRoute fiber wired es "POST" "/" "create" .create,
   mountRoute fiber wired es "GET" "/:id" "read" .get,
   mountRoute fiber wired es "PATCH" "/:id" "write" .update,
   mountRoute fiber wired es "DELETE" "/:id" "delete" .delete]

def mountAction (action : ActionDef) : MountedRoute :=
  mountRoute fiber wired es "POST" ("/:id/" ++ action.name) action.name .action

def mountHistory : List MountedRoute :=
  if es.allowAudit then [mountRoute fiber wired es "GET" "/:id/history" "read" .history] else []

/-- `Register`, entity by entity. -/
def register (schema : CompiledSchema) : List MountedRoute :=
  schema.entities.flatMap fun es =>
    mountCrud fiber wired es ++ es.actions.map (mountAction fiber wired es) ++
      mountHistory fiber wired es

end Register

/-! ## Requests -/

/-- A request on a route gives a value to every parameter of its pattern. -/
structure Request where
  viewer : ViewerContext
  values : String → String

inductive Response where
  | forbidden (entityName action : String)
  | badRequest (field message : String)
  | notFound (code message : String)
  | ran (handler : ActionHandlerFunc) (recordID : Uuid)
  /-- The rest of a standard operation, which is not modelled here. -/
  | operation (handler : Handler)
  | panicked
deriving DecidableEq

/-- `c.Params`: the value of a declared parameter, else the empty text. -/
def params (fiber : Fiber) (m : MountedRoute) (request : Request) (name : String) : String :=
  if fiber.declares m.path name then request.values name else ""

/-- `RequirePermission`; a platform admin passes without being evaluated. -/
def requirePermission (eval : PolicyEvaluator) (entityName action : String)
    (viewer : ViewerContext) : Bool :=
  viewer.isPlatformAdmin || eval viewer entityName action

/-- The check in front of a route; the object is the entity's permission namespace. -/
def MountedRoute.passes (m : MountedRoute) (eval : PolicyEvaluator) (viewer : ViewerContext) :
    Bool :=
  match m.check with
  | some operation => requirePermission eval m.entity.permissionNamespace operation viewer
  | none => true

def action (fiber : Fiber) (parse : String → Option Uuid) (m : MountedRoute) (request : Request) :
    Response :=
  match parse (params fiber m request "id") with
  | none => .badRequest "id" "must be a valid UUID"
  | some id =>
    let actionName := params fiber m request "action"
    match m.entity.actionsByName actionName with
    | none => .notFound "action.not_found" ("Action not found: " ++ actionName)
    | some actionDef =>
      match actionDef.handlerFunc with
      | some handler => .ran handler id
      | none => .panicked

def serve (fiber : Fiber) (parse : String → Option Uuid) (eval : PolicyEvaluator)
    (m : MountedRoute) (request : Request) : Response :=
  if m.passes eval request.viewer then
    if m.handler = .action then action fiber parse m request else .operation m.handler
  else .forbidden m.entity.permissionNamespace (m.check.getD "")

theorem serve_action {fiber : Fiber} {parse : String → Option Uuid} {eval : PolicyEvaluator}
    {m : MountedRoute} {request : Request} (passes : m.passes eval request.viewer = true)
    (handler : m.handler = .action) :
    serve fiber parse eval m request = action fiber parse m request := by
  rw [serve, if_pos passes, if_pos handler]

section Paths

variable {path before : String}

theorem trimSlashes_append_slash (before : String) :
    trimSlashes (before ++ "/") = trimSlashes before := by
  rw [trimSlashes, trimSlashes, String.toList_append, show "/".toList = ['/'] from rfl,
    List.rdropWhile_concat_pos _ _ _ (by simp)]

theorem trimSlashes_eq_self_iff : trimSlashes path = path ↔ hasSuffix path "/" = false := by
  rw [← Bool.not_eq_true, hasSuffix_iff]
  constructor
  · rintro kept ⟨before, rfl⟩
    rw [trimSlashes_append_slash, trimSlashes, ← String.toList_inj, String.toList_ofList,
      String.toList_append] at kept
    have shorter := (List.rdropWhile_prefix (· = '/') before.toList).length_le
    rw [kept, List.length_append] at shorter
    exact absurd shorter (by simp)
  · intro ends
    rw [trimSlashes, ← String.toList_inj, String.toList_ofList, List.rdropWhile_eq_self_iff]
    intro nonempty slash
    refine ends ⟨String.ofList path.toList.dropLast, ?_⟩
    rw [← String.toList_inj, String.toList_append, String.toList_ofList]
    conv_lhs => rw [← List.dropLast_append_getLast nonempty]
    simpa using slash

theorem hasSuffix_trimSlashes (path : String) : hasSuffix (trimSlashes path) "/" = false := by
  rw [← trimSlashes_eq_self_iff]
  simp [trimSlashes, List.rdropWhile_idempotent]

end Paths

end ErpFinance.Api
