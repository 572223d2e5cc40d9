import ErpFinance.Api.Router
import ErpFinance.Runtime.Lookup

/-!
# Mounted routes and descriptors

When the routes that `Register` mounts, the checks in front of them and the
action dispatcher agree with the descriptors and permission sets that the
compiler worked from.  For the standard operations they do; every action is
mounted by `POST` under a check of its own name and without the parameter that
the dispatcher reads.
-/

namespace ErpFinance.Api

open Auth Compiler Def Domain Library
open Registry

def listedPermissions (ps : PermissionSet) (operation : String) : List String :=
  (if operation = "create" then ps.create else []) ++
    (if operation = "read" then ps.read else []) ++
    (if operation = "write" then ps.write else []) ++
    (if operation = "delete" then ps.delete else []) ++
    (ps.actions.filter fun entry => entry.1 = operation).flatMap Prod.snd

/-- Method and path; a slash at the end of a path is not significant. -/
def MountedRoute.place (m : MountedRoute) : String × String := (m.method, trimSlashes m.path)

def routePlace (r : RouteDescriptor) : String × String := (r.method, trimSlashes r.path)

/-- The audit history of a record is served without a descriptor. -/
def entityRoutes (fiber : Fiber) (wired : Bool) (schema : CompiledSchema) : List MountedRoute :=
  (register fiber wired schema).filter fun m => m.handler ≠ .history

/-- Mounted routes, checks and handlers do what descriptors and permission sets say. -/
structure Agreement (fiber : Fiber) (parse : String → Option Uuid) (casbin : Enforcer)
    (schema : CompiledSchema) : Prop where
  routes : ((entityRoutes fiber true schema).map MountedRoute.place).Perm
    (schema.routes.map routePlace)
  authorized : ∀ rolePerms viewer, RolesApart schema.capabilityGrants rolePerms viewer →
    viewer.isPlatformAdmin = false → ∀ es ∈ schema.entities, ∀ r ∈ emitRoutes es,
    ∀ m ∈ entityRoutes fiber true schema, m.entity = es → m.place = routePlace r →
      (m.passes (canPerform (casbin schema.capabilityGrants rolePerms)) viewer = true ↔
        ∃ role ∈ viewer.roles, ∃ permission ∈ listedPermissions es.permissions r.requiredPermission,
          ⟨role, permission⟩ ∈ rolePerms)
  dispatched : ∀ rolePerms request, ∀ es ∈ schema.entities, ∀ a ∈ es.actions, ∀ id,
    (mountAction fiber true es a).passes
        (canPerform (casbin schema.capabilityGrants rolePerms)) request.viewer = true →
      parse (params fiber (mountAction fiber true es a) request "id") = some id →
        ∃ handler, a.handlerFunc = some handler ∧
          serve fiber parse (canPerform (casbin schema.capabilityGrants rolePerms))
            (mountAction fiber true es a) request = .ran handler id

section Grants

variable {starts : Ranging String} {targets : String → Ranging String} {reg : Registry}
  {schema : CompiledSchema} {es : EntitySchema}

theorem mem_map_grant {grant : CapabilityGrant} {perms : List String} {entity action : String} :
    grant ∈ perms.map (fun perm => CapabilityGrant.mk perm entity action) ↔
      grant.entity = entity ∧ grant.action = action ∧ grant.permission ∈ perms := by
  constructor
  · intro member
    obtain ⟨perm, inside, rfl⟩ := List.mem_map.mp member
    exact ⟨rfl, rfl, inside⟩
  · rintro ⟨rfl, rfl, inside⟩
    exact List.mem_map.mpr ⟨_, inside, rfl⟩

theorem mem_emitCapabilityGrants {grant : CapabilityGrant} :
    grant ∈ emitCapabilityGrants es ↔
      grant.entity = es.qualifiedName ∧
        grant.permission ∈ listedPermissions es.permissions grant.action := by
  have named (operation : String) (perms : List String) :
      grant.permission ∈ (if grant.action = operation then perms else []) ↔
        grant.action = operation ∧ grant.permission ∈ perms := by
    split <;> simp_all
  have custom : grant ∈ es.permissions.actions.flatMap (fun entry =>
        entry.2.map fun perm => CapabilityGrant.mk perm es.qualifiedName entry.1) ↔
      grant.entity = es.qualifiedName ∧ grant.permission ∈
        (es.permissions.actions.filter fun entry => entry.1 = grant.action).flatMap Prod.snd := by
    simp only [List.mem_flatMap, mem_map_grant, List.mem_filter, decide_eq_true_eq]
    constructor
    · rintro ⟨entry, member, entity, action, inside⟩
      exact ⟨entity, entry, ⟨member, action.symm⟩, inside⟩
    · rintro ⟨entity, entry, ⟨member, action⟩, inside⟩
      exact ⟨entry, member, entity, action.symm, inside⟩
  simp only [emitCapabilityGrants, listedPermissions, List.mem_append, mem_map_grant, named]
  rw [custom]
  simp only [and_or_left]

theorem mem_capabilityGrants (compiled : compile starts targets reg = .ok schema)
    (nodup : (schema.entities.map EntitySchema.qualifiedName).Nodup) (member : es ∈ schema.entities)
    {permission operation : String} :
    ⟨permission, es.qualifiedName, operation⟩ ∈ schema.capabilityGrants ↔
      permission ∈ listedPermissions es.permissions operation := by
  rw [(compile_eq_ok compiled).2.2.2.2, List.mem_flatMap]
  constructor
  · rintro ⟨other, otherMember, inside⟩
    obtain ⟨same, inside⟩ := mem_emitCapabilityGrants.mp inside
    rwa [List.inj_on_of_nodup_map nodup member otherMember same]
  · intro inside
    exact ⟨es, member, mem_emitCapabilityGrants.mpr ⟨rfl, inside⟩⟩

end Grants

section Standard

variable {fiber : Fiber} {starts : Ranging String} {targets : String → Ranging String}
  {reg : Registry} {schema : CompiledSchema} {es : EntitySchema}

theorem path_mountRoute (documented : fiber.Documented)
    (compiled : compile starts targets reg = .ok schema) (member : es ∈ schema.entities)
    (method rest operation : String) (handler : Handler) :
    (mountRoute fiber true es method ("/" ++ rest) operation handler).path =
      trimSlashes es.routePrefix ++ "/" ++ rest := by
  obtain ⟨d, -, rfl⟩ := (mem_entities compiled).mp member
  have kept : trimSlashes "/api/v1" = "/api/v1" := by decide +kernel
  have group : fiber.groupPath "/api/v1" ("/" ++ d.module ++ "/" ++
      (buildEntitySchema d).apiResource) = (buildEntitySchema d).routePrefix := by
    rw [String.append_assoc, String.append_assoc, documented.groupPath_eq, kept,
      show (buildEntitySchema d).routePrefix = "/api/v1" ++ "/" ++ d.module ++ "/" ++
        (buildEntitySchema d).apiResource from rfl]
    simp only [String.append_assoc]
  rw [mountRoute, show (buildEntitySchema d).module = d.module from rfl, group,
    documented.groupPath_eq]

theorem trimSlashes_record (before : String) :
    trimSlashes (before ++ "/:id") = before ++ "/:id" := by
  rw [trimSlashes_eq_self_iff, ← Bool.not_eq_true, hasSuffix_iff]
  rintro ⟨front, same⟩
  have chars := congrArg String.toList same
  rw [String.toList_append, String.toList_append] at chars
  have last := congrArg List.getLast? chars
  simp at last

/-- Where the standard operations of an entity are mounted. -/
theorem places_mountCrud (documented : fiber.Documented)
    (compiled : compile starts targets reg = .ok schema) (member : es ∈ schema.entities) :
    (mountCrud fiber true es).map MountedRoute.place =
      [("GET", trimSlashes es.routePrefix), ("POST", trimSlashes es.routePrefix),
       ("GET", trimSlashes es.routePrefix ++ "/:id"),
       ("PATCH", trimSlashes es.routePrefix ++ "/:id"),
       ("DELETE", trimSlashes es.routePrefix ++ "/:id")] := by
  have collection (method operation : String) (handler : Handler) :
      (mountRoute fiber true es method "/" operation handler).place =
        (method, trimSlashes es.routePrefix) := by
    have path := path_mountRoute documented compiled member method "" operation handler
    rw [String.append_empty, String.append_empty] at path
    rw [MountedRoute.place, path, trimSlashes_append_slash,
      trimSlashes_eq_self_iff.mpr (hasSuffix_trimSlashes _)]
    rfl
  have record (method operation : String) (handler : Handler) :
      (mountRoute fiber true es method "/:id" operation handler).place =
        (method, trimSlashes es.routePrefix ++ "/:id") := by
    have path := path_mountRoute documented compiled member method ":id" operation handler
    rw [String.append_assoc, show "/" ++ ":id" = "/:id" from rfl] at path
    rw [MountedRoute.place, path, trimSlashes_record]
    rfl
  simp only [mountCrud, List.map_cons, List.map_nil, collection, record]

/-- The routes beside the audit history. -/
theorem entityRoutes_eq (schema : CompiledSchema) : entityRoutes fiber true schema =
    schema.entities.flatMap fun es =>
      mountCrud fiber true es ++ es.actions.map (mountAction fiber true es) := by
  rw [entityRoutes, register, List.filter_flatMap]
  refine List.flatMap_congr fun es _ => ?_
  have standard : (mountCrud fiber true es).filter (fun m => m.handler ≠ .history) =
      mountCrud fiber true es := rfl
  have actions : (es.actions.map (mountAction fiber true es)).filter
      (fun m => m.handler ≠ .history) = es.actions.map (mountAction fiber true es) := by
    refine List.filter_eq_self.mpr fun m member => ?_
    obtain ⟨a, -, rfl⟩ := List.mem_map.mp member
    rfl
  have history : (mountHistory fiber true es).filter (fun m => m.handler ≠ .history) = [] := by
    rw [mountHistory]
    split <;> rfl
  rw [List.filter_append, List.filter_append, standard, actions, history, List.append_nil]

theorem check_mountCrud {m : MountedRoute} {r : RouteDescriptor} (plain : es.actions = [])
    (mounted : m ∈ mountCrud fiber true es) (emitted : r ∈ emitRoutes es)
    (method : m.method = r.method) : m.check = some r.requiredPermission := by
  simp only [emitRoutes, plain, List.map_nil, List.append_nil, List.mem_cons, List.not_mem_nil,
    or_false] at emitted
  simp only [mountCrud, List.mem_cons, List.not_mem_nil, or_false] at mounted
  rcases mounted with rfl | rfl | rfl | rfl | rfl <;>
    rcases emitted with rfl | rfl | rfl | rfl | rfl <;>
      first | rfl | simp [mountRoute, crudRoute] at method

theorem passes_iff {casbin : Enforcer} (implements : Implements casbin)
    (compiled : compile starts targets reg = .ok schema)
    (nodup : (schema.entities.map EntitySchema.qualifiedName).Nodup) (member : es ∈ schema.entities)
    {rolePerms : List RolePermission} {viewer : ViewerContext}
    (apart : RolesApart schema.capabilityGrants rolePerms viewer)
    (ordinary : viewer.isPlatformAdmin = false) {m : MountedRoute} (entity : m.entity = es)
    {operation : String} (check : m.check = some operation) :
    m.passes (canPerform (casbin schema.capabilityGrants rolePerms)) viewer = true ↔
      ∃ role ∈ viewer.roles, ∃ permission ∈ listedPermissions es.permissions operation,
        ⟨role, permission⟩ ∈ rolePerms := by
  have namespaced : es.permissionNamespace = es.qualifiedName := by
    obtain ⟨d, -, rfl⟩ := (mem_entities compiled).mp member
    rfl
  rw [MountedRoute.passes, check, entity, namespaced]
  simp only [requirePermission, ordinary, Bool.false_or]
  rw [canPerform_iff implements apart]
  simp only [mem_capabilityGrants compiled nodup member]

end Standard

section Actions

variable {fiber : Fiber} {parse : String → Option Uuid} {es : EntitySchema}

theorem declares_mountAction (documented : fiber.Documented) (a : ActionDef) :
    fiber.declares (mountAction fiber true es a).path "id" = true := by
  have split : "/:id/" ++ a.name = "/" ++ (":id/" ++ a.name) := by
    rw [← String.append_assoc]
    rfl
  have joined (pre : String) : pre ++ "/" ++ (":id/" ++ a.name) = pre ++ "/:id/" ++ a.name := by
    rw [String.append_assoc, ← split, ← String.append_assoc]
  simp only [mountAction, mountRoute, split, documented.groupPath_eq, joined]
  exact documented.declares_id _ _

theorem actionsByName_eq_none {name : String} (unknown : name ∉ es.actions.map ActionDef.name) :
    es.actionsByName name = none := by
  rw [EntitySchema.actionsByName, List.find?_eq_none]
  intro a member same
  refine unknown (List.mem_map.mpr ⟨a, List.mem_reverse.mp member, ?_⟩)
  simpa using same

/-- Whatever the mounted pattern declares, some request reaches no action. -/
theorem exists_request_not_found (documented : fiber.Documented) {text : String} {id : Uuid}
    (parsed : parse text = some id) (named : ∀ a ∈ es.actions, a.name ≠ "") (a : ActionDef)
    (viewer : ViewerContext) :
    ∃ request : Request, request.viewer = viewer ∧
      parse (params fiber (mountAction fiber true es a) request "id") = some id ∧
      ∃ name, action fiber parse (mountAction fiber true es a) request =
        .notFound "action.not_found" ("Action not found: " ++ name) := by
  obtain ⟨fresh, isFresh⟩ := Infinite.exists_notMem_finset (es.actions.map ActionDef.name).toFinset
  rw [List.mem_toFinset] at isFresh
  have noEmpty : "" ∉ es.actions.map ActionDef.name := by
    intro member
    obtain ⟨b, inside, empty⟩ := List.mem_map.mp member
    exact named b inside empty
  let request : Request := ⟨viewer, fun name => if name = "id" then text else fresh⟩
  have record : parse (params fiber (mountAction fiber true es a) request "id") = some id := by
    rw [params, if_pos (declares_mountAction documented a)]
    exact parsed
  have unknown : params fiber (mountAction fiber true es a) request "action" ∉
      es.actions.map ActionDef.name := by
    rw [params]
    split
    · exact isFresh
    · exact noEmpty
  refine ⟨request, rfl, record, params fiber (mountAction fiber true es a) request "action", ?_⟩
  simp only [action, record, show (mountAction fiber true es a).entity = es from rfl,
    actionsByName_eq_none unknown]

end Actions

section Agreement

variable {fiber : Fiber} {parse : String → Option Uuid} {casbin : Enforcer}
  {starts : Ranging String} {targets : String → Ranging String} {reg : Registry}
  {schema : CompiledSchema}

/-- A schema with an action cannot agree: no request of an admin would reach the handler. -/
theorem Agreement.no_actions (agreement : Agreement fiber parse casbin schema)
    (documented : fiber.Documented) {text : String} {id : Uuid} (parsed : parse text = some id)
    {es : EntitySchema} (member : es ∈ schema.entities)
    (named : ∀ a ∈ es.actions, a.name ≠ "") : es.actions = [] := by
  refine List.eq_nil_iff_forall_not_mem.mpr fun a inside => ?_
  obtain ⟨request, viewer, record, name, lost⟩ := exists_request_not_found documented parsed named
    a ⟨["role:platform-admin"]⟩
  have passes : (mountAction fiber true es a).passes
      (canPerform (casbin schema.capabilityGrants [])) request.viewer = true := by
    rw [viewer]
    rfl
  obtain ⟨handler, -, served⟩ := agreement.dispatched [] request es member a inside id passes record
  rw [serve_action passes rfl, lost] at served
  cases served

/-- The paths of records are mounted without the slashes that a prefix ends in. -/
theorem Agreement.no_slash (agreement : Agreement fiber parse casbin schema)
    (documented : fiber.Documented) (compiled : compile starts targets reg = .ok schema)
    (plain : ∀ es ∈ schema.entities, es.actions = []) {es : EntitySchema}
    (member : es ∈ schema.entities) : hasSuffix es.routePrefix "/" = false := by
  -- the only descriptors and the only routes of method `PATCH` are those of updates
  have described : ("PATCH", es.routePrefix ++ "/:id") ∈ schema.routes.map routePlace := by
    refine List.mem_map.mpr
      ⟨crudRoute es "PATCH" (es.routePrefix ++ "/:id") "update" "write", ?_, ?_⟩
    · rw [(compile_eq_ok compiled).2.2.2.1]
      exact List.mem_flatMap.mpr ⟨es, member, by simp [emitRoutes]⟩
    · rw [routePlace, crudRoute, trimSlashes_record]
  rw [← agreement.routes.mem_iff, entityRoutes_eq] at described
  obtain ⟨m, mounted, place⟩ := List.mem_map.mp described
  obtain ⟨other, otherMember, inside⟩ := List.mem_flatMap.mp mounted
  rw [plain other otherMember, List.map_nil, List.append_nil] at inside
  have places := places_mountCrud documented compiled otherMember
  have updated : ("PATCH", es.routePrefix ++ "/:id") ∈
      (mountCrud fiber true other).map MountedRoute.place := List.mem_map.mpr ⟨m, inside, place⟩
  rw [places] at updated
  have kept : es.routePrefix ++ "/:id" = trimSlashes other.routePrefix ++ "/:id" := by
    simpa using updated
  rw [(String.append_left_inj _).mp kept]
  exact hasSuffix_trimSlashes _

theorem routes_perm (documented : fiber.Documented)
    (compiled : compile starts targets reg = .ok schema)
    (plain : ∀ es ∈ schema.entities, es.actions = [] ∧ hasSuffix es.routePrefix "/" = false) :
    ((entityRoutes fiber true schema).map MountedRoute.place).Perm
      (schema.routes.map routePlace) := by
  rw [entityRoutes_eq, (compile_eq_ok compiled).2.2.2.1, List.map_flatMap, List.map_flatMap]
  refine List.Perm.flatMap_left _ fun es member => ?_
  obtain ⟨noActions, noSlash⟩ := plain es member
  have kept := trimSlashes_eq_self_iff.mpr noSlash
  rw [noActions, List.map_nil, List.append_nil, places_mountCrud documented compiled member]
  simp only [emitRoutes, noActions, List.map_nil, List.append_nil, List.map_cons, routePlace,
    crudRoute, trimSlashes_record, kept]
  exact .cons _ (.swap ..)

theorem authorized_of_plain (implements : Implements casbin)
    (compiled : compile starts targets reg = .ok schema)
    (nodup : (schema.entities.map EntitySchema.qualifiedName).Nodup)
    (plain : ∀ es ∈ schema.entities, es.actions = []) {rolePerms : List RolePermission}
    {viewer : ViewerContext} (apart : RolesApart schema.capabilityGrants rolePerms viewer)
    (ordinary : viewer.isPlatformAdmin = false) {es : EntitySchema} (member : es ∈ schema.entities)
    {r : RouteDescriptor} (emitted : r ∈ emitRoutes es) {m : MountedRoute}
    (mounted : m ∈ entityRoutes fiber true schema) (entity : m.entity = es)
    (place : m.place = routePlace r) :
    m.passes (canPerform (casbin schema.capabilityGrants rolePerms)) viewer = true ↔
      ∃ role ∈ viewer.roles, ∃ permission ∈ listedPermissions es.permissions r.requiredPermission,
        ⟨role, permission⟩ ∈ rolePerms := by
  rw [entityRoutes_eq] at mounted
  obtain ⟨other, otherMember, inside⟩ := List.mem_flatMap.mp mounted
  rw [plain other otherMember, List.map_nil, List.append_nil] at inside
  have owner : m.entity = other := by
    simp only [mountCrud, List.mem_cons, List.not_mem_nil, or_false] at inside
    rcases inside with rfl | rfl | rfl | rfl | rfl <;> rfl
  rw [← owner, entity] at inside
  have check := check_mountCrud (plain es member) inside emitted (congrArg Prod.fst place)
  exact passes_iff implements compiled nodup member apart ordinary entity check

end Agreement

/--
Routes, checks and dispatch agree with a compiled schema exactly when none of
its entities has an action and no route prefix ends in a slash.
-/
theorem agreement_iff (fiber : Fiber) (documented : fiber.Documented)
    (parse : String → Option Uuid) (parses : ∃ text id, parse text = some id)
    (casbin : Enforcer) (implements : Implements casbin)
    (starts : Ranging String) (targets : String → Ranging String) (reg : Registry)
    (schema : CompiledSchema) (sound : Sound reg)
    (compiled : compile starts targets reg = .ok schema) :
    Agreement fiber parse casbin schema ↔
      ∀ es ∈ schema.entities, es.actions = [] ∧ hasSuffix es.routePrefix "/" = false := by
  have named : ∀ es ∈ schema.entities, ∀ a ∈ es.actions, a.name ≠ "" := by
    intro es member a inside
    obtain ⟨d, declared, rfl⟩ := (mem_entities compiled).mp member
    exact sound.named d declared a inside
  constructor
  · intro agreement es member
    obtain ⟨text, id, parsed⟩ := parses
    have plain : ∀ es ∈ schema.entities, es.actions = [] := fun es member =>
      agreement.no_actions documented parsed member (named es member)
    exact ⟨plain es member, agreement.no_slash documented compiled plain member⟩
  · intro plain
    have noActions : ∀ es ∈ schema.entities, es.actions = [] := fun es member =>
      (plain es member).1
    have nodup := (Runtime.distinguished compiled sound.nodup).qualifiedNames
    refine ⟨routes_perm documented compiled plain, ?_, ?_⟩
    · intro rolePerms viewer apart ordinary es member r emitted m mounted entity place
      exact authorized_of_plain implements compiled nodup noActions apart ordinary member emitted
        mounted entity place
    · intro rolePerms request es member a inside
      rw [noActions es member] at inside
      cases inside

/-! ## An invoice to submit -/

/-- Fiber's own joining of paths, and its parameters between slashes. -/
def slashFiber : Fiber where
  groupPath pre path := trimSlashes pre ++ (if hasPrefix path "/" then path else "/" ++ path)
  declares pattern name := contains (pattern ++ "/") ("/:" ++ name ++ "/")

theorem slashFiber_documented : slashFiber.Documented where
  groupPath_eq pre rest := by
    simp only [slashFiber]
    rw [if_pos (hasPrefix_iff.mpr ⟨rest, rfl⟩), ← String.append_assoc]
  declares_id pre rest := by
    have inside := contains_append pre "/:id/" (rest ++ "/")
    rwa [← String.append_assoc] at inside

open Classical in
/-- An enforcer that decides the matcher as it stands. -/
noncomputable def matcherCasbin : Enforcer := fun grants rolePerms sub obj act =>
  decide (Matches grants rolePerms sub obj act)

theorem matcherCasbin_implements : Implements matcherCasbin := fun _ _ _ _ _ => by
  simp [matcherCasbin]

/-- The parser of the one record identifier that the requests below carry. -/
def parseFirst (text : String) : Option Uuid := if text = Uuid.string 1 then some 1 else none

def submit : ActionDef :=
  { name := "submit", permission := "finance.invoice.submit", handlerFunc := some 1 }

def invoice (actions : List ActionDef) : EntityDefinition where
  name := "invoice"
  module := "finance"
  actions := actions
  permissions :=
    { write := ["finance.invoice.update"]
      actions := [("submit", ["finance.invoice.submit"])] }

def invoiceRegistry (actions : List ActionDef) : Registry :=
  ⟨[invoice actions], index qualifiedName [invoice actions]⟩

/-- A request of a platform admin to submit the first invoice. -/
def submission : Request :=
  ⟨⟨["role:platform-admin"]⟩, fun name => if name = "id" then Uuid.string 1 else ""⟩

/-- The request is permitted and its identifier is read, but no handler runs. -/
theorem submit_not_found : ∃ schema,
    compile Compiler.listed (fun _ => Compiler.listed) (invoiceRegistry [submit]) = .ok schema ∧
      schema.entities = [buildEntitySchema (invoice [submit])] ∧
      (let m := mountAction slashFiber true (buildEntitySchema (invoice [submit])) submit
       let eval := canPerform (matcherCasbin schema.capabilityGrants [])
       m.path = "/api/v1/finance/invoices/:id/submit" ∧
        m.passes eval submission.viewer = true ∧
        parseFirst (params slashFiber m submission "id") = some 1 ∧
        serve slashFiber parseFirst eval m submission =
          .notFound "action.not_found" "Action not found: ") ∧
      ¬Agreement slashFiber parseFirst matcherCasbin schema := by
  obtain ⟨schema, compiled⟩ := exists_of_isOk (show (compile Compiler.listed
    (fun _ => Compiler.listed) (invoiceRegistry [submit])).isOk = true by decide +kernel)
  have entities : schema.entities = [buildEntitySchema (invoice [submit])] :=
    (compile_eq_ok compiled).2.1
  have member : buildEntitySchema (invoice [submit]) ∈ schema.entities :=
    entities ▸ List.mem_singleton_self _
  have lost (eval : PolicyEvaluator) :
      let m := mountAction slashFiber true (buildEntitySchema (invoice [submit])) submit
      m.path = "/api/v1/finance/invoices/:id/submit" ∧ m.passes eval submission.viewer = true ∧
        parseFirst (params slashFiber m submission "id") = some 1 ∧
        serve slashFiber parseFirst eval m submission =
          .notFound "action.not_found" "Action not found: " := by
    refine ⟨by decide +kernel, rfl, by decide +kernel, ?_⟩
    exact (serve_action rfl rfl).trans (by decide +kernel)
  refine ⟨schema, compiled, entities, lost _, fun agreement => ?_⟩
  obtain ⟨path, passes, record, notFound⟩ :=
    lost (canPerform (matcherCasbin schema.capabilityGrants []))
  obtain ⟨handler, -, ran⟩ := agreement.dispatched [] submission _ member submit
    (List.mem_singleton_self _) 1 passes record
  rw [notFound] at ran
  cases ran

/-- The same invoice without an action agrees with what is mounted for it. -/
theorem plain_invoice_agrees : ∃ schema,
    compile Compiler.listed (fun _ => Compiler.listed) (invoiceRegistry []) = .ok schema ∧
      Agreement slashFiber parseFirst matcherCasbin schema := by
  obtain ⟨schema, compiled⟩ := exists_of_isOk (show (compile Compiler.listed
    (fun _ => Compiler.listed) (invoiceRegistry [])).isOk = true by decide +kernel)
  refine ⟨schema, compiled, (agreement_iff slashFiber slashFiber_documented parseFirst
    ⟨Uuid.string 1, 1, if_pos rfl⟩ matcherCasbin matcherCasbin_implements Compiler.listed
    (fun _ => Compiler.listed) (invoiceRegistry []) schema ⟨by decide, by decide⟩ compiled).mpr ?_⟩
  rw [(compile_eq_ok compiled).2.1]
  decide +kernel

end ErpFinance.Api
