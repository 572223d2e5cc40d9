import ErpFinance.Api.UpdateFrames

/-!
# The tree of organizations

The definition of `platform_organization` with its hooks, which check the code, compute the path
and guard it.

What the service makes of the tree: no creation gets past its insert, which names the column of
the tenant twice, and no update gets past the guard of the path, which finds the path among the
current values.
-/

namespace ErpFinance.Organization

open Api Compiler Def Domain Driver Library Registry ErpFinance.Runtime

/-- `Definition`. -/
def organizationDefinition : EntityDefinition where
  name := "organization"
  module := "platform"
  fields :=
    [{ name := "name", type := .data, required := true },
     { name := "code", type := .data, required := true, immutable := true },
     { name := "tenant_id", type := .link, linkTarget := "platform_tenant", required := true
       immutable := true },
     { name := "parent_id", type := .link, linkTarget := "platform_organization" },
     { name := "type", type := .data },
     { name := "path", type := .data },
     { name := "depth", type := .int, hasDefault := true },
     { name := "active", type := .bool, hasDefault := true },
     { name := "description", type := .smallText }]
  permissions :=
    { create := ["platform.organization.create"]
      read := ["platform.organization.read"]
      write := ["platform.organization.update"]
      delete := ["platform.organization.delete"] }

def organizations : EntitySchema := buildEntitySchema organizationDefinition

/-! ## Hooks -/

def isCodeStart (c : Char) : Bool := ('A' ≤ c && c ≤ 'Z') || c.isDigit

def codePattern (code : String) : Bool :=
  match code.toList with
  | [] => false
  | first :: rest =>
    isCodeStart first && rest.length ≤ 49 &&
      rest.all fun c => isCodeStart c || c = '_' || c = '-'

def CodeValidator.beforeCreate : Hook := fun _ r =>
  let code := r.getString "code"
  if code = "" then .error (.validation [("code", "required")])
  else if codePattern code then .ok r
  else .error (.validation [("code", "must be uppercase alphanumeric (A-Z, 0-9, hyphens, " ++
    "underscores), starting with a letter or digit")])

def depth (n : Int) : Value := .number (.number n)

def asRoot (r : EntityRecord) : EntityRecord :=
  (r.set "path" (.string ("/" ++ r.id.string ++ "/"))).set "depth" (depth 0)

/-- The identifier of a record that is being created is not known yet.  `asInt` tells which values
are an `int`, which no number of a JSON text is. -/
def PathComputeHook.beforeCreate (asInt : Value → Option Int) : Hook := fun _ r =>
  let selfID := r.id.string
  if r.getString "parent_id" = "" then .ok (asRoot r)
  else
    let parentPath := r.getString "_parent_path"
    if parentPath = "" then .ok (asRoot r)
    else if contains parentPath ("/" ++ selfID ++ "/") then
      .error (.other ("organization.PathComputeHook: cycle detected — self ID already present " ++
        "in parent path"))
    else
      let parentDepth := (asInt (r.get "_parent_depth")).getD 0
      let placed := (r.set "path" (.string (parentPath ++ selfID ++ "/"))).set "depth"
        (depth (parentDepth + 1))
      .ok { placed with data := (placed.data.erase "_parent_path").erase "_parent_depth" }

/-- The guard tests its last parameter, in which it is handed the stored record. -/
def MoveGuard.beforeUpdate : UpdateHook := fun _ record prev =>
  let managed (field : String) : Error :=
    .other ("organization.MoveGuard: " ++ field ++
      " is managed by OrganizationService.Move — do not set directly")
  if "path" ∈ prev.data then .error (managed "path")
  else if "depth" ∈ prev.data then .error (managed "depth")
  else .ok record

/-- What the definition brings along. -/
def organizationBehaviour (asInt : Value → Option Int) : Behaviour where
  defaults := [("depth", depth 0), ("active", .bool true)]
  beforeCreate := [CodeValidator.beforeCreate, PathComputeHook.beforeCreate asInt]
  beforeUpdate := [MoveGuard.beforeUpdate]

structure OrganizationDeployment where
  registry : RuntimeRegistry
  audit : Context → EntityRecord → Option Object → Option Object → Except Error Unit
  asInt : Value → Option Int
  registered : registry.findEntity organizations.qualifiedName = .ok organizations

def organizationService (deployment : OrganizationDeployment) : EntityService where
  schema := organizations
  pipeline :=
    { registry := deployment.registry
      behaviour := fun _ => organizationBehaviour deployment.asInt
      audit := deployment.audit }

example : ["HQ-1", "hq", "_HQ", "9", ""].map codePattern = [true, false, false, true, false] := by
  decide +kernel

/-- A row has its place below its ancestors, of which there are so many. -/
inductive Placed (rows : List Row) : Row → Nat → Prop where
  | root (row : Row) (orphan : row.value "parent_id" = .null)
      (path : row.value "path" = .string ("/" ++ row.id.string ++ "/")) : Placed rows row 0
  | child (row parent : Row) (n : Nat) (start : String) (member : parent ∈ rows)
      (linked : row.value "parent_id" = .uuid parent.id) (above : Placed rows parent n)
      (outer : parent.value "path" = .string start)
      (path : row.value "path" = .string (start ++ row.id.string ++ "/")) :
      Placed rows row (n + 1)

/-- Every organization has its place, and its depth is the number of its ancestors. -/
def Tree (store : Driver.Store) : Prop :=
  ∀ row ∈ store.tables organizations.tableName, ∃ n : Nat,
    Placed (store.tables organizations.tableName) row n ∧ row.value "depth" = depth n

inductive OrganizationCall where
  | create (patch : Patch)
  | update (id : Uuid) (patch : Patch)

section Calls

variable (e : Engine) (deployment : OrganizationDeployment)

def answer (store : Driver.Store) : OrganizationCall → Except Error EntityRecord × Driver.Store
  | .create patch => EntityService.create e.database (organizationService deployment)
      patch.context patch.body patch.viewer store
  | .update id patch => EntityService.update e.database (organizationService deployment)
      patch.context id patch.body patch.viewer store

def after (start : Driver.Store) (calls : List OrganizationCall) : Driver.Store :=
  calls.foldl (fun store call => (answer e deployment store call).2) start

def Accepted (store : Driver.Store) (call : OrganizationCall) : Prop :=
  ∃ record, (answer e deployment store call).1 = .ok record

/-- The update names a column that is not to be set directly. -/
def Mentions (patch : Patch) : Prop := "path" ∈ patch.body ∨ "depth" ∈ patch.body

/-- The update passes the checks of the fields. -/
def Valid (row : Row) (patch : Patch) : Prop :=
  immutableErrors organizations patch.body = [] ∧
    Runtime.validateFields patch.context organizations (organizationBehaviour deployment.asInt)
      (Pipeline.proposed patch.body patch.viewer (scan organizations row.shown)) = .ok ⟨⟩

/-- An update of a stored organization is rejected if it mentions path or depth, and accepted if it
mentions neither and is valid. -/
def Guarded (store : Driver.Store) : OrganizationCall → Prop
  | .create _ => True
  | .update id patch => ∀ row ∈ store.tables organizations.tableName, row.id = id →
      (Mentions patch → ¬ Accepted e deployment store (.update id patch)) ∧
        (¬ Mentions patch → Valid deployment row patch →
          Accepted e deployment store (.update id patch))

/-- A valid update of a stored organization mentions path or depth. -/
def Moving (store : Driver.Store) : OrganizationCall → Prop
  | .create _ => True
  | .update id patch => ∀ row ∈ store.tables organizations.tableName, row.id = id →
      Valid deployment row patch → Mentions patch

end Calls

/-! ## Nothing gets through -/

section Calls

variable {e : Engine} {deployment : OrganizationDeployment} {store : Driver.Store}

theorem wired_organizations : (organizationService deployment).Wired where
  system := rfl
  plain := by
    show Plain organizations
    unfold Driver.Plain
    decide +kernel
  registered := deployment.registered

theorem tenant_twice (id tenantID : Uuid) (now : Nat) (input : CreateInput) (custom : Bool) :
    ¬ ((systemValues organizations id tenantID now input custom).map Prod.fst).Nodup := by
  intro distinct
  have declared : ∃ f ∈ organizations.fields, f.name = "tenant_id" := by decide
  have field : "tenant_id" ∈ sortedFieldNames organizations :=
    (mem_sortedFieldNames _).mpr declared
  have columns : (systemValues organizations id tenantID now input custom).map Prod.fst =
      (["id", "tenant_id", "created_at", "updated_at"] ++ sortedFieldNames organizations) ++
        (if custom then [("custom_fields", input.customFieldsJSON)] else []).map Prod.fst := by
    rw [systemValues, List.map_append, List.map_append, List.map_map]
    exact congrArg (_ ++ · ++ _) (List.map_id _)
  rw [columns] at distinct
  have apart := List.disjoint_of_nodup_append (List.Nodup.of_append_left distinct)
  exact apart (by decide) field

theorem moveGuard_rejects {ctx : Context} {record prev result : EntityRecord}
    (present : "path" ∈ prev.data) : MoveGuard.beforeUpdate ctx record prev ≠ .ok result := by
  rw [MoveGuard.beforeUpdate]
  dsimp only
  rw [if_pos present]
  exact nofun

/-- No call succeeds: a creation fails at its insert, and the stored record of an update has a
path. -/
theorem not_accepted (call : OrganizationCall) : ¬ Accepted e deployment store call := by
  rintro ⟨record, succeeds⟩
  have runs : answer e deployment store call = (.ok record, (answer e deployment store call).2) :=
    Prod.ext succeeds rfl
  cases call with
  | create patch =>
    obtain ⟨id, tenantID, now, input, custom, distinct⟩ :=
      EntityService.create_distinct rfl wired_organizations.plain runs
    exact tenant_twice id tenantID now input custom distinct
  | update id patch =>
    obtain ⟨row, -, -, patched, stages, -⟩ :=
      EntityService.update_ok rfl wired_organizations.plain runs
    obtain ⟨-, validated, saved, validate, -, save, guard⟩ :=
      Pipeline.runBeforeUpdate_ok deployment.registered stages
    cases validate
    cases save
    obtain ⟨moved, guarded, -⟩ := bind_eq_ok_iff.mp guard
    have wired : (organizationService deployment).Wired := wired_organizations
    have path : Declared organizations "path" :=
      ⟨{ name := "path", type := .data }, show _ ∈ organizations.fields by decide, rfl⟩
    have present : "path" ∈ (scan organizations row.shown).data :=
      (mem_scan wired row "path").mpr path
    exact moveGuard_rejects present (mapError_eq_ok_iff.mp guarded)

/-- So no call changes a table. -/
theorem answer_tables (call : OrganizationCall) :
    (answer e deployment store call).2.tables = store.tables := by
  cases answered : answer e deployment store call with
  | mk outcome last =>
    cases outcome with
    | ok record => exact absurd ⟨record, congrArg Prod.fst answered⟩ (not_accepted call)
    | error error =>
      cases call with
      | create patch => exact EntityService.create_error rfl answered
      | update id patch =>
        exact EntityService.update_error rfl wired_organizations.plain answered

theorem after_tables (start : Driver.Store) (calls : List OrganizationCall) :
    (after e deployment start calls).tables = start.tables := by
  induction calls using List.reverseRecOn with
  | nil => rfl
  | append_singleton before call ih =>
    rw [after, List.foldl_append]
    exact (answer_tables call).trans ih

theorem Tree.of_tables {newer : Driver.Store} (tree : Tree store)
    (same : newer.tables = store.tables) : Tree newer := by
  rw [Tree, same]
  exact tree

/-- An update is answered as it should be if and only if it is invalid or moves an organization. -/
theorem guarded_iff (call : OrganizationCall) :
    Guarded e deployment store call ↔ Moving deployment store call := by
  cases call with
  | create patch => exact Iff.rfl
  | update id patch =>
    constructor
    · intro guarded row member same valid
      by_contra silent
      exact not_accepted _ ((guarded row member same).2 silent valid)
    · intro moving row member same
      exact ⟨fun _ => not_accepted _, fun silent valid =>
        absurd (moving row member same valid) silent⟩

end Calls

/-- In every sequence of calls from a tree of organizations, the organizations are a tree at every
point, and the calls are answered as they should be if and only if every valid update of a stored
organization mentions its path or depth. -/
theorem organizations_guarded_iff (e : Engine) (deployment : OrganizationDeployment)
    (start : Driver.Store) (tree : Tree start) (calls : List OrganizationCall) :
    (∀ before rest, calls = before ++ rest → Tree (after e deployment start before) ∧
        ∀ call ∈ rest.head?, Guarded e deployment (after e deployment start before) call) ↔
      ∀ before call rest, calls = before ++ call :: rest →
        Moving deployment (after e deployment start before) call := by
  constructor
  · intro lawful before call rest split
    exact (guarded_iff call).mp ((lawful before (call :: rest) split).2 call rfl)
  · intro moving before rest split
    refine ⟨tree.of_tables (after_tables start before), fun call first => ?_⟩
    obtain ⟨rest, rfl⟩ := List.head?_eq_some_iff.mp first
    exact (guarded_iff call).mpr (moving before call rest split)

section Sample

def organizationsCompiled : CompiledSchema where
  entities := [organizations]
  byName := index EntitySchema.qualifiedName [organizations]
  routes := []
  capabilityGrants := []
  graph := {}
  diagnostics := []

theorem findEntity_organizations :
    (newRuntimeRegistry organizationsCompiled).findEntity organizations.qualifiedName =
      .ok organizations := by
  have nodup : ([organizations].map EntitySchema.qualifiedName).Nodup := List.nodup_singleton _
  exact find_index nodup List.mem_cons_self _ _

def organizationsAlone : OrganizationDeployment where
  registry := newRuntimeRegistry organizationsCompiled
  audit _ _ _ _ := .ok ⟨⟩
  asInt _ := none
  registered := findEntity_organizations

def organizationEngine : Engine :=
  untyped (fun _ => scannedColumns organizations) (fun _ => true)

/-- The root of a tenant. -/
def headquarters : Row where
  id := 7
  tenantID := 1
  createdAt := 0
  updatedAt := 0
  columns column :=
    ([("name", .string "Headquarters"), ("code", .string "HQ"), ("tenant_id", .uuid 1),
      ("path", .string ("/" ++ Uuid.string 7 ++ "/")), ("depth", depth 0),
      ("active", .bool true)].find? fun entry => entry.1 = column).elim .null Prod.snd

def oneRoot : Driver.Store where
  tables table := if table = organizations.tableName then [headquarters] else []

theorem oneRoot_tree : Tree oneRoot := by
  intro row member
  have same : row = headquarters := List.mem_singleton.mp member
  rw [same]
  exact ⟨0, .root headquarters rfl rfl, rfl⟩

def moved : Patch := patch (single "path" (.string "/"))

def renamed : Patch := patch (single "name" (.string "Main office"))

theorem organizations_guarded_moved :
    (∀ before rest, [OrganizationCall.update 7 moved] = before ++ rest →
      Tree (after organizationEngine organizationsAlone oneRoot before) ∧
        ∀ call ∈ rest.head?, Guarded organizationEngine organizationsAlone
          (after organizationEngine organizationsAlone oneRoot before) call) ↔
      ∀ before call rest, [OrganizationCall.update 7 moved] = before ++ call :: rest →
        Moving organizationsAlone (after organizationEngine organizationsAlone oneRoot before)
          call :=
  organizations_guarded_iff organizationEngine organizationsAlone oneRoot oneRoot_tree
    [.update 7 moved]

/-- An organization cannot be renamed. -/
theorem renamed_unguarded :
    ¬ Guarded organizationEngine organizationsAlone oneRoot (.update 7 renamed) := by
  intro guarded
  have silent : ¬ Mentions renamed := by
    rintro (path | depth)
    · exact absurd (mem_single.mp path) (by decide)
    · exact absurd (mem_single.mp depth) (by decide)
  have valid : Valid organizationsAlone headquarters renamed := by
    refine ⟨by decide +kernel, ?_⟩
    rw [Runtime.validateFields]
    exact if_pos (by decide +kernel)
  exact not_accepted _ ((guarded headquarters (List.mem_singleton.mpr rfl) rfl).2 silent valid)

end Sample

end ErpFinance.Organization
