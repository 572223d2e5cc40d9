import ErpFinance.Api.UpdateFrames
import ErpFinance.Driver.PostgresAnswers

/-!
# The life of a tenant

The definition of `platform_tenant` with its hooks, which check the slug and
guard the life of a tenant.

The hooks and the constraint of the status column keep every status on the
edges of its state machine.  The slug is checked without the spaces around it
and stored with them, so that a stored slug matches the pattern as long as no
slug is sent with spaces around it.
-/

namespace ErpFinance.Tenant

open Api Compiler Def Domain Driver Library Registry ErpFinance.Runtime

/-- `Definition`. -/
def tenantDefinition : EntityDefinition where
  name := "tenant"
  module := "platform"
  fields :=
    [{ name := "name", type := .data, required := true },
     { name := "slug", type := .data, required := true, immutable := true },
     { name := "status", type := .select, hasDefault := true
       options := ["PENDING", "ACTIVE", "SUSPENDED", "ARCHIVED"] },
     { name := "plan", type := .select, hasDefault := true
       options := ["free", "starter", "growth", "enterprise"] },
     { name := "country", type := .data },
     { name := "locale", type := .data, hasDefault := true },
     { name := "timezone", type := .data, hasDefault := true },
     { name := "currency", type := .data, hasDefault := true },
     { name := "contact_email", type := .data, required := true },
     { name := "contact_phone", type := .data },
     { name := "trial_ends_at", type := .dateTime },
     { name := "suspended_at", type := .dateTime },
     { name := "suspension_reason", type := .smallText }]
  permissions :=
    { create := ["platform.tenant.create"]
      read := ["platform.tenant.read"]
      write := ["platform.tenant.update"] }

def tenants : EntitySchema := buildEntitySchema tenantDefinition

/-! ## Hooks -/

def slugRe (slug : String) : Bool :=
  match slug.toList with
  | [] => false
  | first :: rest =>
    isLower first && 2 ≤ rest.length && rest.length ≤ 62 &&
      rest.dropLast.all (fun c => isLowerOrDigit c || c = '-') && rest.getLast?.any isLowerOrDigit

def validTransitions : String → Option (List String)
  | "PENDING" => some ["ACTIVE", "ARCHIVED"]
  | "ACTIVE" => some ["SUSPENDED", "ARCHIVED"]
  | "SUSPENDED" => some ["ACTIVE", "ARCHIVED"]
  | "ARCHIVED" => some []
  | _ => none

/-- The slug is checked without the spaces around it and stays as it is. -/
def SlugValidator.beforeCreate : Hook := fun _ record =>
  let slug := trimSpace (record.getString "slug")
  if slugRe slug then .ok record
  else .error (.validation [("slug",
    "must be 3–63 lowercase letters, digits, or hyphens; must start with a letter")])

def StatusValidator.beforeCreate : Hook := fun _ record =>
  let status := record.getString "status"
  if status ≠ "" && status ≠ "PENDING" then
    .error (.business "tenant.invalid_initial_status"
      ("New tenants must start as PENDING, not " ++ quoted status) 422)
  else .ok (record.set "status" (.string "PENDING"))

def TransitionGuard.beforeUpdate : UpdateHook := fun _ record prev =>
  let newStatus := record.getString "status"
  let currentStatus := prev.getString "status"
  if newStatus = "" then .ok record
  else if newStatus = currentStatus then .ok record
  else
    match validTransitions currentStatus with
    | none =>
      .error (.business "tenant.unknown_status"
        ("Unknown current status " ++ quoted currentStatus) 422)
    | some allowed =>
      if newStatus ∈ allowed then .ok record
      else
        .error (.business "tenant.invalid_transition"
          ("Cannot transition tenant from " ++ currentStatus ++ " to " ++ newStatus) 422)

/-- What the definition brings along. -/
def tenantBehaviour : Behaviour where
  defaults := [("status", .string "PENDING"), ("plan", .string "free"),
    ("locale", .string "en-KE"), ("timezone", .string "Africa/Nairobi"),
    ("currency", .string "KES")]
  beforeCreate := [SlugValidator.beforeCreate, StatusValidator.beforeCreate]
  beforeUpdate := [TransitionGuard.beforeUpdate]
  sensitive := ["trial_ends_at", "suspended_at", "suspension_reason"]

structure TenantDeployment where
  registry : RuntimeRegistry
  audit : Context → EntityRecord → Option Object → Option Object → Except Error Unit
  registered : registry.findEntity tenants.qualifiedName = .ok tenants

def tenantService (deployment : TenantDeployment) : EntityService where
  schema := tenants
  pipeline :=
    { registry := deployment.registry
      behaviour := fun _ => tenantBehaviour
      audit := deployment.audit }

example : ["acme-corp", "ab", "ACME", "-acme", "acme-", "acme corp"].map slugRe =
    [true, false, false, false, false, false] := by decide +kernel

def statuses : List String := ["PENDING", "ACTIVE", "SUSPENDED", "ARCHIVED"]

/-- A status stays or takes an edge of the state machine. -/
def Moved (status next : String) : Prop :=
  next = status ∨ ∃ allowed, validTransitions status = some allowed ∧ next ∈ allowed

/-- What the columns `status varchar(20)` and `slug varchar(63)` and the check on the status make
of values. -/
structure TenantColumns (e : Engine) : Prop where
  status_text : ∀ text kept, text.length ≤ 20 →
    e.keep tenants.tableName "status" (.string text) = some kept → kept = .string text
  /-- No other value than nil fits. -/
  status_other : ∀ value kept, (∀ text, value ≠ .string text) →
    e.keep tenants.tableName "status" value = some kept → kept = .null
  slug_text : ∀ text kept, text.length ≤ 63 →
    e.keep tenants.tableName "slug" (.string text) = some kept → kept = .string text
  checked : ∀ tables, e.permits tables = true → ∀ row ∈ tables tenants.tableName,
    ∃ status ∈ statuses, row.value "status" = .string status

inductive TenantCall where
  | create (patch : Patch)
  | update (id : Uuid) (patch : Patch)

section Calls

variable (e : Engine) (deployment : TenantDeployment)

def call (store : Driver.Store) : TenantCall → Driver.Store
  | .create patch => (EntityService.create e.database (tenantService deployment) patch.context
      patch.body patch.viewer store).2
  | .update id patch => (EntityService.update e.database (tenantService deployment) patch.context
      id patch.body patch.viewer store).2

/-- A slug is sent without spaces around it, and no key of an update has a quote. -/
def Trimmed (_ : Driver.Store) : TenantCall → Prop
  | .create patch =>
    trimSpace (patch.body.get "slug").asString = (patch.body.get "slug").asString
  | .update _ patch => ∀ key ∈ patch.body, unquoted key = true

/-- A tenant has a status, and a slug that matches the pattern. -/
def LawfulRow (row : Row) : Prop :=
  (∃ status ∈ statuses, row.value "status" = .string status) ∧
    ∃ slug, row.value "slug" = .string slug ∧ slugRe slug = true

structure Lawful (store : Driver.Store) : Prop where
  nodup : ((store.tables tenants.tableName).map Row.id).Nodup
  rows : ∀ row ∈ store.tables tenants.tableName, LawfulRow row

def status (row : Row) : String := (row.value "status").asString

/-- Every tenant is new and pending, or one of before that has taken an edge. -/
def Stepped (before after : Driver.Store) : Prop :=
  ∀ row ∈ after.tables tenants.tableName,
    (status row = "PENDING" ∧ ∀ old ∈ before.tables tenants.tableName, old.id ≠ row.id) ∨
      ∃ old ∈ before.tables tenants.tableName, old.id = row.id ∧
        row.value "slug" = old.value "slug" ∧ Moved (status old) (status row) ∧
        (status old = "ARCHIVED" → status row = "ARCHIVED")

end Calls

/-! ## The state machine -/

theorem slugRe_length {slug : String} (lawful : slugRe slug = true) : slug.length ≤ 63 := by
  unfold slugRe at lawful
  rw [← String.length_toList]
  cases letters : slug.toList with
  | nil => exact Nat.zero_le _
  | cons first rest =>
    rw [letters] at lawful
    simp only [Bool.and_eq_true, decide_eq_true_eq] at lawful
    rw [List.length_cons]
    exact Nat.succ_le_succ lawful.1.1.2

theorem statuses_length : ∀ text ∈ statuses, text.length ≤ 20 := by decide

theorem validTransitions_statuses {text next : String} {allowed : List String}
    (valid : validTransitions text = some allowed) (member : next ∈ allowed) :
    next ∈ statuses := by
  have known : ∀ name ∈ statuses, ∀ after ∈ (validTransitions name).getD [], after ∈ statuses := by
    decide
  unfold validTransitions at valid
  split at valid
  all_goals
    cases valid
  · exact known "PENDING" (by decide) next member
  · exact known "ACTIVE" (by decide) next member
  · exact known "SUSPENDED" (by decide) next member
  · cases member

/-- The last status is not left. -/
theorem Moved.archived {next : String} (moved : Moved "ARCHIVED" next) : next = "ARCHIVED" := by
  rcases moved with same | ⟨allowed, valid, member⟩
  · exact same
  · cases valid
    cases member

section Hooks

variable {deployment : TenantDeployment} {ctx : Context} {body : Object} {actor : Option Actor}
  {current record result : EntityRecord}

theorem wired_tenants : (tenantService deployment).Wired where
  system := rfl
  plain := by
    show Plain tenants
    unfold Driver.Plain
    decide +kernel
  registered := deployment.registered

theorem transitionGuard_ok
    (runs : TransitionGuard.beforeUpdate ctx record current = .ok result) :
    result = record ∧ (record.getString "status" = "" ∨
      Moved (current.getString "status") (record.getString "status")) := by
  unfold TransitionGuard.beforeUpdate at runs
  dsimp only at runs
  split_ifs at runs with empty same
  · cases runs
    exact ⟨rfl, .inl empty⟩
  · cases runs
    exact ⟨rfl, .inr (.inl same)⟩
  · split at runs
    · cases runs
    · rename_i allowed valid
      split_ifs at runs with member
      cases runs
      exact ⟨rfl, .inr (.inr ⟨allowed, valid, member⟩)⟩

theorem hookFields_tenants : HookFields (tenantService deployment) (fun _ => False) where
  declared _ none := none.elim
  mutable _ none := none.elim
  free _ none := none.elim
  hooks := by
    refine ⟨fun _ none => absurd none List.not_mem_nil, fun _ none => absurd none List.not_mem_nil,
      fun hook member ctx record prev result hooked => ?_⟩
    obtain rfl := List.mem_singleton.mp member
    rw [(transitionGuard_ok hooked).1]
    exact SetsOnly.refl _

theorem declared_status : Declared tenants "status" :=
  ⟨{ name := "status", type := .select, hasDefault := true
     options := ["PENDING", "ACTIVE", "SUSPENDED", "ARCHIVED"] },
    show _ ∈ tenants.fields by decide, rfl⟩

theorem declared_slug : Declared tenants "slug" :=
  ⟨{ name := "slug", type := .data, required := true, immutable := true },
    show _ ∈ tenants.fields by decide, rfl⟩

theorem runBeforeCreate_tenant (runs : (tenantService deployment).pipeline.runBeforeCreate ctx
      tenants.qualifiedName body actor = .ok record) :
    record.data.get "status" = .string "PENDING" ∧
      record.data.get "slug" = body.get "slug" ∧
      slugRe (trimSpace (body.get "slug").asString) = true := by
  obtain ⟨validated, saved, first, -, second, last⟩ :=
    Pipeline.runBeforeCreate_ok deployment.registered runs
  cases first
  cases second
  have hooks : runHooks ctx "before_create" [SlugValidator.beforeCreate,
      StatusValidator.beforeCreate] _ = .ok record := last
  rw [runHooks, List.foldlM_cons] at hooks
  obtain ⟨checked, slug, hooks⟩ := bind_eq_ok_iff.mp hooks
  rw [List.foldlM_cons] at hooks
  obtain ⟨pending, status, rest⟩ := bind_eq_ok_iff.mp hooks
  cases rest
  have proposed : (applyDefaults tenantBehaviour.defaults body).get "slug" = body.get "slug" := by
    have absent : "slug" ∉ tenantBehaviour.defaults.map Prod.fst := by decide
    rw [Object.get, lookup_applyDefaults absent, Object.get]
  replace slug := mapError_eq_ok_iff.mp slug
  unfold SlugValidator.beforeCreate at slug
  dsimp only at slug
  split_ifs at slug with matched
  cases slug
  replace status := mapError_eq_ok_iff.mp status
  unfold StatusValidator.beforeCreate at status
  dsimp only at status
  split_ifs at status
  cases status
  refine ⟨Object.get_insert_self _ _ _, ?_, ?_⟩
  · exact (Object.get_insert_of_ne (by decide)).trans proposed
  · rw [← proposed]
    exact matched

theorem runBeforeUpdate_tenant (runs : (tenantService deployment).pipeline.runBeforeUpdate ctx
      tenants.qualifiedName body actor current = .ok record) :
    record.data.lookup "slug" = current.data.lookup "slug" ∧
      (record.getString "status" = "" ∨
        Moved (current.getString "status") (record.getString "status")) := by
  obtain ⟨immutable, validated, saved, first, -, second, last⟩ :=
    Pipeline.runBeforeUpdate_ok deployment.registered runs
  cases first
  cases second
  have single : runUpdateHooks ctx "before_update" [TransitionGuard.beforeUpdate]
      (Pipeline.proposed body actor current) current = .ok record := last
  rw [runUpdateHooks, List.foldlM_cons] at single
  obtain ⟨guarded, called, rest⟩ := bind_eq_ok_iff.mp single
  cases rest
  obtain ⟨rfl, moved⟩ := transitionGuard_ok (mapError_eq_ok_iff.mp called)
  refine ⟨AList.lookup_union_right fun member => ?_, moved⟩
  have isField : ({ name := "slug", type := .data, required := true, immutable := true } :
      FieldDef) ∈ tenants.fields := by decide
  have errs := List.filterMap_eq_nil_iff.mp immutable _ isField
  rw [if_pos (by simpa using member)] at errs
  cases errs

end Hooks

section Runs

variable {e : Engine} {deployment : TenantDeployment} {store : Driver.Store} {patch : Patch}
  {id : Uuid}

theorem free_tenants : ∀ f ∈ tenants.fields, f.name ∉ frameworkColumns ++ ["custom_fields"] := by
  decide

theorem status_eq {row : Row} {text : String} (holds : row.value "status" = .string text) :
    status row = text := congrArg Value.asString holds

/-- Where the tables are left, every tenant is as before. -/
theorem Lawful.of_tables {newer : Driver.Store} (same : newer.tables = store.tables)
    (lawful : Lawful store) : Lawful newer ∧ Stepped store newer := by
  refine ⟨⟨?_, ?_⟩, fun row member => .inr ⟨row, ?_, rfl, rfl, .inl rfl, id⟩⟩
  · rw [same]
    exact lawful.nodup
  · rw [same]
    exact lawful.rows
  · rwa [same] at member

/-- A creation adds a tenant that is pending. -/
theorem Lawful.create (columns : TenantColumns e) (lawful : Lawful store)
    (trimmed : Trimmed store (.create patch)) :
    Lawful (call e deployment store (.create patch)) ∧
      Stepped store (call e deployment store (.create patch)) := by
  have wired : (tenantService deployment).Wired := wired_tenants
  rw [call]
  rcases runs : EntityService.create e.database (tenantService deployment) patch.context patch.body
    patch.viewer store with ⟨error | record, after⟩
  · exact lawful.of_tables (EntityService.create_error rfl runs)
  · obtain ⟨created, stages, row, inserted, -⟩ := EntityService.create_ok rfl wired.plain runs
    obtain ⟨pending, slug, matched⟩ := runBeforeCreate_tenant stages
    rw [trimmed] at matched
    have tables : after.tables tenants.tableName = store.tables tenants.tableName ++ [row] := by
      rw [inserted.tables]
      exact Function.update_self _ _ _
    have nodup := inserted.settled.nodup
    have status' : row.value "status" = .string "PENDING" := by
      have kept := inserted.value rfl free_tenants
        ((mem_sortedFieldNames tenants).mpr declared_status)
      rw [pending] at kept
      exact columns.status_text _ _ (by decide) kept
    have slug' : row.value "slug" = .string (patch.body.get "slug").asString := by
      have kept := inserted.value rfl free_tenants
        ((mem_sortedFieldNames tenants).mpr declared_slug)
      have isText : patch.body.get "slug" = .string (patch.body.get "slug").asString := by
        refine Value.eq_string_of_asString (fun empty => ?_) rfl
        rw [empty] at matched
        cases matched
      rw [slug, isText] at kept
      exact columns.slug_text _ _ (slugRe_length matched) kept
    constructor
    · refine ⟨nodup, fun other member => ?_⟩
      rw [tables] at member
      rcases List.mem_append.mp member with old | new
      · exact lawful.rows other old
      · obtain rfl := List.mem_singleton.mp new
        exact ⟨⟨_, List.mem_cons_self, status'⟩, _, slug', matched⟩
    · intro other member
      dsimp only at member
      rw [tables] at member
      rcases List.mem_append.mp member with old | new
      · exact .inr ⟨other, old, rfl, rfl, .inl rfl, id⟩
      · obtain rfl := List.mem_singleton.mp new
        refine .inl ⟨status_eq status', fun old inBefore same => ?_⟩
        replace nodup : ((after.tables tenants.tableName).map Row.id).Nodup := nodup
        rw [tables, List.map_append, List.nodup_append] at nodup
        exact nodup.2.2 _ (List.mem_map_of_mem inBefore) _ List.mem_cons_self same

/-- A row that an update has written keeps its slug, and its status takes an edge. -/
theorem stepped_of_wrote {body : Object} {ctx : Context} {actor : Option Actor} {old new : Row}
    {patched : EntityRecord} (columns : TenantColumns e) (lawful : LawfulRow old)
    (stages : (tenantService deployment).pipeline.runBeforeUpdate ctx tenants.qualifiedName body
      actor (scan tenants old.shown) = .ok patched)
    (wrote : Wrote e tenants.tableName patched.data old new)
    (checked : ∃ status ∈ statuses, new.value "status" = .string status) :
    new.value "slug" = old.value "slug" ∧ Moved (status old) (status new) := by
  have wired : (tenantService deployment).Wired := wired_tenants
  have shown : ∀ name, Declared tenants name →
      (scan tenants old.shown).data.lookup name = some (old.value name) :=
    fun name declared => lookup_scan wired old declared
  obtain ⟨slug, moved⟩ := runBeforeUpdate_tenant stages
  obtain ⟨⟨before, isStatus, holds⟩, text, holdsSlug, matched⟩ := lawful
  obtain ⟨after, isAfter, holdsAfter⟩ := checked
  have read : (scan tenants old.shown).getString "status" = before := by
    rw [EntityRecord.getString, EntityRecord.get, Object.get, shown _ declared_status, holds]
    rfl
  constructor
  · have kept := wrote.set "slug" _ (slug.trans (shown _ declared_slug))
    rw [holdsSlug] at kept ⊢
    exact columns.slug_text _ _ (slugRe_length matched) kept
  · rw [status_eq holds, status_eq holdsAfter]
    cases proposed : patched.data.lookup "status" with
    | none =>
      have absent : "status" ∉ patched.data := AList.lookup_eq_none.mp proposed
      rw [wrote.kept "status" absent (by decide), holds] at holdsAfter
      exact .inl (Json.string.inj holdsAfter).symm
    | some value =>
      have kept := wrote.set "status" value proposed
      rw [holdsAfter] at kept
      have set : patched.getString "status" = value.asString := by
        rw [EntityRecord.getString, EntityRecord.get, Object.get, proposed, Option.getD_some]
      by_cases isText : ∃ text, value = .string text
      · obtain ⟨text, rfl⟩ := isText
        have same : text.length ≤ 20 → after = text := fun fits =>
          Json.string.inj (columns.status_text _ _ fits kept)
        rw [set, read] at moved
        rcases moved with rfl | moved
        · have empty := same (Nat.zero_le _)
          rw [empty] at isAfter
          exact absurd isAfter (by decide)
        · rcases moved with rfl | ⟨allowed, valid, member⟩
          · rw [same (statuses_length _ isStatus)]
            exact .inl rfl
          · rw [same (statuses_length _ (validTransitions_statuses valid member))]
            exact .inr ⟨allowed, valid, member⟩
      · have none := columns.status_other value _ (fun text same => isText ⟨text, same⟩) kept
        cases none

/-- An update moves the status of one tenant along an edge. -/
theorem Lawful.update (columns : TenantColumns e) (lawful : Lawful store)
    (trimmed : Trimmed store (.update id patch)) :
    Lawful (call e deployment store (.update id patch)) ∧
      Stepped store (call e deployment store (.update id patch)) := by
  have wired : (tenantService deployment).Wired := wired_tenants
  rw [call]
  rcases runs : EntityService.update e.database (tenantService deployment) patch.context id
    patch.body patch.viewer store with ⟨error | record, after⟩
  · exact lawful.of_tables (EntityService.update_error rfl wired.plain runs)
  · obtain ⟨read, inTable, isRead, patched, stages, updates⟩ :=
      EntityService.update_ok rfl wired.plain runs
    have updated := updates fun _ key inData =>
      wired.unquoted_of_patched hookFields_tenants trimmed stages inData
    rcases updated.effect with ⟨-, same⟩ | ⟨-, now, rewritten⟩
    · exact lawful.of_tables same
    have moved : ∀ new ∈ after.tables tenants.tableName,
        ∃ old ∈ store.tables tenants.tableName, old.id = new.id ∧
          new.value "slug" = old.value "slug" ∧ Moved (status old) (status new) := by
      intro new member
      rcases updated.identified rfl lawful.nodup member with
        ⟨inBefore, -⟩ | ⟨isNew, old, inBefore, isOld, wrote⟩
      · exact ⟨new, inBefore, rfl, rfl, .inl rfl⟩
      · obtain rfl : read = old :=
          List.inj_on_of_nodup_map lawful.nodup inTable inBefore (isRead.trans isOld.symm)
        exact ⟨read, inBefore, isOld.trans isNew.symm,
          stepped_of_wrote columns (lawful.rows read inBefore) stages wrote
            (columns.checked _ rewritten.settled.permits new member)⟩
    refine ⟨⟨updated.nodup lawful.nodup, fun new member => ?_⟩, fun new member => ?_⟩
    · obtain ⟨old, inBefore, -, slug, -⟩ := moved new member
      refine ⟨columns.checked _ rewritten.settled.permits new member, ?_⟩
      rw [slug]
      exact (lawful.rows old inBefore).2
    · obtain ⟨old, inBefore, same, slug, edge⟩ := moved new member
      refine .inr ⟨old, inBefore, same, slug, edge, fun archived => ?_⟩
      rw [archived] at edge
      exact edge.archived

end Runs

/-- In every run of creations and updates in which no slug is sent with spaces around it and no key
with a quote, every tenant has a status and a slug that matches the pattern, and every call that
follows makes tenants that are pending or moves statuses along the edges. -/
theorem tenants_lawful (e : Engine) (deployment : TenantDeployment) (start : Driver.Store)
    (columns : TenantColumns e) (lawful : Lawful start) (state : Driver.Store)
    (run : Run (call e deployment) Trimmed start state) :
    (∀ row ∈ state.tables tenants.tableName, LawfulRow row) ∧
      ∀ next, Trimmed state next → Stepped state (call e deployment state next) := by
  have step : ∀ middle next, Trimmed middle next → Lawful middle →
      Lawful (call e deployment middle next) ∧ Stepped middle (call e deployment middle next) := by
    intro middle next trimmed lawful
    cases next with
    | create patch => exact lawful.create columns trimmed
    | update id patch => exact lawful.update columns trimmed
  have kept : Lawful state :=
    run.invariant lawful fun middle next trimmed lawful => (step middle next trimmed lawful).1
  exact ⟨kept.rows, fun next trimmed => (step state next trimmed kept).2⟩

section Sample

def tenantsCompiled : CompiledSchema where
  entities := [tenants]
  byName := index EntitySchema.qualifiedName [tenants]
  routes := []
  capabilityGrants := []
  graph := {}
  diagnostics := []

theorem findEntity_tenants :
    (newRuntimeRegistry tenantsCompiled).findEntity tenants.qualifiedName = .ok tenants := by
  have nodup : ([tenants].map EntitySchema.qualifiedName).Nodup := List.nodup_singleton _
  exact find_index nodup List.mem_cons_self _ _

def tenantsAlone : TenantDeployment where
  registry := newRuntimeRegistry tenantsCompiled
  audit _ _ _ _ := .ok ⟨⟩
  registered := findEntity_tenants

/-- Texts of at most so many letters, and nil. -/
def varchar (limit : Nat) : Value → Option Value
  | .string text => if text.length ≤ limit then some (.string text) else none
  | .null => some .null
  | _ => none

variable {value kept : Value}

theorem varchar_eq {limit : Nat} (keeps : varchar limit value = some kept) :
    kept = value := by
  unfold varchar at keeps
  split at keeps
  · split_ifs at keeps
    exact (Option.some.inj keeps).symm
  · exact (Option.some.inj keeps).symm
  · cases keeps

theorem varchar_other {limit : Nat} (keeps : varchar limit value = some kept)
    (other : ∀ text, value ≠ .string text) : kept = .null := by
  unfold varchar at keeps
  split at keeps
  · exact absurd rfl (other _)
  · exact (Option.some.inj keeps).symm
  · cases keeps

def tenantKeep (_ column : String) (value : Value) : Option Value :=
  if column = "status" then varchar 20 value
  else if column = "slug" then varchar 63 value
  else some value

theorem tenantKeep_eq {table column : String} (keeps : tenantKeep table column value = some kept) :
    kept = value := by
  unfold tenantKeep at keeps
  split_ifs at keeps
  · exact varchar_eq keeps
  · exact varchar_eq keeps
  · exact (Option.some.inj keeps).symm

theorem tenantKeep_keep {table column : String} (keeps : tenantKeep table column value = some kept)
    :
    tenantKeep table column kept = some kept := by
  have same := tenantKeep_eq keeps
  rw [same] at keeps ⊢
  exact keeps

def statusCheck (tables : Tables) : Bool :=
  (tables tenants.tableName).all fun row =>
    statuses.any fun name =>
      match row.value "status" with
      | .string text => text = name
      | _ => false

def tenantEngine : Engine :=
  { untyped (fun _ => scannedColumns tenants) statusCheck with
    keep := tenantKeep
    keep_keep := tenantKeep_keep
    keep_id := fun _ _ => rfl }

theorem tenantColumns_sample : TenantColumns tenantEngine where
  status_text text kept _ keeps := by
    have same : tenantKeep tenants.tableName "status" (.string text) = some kept := keeps
    exact tenantKeep_eq same
  status_other _ _ other keeps := varchar_other keeps other
  slug_text text kept _ keeps := by
    have same : tenantKeep tenants.tableName "slug" (.string text) = some kept := keeps
    exact tenantKeep_eq same
  checked tables permits row member := by
    replace permits : statusCheck tables = true := permits
    rw [statusCheck, List.all_eq_true] at permits
    obtain ⟨name, known, holds⟩ := List.any_eq_true.mp (permits row member)
    refine ⟨name, known, ?_⟩
    split at holds
    · rename_i text held
      rw [held, of_decide_eq_true holds]
    · cases holds

def noTenants : Driver.Store where
  tables _ := []

def acme (slug : String) : Patch :=
  patch (((single "name" (.string "Acme")).insert "slug" (.string slug)).insert "contact_email"
    (.string "info@acme.example"))

def activated : Patch := patch (single "status" (.string "ACTIVE"))

def opened : Driver.Store :=
  call tenantEngine tenantsAlone (call tenantEngine tenantsAlone noTenants
    (.create (acme "acme-corp"))) (.update 1 activated)

theorem opened_lawful :
    (∀ row ∈ opened.tables tenants.tableName, LawfulRow row) ∧
      ∀ next, Trimmed opened next →
        Stepped opened (call tenantEngine tenantsAlone opened next) := by
  refine tenants_lawful tenantEngine tenantsAlone noTenants tenantColumns_sample
    ⟨List.nodup_nil, fun row none => absurd none List.not_mem_nil⟩ opened
    (.tail _ (.tail _ .refl ?_) ?_)
  · show trimSpace _ = _
    decide +kernel
  · show ∀ key ∈ activated.body, unquoted key = true
    decide +kernel

/-- A slug with spaces around it passes the check and is stored with them. -/
theorem spaced_stored :
    ((call tenantEngine tenantsAlone noTenants (.create (acme " acme-corp "))).tables
        tenants.tableName).map (fun row => ((row.value "slug").asString, status row)) =
      [(" acme-corp ", "PENDING")] ∧ slugRe " acme-corp " = false := by
  decide +kernel

end Sample

end ErpFinance.Tenant
