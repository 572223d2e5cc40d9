import ErpFinance.Driver.Filter
import ErpFinance.Library.Except
import ErpFinance.Runtime.Errors
import ErpFinance.Runtime.Registry

/-!
# The lifecycle pipeline

The stages that a record passes before and after it is written.  What a
definition brings along as functions, its defaults, validators and hooks, is
its behaviour; a hook that panics is one that fails.
-/

namespace ErpFinance.Runtime

open Compiler Driver Library

/-- A hook changes the record it is called with, or fails. -/
abbrev Hook := Context → EntityRecord → Except Error EntityRecord

/-- A hook that also sees the record before the update. -/
abbrev UpdateHook := Context → EntityRecord → EntityRecord → Except Error EntityRecord

/-- The functions and the marks of an entity's definition; fields have at most one default, the
value its function returns. -/
structure Behaviour where
  defaults : List (String × Value) := []
  validators : List (String × List (Context → Value → String)) := []
  beforeValidate : List Hook := []
  beforeSave : List Hook := []
  beforeCreate : List Hook := []
  beforeUpdate : List UpdateHook := []
  beforeDelete : List Hook := []
  afterCreate : List Hook := []
  afterUpdate : List UpdateHook := []
  afterSave : List Hook := []
  afterDelete : List Hook := []
  /-- `SensitiveFields`. -/
  sensitive : List String := []
  /-- `PermissionSet.Policy`; no filter restricts nothing. -/
  policy : Option (Context → Option Filter) := none

/-- `audit` stands for the configuration of an entity's audit and for the writer. -/
structure Pipeline where
  registry : RuntimeRegistry
  behaviour : String → Behaviour
  audit : Context → EntityRecord → Option Object → Option Object → Except Error Unit :=
    fun _ _ _ _ => .ok ⟨⟩

section Stages

variable (ctx : Context)

def runHooks (stage : String) (hooks : List Hook) (record : EntityRecord) :
    Except Error EntityRecord :=
  hooks.foldlM (fun r hook => (hook ctx r).mapError (.wrapped stage)) record

def runUpdateHooks (stage : String) (hooks : List UpdateHook) (record prev : EntityRecord) :
    Except Error EntityRecord :=
  hooks.foldlM (fun r hook => (hook ctx r prev).mapError (.wrapped stage)) record

/-- `applyDefaults`: a field that is there keeps its value, also a nil one. -/
def applyDefaults (defaults : List (String × Value)) (data : Object) : Object :=
  defaults.foldl (fun o (name, value) => if name ∈ o then o else o.insert name value) data

/-- A name without a default keeps what the body has for it. -/
theorem lookup_applyDefaults {defaults : List (String × Value)} {data : Object} {name : String}
    (absent : name ∉ defaults.map Prod.fst) :
    (applyDefaults defaults data).lookup name = data.lookup name := by
  induction defaults generalizing data with
  | nil => rfl
  | cons entry rest ih =>
    obtain ⟨other, value⟩ := entry
    rw [List.map_cons, List.mem_cons, not_or] at absent
    rw [applyDefaults, List.foldl_cons]
    refine (ih absent.2).trans ?_
    dsimp only
    split_ifs
    · rfl
    · exact AList.lookup_insert_ne absent.1

def isMissing : Value → Bool
  | .null => true
  | .string s => s = ""
  | _ => false

def validateFields (es : EntitySchema) (b : Behaviour) (record : EntityRecord) :
    Except Error Unit :=
  let required := es.fields.filterMap fun f =>
    if f.required && isMissing (record.get f.name) then some (f.name, "this field is required")
    else none
  let invalid := b.validators.flatMap fun (name, validators) =>
    validators.filterMap fun validator =>
      let msg := validator ctx (record.get name)
      if msg = "" then none else some (name, msg)
  if required ++ invalid = [] then .ok ⟨⟩ else .error (.validation (required ++ invalid))

def immutableErrors (es : EntitySchema) (patch : Object) : List (String × String) :=
  es.fields.filterMap fun f =>
    if f.immutable && f.name ∈ patch then
      some (f.name, f.name ++ " cannot be changed after creation")
    else none

namespace Pipeline

variable (p : Pipeline)

def lookupSchema (entityName : String) : Except Error EntitySchema :=
  (p.registry.findEntity entityName).mapError .other

/-- `RunBeforeCreate`; the record has no tenant yet, so no naming series is allocated. -/
def runBeforeCreate (entityName : String) (data : Object) (actor : Option Actor) :
    Except Error EntityRecord := do
  let es ← p.lookupSchema entityName
  let b := p.behaviour es.qualifiedName
  let record : EntityRecord :=
    { entityName := entityName, data := applyDefaults b.defaults data, actor := actor }
  let record ← runHooks ctx "before_validate" b.beforeValidate record
  validateFields ctx es b record
  let record ← runHooks ctx "before_save" b.beforeSave record
  runHooks ctx "before_create" b.beforeCreate record

variable {p ctx} in
/-- The stages of a creation that passes them. -/
theorem runBeforeCreate_ok {es : EntitySchema} {entityName : String} {data : Object}
    {actor : Option Actor} {record : EntityRecord}
    (found : p.registry.findEntity entityName = .ok es)
    (runs : p.runBeforeCreate ctx entityName data actor = .ok record) :
    ∃ validated saved,
      runHooks ctx "before_validate" (p.behaviour es.qualifiedName).beforeValidate
        { entityName := entityName
          data := applyDefaults (p.behaviour es.qualifiedName).defaults data
          actor := actor } = .ok validated ∧
      validateFields ctx es (p.behaviour es.qualifiedName) validated = .ok ⟨⟩ ∧
      runHooks ctx "before_save" (p.behaviour es.qualifiedName).beforeSave validated =
        .ok saved ∧
      runHooks ctx "before_create" (p.behaviour es.qualifiedName).beforeCreate saved =
        .ok record := by
  rw [runBeforeCreate, lookupSchema, found] at runs
  obtain ⟨_, same, runs⟩ := bind_eq_ok_iff.mp runs
  cases same
  obtain ⟨validated, first, runs⟩ := bind_eq_ok_iff.mp runs
  obtain ⟨_, checked, runs⟩ := bind_eq_ok_iff.mp runs
  obtain ⟨saved, second, last⟩ := bind_eq_ok_iff.mp runs
  exact ⟨validated, saved, first, checked, second, last⟩

def runAfterCreate (record : EntityRecord) : Except Error EntityRecord := do
  let es ← p.lookupSchema record.entityName
  let b := p.behaviour es.qualifiedName
  let record ← runHooks ctx "after_create" b.afterCreate record
  runHooks ctx "after_save" b.afterSave record

/-- The record an update proposes: the current values and the patch. -/
def proposed (patch : Object) (actor : Option Actor) (current : EntityRecord) : EntityRecord where
  id := current.id
  tenantID := current.tenantID
  entityName := current.entityName
  data := current.data.merge patch
  customFields := current.customFields
  createdAt := current.createdAt
  actor := actor

def runBeforeUpdate (entityName : String) (patch : Object) (actor : Option Actor)
    (current : EntityRecord) : Except Error EntityRecord := do
  let es ← p.lookupSchema entityName
  let b := p.behaviour es.qualifiedName
  if immutableErrors es patch ≠ [] then .error (.validation (immutableErrors es patch))
  else do
    let record ← runHooks ctx "before_validate" b.beforeValidate (proposed patch actor current)
    validateFields ctx es b record
    let record ← runHooks ctx "before_save" b.beforeSave record
    runUpdateHooks ctx "before_update" b.beforeUpdate record current

variable {p ctx} in
/-- The stages of an update that passes them. -/
theorem runBeforeUpdate_ok {es : EntitySchema} {entityName : String} {patch : Object}
    {actor : Option Actor} {current record : EntityRecord}
    (found : p.registry.findEntity entityName = .ok es)
    (runs : p.runBeforeUpdate ctx entityName patch actor current = .ok record) :
    immutableErrors es patch = [] ∧ ∃ validated saved,
      runHooks ctx "before_validate" (p.behaviour es.qualifiedName).beforeValidate
        (proposed patch actor current) = .ok validated ∧
      validateFields ctx es (p.behaviour es.qualifiedName) validated = .ok ⟨⟩ ∧
      runHooks ctx "before_save" (p.behaviour es.qualifiedName).beforeSave validated =
        .ok saved ∧
      runUpdateHooks ctx "before_update" (p.behaviour es.qualifiedName).beforeUpdate saved
        current = .ok record := by
  rw [runBeforeUpdate, lookupSchema, found] at runs
  obtain ⟨_, same, runs⟩ := bind_eq_ok_iff.mp runs
  cases same
  dsimp only at runs
  split_ifs at runs with errors
  obtain ⟨validated, first, runs⟩ := bind_eq_ok_iff.mp runs
  obtain ⟨_, checked, runs⟩ := bind_eq_ok_iff.mp runs
  obtain ⟨saved, second, last⟩ := bind_eq_ok_iff.mp runs
  exact ⟨not_not.mp errors, validated, saved, first, checked, second, last⟩

def runAfterUpdate (record prev : EntityRecord) : Except Error EntityRecord := do
  let es ← p.lookupSchema record.entityName
  let b := p.behaviour es.qualifiedName
  let record ← runUpdateHooks ctx "after_update" b.afterUpdate record prev
  runHooks ctx "after_save" b.afterSave record

def runBeforeDelete (record : EntityRecord) : Except Error EntityRecord := do
  let es ← p.lookupSchema record.entityName
  runHooks ctx "before_delete" (p.behaviour es.qualifiedName).beforeDelete record

def runAfterDelete (record : EntityRecord) : Except Error EntityRecord := do
  let es ← p.lookupSchema record.entityName
  runHooks ctx "after_delete" (p.behaviour es.qualifiedName).afterDelete record

/-- `RunAuditRecord`: an entity may have opted out; an entity that is not found has not. -/
def runAuditRecord (record : EntityRecord) (before after : Option Object) : Except Error Unit :=
  match p.lookupSchema record.entityName with
  | .ok es => if es.allowAudit then p.audit ctx record before after else .ok ⟨⟩
  | .error _ => p.audit ctx record before after

end Pipeline

end Stages

end ErpFinance.Runtime
