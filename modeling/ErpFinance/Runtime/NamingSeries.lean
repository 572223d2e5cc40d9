import ErpFinance.Library.Stateful
import ErpFinance.Naming.Service
import ErpFinance.Runtime.Pipeline

/-!
# Naming series

The stage of a creation that fills the NamingSeries fields.  It passes over
records without a tenant; the record that `RunBeforeCreate` assembles has none,
and nothing is ever allocated.
-/

namespace ErpFinance.Runtime

open Compiler Domain Library Naming

structure NamingFieldContext where
  fieldName : String
  pattern : String
  tenantID : Uuid
  orgCode : String := ""
  fiscalYearLabel : String := ""

/-- An identifier that has been allocated for a field, with the call that it answers. -/
structure Allocation where
  fieldName : String
  call : Naming.Call
  identifier : String
  rendered : ∃ tokens seq, parsePattern call.request.input.pattern = .ok tokens ∧
    call.increment (call.key tokens) 1 = .ok seq ∧
      identifier = render tokens { call.request.vars with sequence := seq }

/-- The service, how often it has been called, and what it has allocated, the last one first. -/
structure Numbering where
  service : NamingSeriesService
  calls : Nat := 0
  allocations : List Allocation := []

/-- What the clock shows and the counter answers at each call. -/
structure NumberingSource where
  clock : Nat → Time
  increment : Nat → String → Int → Except String Int

section Stages

variable (source : NumberingSource)

def callFor (nfc : NamingFieldContext) (calls : Nat) : Naming.Call where
  request :=
    { input :=
        { tenantID := nfc.tenantID
          pattern := nfc.pattern
          orgCode := nfc.orgCode
          fiscalYearLabel := nfc.fiscalYearLabel
          now := source.clock calls }
      clock := source.clock calls }
  increment := source.increment calls

def allocateForRecord (nfc : NamingFieldContext) : Stateful Numbering Error String :=
  fun state =>
    match allocates : allocate state.service (callFor source nfc state.calls) with
    | (.ok (identifier, seq), service) =>
      (.ok identifier,
        { service := service
          calls := state.calls + 1
          allocations :=
            { fieldName := nfc.fieldName
              call := callFor source nfc state.calls
              identifier := identifier
              rendered := by
                obtain ⟨tokens, parsed, counted, same⟩ := allocate_ok allocates
                exact ⟨tokens, seq, parsed, counted, same⟩ } :: state.allocations })
    | (.error err, service) =>
      (.error (.wrapped
          ("naming: allocate \"" ++ nfc.pattern ++ "\" for field \"" ++ nfc.fieldName ++ "\"")
          (.other err)),
        { state with service := service, calls := state.calls + 1 })

def orgCodeOf (record : EntityRecord) : String :=
  if record.getString "organization_code" = "" then record.getString "org_code"
  else record.getString "organization_code"

/-- One field of `applyNamingSeries`; a value that is already set is kept. -/
def applyNamingField (tenantID : Uuid) (record : EntityRecord) (f : Def.FieldDef) :
    Stateful Numbering Error EntityRecord :=
  if f.type ≠ .namingSeries ∨ record.getString f.name ≠ "" ∨ f.series = "" then pure record
  else do
    let id ← (allocateForRecord source
      { fieldName := f.name
        pattern := f.series
        tenantID := tenantID
        orgCode := orgCodeOf record }).mapError (.wrapped ("naming_series \"" ++ f.name ++ "\""))
    pure (record.set f.name (.string id))

/-- `applyNamingSeries`; a record without a tenant is skipped silently. -/
def applyNamingSeries (record : EntityRecord) (es : EntitySchema) :
    Stateful Numbering Error EntityRecord :=
  if record.tenantID = Uuid.Nil then pure record
  else es.fields.foldlM (applyNamingField source record.tenantID) record

/-- `RunBeforeCreate` of a pipeline with a naming service. -/
def Pipeline.runBeforeCreateNumbered (p : Pipeline) (ctx : Context) (entityName : String)
    (data : Object) (actor : Option Actor) (customFields : Object := ∅) :
    Stateful Numbering Error EntityRecord := do
  let es ← Stateful.lift (p.lookupSchema entityName)
  let b := p.behaviour es.qualifiedName
  let record : EntityRecord :=
    { entityName := entityName
      data := applyDefaults b.defaults data
      customFields := customFields
      actor := actor }
  let record ← applyNamingSeries source record es
  let record ← Stateful.lift (runHooks ctx "before_validate" b.beforeValidate record)
  Stateful.lift (validateFields ctx es b record)
  let record ← Stateful.lift (runHooks ctx "before_save" b.beforeSave record)
  Stateful.lift (runHooks ctx "before_create" b.beforeCreate record)

end Stages

/-! ## Numbered fields -/

/-- A field holds an identifier that has been allocated from its pattern for the tenant. -/
def Numbered (tenantID : Uuid) (f : Def.FieldDef) (record : EntityRecord) (state : Numbering) :
    Prop :=
  ∃ a ∈ state.allocations, a.fieldName = f.name ∧ a.call.request.input.tenantID = tenantID ∧
    a.call.request.input.pattern = f.series ∧ record.get f.name = .string a.identifier

section Creations

variable {source : NumberingSource} {p : Pipeline} {ctx : Context} {entityName : String}
  {data customFields : Object} {actor : Option Actor} {record : EntityRecord}
  {es : EntitySchema}

theorem applyNamingSeries_nil (none : record.tenantID = Uuid.Nil) :
    applyNamingSeries source record es = pure record := by
  rw [applyNamingSeries, if_pos none]

/-- The stages of a creation leave the naming service alone. -/
theorem runBeforeCreateNumbered_idle :
    Stateful.Moves Eq
      (p.runBeforeCreateNumbered source ctx entityName data actor customFields) := by
  refine (Stateful.Moves.lift _).bind fun es => ?_
  dsimp only
  rw [applyNamingSeries_nil rfl]
  refine (Stateful.Moves.pure _).bind fun record => (Stateful.Moves.lift _).bind fun _ => ?_
  exact (Stateful.Moves.lift _).bind fun _ => (Stateful.Moves.lift _).bind fun _ =>
    Stateful.Moves.lift _

variable (p) in
/-- The fields of an entity that declare a series and that the input leaves unset. -/
def unsetSeries (entityName : String) (data : Object) : List Def.FieldDef :=
  match p.lookupSchema entityName with
  | .error _ => []
  | .ok es => es.fields.filter fun f =>
    f.type = .namingSeries ∧ f.series ≠ "" ∧ (data.get f.name).asString = ""

end Creations

/-- A creation that passes its stages has numbered every field that its input leaves unset for the
tenant of the request exactly when it leaves none unset. -/
theorem numbered_iff_none_unset (source : NumberingSource) (p : Pipeline) (ctx : Context)
    (entityName : String) (data customFields : Object) (actor : Option Actor)
    (service : NamingSeriesService) (record : EntityRecord) (after : Numbering)
    (runs : p.runBeforeCreateNumbered source ctx entityName data actor customFields
      { service := service } = (.ok record, after)) :
    (∀ f ∈ unsetSeries p entityName data,
      ∃ tenantID, ctx.tenant = some tenantID ∧ Numbered tenantID f record after) ↔
      unsetSeries p entityName data = [] := by
  have idle : { service := service } = after := runBeforeCreateNumbered_idle.of_run runs
  constructor
  · intro numbered
    refine List.eq_nil_iff_forall_not_mem.mpr fun f member => ?_
    obtain ⟨tenantID, -, a, allocated, -⟩ := numbered f member
    rw [← idle] at allocated
    cases allocated
  · intro none f member
    rw [none] at member
    cases member

section Sample

def invoiceDefinition : Def.EntityDefinition where
  name := "invoice"
  module := "finance"
  fields :=
    [{ name := "number", type := .namingSeries, series := "INV-\x7bYYYY\x7d-\x7bSEQ:6\x7d" }]

def invoicesCompiled : CompiledSchema where
  entities := [buildEntitySchema invoiceDefinition]
  byName _ := none
  routes := []
  capabilityGrants := []
  graph := {}
  diagnostics := []

def invoicePipeline : Pipeline where
  registry := newRuntimeRegistry invoicesCompiled
  behaviour _ := {}

/-- A counter that answers how often it has been asked. -/
def counting : NumberingSource where
  clock _ := Time.zero
  increment calls _ _ := .ok (calls + 1)

def invoicing (data : Object) : Except Error EntityRecord × Numbering :=
  invoicePipeline.runBeforeCreateNumbered counting { tenant := some 1 } "finance_invoice" data
    none ∅ { service := newNamingSeriesService }

/-- An invoice that comes with its number keeps it. -/
theorem invoicing_numbered :
    ∃ record after, invoicing (AList.singleton "number" (.string "INV-1")) = (.ok record, after) ∧
      record.getString "number" = "INV-1" ∧
      ∀ f ∈ unsetSeries invoicePipeline "finance_invoice"
          (AList.singleton "number" (.string "INV-1")),
        ∃ tenantID, some 1 = some tenantID ∧ Numbered tenantID f record after := by
  refine ⟨_, _, rfl, rfl, ?_⟩
  refine (numbered_iff_none_unset counting invoicePipeline { tenant := some 1 } "finance_invoice" _
    ∅ none newNamingSeriesService _ _ rfl).mpr ?_
  decide +kernel

/-- An invoice without a number passes the stages of its creation and has none. -/
theorem invoicing_unnumbered :
    ∃ record after, invoicing ∅ = (.ok record, after) ∧ record.getString "number" = "" ∧
      after.allocations.length = 0 ∧
      (unsetSeries invoicePipeline "finance_invoice" ∅).map (fun f => f.series) =
        ["INV-\x7bYYYY\x7d-\x7bSEQ:6\x7d"] ∧
      ¬ ∀ f ∈ unsetSeries invoicePipeline "finance_invoice" ∅,
        ∃ tenantID, some 1 = some tenantID ∧ Numbered tenantID f record after := by
  have declared : (unsetSeries invoicePipeline "finance_invoice" ∅).map (fun f => f.series) =
      ["INV-\x7bYYYY\x7d-\x7bSEQ:6\x7d"] := by decide +kernel
  refine ⟨_, _, rfl, rfl, rfl, declared, fun numbered => ?_⟩
  cases unset : unsetSeries invoicePipeline "finance_invoice" ∅ with
  | nil =>
    rw [unset] at declared
    cases declared
  | cons f rest =>
    rw [unset] at numbered
    obtain ⟨tenantID, -, a, allocated, -⟩ := numbered f List.mem_cons_self
    cases allocated

end Sample

end ErpFinance.Runtime
