import ErpFinance.Api.ServiceSteps
import ErpFinance.Iam.UserDefinition
import ErpFinance.Library.Run

/-!
# What updates leave alone

The keys of a body reach the merged record, the hooks and the columns of the
statement unfiltered; only immutable fields are refused.  An update keeps the
identity of a record, and every field that nobody sets, as long as bodies and
hooks name nothing but declared fields beside the columns of the driver.
-/

namespace ErpFinance.Api

open Compiler Domain Driver Library ErpFinance.Runtime

/-! ## Hooks -/

/-- Nothing but the fields of a set differs. -/
def SetsOnly (fields : String → Prop) (before after : EntityRecord) : Prop :=
  ∀ name, ¬ fields name → after.data.lookup name = before.data.lookup name

structure HooksSetOnly (b : Behaviour) (fields : String → Prop) : Prop where
  beforeValidate : ∀ hook ∈ b.beforeValidate, ∀ ctx record result,
    hook ctx record = .ok result → SetsOnly fields record result
  beforeSave : ∀ hook ∈ b.beforeSave, ∀ ctx record result,
    hook ctx record = .ok result → SetsOnly fields record result
  beforeUpdate : ∀ hook ∈ b.beforeUpdate, ∀ ctx record prev result,
    hook ctx record prev = .ok result → SetsOnly fields record result

section Hooks

variable {fields : String → Prop} {ctx : Context} {stage : String} {record result : EntityRecord}

theorem SetsOnly.refl (record : EntityRecord) : SetsOnly fields record record := fun _ _ => rfl

theorem SetsOnly.trans {first second third : EntityRecord} (before : SetsOnly fields first second)
    (after : SetsOnly fields second third) : SetsOnly fields first third :=
  fun name absent => (after name absent).trans (before name absent)

theorem setsOnly_foldlM {α : Type} {step : EntityRecord → α → Except Error EntityRecord}
    {items : List α} (each : ∀ item ∈ items, ∀ record result, step record item = .ok result →
      SetsOnly fields record result) (runs : items.foldlM step record = .ok result) :
    SetsOnly fields record result := by
  induction items generalizing record with
  | nil =>
    cases runs
    exact SetsOnly.refl _
  | cons item rest ih =>
    rw [List.foldlM_cons] at runs
    obtain ⟨middle, first, others⟩ := bind_eq_ok_iff.mp runs
    obtain ⟨own, tail⟩ := List.forall_mem_cons.mp each
    exact (own _ _ first).trans (ih tail others)

theorem runHooks_setsOnly {hooks : List Hook} (each : ∀ hook ∈ hooks, ∀ ctx record result,
    hook ctx record = .ok result → SetsOnly fields record result)
    (runs : runHooks ctx stage hooks record = .ok result) : SetsOnly fields record result :=
  setsOnly_foldlM (fun hook member record result called =>
    each hook member ctx record result (mapError_eq_ok_iff.mp called)) runs

theorem runUpdateHooks_setsOnly {hooks : List UpdateHook} {prev : EntityRecord}
    (each : ∀ hook ∈ hooks, ∀ ctx record prev result,
      hook ctx record prev = .ok result → SetsOnly fields record result)
    (runs : runUpdateHooks ctx stage hooks record prev = .ok result) :
    SetsOnly fields record result :=
  setsOnly_foldlM (fun hook member record result called =>
    each hook member ctx record prev result (mapError_eq_ok_iff.mp called)) runs

theorem runBeforeUpdate_frame {p : Pipeline} {es : EntitySchema} {entityName : String}
    {patch : Object} {actor : Option Actor} {current patched : EntityRecord}
    (found : p.registry.findEntity entityName = .ok es)
    (hooks : HooksSetOnly (p.behaviour es.qualifiedName) fields)
    (runs : p.runBeforeUpdate ctx entityName patch actor current = .ok patched) :
    immutableErrors es patch = [] ∧
      ∀ name, ¬ fields name →
        patched.data.lookup name = (current.data.merge patch).lookup name := by
  obtain ⟨mutable, validated, saved, first, -, second, runs⟩ :=
    Pipeline.runBeforeUpdate_ok found runs
  refine ⟨mutable, fun name absent => ?_⟩
  have sets : SetsOnly fields (Pipeline.proposed patch actor current) patched :=
    ((runHooks_setsOnly hooks.beforeValidate first).trans
      (runHooks_setsOnly hooks.beforeSave second)).trans
      (runUpdateHooks_setsOnly hooks.beforeUpdate runs)
  exact sets name absent

end Hooks

/-! ## Statements -/

/-- The columns of the driver, which no body and no hook may set. -/
def reserved : List String := frameworkColumns ++ ["custom_fields"]

def Declared (es : EntitySchema) (name : String) : Prop := ∃ f ∈ es.fields, f.name = name

def Names (statement : Statement) : List String :=
  statement.columns ++ statement.condition.toList.flatMap Filter.columns

/-- The statements sent between two states name nothing but allowed columns. -/
def Sends (allowed : String → Prop) (store after : Store) : Prop :=
  ∃ sent, after.sent = sent ++ store.sent ∧
    ∀ statement ∈ sent, ∀ column ∈ Names statement, allowed column

section Sends

variable {allowed : String → Prop}

instance : Std.Refl (Sends allowed) := ⟨fun _ => ⟨[], rfl, nofun⟩⟩

instance : IsTrans Store (Sends allowed) where
  trans := by
    rintro first second third ⟨sent, same, each⟩ ⟨more, grown, others⟩
    refine ⟨more ++ sent, by rw [grown, same, List.append_assoc], fun statement member => ?_⟩
    rcases List.mem_append.mp member with later | earlier
    · exact others statement later
    · exact each statement earlier

variable {e : Engine} {es : EntitySchema} {ctx : Context} {id : Uuid} {store after : Store}
  {statement : Statement}

theorem Sends.single (names : ∀ column ∈ Names statement, allowed column)
    (sent : after.sent = statement :: store.sent) : Sends allowed store after :=
  ⟨[statement], sent, by simpa using names⟩

theorem send_sends (operation : String) (names : ∀ column ∈ Names statement, allowed column) :
    Stateful.Moves (Sends allowed) (send e.database es ctx operation statement) := by
  intro store
  cases runs : e.execute store.tables statement with
  | error error =>
    rw [send_of_error runs]
    exact Sends.single names rfl
  | ok answered =>
    rw [send_of_ok runs]
    exact Sends.single names rfl

/-- What reading a record may name. -/
structure Readable (allowed : String → Prop) (es : EntitySchema) : Prop where
  id : allowed "id"
  scanned : ∀ column ∈ scannedColumns es, allowed column

theorem getRow_sends (readable : Readable allowed es) (operation : String) (forUpdate : Bool) :
    Stateful.Moves (Sends allowed) (getRow e.database es ctx operation id forUpdate) := by
  refine (send_sends operation fun column member => ?_).bind fun result => ?_
  · have named : column ∈ scannedColumns es ∨ column = "id" := by
      simpa [Names, Statement.columns, Select.ordering, Statement.condition, byID, Filter.eq,
        Filter.columns] using member
    rcases named with scanned | rfl
    · exact readable.scanned column scanned
    · exact readable.id
  · cases result.rows with
    | nil => exact Stateful.Moves.fail _
    | cons row rest => exact Stateful.Moves.pure _

theorem now_sends : Stateful.Moves (Sends allowed) e.database.now := fun _ => ⟨[], rfl, nofun⟩

theorem update_sends (readable : Readable allowed es) (clock : allowed "updated_at")
    {input : UpdateInput} (keys : ∀ key ∈ input.data, allowed key) :
    Stateful.Moves (Sends allowed) (Driver.update e.database es ctx id input) := by
  refine now_sends.bind fun now => Stateful.Moves.ite (getRow_sends readable _ _) ?_
  refine (send_sends _ fun column member => ?_).bind fun result =>
    Stateful.Moves.ite (Stateful.Moves.fail _) (getRow_sends readable _ _)
  rcases List.mem_append.mp member with written | condition
  · rcases mem_updateParts written with rfl | ⟨-, inData⟩ | scanned
    · exact clock
    · exact keys column inData
    · exact readable.scanned column scanned
  · obtain rfl : column = "id" := by
      simpa [Statement.condition, byID, Filter.eq, Filter.columns] using condition
    exact readable.id

theorem withTx_sends {α : Type} {program : Context → Stateful Store Error α}
    (alone : ctx.conn = none) (saved : ∀ txCtx, Stateful.Moves SavedAs (program txCtx))
    (sends : ∀ txCtx, Stateful.Moves (Sends allowed) (program txCtx)) :
    Stateful.Moves (Sends allowed) (withTx e.database ctx program) := by
  intro store
  obtain ⟨outcome, last, body, ends⟩ := withTx_cases (e := e) alone saved store
  have opening : Sends allowed store (store.opened ctx) := by
    refine ⟨_, rfl, fun statement member column named => ?_⟩
    obtain ⟨tenantID, -, rfl⟩ := List.mem_map.mp member
    exact absurd named (List.not_mem_nil)
  have inside := sends { ctx with conn := some 0 } (store.opened ctx)
  rw [body] at inside
  obtain ⟨sent, same, each⟩ := IsTrans.trans _ _ _ opening inside
  rw [ends]
  refine ⟨sent, ?_, each⟩
  cases outcome with
  | ok value => exact same
  | error error => exact same

end Sends

/-! ## Runs of updates -/

/-- An entity that its own registry finds, of a schema without quotes. -/
structure EntityService.Wired (s : EntityService) : Prop where
  system : s.schema.isSystem = true
  plain : Plain s.schema
  registered : s.pipeline.registry.findEntity s.schema.qualifiedName = .ok s.schema

def Kept (e : Engine) (table : String) (row : Row) : Prop :=
  ∀ column ∈ e.known table, e.keep table column (row.value column) = some (row.value column)

/-- A body with the request it comes with. -/
structure Patch where
  tenant : Option Uuid
  viewer : Option Actor
  entropy : Nat
  body : Object

def Patch.context (patch : Patch) : Context where
  tenant := patch.tenant
  viewer := patch.viewer
  entropy := patch.entropy

/-- The state of a run: the store, and the bodies that have been accepted. -/
structure Patched where
  store : Store
  accepted : List Object := []

def patchRecord (e : Engine) (s : EntityService) (id : Uuid) (state : Patched) (patch : Patch) :
    Patched :=
  match EntityService.update e.database s patch.context id patch.body patch.viewer state.store with
  | (.ok _, store) => { store := store, accepted := patch.body :: state.accepted }
  | (.error _, store) => { state with store := store }

/-- A body sets declared fields, beside the columns of the driver. -/
def Settable (s : EntityService) (_ : Patched) (patch : Patch) : Prop :=
  ∀ key ∈ patch.body, Declared s.schema key ∧ key ∉ reserved

/-- Fields that a hook may set: declared, not immutable, and no columns of the driver. -/
structure HookFields (s : EntityService) (fields : String → Prop) : Prop where
  declared : ∀ name, fields name → Declared s.schema name
  mutable : ∀ name, fields name → ∀ f ∈ s.schema.fields, f.name = name → f.immutable = false
  free : ∀ name, fields name → name ∉ reserved
  hooks : HooksSetOnly (s.pipeline.behaviour s.schema.qualifiedName) fields

/-- What is left of the record. -/
structure Framed (s : EntityService) (fields : String → Prop) (accepted : List Object)
    (original row : Row) : Prop where
  id : row.id = original.id
  tenantID : row.tenantID = original.tenantID
  createdAt : row.createdAt = original.createdAt
  immutable : ∀ f ∈ s.schema.fields, f.immutable = true →
    row.value f.name = original.value f.name
  /-- A column that no accepted body has and that no hook sets. -/
  untouched : ∀ column, column ≠ "updated_at" → ¬ fields column →
    (∀ body ∈ accepted, column ∉ body) → row.value column = original.value column

/-- A column that a statement of the run may name. -/
def Nameable (s : EntityService) (column : String) : Prop :=
  column ∈ reserved ∨ Declared s.schema column

section Runs

variable {e : Engine} {s : EntityService} {fields : String → Prop} {id : Uuid} {ctx : Context}
  {body : Object} {actor : Option Actor} {current patched : EntityRecord} {row new : Row}

/-- The stages of a wired service, which looks its own schema up. -/
theorem EntityService.Wired.frame (wired : s.Wired) (hooks : HookFields s fields)
    (runs : s.pipeline.runBeforeUpdate ctx s.schema.qualifiedName body actor current =
      .ok patched) :
    immutableErrors s.schema body = [] ∧
      ∀ name, ¬ fields name →
        patched.data.lookup name = (current.data.merge body).lookup name :=
  runBeforeUpdate_frame wired.registered hooks.hooks runs

variable {key : String}

theorem mem_of_lookup {o : Object} :
    key ∈ o ↔ ∃ value, o.lookup key = some value := by
  rw [← AList.lookup_isSome, Option.isSome_iff_exists]

/-- The record of a row has the declared fields. -/
theorem mem_scan (wired : s.Wired) (row : Row) (name : String) :
    name ∈ (scan s.schema row.shown).data ↔ Declared s.schema name := by
  rw [scan_data wired.system, mem_objectOf]
  exact mem_sortedFieldNames s.schema

theorem lookup_scan (wired : s.Wired) (row : Row) {name : String}
    (declared : Declared s.schema name) :
    (scan s.schema row.shown).data.lookup name = some (row.value name) := by
  obtain ⟨value, found⟩ := mem_of_lookup.mp ((mem_scan wired row name).mpr declared)
  have get : (scan s.schema row.shown).data.get name = row.value name := by
    rw [scan_data wired.system, get_objectOf ((mem_sortedFieldNames s.schema).mpr declared)]
    rfl
  rw [Object.get, found, Option.getD_some] at get
  rw [found, get]

theorem declared_of_patched (wired : s.Wired) (hooks : HookFields s fields)
    (settable : ∀ key ∈ body, Declared s.schema key ∧ key ∉ reserved)
    (runs : s.pipeline.runBeforeUpdate ctx s.schema.qualifiedName body actor (scan s.schema
      row.shown) = .ok patched)
    (member : key ∈ patched.data) :
    Declared s.schema key := by
  by_cases hook : fields key
  · exact hooks.declared key hook
  · obtain ⟨value, found⟩ := mem_of_lookup.mp member
    rw [(wired.frame hooks runs).2 key hook] at found
    rcases Object.mem_merge.mp (mem_of_lookup.mpr ⟨value, found⟩) with inBody | inRecord
    · exact (settable key inBody).1
    · exact (mem_scan wired row key).mp inRecord

theorem EntityService.Wired.unquoted_of_patched (wired : s.Wired) (hooks : HookFields s fields)
    (keys : ∀ key ∈ body, unquoted key = true)
    (runs : s.pipeline.runBeforeUpdate ctx s.schema.qualifiedName body actor (scan s.schema
      row.shown) = .ok patched)
    (member : key ∈ patched.data) :
    unquoted key = true := by
  have of_declared : Declared s.schema key → unquoted key = true := by
    intro declared
    refine wired.plain key (List.mem_cons_of_mem _ ?_)
    rw [scannedColumns, if_pos wired.system]
    exact List.mem_append_left _ (List.mem_append_right _
      ((mem_sortedFieldNames s.schema).mpr declared))
  by_cases hook : fields key
  · exact of_declared (hooks.declared key hook)
  · obtain ⟨value, found⟩ := mem_of_lookup.mp member
    rw [(wired.frame hooks runs).2 key hook] at found
    rcases Object.mem_merge.mp (mem_of_lookup.mpr ⟨value, found⟩) with inBody | inRecord
    · exact keys key inBody
    · exact of_declared ((mem_scan wired row key).mp inRecord)

/-- A column that neither the body nor a hook sets holds what it held. -/
theorem wrote_untouched (wired : s.Wired) (hooks : HookFields s fields)
    (kept : Kept e s.schema.tableName row)
    (settable : ∀ key ∈ body, Declared s.schema key ∧ key ∉ reserved)
    (runs : s.pipeline.runBeforeUpdate ctx s.schema.qualifiedName body actor
      (scan s.schema row.shown) = .ok patched)
    (wrote : Wrote e s.schema.tableName patched.data row new) {column : String}
    (notClock : column ≠ "updated_at") (notHook : ¬ fields column) (absent : column ∉ body) :
    new.value column = row.value column := by
  by_cases member : column ∈ patched.data
  · have declared := declared_of_patched wired hooks settable runs member
    have found : patched.data.lookup column = some (row.value column) := by
      rw [(wired.frame hooks runs).2 column notHook, Object.merge,
        AList.lookup_union_right absent, lookup_scan wired row declared]
    have written := wrote.set column _ found
    rw [kept column (wrote.known column member)] at written
    exact (Option.some.inj written).symm
  · exact wrote.kept column member notClock

theorem Framed.wrote {accepted : List Object} {original : Row} (wired : s.Wired)
    (hooks : HookFields s fields) (framed : Framed s fields accepted original row)
    (kept : Kept e s.schema.tableName row)
    (settable : ∀ key ∈ body, Declared s.schema key ∧ key ∉ reserved)
    (runs : s.pipeline.runBeforeUpdate ctx s.schema.qualifiedName body actor
      (scan s.schema row.shown) = .ok patched)
    (wrote : Wrote e s.schema.tableName patched.data row new) :
    Framed s fields (body :: accepted) original new := by
  have untouched : ∀ column, column ≠ "updated_at" → ¬ fields column → column ∉ body →
      new.value column = row.value column := fun column notClock notHook absent =>
    wrote_untouched wired hooks kept settable runs wrote notClock notHook absent
  -- no body and no hook sets a column of the driver
  have driver : ∀ column ∈ reserved, column ≠ "updated_at" →
      new.value column = row.value column := fun column member notClock =>
    untouched column notClock (fun hook => hooks.free column hook member)
      fun inBody => (settable column inBody).2 member
  have ids := driver "id" (by decide) (by decide)
  have tenants := driver "tenant_id" (by decide) (by decide)
  have times := driver "created_at" (by decide) (by decide)
  refine ⟨?_, ?_, ?_, fun f member immutable => ?_, fun column notClock notHook absent => ?_⟩
  · rw [Row.value_id, Row.value_id] at ids
    injection ids with ids
    injection ids with ids
    rw [ids, framed.id]
  · rw [Row.value_tenantID, Row.value_tenantID] at tenants
    injection tenants with tenants
    injection tenants with tenants
    rw [tenants, framed.tenantID]
  · rw [Row.value_createdAt, Row.value_createdAt] at times
    injection times with times
    injection times with times
    rw [times, framed.createdAt]
  · obtain ⟨errors, merges⟩ := wired.frame hooks runs
    have notHook : ¬ fields f.name := fun hook => by
      rw [hooks.mutable f.name hook f member rfl] at immutable
      cases immutable
    have absent : f.name ∉ body := fun inBody => by
      have refused := List.filterMap_eq_nil_iff.mp errors f member
      rw [immutable, decide_eq_true inBody] at refused
      cases refused
    have notClock : f.name ≠ "updated_at" := by
      intro same
      refine wrote.clock (same ▸ mem_of_lookup.mpr ⟨row.value f.name, ?_⟩)
      rw [merges f.name notHook, Object.merge, AList.lookup_union_right absent,
        lookup_scan wired row ⟨f, member, rfl⟩]
    rw [untouched f.name notClock notHook absent, framed.immutable f member immutable]
  · obtain ⟨own, others⟩ := List.forall_mem_cons.mp absent
    rw [untouched column notClock notHook own, framed.untouched column notClock notHook others]

/-- What holds of the record at every state of a run. -/
structure Tracked (e : Engine) (s : EntityService) (fields : String → Prop) (original : Row)
    (start : Store) (state : Patched) : Prop where
  row : ∃ row ∈ state.store.tables s.schema.tableName,
    Framed s fields state.accepted original row ∧ Kept e s.schema.tableName row
  nodup : ((state.store.tables s.schema.tableName).map Row.id).Nodup
  /-- The statements name the declared fields and the columns of the driver only. -/
  sent : Sends (Nameable s) start state.store

theorem EntityService.Wired.readable (wired : s.Wired) : Readable (Nameable s) s.schema where
  id := .inl (by decide)
  scanned column member := by
    rw [scannedColumns, if_pos wired.system, List.mem_append, List.mem_append] at member
    rcases member with (framework | field) | custom
    · exact .inl (List.mem_append_left _ framework)
    · exact .inr ((mem_sortedFieldNames s.schema).mp field)
    · exact .inl (List.mem_append_right _ custom)

/-- What follows the reading of a row names declared fields and columns of the driver. -/
theorem finishUpdate_names (wired : s.Wired) (hooks : HookFields s fields)
    (alone : ctx.conn = none)
    (settable : ∀ key ∈ body, Declared s.schema key ∧ key ∉ reserved) (row : Row) :
    Stateful.Moves (Sends (Nameable s)) (EntityService.finishUpdate e.database s ctx id body actor
      (scan s.schema row.shown)) := by
  intro store
  rw [EntityService.finishUpdate]
  cases stages : s.pipeline.runBeforeUpdate ctx s.schema.qualifiedName body actor
      (scan s.schema row.shown) with
  | error error => exact Std.Refl.refl store
  | ok patched =>
    have clock : Nameable s "updated_at" := .inl (by decide)
    refine withTx_sends alone (EntityService.updateBody_savedAs patched) (fun txCtx => ?_) store
    refine (update_sends wired.readable clock fun key member => ?_).bind fun _ =>
      (Stateful.Moves.lift _).bind fun _ => Stateful.Moves.lift _
    exact .inr (declared_of_patched wired hooks settable stages member)

theorem update_names (wired : s.Wired) (hooks : HookFields s fields) (alone : ctx.conn = none)
    (settable : ∀ key ∈ body, Declared s.schema key ∧ key ∉ reserved) :
    Stateful.Moves (Sends (Nameable s)) (EntityService.update e.database s ctx id body actor) := by
  intro store
  have reading : Sends (Nameable s) store
      (getRow e.database s.schema ctx "Get" id false store).2 :=
    getRow_sends wired.readable "Get" false store
  rcases reads : Driver.get e.database s.schema ctx id {} store with ⟨error | current, middle⟩
  · rw [EntityService.update, Stateful.bind_error reads]
    rw [show getRow e.database s.schema ctx "Get" id false store = _ from reads] at reading
    exact reading
  · rw [EntityService.update, Stateful.bind_ok reads]
    rw [show getRow e.database s.schema ctx "Get" id false store = _ from reads] at reading
    obtain ⟨-, row, -, -, rfl⟩ := getRow_ok wired.plain reads
    exact IsTrans.trans _ _ _ reading (finishUpdate_names wired hooks alone settable row middle)

/-- Every update keeps what holds of the record. -/
theorem Tracked.step {original : Row} {start : Store} {state : Patched} {patch : Patch}
    (wired : s.Wired) (hooks : HookFields s fields)
    (tracked : Tracked e s fields original start state) (settable : Settable s state patch) :
    Tracked e s fields original start (patchRecord e s original.id state patch) := by
  obtain ⟨row, member, framed, kept⟩ := tracked.row
  have sends : Sends (Nameable s) state.store
      (EntityService.update e.database s patch.context original.id patch.body patch.viewer
        state.store).2 := update_names wired hooks rfl settable state.store
  have sent := IsTrans.trans _ _ _ tracked.sent sends
  unfold patchRecord
  rcases runs : EntityService.update e.database s patch.context original.id patch.body patch.viewer
    state.store with ⟨error | record, after⟩
  all_goals
    rw [runs] at sent
    dsimp only
  · have same := EntityService.update_error rfl wired.plain runs
    refine ⟨⟨row, ?_, framed, kept⟩, ?_, sent⟩
    · rwa [same]
    · rw [same]
      exact tracked.nodup
  · obtain ⟨read, inTable, isRead, patched, stages, updates⟩ :=
      EntityService.update_ok rfl wired.plain runs
    obtain rfl : read = row := List.inj_on_of_nodup_map tracked.nodup inTable member
      (isRead.trans framed.id.symm)
    have updated := updates fun _ key inData => by
      obtain ⟨f, isField, rfl⟩ := declared_of_patched wired hooks settable stages inData
      refine wired.plain f.name (List.mem_cons_of_mem _ ?_)
      rw [scannedColumns, if_pos wired.system]
      refine List.mem_append_left _ (List.mem_append_right _ ?_)
      exact (mem_sortedFieldNames s.schema).mpr ⟨f, isField, rfl⟩
    obtain ⟨new, inAfter, ⟨different, -⟩ | ⟨-, wrote⟩⟩ :=
      Engine.exists_of_mem_left (updated.rows wired.system) inTable
    · exact absurd isRead different
    · refine ⟨⟨new, inAfter, framed.wrote wired hooks kept settable stages wrote, ?_⟩,
        updated.nodup tracked.nodup, sent⟩
      intro column known
      rcases wrote.stable column with same | stable
      · rw [same]
        exact kept column known
      · exact stable

end Runs

/-- Every run of updates of a record whose bodies and hooks set declared fields, beside the columns
of the driver and, for the hooks, immutable fields, keeps the record's identity, its immutable
fields and the fields that no accepted body and no hook sets, and sends no other column. -/
theorem updates_framed (e : Engine) (s : EntityService) (fields : String → Prop) (start : Store)
    (original : Row) (wired : s.Wired) (hooks : HookFields s fields)
    (nodup : ((start.tables s.schema.tableName).map Row.id).Nodup)
    (member : original ∈ start.tables s.schema.tableName)
    (kept : Kept e s.schema.tableName original) (state : Patched)
    (run : Run (patchRecord e s original.id) (Settable s) ⟨start, []⟩ state) :
    Tracked e s fields original start state := by
  refine run.invariant ⟨⟨original, member, ?_, kept⟩, nodup, Std.Refl.refl start⟩
    fun middle patch settable tracked => tracked.step wired hooks settable
  exact ⟨rfl, rfl, rfl, fun _ _ _ => rfl, fun _ _ _ _ => rfl⟩

section Sample

open Iam

theorem set_setsOnly (record : EntityRecord) (field : String) (value : Value) :
    SetsOnly (· = field) record (record.set field value) :=
  fun _ different => AList.lookup_insert_ne different

theorem hashPassword_setsOnly (b : Bcrypt) {ctx : Context} {record result : EntityRecord}
    (hashes : UserPasswordHasher.hashPassword b ctx record = .ok result) :
    SetsOnly (· = "password_hash") record result := by
  unfold UserPasswordHasher.hashPassword at hashes
  dsimp only at hashes
  split_ifs at hashes
  split at hashes
  · cases hashes
  · cases hashes
    exact set_setsOnly _ _ _

theorem hookFields_users (b : Bcrypt) (deployment : UserDeployment) :
    HookFields (userService b deployment) (· = "password_hash") where
  declared := by
    rintro name rfl
    exact ⟨{ name := "password_hash", type := .data }, show _ ∈ users.fields by decide, rfl⟩
  mutable := by
    rintro name rfl
    show ∀ f ∈ users.fields, f.name = "password_hash" → f.immutable = false
    decide
  free := by
    rintro name rfl
    decide
  hooks := by
    refine ⟨fun _ none => absurd none List.not_mem_nil, fun _ none => absurd none List.not_mem_nil,
      fun hook member ctx record prev result hooked => ?_⟩
    obtain rfl := List.mem_singleton.mp member
    unfold UserPasswordHasher.beforeUpdate at hooked
    split_ifs at hooked
    · cases hooked
      exact set_setsOnly _ _ _
    · exact hashPassword_setsOnly b hooked

theorem wired_users (b : Bcrypt) (deployment : UserDeployment) :
    (userService b deployment).Wired where
  system := rfl
  plain := by
    show Plain users
    unfold Driver.Plain
    decide +kernel
  registered := deployment.registered

def adaRow : Row := userRow 9 "ada@example.org" "$2a$12$secret-of-ada"

/-- A body with one member. -/
def single (name : String) (value : Value) : Object := AList.singleton name value

theorem mem_single {name key : String} {value : Value} :
    key ∈ single name value ↔ key = name := by
  rw [single, AList.mem_keys, AList.keys_singleton, List.mem_singleton]

def patch (body : Object) : Patch where
  tenant := some 1
  viewer := none
  entropy := 0
  body := body

/-- The record of a user whose name is changed. -/
theorem renamed_framed : Tracked userEngine (userService transparent usersAlone)
    (· = "password_hash") adaRow (userStore [adaRow])
    (patchRecord userEngine (userService transparent usersAlone) 9 ⟨userStore [adaRow], []⟩
      (patch (single "full_name" (.string "Ada Odera")))) := by
  have nodup : ([adaRow].map Row.id).Nodup := List.nodup_singleton _
  refine updates_framed userEngine _ _ _ adaRow (wired_users _ _) (hookFields_users _ _)
    nodup List.mem_cons_self (fun _ _ => rfl) _ (.tail _ .refl ?_)
  intro key member
  obtain rfl := mem_single.mp member
  exact ⟨⟨{ name := "full_name", type := .data, required := true },
    show _ ∈ users.fields by decide, rfl⟩, by decide⟩

def keepDated (_ column : String) (value : Value) : Option Value :=
  match value with
  | .string text =>
    if column = "created_at" then
      if text = "2001-01-01T00:00:00Z" then some (.time 978307200000000000) else none
    else some (.string text)
  | other => some other

theorem keepDated_keepDated {table column : String} {value kept : Value}
    (keeps : keepDated table column value = some kept) :
    keepDated table column kept = some kept := by
  unfold keepDated at keeps
  split at keeps
  · split_ifs at keeps with created text
    · obtain rfl := Option.some.inj keeps
      rfl
    · obtain rfl := Option.some.inj keeps
      rw [keepDated]
      exact if_neg created
  · rename_i noText
    obtain rfl := Option.some.inj keeps
    unfold keepDated
    split
    · exact absurd rfl (noText _)
    · rfl

theorem keepDated_id (table : String) (id : Uuid) :
    keepDated table "id" (.uuid id) = some (.uuid id) := rfl

def datedEngine : Engine :=
  { userEngine with
    keep := keepDated
    keep_keep := keepDated_keepDated
    keep_id := keepDated_id }

/-- A body with a creation time is accepted, and the record is created at another time. -/
theorem created_at_patched :
    let state := patchRecord datedEngine (userService transparent usersAlone) 9
      ⟨userStore [adaRow], []⟩ (patch (single "created_at" (.string "2001-01-01T00:00:00Z")))
    adaRow.createdAt = 5 ∧ state.accepted.length = 1 ∧
      (state.store.tables "iam_user").map (fun row => (row.id, row.createdAt)) =
        [(9, 978307200000000000)] := by
  decide +kernel

end Sample

end ErpFinance.Api
