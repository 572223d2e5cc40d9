import ErpFinance.Audit.Steps
import ErpFinance.Tenant.Lifecycle

/-!
# The audit trail

The record that is read back from the database names no actor, so that the
writer refuses what a creation or an update hands over.  The trail has one
record of each committed mutation as long as those are deletions whose hooks
name the actor, of entities whose tables have their qualified names.
-/

namespace ErpFinance.Audit

open Api Compiler Domain Driver Library ErpFinance.Runtime

/-- What the entities of a process share. -/
structure Deployment where
  registry : RuntimeRegistry
  behaviour : String → Behaviour
  writer : TransactionalWriter

def Deployment.service (deployment : Deployment) (es : EntitySchema) : EntityService where
  schema := es
  pipeline := { registry := deployment.registry, behaviour := deployment.behaviour }

structure Call where
  entity : EntitySchema
  tenant : Option Uuid := none
  viewer : Option Actor := none
  entropy : Nat := 0
  request : RequestContext := {}
  actor : Option Actor
  change : Change

def Call.ctx (call : Call) : Context where
  tenant := call.tenant
  viewer := call.viewer
  entropy := call.entropy

/-- A mutation that has been committed. -/
structure Event where
  actor : Option Actor
  entityName : String
  recordID : Uuid
  operation : OperationType
  before : Option Object
  after : Option Object

/-- The field values of a record. -/
def snapshot (es : EntitySchema) (tables : Tables) (id : Uuid) : Option Object :=
  ((tables es.tableName).find? fun row => row.id = id).map fun row => (scan es row.shown).data

def Change.recordID (drawn : Uuid) : Change → Uuid
  | .create _ => drawn
  | .update id _ => id
  | .delete id => id

def Change.operation : Change → OperationType
  | .create _ => .create
  | .update _ _ => .update
  | .delete _ => .delete

/-- The event of a call that has been committed. -/
def eventOf (call : Call) (drawn : Uuid) (before after : Tables) : Event where
  actor := call.actor
  entityName := call.entity.qualifiedName
  recordID := call.change.recordID drawn
  operation := call.change.operation
  before :=
    match call.change with
    | .create _ => none
    | _ => snapshot call.entity before (call.change.recordID drawn)
  after :=
    match call.change with
    | .delete _ => none
    | _ => snapshot call.entity after (call.change.recordID drawn)

/-- The database, and the committed mutations, the last one first. -/
structure Trail where
  state : TxState Driver.Store
  events : List Event := []

section Calls

variable (e : Engine) (deployment : Deployment)

def performed (call : Call) (state : TxState Driver.Store) :
    Except Error EntityRecord × TxState Driver.Store :=
  perform e.database.strict (deployment.service call.entity) call.ctx
    (runAuditRecord deployment.writer deployment.registry e.database.strict call.request)
    call.actor call.change state

def Trail.call (trail : Trail) (call : Call) : Trail :=
  match performed e deployment call trail.state with
  | (.ok record, after) =>
    { state := after
      events :=
        eventOf call record.id trail.state.inner.tables after.inner.tables :: trail.events }
  | (.error _, after) => { trail with state := after }

/-- A row of the log that has been made of a record of the event. -/
def Names (event : Event) (row : Row) : Prop :=
  ∃ record : AuditRecord,
    e.writeAll auditTable (insertArgs record) (e.blank auditTable) = some row ∧
      record.actor = event.actor ∧ record.entityName = event.entityName ∧
      record.recordID = event.recordID ∧ record.operation = some event.operation ∧
      record.beforeData = deployment.writer.sanitizer.strip event.entityName event.before ∧
      record.afterData = deployment.writer.sanitizer.strip event.entityName event.after

/-- Beyond the rows of the beginning the log has one of each committed mutation, in order. -/
def Trail.Documented (start : Tables) (trail : Trail) : Prop :=
  ∃ rows, trail.state.inner.tables auditTable = start auditTable ++ rows ∧
    List.Forall₂ (Names e deployment) trail.events.reverse rows

/-- What hooks hand to the audit of a deletion. -/
def deleted (current : EntityRecord) : Handed := ⟨current, some current.data, none⟩

/-- The audit of a deletion is refused and propagates, or is sent and names the mutation. -/
def Deployment.Faithful (call : Call) (row : Row) (current : EntityRecord) : Prop :=
  watched deployment.writer deployment.registry current.entityName = true ∧
    if deployment.writer.sends
        (auditRecordOf deployment.writer call.request (deleted current)) then
      current.actor = call.actor ∧ current.entityName = call.entity.qualifiedName ∧
        current.id = row.id ∧ current.data = (scan call.entity row.shown).data
    else propagates (deployment.writer.category current.entityName) = true

/-- Failures of the audit of a creation or an update propagate, and the hooks of a deletion leave
what the audit has to name. -/
structure Admissible (trail : Trail) (call : Call) : Prop where
  plain : Plain call.entity
  foreign : call.entity.tableName ≠ auditTable
  condition :
    match call.change with
    | .delete id => ∀ row ∈ trail.state.inner.tables call.entity.tableName, row.id = id →
        ∀ current, (deployment.service call.entity).pipeline.runBeforeDelete call.ctx
          (scan call.entity row.shown) = .ok current → deployment.Faithful call row current
    | _ => watched deployment.writer deployment.registry call.entity.tableName = true ∧
        propagates (deployment.writer.category call.entity.tableName) = true

end Calls

section Deletions

variable {e : Engine} {s : EntityService} {ctx : Context} {actor : Option Actor} {id : Uuid}
  {state ready after : TxState Driver.Store}

/-- What a deletion has passed before its transaction. -/
theorem prepare_delete {m : Mutation (TxState Driver.Store)} (alone : ctx.conn = none)
    (plain : Plain s.schema)
    (prepares : prepare e.database.strict s ctx actor (.delete id) state = (.ok m, ready)) :
    ready.inner.tables = state.inner.tables ∧
      ∃ row ∈ state.inner.tables s.schema.tableName, row.id = id ∧
        ∃ current, s.pipeline.runBeforeDelete ctx (scan s.schema row.shown) = .ok current ∧
          m = deletion e.database.strict s id current := by
  obtain ⟨read, middle, reads, rest⟩ := Stateful.bind_eq_ok_iff.mp prepares
  obtain ⟨same, row, member, isRow, rfl⟩ := get_alone alone plain reads
  obtain ⟨current, last, stages, built⟩ := Stateful.bind_eq_ok_iff.mp rest
  obtain ⟨hooked, rfl⟩ := Stateful.lift_eq_iff.mp stages
  cases built
  exact ⟨same, row, member, isRow, current, hooked, rfl⟩

/-- A deletion inside a transaction takes the rows of the identifier from the table. -/
theorem deletion_writes {txn : Nat} {current : EntityRecord} {handed : Handed}
    (joined : ctx.conn = some txn) (plain : Plain s.schema)
    (writes : (deletion e.database.strict s id current).write ctx state = (.ok handed, after)) :
    handed = deleted current ∧
      after.inner.tables = Function.update state.inner.tables s.schema.tableName
        ((state.inner.tables s.schema.tableName).filter fun row => !decide (row.id = id)) ∧
      e.Settled s.schema.tableName after.inner.tables := by
  obtain ⟨_, middle, deletes, rest⟩ := Stateful.bind_eq_ok_iff.mp writes
  cases rest
  obtain ⟨result, last, sends, ends⟩ := Stateful.bind_eq_ok_iff.mp deletes
  split_ifs at ends with absent
  · cases ends
  · cases ends
    have sent : e.database.strict.send ctx (deleteOf s.schema id) state = (.ok result, after) := by
      rw [send, Stateful.mapError] at sends
      obtain ⟨succeeds, same⟩ := Prod.mk.inj sends
      exact Prod.ext (mapError_eq_ok_iff.mp succeeds) same
    obtain ⟨-, tables, executes, rfl⟩ := execute_of_strict joined sent
    obtain ⟨-, same, settled⟩ := deleted_of_execute plain executes
    exact ⟨rfl, same, settled⟩

/-- The columns of the log that are written. -/
theorem columns_insertArgs (record : AuditRecord) : (insertArgs record).map Prod.fst =
    ["id", "tenant_id", "request_id", "entity_name", "record_id", "operation", "actor_id",
      "service_account_id", "system_actor", "ip_address", "session_id", "before_data",
      "after_data", "changed_fields", "event_category", "severity", "risk_score",
      "compliance_flags", "context", "created_at"] := rfl

/-- The insertion of a record adds the row that is made of it. -/
theorem inserted_of_execute {tables next : Tables} {record : AuditRecord} {result : Result}
    (executes : e.execute tables (.insert auditTable (insertArgs record)) = .ok (result, next)) :
    ∃ row, e.writeAll auditTable (insertArgs record) (e.blank auditTable) = some row ∧
      next = Function.update tables auditTable (tables auditTable ++ [row]) ∧
      e.Settled auditTable next := by
  have quoted : (Statement.insert auditTable (insertArgs record)).wellQuoted = true := by
    rw [Statement.wellQuoted, Statement.columns, columns_insertArgs]
    show (auditTable :: _).all unquoted = true
    decide +kernel
  obtain ⟨-, -, answers⟩ := Engine.execute_eq_ok quoted executes
  rw [Engine.answer] at answers
  split at answers
  · rename_i row written
    obtain ⟨same, -, settled⟩ := Engine.settle_eq_ok answers
    exact ⟨row, written, same, settled⟩
  · cases answers

theorem snapshot_eq {es : EntitySchema} {tables : Tables} {row : Row}
    (nodup : ((tables es.tableName).map Row.id).Nodup) (member : row ∈ tables es.tableName) :
    snapshot es tables row.id = some (scan es row.shown).data := by
  have found : (tables es.tableName).find? (fun other => other.id = row.id) = some row := by
    rw [← List.head?_filter, Engine.filter_id nodup member]
    rfl
  rw [snapshot, found]
  rfl

end Deletions

section Runs

variable {e : Engine} {deployment : Deployment} {call : Call} {state : TxState Driver.Store}
  {trail : Trail} {start : Tables}

theorem audit_along (request : RequestContext) (txCtx : Context) (handed : Handed) :
    Stateful.Moves StrictlySaved
      (runAuditRecord deployment.writer deployment.registry e.database.strict request txCtx
        handed) :=
  runAuditRecord_along strictlySaved

theorem performed_cases (plain : Plain call.entity) (state : TxState Driver.Store) :
    (∃ error after, performed e deployment call state = (.error error, after) ∧
      after.inner.tables = state.inner.tables) ∨
    ∃ value ready written audited m handed,
      performed e deployment call state =
        (.ok value, { inner := { audited.inner with saved := none } }) ∧
      Goes e (deployment.service call.entity) call.ctx call.actor call.change
        (runAuditRecord deployment.writer deployment.registry e.database.strict call.request)
        state ready written audited m handed value :=
  perform_cases rfl plain (audit_along call.request) state

/-- The audit of a record of nobody fails, and where failures propagate the mutation with it. -/
theorem performed_refused (flag : deployment.writer.flagEnabled = true) (plain : Plain call.entity)
    (notDelete : ∀ id, call.change ≠ .delete id)
    (watches : watched deployment.writer deployment.registry call.entity.tableName = true)
    (severe : propagates (deployment.writer.category call.entity.tableName) = true) :
    ∃ error after, performed e deployment call state = (.error error, after) ∧
      after.inner.tables = state.inner.tables := by
  rcases performed_cases plain state with fails | ⟨value, ready, written, audited, m, handed, -,
    goes⟩
  · exact fails
  · obtain ⟨-, -, hands⟩ := prepare_ok rfl plain goes.prepares
    obtain ⟨nobody, named⟩ := (hands _ _ _ _ goes.writes).nobody notDelete
    replace named : handed.record.entityName = call.entity.tableName := named
    rw [← named] at watches severe
    have audits := goes.audits
    obtain ⟨error, drawn, refused⟩ := runAuditRecord_unsent flag watches
      (sends_of_nobody nobody rfl) written
    rw [refused, judged, if_pos severe] at audits
    cases audits

/-- A deletion fails and leaves the tables, or adds the row that names it to the log. -/
theorem performed_deleted {id : Uuid} (flag : deployment.writer.flagEnabled = true)
    (nodup : ((state.inner.tables call.entity.tableName).map Row.id).Nodup)
    (plain : Plain call.entity) (foreign : call.entity.tableName ≠ auditTable)
    (deletes : call.change = .delete id)
    (faithful : ∀ row ∈ state.inner.tables call.entity.tableName, row.id = id →
      ∀ current, (deployment.service call.entity).pipeline.runBeforeDelete call.ctx
        (scan call.entity row.shown) = .ok current → deployment.Faithful call row current) :
    (∃ error after, performed e deployment call state = (.error error, after) ∧
      after.inner.tables = state.inner.tables) ∨
    ∃ value after row, performed e deployment call state = (.ok value, after) ∧
      after.inner.tables auditTable = state.inner.tables auditTable ++ [row] ∧
      (∀ table, ((state.inner.tables table).map Row.id).Nodup →
        ((after.inner.tables table).map Row.id).Nodup) ∧
      Names e deployment (eventOf call value.id state.inner.tables after.inner.tables) row := by
  rcases performed_cases plain state with fails | ⟨value, ready, written, audited, m, handed,
    performs, goes⟩
  · exact .inl fails
  have prepares := goes.prepares
  rw [deletes] at prepares
  obtain ⟨same, row, member, isRow, current, hooked, rfl⟩ := prepare_delete rfl plain prepares
  replace member : row ∈ state.inner.tables call.entity.tableName := member
  obtain ⟨rfl, tables, settled⟩ := deletion_writes rfl plain goes.writes
  obtain ⟨watches, named⟩ := faithful row member isRow current hooked
  have audits := goes.audits
  cases sent : deployment.writer.sends
    (auditRecordOf deployment.writer call.request (deleted current)) with
  | false =>
    rw [sent, if_neg Bool.false_ne_true] at named
    obtain ⟨error, drawn, refused⟩ := runAuditRecord_unsent flag watches sent written
    replace named : propagates (deployment.writer.category (deleted current).record.entityName) =
      true := named
    rw [refused, judged, if_pos named] at audits
    cases audits
  | true =>
    rw [sent, if_pos rfl] at named
    obtain ⟨isActor, isEntity, isRecord, isData⟩ := named
    have joined : ({ call.ctx with conn := some 0 } : Context).conn = some 0 := rfl
    rcases runAuditRecord_sent joined flag watches sent written with
      ⟨error, after, -, runs, aborted⟩ |
        ⟨new, createdAt, result, after, runs, -, active, executes⟩
    · rw [runs] at audits
      have active := goes.active
      rw [← (Prod.mk.inj audits).2, aborted] at active
      cases active
    · rw [runs] at audits
      obtain rfl : after = audited := (Prod.mk.inj audits).2
      obtain ⟨inserted, made, log, settledLog⟩ := inserted_of_execute executes
      replace tables : written.inner.tables = Function.update state.inner.tables
          call.entity.tableName ((state.inner.tables call.entity.tableName).filter fun row =>
            !decide (row.id = id)) := by
        rw [← same]
        exact tables
      have unlogged : written.inner.tables auditTable = state.inner.tables auditTable := by
        rw [tables, Function.update_of_ne foreign.symm]
      refine .inr ⟨value, _, inserted, performs, ?_, fun table distinct => ?_, ?_⟩
      · show after.inner.tables auditTable = _
        rw [log, Function.update_self, unlogged]
      · show ((after.inner.tables table).map Row.id).Nodup
        by_cases isLog : table = auditTable
        · rw [isLog]
          exact settledLog.nodup
        · rw [log, Function.update_of_ne isLog]
          by_cases isEntity : table = call.entity.tableName
          · rw [isEntity]
            exact settled.nodup
          · rw [tables, Function.update_of_ne isEntity]
            exact distinct
      · have before := snapshot_eq nodup member
        rw [isRow] at before
        refine ⟨_, made, isActor, isEntity, ?_, ?_, ?_, ?_⟩
        · rw [eventOf, deletes]
          exact isRecord.trans isRow
        · rw [eventOf, deletes]
          rfl
        · rw [eventOf, deletes]
          show _ = deployment.writer.sanitizer.strip call.entity.qualifiedName
            (snapshot call.entity state.inner.tables id)
          rw [before, ← isData, ← isEntity]
          rfl
        · rw [eventOf, deletes]
          rfl

/-- The log is complete, and identifiers are unique. -/
structure Trail.Sound (e : Engine) (deployment : Deployment) (start : Tables) (trail : Trail) :
    Prop where
  nodup : ∀ table, ((trail.state.inner.tables table).map Row.id).Nodup
  documented : trail.Documented e deployment start

theorem Trail.Sound.of_error (sound : trail.Sound e deployment start)
    (fails : ∃ error after, performed e deployment call trail.state = (.error error, after) ∧
      after.inner.tables = trail.state.inner.tables) :
    (trail.call e deployment call).Sound e deployment start := by
  obtain ⟨error, after, fails, same⟩ := fails
  obtain ⟨nodup, rows, log, each⟩ := sound
  rw [Trail.call, fails]
  refine ⟨?_, rows, ?_, each⟩
  · dsimp only
    rw [same]
    exact nodup
  · dsimp only
    rw [same]
    exact log

theorem Trail.Sound.step (flag : deployment.writer.flagEnabled = true)
    (sound : trail.Sound e deployment start) (admissible : Admissible deployment trail call) :
    (trail.call e deployment call).Sound e deployment start := by
  obtain ⟨plain, foreign, condition⟩ := admissible
  have refused (notDelete : ∀ id, call.change ≠ .delete id)
      (severe : watched deployment.writer deployment.registry call.entity.tableName = true ∧
        propagates (deployment.writer.category call.entity.tableName) = true) :
      (trail.call e deployment call).Sound e deployment start :=
    sound.of_error (performed_refused flag plain notDelete severe.1 severe.2)
  cases change : call.change with
  | create data =>
    rw [change] at condition
    exact refused (fun id deletes => by rw [change] at deletes; cases deletes) condition
  | update id data =>
    rw [change] at condition
    exact refused (fun id deletes => by rw [change] at deletes; cases deletes) condition
  | delete id =>
    rw [change] at condition
    rcases performed_deleted flag (sound.nodup _) plain foreign change condition with
      fails | ⟨value, after, row, performs, added, keeps, names⟩
    · exact sound.of_error fails
    · obtain ⟨nodup, rows, log, each⟩ := sound
      rw [Trail.call, performs]
      refine ⟨fun table => keeps table (nodup table), rows ++ [row], ?_, ?_⟩
      · dsimp only
        rw [added, log, List.append_assoc]
      · dsimp only
        rw [List.reverse_cons]
        exact List.rel_append each (.cons names .nil)

end Runs

/-- In every run in which failures of the audit of creations and updates propagate and the hooks of
deletions leave what the audit has to name, the log has one row of each committed mutation and no
other new row. -/
theorem trail_documented (e : Engine) (deployment : Deployment) (start : TxState Driver.Store)
    (flag : deployment.writer.flagEnabled = true)
    (nodup : ∀ table, ((start.inner.tables table).map Row.id).Nodup) (trail : Trail)
    (run : Run (Trail.call e deployment) (Admissible deployment) { state := start } trail) :
    trail.Documented e deployment start.inner.tables := by
  have sound : trail.Sound e deployment start.inner.tables := by
    refine run.invariant ⟨nodup, [], (List.append_nil _).symm, .nil⟩ ?_
    exact fun middle call admissible sound => sound.step flag admissible
  exact sound.documented

section Sample

open Tenant

/-- A writer for which nothing is registered. -/
def plainWriter : TransactionalWriter where
  sanitizer :=
    { declared := fun _ => []
      registry := fun _ => none
      overrides := fun _ => []
      numeral := fun _ => "" }
  sensitiveEntities := []
  flagEnabled := true
  takes
    -- The nanoseconds up to the end of the year 9999.
    | .time nanos => nanos < 315537897600 * 10 ^ 9
    | _ => true

/-- The tenants, with a hook that names the viewer before a deletion. -/
def tenantsAudited : Deployment where
  registry := newRuntimeRegistry tenantsCompiled
  behaviour _ :=
    { tenantBehaviour with
      beforeDelete := [fun ctx record => .ok { record with actor := ctx.viewer }] }
  writer := plainWriter

def auditEngine : Engine :=
  untyped (fun table =>
    if table = auditTable then
      (insertArgs { entityName := "" }).map Prod.fst
    else scannedColumns tenants) fun _ => true

def ada : Actor where
  userID := 7
  serviceAccountID := Uuid.Nil
  tenantID := 1
  roles := []

def acmeRow : Row where
  id := 1
  tenantID := 1
  createdAt := 5
  updatedAt := 5
  columns column := if column = "slug" then .string "acme-corp" else .null

def acmeStore : TxState Driver.Store where
  inner := { tables := fun table => if table = tenants.tableName then [acmeRow] else [] }

def closing : Call where
  entity := tenants
  tenant := some 1
  viewer := some ada
  actor := some ada
  change := .delete 1

def founding : Call where
  entity := tenants
  tenant := some 1
  viewer := some ada
  actor := some ada
  change := .create (acme "acme-corp").body

theorem watched_tenants :
    watched tenantsAudited.writer tenantsAudited.registry tenants.tableName = true := by
  have found : tenantsAudited.registry.findEntity tenants.tableName = .ok tenants :=
    findEntity_tenants
  rw [watched, found]
  rfl

theorem closing_admissible :
    Admissible tenantsAudited { state := acmeStore } closing where
  plain := by
    show Plain tenants
    unfold Driver.Plain
    decide +kernel
  foreign := by
    show tenants.tableName ≠ auditTable
    decide +kernel
  condition := by
    intro row member isRow current hooked
    obtain rfl := List.mem_singleton.mp (show row ∈ [acmeRow] from member)
    have found : tenantsAudited.registry.findEntity tenants.tableName = .ok tenants :=
      findEntity_tenants
    have runs : (tenantsAudited.service tenants).pipeline.runBeforeDelete closing.ctx
        (scan tenants acmeRow.shown) =
          .ok { scan tenants acmeRow.shown with actor := some ada } := by
      rw [Pipeline.runBeforeDelete, Pipeline.lookupSchema, scan_entityName]
      change (do
        let es ← (tenantsAudited.registry.findEntity tenants.tableName).mapError Error.other
        runHooks _ _ (tenantsAudited.behaviour es.qualifiedName).beforeDelete _) = _
      rw [found]
      rfl
    obtain rfl := Except.ok.inj (runs.symm.trans hooked)
    refine ⟨?_, ?_⟩
    · show watched _ _ (scan tenants acmeRow.shown).entityName = true
      rw [scan_entityName]
      exact watched_tenants
    · rw [if_pos (by rfl)]
      exact ⟨rfl, scan_entityName _ _, scan_id _ _, rfl⟩

theorem closing_documented :
    (Trail.call auditEngine tenantsAudited { state := acmeStore } closing).Documented auditEngine
      tenantsAudited acmeStore.inner.tables := by
  refine trail_documented auditEngine tenantsAudited acmeStore rfl (fun table => ?_) _
    (.tail _ .refl closing_admissible)
  show ((if table = tenants.tableName then [acmeRow] else []).map Row.id).Nodup
  split_ifs
  · exact List.nodup_singleton _
  · exact List.nodup_nil

/-- A tenant is created, and the log stays empty. -/
theorem founding_unnamed :
    let trail := Trail.call auditEngine tenantsAudited { state := { inner := noTenants } } founding
    tenants.allowAudit = true ∧ (configFor plainWriter.sanitizer.registry
        tenants.qualifiedName).enabled = true ∧
      trail.events.map (fun event => (event.actor, event.entityName, event.operation)) =
        [(some ada, "platform_tenant", .create)] ∧
      (trail.state.inner.tables tenants.tableName).length = 1 ∧
      (trail.state.inner.tables auditTable).length = 0 := by
  decide +kernel

end Sample

end ErpFinance.Audit
