import ErpFinance.Audit.Service
import ErpFinance.Tenant.Lifecycle

/-!
# Workflows

The workflows that an entity starts after a commit.  Only a creation starts
any, and the default identifier of a workflow names the record and the event
but not the trigger.  Every trigger is served as long as no committed update
or deletion has one and the triggers of a creation differ in their
identifiers.
-/

namespace ErpFinance.Api.Workflows

open Compiler Domain Driver Library ErpFinance.Runtime

inductive EventType where
  | onCreate
  | onUpdate
  | onDelete
  | onSubmit
  | onCancel
  | onApprove
deriving DecidableEq

def EventType.text : EventType → String
  | onCreate => "on_create"
  | onUpdate => "on_update"
  | onDelete => "on_delete"
  | onSubmit => "on_submit"
  | onCancel => "on_cancel"
  | onApprove => "on_approve"

structure TriggerContext where
  tenantID : Uuid
  actor : Option Actor

/-- Input builders are free of I/O; the attributes for searches are not read. -/
structure WorkflowTrigger where
  on : EventType
  workflowFn : String
  taskQueue : String
  inputBuilder : EntityRecord → TriggerContext → Except Error Value
  workflowIDFunc : Option (Uuid → EntityRecord → String) := none

/-- A workflow that the engine has accepted. -/
structure Execution where
  id : String
  taskQueue : String
  workflowFn : String
  input : Value

/-- The engine refuses an identifier that is in use. -/
def executeWorkflow (execution : Execution) (executions : List Execution) : List Execution :=
  if execution.id ∈ executions.map Execution.id then executions else executions ++ [execution]

def workflowIDFor (t : WorkflowTrigger) (record : EntityRecord) : String :=
  match t.workflowIDFunc with
  | some idFunc => idFunc record.tenantID record
  | none =>
    record.tenantID.string ++ "." ++ record.entityName ++ "." ++ record.id.string ++ "." ++
      t.on.text

/-- The service of an entity with its triggers, and whether a client is configured. -/
structure WorkflowService where
  service : EntityService
  workflowTriggers : List WorkflowTrigger
  temporal : Bool

/-- What is started for a trigger; failures are logged. -/
def startWorkflow (temporal : Bool) (record : EntityRecord) (actor : Option Actor)
    (executions : List Execution) (t : WorkflowTrigger) : List Execution :=
  if temporal then
    match t.inputBuilder record { tenantID := record.tenantID, actor := actor } with
    | .error _ => executions
    | .ok input =>
      executeWorkflow
        { id := workflowIDFor t record
          taskQueue := t.taskQueue
          workflowFn := t.workflowFn
          input := input }
        executions
  else executions

def startWorkflows (s : WorkflowService) (event : EventType) (record : EntityRecord)
    (actor : Option Actor) (executions : List Execution) : List Execution :=
  s.workflowTriggers.foldl
    (fun executions t =>
      if t.on = event then startWorkflow s.temporal record actor executions t else executions)
    executions

/-! ## Runs -/

def eventOf : Audit.Change → EventType
  | .create _ => .onCreate
  | .update _ _ => .onUpdate
  | .delete _ => .onDelete

/-- What a mutation starts after its commit. -/
def started (s : WorkflowService) (change : Audit.Change) (record : EntityRecord)
    (actor : Option Actor) (executions : List Execution) : List Execution :=
  match change with
  | .create _ => startWorkflows s .onCreate record actor executions
  | .update _ _ => executions
  | .delete _ => executions

structure Call where
  entity : WorkflowService
  tenant : Option Uuid := none
  viewer : Option Actor := none
  entropy : Nat := 0
  actor : Option Actor := none
  change : Audit.Change

def Call.ctx (call : Call) : Context where
  tenant := call.tenant
  viewer := call.viewer
  entropy := call.entropy

/-- A mutation that has been committed. -/
structure Commit where
  entity : WorkflowService
  event : EventType
  record : EntityRecord
  actor : Option Actor

/-- The database, the engine, and the committed mutations. -/
structure Desk where
  store : Driver.Store
  executions : List Execution := []
  commits : List Commit := []

def WorkflowService.triggersOn (s : WorkflowService) (event : EventType) : List WorkflowTrigger :=
  s.workflowTriggers.filter fun t => t.on = event

/-- A committed mutation and a trigger that its event matches. -/
structure Due where
  trigger : WorkflowTrigger
  commit : Commit

def Due.id (due : Due) : String := workflowIDFor due.trigger due.commit.record

def Commit.dues (commit : Commit) : List Due :=
  (commit.entity.triggersOn commit.event).map fun t => ⟨t, commit⟩

def Desk.dues (desk : Desk) : List Due := desk.commits.flatMap Commit.dues

def Meets (due : Due) (execution : Execution) : Prop :=
  execution.id = due.id ∧ execution.taskQueue = due.trigger.taskQueue ∧
    execution.workflowFn = due.trigger.workflowFn ∧
    due.trigger.inputBuilder due.commit.record
      { tenantID := due.commit.record.tenantID, actor := due.commit.actor } = .ok execution.input

/-- Every trigger of every committed mutation has been started, once, and default identifiers
differ. -/
structure Desk.Served (desk : Desk) : Prop where
  once : List.Forall₂ Meets desk.dues desk.executions
  apart : ((desk.dues.filter fun due => due.trigger.workflowIDFunc.isNone).map Due.id).Nodup

section Calls

variable (e : Engine)

/-- `Create`, `Update` and `Delete` up to the commit. -/
def Call.commit (call : Call) : Stateful Driver.Store Error EntityRecord :=
  Audit.perform e.database call.entity.service call.ctx (Audit.pureAudit call.entity.service)
    call.actor call.change

def Desk.call (desk : Desk) (call : Call) : Desk :=
  match call.commit e desk.store with
  | (.ok record, store) =>
    { store := store
      executions := started call.entity call.change record call.actor desk.executions
      commits := desk.commits ++ [⟨call.entity, eventOf call.change, record, call.actor⟩] }
  | (.error _, store) => { desk with store := store }

def Desk.next (desk : Desk) : Uuid := e.uuids desk.store.drawn

/-- What a creation may return of a row with an identifier. -/
def Call.Returns (call : Call) (id : Uuid) (record : EntityRecord) : Prop :=
  ∃ row : Row, row.id = id ∧ ∃ txn,
    call.entity.service.pipeline.runAfterCreate { call.ctx with conn := some txn }
      (scan call.entity.service.schema row) = .ok record

/-- The engine can take every workflow that the creation of a record asks for. -/
structure Startable (desk : Desk) (call : Call) (record : EntityRecord) : Prop where
  keepsID : record.id = desk.next e
  builds : ∀ t ∈ call.entity.triggersOn .onCreate, ∃ input,
    t.inputBuilder record { tenantID := record.tenantID, actor := call.actor } = .ok input
  apart : ((call.entity.triggersOn .onCreate).map fun t => workflowIDFor t record).Nodup
  /-- An identifier that a function gives, now or earlier, is no other one. -/
  unused : ∀ t ∈ call.entity.triggersOn .onCreate, ∀ due ∈ desk.dues,
    t.workflowIDFunc.isSome ∨ due.trigger.workflowIDFunc.isSome → workflowIDFor t record ≠ due.id

/-- Updates and deletions have no triggers; where a creation has one, the client is configured, the
names have no quotes, the identifier that is drawn is new and every record that may be returned is
startable. -/
def Orderly (desk : Desk) (call : Call) : Prop :=
  match call.change with
  | .create _ => call.entity.triggersOn .onCreate ≠ [] →
      call.entity.temporal = true ∧ Plain call.entity.service.schema ∧
        (∀ k < desk.store.drawn, (e.uuids k).string ≠ (desk.next e).string) ∧
        ∀ record, call.Returns (desk.next e) record → Startable e desk call record
  | .update _ _ => call.entity.triggersOn .onUpdate = []
  | .delete _ => call.entity.triggersOn .onDelete = []

end Calls

section Executions

variable {s : WorkflowService} {record : EntityRecord} {actor : Option Actor}
  {executions : List Execution}

theorem startWorkflows_eq (event : EventType) :
    startWorkflows s event record actor executions =
      (s.triggersOn event).foldl (startWorkflow s.temporal record actor) executions := by
  rw [startWorkflows, WorkflowService.triggersOn, List.foldl_filter]
  simp only [decide_eq_true_eq]

/-- Triggers whose identifiers differ and are not in use are started, one after the other. -/
theorem foldl_startWorkflow (commit : Commit) {triggers : List WorkflowTrigger}
    (builds : ∀ t ∈ triggers, ∃ input, t.inputBuilder commit.record
      { tenantID := commit.record.tenantID, actor := commit.actor } = .ok input)
    (apart : (triggers.map fun t => workflowIDFor t commit.record).Nodup)
    (unused : ∀ t ∈ triggers, workflowIDFor t commit.record ∉ executions.map Execution.id) :
    ∃ new, triggers.foldl (startWorkflow true commit.record commit.actor) executions =
        executions ++ new ∧
      List.Forall₂ Meets (triggers.map fun t => Due.mk t commit) new := by
  induction triggers generalizing executions with
  | nil => exact ⟨[], (List.append_nil _).symm, .nil⟩
  | cons t rest ih =>
    rw [List.map_cons, List.nodup_cons] at apart
    obtain ⟨other, apart⟩ := apart
    obtain ⟨input, built⟩ := builds t List.mem_cons_self
    have starts : startWorkflow true commit.record commit.actor executions t =
        executions ++ [⟨workflowIDFor t commit.record, t.taskQueue, t.workflowFn, input⟩] := by
      rw [startWorkflow, if_pos rfl, built]
      dsimp only
      rw [executeWorkflow, if_neg (unused t List.mem_cons_self)]
    have free : ∀ t' ∈ rest, workflowIDFor t' commit.record ∉
        (executions ++ [Execution.mk (workflowIDFor t commit.record) t.taskQueue t.workflowFn
          input]).map Execution.id := by
      intro t' member used
      rw [List.map_append, List.mem_append] at used
      rcases used with earlier | new
      · exact unused t' (List.mem_cons_of_mem _ member) earlier
      · have same : workflowIDFor t' commit.record = workflowIDFor t commit.record :=
          List.mem_singleton.mp new
        exact other (List.mem_map.mpr ⟨t', member, same⟩)
    obtain ⟨new, runs, each⟩ :=
      ih (fun t' member => builds t' (List.mem_cons_of_mem _ member)) apart free
    refine ⟨⟨workflowIDFor t commit.record, t.taskQueue, t.workflowFn, input⟩ :: new, ?_, ?_⟩
    · rw [List.foldl_cons, starts, runs, List.append_assoc, List.singleton_append]
    · exact .cons ⟨rfl, rfl, rfl, built⟩ each

/-- The identifiers in use are those that the triggers have asked for. -/
theorem ids_of_meets {dues : List Due} (each : List.Forall₂ Meets dues executions) :
    executions.map Execution.id = dues.map Due.id := by
  induction each with
  | nil => rfl
  | cons meets rest ih => rw [List.map_cons, List.map_cons, ih, meets.1]

/-- The default identifier has the text of the record's identifier. -/
theorem string_of_workflowIDFor {t other : WorkflowTrigger} {record another : EntityRecord}
    (default : t.workflowIDFunc = none) (byDefault : other.workflowIDFunc = none)
    (on : t.on = other.on) (same : workflowIDFor t record = workflowIDFor other another) :
    record.id.string = another.id.string := by
  rw [workflowIDFor, workflowIDFor, default, byDefault, on] at same
  have cut := congrArg String.toList (String.append_left_inj _ |>.mp
    (String.append_left_inj _ |>.mp same))
  rw [String.toList_append, String.toList_append (s := _ ++ ".")] at cut
  have ends := (List.append_inj' cut
    ((Uuid.length_string record.id).trans (Uuid.length_string another.id).symm)).2
  exact String.toList_inj.mp ends

end Executions

/-! ## What a call draws -/

/-- A transaction that is open stays so, and what has been drawn stays drawn. -/
def Onward (before after : Driver.Store) : Prop :=
  after.saved = before.saved ∧ before.drawn ≤ after.drawn

instance : Std.Refl Onward := ⟨fun _ => ⟨rfl, le_rfl⟩⟩

instance : IsTrans Driver.Store Onward :=
  ⟨fun _ _ _ first second => ⟨second.1.trans first.1, first.2.trans second.2⟩⟩

section Draws

variable {e : Engine} {es : EntitySchema} {s : EntityService} {ctx : Context}
  {actor : Option Actor} {change : Audit.Change} {store after : Driver.Store}

theorem onward : e.database.Along Onward where
  send ctx statement store := by
    rw [Engine.database]
    dsimp only
    split
    · exact ⟨rfl, le_rfl⟩
    · exact ⟨rfl, le_rfl⟩
  newUUID store := ⟨rfl, Nat.le_succ _⟩
  now store := ⟨rfl, Nat.le_succ _⟩

/-- A new record has the identifier that has been drawn for it. -/
theorem create_drawn {input : CreateInput} {record : EntityRecord} (plain : Plain es)
    (runs : Driver.create e.database es ctx input store = (.ok record, after)) :
    (∃ row : Row, row.id = e.uuids store.drawn ∧ record = scan es row) ∧
      store.drawn < after.drawn := by
  obtain ⟨tenantID, first, tenant, rest⟩ := Stateful.bind_eq_ok_iff.mp runs
  have unchanged : first = store := by
    unfold tenantFromContext at tenant
    cases given : ctx.tenant with
    | none =>
      rw [given] at tenant
      cases tenant
    | some other =>
      rw [given] at tenant
      cases tenant
      rfl
  subst unchanged
  obtain ⟨id, second, drawn, rest⟩ := Stateful.bind_eq_ok_iff.mp rest
  cases drawn
  obtain ⟨now, third, clocked, rest⟩ := Stateful.bind_eq_ok_iff.mp rest
  cases clocked
  have later : Onward { first with drawn := first.drawn + 1 + 1 } after := by
    refine Stateful.Moves.of_run ?_ rest
    exact (send_along onward _ _).bind fun _ => getRow_along onward _ _
  obtain ⟨result, fourth, sends, reads⟩ := Stateful.bind_eq_ok_iff.mp rest
  obtain ⟨-, row, -, isRow, same⟩ := getRow_ok plain reads
  refine ⟨⟨row.shown, isRow, same⟩, ?_⟩
  have drawn := later.2
  dsimp only at drawn
  omega

theorem prepare_onward : Stateful.Moves Onward (Audit.prepare e.database s ctx actor change) := by
  cases change with
  | create data => exact (Stateful.Moves.lift _).bind fun _ => Stateful.Moves.pure _
  | update id data =>
    exact (getRow_along onward _ _).bind fun _ =>
      (Stateful.Moves.lift _).bind fun _ => Stateful.Moves.pure _
  | delete id =>
    exact (getRow_along onward _ _).bind fun _ =>
      (Stateful.Moves.lift _).bind fun _ => Stateful.Moves.pure _

theorem body_onward {m : Audit.Mutation Driver.Store} {ready : Driver.Store}
    (prepares : Audit.prepare e.database s ctx actor change store = (.ok m, ready))
    (txCtx : Context) :
    Stateful.Moves Onward (Audit.body (Audit.pureAudit s) m txCtx) := by
  have writes : Stateful.Moves Onward (m.write txCtx) := by
    cases change with
    | create data =>
      obtain ⟨record, middle, -, built⟩ := Stateful.bind_eq_ok_iff.mp prepares
      cases built
      exact (create_along onward _).bind fun _ => Stateful.Moves.pure _
    | update id data =>
      obtain ⟨current, middle, -, rest⟩ := Stateful.bind_eq_ok_iff.mp prepares
      obtain ⟨patched, last, -, built⟩ := Stateful.bind_eq_ok_iff.mp rest
      cases built
      exact (update_along onward _).bind fun _ => Stateful.Moves.pure _
    | delete id =>
      obtain ⟨current, middle, -, rest⟩ := Stateful.bind_eq_ok_iff.mp prepares
      obtain ⟨hooked, last, -, built⟩ := Stateful.bind_eq_ok_iff.mp rest
      cases built
      exact (delete_along onward).bind fun _ => Stateful.Moves.pure _
  exact writes.bind fun _ => (Stateful.Moves.lift _).bind fun _ => Stateful.Moves.lift _

/-- A call that is prepared ends as its transaction does. -/
theorem perform_prepared {m : Audit.Mutation Driver.Store} {ready : Driver.Store}
    (alone : ctx.conn = none)
    (prepares : Audit.prepare e.database s ctx actor change store = (.ok m, ready)) :
    ∃ outcome last, Audit.body (Audit.pureAudit s) m { ctx with conn := some 0 }
        (ready.opened ctx) = (outcome, last) ∧ store.drawn ≤ last.drawn ∧
      ∃ after, Audit.perform e.database s ctx (Audit.pureAudit s) actor change store =
        (outcome, after) ∧ after.drawn = last.drawn := by
  obtain ⟨outcome, last, runs, closes⟩ := withTx_cases (e := e) alone
    (fun txCtx state => (body_onward prepares txCtx state).1) ready
  have readied : Onward store ready := prepare_onward.of_run prepares
  have moved : Onward (ready.opened ctx) last := (body_onward prepares _).of_run runs
  refine ⟨outcome, last, runs, readied.2.trans moved.2, _,
    (Stateful.bind_ok prepares).trans closes, ?_⟩
  cases outcome with
  | ok value => rfl
  | error error => rfl

theorem perform_drawn (alone : ctx.conn = none) :
    store.drawn ≤
      (Audit.perform e.database s ctx (Audit.pureAudit s) actor change store).2.drawn := by
  rcases prepares : Audit.prepare e.database s ctx actor change store with ⟨error | m, ready⟩
  · have moved : Onward store ready := prepare_onward.of_run prepares
    rw [Audit.perform, Stateful.bind_error prepares]
    exact moved.2
  · obtain ⟨outcome, last, -, later, after, performs, same⟩ := perform_prepared alone prepares
    rw [performs, same]
    exact later

/-- A creation that is committed returns what its hooks make of a row with the identifier that has
been drawn. -/
theorem perform_create {data : Object} {record : EntityRecord} (alone : ctx.conn = none)
    (plain : Plain s.schema)
    (performs : Audit.perform e.database s ctx (Audit.pureAudit s) actor (.create data) store =
      (.ok record, after)) :
    (∃ row : Row, row.id = e.uuids store.drawn ∧
      s.pipeline.runAfterCreate { ctx with conn := some 0 } (scan s.schema row) = .ok record) ∧
      store.drawn < after.drawn := by
  obtain ⟨m, ready, prepares, -⟩ := Stateful.bind_eq_ok_iff.mp performs
  obtain ⟨outcome, last, runs, -, final, ends, same⟩ := perform_prepared alone prepares
  obtain ⟨rfl, rfl⟩ := Prod.mk.inj (ends.symm.trans performs)
  obtain ⟨proposal, middle, stages, built⟩ := Stateful.bind_eq_ok_iff.mp prepares
  obtain ⟨-, rfl⟩ := Stateful.lift_eq_iff.mp stages
  cases built
  obtain ⟨handed, written, writes, rest⟩ := Stateful.bind_eq_ok_iff.mp runs
  obtain ⟨_, audited, audits, finishes⟩ := Stateful.bind_eq_ok_iff.mp rest
  obtain ⟨-, rfl⟩ := Stateful.lift_eq_iff.mp audits
  obtain ⟨hooked, rfl⟩ := Stateful.lift_eq_iff.mp finishes
  obtain ⟨created, inserted, creates, hands⟩ := Stateful.bind_eq_ok_iff.mp writes
  cases hands
  obtain ⟨⟨row, isRow, rfl⟩, later⟩ := create_drawn plain creates
  refine ⟨⟨row, isRow, hooked⟩, ?_⟩
  rw [same]
  exact later

end Draws

/-! ## What every orderly call keeps -/

section Sound

variable {e : Engine} {desk : Desk} {call : Call}

/-- Every trigger has been served, under an identifier of its own, and its record has an identifier
that has been drawn. -/
structure Desk.Sound (e : Engine) (desk : Desk) : Prop where
  once : List.Forall₂ Meets desk.dues desk.executions
  apart : (desk.dues.map Due.id).Nodup
  drawn : ∀ due ∈ desk.dues, due.trigger.on = .onCreate ∧
    ∃ k < desk.store.drawn, due.commit.record.id = e.uuids k

theorem Desk.Sound.served (sound : desk.Sound e) : desk.Served where
  once := sound.once
  apart := sound.apart.sublist (List.filter_sublist.map Due.id)

/-- Where nothing is due, only the identifiers go on. -/
theorem Desk.Sound.goOn {store : Driver.Store} {commits : List Commit} (sound : desk.Sound e)
    (later : desk.store.drawn ≤ store.drawn) (same : commits.flatMap Commit.dues = desk.dues) :
    Desk.Sound e { store := store, executions := desk.executions, commits := commits } := by
  obtain ⟨once, apart, drawn⟩ := sound
  rw [← same] at once apart drawn
  refine ⟨once, apart, fun due member => ?_⟩
  obtain ⟨on, k, bound, isRecord⟩ := drawn due member
  exact ⟨on, k, lt_of_lt_of_le bound later, isRecord⟩

theorem dues_snoc (desk : Desk) (commit : Commit) :
    (desk.commits ++ [commit]).flatMap Commit.dues = desk.dues ++ commit.dues := by
  rw [List.flatMap_append, List.flatMap_singleton, Desk.dues]

theorem mem_triggersOn {s : WorkflowService} {event : EventType} {t : WorkflowTrigger} :
    t ∈ s.triggersOn event → t.on = event := fun member =>
  of_decide_eq_true (List.mem_filter.mp member).2

theorem Startable.fresh {record : EntityRecord} (startable : Startable e desk call record)
    (sound : desk.Sound e)
    (new : ∀ k < desk.store.drawn, (e.uuids k).string ≠ (desk.next e).string)
    {t : WorkflowTrigger} (member : t ∈ call.entity.triggersOn .onCreate) :
    workflowIDFor t record ∉ desk.dues.map Due.id := by
  intro used
  obtain ⟨due, earlier, same⟩ := List.mem_map.mp used
  by_cases given : t.workflowIDFunc.isSome ∨ due.trigger.workflowIDFunc.isSome
  · exact startable.unused t member due earlier given same.symm
  · -- two default identifiers name the identifiers of their records
    rw [not_or, Bool.not_eq_true, Bool.not_eq_true, Option.isSome_eq_false_iff,
      Option.isSome_eq_false_iff, Option.isNone_iff_eq_none, Option.isNone_iff_eq_none] at given
    obtain ⟨on, k, bound, isRecord⟩ := sound.drawn due earlier
    have texts := string_of_workflowIDFor given.2 given.1 (on.trans (mem_triggersOn member).symm)
      same
    rw [isRecord, startable.keepsID] at texts
    exact new k bound texts

/-- A creation whose record is startable starts what its triggers ask for. -/
theorem Desk.Sound.create {store : Driver.Store} {record : EntityRecord} (sound : desk.Sound e)
    (startable : Startable e desk call record) (configured : call.entity.temporal = true)
    (new : ∀ k < desk.store.drawn, (e.uuids k).string ≠ (desk.next e).string)
    (later : desk.store.drawn < store.drawn) :
    Desk.Sound e
      { store := store
        executions := startWorkflows call.entity .onCreate record call.actor desk.executions
        commits := desk.commits ++ [⟨call.entity, .onCreate, record, call.actor⟩] } := by
  obtain ⟨executions, starts, each⟩ := foldl_startWorkflow
    ⟨call.entity, .onCreate, record, call.actor⟩ startable.builds startable.apart
    fun t member => by
      rw [ids_of_meets sound.once]
      exact startable.fresh sound new member
  have dues := dues_snoc desk ⟨call.entity, .onCreate, record, call.actor⟩
  refine ⟨?_, ?_, ?_⟩
  · rw [Desk.dues, dues, startWorkflows_eq, configured, starts]
    exact List.rel_append sound.once each
  · rw [Desk.dues, dues, List.map_append, List.nodup_append']
    refine ⟨sound.apart, ?_, ?_⟩
    · rw [Commit.dues, List.map_map]
      exact startable.apart
    · intro id earlier now
      rw [Commit.dues, List.map_map] at now
      obtain ⟨t, member, same⟩ := List.mem_map.mp now
      rw [← same] at earlier
      exact startable.fresh sound new member earlier
  · intro due member
    rw [Desk.dues, dues] at member
    rcases List.mem_append.mp member with earlier | now
    · obtain ⟨on, k, bound, isRecord⟩ := sound.drawn due earlier
      exact ⟨on, k, bound.trans later, isRecord⟩
    · obtain ⟨t, among, rfl⟩ := List.mem_map.mp now
      exact ⟨mem_triggersOn among, _, later, startable.keepsID⟩

theorem Desk.Sound.step (sound : desk.Sound e) (orderly : Orderly e desk call) :
    (desk.call e call).Sound e := by
  have later : desk.store.drawn ≤ (call.commit e desk.store).2.drawn := perform_drawn rfl
  rw [Desk.call]
  rcases performs : call.commit e desk.store with ⟨error | record, store⟩
  · rw [performs] at later
    exact sound.goOn later rfl
  · rw [performs] at later
    have idle (none : call.entity.triggersOn (eventOf call.change) = [])
        (still : started call.entity call.change record call.actor desk.executions =
          desk.executions) :
        Desk.Sound e
          { store := store
            executions := started call.entity call.change record call.actor desk.executions
            commits := desk.commits ++
              [⟨call.entity, eventOf call.change, record, call.actor⟩] } := by
      rw [still]
      refine sound.goOn later ?_
      rw [dues_snoc, Commit.dues, none, List.map_nil, List.append_nil]
    dsimp only
    unfold Orderly at orderly
    cases change : call.change with
    | create data =>
      rw [Call.commit, change] at performs
      rw [change] at orderly idle
      by_cases none : call.entity.triggersOn .onCreate = []
      · refine idle none ?_
        rw [started, startWorkflows_eq, none, List.foldl_nil]
      · obtain ⟨configured, plain, new, startable⟩ := orderly none
        obtain ⟨⟨row, isRow, hooked⟩, grown⟩ := perform_create rfl plain performs
        exact sound.create (startable record ⟨row, isRow, 0, hooked⟩) configured new grown
    | update id data =>
      rw [change] at orderly idle
      exact idle orderly rfl
    | delete id =>
      rw [change] at orderly idle
      exact idle orderly rfl

end Sound

/-- In every run of orderly calls each trigger whose event matches a committed mutation has been
started once for it, nothing else has been started, and default identifiers differ. -/
theorem desk_served (e : Engine) (start : Driver.Store) (desk : Desk)
    (run : Run (Desk.call e) (Orderly e) { store := start } desk) : desk.Served := by
  have sound : desk.Sound e := by
    refine run.invariant ⟨.nil, List.nodup_nil, fun due none => absurd none List.not_mem_nil⟩ ?_
    exact fun middle call orderly sound => sound.step orderly
  exact sound.served

section Sample

open Tenant

/-- A trigger with the default identifier and no input. -/
def trigger (on : EventType) (workflowFn : String) : WorkflowTrigger where
  on := on
  workflowFn := workflowFn
  taskQueue := "platform.tenant"
  inputBuilder _ _ := .ok .null

def tenantsTriggering (triggers : List WorkflowTrigger) : WorkflowService where
  service :=
    { schema := tenants
      pipeline := { registry := newRuntimeRegistry tenantsCompiled, behaviour := fun _ => {} } }
  workflowTriggers := triggers
  temporal := true

def workflowEngine : Engine := untyped (fun _ => scannedColumns tenants) fun _ => true

def calling (triggers : List WorkflowTrigger) (change : Audit.Change) : Call where
  entity := tenantsTriggering triggers
  tenant := some 1
  change := change

def provision : List WorkflowTrigger := [trigger .onCreate "ProvisionTenant"]

theorem provision_orderly :
    Orderly workflowEngine { store := noTenants }
      (calling provision (.create (acme "acme-corp").body)) := by
  intro _
  refine ⟨rfl, ?_, fun k bound => absurd bound (Nat.not_lt_zero k), ?_⟩
  · show Plain tenants
    unfold Driver.Plain
    decide +kernel
  · rintro record ⟨row, isRow, txn, hooked⟩
    have found : (newRuntimeRegistry tenantsCompiled).findEntity tenants.tableName = .ok tenants :=
      findEntity_tenants
    replace hooked : (do
        let es ← ((newRuntimeRegistry tenantsCompiled).findEntity
          (scan tenants row).entityName).mapError Error.other
        let record ← runHooks _ "after_create" [] (scan tenants row)
        runHooks _ "after_save" [] record) = .ok record := hooked
    rw [scan_entityName, found] at hooked
    obtain rfl : scan tenants row = record := Except.ok.inj hooked
    refine ⟨?_, ?_, List.nodup_singleton _, fun t _ due none => absurd none List.not_mem_nil⟩
    · rw [scan_id, isRow]
    · intro t member
      obtain rfl := List.mem_singleton.mp member
      exact ⟨.null, rfl⟩

/-- A tenant is created and deleted. -/
theorem provision_served :
    (((Desk.mk noTenants [] []).call workflowEngine
        (calling provision (.create (acme "acme-corp").body))).call workflowEngine
      (calling provision (.delete 1))).Served :=
  desk_served workflowEngine noTenants _
    (.tail _ (.tail _ .refl provision_orderly) (by rfl))

/-- The update of a tenant is committed and its trigger is not started. -/
theorem update_unserved :
    let triggers := [trigger .onUpdate "SyncTenant"]
    let desk := ((Desk.mk noTenants [] []).call workflowEngine
        (calling triggers (.create (acme "acme-corp").body))).call workflowEngine
      (calling triggers (.update 1 activated.body))
    desk.commits.map (fun commit => commit.event.text) = ["on_create", "on_update"] ∧
      desk.dues.map (fun due => due.trigger.workflowFn) = ["SyncTenant"] ∧
      desk.executions.length = 0 ∧ ¬ desk.Served := by
  intro triggers desk
  have due : desk.dues.length = 1 := by decide +kernel
  have none : desk.executions.length = 0 := by decide +kernel
  refine ⟨by decide +kernel, by decide +kernel, none, fun served => ?_⟩
  have same := served.once.length_eq
  rw [due, none] at same
  cases same

end Sample

end ErpFinance.Api.Workflows
