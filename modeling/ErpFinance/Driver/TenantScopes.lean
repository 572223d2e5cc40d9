import ErpFinance.Driver.TenantSetting

/-!
# Which calls run under their tenant

Against a database that agrees to everything every call of a script is carried
out, so that a call outside its scope shows in the log.  A script is governed
whatever the database answers exactly when all its calls are scoped.
-/

namespace ErpFinance.Driver

open Compiler Domain Library ErpFinance.Runtime

/-! ## A database that agrees to everything -/

/-- Every statement succeeds and finds one row. -/
def agreeable : Answers where
  begins _ := .ok ⟨⟩
  sends _ := .ok { rows := [⟨0, 0, 0, 0, fun _ => .null⟩], affected := 1 }
  commits _ := .ok ⟨⟩
  rollbacks _ := .ok ⟨⟩
  uuids _ := 0
  clock _ := 0

/-- The log only grows. -/
def Extends (log after : Log) : Prop := log <:+ after

instance : Std.Refl Extends := ⟨fun _ => List.suffix_rfl⟩

instance : IsTrans Log Extends := ⟨fun _ _ _ first second => List.IsSuffix.trans first second⟩

section Agreeable

variable {ctx : Context} {tenantID : Uuid} {log : Log} (es : EntitySchema)

theorem sendsExtends (a : Answers) : SendsAlong a es Extends ctx := by
  intro operation statement _
  have moves : Stateful.Moves Extends (a.database.send ctx statement) :=
    fun log => List.suffix_cons _ log
  exact moves.mapError _

/-- The program succeeds, and the first thing it sends is a statement under the context. -/
def Begins (ctx : Context) (program : Stateful Log Error Unit) (log : Log) : Prop :=
  ∃ more statement, Statement.setsTenant statement = false ∧
    program log = (.ok ⟨⟩, more ++ .sent ctx.tenant ctx.conn statement :: log)

theorem newUUIDs_agreeable (n : Nat) (log : Log) :
    newUUIDs agreeable.database n log = (.ok (List.replicate n 0), log) := by
  induction n with
  | zero => rfl
  | succ n ih => exact Stateful.bind_ok ih

theorem sendBatch_agreeable (batch : List Statement) (log : Log) :
    ∃ after, sendBatch agreeable.database es ctx batch log = (.ok ⟨⟩, after) := by
  have passes : Stateful.Passes (execQueued agreeable.database es ctx) (fun _ _ => True) batch
      batch.length :=
    fun i _ statement _ log _ => ⟨.sent ctx.tenant ctx.conn statement :: log, rfl, trivial⟩
  obtain ⟨after, runs, -⟩ := Stateful.each_passes passes trivial
  exact ⟨after, runs⟩

theorem Op.run_agreeable (tenant : ctx.tenant = some tenantID) (op : Op)
    (single : ∀ inputs, op ≠ .bulkCreate inputs) (log : Log) :
    Begins ctx (op.run agreeable.database es ctx) log := by
  cases op with
  | get id o => exact ⟨[], _, rfl, rfl⟩
  | query f o =>
    obtain ⟨page, pageSize, sortField, sortAsc, forUpdate, skipCount⟩ := o
    cases skipCount with
    | true => exact ⟨[], _, rfl, rfl⟩
    | false =>
      refine ⟨[_], _, ?_, rfl⟩
      rfl
  | exists' f => exact ⟨[], _, rfl, rfl⟩
  | count f => exact ⟨[], _, rfl, rfl⟩
  | aggregate f spec => exact ⟨[], _, rfl, rfl⟩
  | create input =>
    obtain ⟨tenant', conn, viewer, entropy⟩ := ctx
    cases tenant
    exact ⟨[_], _, rfl, rfl⟩
  | update id input =>
    have clock : agreeable.database.now log = (.ok 0, log) := rfl
    let read : Statement := .select
      { table := es.tableName, columns := scannedColumns es, condition := byID id
        limit := some 1 }
    let parts := updateParts es 0 input
    cases nothing : nothingToUpdate es input with
    | true =>
      refine ⟨[], read, rfl, ?_⟩
      rw [Op.run, discard_apply, Driver.update, Stateful.bind_ok clock, nothing]
      rfl
    | false =>
      refine ⟨[.sent ctx.tenant ctx.conn read],
        .update es.tableName parts.1 parts.2 (byID id), rfl, ?_⟩
      rw [Op.run, discard_apply, Driver.update, Stateful.bind_ok clock, nothing]
      rfl
  | delete id => exact ⟨[], _, rfl, rfl⟩
  | bulkUpdate f patch => exact ⟨[], _, rfl, rfl⟩
  | bulkCreate inputs => exact absurd rfl (single inputs)

/-- Programs that a database that agrees to everything lets succeed. -/
def Succeeds {α : Type} (program : Stateful Log Error α) : Prop :=
  ∀ log, ∃ value after, program log = (.ok value, after) ∧ Extends log after

theorem withTx_agreeable {α : Type} {program : Context → Stateful Log Error α}
    (tenant : ctx.tenant = some tenantID)
    (succeeds : ∀ conn, Succeeds (program { ctx with conn := conn })) :
    Succeeds (withTx agreeable.database ctx program) := by
  intro log
  obtain ⟨tenant', conn, viewer, entropy⟩ := ctx
  cases tenant
  cases conn with
  | some txn => exact succeeds (some txn) log
  | none =>
    let opened : Log := .sent (some tenantID) (some log.length)
      (.setTenantContext tenantID) :: .began log.length :: log
    obtain ⟨value, after, runs, grows⟩ := succeeds (some log.length) opened
    have opens : openTx agreeable.database ⟨some tenantID, none, viewer, entropy⟩ log =
        (.ok log.length, opened) := rfl
    refine ⟨value, .ended log.length :: after, ?_, ?_⟩
    · rw [withTx]
      dsimp only
      rw [Stateful.bind_ok opens, closeTx, Stateful.bind_ok (Stateful.outcome_apply _ _), runs]
      rfl
    · have first : Extends log opened := (List.suffix_cons _ log).trans (List.suffix_cons _ _)
      exact (List.IsSuffix.trans first grows).trans (List.suffix_cons _ after)

/-- Where the program of a transaction starts, and that what it sends stays sent. -/
theorem withTx_body {α : Type} {scope : Scope} (placed : Placed scope ctx log)
    (program : Context → Stateful Log Error α) :
    ∃ txCtx opened, Placed scope.enter txCtx opened ∧ Grows log opened ∧
      Extends (program txCtx opened).2 (withTx agreeable.database ctx program log).2 := by
  have conn := placed.conn
  cases opens : scope.opened with
  | some opened =>
    rw [opens] at conn
    obtain ⟨txn, bound, same, set⟩ := conn
    rw [withTx_joined _ same]
    refine ⟨ctx, log, ⟨placed.tenant, ?_⟩, Std.Refl.refl log, List.suffix_rfl⟩
    rw [Scope.enter, opens]
    exact ⟨txn, bound, same, set⟩
  | none =>
    rw [opens] at conn
    obtain ⟨grows, entered⟩ := openTx_grows agreeable log placed.tenant
    have begins : openTx agreeable.database ctx log =
        (.ok log.length, (openTx agreeable.database ctx log).2) := by
      rw [openTx, placed.tenant]
      rfl
    refine ⟨{ ctx with conn := some log.length }, _, ?_, grows, ?_⟩
    · rw [Scope.enter, opens]
      exact entered log.length (by rw [begins])
    · rw [withTx, conn]
      dsimp only
      rw [Stateful.bind_ok begins]
      exact closeTx_ends agreeable log.length (fun log => List.suffix_cons _ log) _ _

theorem insertAll_agreeable (tenantID : Uuid) (inputs : List CreateInput) :
    Succeeds (insertAll agreeable.database es ctx tenantID inputs) := by
  intro log
  have sends : SendsAlong agreeable es Extends ctx := sendsExtends es agreeable
  have grows := insertAll_moves sends tenantID inputs log
  have clock : agreeable.database.now log = (.ok 0, log) := rfl
  have runs : ∃ records, insertAll agreeable.database es ctx tenantID inputs log =
      (.ok records, (insertAll agreeable.database es ctx tenantID inputs log).2) := by
    obtain ⟨after, inserts⟩ := sendBatch_agreeable es ((List.replicate inputs.length 0).zipWith
      (batchInsert es tenantID 0 (inputs.any CreateInput.hasCustomFields)) inputs) log
    rw [insertAll, Stateful.bind_ok clock, Stateful.bind_ok (newUUIDs_agreeable _ log),
      Stateful.bind_ok inserts]
    exact ⟨_, rfl⟩
  obtain ⟨records, runs⟩ := runs
  exact ⟨records, _, runs, grows⟩

theorem insertAll_first (tenantID : Uuid) (input : CreateInput) (rest : List CreateInput)
    (log : Log) :
    ∃ statement, Statement.setsTenant statement = false ∧
      Extends (.sent ctx.tenant ctx.conn statement :: log)
        (insertAll agreeable.database es ctx tenantID (input :: rest) log).2 := by
  let custom := (input :: rest).any CreateInput.hasCustomFields
  refine ⟨batchInsert es tenantID 0 custom 0 input, rfl, ?_⟩
  have sends : SendsAlong agreeable es Extends ctx := sendsExtends es agreeable
  have clock : agreeable.database.now log = (.ok 0, log) := rfl
  rw [insertAll, Stateful.bind_ok clock, Stateful.bind_ok (newUUIDs_agreeable _ log)]
  refine Stateful.Moves.go_on ?_ fun _ => (sends "BulkCreate.fetch" _ rfl).bind fun _ => .pure _
  refine Stateful.Moves.go_on List.suffix_rfl fun _ => Stateful.Moves.each ?_ 1
  intro statement member i
  rw [← List.map_uncurry_zip_eq_zipWith] at member
  obtain ⟨entry, -, rfl⟩ := List.mem_map.mp member
  exact (sends _ _ rfl).bind fun _ => .pure _

theorem Op.run_succeeds (tenant : ctx.tenant = some tenantID) (op : Op) :
    Succeeds (op.run agreeable.database es ctx) := by
  intro log
  by_cases bulk : ∃ inputs, op = .bulkCreate inputs
  · obtain ⟨inputs, rfl⟩ := bulk
    have creates : Succeeds (Driver.bulkCreate agreeable.database es ctx inputs) := by
      intro log
      unfold Driver.bulkCreate
      split
      · exact ⟨_, _, rfl, List.suffix_rfl⟩
      · rw [tenantFromContext, tenant]
        exact withTx_agreeable tenant (fun _ => insertAll_agreeable es tenantID inputs) log
    obtain ⟨records, after, runs, grows⟩ := creates log
    refine ⟨⟨⟩, after, ?_, grows⟩
    rw [Op.run, discard_apply, runs]
    rfl
  · have single : ∀ inputs, op ≠ .bulkCreate inputs := fun inputs same => bulk ⟨inputs, same⟩
    obtain ⟨more, statement, -, runs⟩ := Op.run_agreeable es tenant op single log
    refine ⟨⟨⟩, _, runs, ?_⟩
    exact (List.suffix_cons _ log).trans (List.suffix_append more _)

theorem Op.scoped_of_governed {scope : Scope} (placed : Placed scope ctx log) (op : Op)
    (governed : Governed (op.run agreeable.database es ctx log).2) : op.Scoped scope := by
  -- the first statement is one under the context
  have of_first : ∀ statement, Statement.setsTenant statement = false →
      Extends (.sent ctx.tenant ctx.conn statement :: log)
        (op.run agreeable.database es ctx log).2 → scope.Inside := by
    intro statement plain first
    have sent := governed_of_suffix first governed
    exact placed.inside (sent.1 plain)
  by_cases bulk : ∃ inputs, op = .bulkCreate inputs
  · obtain ⟨inputs, rfl⟩ := bulk
    cases inputs with
    | nil => exact .inl rfl
    | cons input rest =>
      cases opens : scope.opened with
      | none =>
        refine .inr ?_
        rw [Scope.Inside, Scope.enter, opens]
        rfl
      | some opened =>
        have conn := placed.conn
        rw [opens] at conn
        obtain ⟨txn, -, same, -⟩ := conn
        have inside : scope.Inside := by
          obtain ⟨statement, plain, first⟩ := insertAll_first es scope.tenant input rest log
          refine of_first statement plain ?_
          have tenant : tenantFromContext ctx log = (.ok scope.tenant, log) := by
            rw [tenantFromContext, placed.tenant]
            rfl
          have filled : ¬ (input :: rest).isEmpty = true := Bool.false_ne_true
          rw [Op.run, discard_apply, Driver.bulkCreate, if_neg filled, Stateful.bind_ok tenant,
            withTx_joined _ same]
          exact first
        refine .inr ?_
        rw [Scope.Inside, Scope.enter, opens]
        rw [Scope.Inside, opens] at inside
        exact inside
  · have single : ∀ inputs, op ≠ .bulkCreate inputs := fun inputs same => bulk ⟨inputs, same⟩
    obtain ⟨more, statement, plain, runs⟩ := Op.run_agreeable es placed.tenant op single log
    have inside : scope.Inside := by
      refine of_first statement plain ?_
      rw [runs]
      exact List.suffix_append more _
    cases op with
    | bulkCreate inputs => exact absurd rfl (single inputs)
    | _ => exact inside

end Agreeable

section Scripts

variable {base : Scope} {ctx : Context} {scopes : List Scope} {around : List Context}
  {tenantID : Uuid} {log : Log}

theorem Ref.context_tenant (tenant : ctx.tenant.isSome) (tenants : ∀ c ∈ around, c.tenant.isSome)
    (ref : Ref) : (ref.context ctx around).tenant.isSome := by
  have outer : (around.getD ref.up ctx).tenant.isSome := by
    rw [List.getD_eq_getElem?_getD]
    cases found : around[ref.up]? with
    | none => exact tenant
    | some inner => exact tenants inner (List.mem_of_getElem? found)
  rw [Ref.context]
  cases ref.tenant with
  | none => exact outer
  | some _ => rfl

theorem proceed_ok {program rest : Stateful Log Error Unit} {strict : Bool} {after : Log}
    (runs : program log = (.ok ⟨⟩, after)) :
    (program.outcome >>= proceed strict rest) log = rest after := by
  rw [Stateful.bind_ok (Stateful.outcome_apply program log), runs]
  rfl

theorem Script.run_succeeds (script : Script) (tenant : ctx.tenant.isSome)
    (tenants : ∀ c ∈ around, c.tenant.isSome) :
    Succeeds (script.run agreeable.database ctx around) := by
  induction script generalizing around with
  | done => exact fun log => ⟨⟨⟩, log, rfl, List.suffix_rfl⟩
  | call ref es op strict rest ih =>
    intro log
    obtain ⟨inner, same⟩ := Option.isSome_iff_exists.mp (ref.context_tenant tenant tenants)
    obtain ⟨⟨⟩, middle, runs, grows⟩ := Op.run_succeeds es same op log
    obtain ⟨value, after, ends, more⟩ := ih tenants middle
    exact ⟨value, after, (proceed_ok runs).trans ends, grows.trans more⟩
  | withTx ref body strict rest ihBody ih =>
    intro log
    have some := ref.context_tenant tenant tenants
    obtain ⟨inner, same⟩ := Option.isSome_iff_exists.mp some
    have succeeds : Succeeds (Driver.withTx agreeable.database (ref.context ctx around)
        fun txCtx => body.run agreeable.database ctx (txCtx :: around)) :=
      withTx_agreeable same fun conn => ihBody (List.forall_mem_cons.mpr ⟨some, tenants⟩)
    obtain ⟨⟨⟩, middle, runs, grows⟩ := succeeds log
    obtain ⟨value, after, ends, more⟩ := ih tenants middle
    exact ⟨value, after, (proceed_ok runs).trans ends, grows.trans more⟩

theorem Script.scoped_of_governed (script : Script) (nested : Nested base ctx scopes around log)
    (governed : Governed (script.run agreeable.database ctx around log).2) :
    script.Scoped base scopes := by
  induction script generalizing log scopes around with
  | done => trivial
  | call ref es op strict rest ih =>
    have placed := nested.context ref
    obtain ⟨⟨⟩, middle, runs, grows⟩ := Op.run_succeeds es placed.tenant op log
    obtain ⟨_, after, ends, more⟩ := rest.run_succeeds nested.tenant nested.tenants middle
    rw [Script.run, proceed_ok runs, ends] at governed
    have inside : op.Scoped (ref.scope base scopes) := by
      refine Op.scoped_of_governed es placed op ?_
      rw [runs]
      exact governed_of_suffix more governed
    have keeps := Op.run_grows agreeable es placed inside
    rw [runs] at keeps
    refine ⟨inside, ih (nested.mono keeps) ?_⟩
    rw [ends]
    exact governed
  | withTx ref body strict rest ihBody ih =>
    have placed := nested.context ref
    have tenants : ∀ conn, ∀ c ∈ { ref.context ctx around with conn := conn } :: around,
        c.tenant.isSome := by
      intro conn
      exact List.forall_mem_cons.mpr ⟨by rw [placed.tenant]; rfl, nested.tenants⟩
    have succeeds : Succeeds (Driver.withTx agreeable.database (ref.context ctx around)
        fun txCtx => body.run agreeable.database ctx (txCtx :: around)) :=
      withTx_agreeable placed.tenant fun conn => body.run_succeeds nested.tenant (tenants conn)
    obtain ⟨⟨⟩, middle, runs, -⟩ := succeeds log
    obtain ⟨_, after, ends, more⟩ := rest.run_succeeds nested.tenant nested.tenants middle
    rw [Script.run, proceed_ok runs, ends] at governed
    obtain ⟨txCtx, opened, entered, grown, extended⟩ := withTx_body placed
      fun txCtx => body.run agreeable.database ctx (txCtx :: around)
    rw [runs] at extended
    have inside : body.Scoped base ((ref.scope base scopes).enter :: scopes) := by
      refine ihBody ⟨(nested.mono grown).outer, .cons entered (nested.mono grown).inner⟩ ?_
      exact governed_of_suffix (extended.trans more) governed
    have keeps := withTx_grows agreeable placed fun txCtx after grown entered =>
      Script.run_grows agreeable
        ⟨(nested.mono grown).outer, .cons entered (nested.mono grown).inner⟩ inside
    rw [runs] at keeps
    refine ⟨inside, ih (nested.mono keeps) ?_⟩
    rw [ends]
    exact governed

end Scripts

/-- Whatever the database answers, every statement of a script runs in a transaction set to the
tenant of its context: exactly when every call is in a transaction opened under that tenant. -/
theorem Script.governed_iff (script : Script) (tenantID : Uuid) :
    (∀ a : Answers, Governed (script.run a.database { tenant := some tenantID } [] []).2) ↔
      script.Scoped { tenant := tenantID } [] := by
  have nested : Nested { tenant := tenantID } { tenant := some tenantID } [] [] [] :=
    ⟨⟨rfl, rfl⟩, .nil⟩
  constructor
  · intro governed
    exact script.scoped_of_governed nested (governed agreeable)
  · intro inside a
    exact (Script.run_grows a nested inside).governed trivial

section Sample

def invoices : EntitySchema := buildEntitySchema { name := "invoice", module := "finance" }

/-- A record is read outside a transaction; and a nested transaction is opened for tenant 2 inside
one of tenant 1. -/
theorem not_governed :
    ¬ Governed ((Script.call {} invoices (.get 5 {}) true .done).run agreeable.database
      { tenant := some 1 } [] []).2 ∧
    ¬ Governed ((Script.withTx {}
      (.withTx { tenant := some 2 } (.call {} invoices (.get 5 {}) true .done) true .done)
      true .done).run agreeable.database { tenant := some 1 } [] []).2 := by
  constructor
  · rintro ⟨governed, -⟩
    obtain ⟨txn, same, -⟩ := governed rfl
    cases same
  · rintro ⟨governed, -⟩
    obtain ⟨txn, same, set⟩ := governed rfl
    cases same
    cases set

end Sample

end ErpFinance.Driver
