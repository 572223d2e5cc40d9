import ErpFinance.Driver.Repository

/-!
# The tenant a statement runs under

Calls of repositories, nested in transactions in any way, against a database
that may answer anything.  What is sent is logged together with the tenant of
the context it was sent under.
-/

namespace ErpFinance.Driver

open Compiler Domain Library ErpFinance.Runtime

/-! ## The log -/

inductive Event where
  | began (txn : Nat)
  | sent (tenant : Option Uuid) (conn : Option Nat) (statement : Statement)
  | ended (txn : Nat)

/-- The last event comes first. -/
abbrev Log := List Event

/-- The tenant last set in a transaction. -/
def setting (txn : Nat) : Log → Option Uuid
  | [] => none
  | .sent _ (some conn) (.setTenantContext tenantID) :: before =>
    if conn = txn then some tenantID else setting txn before
  | _ :: before => setting txn before

def Statement.setsTenant : Statement → Bool
  | .setTenantContext _ => true
  | _ => false

theorem setting_sent {statement : Statement} (plain : statement.setsTenant = false)
    {txn : Nat} {tenant : Option Uuid} {conn : Option Nat} {before : Log} :
    setting txn (.sent tenant conn statement :: before) = setting txn before := by
  cases conn <;> cases statement <;> first | rfl | cases plain

/-- Every statement was sent in a transaction in which the tenant of its context was set last. -/
def Governed : Log → Prop
  | [] => True
  | .sent tenant conn statement :: before =>
    (statement.setsTenant = false → ∃ txn, conn = some txn ∧ setting txn before = tenant) ∧
      Governed before
  | _ :: before => Governed before

/-- What the database and the process answer, after the events so far. -/
structure Answers where
  begins : Log → Except Error Unit
  sends : Log → Except Error Result
  commits : Log → Except Error Unit
  rollbacks : Log → Except Error Unit
  uuids : Log → Uuid
  clock : Log → Nat

/-- The database that logs and answers; a transaction is numbered by the events before it. -/
def Answers.database (a : Answers) : Database Log where
  begin log :=
    match a.begins log with
    | .ok _ => (.ok log.length, .began log.length :: log)
    | .error error => (.error error, log)
  send ctx statement log :=
    let log := .sent ctx.tenant ctx.conn statement :: log
    (a.sends log, log)
  commit txn log := (a.commits log, .ended txn :: log)
  rollback txn log := (a.rollbacks log, .ended txn :: log)
  newUUID log := (.ok (a.uuids log), log)
  now log := (.ok (a.clock log), log)

/-! ## Calls -/

/-- One operation of a repository. -/
inductive Op where
  | get (id : Uuid) (o : QueryOptions)
  | query (f : Option Filter) (o : QueryOptions)
  | exists' (f : Option Filter)
  | count (f : Option Filter)
  | aggregate (f : Option Filter) (spec : AggregateSpec)
  | create (input : CreateInput)
  | update (id : Uuid) (input : UpdateInput)
  | delete (id : Uuid)
  | bulkCreate (inputs : List CreateInput)
  | bulkUpdate (f : Option Filter) (patch : Object)

def discard {σ α : Type} (program : Stateful σ Error α) : Stateful σ Error Unit := do
  let _ ← program
  pure ⟨⟩

def Op.run {σ : Type} (d : Database σ) (es : EntitySchema) (ctx : Context) :
    Op → Stateful σ Error Unit
  | get id o => discard (Driver.get d es ctx id o)
  | query f o => discard (Driver.query d es ctx f o)
  | exists' f => discard (Driver.exists' d es ctx f)
  | count f => discard (Driver.count d es ctx f)
  | aggregate f spec => discard (Driver.aggregate d es ctx f spec)
  | create input => discard (Driver.create d es ctx input)
  | update id input => discard (Driver.update d es ctx id input)
  | delete id => Driver.delete d es ctx id
  | bulkCreate inputs => discard (Driver.bulkCreate d es ctx inputs)
  | bulkUpdate f patch => discard (Driver.bulkUpdate d es ctx f patch)

/-- Which of the contexts around a call it uses, counted from the innermost one, and with which
tenant in place of that context's. -/
structure Ref where
  up : Nat := 0
  tenant : Option Uuid := none

/-- Calls one after the other; an error ends them or is passed over. -/
inductive Script where
  | done
  | call (ref : Ref) (es : EntitySchema) (op : Op) (strict : Bool) (rest : Script)
  | withTx (ref : Ref) (body : Script) (strict : Bool) (rest : Script)

section Run

variable {σ : Type} (d : Database σ) (base : Context)

def Ref.context (ref : Ref) (around : List Context) : Context :=
  let ctx := around.getD ref.up base
  { ctx with tenant := ref.tenant.or ctx.tenant }

/-- Go on after a call. -/
def proceed (strict : Bool) (rest : Stateful σ Error Unit) :
    Except Error Unit → Stateful σ Error Unit
  | .ok _ => rest
  | .error error => if strict then Stateful.fail error else rest

def Script.run : Script → List Context → Stateful σ Error Unit
  | done, _ => pure ⟨⟩
  | call ref es op strict rest, around => do
      let result ← (op.run d es (ref.context base around)).outcome
      proceed strict (rest.run around) result
  | withTx ref body strict rest, around => do
      let ctx := ref.context base around
      let result ← (Driver.withTx d ctx fun txCtx => body.run (txCtx :: around)).outcome
      proceed strict (rest.run around) result

end Run

/-! ## Which calls are safe -/

/-- The tenant of a context, and the tenant its transaction was opened under. -/
structure Scope where
  tenant : Uuid
  opened : Option Uuid := none

namespace Scope

/-- The scope inside a transaction opened here, if none is open yet. -/
def enter (scope : Scope) : Scope :=
  { scope with opened := some (scope.opened.getD scope.tenant) }

/-- In a transaction opened under the tenant of the context. -/
def Inside (scope : Scope) : Prop := scope.opened = some scope.tenant

end Scope

/-- A bulk insert opens a transaction of its own, and one of nothing sends nothing. -/
def Op.Scoped (scope : Scope) : Op → Prop
  | bulkCreate inputs => inputs = [] ∨ scope.enter.Inside
  | _ => scope.Inside

def Ref.scope (base : Scope) (ref : Ref) (around : List Scope) : Scope :=
  let scope := around.getD ref.up base
  { scope with tenant := ref.tenant.getD scope.tenant }

def Script.Scoped (base : Scope) : Script → List Scope → Prop
  | done, _ => True
  | call ref _ op _ rest, around => op.Scoped (ref.scope base around) ∧ rest.Scoped base around
  | withTx ref body _ rest, around =>
    body.Scoped base ((ref.scope base around).enter :: around) ∧ rest.Scoped base around

/-! ## Growing logs -/

/-- The log grows, no open transaction is set anew, and what is sent is governed. -/
structure Grows (log after : Log) : Prop where
  suffix : log <:+ after
  kept : ∀ txn < log.length, setting txn after = setting txn log
  governed : Governed log → Governed after

instance : Std.Refl Grows := ⟨fun _ => ⟨List.suffix_rfl, fun _ _ => rfl, id⟩⟩

instance : IsTrans Log Grows where
  trans _ _ _ first second :=
    { suffix := first.suffix.trans second.suffix
      kept := fun txn bound =>
        (second.kept txn (bound.trans_le first.suffix.length_le)).trans (first.kept txn bound)
      governed := second.governed ∘ first.governed }

theorem governed_of_suffix {before after : Log} (suffix : before <:+ after)
    (governed : Governed after) : Governed before := by
  obtain ⟨more, rfl⟩ := suffix
  induction more with
  | nil => exact governed
  | cons event rest ih =>
    refine ih ?_
    cases event with
    | began txn => exact governed
    | sent tenant conn statement => exact governed.2
    | ended txn => exact governed

structure Placed (scope : Scope) (ctx : Context) (log : Log) : Prop where
  tenant : ctx.tenant = some scope.tenant
  conn : match scope.opened with
    | none => ctx.conn = none
    | some opened => ∃ txn < log.length, ctx.conn = some txn ∧ setting txn log = some opened

section Placed

variable {scope : Scope} {ctx : Context} {log after : Log}

theorem Placed.mono (placed : Placed scope ctx log) (grows : Grows log after) :
    Placed scope ctx after := by
  refine ⟨placed.tenant, ?_⟩
  have conn := placed.conn
  cases opens : scope.opened with
  | none =>
    rw [opens] at conn
    exact conn
  | some opened =>
    rw [opens] at conn
    obtain ⟨txn, bound, same, set⟩ := conn
    exact ⟨txn, bound.trans_le grows.suffix.length_le, same, (grows.kept txn bound).trans set⟩

theorem Placed.setting (placed : Placed scope ctx log) (inside : scope.Inside) :
    ∃ txn, ctx.conn = some txn ∧ Driver.setting txn log = ctx.tenant := by
  have conn := placed.conn
  rw [inside] at conn
  obtain ⟨txn, -, same, set⟩ := conn
  exact ⟨txn, same, set.trans placed.tenant.symm⟩

/-- A statement is governed where it is sent only if the context is inside its scope. -/
theorem Placed.inside (placed : Placed scope ctx log)
    (set : ∃ txn, ctx.conn = some txn ∧ Driver.setting txn log = ctx.tenant) : scope.Inside := by
  obtain ⟨txn, same, tenant⟩ := set
  have conn := placed.conn
  cases opens : scope.opened with
  | none =>
    rw [opens, same] at conn
    cases conn
  | some opened =>
    rw [opens] at conn
    obtain ⟨other, -, also, set⟩ := conn
    rw [same] at also
    cases also
    rw [set, placed.tenant] at tenant
    rw [Scope.Inside, opens, tenant]

end Placed

/-! ## Operations inside their scope -/

def Along (scope : Scope) (ctx : Context) (log after : Log) : Prop :=
  Placed scope ctx log → scope.Inside → Grows log after

instance (scope : Scope) (ctx : Context) : Std.Refl (Along scope ctx) :=
  ⟨fun log _ _ => Std.Refl.refl log⟩

instance (scope : Scope) (ctx : Context) : IsTrans Log (Along scope ctx) where
  trans log middle last first second placed inside :=
    have grows := first placed inside
    IsTrans.trans log middle last grows (second (placed.mono grows) inside)

section Sends

variable (a : Answers) (es : EntitySchema) {ctx : Context} {along : Log → Log → Prop}

def SendsAlong (along : Log → Log → Prop) (ctx : Context) : Prop :=
  ∀ operation statement, statement.setsTenant = false →
    Stateful.Moves along (send a.database es ctx operation statement)

section Clock

variable [Std.Refl along]

theorem newUUID_moves : Stateful.Moves along a.database.newUUID := fun log => Std.Refl.refl log

theorem now_moves : Stateful.Moves along a.database.now := fun log => Std.Refl.refl log

end Clock

theorem discard_apply {α : Type} (program : Stateful Log Error α) (log : Log) :
    discard program log = ((program log).1.map fun _ => ⟨⟩, (program log).2) := by
  rcases runs : program log with ⟨error | value, after⟩
  · exact Stateful.bind_error runs
  · exact Stateful.bind_ok runs

variable [Std.Refl along] [IsTrans Log along]

theorem discard_moves {α : Type} {program : Stateful Log Error α}
    (moves : Stateful.Moves along program) : Stateful.Moves along (discard program) :=
  moves.bind fun _ => .pure _

variable {a es} (sends : SendsAlong a es along ctx)

include sends

theorem getRow_moves (operation : String) (id : Uuid) (forUpdate : Bool) :
    Stateful.Moves along (getRow a.database es ctx operation id forUpdate) := by
  refine (sends operation _ rfl).bind fun result => ?_
  split
  · exact .fail _
  · exact .pure _

theorem count_moves (f : Option Filter) : Stateful.Moves along (count a.database es ctx f) :=
  (sends "Count" _ rfl).bind fun _ => .pure _

theorem query_moves (f : Option Filter) (o : QueryOptions) :
    Stateful.Moves along (query a.database es ctx f o) := by
  refine (sends "Query" _ rfl).bind fun result => Stateful.Moves.ite (.pure _) ?_
  refine (count_moves sends f).outcome.bind fun counted => ?_
  cases counted with
  | ok total => exact .pure _
  | error error => exact .pure _

theorem create_moves (input : CreateInput) :
    Stateful.Moves along (create a.database es ctx input) := by
  have tenant : Stateful.Moves along (tenantFromContext ctx : Stateful Log Error Uuid) := by
    unfold tenantFromContext
    split
    · exact .pure _
    · exact .fail _
  refine tenant.bind fun tenantID => (newUUID_moves a).bind fun id => ?_
  refine (now_moves a).bind fun now => ?_
  exact (sends "Create" _ (by split <;> rfl)).bind fun _ => getRow_moves sends "get" id false

theorem update_moves (id : Uuid) (input : UpdateInput) :
    Stateful.Moves along (update a.database es ctx id input) := by
  have reads := getRow_moves sends "get" id false
  refine (now_moves a).bind fun now => Stateful.Moves.ite reads ?_
  exact (sends "Update" _ rfl).bind fun result => Stateful.Moves.ite (.fail _) reads

omit sends in
theorem newUUIDs_moves (n : Nat) : Stateful.Moves along (newUUIDs a.database n) := by
  induction n with
  | zero => exact .pure _
  | succ n ih => exact (newUUID_moves a).bind fun id => ih.bind fun ids => .pure _

theorem sendBatch_moves (tenantID : Uuid) (now : Nat) (custom : Bool) (ids : List Uuid)
    (inputs : List CreateInput) : Stateful.Moves along
      (sendBatch a.database es ctx (ids.zipWith (batchInsert es tenantID now custom) inputs)) := by
  refine Stateful.Moves.each (fun statement member i => ?_) 0
  rw [← List.map_uncurry_zip_eq_zipWith] at member
  obtain ⟨entry, -, rfl⟩ := List.mem_map.mp member
  exact (sends _ _ rfl).bind fun _ => .pure _

theorem insertAll_moves (tenantID : Uuid) (inputs : List CreateInput) :
    Stateful.Moves along (insertAll a.database es ctx tenantID inputs) := by
  refine (now_moves a).bind fun now => (newUUIDs_moves inputs.length).bind fun ids => ?_
  refine (sendBatch_moves sends tenantID now _ ids inputs).bind fun _ => ?_
  exact (sends "BulkCreate.fetch" _ rfl).bind fun _ => .pure _

/-- An operation that opens no transaction moves as its statements do. -/
theorem Op.run_moves (op : Op) (single : ∀ inputs, op ≠ .bulkCreate inputs) :
    Stateful.Moves along (op.run a.database es ctx) := by
  cases op with
  | get id o => exact discard_moves (getRow_moves sends "Get" id o.forUpdate)
  | query f o => exact discard_moves (query_moves sends f o)
  | exists' f => exact discard_moves ((sends "Exists" _ rfl).bind fun _ => .pure _)
  | count f => exact discard_moves (count_moves sends f)
  | aggregate f spec => exact discard_moves ((sends "Aggregate" _ rfl).bind fun _ => .pure _)
  | create input => exact discard_moves (create_moves sends input)
  | update id input => exact discard_moves (update_moves sends id input)
  | delete id => exact (sends "Delete" _ rfl).bind fun _ => Stateful.Moves.ite (.fail _) (.pure _)
  | bulkUpdate f patch =>
    exact discard_moves ((now_moves a).bind fun _ => (sends "BulkUpdate" _ rfl).bind fun _ =>
      .pure _)
  | bulkCreate inputs => exact absurd rfl (single inputs)

end Sends

section Inside

variable (a : Answers) (es : EntitySchema) {scope : Scope} {ctx : Context}

theorem sendsAlong : SendsAlong a es (Along scope ctx) ctx := by
  intro operation statement plain
  have moves : Stateful.Moves (Along scope ctx) (a.database.send ctx statement) := by
    intro log placed inside
    refine ⟨List.suffix_cons _ log, fun txn _ => ?_, fun governed => ⟨fun _ => ?_, governed⟩⟩
    · exact setting_sent plain
    · exact placed.setting inside
  exact moves.mapError _

end Inside

section Transactions

variable (a : Answers) {scope : Scope} {ctx : Context} {α : Type}

theorem grows_ended (txn : Nat) (log : Log) : Grows log (.ended txn :: log) :=
  ⟨List.suffix_cons _ log, fun _ _ => rfl, id⟩

/-- The end of a transaction, whatever becomes of it. -/
theorem closeTx_ends {along : Log → Log → Prop} [Std.Refl along] [IsTrans Log along] (txn : Nat)
    (ends : ∀ log, along log (.ended txn :: log)) (program : Stateful Log Error α) (log : Log) :
    along (program log).2 (closeTx a.database txn program log).2 := by
  rw [closeTx, Stateful.bind_ok (Stateful.outcome_apply program log)]
  cases (program log).1 with
  | ok value =>
    have commits : Stateful.Moves along (a.database.commit txn) := ends
    exact (commits.bind fun _ => .pure value) _
  | error error =>
    have rolls : Stateful.Moves along (a.database.rollback txn) := ends
    exact (rolls.outcome.bind fun _ => .fail error) _

theorem openTx_grows (log : Log) (tenant : ctx.tenant = some scope.tenant) :
    Grows log (openTx a.database ctx log).2 ∧
      ∀ txn, (openTx a.database ctx log).1 = .ok txn →
        Placed { scope with opened := some scope.tenant } { ctx with conn := some txn }
          (openTx a.database ctx log).2 := by
  rw [openTx]
  cases begins : a.begins log with
  | error error =>
    have fails : a.database.begin.mapError (Error.wrapped "begin transaction") log =
        (.error (Error.wrapped "begin transaction" error), log) := by
      simp [Answers.database, Stateful.mapError, begins, Except.mapError]
    rw [Stateful.bind_error fails]
    exact ⟨Std.Refl.refl log, nofun⟩
  | ok started =>
    have opens : a.database.begin.mapError (Error.wrapped "begin transaction") log =
        (.ok log.length, .began log.length :: log) := by
      simp [Answers.database, Stateful.mapError, begins, Except.mapError]
    rw [Stateful.bind_ok opens, tenant]
    dsimp only
    rw [Stateful.bind_ok (Stateful.outcome_apply _ _)]
    have grows : Grows log (.sent ctx.tenant (some log.length)
        (.setTenantContext scope.tenant) :: .began log.length :: log) := by
      refine ⟨(List.suffix_cons _ log).trans (List.suffix_cons _ _), fun txn bound => ?_,
        fun governed => ⟨nofun, governed⟩⟩
      exact if_neg bound.ne'
    dsimp only [Answers.database]
    rw [tenant] at grows
    cases a.sends _ with
    | ok result =>
      refine ⟨grows, ?_⟩
      rintro _ ⟨⟩
      exact ⟨rfl, log.length, Nat.lt_add_of_pos_right Nat.two_pos, rfl, if_pos rfl⟩
    | error error =>
      exact ⟨IsTrans.trans log _ _ grows (grows_ended log.length _), nofun⟩

/-- A new transaction of a tenant is set to it before the program runs. -/
theorem withTx_grows {program : Context → Stateful Log Error α} {log : Log}
    (placed : Placed scope ctx log)
    (body : ∀ txCtx after, Grows log after → Placed scope.enter txCtx after →
      Grows after (program txCtx after).2) :
    Grows log (withTx a.database ctx program log).2 := by
  have conn := placed.conn
  cases opens : scope.opened with
  | some opened =>
    rw [opens] at conn
    obtain ⟨txn, bound, same, set⟩ := conn
    rw [withTx, same]
    refine body ctx log (Std.Refl.refl log) ⟨placed.tenant, ?_⟩
    rw [Scope.enter, opens]
    exact ⟨txn, bound, same, set⟩
  | none =>
    rw [opens] at conn
    rw [withTx, conn]
    obtain ⟨grows, opened⟩ := openTx_grows a log placed.tenant
    dsimp only
    rcases runs : openTx a.database ctx log with ⟨error | txn, after⟩
    · rw [Stateful.bind_error runs]
      rwa [runs] at grows
    · rw [Stateful.bind_ok runs]
      rw [runs] at grows opened
      have entered : Placed scope.enter { ctx with conn := some txn } after := by
        rw [Scope.enter, opens]
        exact opened txn rfl
      refine IsTrans.trans log after _ grows ?_
      exact IsTrans.trans after _ _ (body _ after grows entered)
        (closeTx_ends a txn (grows_ended txn) _ after)

end Transactions

section Scripts

variable {base : Scope} {ctx : Context} {scopes : List Scope} {around : List Context} {log : Log}

theorem getD_of_forall₂ {α β : Type} {related : α → β → Prop} {first : α} {other : β}
    {items : List α} {others : List β} (each : List.Forall₂ related items others)
    (outer : related first other) (index : Nat) :
    related (items.getD index first) (others.getD index other) := by
  induction each generalizing index with
  | nil => exact outer
  | cons head tail ih =>
    cases index with
    | zero => exact head
    | succ index => exact ih index

structure Nested (base : Scope) (ctx : Context) (scopes : List Scope) (around : List Context)
    (log : Log) : Prop where
  outer : Placed base ctx log
  inner : List.Forall₂ (fun scope inner => Placed scope inner log) scopes around

theorem Nested.mono {after : Log} (nested : Nested base ctx scopes around log)
    (grows : Grows log after) : Nested base ctx scopes around after :=
  ⟨nested.outer.mono grows, nested.inner.imp fun _ _ placed => placed.mono grows⟩

theorem Nested.tenant (nested : Nested base ctx scopes around log) : ctx.tenant.isSome := by
  rw [nested.outer.tenant]
  rfl

theorem Nested.tenants (nested : Nested base ctx scopes around log) :
    ∀ c ∈ around, c.tenant.isSome := by
  obtain ⟨-, inner⟩ := nested
  induction inner with
  | nil => exact fun _ member => absurd member List.not_mem_nil
  | cons placed _ ih => exact List.forall_mem_cons.mpr ⟨by rw [placed.tenant]; rfl, ih⟩

theorem Nested.context (nested : Nested base ctx scopes around log) (ref : Ref) :
    Placed (ref.scope base scopes) (ref.context ctx around) log := by
  have placed := getD_of_forall₂ nested.inner nested.outer ref.up
  refine ⟨?_, placed.conn⟩
  rw [Ref.context, Ref.scope]
  dsimp only
  rw [placed.tenant]
  cases ref.tenant <;> rfl

theorem Op.run_grows (a : Answers) (es : EntitySchema) {scope : Scope} {op : Op}
    (placed : Placed scope ctx log) (safe : op.Scoped scope) :
    Grows log (op.run a.database es ctx log).2 := by
  by_cases bulk : ∃ inputs, op = .bulkCreate inputs
  · obtain ⟨inputs, rfl⟩ := bulk
    have creates : Grows log (Driver.bulkCreate a.database es ctx inputs log).2 := by
      unfold Driver.bulkCreate
      split
      · exact Std.Refl.refl log
      · rename_i some
        rcases safe with none | inside
        · exact absurd (List.isEmpty_iff.mpr none) some
        · rw [tenantFromContext, placed.tenant]
          refine withTx_grows a placed fun txCtx after _ entered => ?_
          have sends : SendsAlong a es (Along scope.enter txCtx) txCtx := sendsAlong a es
          exact insertAll_moves sends _ inputs after entered inside
    rw [Op.run, discard_apply]
    exact creates
  · have single : ∀ inputs, op ≠ .bulkCreate inputs := fun inputs same => bulk ⟨inputs, same⟩
    have inside : scope.Inside := by
      cases op with
      | bulkCreate inputs => exact absurd rfl (single inputs)
      | _ => exact safe
    exact Op.run_moves (sendsAlong a es) op single log placed inside

theorem proceed_grows (strict : Bool) {rest : Stateful Log Error Unit}
    (grows : Grows log (rest log).2) (result : Except Error Unit) :
    Grows log (proceed strict rest result log).2 := by
  cases result with
  | ok value => exact grows
  | error error =>
    cases strict with
    | true => exact Std.Refl.refl log
    | false => exact grows

/-- Scoped calls send every statement under the tenant of its context. -/
theorem Script.run_grows (a : Answers) {script : Script}
    (nested : Nested base ctx scopes around log) (safe : script.Scoped base scopes) :
    Grows log (script.run a.database ctx around log).2 := by
  induction script generalizing log scopes around with
  | done => exact Std.Refl.refl log
  | call ref es op strict rest ih =>
    rw [Script.run, Stateful.bind_ok (Stateful.outcome_apply _ _)]
    have grows := Op.run_grows a es (nested.context ref) safe.1
    exact IsTrans.trans log _ _ grows (proceed_grows _ (ih (nested.mono grows) safe.2) _)
  | withTx ref body strict rest ihBody ih =>
    rw [Script.run, Stateful.bind_ok (Stateful.outcome_apply _ _)]
    have grows := withTx_grows a (nested.context ref) fun txCtx after grown entered =>
      ihBody ⟨(nested.mono grown).outer, .cons entered (nested.mono grown).inner⟩ safe.1
    exact IsTrans.trans log _ _ grows (proceed_grows _ (ih (nested.mono grows) safe.2) _)

end Scripts

end ErpFinance.Driver
