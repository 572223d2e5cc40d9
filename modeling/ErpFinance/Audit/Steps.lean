import ErpFinance.Audit.Service

/-!
# What audited mutations do

The steps of a mutation at a database at which a failed statement fails its
transaction.
-/

namespace ErpFinance.Audit

open Api Compiler Domain Driver Library ErpFinance.Runtime

section Sends

variable {e : Engine} {es : EntitySchema} {ctx : Context} {operation : String} {id : Uuid}
  {forUpdate : Bool} {statement : Statement} {state after : TxState Driver.Store}
  {result : Result}

theorem lift_bind {σ α β : Type} (program : Stateful σ Error α) (rest : α → Stateful σ Error β) :
    TxState.lift (program >>= rest) =
      TxState.lift program >>= fun value => TxState.lift (rest value) := by
  funext state
  rcases runs : program state.inner with ⟨error | value, next⟩
  · have fails : TxState.lift program state = (.error error, { state with inner := next }) := by
      rw [TxState.lift, runs]
    rw [Stateful.bind_error fails, TxState.lift, Stateful.bind_error runs]
  · have succeeds : TxState.lift program state = (.ok value, { state with inner := next }) := by
      rw [TxState.lift, runs]
    rw [Stateful.bind_ok succeeds, TxState.lift, Stateful.bind_ok runs]
    rfl

/-- Outside a transaction nothing is rejected. -/
theorem send_alone (alone : ctx.conn = none) :
    send e.database.strict es ctx operation statement =
      TxState.lift (send e.database es ctx operation statement) := by
  funext state
  rw [send, send, Stateful.mapError, TxState.lift, Stateful.mapError, Database.strict]
  dsimp only
  rw [alone]
  simp only [Option.isSome_none, Bool.false_and, Bool.false_eq_true, if_false, Bool.or_false]
  rcases e.database.send ctx statement state.inner with ⟨error | result, inner⟩
  · rfl
  · rfl

theorem getRow_alone (alone : ctx.conn = none) :
    getRow e.database.strict es ctx operation id forUpdate =
      TxState.lift (getRow e.database es ctx operation id forUpdate) := by
  rw [getRow, getRow, lift_bind, send_alone alone]
  refine congrArg _ (funext fun result => ?_)
  cases result.rows with
  | nil => rfl
  | cons row rest => rfl

/-- A record that is read outside a transaction is one of its table, which stays. -/
theorem get_alone (alone : ctx.conn = none) (plain : Plain es) {record : EntityRecord}
    (runs : Driver.get e.database.strict es ctx id {} state = (.ok record, after)) :
    after.inner.tables = state.inner.tables ∧
      ∃ row ∈ state.inner.tables es.tableName, row.id = id ∧ record = scan es row.shown := by
  rw [Driver.get, getRow_alone alone, TxState.lift] at runs
  rcases inside : getRow e.database es ctx "Get" id false state.inner with ⟨outcome, inner⟩
  rw [inside] at runs
  obtain ⟨rfl, rfl⟩ := Prod.mk.inj runs
  exact getRow_ok plain inside

/-- A statement that succeeds has been executed in a transaction that has not failed. -/
theorem execute_of_strict {txn : Nat} (joined : ctx.conn = some txn)
    (sends : e.database.strict.send ctx statement state = (.ok result, after)) :
    state.aborted = false ∧
      ∃ tables, e.execute state.inner.tables statement = .ok (result, tables) ∧
        after = { inner := { state.inner.log statement with tables := tables } } := by
  rw [Database.strict] at sends
  dsimp only at sends
  rw [joined, Option.isSome_some, Bool.true_and] at sends
  split_ifs at sends with aborted
  · cases sends
  · rw [Bool.not_eq_true] at aborted
    refine ⟨aborted, ?_⟩
    rw [Engine.database] at sends
    dsimp only at sends
    cases executes : e.execute state.inner.tables statement with
    | error error =>
      rw [executes] at sends
      cases sends
    | ok answered =>
      rw [executes] at sends
      cases sends
      exact ⟨answered.2, rfl, by rw [aborted]⟩

/-- A statement that fails leaves the tables and fails its transaction. -/
theorem aborted_of_strict {txn : Nat} {error : Error} (joined : ctx.conn = some txn)
    (sends : e.database.strict.send ctx statement state = (.error error, after)) :
    after.aborted = true := by
  rw [Database.strict] at sends
  dsimp only at sends
  rw [joined, Option.isSome_some, Bool.true_and, Bool.or_true] at sends
  split_ifs at sends with aborted
  · cases sends
    exact aborted
  · split at sends
    · cases sends
    · cases sends
      rfl

end Sends

section Audit

variable {e : Engine} {w : TransactionalWriter} {registry : RuntimeRegistry} {ctx : Context}
  {record : AuditRecord} {state after : TxState Driver.Store} {request : RequestContext}
  {handed : Handed}

variable {σ : Type}

variable {d : Database σ}

/-- The draw of an identifier or an instant that a record may need. -/
theorem draw_apply (test : Prop) [Decidable test] (value : Nat) (state : TxState Driver.Store)
    (draw : Stateful Driver.Store Error Nat) {of : Nat → Nat}
    (draws : ∀ store,
      draw store = (.ok (of store.drawn), { store with drawn := store.drawn + 1 })) :
    ∃ id drawn, (if test then TxState.lift draw else pure value) state =
      (.ok id, { state with inner := { state.inner with drawn := drawn } }) := by
  by_cases missing : test
  · refine ⟨of state.inner.drawn, state.inner.drawn + 1, ?_⟩
    rw [if_pos missing, TxState.lift, draws]
  · exact ⟨value, state.inner.drawn, by rw [if_neg missing]; rfl⟩

/-- Before its parts are marshalled a record has drawn what it lacks. -/
theorem store_eq (record : AuditRecord) (state : TxState Driver.Store) :
    ∃ id createdAt drawn, w.store e.database.strict ctx record state =
      (Stateful.lift (w.marshal (w.enrich record)) >>= fun _ =>
        e.database.strict.send ctx (.insert auditTable
          (insertArgs { w.enrich record with id := id, createdAt := createdAt })) >>= fun _ =>
        pure ⟨⟩) { state with inner := { state.inner with drawn := drawn } } := by
  obtain ⟨id, drawn, draws⟩ := draw_apply (record.id = Uuid.Nil) record.id state
    e.database.newUUID fun _ => rfl
  obtain ⟨createdAt, clocked, clocks⟩ := draw_apply (record.createdAt = 0) record.createdAt
    { state with inner := { state.inner with drawn := drawn } } e.database.now fun _ => rfl
  exact ⟨id, createdAt, clocked, (Stateful.bind_ok draws).trans (Stateful.bind_ok clocks)⟩

/-- A record that is refused before its statement leaves the tables and the transaction. -/
theorem write_unsent (flag : w.flagEnabled = true) (unsent : w.sends record = false)
    (state : TxState Driver.Store) :
    ∃ error drawn, w.write e.database.strict ctx record state =
      (.error error, { state with inner := { state.inner with drawn := drawn } }) := by
  rw [TransactionalWriter.write, if_pos flag]
  cases checks : record.validate with
  | error error => exact ⟨error, state.inner.drawn, Stateful.bind_error (Stateful.lift_eq_iff.mpr
      ⟨rfl, rfl⟩)⟩
  | ok _ =>
    obtain ⟨id, createdAt, drawn, stores⟩ := @store_eq e w ctx record state
    cases parts : w.marshal (w.enrich record) with
    | error error =>
      refine ⟨error, drawn, (Stateful.bind_ok (Stateful.lift_eq_iff.mpr ⟨rfl, rfl⟩)).trans
        (stores.trans ?_)⟩
      rw [parts]
      rfl
    | ok _ =>
      rw [TransactionalWriter.sends, checks, parts] at unsent
      cases unsent

/-- The insertion of a record that is sent fails its transaction or is executed. -/
theorem write_sent {txn : Nat} (joined : ctx.conn = some txn) (flag : w.flagEnabled = true)
    (sent : w.sends record = true) (state : TxState Driver.Store) :
    (∃ error after, w.write e.database.strict ctx record state = (.error error, after) ∧
      after.aborted = true) ∨
    ∃ id createdAt result after,
      w.write e.database.strict ctx record state = (.ok ⟨⟩, after) ∧ after.aborted = false ∧
      e.execute state.inner.tables (.insert auditTable
        (insertArgs { w.enrich record with id := id, createdAt := createdAt })) =
          .ok (result, after.inner.tables) := by
  rw [TransactionalWriter.sends, Bool.and_eq_true] at sent
  obtain ⟨⟨⟩, accepted⟩ := exists_of_isOk sent.1
  obtain ⟨⟨⟩, parts⟩ := exists_of_isOk sent.2
  obtain ⟨id, createdAt, drawn, stores⟩ := @store_eq e w ctx record state
  rw [parts] at stores
  have writes : ∀ outcome after, e.database.strict.send ctx (.insert auditTable
      (insertArgs { w.enrich record with id := id, createdAt := createdAt }))
        { state with inner := { state.inner with drawn := drawn } } = (outcome, after) →
      w.write e.database.strict ctx record state = (outcome.map fun _ => ⟨⟩, after) := by
    intro outcome after sends
    rw [TransactionalWriter.write, if_pos flag]
    refine (Stateful.bind_ok (Stateful.lift_eq_iff.mpr ⟨accepted, rfl⟩)).trans (stores.trans
      ((Stateful.bind_ok (Stateful.lift_eq_iff.mpr ⟨rfl, rfl⟩)).trans ?_))
    cases outcome with
    | error error => exact Stateful.bind_error sends
    | ok result => exact Stateful.bind_ok sends
  rcases sends : e.database.strict.send ctx (.insert auditTable
    (insertArgs { w.enrich record with id := id, createdAt := createdAt }))
      { state with inner := { state.inner with drawn := drawn } } with ⟨error | result, after⟩
  · exact .inl ⟨error, after, writes _ _ sends, aborted_of_strict joined sends⟩
  · obtain ⟨-, tables, executes, rfl⟩ := execute_of_strict joined sends
    exact .inr ⟨id, createdAt, result, _, writes _ _ sends, rfl, executes⟩

theorem write_along {along : σ → σ → Prop} [Std.Refl along] [IsTrans σ along]
    (moves : d.Along along) :
    Stateful.Moves along (w.write d ctx record) := by
  refine Stateful.Moves.ite ?_ (Stateful.Moves.pure _)
  refine (Stateful.Moves.lift _).bind fun _ => ?_
  have draws : Stateful.Moves along (TransactionalWriter.assignID d record) :=
    Stateful.Moves.ite moves.newUUID (Stateful.Moves.pure _)
  have clocks : Stateful.Moves along (TransactionalWriter.assignTime d record) :=
    Stateful.Moves.ite moves.now (Stateful.Moves.pure _)
  exact draws.bind fun id => clocks.bind fun createdAt =>
    (Stateful.Moves.lift _).bind fun _ =>
      (moves.send _ _).bind fun _ => Stateful.Moves.pure _

theorem runAuditRecord_along {along : σ → σ → Prop} [Std.Refl along] [IsTrans σ along]
    (moves : d.Along along) :
    Stateful.Moves along (runAuditRecord w registry d request ctx handed) := by
  refine Stateful.Moves.ite ?_ (Stateful.Moves.pure _)
  refine (write_along moves).outcome.bind fun outcome => ?_
  cases outcome with
  | ok _ => exact Stateful.Moves.pure _
  | error error => exact Stateful.Moves.ite (Stateful.Moves.fail _) (Stateful.Moves.pure _)

/-- What the policy makes of the outcome of a write. -/
def judged (category : Option EventCategory) : Except Error Unit → Except Error Unit
  | .ok _ => .ok ⟨⟩
  | .error error => if propagates category then .error error else .ok ⟨⟩

theorem apply_eq {category : Option EventCategory} {write : Stateful σ Error Unit} {state after : σ}
    {outcome : Except Error Unit} (writes : write state = (outcome, after)) :
    apply category write state = (judged category outcome, after) := by
  rw [apply, Stateful.bind_ok (Stateful.outcome_apply _ _), writes]
  cases outcome with
  | ok _ => rfl
  | error error =>
    rw [judged]
    dsimp only
    split_ifs
    · rfl
    · rfl

/-- A record that is refused before its statement is left to the policy. -/
theorem runAuditRecord_unsent (flag : w.flagEnabled = true)
    (watches : watched w registry handed.record.entityName = true)
    (unsent : w.sends (auditRecordOf w request handed) = false) (state : TxState Driver.Store) :
    ∃ error drawn, runAuditRecord w registry e.database.strict request ctx handed state =
      (judged (w.category handed.record.entityName) (.error error),
        { state with inner := { state.inner with drawn := drawn } }) := by
  obtain ⟨error, drawn, refused⟩ := write_unsent flag unsent state
  rw [runAuditRecord, if_pos watches]
  exact ⟨error, drawn, apply_eq refused⟩

/-- A record that is sent is inserted, or fails the transaction. -/
theorem runAuditRecord_sent {txn : Nat} (joined : ctx.conn = some txn)
    (flag : w.flagEnabled = true) (watches : watched w registry handed.record.entityName = true)
    (sent : w.sends (auditRecordOf w request handed) = true) (state : TxState Driver.Store) :
    (∃ error after, w.write e.database.strict ctx (auditRecordOf w request handed) state =
        (.error error, after) ∧
      runAuditRecord w registry e.database.strict request ctx handed state =
        (judged (w.category handed.record.entityName) (.error error), after) ∧
      after.aborted = true) ∨
    ∃ id createdAt result after,
      runAuditRecord w registry e.database.strict request ctx handed state = (.ok ⟨⟩, after) ∧
      w.write e.database.strict ctx (auditRecordOf w request handed) state = (.ok ⟨⟩, after) ∧
      after.aborted = false ∧
      e.execute state.inner.tables (.insert auditTable
        (insertArgs { w.enrich (auditRecordOf w request handed) with
          id := id, createdAt := createdAt })) = .ok (result, after.inner.tables) := by
  rw [runAuditRecord, if_pos watches]
  rcases write_sent joined flag sent state with
    ⟨error, after, writes, aborted⟩ | ⟨id, createdAt, result, after, writes, active, executes⟩
  · exact .inl ⟨error, after, writes, apply_eq writes, aborted⟩
  · exact .inr ⟨id, createdAt, result, after, apply_eq writes, writes, active, executes⟩

/-- A record that names nobody is not sent. -/
theorem sends_of_nobody (nobody : record.actor = none) (unnamed : record.systemActor = none) :
    w.sends record = false := by
  have refused := AuditRecord.validate_of_nobody nobody unnamed
  cases checks : record.validate with
  | ok _ => exact absurd checks refused
  | error error =>
    rw [TransactionalWriter.sends, checks]
    rfl

end Audit

section Mutations

variable {s : EntityService} {ctx : Context} {actor : Option Actor} {change : Change}

/-- What is handed over by the write of a mutation, as far as the audit reads it. -/
inductive Hands (s : EntityService) (ctx : Context) (tables : Tables) : Change → Handed → Prop where
  | create {data : Object} {row : Row} :
      Hands s ctx tables (.create data)
        ⟨scan s.schema row, none, some (scan s.schema row).data⟩
  | update {id : Uuid} {data before : Object} {row : Row} :
      Hands s ctx tables (.update id data)
        ⟨scan s.schema row, some before, some (scan s.schema row).data⟩
  | delete {id : Uuid} {row : Row} {current : EntityRecord}
      (member : row ∈ tables s.schema.tableName) (isRow : row.id = id)
      (hooked : s.pipeline.runBeforeDelete ctx (scan s.schema row.shown) = .ok current) :
      Hands s ctx tables (.delete id) ⟨current, some current.data, none⟩

/-- A mutation that is prepared leaves the tables, moves along what the database moves along and
hands over what the audit expects. -/
theorem prepare_ok {e : Engine} {state ready : TxState Driver.Store}
    {m : Mutation (TxState Driver.Store)} (alone : ctx.conn = none) (plain : Plain s.schema)
    (prepares : prepare e.database.strict s ctx actor change state = (.ok m, ready)) :
    ready.inner.tables = state.inner.tables ∧
      (∀ txCtx, Stateful.Moves StrictlySaved (m.write txCtx)) ∧
      ∀ txCtx before handed after, m.write txCtx before = (.ok handed, after) →
        Hands s ctx state.inner.tables change handed := by
  cases change with
  | create data =>
    obtain ⟨record, middle, stages, rest⟩ := Stateful.bind_eq_ok_iff.mp prepares
    obtain ⟨-, rfl⟩ := Stateful.lift_eq_iff.mp stages
    cases rest
    refine ⟨rfl, fun txCtx => (create_along strictlySaved _).bind fun _ => Stateful.Moves.pure _,
      fun txCtx before handed after writes => ?_⟩
    obtain ⟨created, middle, creates, rest⟩ := Stateful.bind_eq_ok_iff.mp writes
    obtain ⟨row, rfl⟩ := create_scan creates
    cases rest
    exact .create
  | update id data =>
    obtain ⟨current, middle, reads, rest⟩ := Stateful.bind_eq_ok_iff.mp prepares
    obtain ⟨same, -⟩ := get_alone alone plain reads
    obtain ⟨patched, last, stages, built⟩ := Stateful.bind_eq_ok_iff.mp rest
    obtain ⟨-, rfl⟩ := Stateful.lift_eq_iff.mp stages
    cases built
    refine ⟨same, fun txCtx => (update_along strictlySaved _).bind fun _ => Stateful.Moves.pure _,
      fun txCtx before handed after writes => ?_⟩
    obtain ⟨updated, middle, updates, rest⟩ := Stateful.bind_eq_ok_iff.mp writes
    obtain ⟨row, rfl⟩ := update_scan updates
    cases rest
    exact .update
  | delete id =>
    obtain ⟨current, middle, reads, rest⟩ := Stateful.bind_eq_ok_iff.mp prepares
    obtain ⟨same, row, member, isRow, rfl⟩ := get_alone alone plain reads
    obtain ⟨hooked, last, stages, built⟩ := Stateful.bind_eq_ok_iff.mp rest
    obtain ⟨runs, rfl⟩ := Stateful.lift_eq_iff.mp stages
    cases built
    refine ⟨same, fun txCtx => (delete_along strictlySaved).bind fun _ => Stateful.Moves.pure _,
      fun txCtx before handed after writes => ?_⟩
    obtain ⟨_, middle, deletes, rest⟩ := Stateful.bind_eq_ok_iff.mp writes
    cases rest
    exact .delete member isRow runs

theorem Hands.nobody {tables : Tables} {handed : Handed} (hands : Hands s ctx tables change handed)
    (notDelete : ∀ id, change ≠ .delete id) :
    handed.record.actor = none ∧ handed.record.entityName = s.schema.tableName := by
  cases hands with
  | create => exact ⟨scan_actor _ _, scan_entityName _ _⟩
  | update => exact ⟨scan_actor _ _, scan_entityName _ _⟩
  | delete _ _ _ => exact absurd rfl (notDelete _)

theorem prepare_error {e : Engine} {state ready : TxState Driver.Store} {error : Error}
    (alone : ctx.conn = none) (plain : Plain s.schema)
    (prepares : prepare e.database.strict s ctx actor change state = (.error error, ready)) :
    ready.inner.tables = state.inner.tables := by
  have gets : ∀ id outcome middle, Driver.get e.database.strict s.schema ctx id {} state =
      (outcome, middle) → middle.inner.tables = state.inner.tables := by
    intro id outcome middle runs
    rw [Driver.get, getRow_alone alone, TxState.lift] at runs
    rcases inside : getRow e.database s.schema ctx "Get" id false state.inner with ⟨result, inner⟩
    rw [inside] at runs
    obtain ⟨-, rfl⟩ := Prod.mk.inj runs
    rw [(getRow_cases plain inside).1]
    rfl
  cases change with
  | create data =>
    rcases Stateful.bind_eq_error_iff.mp prepares with stages | ⟨record, middle, -, built⟩
    · rw [(Stateful.lift_eq_iff.mp stages).2]
    · cases built
  | update id data =>
    rcases Stateful.bind_eq_error_iff.mp prepares with reads | ⟨current, middle, reads, rest⟩
    · exact gets id _ _ reads
    · rcases Stateful.bind_eq_error_iff.mp rest with stages | ⟨patched, last, -, built⟩
      · rw [(Stateful.lift_eq_iff.mp stages).2]
        exact gets id _ _ reads
      · cases built
  | delete id =>
    rcases Stateful.bind_eq_error_iff.mp prepares with reads | ⟨current, middle, reads, rest⟩
    · exact gets id _ _ reads
    · rcases Stateful.bind_eq_error_iff.mp rest with stages | ⟨hooked, last, -, built⟩
      · rw [(Stateful.lift_eq_iff.mp stages).2]
        exact gets id _ _ reads
      · cases built

/-- The steps of a mutation that is committed. -/
structure Goes (e : Engine) (s : EntityService) (ctx : Context) (actor : Option Actor)
    (change : Change) (audit : Context → Handed → Stateful (TxState Driver.Store) Error Unit)
    (state ready written audited : TxState Driver.Store) (m : Mutation (TxState Driver.Store))
    (handed : Handed) (value : EntityRecord) : Prop where
  prepares : prepare e.database.strict s ctx actor change state = (.ok m, ready)
  writes : m.write { ctx with conn := some 0 } (ready.opened ctx) = (.ok handed, written)
  audits : audit { ctx with conn := some 0 } handed written = (.ok ⟨⟩, audited)
  finishes : m.finish { ctx with conn := some 0 } handed.record = .ok value
  active : audited.aborted = false

/-- A mutation that has been prepared ends as its transaction does. -/
theorem perform_closed {e : Engine} {state ready : TxState Driver.Store}
    {audit : Context → Handed → Stateful (TxState Driver.Store) Error Unit}
    {m : Mutation (TxState Driver.Store)} (alone : ctx.conn = none) (plain : Plain s.schema)
    (along : ∀ txCtx handed, Stateful.Moves StrictlySaved (audit txCtx handed))
    (prepares : prepare e.database.strict s ctx actor change state = (.ok m, ready)) :
    perform e.database.strict s ctx audit actor change state =
      ready.closed (body audit m { ctx with conn := some 0 } (ready.opened ctx)).1
        (body audit m { ctx with conn := some 0 } (ready.opened ctx)).2 := by
  obtain ⟨-, moves, -⟩ := prepare_ok alone plain prepares
  rw [perform, Stateful.bind_ok prepares]
  refine withTx_strict alone (fun txCtx => ?_) ready
  exact (moves txCtx).bind fun _ => (along txCtx _).bind fun _ => Stateful.Moves.lift _

/-- A mutation fails and leaves the tables, or all of its steps go through. -/
theorem perform_cases {e : Engine}
    {audit : Context → Handed → Stateful (TxState Driver.Store) Error Unit}
    (alone : ctx.conn = none) (plain : Plain s.schema)
    (along : ∀ txCtx handed, Stateful.Moves StrictlySaved (audit txCtx handed))
    (state : TxState Driver.Store) :
    (∃ error after, perform e.database.strict s ctx audit actor change state =
        (.error error, after) ∧ after.inner.tables = state.inner.tables) ∨
      ∃ value ready written audited m handed,
        perform e.database.strict s ctx audit actor change state =
          (.ok value, { inner := { audited.inner with saved := none } }) ∧
        Goes e s ctx actor change audit state ready written audited m handed value := by
  rcases prepares : prepare e.database.strict s ctx actor change state with ⟨error | m, ready⟩
  · exact .inl ⟨error, ready, Stateful.bind_error prepares, prepare_error alone plain prepares⟩
  obtain ⟨same, -, -⟩ := prepare_ok alone plain prepares
  have performs := perform_closed alone plain along prepares
  rcases runs : body audit m { ctx with conn := some 0 } (ready.opened ctx) with
    ⟨error | value, last⟩
  · rw [runs] at performs
    exact .inl ⟨error, _, performs, same⟩
  · rw [runs] at performs
    obtain ⟨handed, written, writes, rest⟩ := Stateful.bind_eq_ok_iff.mp runs
    obtain ⟨_, audited, audits, lifted⟩ := Stateful.bind_eq_ok_iff.mp rest
    obtain ⟨finishes, rfl⟩ := Stateful.lift_eq_iff.mp lifted
    obtain ⟨inner, aborted⟩ := last
    cases aborted with
    | true => exact .inl ⟨_, _, performs, same⟩
    | false =>
      exact .inr ⟨value, ready, written, _, m, handed, performs,
        ⟨prepares, writes, audits, finishes, rfl⟩⟩

end Mutations

end ErpFinance.Audit
