import ErpFinance.Api.EntityService
import ErpFinance.Driver.PostgresSteps

/-!
# What the service does to the tables

A call of the entity service outside a transaction either fails and leaves the
tables, or has passed the stages before the write and written what they
returned.
-/

namespace ErpFinance.Api

open Compiler Domain Driver Library ErpFinance.Runtime

namespace EntityService

variable {e : Engine} {s : EntityService} {ctx : Context} {id : Uuid} {data : Object}
  {actor : Option Actor} {current record : EntityRecord} {store after : Store} {error : Error}

/-- The write of an update and what follows it. -/
theorem updateBody_savedAs (patched : EntityRecord) (txCtx : Context) :
    Stateful.Moves SavedAs (do
      let updated ← Driver.update e.database s.schema txCtx id { data := patched.data }
      Stateful.lift
        (s.pipeline.runAuditRecord txCtx updated (some current.data) (some updated.data))
      Stateful.lift (s.pipeline.runAfterUpdate txCtx updated current)) :=
  (update_along savedAs _).bind fun _ =>
    (Stateful.Moves.lift _).bind fun _ => Stateful.Moves.lift _

theorem finishUpdate_error (alone : ctx.conn = none)
    (runs : finishUpdate e.database s ctx id data actor current store = (.error error, after)) :
    after.tables = store.tables := by
  rcases Stateful.bind_eq_error_iff.mp runs with lifted | ⟨patched, middle, lifted, fails⟩
  · rw [(Stateful.lift_eq_iff.mp lifted).2]
  · obtain ⟨-, rfl⟩ := Stateful.lift_eq_iff.mp lifted
    obtain ⟨outcome, last, -, ends⟩ := withTx_cases alone (updateBody_savedAs patched) middle
    rw [ends] at fails
    cases outcome with
    | error error =>
      cases fails
      rfl
    | ok value => cases fails

/-- An update that succeeds writes what the stages before the write return. -/
theorem finishUpdate_ok (alone : ctx.conn = none) (plain : Plain s.schema)
    (runs : finishUpdate e.database s ctx id data actor current store = (.ok record, after)) :
    ∃ patched, s.pipeline.runBeforeUpdate ctx s.schema.qualifiedName data actor current =
        .ok patched ∧
      ((s.schema.isSystem = true → ∀ key ∈ patched.data, unquoted key = true) →
        Updated e s.schema id { data := patched.data } store.tables after.tables) := by
  obtain ⟨patched, middle, lifted, succeeds⟩ := Stateful.bind_eq_ok_iff.mp runs
  obtain ⟨stages, rfl⟩ := Stateful.lift_eq_iff.mp lifted
  refine ⟨patched, stages, fun keys => ?_⟩
  obtain ⟨outcome, last, body, ends⟩ := withTx_cases alone (updateBody_savedAs patched) middle
  rw [ends] at succeeds
  cases outcome with
  | error error => cases succeeds
  | ok value =>
    cases succeeds
    obtain ⟨updated, third, updates, rest⟩ := Stateful.bind_eq_ok_iff.mp body
    obtain ⟨written, -⟩ := Driver.update_ok plain keys updates
    obtain ⟨_, fourth, audits, hooks⟩ := Stateful.bind_eq_ok_iff.mp rest
    obtain ⟨-, rfl⟩ := Stateful.lift_eq_iff.mp audits
    obtain ⟨-, rfl⟩ := Stateful.lift_eq_iff.mp hooks
    exact written

theorem update_error (alone : ctx.conn = none) (plain : Plain s.schema)
    (runs : update e.database s ctx id data actor store = (.error error, after)) :
    after.tables = store.tables := by
  rcases Stateful.bind_eq_error_iff.mp runs with reads | ⟨current, middle, reads, fails⟩
  · rw [(getRow_cases plain reads).1]
    rfl
  · rw [finishUpdate_error alone fails, (getRow_ok plain reads).1]

/-- An update that succeeds has read a row and writes what the stages make of it. -/
theorem update_ok (alone : ctx.conn = none) (plain : Plain s.schema)
    (runs : update e.database s ctx id data actor store = (.ok record, after)) :
    ∃ row ∈ store.tables s.schema.tableName, row.id = id ∧
      ∃ patched, s.pipeline.runBeforeUpdate ctx s.schema.qualifiedName data actor
          (scan s.schema row.shown) = .ok patched ∧
        ((s.schema.isSystem = true → ∀ key ∈ patched.data, unquoted key = true) →
          Updated e s.schema id { data := patched.data } store.tables after.tables) := by
  obtain ⟨current, middle, reads, succeeds⟩ := Stateful.bind_eq_ok_iff.mp runs
  obtain ⟨same, row, member, isRow, rfl⟩ := getRow_ok plain reads
  obtain ⟨patched, stages, updated⟩ := finishUpdate_ok alone plain succeeds
  rw [same] at updated
  exact ⟨row, member, isRow, patched, stages, updated⟩

/-- The write of a creation and what follows it. -/
theorem createBody_savedAs (created : EntityRecord) (txCtx : Context) :
    Stateful.Moves SavedAs (do
      let created ← Driver.create e.database s.schema txCtx
        { data := created.data, customFields := created.customFields }
      Stateful.lift (s.pipeline.runAuditRecord txCtx created none (some created.data))
      Stateful.lift (s.pipeline.runAfterCreate txCtx created)) :=
  (create_along savedAs _).bind fun _ =>
    (Stateful.Moves.lift _).bind fun _ => Stateful.Moves.lift _

/-- A creation that fails leaves the tables. -/
theorem create_error (alone : ctx.conn = none)
    (runs : create e.database s ctx data actor store = (.error error, after)) :
    after.tables = store.tables := by
  rcases Stateful.bind_eq_error_iff.mp runs with lifted | ⟨created, middle, lifted, fails⟩
  · rw [(Stateful.lift_eq_iff.mp lifted).2]
  · obtain ⟨-, rfl⟩ := Stateful.lift_eq_iff.mp lifted
    obtain ⟨outcome, last, -, ends⟩ := withTx_cases alone (createBody_savedAs created) middle
    rw [ends] at fails
    cases outcome with
    | error error =>
      cases fails
      rfl
    | ok value => cases fails

/-- A creation that succeeds inserts a row of what the stages before the write return. -/
theorem create_ok (alone : ctx.conn = none) (plain : Plain s.schema)
    (runs : create e.database s ctx data actor store = (.ok record, after)) :
    ∃ created, s.pipeline.runBeforeCreate ctx s.schema.qualifiedName data actor = .ok created ∧
      ∃ row, Created e s.schema ctx.tenant
        { data := created.data, customFields := created.customFields }
        store.tables after.tables row ∧
        s.pipeline.runAfterCreate { ctx with conn := some 0 } (scan s.schema row.shown) =
          .ok record := by
  obtain ⟨created, middle, lifted, succeeds⟩ := Stateful.bind_eq_ok_iff.mp runs
  obtain ⟨stages, rfl⟩ := Stateful.lift_eq_iff.mp lifted
  refine ⟨created, stages, ?_⟩
  obtain ⟨outcome, last, body, ends⟩ := withTx_cases alone (createBody_savedAs created) middle
  rw [ends] at succeeds
  cases outcome with
  | error error => cases succeeds
  | ok value =>
    cases succeeds
    obtain ⟨inserted, third, inserts, rest⟩ := Stateful.bind_eq_ok_iff.mp body
    obtain ⟨row, written, rfl⟩ := Driver.create_ok plain inserts
    obtain ⟨_, fourth, audits, hooks⟩ := Stateful.bind_eq_ok_iff.mp rest
    obtain ⟨-, rfl⟩ := Stateful.lift_eq_iff.mp audits
    obtain ⟨hooked, rfl⟩ := Stateful.lift_eq_iff.mp hooks
    exact ⟨row, written, hooked⟩

/-- A creation that succeeds has named no column twice. -/
theorem create_distinct (alone : ctx.conn = none) (plain : Plain s.schema)
    (runs : create e.database s ctx data actor store = (.ok record, after)) :
    ∃ id tenantID now input custom, ((if s.schema.isSystem then
      systemValues s.schema id tenantID now input custom
        else customValues id tenantID now input).map Prod.fst).Nodup := by
  obtain ⟨created, middle, -, succeeds⟩ := Stateful.bind_eq_ok_iff.mp runs
  obtain ⟨outcome, last, body, ends⟩ := withTx_cases alone (createBody_savedAs created) middle
  rw [ends] at succeeds
  cases outcome with
  | error error => cases succeeds
  | ok value =>
    obtain ⟨_, _, inserts, _⟩ := Stateful.bind_eq_ok_iff.mp body
    obtain ⟨id, tenantID, now, distinct⟩ := Driver.create_distinct plain inserts
    exact ⟨id, tenantID, now, _, _, distinct⟩

end EntityService

end ErpFinance.Api
