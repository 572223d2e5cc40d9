import ErpFinance.Driver.PostgresSteps

/-!
# Transactions that have failed

Once a statement of a transaction has failed, the database rejects every later
one, and a commit rolls the transaction back.
-/

namespace ErpFinance.Driver

open Compiler Domain Library ErpFinance.Runtime

/-- A database and whether the open transaction has failed. -/
structure TxState (σ : Type) where
  inner : σ
  aborted : Bool := false

def abortedError : Error :=
  .other "current transaction is aborted, commands ignored until end of transaction block"

def commitRollbackError : Error := .other "commit unexpectedly resulted in rollback"

section Strict

variable {σ : Type} (d : Database σ)

/-- What does not touch the transaction. -/
def TxState.lift {α : Type} (program : Stateful σ Error α) : Stateful (TxState σ) Error α :=
  fun state => ((program state.inner).1, { state with inner := (program state.inner).2 })

/-- A database at which a failed statement fails its transaction. -/
def Database.strict : Database (TxState σ) where
  begin state := ((d.begin state.inner).1, { inner := (d.begin state.inner).2 })
  send ctx statement state :=
    if ctx.conn.isSome && state.aborted then (.error abortedError, state)
    else
      match d.send ctx statement state.inner with
      | (.ok result, inner) => (.ok result, { state with inner := inner })
      | (.error error, inner) =>
        (.error error, { inner := inner, aborted := state.aborted || ctx.conn.isSome })
  commit txn state :=
    if state.aborted then (.error commitRollbackError, { inner := (d.rollback txn state.inner).2 })
    else ((d.commit txn state.inner).1, { inner := (d.commit txn state.inner).2 })
  rollback txn state :=
    ((d.rollback txn state.inner).1, { inner := (d.rollback txn state.inner).2 })
  newUUID := TxState.lift d.newUUID
  now := TxState.lift d.now

end Strict

/-! ## A strict database of tables -/

section Engine

variable {e : Engine} {es : EntitySchema} {ctx : Context} {statement : Statement}

/-- What a program inside a transaction leaves alone. -/
def StrictlySaved (before after : TxState Store) : Prop := after.inner.saved = before.inner.saved

instance : Std.Refl StrictlySaved := ⟨fun _ => rfl⟩

instance : IsTrans (TxState Store) StrictlySaved :=
  ⟨fun _ _ _ first second => second.trans first⟩

theorem strictlySaved : e.database.strict.Along StrictlySaved where
  send ctx statement state := by
    have saved : (e.database.send ctx statement state.inner).2.saved = state.inner.saved :=
      savedAs.send ctx statement state.inner
    rw [Database.strict]
    dsimp only
    split_ifs
    · rfl
    · rcases sends : e.database.send ctx statement state.inner with ⟨error | result, inner⟩
      all_goals
        rw [sends] at saved
        exact saved
  newUUID _ := rfl
  now _ := rfl

/-- The state when a transaction has been opened. -/
def TxState.opened (state : TxState Store) (ctx : Context) : TxState Store :=
  { inner := state.inner.opened ctx }

theorem openTx_strict (ctx : Context) (state : TxState Store) :
    openTx e.database.strict ctx state = (.ok 0, state.opened ctx) := by
  unfold openTx
  cases tenant : ctx.tenant with
  | none => rw [TxState.opened, Store.opened, tenant]; rfl
  | some tenantID => rw [TxState.opened, Store.opened, tenant]; rfl

/-- How a transaction ends: its effects stay when its program succeeds and no statement has failed,
and otherwise the tables are what they were. -/
def TxState.closed {α : Type} (before : TxState Store) (outcome : Except Error α)
    (last : TxState Store) : Except Error α × TxState Store :=
  match outcome, last.aborted with
  | .ok value, false => (.ok value, { inner := { last.inner with saved := none } })
  | .ok _, true =>
    (.error commitRollbackError,
      { inner := { last.inner with tables := before.inner.tables, saved := none } })
  | .error error, _ =>
    (.error error,
      { inner := { last.inner with tables := before.inner.tables, saved := none } })

theorem withTx_strict {α : Type} {program : Context → Stateful (TxState Store) Error α}
    (alone : ctx.conn = none) (moves : ∀ txCtx, Stateful.Moves StrictlySaved (program txCtx))
    (state : TxState Store) :
    withTx e.database.strict ctx program state =
      state.closed (program { ctx with conn := some 0 } (state.opened ctx)).1
        (program { ctx with conn := some 0 } (state.opened ctx)).2 := by
  have saved := moves { ctx with conn := some 0 } (state.opened ctx)
  rcases runs : program { ctx with conn := some 0 } (state.opened ctx) with ⟨outcome, last⟩
  rw [runs] at saved
  have rolled : last.inner.saved.getD last.inner.tables = state.inner.tables := by
    rw [show last.inner.saved = some state.inner.tables from saved]
    rfl
  rw [withTx, alone]
  dsimp only
  rw [Stateful.bind_ok (openTx_strict ctx state), closeTx,
    Stateful.bind_ok (Stateful.outcome_apply _ _), runs]
  cases outcome with
  | error error =>
    rw [TxState.closed, ← rolled]
    rfl
  | ok value =>
    obtain ⟨inner, aborted⟩ := last
    cases aborted with
    | false => rfl
    | true =>
      have closes : state.closed (.ok value) { inner := inner, aborted := true } =
          (.error commitRollbackError,
            { inner := { inner with tables := state.inner.tables, saved := none } }) := rfl
      rw [closes, ← rolled]
      rfl

end Engine

end ErpFinance.Driver
