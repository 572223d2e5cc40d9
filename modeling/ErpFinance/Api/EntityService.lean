import ErpFinance.Driver.Repository
import ErpFinance.Runtime.Pipeline

/-!
# The entity service

`EntityService` for one entity: the stages before the transaction, then the
write and the stages after it inside the transaction.  The workflows that a
creation starts run after the commit and change nothing here.
-/

namespace ErpFinance.Api

open Compiler Domain Driver Library ErpFinance.Runtime

structure EntityService where
  schema : EntitySchema
  pipeline : Pipeline

namespace EntityService

variable {σ : Type} (d : Database σ) (s : EntityService) (ctx : Context)

def create (data : Object) (actor : Option Actor) : Stateful σ Error EntityRecord := do
  let record ← Stateful.lift
    (s.pipeline.runBeforeCreate ctx s.schema.qualifiedName data actor)
  withTx d ctx fun txCtx => do
    let created ← Driver.create d s.schema txCtx
      { data := record.data, customFields := record.customFields }
    Stateful.lift (s.pipeline.runAuditRecord txCtx created none (some created.data))
    Stateful.lift (s.pipeline.runAfterCreate txCtx created)

/-- `Update` from where the current record has been read. -/
def finishUpdate (id : Uuid) (data : Object) (actor : Option Actor) (current : EntityRecord) :
    Stateful σ Error EntityRecord := do
  let patched ← Stateful.lift
    (s.pipeline.runBeforeUpdate ctx s.schema.qualifiedName data actor current)
  withTx d ctx fun txCtx => do
    let updated ← Driver.update d s.schema txCtx id { data := patched.data }
    Stateful.lift
      (s.pipeline.runAuditRecord txCtx updated (some current.data) (some updated.data))
    Stateful.lift (s.pipeline.runAfterUpdate txCtx updated current)

def update (id : Uuid) (data : Object) (actor : Option Actor) :
    Stateful σ Error EntityRecord := do
  let current ← Driver.get d s.schema ctx id
  finishUpdate d s ctx id data actor current

def delete (id : Uuid) : Stateful σ Error Unit := do
  let current ← Driver.get d s.schema ctx id
  let current ← Stateful.lift (s.pipeline.runBeforeDelete ctx current)
  withTx d ctx fun txCtx => do
    Driver.delete d s.schema txCtx id
    Stateful.lift (s.pipeline.runAuditRecord txCtx current (some current.data) none)
    let _ ← Stateful.lift (s.pipeline.runAfterDelete txCtx current)
    pure ⟨⟩

def get (id : Uuid) : Stateful σ Error EntityRecord := Driver.get d s.schema ctx id

def query (f : Option Filter) (o : QueryOptions) :
    Stateful σ Error (List EntityRecord × PageInfo) :=
  Driver.query d s.schema ctx f o

end EntityService

end ErpFinance.Api
