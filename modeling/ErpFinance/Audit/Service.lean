import ErpFinance.Api.EntityService
import ErpFinance.Audit.Writer
import ErpFinance.Driver.Transactions

/-!
# Audited mutations

The mutations of the entity service with the audit stage that writes to the
database of the mutation.  A mutation is its stages before the transaction, its
write, what the write hands to the audit, and the stages after it.
-/

namespace ErpFinance.Audit

open Api Compiler Domain Driver Library ErpFinance.Runtime

/-- What a mutation hands to the audit: the record and its data before and after. -/
structure Handed where
  record : EntityRecord
  before : Option Object
  after : Option Object

/-- A mutation that has passed the stages before its transaction. -/
structure Mutation (σ : Type) where
  write : Context → Stateful σ Error Handed
  finish : Context → EntityRecord → Except Error EntityRecord

inductive Change where
  | create (data : Object)
  | update (id : Uuid) (data : Object)
  | delete (id : Uuid)

section Stages

variable {σ : Type} (d : Database σ) (s : EntityService) (ctx : Context)

/-- The transaction of `Create`. -/
def creation (record : EntityRecord) : Mutation σ where
  write txCtx := do
    let created ← Driver.create d s.schema txCtx
      { data := record.data, customFields := record.customFields }
    pure ⟨created, none, some created.data⟩
  finish := s.pipeline.runAfterCreate

/-- The transaction of `Update`. -/
def revision (id : Uuid) (current patched : EntityRecord) : Mutation σ where
  write txCtx := do
    let updated ← Driver.update d s.schema txCtx id { data := patched.data }
    pure ⟨updated, some current.data, some updated.data⟩
  finish txCtx updated := s.pipeline.runAfterUpdate txCtx updated current

/-- The transaction of `Delete`. -/
def deletion (id : Uuid) (current : EntityRecord) : Mutation σ where
  write txCtx := do
    Driver.delete d s.schema txCtx id
    pure ⟨current, some current.data, none⟩
  finish := s.pipeline.runAfterDelete

/-- The stages of a change before its transaction. -/
def prepare (actor : Option Actor) : Change → Stateful σ Error (Mutation σ)
  | .create data => do
      let record ← Stateful.lift
        (s.pipeline.runBeforeCreate ctx s.schema.qualifiedName data actor)
      pure (creation d s record)
  | .update id data => do
      let current ← Driver.get d s.schema ctx id
      let patched ← Stateful.lift
        (s.pipeline.runBeforeUpdate ctx s.schema.qualifiedName data actor current)
      pure (revision d s id current patched)
  | .delete id => do
      let current ← Driver.get d s.schema ctx id
      let current ← Stateful.lift (s.pipeline.runBeforeDelete ctx current)
      pure (deletion d s id current)

/-- What happens inside the transaction. -/
def body (audit : Context → Handed → Stateful σ Error Unit) (m : Mutation σ) (txCtx : Context) :
    Stateful σ Error EntityRecord := do
  let handed ← m.write txCtx
  audit txCtx handed
  Stateful.lift (m.finish txCtx handed.record)

/-- `Create`, `Update` and `Delete`, with the stage of the audit. -/
def perform (audit : Context → Handed → Stateful σ Error Unit) (actor : Option Actor)
    (change : Change) : Stateful σ Error EntityRecord := do
  let m ← prepare d s ctx actor change
  withTx d ctx (body audit m)

end Stages

section Audit

variable {σ : Type} (w : TransactionalWriter) (registry : RuntimeRegistry)

/-- The category under which the audit of an entity is registered. -/
def TransactionalWriter.category (entityName : String) : Option EventCategory :=
  (configFor w.sanitizer.registry entityName).category

/-- The record that `RunAuditRecord` hands to the writer. -/
def auditRecordOf (request : RequestContext) (handed : Handed) : AuditRecord where
  tenantID := handed.record.tenantID
  entityName := handed.record.entityName
  recordID := handed.record.id
  operation := some (auditOperationFor handed.before handed.after)
  eventCategory := w.category handed.record.entityName
  actor := handed.record.actor
  beforeData := handed.before
  afterData := handed.after
  requestID := request.requestID
  ipAddress := request.ipAddress
  sessionID := request.sessionID

/-- Whether `RunAuditRecord` comes to the writer; an entity that is not found has not opted out. -/
def watched (entityName : String) : Bool :=
  (match registry.findEntity entityName with
    | .ok es => es.allowAudit
    | .error _ => true) &&
  (configFor w.sanitizer.registry entityName).enabled

def runAuditRecord (d : Database σ) (request : RequestContext) (ctx : Context) (handed : Handed) :
    Stateful σ Error Unit :=
  if watched w registry handed.record.entityName then
    apply (w.category handed.record.entityName)
      (w.write d ctx (auditRecordOf w request handed))
  else pure ⟨⟩

end Audit

section EntityService

variable {σ : Type} {d : Database σ} {s : EntityService} {ctx : Context} {actor : Option Actor}

/-- The audit of a service whose writer leaves the database alone. -/
def pureAudit (s : EntityService) (ctx : Context) (handed : Handed) : Stateful σ Error Unit :=
  Stateful.lift (s.pipeline.runAuditRecord ctx handed.record handed.before handed.after)

end EntityService

end ErpFinance.Audit
