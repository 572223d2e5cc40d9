import ErpFinance.Library.Text
import ErpFinance.Runtime.Errors
import ErpFinance.Runtime.Record

/-!
# Audit records

The record that an audit writer is given, and what is registered for the audit
of an entity.  The empty text of an enumeration is none.
-/

namespace ErpFinance.Audit

open Domain Library ErpFinance.Runtime

inductive OperationType where
  | create
  | update
  | delete
  | action
  | login
  | logout
  | system
deriving DecidableEq

inductive EventCategory where
  | data
  | auth
  | access
  | admin
  | workflow
  | system
  | outbound
  | security

inductive Severity where
  | critical
  | high
  | medium
  | low
  | info

inductive SystemActor where
  | bootstrap
  | migration
  | outboxRelay
  | scheduler

def OperationType.text : OperationType → String
  | create => "create"
  | update => "update"
  | delete => "delete"
  | action => "action"
  | login => "login"
  | logout => "logout"
  | system => "system"

def EventCategory.text : EventCategory → String
  | data => "DATA"
  | auth => "AUTH"
  | access => "ACCESS"
  | admin => "ADMIN"
  | workflow => "WORKFLOW"
  | system => "SYSTEM"
  | outbound => "OUTBOUND"
  | security => "SECURITY"

def Severity.text : Severity → String
  | critical => "CRITICAL"
  | high => "HIGH"
  | medium => "MEDIUM"
  | low => "LOW"
  | info => "INFO"

def SystemActor.text : SystemActor → String
  | bootstrap => "system:bootstrap"
  | migration => "system:migration"
  | outboxRelay => "system:outbox-relay"
  | scheduler => "system:scheduler"

/-- `map[string]bool`. -/
abbrev Flags := AList fun _ : String => Bool

/-- `AuditRecord`; a nil map or list that is stored as one that is empty is an empty one, and the
zero time is 0. -/
structure AuditRecord where
  id : Uuid := Uuid.Nil
  tenantID : Uuid := Uuid.Nil
  requestID : String := ""
  entityName : String
  recordID : Uuid := Uuid.Nil
  operation : Option OperationType := none
  actor : Option Actor := none
  systemActor : Option SystemActor := none
  ipAddress : String := ""
  sessionID : String := ""
  beforeData : Option Object := none
  afterData : Option Object := none
  changedFields : List String := []
  eventCategory : Option EventCategory := none
  severity : Option Severity := none
  riskScore : Int := 0
  complianceFlags : Flags := ∅
  context : Object := ∅
  createdAt : Nat := 0

namespace AuditRecord

variable (r : AuditRecord)

def actorID : Uuid := r.actor.elim Uuid.Nil Actor.userID

def serviceAccountID : Uuid := r.actor.elim Uuid.Nil Actor.serviceAccountID

def validate : Except Error Unit :=
  if r.tenantID = Uuid.Nil then .error (.other "AuditRecord.TenantID must not be nil")
  else if r.entityName = "" then .error (.other "AuditRecord.EntityName must not be empty")
  else if r.operation = none then .error (.other "AuditRecord.Operation must not be empty")
  else if r.eventCategory = none then
    .error (.other "AuditRecord.EventCategory must not be empty")
  else if r.actor.isSome = r.systemActor.isSome then
    if r.actor.isSome then
      .error (.other
        "AuditRecord: Actor and SystemActor are mutually exclusive; only one may be set")
    else .error (.other "AuditRecord: one of Actor or SystemActor must be set")
  else .ok ⟨⟩

theorem validate_of_nobody {r : AuditRecord} (actor : r.actor = none)
    (systemActor : r.systemActor = none) : r.validate ≠ .ok ⟨⟩ := by
  intro accepted
  unfold validate at accepted
  rw [actor, systemActor] at accepted
  split_ifs at accepted with tenant entity operation category same
  exact same rfl

end AuditRecord

/-- `EntityAuditConfig`; no severity is read from it. -/
structure EntityAuditConfig where
  entityName : String
  enabled : Bool := true
  category : Option EventCategory := some .data
  additionalSensitiveFields : List String := []
  complianceFlags : Flags := ∅

/-- `ConfigFor`: an entity for which nothing is registered has the default. -/
def configFor (registry : String → Option EntityAuditConfig) (entityName : String) :
    EntityAuditConfig :=
  (registry entityName).getD { entityName := entityName }

/-- `RequestContext`; without one the texts are empty. -/
structure RequestContext where
  requestID : String := ""
  ipAddress : String := ""
  sessionID : String := ""

end ErpFinance.Audit
