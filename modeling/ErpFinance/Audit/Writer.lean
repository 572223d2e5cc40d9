import ErpFinance.Audit.ChangedFields
import ErpFinance.Audit.Record
import ErpFinance.Driver.Repository

/-!
# The audit writer

The fields of a snapshot whose names are sensitive lose their values, and the
fields that an update has changed are found by comparing what is left.

`TransactionalWriter` with the scores of the records it writes, and the policy
for a write that fails.  JSON columns hold the values themselves, once these
have been marshalled, and the writer has a connection of the pool to fall back
on.
-/

namespace ErpFinance.Audit

open Domain Driver Library ErpFinance.Runtime

/-- Where the names of sensitive fields come from: the definitions, the configurations and the
database. -/
structure Sanitizer where
  /-- The fields that the definition `def.Lookup` finds marks as sensitive. -/
  declared : String → List String
  registry : String → Option EntityAuditConfig
  overrides : String → List String
  /-- `%v` of a number, an identifier or an instant. -/
  numeral : Scalar → String

/-- Numbers are compared directly, identifiers and instants by their texts. -/
def Sanitizer.scalars (s : Sanitizer) : Scalars Scalar where
  direct
    | .number _ => true
    | _ => false
  eq p q := p = q
  text := s.numeral

/-- What a sensitive field holds after it has been stripped. -/
def redacted : Value := .string "[REDACTED]"

def redact (names : List String) (snapshot : Object) : Object :=
  snapshot.mapValues fun name value => if name ∈ names then redacted else value

namespace Sanitizer

variable (s : Sanitizer)

def sensitiveFields (entityName : String) : List String :=
  s.declared entityName ++ (configFor s.registry entityName).additionalSensitiveFields ++
    s.overrides entityName

def strip (entityName : String) (snapshot : Option Object) : Option Object :=
  snapshot.map (redact (s.sensitiveFields entityName))

/-- `ComputeChangedFields` of two snapshots. -/
def changedFields (before after : Option Object) : List String :=
  computeChangedFields s.scalars before after

end Sanitizer

/-! ## Scores -/

def operationBaseScore : Option OperationType → Int
  | some .delete => 30
  | some .create => 10
  | some .update => 10
  | some .action => 15
  | some .login => 5
  | _ => 0

def categoryPremium : Option EventCategory → Int
  | some .admin => 30
  | some .security => 30
  | some .access => 20
  | some .auth => 10
  | _ => 0

def score (sensitiveEntities : List String) (record : AuditRecord) : Int :=
  let total := operationBaseScore record.operation + categoryPremium record.eventCategory +
    if record.entityName ∈ sensitiveEntities then 20 else 0
  if 100 < total then 100 else if total < 0 then 0 else total

def severityFromScore (score : Int) : Severity :=
  if 70 ≤ score then .critical
  else if 50 ≤ score then .high
  else if 30 ≤ score then .medium
  else if 10 ≤ score then .low
  else .info

/-! ## The statement -/

def nullableString (text : String) : Value := if text = "" then .null else .string text

def nullableUUID (id : Uuid) : Value := if id = Uuid.Nil then .null else .uuid id

/-- `marshalNullable` of a map. -/
def nullableObject (o : Object) : Value := if o.entries.isEmpty then .null else o.toValue

def Flags.toObject (flags : Flags) : Object where
  entries := flags.entries.map fun entry => ⟨entry.1, .bool entry.2⟩
  nodupKeys := by
    rw [List.NodupKeys, List.keys, List.map_map]
    exact flags.nodupKeys

def nullableStrings (names : List String) : Value :=
  if names.isEmpty then .null else .array (names.map .string)

def auditTable : String := "platform_audit_log"

/-- The columns of `insertSQL` and their arguments. -/
def insertArgs (record : AuditRecord) : List (String × Value) :=
  [("id", .uuid record.id), ("tenant_id", .uuid record.tenantID),
    ("request_id", nullableString record.requestID), ("entity_name", .string record.entityName),
    ("record_id", nullableUUID record.recordID),
    ("operation", .string (record.operation.elim "" OperationType.text)),
    ("actor_id", nullableUUID record.actorID),
    ("service_account_id", nullableUUID record.serviceAccountID),
    ("system_actor", nullableString (record.systemActor.elim "" SystemActor.text)),
    ("ip_address", nullableString record.ipAddress),
    ("session_id", nullableString record.sessionID),
    ("before_data", nullableObject (record.beforeData.getD ∅)),
    ("after_data", nullableObject (record.afterData.getD ∅)),
    ("changed_fields", nullableStrings record.changedFields),
    ("event_category", .string (record.eventCategory.elim "" EventCategory.text)),
    ("severity", .string (record.severity.elim "" Severity.text)),
    ("risk_score", .number (.number record.riskScore)),
    ("compliance_flags", nullableObject (Flags.toObject record.complianceFlags)),
    ("context", nullableObject record.context), ("created_at", .time record.createdAt)]

/-! ## Marshalling -/

mutual

/-- `json.Marshal` comes to the end of a value: it takes every number and instant in it. -/
def marshals (takes : Scalar → Bool) : Value → Bool
  | .number scalar => takes scalar
  | .array items => marshalsItems takes items
  | .object members => marshalsMembers takes members
  | _ => true

def marshalsItems (takes : Scalar → Bool) : List Value → Bool
  | [] => true
  | item :: rest => marshals takes item && marshalsItems takes rest

def marshalsMembers (takes : Scalar → Bool) : List (String × Value) → Bool
  | [] => true
  | (_, value) :: rest => marshals takes value && marshalsMembers takes rest

end

/-- The parts of a record that are marshalled, in this order. -/
def marshalled (record : AuditRecord) : List (String × Value) :=
  [("BeforeData", (record.beforeData.getD ∅).toValue),
    ("AfterData", (record.afterData.getD ∅).toValue), ("Context", record.context.toValue),
    ("ComplianceFlags", (Flags.toObject record.complianceFlags).toValue),
    ("ChangedFields", .array (record.changedFields.map .string))]

/-! ## The writer -/

/-- `TransactionalWriter` with what is loaded when the process starts. -/
structure TransactionalWriter where
  sanitizer : Sanitizer
  sensitiveEntities : List String
  /-- The feature flag. -/
  flagEnabled : Bool
  /-- What `json.Marshal` has a text for: no NaN, no infinity, no instant beyond the year 9999. -/
  takes : Scalar → Bool

namespace TransactionalWriter

variable (w : TransactionalWriter)

/-- The record as it is stored, but for the identifier and the time. -/
def enrich (record : AuditRecord) : AuditRecord :=
  let before := w.sanitizer.strip record.entityName record.beforeData
  let after := w.sanitizer.strip record.entityName record.afterData
  let cfg := configFor w.sanitizer.registry record.entityName
  let stripped : AuditRecord :=
    { record with
      beforeData := before
      afterData := after
      changedFields := w.sanitizer.changedFields before after
      complianceFlags := record.complianceFlags ∪ cfg.complianceFlags }
  let risk := score w.sensitiveEntities stripped
  { stripped with riskScore := risk, severity := some (severityFromScore risk) }

/-- The marshalling of a record, with the error of the first part that has no text. -/
def marshal (record : AuditRecord) : Except Error Unit :=
  (marshalled record).forM fun part =>
    if marshals w.takes part.2 then .ok ⟨⟩
    else .error (.wrapped ("audit: marshal " ++ part.1) (.other "json: unsupported value"))

/-- A record comes to its statement. -/
def sends (record : AuditRecord) : Bool :=
  record.validate.isOk && (w.marshal (w.enrich record)).isOk

section Write

variable {σ : Type} (d : Database σ) (ctx : Context)

/-- The identifier of a record, which is drawn where the caller has set none. -/
def assignID (record : AuditRecord) : Stateful σ Error Uuid :=
  if record.id = Uuid.Nil then d.newUUID else pure record.id

def assignTime (record : AuditRecord) : Stateful σ Error Nat :=
  if record.createdAt = 0 then d.now else pure record.createdAt

/-- The insertion of a record that has passed its checks. -/
def store (record : AuditRecord) : Stateful σ Error Unit := do
  let id ← assignID d record
  let createdAt ← assignTime d record
  Stateful.lift (w.marshal (w.enrich record))
  let _ ← d.send ctx
    (.insert auditTable (insertArgs { w.enrich record with id := id, createdAt := createdAt }))
  pure ⟨⟩

def write (record : AuditRecord) : Stateful σ Error Unit :=
  if w.flagEnabled then do
    Stateful.lift record.validate
    w.store d ctx record
  else pure ⟨⟩

end Write

end TransactionalWriter

/-! ## The policy for failures -/

/-- `PolicyFor` returns `FailurePolicyPropagate`. -/
def propagates : Option EventCategory → Bool
  | some .admin => true
  | some .security => true
  | _ => false

def apply {σ : Type} (category : Option EventCategory) (write : Stateful σ Error Unit) :
    Stateful σ Error Unit := do
  match ← write.outcome with
  | .ok _ => pure ⟨⟩
  | .error error => if propagates category then Stateful.fail error else pure ⟨⟩

def auditOperationFor (before after : Option Object) : OperationType :=
  match before, after with
  | none, _ => .create
  | some _, none => .delete
  | some _, some _ => .update

end ErpFinance.Audit
