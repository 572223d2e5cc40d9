import ErpFinance.Audit.Writer

/-!
# What redaction hides

Two records that differ in the values of sensitive fields alone are stored
alike, as long as the fields are members of the snapshots themselves.  Under
the same names inside a member, and in the context, values are stored as they
are, and what changes there is listed among the changed fields.
-/

namespace ErpFinance.Audit

open Domain Driver Library ErpFinance.Runtime

section Sensitive

variable (names : List String)

mutual

/-- A value in which everything under the names is hidden, at whatever depth. -/
def hide : Value → Value
  | .array items => .array (hideItems items)
  | .object members => .object (hideMembers members)
  | value => value

def hideItems : List Value → List Value
  | [] => []
  | item :: rest => hide item :: hideItems rest

def hideMembers : List (String × Value) → List (String × Value)
  | [] => []
  | (name, value) :: rest =>
    (name, if name ∈ names then redacted else hide value) :: hideMembers rest

end

def hideObject (o : Object) : Object :=
  o.mapValues fun name value => if name ∈ names then redacted else hide names value

/-- A record without what is sensitive in its data, at whatever depth. -/
def AuditRecord.hidden (record : AuditRecord) : AuditRecord :=
  { record with
    beforeData := record.beforeData.map (hideObject names)
    afterData := record.afterData.map (hideObject names)
    context := hideObject names record.context }

/-- Member by member the same name, and the same value unless the name is sensitive. -/
def Alike (o other : Object) : Prop :=
  List.Forall₂ (fun first second => first.1 = second.1 ∧ (first.1 ∉ names → first.2 = second.2))
    o.entries other.entries

/-- Records that differ in the values of sensitive members of their snapshots alone. -/
structure SameBesides (record other : AuditRecord) : Prop where
  rest : other =
    { record with beforeData := other.beforeData, afterData := other.afterData }
  before : Option.Rel (Alike names) record.beforeData other.beforeData
  after : Option.Rel (Alike names) record.afterData other.afterData

variable {names}

theorem redact_congr {o other : Object} (alike : Alike names o other) :
    redact names o = redact names other := by
  have members {first second : List (Sigma fun _ : String => Value)}
      (alike : List.Forall₂ (fun m n => m.1 = n.1 ∧ (m.1 ∉ names → m.2 = n.2)) first second) :
      first.map (fun m => (⟨m.1, if m.1 ∈ names then redacted else m.2⟩ :
        Sigma fun _ : String => Value)) =
      second.map fun m => ⟨m.1, if m.1 ∈ names then redacted else m.2⟩ := by
    induction alike with
    | nil => rfl
    | @cons m n _ _ same _ ih =>
      obtain ⟨name, value⟩ := m
      obtain ⟨_, value'⟩ := n
      obtain ⟨rfl, equal⟩ := same
      rw [List.map_cons, List.map_cons, ih]
      by_cases sensitive : name ∈ names
      · simp only [if_pos sensitive]
      · rw [show value = value' from equal sensitive]
  exact AList.ext (members alike)

theorem map_redact_congr {snapshot other : Option Object}
    (alike : Option.Rel (Alike names) snapshot other) :
    snapshot.map (redact names) = other.map (redact names) := by
  cases alike with
  | some alike => exact congrArg some (redact_congr alike)
  | none => rfl

end Sensitive

section Stored

variable {w : TransactionalWriter} {record other : AuditRecord}

theorem enrich_congr
    (same : SameBesides (w.sanitizer.sensitiveFields record.entityName) record other) :
    w.enrich record = w.enrich other := by
  have before := map_redact_congr same.before
  have after := map_redact_congr same.after
  rw [same.rest]
  simp only [TransactionalWriter.enrich, Sanitizer.strip, before, after]

/--
Records that differ in the values of sensitive members of their snapshots are written alike, and
the arguments besides the identifier and the time are the same in any two writes.
-/
theorem write_hides_sensitive
    (same : SameBesides (w.sanitizer.sensitiveFields record.entityName) record other) :
    (∀ {σ : Type} (d : Database σ) (ctx : Context),
      w.write d ctx record = w.write d ctx other) ∧
    ∀ id createdAt id' createdAt',
      (insertArgs { w.enrich record with id := id, createdAt := createdAt }).filter
          (fun arg => arg.1 ∉ ["id", "created_at"]) =
        (insertArgs { w.enrich other with id := id', createdAt := createdAt' }).filter
          fun arg => arg.1 ∉ ["id", "created_at"] := by
  have enriched := enrich_congr same
  constructor
  · intro σ d ctx
    have valid : record.validate = other.validate := by
      rw [same.rest]
      rfl
    have stored : w.store d ctx record = w.store d ctx other := by
      rw [TransactionalWriter.store, TransactionalWriter.store, enriched, same.rest]
      rfl
    rw [TransactionalWriter.write, TransactionalWriter.write, valid, stored]
  · intro id createdAt id' createdAt'
    rw [enriched]
    simp [insertArgs, AuditRecord.actorID, AuditRecord.serviceAccountID]

end Stored

/-! ## Sample records -/

/-- A writer that knows of one sensitive name. -/
def passwordWriter : TransactionalWriter where
  sanitizer :=
    { declared := fun _ => ["password"], registry := fun _ => none, overrides := fun _ => []
      numeral := fun _ => "0" }
  sensitiveEntities := []
  flagEnabled := true
  takes := fun _ => true

/-- A map of one member. -/
def oneMember (name : String) (value : Value) : Object :=
  ⟨[⟨name, value⟩], List.nodupKeys_singleton _⟩

def loginRecord : AuditRecord :=
  { tenantID := 7, entityName := "iam_user", operation := some .update
    eventCategory := some .auth, systemActor := some .scheduler }

/-- An update of a member that is an object itself. -/
def nestedRecord (password : String) : AuditRecord :=
  { loginRecord with
    beforeData := some (oneMember "profile" (.object [("password", .string "old")]))
    afterData := some (oneMember "profile" (.object [("password", .string password)])) }

theorem write_hides_sensitive_password :
    (passwordWriter.sanitizer.sensitiveFields "iam_user" = ["password"]) ∧
    ∀ id createdAt id' createdAt',
      (insertArgs { passwordWriter.enrich
          { loginRecord with afterData := some (oneMember "password" (.string "first")) } with
            id := id, createdAt := createdAt }).filter
          (fun arg => arg.1 ∉ ["id", "created_at"]) =
        (insertArgs { passwordWriter.enrich
          { loginRecord with afterData := some (oneMember "password" (.string "second")) } with
            id := id', createdAt := createdAt' }).filter
          fun arg => arg.1 ∉ ["id", "created_at"] := by
  refine ⟨rfl, (write_hides_sensitive ⟨rfl, .none, .some ?_⟩).2⟩
  exact .cons ⟨rfl, fun other => absurd (List.mem_singleton_self _) other⟩ .nil

/-- A password in the context is stored, and one inside a member is stored and listed. -/
theorem context_and_members_are_stored :
    (AuditRecord.hidden ["password"]
        { loginRecord with context := oneMember "password" (.string "first") } =
      AuditRecord.hidden ["password"]
        { loginRecord with context := oneMember "password" (.string "second") } ∧
      insertArgs (passwordWriter.enrich
        { loginRecord with context := oneMember "password" (.string "first") }) ≠
      insertArgs (passwordWriter.enrich
        { loginRecord with context := oneMember "password" (.string "second") })) ∧
    (nestedRecord "old").hidden ["password"] = (nestedRecord "new").hidden ["password"] ∧
    (passwordWriter.enrich (nestedRecord "old")).changedFields = [] ∧
    (passwordWriter.enrich (nestedRecord "new")).changedFields = ["profile"] := by
  refine ⟨⟨rfl, fun same => ?_⟩, rfl, by decide +kernel, by decide +kernel⟩
  have stored : some (.object [("password", .string "first")] : Value) =
      some (.object [("password", .string "second")]) :=
    congrArg (List.lookup "context") same
  simp at stored

end ErpFinance.Audit
