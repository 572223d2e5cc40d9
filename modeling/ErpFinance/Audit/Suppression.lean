import ErpFinance.Audit.Trail

/-!
# Failures of the audit

A failure that the policy suppresses leaves the mutation as it is only where
the writer has not come to its statement: a statement that fails fails the
transaction of the mutation with it.  The policy is looked up under the name
the record has, which for a custom entity is that of the shared table.
-/

namespace ErpFinance.Audit

open Api Compiler Domain Driver Library ErpFinance.Runtime

section Failures

variable (e : Engine) (deployment : Deployment)

/-- The call without an audit. -/
def unaudited (call : Call) (state : TxState Driver.Store) :
    Except Error EntityRecord × TxState Driver.Store :=
  perform e.database.strict (deployment.service call.entity) call.ctx (fun _ _ => pure ⟨⟩)
    call.actor call.change state

def AuditFails (call : Call) (state : TxState Driver.Store) : Prop :=
  ∀ m ready handed written,
    prepare e.database.strict (deployment.service call.entity) call.ctx call.actor call.change
      state = (.ok m, ready) →
    m.write { call.ctx with conn := some 0 } (ready.opened call.ctx) = (.ok handed, written) →
    watched deployment.writer deployment.registry handed.record.entityName = true ∧
      (deployment.writer.write e.database.strict { call.ctx with conn := some 0 }
        (auditRecordOf deployment.writer call.request handed) written).1.isOk = false

/-- Whether a failure of the audit of an entity has to take the mutation with it. -/
def Deployment.severe (es : EntitySchema) : Bool :=
  propagates (deployment.writer.category es.qualifiedName)

/-- What has to become of a call whose audit fails, where without an audit it ends in `last`. -/
def Policed (call : Call) (state last : TxState Driver.Store) : Prop :=
  (performed e deployment call state).2.inner.tables =
    if deployment.severe call.entity then state.inner.tables else last.inner.tables

/-- A record that is refused before its statement meets the policy of the entity, and only the
entities whose failures propagate have records that are sent. -/
def Deployment.Harmless (call : Call) (tables : Tables) : Prop :=
  match call.change with
  | .delete id => ∀ row ∈ tables call.entity.tableName, row.id = id →
      ∀ current, (deployment.service call.entity).pipeline.runBeforeDelete call.ctx
        (scan call.entity row.shown) = .ok current →
          if deployment.writer.sends
              (auditRecordOf deployment.writer call.request (deleted current)) then
            deployment.severe call.entity = true
          else propagates (deployment.writer.category current.entityName) =
            deployment.severe call.entity
  | _ => propagates (deployment.writer.category call.entity.tableName) =
      deployment.severe call.entity

end Failures

section Outcomes

variable {e : Engine} {deployment : Deployment} {call : Call} {state last : TxState Driver.Store}
  {value : EntityRecord}

/-- The condition, read off what the mutation hands over. -/
def Meets (deployment : Deployment) (call : Call) (handed : Handed) : Prop :=
  if deployment.writer.sends (auditRecordOf deployment.writer call.request handed) then
    deployment.severe call.entity = true
  else propagates (deployment.writer.category handed.record.entityName) =
    deployment.severe call.entity

theorem meets_iff {handed : Handed} {tables : Tables}
    (nodup : ((tables call.entity.tableName).map Row.id).Nodup)
    (hands : Hands (deployment.service call.entity) call.ctx tables call.change handed) :
    Meets deployment call handed ↔ deployment.Harmless call tables := by
  have of_nobody (notDelete : ∀ id, call.change ≠ .delete id) : Meets deployment call handed ↔
      propagates (deployment.writer.category call.entity.tableName) =
        deployment.severe call.entity := by
    obtain ⟨nobody, named⟩ := hands.nobody notDelete
    replace named : handed.record.entityName = call.entity.tableName := named
    have unsent : deployment.writer.sends (auditRecordOf deployment.writer call.request handed) =
        false := sends_of_nobody nobody rfl
    rw [Meets, unsent, if_neg Bool.false_ne_true, named]
  rw [Deployment.Harmless]
  cases change : call.change with
  | create data => exact of_nobody fun id deletes => by rw [change] at deletes; cases deletes
  | update id data => exact of_nobody fun id deletes => by rw [change] at deletes; cases deletes
  | delete id =>
    rw [change] at hands
    cases hands with
    | delete member isRow hooked =>
      rename_i row current
      constructor
      · intro meets other inTable isOther current' hooked'
        obtain rfl : other = row :=
          List.inj_on_of_nodup_map nodup inTable member (isOther.trans isRow.symm)
        obtain rfl := Except.ok.inj (hooked.symm.trans hooked')
        exact meets
      · intro meets
        exact meets row member isRow current hooked

/-- The tables after a call whose audit fails: those of before when the failure propagates or is
one of the statement, and those without an audit otherwise. -/
theorem performed_tables {ready written : TxState Driver.Store}
    {m : Mutation (TxState Driver.Store)} {handed : Handed} (plain : Plain call.entity)
    (goes : Goes e (deployment.service call.entity) call.ctx call.actor call.change
      (fun _ _ => pure ⟨⟩) state ready written written m handed value)
    (fails : AuditFails e deployment call state) :
    (performed e deployment call state).2.inner.tables =
      if deployment.writer.sends (auditRecordOf deployment.writer call.request handed) = true ∨
        propagates (deployment.writer.category handed.record.entityName) = true
      then state.inner.tables else written.inner.tables := by
  obtain ⟨prepares, writes, -, finishes, active⟩ := goes
  obtain ⟨watches, failing⟩ := fails m ready handed written prepares writes
  obtain ⟨same, -, -⟩ := prepare_ok rfl plain prepares
  have flag : deployment.writer.flagEnabled = true := by
    by_contra off
    rw [TransactionalWriter.write, if_neg off] at failing
    cases failing
  have ends : ∀ outcome audited, runAuditRecord deployment.writer deployment.registry
      e.database.strict call.request { call.ctx with conn := some 0 } handed written =
        (outcome, audited) →
      (performed e deployment call state).2.inner.tables =
        (ready.closed outcome audited).2.inner.tables := by
    intro outcome audited audits
    rw [performed, perform_closed rfl plain (audit_along call.request) prepares, body,
      Stateful.bind_ok writes]
    cases outcome with
    | error error =>
      rw [Stateful.bind_error audits]
      rfl
    | ok _ =>
      rw [Stateful.bind_ok audits, Stateful.lift_apply, finishes]
      obtain ⟨inner, aborted⟩ := audited
      cases aborted with
      | false => rfl
      | true => rfl
  cases sent : deployment.writer.sends (auditRecordOf deployment.writer call.request handed) with
  | false =>
    obtain ⟨error, drawn, refused⟩ := runAuditRecord_unsent flag watches sent written
    rw [ends _ _ refused, judged]
    by_cases severe : propagates (deployment.writer.category handed.record.entityName) = true
    · rw [if_pos severe, if_pos (.inr severe)]
      exact same
    · have passes : ¬ (false = true ∨
          propagates (deployment.writer.category handed.record.entityName) = true) := by
        rintro (accepted | propagating)
        · cases accepted
        · exact severe propagating
      rw [if_neg severe, if_neg passes]
      obtain ⟨inner, failed⟩ := written
      obtain rfl : failed = false := active
      rfl
  | true =>
    rw [if_pos (.inl rfl), ← same]
    have joined : ({ call.ctx with conn := some 0 } : Context).conn = some 0 := rfl
    rcases runAuditRecord_sent joined flag watches sent written with
      ⟨error, after, -, runs, aborted⟩ | ⟨_, _, _, _, -, succeeds, -⟩
    · rw [ends _ _ runs]
      obtain ⟨inner, failed⟩ := after
      obtain rfl : failed = true := aborted
      cases judged (deployment.writer.category handed.record.entityName) (.error error) with
      | ok _ => rfl
      | error error => rfl
    · rw [succeeds] at failing
      cases failing

theorem unaudited_goes (plain : Plain call.entity)
    (commits : unaudited e deployment call state = (.ok value, last)) :
    ∃ ready written m handed,
      last = { inner := { written.inner with saved := none } } ∧
      Goes e (deployment.service call.entity) call.ctx call.actor call.change
        (fun _ _ => pure ⟨⟩) state ready written written m handed value := by
  have moves : ∀ (txCtx : Context) (handed : Handed), Stateful.Moves StrictlySaved
      (pure ⟨⟩ : Stateful (TxState Driver.Store) Error Unit) := fun _ _ => Stateful.Moves.pure _
  have both : (∃ error after, unaudited e deployment call state = (.error error, after) ∧
      after.inner.tables = state.inner.tables) ∨
      ∃ value ready written audited m handed, unaudited e deployment call state =
          (.ok value, { inner := { audited.inner with saved := none } }) ∧
        Goes e (deployment.service call.entity) call.ctx call.actor call.change
          (fun _ _ => pure ⟨⟩) state ready written audited m handed value :=
    perform_cases rfl plain moves state
  rcases both with ⟨error, after, errs, -⟩ | ⟨value', ready, written, audited, m, handed, succeeds,
    goes⟩
  · rw [errs] at commits
    cases commits
  · rw [succeeds] at commits
    cases commits
    have audits := goes.audits
    obtain rfl : written = audited := (Prod.mk.inj audits).2
    exact ⟨ready, written, m, handed, rfl, goes⟩

end Outcomes

/-- A mutation whose audit fails ends as the policy for its entity has it exactly when the record
is refused before it is sent and its name has the policy of the entity, or, where the record is
sent, when the failures of the entity propagate. -/
theorem policed_iff (e : Engine) (deployment : Deployment) (call : Call)
    (state last : TxState Driver.Store) (value : EntityRecord) (plain : Plain call.entity)
    (nodup : ((state.inner.tables call.entity.tableName).map Row.id).Nodup)
    (commits : unaudited e deployment call state = (.ok value, last))
    (changes : last.inner.tables ≠ state.inner.tables)
    (fails : AuditFails e deployment call state) :
    Policed e deployment call state last ↔ deployment.Harmless call state.inner.tables := by
  obtain ⟨ready, written, m, handed, rfl, goes⟩ := unaudited_goes plain commits
  obtain ⟨-, -, hands⟩ := prepare_ok rfl plain goes.prepares
  rw [← meets_iff nodup (hands _ _ _ _ goes.writes), Policed, performed_tables plain goes fails,
    Meets]
  have differ : written.inner.tables ≠ state.inner.tables := changes
  cases deployment.severe call.entity
  all_goals
    cases propagates (deployment.writer.category handed.record.entityName)
    all_goals
      cases deployment.writer.sends (auditRecordOf deployment.writer call.request handed)
      all_goals simp [differ, differ.symm]

section Sample

open Tenant

def vacant : TxState Driver.Store := { inner := noTenants }

theorem founding_fails : AuditFails auditEngine tenantsAudited founding vacant := by
  intro m ready handed written prepares writes
  have plain : Plain tenants := by
    unfold Driver.Plain
    decide +kernel
  obtain ⟨-, -, hands⟩ := prepare_ok rfl plain prepares
  obtain ⟨nobody, named⟩ := (hands _ _ _ _ writes).nobody fun id deletes => by cases deletes
  replace named : handed.record.entityName = tenants.tableName := named
  refine ⟨by rw [named]; exact watched_tenants, ?_⟩
  have unsent : tenantsAudited.writer.sends
      (auditRecordOf tenantsAudited.writer founding.request handed) = false :=
    sends_of_nobody nobody rfl
  obtain ⟨error, drawn, refused⟩ := write_unsent (w := tenantsAudited.writer) rfl unsent written
  rw [refused]
  rfl

/-- The audit of a creation is refused before it is sent, and the tenant is stored. -/
theorem founding_policed : Policed auditEngine tenantsAudited founding vacant
    (unaudited auditEngine tenantsAudited founding vacant).2 := by
  have succeeds : (unaudited auditEngine tenantsAudited founding vacant).1.isOk = true := by
    decide +kernel
  obtain ⟨value, committed⟩ := exists_of_isOk succeeds
  have plain : Plain founding.entity := by
    show Plain tenants
    unfold Driver.Plain
    decide +kernel
  have nodup : ((vacant.inner.tables founding.entity.tableName).map Row.id).Nodup := List.nodup_nil
  have commits : unaudited auditEngine tenantsAudited founding vacant =
      (.ok value, (unaudited auditEngine tenantsAudited founding vacant).2) := by
    rw [← committed]
  have changes : (unaudited auditEngine tenantsAudited founding vacant).2.inner.tables ≠
      vacant.inner.tables := by
    intro same
    have stored : ((unaudited auditEngine tenantsAudited founding vacant).2.inner.tables
        tenants.tableName).length = 1 := by decide +kernel
    have vacancy : (vacant.inner.tables tenants.tableName).length = 0 := rfl
    rw [same, vacancy] at stored
    exact absurd stored Nat.zero_ne_one
  have harmless : tenantsAudited.Harmless founding vacant.inner.tables := rfl
  exact (policed_iff auditEngine tenantsAudited founding vacant _ value plain nodup commits changes
    founding_fails).mpr harmless

/-- A database without the columns of the log. -/
def unloggedEngine : Engine := untyped (fun _ => scannedColumns tenants) fun _ => true

/-- Where the log cannot be written, a tenant cannot be deleted either, although nothing is
registered for its audit. -/
theorem closing_undone :
    tenantsAudited.severe tenants = false ∧
      (unaudited unloggedEngine tenantsAudited closing acmeStore).1.isOk = true ∧
      ((unaudited unloggedEngine tenantsAudited closing acmeStore).2.inner.tables
        tenants.tableName).length = 0 ∧
      (performed unloggedEngine tenantsAudited closing acmeStore).1.isOk = false ∧
      ((performed unloggedEngine tenantsAudited closing acmeStore).2.inner.tables
        tenants.tableName).length = 1 := by
  decide +kernel

end Sample

end ErpFinance.Audit
