import ErpFinance.Domain.StateMachine

/-!
# Workflow calls and the consistency of the record

`TransitionTo` and the workflow operations as calls on one transaction, and the
condition under which a call keeps the record consistent for the two checkers
that read it back: the status and approval rules of `Validate`, and
`ValidateCurrentState`.
-/

namespace ErpFinance.Domain

open Library

namespace Transaction

/-! ## Workflow operations -/

def submitForApproval (t : Transaction) (submittedBy : Uuid) (notes : Option String)
    (now : Time) : Except StateTransitionError Transaction :=
  t.transitionTo now
    { fromStatus := t.transactionStatus, toStatus := .pendingApproval,
      transitionBy := submittedBy, transitionAt := now, notes := notes }

def approve (t : Transaction) (approvedBy : Uuid) (notes : Option String) (now : Time) :
    Except StateTransitionError Transaction :=
  t.transitionTo now
    { fromStatus := t.transactionStatus, toStatus := .approved,
      transitionBy := approvedBy, transitionAt := now, notes := notes }

def reject (t : Transaction) (rejectedBy : Uuid) (reason : String)
    (reasonCode : Option String) (now : Time) : Except StateTransitionError Transaction :=
  t.transitionTo now
    { fromStatus := t.transactionStatus, toStatus := .rejected,
      transitionBy := rejectedBy, transitionAt := now, notes := some reason,
      reasonCode := reasonCode }

def post (t : Transaction) (postedBy : Uuid) (now : Time) :
    Except StateTransitionError Transaction :=
  t.transitionTo now
    { fromStatus := t.transactionStatus, toStatus := .posted,
      transitionBy := postedBy, transitionAt := now }

def cancel (t : Transaction) (cancelledBy : Uuid) (reason : Option String) (now : Time) :
    Except StateTransitionError Transaction :=
  t.transitionTo now
    { fromStatus := t.transactionStatus, toStatus := .cancelled,
      transitionBy := cancelledBy, transitionAt := now, notes := reason }

def reverse (t : Transaction) (reversedBy : Uuid) (reason : String) (now : Time) :
    Except StateTransitionError Transaction :=
  t.transitionTo now
    { fromStatus := t.transactionStatus, toStatus := .reversed,
      transitionBy := reversedBy, transitionAt := now, notes := some reason }

end Transaction

/-! ## Calls -/

/-- One call on a transaction; each carries its clock reading. -/
inductive Call where
  | transitionTo (transition : StateTransition) (now : Time)
  | submitForApproval (submittedBy : Uuid) (notes : Option String) (now : Time)
  | approve (approvedBy : Uuid) (notes : Option String) (now : Time)
  | reject (rejectedBy : Uuid) (reason : String) (reasonCode : Option String) (now : Time)
  | post (postedBy : Uuid) (now : Time)
  | cancel (cancelledBy : Uuid) (reason : Option String) (now : Time)
  | reverse (reversedBy : Uuid) (reason : String) (now : Time)

namespace Call

def apply (t : Transaction) : Call → Except StateTransitionError Transaction
  | transitionTo transition now => t.transitionTo now transition
  | submitForApproval submittedBy notes now => t.submitForApproval submittedBy notes now
  | approve approvedBy notes now => t.approve approvedBy notes now
  | reject rejectedBy reason reasonCode now => t.reject rejectedBy reason reasonCode now
  | post postedBy now => t.post postedBy now
  | cancel cancelledBy reason now => t.cancel cancelledBy reason now
  | reverse reversedBy reason now => t.reverse reversedBy reason now

/-- The transaction after a call: a refused call leaves it as it was. -/
def step (t : Transaction) (c : Call) : Transaction :=
  match c.apply t with
  | .ok after => after
  | .error _ => t

def target : Call → TransactionStatus
  | transitionTo transition _ => transition.toStatus
  | submitForApproval .. => .pendingApproval
  | approve .. => .approved
  | reject .. => .rejected
  | post .. => .posted
  | cancel .. => .cancelled
  | reverse .. => .reversed

def reasonCode : Call → Option String
  | transitionTo transition _ => transition.reasonCode
  | reject _ _ code _ => code
  | _ => none

/-- Every call is one `TransitionTo` with the call's target and reason code. -/
theorem apply_eq (t : Transaction) (c : Call) :
    ∃ now transition, c.apply t = t.transitionTo now transition ∧
      transition.toStatus = c.target ∧ transition.reasonCode = c.reasonCode := by
  cases c with
  | transitionTo transition now => exact ⟨now, transition, rfl, rfl, rfl⟩
  | submitForApproval => exact ⟨_, _, rfl, rfl, rfl⟩
  | approve => exact ⟨_, _, rfl, rfl, rfl⟩
  | reject => exact ⟨_, _, rfl, rfl, rfl⟩
  | post => exact ⟨_, _, rfl, rfl, rfl⟩
  | cancel => exact ⟨_, _, rfl, rfl, rfl⟩
  | reverse => exact ⟨_, _, rfl, rfl, rfl⟩

end Call

/-! ## Consistency -/

/-- What the two checkers ask of the status, approval and audit fields. -/
structure Consistent (t : Transaction) : Prop where
  status : t.validateStatus = []
  approval : t.validateApproval = []
  current : t.validateCurrentState = []

variable {t : Transaction}

theorem consistent_iff :
    Consistent t ↔ t.validateStatus = [] ∧ t.validateApproval = [] ∧
      t.validateCurrentState = [] := by
  constructor
  · intro h
    exact ⟨h.status, h.approval, h.current⟩
  · rintro ⟨status, approval, current⟩
    exact ⟨status, approval, current⟩

instance (t : Transaction) : Decidable (Consistent t) :=
  decidable_of_iff _ consistent_iff.symm

/--
What a call must find or supply for its target status: approval and rejection
belong to transactions that require approval, a rejection needs a reason code
unless one is recorded, and only a transaction without required approval may
go back to draft.
-/
def KeepsRecord (t : Transaction) (target : TransactionStatus) (reasonCode : Option String) :
    Prop :=
  match target with
  | .approved => t.approvalRequired = true
  | .rejected => t.approvalRequired = true ∧
      (reasonCode.isSome = true ∨ t.rejectionReason.isSome = true)
  | .draft => t.approvalRequired = false
  | _ => True

/-- The table names only declared statuses. -/
theorem isValid_of_mem_transitions {source target : TransactionStatus}
    {targets : List TransactionStatus} (row : transactionStatusTransitions source = some targets)
    (listed : target ∈ targets) : target.isValid = true := by
  cases target with
  | other code unknown =>
    exfalso
    cases source <;> simp_all [transactionStatusTransitions] <;>
      (subst targets; simp at listed)
  | _ => rfl

/-- A permitted target is a constant that the rules let through. -/
theorem rules_of_canTransitionTo {target : TransactionStatus}
    (allowed : t.canTransitionTo target = none) :
    t.validateTransitionRules t.transactionStatus target = none ∧ target.isValid = true := by
  unfold Transaction.canTransitionTo at allowed
  cases row : transactionStatusTransitions t.transactionStatus with
  | none => simp [row] at allowed
  | some targets =>
    by_cases listed : target ∈ targets
    · exact ⟨by simpa [row, listed] using allowed, isValid_of_mem_transitions row listed⟩
    · simp [row, listed] at allowed

/-- Submission asks for required approval in its own rule. -/
theorem approvalRequired_of_submit (allowed : t.canTransitionTo .pendingApproval = none) :
    t.approvalRequired = true := by
  have rules := (rules_of_canTransitionTo allowed).1
  cases required : t.approvalRequired with
  | true => rfl
  | false =>
    by_cases source : t.transactionStatus = .draft <;>
      simp [Transaction.validateTransitionRules, required, source] at rules

theorem consistent_applyTransition_iff {tr : StateTransition} {now : Time}
    (consistent : Consistent t) (allowed : t.canTransitionTo tr.toStatus = none) :
    Consistent (t.applyTransition now tr) ↔ KeepsRecord t tr.toStatus tr.reasonCode := by
  obtain ⟨statusValid, approvalValid⟩ :=
    Transaction.validateStatus_eq_nil_iff.mp consistent.status
  have approvalTied := Transaction.validateApproval_eq_nil_iff.mp consistent.approval
  have targetValid := (rules_of_canTransitionTo allowed).2
  rcases tr with ⟨source, target, user, time, notes, code⟩
  rw [consistent_iff, Transaction.validateStatus_eq_nil_iff,
    Transaction.validateApproval_eq_nil_iff]
  cases target with
  | draft =>
    simp [Transaction.applyTransition, Transaction.validateCurrentState, KeepsRecord,
      TransactionStatus.isValid, ApprovalStatus.isValid]
  | pendingApproval =>
    have required := approvalRequired_of_submit allowed
    simp [Transaction.applyTransition, Transaction.validateCurrentState, KeepsRecord,
      TransactionStatus.isValid, ApprovalStatus.isValid, required]
  | approved =>
    simp [Transaction.applyTransition, Transaction.validateCurrentState, KeepsRecord,
      TransactionStatus.isValid, ApprovalStatus.isValid]
  | rejected =>
    cases code <;> simp [Transaction.applyTransition, Transaction.validateCurrentState,
      KeepsRecord, TransactionStatus.isValid, ApprovalStatus.isValid]
  | posted =>
    simpa [Transaction.applyTransition, Transaction.validateCurrentState, KeepsRecord,
      TransactionStatus.isValid] using ⟨approvalValid, approvalTied⟩
  | cancelled =>
    simpa [Transaction.applyTransition, Transaction.validateCurrentState, KeepsRecord,
      TransactionStatus.isValid] using ⟨approvalValid, approvalTied⟩
  | reversed =>
    simpa [Transaction.applyTransition, Transaction.validateCurrentState, KeepsRecord,
      TransactionStatus.isValid] using ⟨approvalValid, approvalTied⟩
  | other code unknown => simp [TransactionStatus.isValid] at targetValid

/-- The calls that keep a consistent record: refused ones and those that meet their need. -/
def Call.Keeps (t : Transaction) (c : Call) : Prop :=
  t.canTransitionTo c.target = none → KeepsRecord t c.target c.reasonCode

/-- A call from a consistent record ends in one exactly when it keeps it. -/
theorem consistent_step_iff {c : Call} (consistent : Consistent t) :
    Consistent (c.step t) ↔ c.Keeps t := by
  obtain ⟨now, transition, applied, target, reason⟩ := c.apply_eq t
  unfold Call.step Call.Keeps
  rw [applied, ← target, ← reason, Transaction.transitionTo]
  cases allowed : t.canTransitionTo transition.toStatus with
  | some refusal => simpa using consistent
  | none => simpa using consistent_applyTransition_iff consistent allowed

/--
From a transaction that both checkers accept, every run of workflow calls each
of which keeps the record ends in a transaction that meets the status and
approval rules and the current-state rules.
-/
theorem workflow_run_consistent {t after : Transaction} (valid : t.validate = [])
    (current : t.validateCurrentState = [])
    (run : Run Call.step Call.Keeps t after) :
    Consistent after := by
  obtain ⟨status, approval⟩ := Transaction.status_rules_of_validate valid
  refine run.invariant ⟨status, approval, current⟩ ?_
  intro middle call keeps consistent
  exact (consistent_step_iff consistent).mpr keeps

def pendingRent : Transaction :=
  { Transaction.rentDraft with
    transactionStatus := .pendingApproval
    approvalRequired := true
    approvalStatus := .pending }

/-- Approving the pending transaction and then posting it is a run of the theorem. -/
theorem workflow_run_consistent_approve_post :
    Consistent (Call.step (Call.step pendingRent (.approve 22 none Time.zero))
      (.post 23 Time.zero)) := by
  have approved : Run Call.step Call.Keeps pendingRent
      (Call.step pendingRent (.approve 22 none Time.zero)) := .tail _ .refl (fun _ => rfl)
  have posted := Run.tail (Call.post 23 Time.zero) approved (fun _ => trivial)
  exact workflow_run_consistent (by decide +kernel) (by decide +kernel) posted

/-- Rejecting the same transaction without a reason code succeeds and leaves no reason. -/
theorem workflow_reject_without_code_inconsistent :
    ∃ (t after : Transaction) (c : Call), t.validate = [] ∧ t.validateCurrentState = [] ∧
      c.apply t = .ok after ∧ ¬ Consistent after :=
  ⟨pendingRent, Call.step pendingRent (.reject 22 "unclear" none Time.zero),
    .reject 22 "unclear" none Time.zero,
    by decide +kernel, by decide +kernel, rfl, by decide +kernel⟩

end ErpFinance.Domain
