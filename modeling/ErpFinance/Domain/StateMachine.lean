import ErpFinance.Domain.Transaction
import ErpFinance.Library.Run

/-!
# The transaction state machine

The transition table, the business rules of each target status, the fields a
transition writes and the workflow operations built on it.  A refused
transition leaves the transaction as it was.
-/

namespace ErpFinance.Domain

open Library

/-- A requested state change. -/
structure StateTransition where
  fromStatus : TransactionStatus
  toStatus : TransactionStatus
  transitionBy : Uuid
  transitionAt : Time
  notes : Option String := none
  reasonCode : Option String := none

structure StateTransitionError where
  fromStatus : TransactionStatus
  toStatus : TransactionStatus
  reason : String

/-- `StateTransitionError.Error`. -/
def StateTransitionError.string (e : StateTransitionError) : String :=
  "invalid state transition from " ++ e.fromStatus.string ++ " to " ++ e.toStatus.string ++
    ": " ++ e.reason

/-- `TransactionStatusTransitions`; a status outside the constants has no row. -/
def transactionStatusTransitions : TransactionStatus → Option (List TransactionStatus)
  | .draft => some [.pendingApproval, .approved, .cancelled]
  | .pendingApproval => some [.approved, .rejected, .cancelled, .draft]
  | .approved => some [.posted, .cancelled, .draft]
  | .posted => some [.reversed]
  | .rejected => some [.draft, .cancelled]
  | .cancelled => some []
  | .reversed => some []
  | .other _ _ => none

namespace Transaction

/-- The business rules of a transition: `none` when it is allowed, else the reason. -/
def validateTransitionRules (t : Transaction) (source : TransactionStatus) :
    TransactionStatus → Option String
  | .approved =>
    if !t.isBalanced then some "cannot approve unbalanced transaction"
    else if t.entries.length < 2 then
      some "cannot approve transaction with insufficient entries"
    else if !t.approvalRequired && source = .draft then
      some "transaction does not require approval"
    else none
  | .posted =>
    if t.approvalRequired && t.approvalStatus ≠ .approved then
      some "cannot post transaction without approval when approval is required"
    else if !t.isBalanced then some "cannot post unbalanced transaction"
    else if t.validationStatus ≠ .valid && t.validationStatus ≠ .warning then
      some "cannot post transaction with validation errors"
    else none
  | .reversed =>
    if source ≠ .posted then some "can only reverse posted transactions"
    else if t.isReversed then some "transaction is already reversed"
    else none
  | .draft =>
    if source = .posted then some "cannot return posted transaction to draft status"
    else if source = .reversed then
      some "cannot return reversed transaction to draft status"
    else none
  | .cancelled =>
    if source = .posted then some "cannot cancel posted transaction - use reversal instead"
    else if source = .reversed then some "cannot cancel already reversed transaction"
    else none
  | .pendingApproval =>
    if source ≠ .draft then some "only draft transactions can be submitted for approval"
    else if !t.approvalRequired then some "transaction does not require approval"
    else if !t.isBalanced then some "cannot submit unbalanced transaction for approval"
    else none
  | .rejected =>
    if source ≠ .pendingApproval then some "can only reject transactions pending approval"
    else none
  | .other _ _ => none

/-- `CanTransitionTo`: `none` when the transition may be made, else the refusal. -/
def canTransitionTo (t : Transaction) (target : TransactionStatus) : Option String :=
  match transactionStatusTransitions t.transactionStatus with
  | none => some ("no transitions defined for status " ++ t.transactionStatus.string)
  | some targets =>
    if target ∈ targets then t.validateTransitionRules t.transactionStatus target
    else some ("invalid transition from " ++ t.transactionStatus.string ++ " to " ++
      target.string)

/-- The fields a transition writes; `now` is the second clock reading of the source. -/
def applyTransition (now : Time) (tr : StateTransition) (t : Transaction) : Transaction :=
  let moved : Transaction :=
    { t with
      transactionStatus := tr.toStatus
      updatedAt := tr.transitionAt
      updatedBy := some tr.transitionBy }
  match tr.toStatus with
  | .approved =>
    { moved with
      approvalStatus := .approved
      approvedBy := some tr.transitionBy
      approvedAt := some tr.transitionAt
      approvalNotes := tr.notes.or t.approvalNotes }
  | .rejected =>
    { moved with
      approvalStatus := .rejected
      approvalNotes := tr.notes.or t.approvalNotes
      rejectionReason := tr.reasonCode.or t.rejectionReason }
  | .posted =>
    { moved with
      postedBy := some tr.transitionBy
      postedAt := some tr.transitionAt
      postingDate := t.postingDate.or (some now) }
  | .reversed =>
    { moved with
      isReversed := true
      reversalReason := tr.notes.or t.reversalReason }
  | .draft =>
    { moved with
      approvalStatus := .notRequired
      approvedBy := none
      approvedAt := none
      approvalNotes := none
      rejectionReason := none }
  | .pendingApproval => { moved with approvalStatus := .pending }
  | .cancelled => moved
  | .other _ _ => moved

/-- `TransitionTo`: refused with the reason, or the transaction with the target's fields. -/
def transitionTo (now : Time) (tr : StateTransition) (t : Transaction) :
    Except StateTransitionError Transaction :=
  match t.canTransitionTo tr.toStatus with
  | some reason =>
    .error { fromStatus := tr.fromStatus, toStatus := tr.toStatus, reason := reason }
  | none => .ok (t.applyTransition now tr)

/-- A transition succeeds exactly when it is allowed, and then writes its fields. -/
theorem transitionTo_eq_ok_iff {now : Time} {tr : StateTransition} {t after : Transaction} :
    t.transitionTo now tr = .ok after ↔
      t.canTransitionTo tr.toStatus = none ∧ t.applyTransition now tr = after := by
  unfold transitionTo
  cases t.canTransitionTo tr.toStatus <;> simp

def validateCurrentState (t : Transaction) : List ValidationError :=
  match t.transactionStatus with
  | .approved =>
    check (t.approvalRequired && t.approvalStatus ≠ .approved)
      { field := "approval_status",
        message := "Approved transaction must have approval status set to approved",
        code := "INCONSISTENT_STATE" } ++
    check t.approvedBy.isNone
      { field := "approved_by",
        message := "Approved transaction must have approver recorded",
        code := "MISSING_AUDIT_DATA" }
  | .posted =>
    check t.postedBy.isNone
      { field := "posted_by", message := "Posted transaction must have poster recorded",
        code := "MISSING_AUDIT_DATA" } ++
    check t.postedAt.isNone
      { field := "posted_at", message := "Posted transaction must have posting timestamp",
        code := "MISSING_AUDIT_DATA" }
  | .reversed =>
    check (!t.isReversed)
      { field := "is_reversed",
        message := "Reversed transaction must have is_reversed flag set",
        code := "INCONSISTENT_STATE" }
  | .rejected =>
    check t.rejectionReason.isNone
      { field := "rejection_reason",
        message := "Rejected transaction should have rejection reason",
        code := "MISSING_AUDIT_DATA" }
  | _ => []

end Transaction

end ErpFinance.Domain
