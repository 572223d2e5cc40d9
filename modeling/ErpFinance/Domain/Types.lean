import ErpFinance.Domain.Basics

/-!
# Enumerations and validation findings

The string enumerations of the finance domain.  A Go value outside the declared
constants is `other`, which carries the proof that its code is not one of them,
so every string has exactly one representation.
-/

namespace ErpFinance.Domain

/-! ## Validation findings -/

/-- A validation finding; the empty severity counts as `ERROR`. -/
structure ValidationError where
  field : String
  message : String
  code : String
  severity : String := ""

/-- One `if` of a validator: append the finding when the test fires. -/
def check {α : Type*} (fires : Bool) (finding : α) : List α :=
  if fires then [finding] else []

@[simp] theorem check_eq_nil {α : Type*} {fires : Bool} {finding : α} :
    check fires finding = [] ↔ fires = false := by
  cases fires <;> simp [check]

/-! ## Transaction type -/

def transactionTypeCodes : List String :=
  ["MANUAL", "SYSTEM", "IMPORTED", "RECURRING", "ADJUSTMENT", "CLOSING", "JOURNAL_ENTRY",
    "OPENING", "INVOICE", "PAYMENT", "PURCHASE", "REVERSAL"]

theorem empty_not_transactionType : "" ∉ transactionTypeCodes := by decide

inductive TransactionType where
  | manual | system | imported | recurring | adjustment | closing | journalEntry
  | opening | invoice | payment | purchase | reversal
  | other (code : String) (unknown : code ∉ transactionTypeCodes)
deriving DecidableEq

namespace TransactionType

def string : TransactionType → String
  | manual => "MANUAL"
  | system => "SYSTEM"
  | imported => "IMPORTED"
  | recurring => "RECURRING"
  | adjustment => "ADJUSTMENT"
  | closing => "CLOSING"
  | journalEntry => "JOURNAL_ENTRY"
  | opening => "OPENING"
  | invoice => "INVOICE"
  | payment => "PAYMENT"
  | purchase => "PURCHASE"
  | reversal => "REVERSAL"
  | other code _ => code

def isValid : TransactionType → Bool
  | other _ _ => false
  | _ => true

def requiresApproval : TransactionType → Bool
  | manual => true
  | adjustment => true
  | closing => true
  | _ => false

end TransactionType

/-! ## Transaction status -/

def transactionStatusCodes : List String :=
  ["DRAFT", "PENDING_APPROVAL", "APPROVED", "POSTED", "CANCELLED", "REVERSED", "REJECTED"]

theorem empty_not_transactionStatus : "" ∉ transactionStatusCodes := by decide

inductive TransactionStatus where
  | draft | pendingApproval | approved | posted | cancelled | reversed | rejected
  | other (code : String) (unknown : code ∉ transactionStatusCodes)
deriving DecidableEq

namespace TransactionStatus

def string : TransactionStatus → String
  | draft => "DRAFT"
  | pendingApproval => "PENDING_APPROVAL"
  | approved => "APPROVED"
  | posted => "POSTED"
  | cancelled => "CANCELLED"
  | reversed => "REVERSED"
  | rejected => "REJECTED"
  | other code _ => code

def isValid : TransactionStatus → Bool
  | other _ _ => false
  | _ => true

def isEditable : TransactionStatus → Bool
  | draft => true
  | rejected => true
  | _ => false

end TransactionStatus

/-! ## Approval status -/

def approvalStatusCodes : List String :=
  ["NOT_REQUIRED", "PENDING", "APPROVED", "REJECTED", "PARTIALLY_APPROVED", "EXPIRED"]

theorem empty_not_approvalStatus : "" ∉ approvalStatusCodes := by decide

inductive ApprovalStatus where
  | notRequired | pending | approved | rejected | partiallyApproved | expired
  | other (code : String) (unknown : code ∉ approvalStatusCodes)
deriving DecidableEq

namespace ApprovalStatus

def isValid : ApprovalStatus → Bool
  | other _ _ => false
  | _ => true

end ApprovalStatus

/-! ## Rejection reason -/

/-- Any string converts to a rejection reason; the list below says which are supported. -/
abbrev RejectionReason := String

namespace RejectionReason

def ValidReasons : List RejectionReason :=
  ["INVALID_ACCOUNT", "PERIOD_CLOSED", "BUDGET_EXCEEDED", "UNBALANCED_ENTRY",
    "MISSING_DOCUMENTATION", "DUPLICATE_TRANSACTION", "AMOUNT_MISMATCH",
    "UNAUTHORISED_ACCOUNT", "CURRENCY_MISMATCH", "POLICY_VIOLATION", "OTHER", "EXPIRED"]

def isValid (reason : RejectionReason) : Bool := reason ∈ ValidReasons

end RejectionReason

/-! ## Validation status, normal balance and account status -/

def validationStatusCodes : List String := ["VALID", "WARNING", "INVALID", "PENDING"]

theorem empty_not_validationStatus : "" ∉ validationStatusCodes := by decide

inductive ValidationStatus where
  | valid | warning | invalid | pending
  | other (code : String) (unknown : code ∉ validationStatusCodes)
deriving DecidableEq

inductive NormalBalance where
  | debit | credit
  | other (code : String) (unknown : code ∉ ["DEBIT", "CREDIT"])
deriving DecidableEq

namespace NormalBalance

def string : NormalBalance → String
  | debit => "DEBIT"
  | credit => "CREDIT"
  | other code _ => code

end NormalBalance

inductive RootType where
  | asset | liability | equity | revenue | expense
  | other (code : String) (unknown : code ∉ ["ASSET", "LIABILITY", "EQUITY", "REVENUE", "EXPENSE"])
deriving DecidableEq

namespace RootType

def string : RootType → String
  | asset => "ASSET"
  | liability => "LIABILITY"
  | equity => "EQUITY"
  | revenue => "REVENUE"
  | expense => "EXPENSE"
  | other code _ => code

theorem empty_unknown : "" ∉ ["ASSET", "LIABILITY", "EQUITY", "REVENUE", "EXPENSE"] := by decide

end RootType

/-- Assets and expenses are debit-normal, everything else is credit-normal. -/
def getNormalBalanceForRootType : RootType → NormalBalance
  | .asset => .debit
  | .expense => .debit
  | _ => .credit

def accountStatusCodes : List String :=
  ["DRAFT", "PENDING_APPROVAL", "ACTIVE", "INACTIVE", "SUSPENDED", "RESTRICTED", "FROZEN",
    "UNDER_REVIEW", "YEAR_END_PROCESSING", "AUDIT_LOCK", "COMPLIANCE_HOLD",
    "SYSTEM_MAINTENANCE", "DATA_ERROR", "CLOSED", "ARCHIVED"]

inductive AccountStatus where
  | draft | pendingApproval | active | inactive | suspended | restricted | frozen
  | underReview | yearEndProcessing | auditLock | complianceHold | systemMaintenance
  | dataError | closed | archived
  | other (code : String) (unknown : code ∉ accountStatusCodes)
deriving DecidableEq

namespace AccountStatus

def string : AccountStatus → String
  | draft => "DRAFT"
  | pendingApproval => "PENDING_APPROVAL"
  | active => "ACTIVE"
  | inactive => "INACTIVE"
  | suspended => "SUSPENDED"
  | restricted => "RESTRICTED"
  | frozen => "FROZEN"
  | underReview => "UNDER_REVIEW"
  | yearEndProcessing => "YEAR_END_PROCESSING"
  | auditLock => "AUDIT_LOCK"
  | complianceHold => "COMPLIANCE_HOLD"
  | systemMaintenance => "SYSTEM_MAINTENANCE"
  | dataError => "DATA_ERROR"
  | closed => "CLOSED"
  | archived => "ARCHIVED"
  | other code _ => code

end AccountStatus

/-! ## Accounting periods -/

inductive PeriodStatus where
  | open | softClosed | hardClosed | locked
  | other (code : String) (unknown : code ∉ ["open", "soft_closed", "hard_closed", "locked"])
deriving DecidableEq

namespace PeriodStatus

def string : PeriodStatus → String
  | .open => "open"
  | softClosed => "soft_closed"
  | hardClosed => "hard_closed"
  | locked => "locked"
  | other code _ => code

/-- Only an open period takes ordinary postings. -/
def allowsPosting (status : PeriodStatus) : Bool := status = .open

end PeriodStatus

end ErpFinance.Domain
