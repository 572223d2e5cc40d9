import ErpFinance.Domain.TransactionEntry

/-!
# Transactions

The transaction header with its entries, its validator and the predicates the
posting code asks of it.  The header totals are stored numbers of their own:
nothing ties them to the entries until a validator compares the two.

The request from which a transaction is created, with its validator.  The
request of an entry is judged as an entry whose identifiers are placeholders.
-/

namespace ErpFinance.Domain

open Library

structure Transaction where
  id : Uuid := Uuid.Nil
  tenantID : Uuid := Uuid.Nil
  entityID : Option Uuid := none
  transactionNumber : String := ""
  transactionType : TransactionType := .other "" empty_not_transactionType
  transactionStatus : TransactionStatus := .other "" empty_not_transactionStatus
  transactionDate : Time := Time.zero
  postingDate : Option Time := none
  dueDate : Option Time := none
  description : String := ""
  referenceNumber : Option String := none
  externalReference : Option String := none
  currencyCode : String := ""
  exchangeRate : Decimal := 0
  totalDebitAmount : Decimal := 0
  totalCreditAmount : Decimal := 0
  sourceModule : Option String := none
  approvalRequired : Bool := false
  approvalStatus : ApprovalStatus := .other "" empty_not_approvalStatus
  approvedBy : Option Uuid := none
  approvedAt : Option Time := none
  approvalNotes : Option String := none
  isRecurring : Bool := false
  recurringFrequency : Option String := none
  nextRecurringDate : Option Time := none
  isReversed : Bool := false
  reversedByTransactionID : Option Uuid := none
  reversalReason : Option String := none
  validationStatus : ValidationStatus := .other "" empty_not_validationStatus
  rejectionReason : Option RejectionReason := none
  entries : List TransactionEntry := []
  createdAt : Time := Time.zero
  updatedAt : Time := Time.zero
  createdBy : Uuid := Uuid.Nil
  updatedBy : Option Uuid := none
  postedBy : Option Uuid := none
  postedAt : Option Time := none
deriving DecidableEq

def totalDebits (entries : List TransactionEntry) : Decimal :=
  (entries.map TransactionEntry.debitAmount).sum

def totalCredits (entries : List TransactionEntry) : Decimal :=
  (entries.map TransactionEntry.creditAmount).sum

namespace Transaction

instance : Keyed Transaction Uuid := ⟨Transaction.id⟩

@[simp] theorem key_eq (t : Transaction) : Keyed.key t = t.id := rfl

/-- `IsBalanced` compares the header totals; it does not look at the entries. -/
def isBalanced (t : Transaction) : Bool := t.totalDebitAmount = t.totalCreditAmount

def canBePosted (t : Transaction) : Bool :=
  if !t.isBalanced then false
  else match t.transactionStatus with
    | .approved => !(t.approvalRequired && t.approvalStatus ≠ .approved)
    | .draft => !(t.approvalRequired && t.approvalStatus ≠ .approved)
    | _ => false

/-- `CalculateTotals`: overwrite the header totals by the sums of the entries. -/
def calculateTotals (t : Transaction) : Transaction :=
  { t with
    totalDebitAmount := totalDebits t.entries
    totalCreditAmount := totalCredits t.entries }

/-! ## Validation -/

def entryFindings (index : Nat) (e : TransactionEntry) : List ValidationError :=
  e.validate.map (fun err =>
    { field := entryPath index ++ "." ++ err.field, message := err.message, code := err.code })

/-- The status and approval rules of `Validate`. -/
def validateStatus (t : Transaction) : List ValidationError :=
  check (!t.transactionStatus.isValid)
    { field := "transaction_status", message := "Invalid transaction status",
      code := "INVALID_VALUE" } ++
  check (!t.approvalStatus.isValid)
    { field := "approval_status", message := "Invalid approval status",
      code := "INVALID_VALUE" }

/-- The two rules of `Validate` that tie the approval status to the requirement. -/
def validateApproval (t : Transaction) : List ValidationError :=
  check (t.approvalRequired && t.approvalStatus = .notRequired)
    { field := "approval_status",
      message := "Approval status cannot be 'NOT_REQUIRED' when approval is required",
      code := "INCONSISTENT_APPROVAL_SETTINGS" } ++
  check (!t.approvalRequired && t.approvalStatus ≠ .notRequired)
    { field := "approval_status",
      message := "Approval status must be 'NOT_REQUIRED' when approval is not required",
      code := "INCONSISTENT_APPROVAL_SETTINGS" }

variable {t : Transaction}

theorem validateStatus_eq_nil_iff :
    t.validateStatus = [] ↔
      t.transactionStatus.isValid = true ∧ t.approvalStatus.isValid = true := by
  simp [validateStatus]

/-- By the approval rules, approval is required exactly when the status is not `NOT_REQUIRED`. -/
theorem validateApproval_eq_nil_iff :
    t.validateApproval = [] ↔ (t.approvalRequired = true ↔ t.approvalStatus ≠ .notRequired) := by
  cases required : t.approvalRequired <;> simp [validateApproval, required]

/-- `Transaction.Validate`, finding by finding in the order of the source. -/
def validate (t : Transaction) : List ValidationError :=
  check (t.tenantID = Uuid.Nil)
    { field := "tenant_id", message := "Tenant ID is required", code := "REQUIRED_FIELD" } ++
  (if isBlank t.transactionNumber then
    [{ field := "transaction_number", message := "Transaction number is required",
       code := "REQUIRED_FIELD" }]
  else check (50 < byteLen t.transactionNumber)
    { field := "transaction_number",
      message := "Transaction number must be 50 characters or less",
      code := "MAX_LENGTH_EXCEEDED" }) ++
  (if isBlank t.description then
    [{ field := "description", message := "Description is required",
       code := "REQUIRED_FIELD" }]
  else check (500 < byteLen t.description)
    { field := "description", message := "Description must be 500 characters or less",
      code := "MAX_LENGTH_EXCEEDED" }) ++
  check (!t.transactionType.isValid)
    { field := "transaction_type", message := "Invalid transaction type",
      code := "INVALID_VALUE" } ++
  t.validateStatus ++
  check (byteLen t.currencyCode ≠ 3)
    { field := "currency_code",
      message := "Currency code must be exactly 3 characters (ISO 4217)",
      code := "INVALID_FORMAT" } ++
  check (t.exchangeRate ≤ 0)
    { field := "exchange_rate", message := "Exchange rate must be greater than zero",
      code := "VALUE_OUT_OF_RANGE" } ++
  check t.transactionDate.isZero
    { field := "transaction_date", message := "Transaction date is required",
      code := "REQUIRED_FIELD" } ++
  check (t.postingDate.any (·.before t.transactionDate))
    { field := "posting_date", message := "Posting date cannot be before transaction date",
      code := "INVALID_DATE_SEQUENCE" } ++
  t.validateApproval ++
  (if t.isRecurring then
    check (t.recurringFrequency.all isBlank)
      { field := "recurring_frequency",
        message := "Recurring frequency is required for recurring transactions",
        code := "REQUIRED_FIELD_CONDITIONAL" } ++
    check t.nextRecurringDate.isNone
      { field := "next_recurring_date",
        message := "Next recurring date is required for recurring transactions",
        code := "REQUIRED_FIELD_CONDITIONAL" }
  else []) ++
  check (t.isReversed && t.reversedByTransactionID.isNone)
    { field := "reversed_by_transaction_id",
      message :=
        "Reversed by transaction ID is required when transaction is marked as reversed",
      code := "REQUIRED_FIELD_CONDITIONAL" } ++
  check (t.entries.length < 2)
    { field := "entries", message := "Transaction must have at least 2 entries",
      code := "INSUFFICIENT_ENTRIES" } ++
  check (!t.isBalanced)
    { field := "entries",
      message := "Transaction does not balance: debits=" ++ Decimal.string t.totalDebitAmount ++
        ", credits=" ++ Decimal.string t.totalCreditAmount,
      code := "TRANSACTION_UNBALANCED" } ++
  (t.entries.zipIdx.flatMap (fun indexed => entryFindings indexed.2 indexed.1))

theorem status_rules_of_validate (valid : t.validate = []) :
    t.validateStatus = [] ∧ t.validateApproval = [] := by
  unfold validate at valid
  simp only [List.append_eq_nil_iff] at valid
  obtain ⟨⟨⟨⟨⟨⟨⟨⟨⟨⟨⟨_, statusValid⟩, _⟩, _⟩, _⟩, _⟩, approvalValid⟩, _⟩, _⟩, _⟩, _⟩, _⟩ := valid
  exact ⟨statusValid, approvalValid⟩

/-! ## A sample transaction -/

/-- One line of the sample transaction. -/
def rentEntry (number : Int) (account : Uuid) (debit credit : Decimal) : TransactionEntry :=
  { id := 100 + account, tenantID := 7, transactionID := 1, entryNumber := number,
    accountID := account, debitAmount := debit, creditAmount := credit,
    description := "Office rent", exchangeRate := 1 }

def rentDraft : Transaction :=
  { id := 1, tenantID := 7, transactionNumber := "TXN-2024-000001", transactionType := .manual,
    transactionStatus := .draft, transactionDate := ⟨2024, 5, 1, 0, by decide⟩,
    description := "Office rent May", currencyCode := "USD", exchangeRate := 1,
    totalDebitAmount := 100, totalCreditAmount := 100, approvalStatus := .notRequired,
    validationStatus := .valid, createdBy := 21,
    entries := [rentEntry 1 11 100 0, rentEntry 2 12 0 100] }

end Transaction

structure CreateEntryRequest where
  accountID : Uuid
  debitAmount : Decimal := 0
  creditAmount : Decimal := 0
  description : String
  reference : Option String := none
  costCenter : Option String := none
  department : Option String := none
  projectID : Option Uuid := none
  originalCurrency : Option String := none
  originalAmount : Decimal := 0
  exchangeRate : Decimal := 0
  taxCode : Option String := none
  taxRate : Decimal := 0
  taxAmount : Decimal := 0

/-- `CreateEntryRequest.Validate`; a missing account is reported twice. -/
def CreateEntryRequest.validate (r : CreateEntryRequest) : List ValidationError :=
  let entry : TransactionEntry :=
    { tenantID := 1, transactionID := 1, accountID := r.accountID, entryNumber := 1,
      debitAmount := r.debitAmount, creditAmount := r.creditAmount,
      description := r.description, reference := r.reference, costCenter := r.costCenter,
      department := r.department, projectID := r.projectID,
      originalCurrency := r.originalCurrency, originalAmount := r.originalAmount,
      exchangeRate := r.exchangeRate, taxCode := r.taxCode, taxRate := r.taxRate,
      taxAmount := r.taxAmount }
  entry.validate.filter (fun err => err.field ∉ ["tenant_id", "transaction_id", "entry_number"]) ++
    check (r.accountID = Uuid.Nil)
      { field := "account_id", message := "Account ID is required", code := "REQUIRED_FIELD" }

structure CreateTransactionRequest where
  entityID : Option Uuid := none
  transactionNumber : String
  transactionType : TransactionType
  transactionDate : Time
  description : String
  referenceNumber : Option String := none
  currencyCode : String
  exchangeRate : Decimal
  sourceModule : Option String := none
  isRecurring : Bool := false
  recurringFrequency : Option String := none
  entries : List CreateEntryRequest

namespace CreateTransactionRequest

/-- `CreateTransactionRequest.Validate`, finding by finding in the order of the source. -/
def validate (r : CreateTransactionRequest) : List ValidationError :=
  let totalDebit := (r.entries.map CreateEntryRequest.debitAmount).sum
  let totalCredit := (r.entries.map CreateEntryRequest.creditAmount).sum
  check (isBlank r.transactionNumber)
    { field := "transaction_number", message := "Transaction number is required",
      code := "REQUIRED_FIELD" } ++
  check (isBlank r.description)
    { field := "description", message := "Description is required",
      code := "REQUIRED_FIELD" } ++
  check (!r.transactionType.isValid)
    { field := "transaction_type", message := "Invalid transaction type",
      code := "INVALID_VALUE" } ++
  check (byteLen r.currencyCode ≠ 3)
    { field := "currency_code",
      message := "Currency code must be exactly 3 characters (ISO 4217)",
      code := "INVALID_FORMAT" } ++
  check (r.exchangeRate ≤ 0)
    { field := "exchange_rate", message := "Exchange rate must be greater than zero",
      code := "VALUE_OUT_OF_RANGE" } ++
  check (r.entries.length < 2)
    { field := "entries", message := "Transaction must have at least 2 entries",
      code := "INSUFFICIENT_ENTRIES" } ++
  check (totalDebit ≠ totalCredit)
    { field := "entries",
      message := "Transaction entries do not balance: debits=" ++ Decimal.string totalDebit ++
        ", credits=" ++ Decimal.string totalCredit,
      code := "TRANSACTION_UNBALANCED" } ++
  check (r.isRecurring && r.recurringFrequency.all isBlank)
    { field := "recurring_frequency",
      message := "Recurring frequency is required for recurring transactions",
      code := "REQUIRED_FIELD_CONDITIONAL" } ++
  r.entries.zipIdx.flatMap (fun indexed => indexed.1.validate.map (fun err =>
    { field := entryPath indexed.2 ++ "." ++ err.field, message := err.message,
      code := err.code }))

end CreateTransactionRequest

end ErpFinance.Domain
