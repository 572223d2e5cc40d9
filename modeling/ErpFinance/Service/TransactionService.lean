import ErpFinance.Repository.Database

/-!
# The transaction service

Creating, editing, approving, rejecting, posting and reversing transactions.
Posting has two implementations, the inline one and the pipeline of stages; the
service uses the pipeline when one is injected.  Every operation yields the
database it leaves, also when it fails.
-/

namespace ErpFinance.Service

open Domain Library Repository

namespace TransactionService

/-- What the service is constructed with. -/
structure Config where
  /-- `MaxTransactionAmount` of a tenant's safety policy; zero switches the check off. -/
  maxTransactionAmount : Uuid → Decimal := fun _ => 0
  periodRepo : Bool := true
  reversalHistoryRepo : Bool := true
  txRunner : Bool := true
  postPipeline : Bool := false

/-- The database an operation leaves and what it returns. -/
abbrev Outcome := Database × Except Error Transaction

def MaxEntriesPerTransaction : Nat := 500

variable (cfg : Config) (env : Env) (db : Database)

/-! ## The entry service -/

/-- `TransactionEntryService.CreateEntry`. -/
def createEntry (index : Nat) (e : TransactionEntry) : Except Error Database :=
  if e.validate ≠ [] then .error (.business "VALIDATION_ERROR" "Entry validation failed")
  else match db.getAccount env e.accountID with
    | .error err => .error (.wrapped "account not found" err)
    | .ok account =>
      if e.validateBusinessRules account ≠ [] then
        .error (.business "BUSINESS_RULE_ERROR" "Entry business rule validation failed")
      else if e.validateAmountConsistency ≠ [] then
        .error (.business "CURRENCY_ERROR" "Entry currency validation failed")
      else match db.createEntry env index e with
        | .error err => .error (.wrapped "failed to create entry" err)
        | .ok db' => .ok db'

/-- What `CreateEntries` finds wrong with one entry. -/
def entryFindings (e : TransactionEntry) : List Domain.ValidationError :=
  if e.validate ≠ [] then e.validate
  else match db.getAccount env e.accountID with
    | .error _ => [{ field := "account_id", message := "Account not found",
                     code := "INVALID_ACCOUNT" }]
    | .ok account => e.validateBusinessRules account ++ e.validateAmountConsistency

/-- The insert loop of `CreateEntries`: a failing insert leaves the earlier ones. -/
def insertEntries : Nat → List TransactionEntry → Database → Database × Option Error
  | _, [], db => (db, none)
  | index, e :: rest, db =>
    match db.createEntry env index e with
    | .error err =>
      (db, some (.wrapped ("CreateEntries: entry " ++ toString e.entryNumber) err))
    | .ok db' => insertEntries (index + 1) rest db'

/-- `TransactionEntryService.CreateEntries`: all entries are checked before any is stored. -/
def createEntries (entries : List TransactionEntry) : Database × Option Error :=
  if entries = [] then (db, some (.business "VALIDATION_ERROR" "No entries provided"))
  else if entries.flatMap (entryFindings env db) ≠ [] then
    (db, some (.business "VALIDATION_ERROR" "Bulk entry validation failed"))
  else match insertEntries env 0 entries db with
    | (db', some err) => (db', some (.wrapped "failed to create bulk entries" err))
    | (db', none) => (db', none)

/-- `GetEntriesByTransactionID` of the entry service, as the service reports its failure. -/
def getEntriesByTransactionID (id : Uuid) : Except Error (List TransactionEntry) :=
  (db.getEntriesByTransaction env id).mapError (fun err =>
    .wrapped "failed to get transaction entries" (.wrapped "failed to get entries" err))

/-! ## Creating -/

/-- The header `CreateTransaction` builds: a draft, pending where its type needs approval. -/
def newTransaction (tenant : Uuid) (req : CreateTransactionRequest) : Transaction :=
  { id := env.newID
    tenantID := tenant
    entityID := req.entityID
    transactionNumber := req.transactionNumber
    transactionDate := req.transactionDate
    transactionType := req.transactionType
    description := req.description
    referenceNumber := req.referenceNumber
    currencyCode := req.currencyCode
    exchangeRate := req.exchangeRate
    transactionStatus := .draft
    approvalRequired := req.transactionType.requiresApproval
    approvalStatus := if req.transactionType.requiresApproval then .pending else .notRequired
    sourceModule := req.sourceModule
    createdBy := env.caller.userID.getD Uuid.Nil }

/-- The entries `CreateTransaction` builds; the rates of the request are not copied. -/
def newEntries (tenant : Uuid) (req : CreateTransactionRequest) : List TransactionEntry :=
  req.entries.zipIdx.map (fun indexed =>
    { tenantID := tenant
      transactionID := env.newID
      entryNumber := indexed.2 + 1
      accountID := indexed.1.accountID
      debitAmount := indexed.1.debitAmount
      creditAmount := indexed.1.creditAmount
      description := indexed.1.description
      reference := indexed.1.reference })

/-- The atomic and the best-effort path report one failure in different words. -/
def failure (atomic bestEffort : String) (err : Error) : Error :=
  .wrapped (if cfg.txRunner then atomic else bestEffort) err

/-- A best-effort clean-up: a failing delete is ignored. -/
def cleanUp (id : Uuid) : Database := (db.delete env id).toOption.getD db

/--
The storing part of `CreateTransaction`: in one database transaction when a
runner is injected, else header first and a clean-up when the entries fail.
-/
def storeTransaction (t : Transaction) (entries : List TransactionEntry) : Outcome :=
  match db.create env t with
  | .error err => (db, .error (failure cfg "create header" "failed to create transaction" err))
  | .ok (db₁, stored) =>
    if entries = [] then (db₁, .ok stored)
    else match createEntries env db₁ entries with
      | (db₂, some err) =>
        (if cfg.txRunner then db else cleanUp env db₂ stored.id,
          .error (failure cfg "create entries" "failed to create transaction entries" err))
      | (db₂, none) => (db₂, .ok stored)

def createTransaction (req : CreateTransactionRequest) : Outcome :=
  if MaxEntriesPerTransaction < req.entries.length then
    (db, .error (.business "ENTRIES_LIMIT_EXCEEDED"
      ("transaction cannot have more than " ++ toString MaxEntriesPerTransaction ++
        " entries (submitted " ++ toString req.entries.length ++ ")")))
  else if req.validate ≠ [] then
    (db, .error (.business "TRANSACTION_VALIDATION_FAILED" "Transaction validation failed"))
  else match db.isTransactionNumberUnique env req.transactionNumber with
    | .error err => (db, .error (.wrapped "uniqueness check failed" err))
    | .ok false => (db, .error .transactionNumberExists)
    | .ok true =>
      match env.caller.getTenantID with
      | none => (db, .error (.business "MISSING_TENANT"
          "tenant context is required to create a transaction"))
      | some tenant =>
        storeTransaction cfg env db (newTransaction env tenant req)
          (newEntries env tenant req)

/-! ## Editing -/

def tenantMismatch : Error :=
  .business "TENANT_MISMATCH" "transaction does not belong to the caller's tenant"

/-- `checkTenantOwnership`: a caller without a tenant is trusted. -/
def ownedElsewhere (t : Transaction) : Bool :=
  env.caller.getTenantID.any (· ≠ t.tenantID)

/-- `UpdateTransaction`: the request as it came is handed to the repository. -/
def updateTransaction (id : Uuid) (req : Transaction) : Outcome :=
  match db.getByID env .getByID id with
  | .error err => (db, .error err)
  | .ok existing =>
    if ownedElsewhere env existing then (db, .error tenantMismatch)
    else if !existing.transactionStatus.isEditable then
      (db, .error (.business "TRANSACTION_NOT_EDITABLE"
        ("transaction with status " ++ existing.transactionStatus.string.quote ++
          " cannot be edited; only DRAFT and REJECTED transactions are editable")))
    else if req.validate ≠ [] then
      (db, .error (.business "TRANSACTION_UPDATE_VALIDATION_FAILED"
        "Transaction update validation failed"))
    else match db.update env { req with id := id } with
      | .error err => (db, .error (.wrapped "failed to update transaction" err))
      | .ok db' => (db', .ok { req with id := id })

/-! ## Approving and rejecting -/

/-- Read the header again after a write, for the caller. -/
def reread (written : Database) (context : String) (id : Uuid) : Outcome :=
  match written.getByID env .reload id with
  | .error err => (written, .error (.wrapped context err))
  | .ok t => (written, .ok t)

/-- `ApproveTransaction`; an already approved transaction is returned as it is. -/
def approveTransaction (id : Uuid) (notes : String) : Outcome :=
  match db.getByID env .getByID id with
  | .error err => (db, .error err)
  | .ok t =>
    if t.approvalStatus = .approved then (db, .ok t)
    else if !t.approvalRequired || t.approvalStatus ≠ .pending then
      (db, .error (.business "INVALID_APPROVAL_STATUS" "Transaction is not pending approval"))
    else if env.caller.userID = some t.createdBy then
      (db, .error (.business "SOD_VIOLATION"
        "approver cannot be the same as the transaction submitter"))
    else match env.velocity with
      | .error err => (db, .error err)
      | .ok () =>
        match db.approve env id (env.caller.userID.getD t.createdBy) notes with
        | .error err => (db, .error (.wrapped "failed to approve transaction" err))
        | .ok db' => reread env db' "failed to retrieve approved transaction" id

def rejectTransaction (id : Uuid) (reason : RejectionReason) (notes : String) : Outcome :=
  if !RejectionReason.isValid reason then
    (db, .error (.business "INVALID_REJECTION_REASON"
      ("rejection reason " ++ String.quote reason ++ " is not valid")))
  else match db.getByID env .getByID id with
    | .error err => (db, .error err)
    | .ok t =>
      if !t.approvalRequired || t.approvalStatus ≠ .pending then
        (db, .error (.business "INVALID_APPROVAL_STATUS"
          "Transaction is not pending approval"))
      else if env.caller.userID.all (· = Uuid.Nil) then
        (db, .error (.business "MISSING_REJECTOR"
          "authenticated user identity is required to reject a transaction"))
      else if env.caller.userID = some t.createdBy then
        (db, .error (.business "SOD_VIOLATION"
          "rejector cannot be the same as the transaction submitter"))
      else match db.reject env id notes with
        | .error err => (db, .error (.wrapped "failed to reject transaction" err))
        | .ok db' => reread env db' "failed to retrieve rejected transaction" id

/-! ## Posting inline -/

def checkTransactionAmount (totalDebit : Decimal) : Except Error Unit :=
  let limit := cfg.maxTransactionAmount (env.caller.getTenantID.getD Uuid.Nil)
  if limit ≠ 0 && limit < totalDebit then
    .error (.business "SAFETY_AMOUNT_EXCEEDED"
      ("transaction amount " ++ Decimal.stringFixed totalDebit 2 ++ " exceeds policy maximum " ++
        Decimal.stringFixed limit 2 ++ "; request secondary approval or raise the limit"))
  else .ok ()

/-- What `ValidateTransaction` finds wrong with one entry. -/
def validateEntry (e : TransactionEntry) : List Domain.ValidationError :=
  e.validate ++
    match db.getAccount env e.accountID with
    | .error _ => [{ field := "entries[" ++ toString e.entryNumber ++ "].account_id",
                     message := "Account not found", code := "INVALID_ACCOUNT",
                     severity := "ERROR" }]
    | .ok account => e.validateBusinessRules account ++ e.validateAmountConsistency

def validateTransaction (entries : List TransactionEntry) : List Domain.ValidationError :=
  if entries = [] then
    [{ field := "entries", message := "Transaction must have at least one entry",
       code := "MISSING_ENTRIES", severity := "ERROR" }]
  else
    entries.flatMap (validateEntry env db) ++
    check (totalDebits entries ≠ totalCredits entries)
      { field := "transaction",
        message := "Transaction is not balanced — debits: " ++
          Decimal.string (totalDebits entries) ++ ", credits: " ++
          Decimal.string (totalCredits entries),
        code := "UNBALANCED_TRANSACTION", severity := "ERROR" } ++
    check (totalDebits entries = 0)
      { field := "transaction", message := "Transaction cannot have zero amounts",
        code := "ZERO_AMOUNT_TRANSACTION", severity := "ERROR" } ++
    check ((entries.map TransactionEntry.accountID).dedup.length < 2)
      { field := "transaction", message := "Transaction must affect at least two accounts",
        code := "SINGLE_ACCOUNT_TRANSACTION", severity := "ERROR" }

/-- The period check of the inline path. -/
def checkPeriod (date : Time) : Except Error Unit :=
  if !cfg.periodRepo then .ok ()
  else match db.getPeriodForDate env date with
    | .error _ => .error (.wrapped ("period lookup for " ++ date.dateString) .periodNotFound)
    | .ok period =>
      if period.status.allowsPosting then .ok ()
      else .error (.business "PERIOD_CLOSED"
        ("accounting period " ++ period.name.quote ++ " is " ++ period.status.string ++
          "; no further postings allowed"))

/-- The checks between the status switch and the write of the inline path. -/
def inlineChecks (t : Transaction) (date : Time) : Except Error (List TransactionEntry) := do
  checkTransactionAmount cfg env t.totalDebitAmount
  let entries ← getEntriesByTransactionID env db t.id
  if entries = [] then
    .error (.business "NO_ENTRIES" "Cannot post transaction without entries")
  let findings := validateTransaction env db entries
  if findings ≠ [] then
    .error (.business "TRANSACTION_POSTING_VALIDATION"
      ("Transaction validation failed: [" ++
        " ".intercalate (findings.map Domain.ValidationError.message) ++ "]"))
  checkPeriod cfg env db date
  return entries

/--
The status switch: an approved transaction goes on, a draft without required
approval is approved first, and anything else is refused.
-/
def clearForPosting (t : Transaction) : Except Error Database :=
  match t.transactionStatus with
  | .approved => .ok db
  | .draft =>
    if t.approvalRequired then
      .error (.business "APPROVAL_REQUIRED" "transaction requires approval before posting")
    else match db.approve env t.id t.createdBy "auto-approved: no approval required" with
      | .error err => .error (.wrapped
          "failed to auto-approve no-approval transaction before posting" err)
      | .ok db' => .ok db'
  | status => .error (.business "INVALID_STATUS"
      ("cannot post transaction with status " ++ status.string.quote))

/-- One account of `updateAccountBalances`: recalculate and store, keeping what fails. -/
def refreshBalance (account : Uuid) : Database :=
  match db.getAccountBalance env account with
  | .error _ => db
  | .ok balance => (db.updateBalance env account balance).toOption.getD db

/-- `updateAccountBalances`: every account of the entries once. -/
def updateAccountBalances (entries : List TransactionEntry) : Database :=
  (entries.map TransactionEntry.accountID).dedup.foldl (refreshBalance env) db

def postTransactionInline (id : Uuid) (postingDate : Option Time) : Outcome :=
  match db.getByID env .getByID id with
  | .error err => (db, .error err)
  | .ok t =>
    if ownedElsewhere env t then (db, .error tenantMismatch)
    else if t.transactionStatus = .posted then (db, .ok t)
    else match clearForPosting env db t with
      | .error err => (db, .error err)
      | .ok admitted =>
        match inlineChecks cfg env admitted t (postingDate.getD env.now) with
        | .error err => (admitted, .error err)
        | .ok entries =>
          match admitted.post env id with
          | .error err => (admitted, .error (.wrapped "failed to post transaction" err))
          | .ok written =>
            match written.getByID env .reload id with
            | .error err => (written,
                .error (.wrapped "failed to retrieve posted transaction" err))
            | .ok posted => (updateAccountBalances env written entries, .ok posted)

/-! ## Posting through the pipeline -/

/-- The builder stops at the first failing stage and names it. -/
def stage {α : Type} (name : String) (result : Except Error α) : Except Error α :=
  result.mapError (.wrapped ("pipeline: required stage \"" ++ name ++ "\" failed"))

def loadTransactionStage (id : Uuid) : Except Error (Transaction × List TransactionEntry) :=
  match db.getByID env .getByID id with
  | .error err => .error (.wrapped "gl.load_transaction" err)
  | .ok t =>
    match db.getEntriesByTransaction env id with
    | .error err => .error (.wrapped "gl.load_transaction: get entries" err)
    | .ok entries => .ok (t, entries)

/-- What the balance rules find wrong with the entry at an index. -/
def sidesFindings (index : Nat) (e : TransactionEntry) : List Domain.ValidationError :=
  check (e.debitAmount ≠ 0 && e.creditAmount ≠ 0)
    { field := entryPath index, message := "Entry cannot have both debit and credit amounts",
      code := "ENTRY_BOTH_DEBIT_CREDIT" } ++
  check (e.debitAmount = 0 && e.creditAmount = 0)
    { field := entryPath index, message := "Entry must have either debit or credit amount",
      code := "ENTRY_NO_AMOUNT" }

/-- `ValidateTransactionBalance` of the business rule validator. -/
def validateTransactionBalance (entries : List TransactionEntry) : List Domain.ValidationError :=
  if entries = [] then
    [{ field := "entries", message := "Transaction must have at least one entry",
       code := "NO_TRANSACTION_ENTRIES" }]
  else
    entries.zipIdx.flatMap (fun indexed => sidesFindings indexed.2 indexed.1) ++
    check (totalDebits entries ≠ totalCredits entries)
      { field := "entries",
        message := "Transaction is not balanced: debits=" ++
          Decimal.string (totalDebits entries) ++ ", credits=" ++
          Decimal.string (totalCredits entries),
        code := "TRANSACTION_UNBALANCED" }

def balanceCheckStage (entries : List TransactionEntry) : Except Error Unit :=
  if entries.length < 2 then
    .error (.business "INSUFFICIENT_ENTRIES" "transaction must have at least two entries")
  else match validateTransactionBalance entries with
    | [] => .ok ()
    | first :: _ => .error (.business first.code first.message)

/-- The posting date of a stage: the zero time stands for the clock. -/
def stageDate (date : Time) : Time := if date.isZero then env.now else date

def periodCheckStage (date : Time) : Except Error Unit :=
  if !cfg.periodRepo then .ok ()
  else match db.getPeriodForDate env (stageDate env date) with
    | .error _ => .error (.business "PERIOD_NOT_FOUND"
        ("no accounting period found for date " ++ (stageDate env date).dateString))
    | .ok period =>
      if period.status.allowsPosting then .ok ()
      else .error (.business "PERIOD_CLOSED"
        ("accounting period " ++ period.name.quote ++ " (" ++
          (stageDate env date).dateString ++ ") is " ++ period.status.string ++
          " — posting not allowed"))

/-- `AccountValidateStage`: the first entry whose account is missing or closed stops it. -/
def accountValidateStage : Nat → List TransactionEntry → Except Error Unit
  | _, [] => .ok ()
  | index, e :: rest =>
    let path := entryPath index ++ ".account_id: account "
    match db.getAccount env e.accountID with
    | .error _ => .error (.business "INVALID_ACCOUNT"
        (path ++ Uuid.string e.accountID ++ " not found"))
    | .ok account =>
      if account.canAcceptTransactions then accountValidateStage (index + 1) rest
      else .error (.business "ACCOUNT_NOT_ACTIVE"
        (path ++ account.accountCode ++ " (" ++ account.accountName ++
          ") cannot accept transactions — status: " ++ account.status.string))

/-- `GLPostStage`: the state machine is asked, then the repository writes. -/
def glPostStage (t : Transaction) : Except Error Database :=
  match t.canTransitionTo .posted with
  | some reason => .error (.business "CANNOT_POST" reason)
  | none =>
    match db.post env t.id with
    | .error err => .error (.wrapped "gl.post: failed to post transaction" err)
    | .ok db' => .ok db'

/-- The stages in the order of their priorities. -/
def runPipeline (id : Uuid) (date : Time) : Except Error Database := do
  let (t, entries) ← stage "gl.load_transaction" (loadTransactionStage env db id)
  stage "gl.balance_check" (balanceCheckStage entries)
  stage "gl.period_check" (periodCheckStage cfg env db date)
  stage "gl.account_validate" (accountValidateStage env db 0 entries)
  stage "gl.post" (glPostStage env db t)

def postTransactionViaPipeline (id : Uuid) (postingDate : Option Time) : Outcome :=
  match db.getByID env .getByID id with
  | .error err => (db, .error err)
  | .ok t =>
    if ownedElsewhere env t then
      (db, .error (.business "TENANT_MISMATCH"
        "transaction does not belong to caller's tenant"))
    else match runPipeline cfg env db id (postingDate.getD env.now) with
      | .error err => (db, .error err)
      | .ok written => reread env written "failed to retrieve posted transaction" id

def postTransaction (id : Uuid) (postingDate : Option Time) : Outcome :=
  if cfg.postPipeline then postTransactionViaPipeline cfg env db id postingDate
  else postTransactionInline cfg env db id postingDate

/-! ## Reversing -/

/-- The reversing entry of an entry: its sides swapped. -/
def reversalEntry (e : TransactionEntry) : TransactionEntry :=
  if e.isDebit then
    { e with creditAmount := e.debitAmount, debitAmount := 0,
             description := "REVERSAL: " ++ e.description }
  else
    { e with debitAmount := e.creditAmount, creditAmount := 0,
             description := "REVERSAL: " ++ e.description }

/-- The reversal header: a new draft without required approval. -/
def reversalTransaction (tenant : Uuid) (t : Transaction) (reason : String) : Transaction :=
  { id := env.newID
    tenantID := tenant
    entityID := t.entityID
    transactionNumber := "REV-" ++ t.transactionNumber
    transactionType := .reversal
    transactionDate := env.now
    description := "REVERSAL: " ++ t.description ++ " - " ++ reason
    referenceNumber := some t.transactionNumber
    currencyCode := t.currencyCode
    exchangeRate := t.exchangeRate
    transactionStatus := .draft
    approvalRequired := false
    approvalStatus := .notRequired
    createdBy := env.caller.userID.getD Uuid.Nil }

/-- The entries of a stored reversal header, one by one. -/
def createReversalEntries (tenant id : Uuid) :
    Nat → List TransactionEntry → Database → Database × Option Error
  | _, [], db => (db, none)
  | index, e :: rest, db =>
    match createEntry env db index
        { reversalEntry e with
          tenantID := tenant, transactionID := id, entryNumber := index + 1 } with
    | .error err =>
      (db, some (failure cfg ("create reversal entry " ++ toString (index + 1))
        ("failed to create reversal entry " ++ toString (index + 1)) err))
    | .ok db' => createReversalEntries tenant id (index + 1) rest db'

/-- What is done once the reversal is posted: flag the original and record the reversal. -/
def recordReversal (id reversalID : Uuid) (reason : String) : Database × Option Error :=
  match db.reverse env id reversalID reason with
  | .error err =>
    (db, some (failure cfg "mark original reversed"
      "reversal posted but failed to mark original as reversed" err))
  | .ok flagged =>
    if !cfg.reversalHistoryRepo then (flagged, none)
    else match flagged.insertReversal env
        { originalTransactionID := id, reversalTransactionID := reversalID, reason := reason,
          reversedBy := env.caller.userID } with
      | .error err =>
        (flagged, if cfg.txRunner then some (.wrapped "insert reversal history" err) else none)
      | .ok recorded => (recorded, none)

/--
The writing part of `ReverseTransaction`.  Under a runner every failure rolls
back; without one the header is deleted when its entries or its posting fail.
-/
def storeReversal (id : Uuid) (t : Transaction) (entries : List TransactionEntry)
    (reason : String) (tenant : Uuid) : Outcome :=
  match db.create env (reversalTransaction env tenant t reason) with
  | .error err => (db, .error (failure cfg "create reversal header"
      "failed to create reversal transaction" err))
  | .ok (created, header) =>
    match createReversalEntries cfg env tenant header.id 0 entries created with
    | (stored, some err) =>
      (if cfg.txRunner then db else cleanUp env stored header.id, .error err)
    | (stored, none) =>
      match postTransaction cfg env stored header.id none with
      | (attempted, .error err) =>
        (if cfg.txRunner then db else cleanUp env attempted header.id,
          .error (failure cfg "post reversal" "failed to post reversal transaction" err))
      | (posted, .ok reversal) =>
        match recordReversal cfg env posted id header.id reason with
        | (marked, some err) => (if cfg.txRunner then db else marked, .error err)
        | (marked, none) =>
          if cfg.txRunner then
            if env.fails .writeOutbox then
              (db, .error (.wrapped "audit outbox" .databaseFailure))
            else reread env marked "reversal committed but fetch failed" header.id
          else (marked, .ok reversal)

/--
The checks of `ReverseTransaction` on the caller and the history: the velocity
limit of a known user, a reversal that may not be reversed, the tenant.
-/
def reversalChecks (id : Uuid) : Except Error (List TransactionEntry × Uuid) := do
  if env.caller.userID.isSome then env.velocity
  if cfg.reversalHistoryRepo then
    match db.isReversal env id with
    | .error err => .error (.wrapped "reversal history check failed" err)
    | .ok true =>
      .error (.business "CANNOT_REVERSE_REVERSAL" "cannot reverse a reversal transaction")
    | .ok false => .ok ()
  let entries ← getEntriesByTransactionID env db id
  match env.caller.getTenantID with
  | none => .error (.business "MISSING_TENANT"
      "tenant context is required to reverse a transaction")
  | some tenant => .ok (entries, tenant)

def reverseTransaction (id : Uuid) (reason : String) : Outcome :=
  match db.getByID env .getByID id with
  | .error err => (db, .error err)
  | .ok t =>
    if t.transactionStatus ≠ .posted then
      (db, .error (.business "NOT_POSTED" "Only posted transactions can be reversed"))
    else if t.isReversed then
      (db, .error (.business "ALREADY_REVERSED" "Transaction is already reversed"))
    else match reversalChecks cfg env db id with
      | .error err => (db, .error err)
      | .ok (entries, tenant) => storeReversal cfg env db id t entries reason tenant

end TransactionService

end ErpFinance.Service
