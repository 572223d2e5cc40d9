import ErpFinance.Domain.Workflow
import ErpFinance.Service.DoubleEntryValidator

/-!
# The posting engine

Posting, unposting and batch posting over the transaction and account
repositories.  The repositories are taken at their interface: `GetByID` returns
the stored record, `Update` replaces it, and any call may fail.  A failing
operation keeps whatever it had already written.
-/

namespace ErpFinance.Service

open Domain Library

/-! ## State and environment -/

/-- The two repositories the engine works on. -/
structure Ledger where
  transactions : Table Transaction
  accounts : Table Accounts

/-- Which repository calls of one operation fail, phase by phase. -/
structure Faults where
  /-- `GetByID` of the transaction. -/
  retrieve : Bool := false
  /-- `GetByID` of each account loaded for validation, in order. -/
  load : List Bool := []
  /-- `GetByID` and `Update` of each balance change, alternating. -/
  balances : List Bool := []
  /-- `Update` of the transaction. -/
  save : Bool := false

/-- The clock reading and the repository failures of one operation. -/
structure PostingEnv where
  now : Time
  faults : Faults := {}

namespace PostingEngine

/-- A repository read: the stored row, unless the call fails or there is none. -/
def getByID {ρ : Type} [Keyed ρ Uuid] (table : Table ρ) (notFound : String) (fails : Bool)
    (id : Uuid) : Except String ρ :=
  if fails then .error "repository failure"
  else match table.get? id with
    | some row => .ok row
    | none => .error notFound

/-! ## Requests and results -/

structure PostTransactionRequest where
  transactionID : Uuid
  postedBy : Uuid
  postingDate : Option Time := none
  forcePost : Bool := false
  skipBalanceUpdate : Bool := false
  validateBeforePosting : Bool := false

structure UnpostTransactionRequest where
  transactionID : Uuid
  unpostedBy : Uuid
  reason : String

structure BatchPostRequest where
  transactionIDs : List Uuid
  postedBy : Uuid
  postingDate : Option Time := none
  continueOnError : Bool := false

inductive BalanceUpdateType where
  | debit | credit

structure AccountBalanceUpdate where
  accountID : Uuid
  accountName : String
  previousBalance : Decimal
  balanceChange : Decimal
  newBalance : Decimal
  updateType : BalanceUpdateType

structure AccountingPeriodInfo where
  periodName : String
  startDate : Time
  endDate : Time
  isClosed : Bool

structure PostingValidationResult where
  canPost : Bool
  validationLevel : ValidationLevel
  errors : List ValidationError
  warnings : List ValidationWarning
  businessRules : List BusinessRuleResult
  accountingPeriod : Option AccountingPeriodInfo

structure PostTransactionResult where
  transactionID : Uuid
  success : Bool := false
  postedAt : Time := Time.zero
  postedBy : Uuid
  balanceUpdates : List AccountBalanceUpdate := []
  validationResult : Option PostingValidationResult := none
  errors : List String := []
  warnings : List String := []

structure UnpostTransactionResult where
  transactionID : Uuid
  success : Bool := false
  unpostedAt : Time
  unpostedBy : Uuid
  balanceUpdates : List AccountBalanceUpdate := []
  errors : List String := []

structure BatchPostResult where
  totalTransactions : Nat
  successfulPosts : Nat := 0
  failedPosts : Nat := 0
  results : List PostTransactionResult := []
  batchBalanceUpdates : List AccountBalanceUpdate := []

/-! ## Validation before posting -/

/-- The period a posting date falls in; the source never marks it closed. -/
def accountingPeriod (date : Time) : AccountingPeriodInfo where
  periodName := toString date.year ++ "-" ++ twoDigits date.month
  startDate := date.monthStart
  endDate := date.monthEnd
  isClosed := false

def validatePostingRequirements (tolerance : Decimal) (now : Time) (t : Transaction)
    (accounts : AccountMap) : PostingValidationResult :=
  let validation := DoubleEntryValidator.validateTransaction tolerance now t accounts
  let period := t.postingDate.map accountingPeriod
  let errors :=
    check (!t.canBePosted)
      { field := "transaction_status", message := "Transaction is not in a postable state",
        code := "INVALID_STATUS_FOR_POSTING", severity := "ERROR",
        value := some (.status t.transactionStatus) } ++
    validation.errors ++
    check (period.any AccountingPeriodInfo.isClosed)
      { field := "posting_date", message := "Cannot post to a closed accounting period",
        code := "CLOSED_PERIOD", severity := "ERROR",
        value := t.postingDate.map Value.time }
  let warnings := validation.warnings ++
    check (t.transactionStatus = .posted)
      { field := "transaction_status", message := "Transaction is already posted",
        code := "ALREADY_POSTED", value := some (.status t.transactionStatus) }
  { canPost := t.canBePosted && validation.isValid && errors.isEmpty
    validationLevel :=
      if errors ≠ [] then .error else if warnings ≠ [] then .warning else .valid
    errors := errors
    warnings := warnings
    businessRules := validation.businessRules
    accountingPeriod := period }

/-- `loadTransactionAccounts`: each account of the entries is read once, in order. -/
def loadTransactionAccounts (accounts : Table Accounts) :
    List TransactionEntry → List Bool → List Accounts → Except String (List Accounts)
  | [], _, loaded => .ok loaded
  | e :: rest, faults, loaded =>
    if loaded.any (fun a => a.id = e.accountID) then
      loadTransactionAccounts accounts rest faults loaded
    else match getByID accounts "account not found" (faults.headD false) e.accountID with
      | .error err =>
        .error ("failed to load account " ++ Uuid.string e.accountID ++ ": " ++ err)
      | .ok a => loadTransactionAccounts accounts rest faults.tail (loaded ++ [a])

def accountMap (loaded : List Accounts) : AccountMap :=
  fun id => loaded.find? (fun a => a.id = id)

/--
Step two of `PostTransaction`: the result so far, or the result and the error
the call returns.  Without `ValidateBeforePosting` nothing is checked, and
`ForcePost` passes a transaction that cannot be posted.
-/
def validationGate (tolerance : Decimal) (env : PostingEnv) (accounts : Table Accounts)
    (req : PostTransactionRequest) (t : Transaction) :
    Except (PostTransactionResult × String) PostTransactionResult :=
  let result : PostTransactionResult :=
    { transactionID := req.transactionID, postedBy := req.postedBy }
  if !req.validateBeforePosting then .ok result
  else match loadTransactionAccounts accounts t.entries env.faults.load [] with
    | .error err => .error ({ result with errors := ["Failed to load accounts: " ++ err] }, err)
    | .ok loaded =>
      let validation :=
        validatePostingRequirements tolerance env.now t (accountMap loaded)
      if !validation.canPost && !req.forcePost then
        .error ({ result with
          validationResult := some validation
          errors := "Transaction cannot be posted due to validation errors" ::
            validation.errors.map ValidationError.message }, "transaction cannot be posted")
      else
        .ok { result with
          validationResult := some validation
          warnings := validation.warnings.map ValidationWarning.message }

/-! ## Balance updates -/

/-- The amount and side an entry posts; an entry without a positive side posts nothing. -/
def postingChange (e : TransactionEntry) : Decimal × BalanceUpdateType :=
  if 0 < e.debitAmount then (e.debitAmount, .debit)
  else if 0 < e.creditAmount then (e.creditAmount, .credit)
  else (0, .debit)

/-- The amount and side that take an entry back. -/
def reversingChange (e : TransactionEntry) : Decimal × BalanceUpdateType :=
  if 0 < e.debitAmount then (e.debitAmount, .credit)
  else if 0 < e.creditAmount then (e.creditAmount, .debit)
  else (0, .debit)

/-- The balance after a change; every normal balance but `DEBIT` counts as credit. -/
def newBalance (normal : NormalBalance) (previous : Decimal) :
    Decimal × BalanceUpdateType → Decimal
  | (change, .debit) => if normal = .debit then previous + change else previous - change
  | (change, .credit) => if normal = .debit then previous - change else previous + change

/--
The loop both balance functions share: read the account of each entry, write
its new balance and report the change.  A failing call stops the loop with the
balances written so far.
-/
def changeBalances (change : TransactionEntry → Decimal × BalanceUpdateType)
    (failure : String) (reported : Decimal → Decimal) :
    Table Accounts → List Bool → List TransactionEntry → List AccountBalanceUpdate →
      Table Accounts × Except String (List AccountBalanceUpdate)
  | accounts, _, [], updates => (accounts, .ok updates)
  | accounts, faults, e :: rest, updates =>
    match getByID accounts "account not found" (faults.headD false) e.accountID with
    | .error err =>
      (accounts, .error ("failed to get account " ++ Uuid.string e.accountID ++ ": " ++ err))
    | .ok a =>
      let balance := newBalance a.normalBalance a.currentBalance (change e)
      if faults.tail.headD false then
        (accounts, .error (failure ++ Uuid.string e.accountID ++ ": repository failure"))
      else
        changeBalances change failure reported
          (accounts.put { a with currentBalance := balance }) faults.tail.tail rest
          (updates ++
            [{ accountID := e.accountID
               accountName := a.accountName
               previousBalance := a.currentBalance
               balanceChange := reported (change e).1
               newBalance := balance
               updateType := (change e).2 }])

def updateAccountBalances (accounts : Table Accounts) (faults : List Bool)
    (entries : List TransactionEntry) :
    Table Accounts × Except String (List AccountBalanceUpdate) :=
  changeBalances postingChange "failed to update account balance for " id accounts faults
    entries []

/-- `reverseAccountBalances` reports the change with its sign turned. -/
def reverseAccountBalances (accounts : Table Accounts) (faults : List Bool)
    (entries : List TransactionEntry) :
    Table Accounts × Except String (List AccountBalanceUpdate) :=
  changeBalances reversingChange "failed to reverse account balance for " Neg.neg accounts
    faults entries []

/-! ## Posting -/

/-- What posting leaves, what it reports and the error it returns. -/
structure PostOutcome where
  ledger : Ledger
  result : PostTransactionResult
  err : Option String := none

/-- Steps five to seven of `PostTransaction`: balances, then the transaction itself. -/
def commitPosting (env : PostingEnv) (s : Ledger) (req : PostTransactionRequest)
    (posted : Transaction) (result : PostTransactionResult) : PostOutcome :=
  let balances :=
    if req.skipBalanceUpdate then (s.accounts, Except.ok result.balanceUpdates)
    else updateAccountBalances s.accounts env.faults.balances posted.entries
  match balances with
  | (accounts, .error err) =>
    { ledger := { s with accounts := accounts }
      result := { result with
        errors := result.errors ++ ["Failed to update account balances: " ++ err] }
      err := some err }
  | (accounts, .ok updates) =>
    if env.faults.save then
      { ledger := { s with accounts := accounts }
        result := { result with
          balanceUpdates := updates
          errors := result.errors ++ ["Failed to save posted transaction: repository failure"] }
        err := some "repository failure" }
    else
      { ledger := { transactions := s.transactions.put posted, accounts := accounts }
        result := { result with
          balanceUpdates := updates
          success := true
          postedAt := req.postingDate.getD env.now } }

def postTransaction (tolerance : Decimal) (env : PostingEnv) (s : Ledger)
    (req : PostTransactionRequest) : PostOutcome :=
  match getByID s.transactions "transaction not found" env.faults.retrieve req.transactionID with
  | .error err =>
    { ledger := s
      result := { transactionID := req.transactionID, postedBy := req.postedBy,
                  errors := ["Failed to retrieve transaction: " ++ err] }
      err := some err }
  | .ok t =>
    match validationGate tolerance env s.accounts req t with
    | .error (result, err) => { ledger := s, result := result, err := some err }
    | .ok result =>
      match t.post req.postedBy env.now with
      | .error err =>
        { ledger := s
          result := { result with
            errors := result.errors ++
              ["Failed to post transaction via workflow: " ++ err.string] }
          err := some err.string }
      | .ok moved =>
        commitPosting env s req
          { moved with postingDate := some (req.postingDate.getD env.now) } result

structure UnpostOutcome where
  ledger : Ledger
  result : UnpostTransactionResult
  err : Option String := none

/-- `UnpostTransaction`: back to `APPROVED`, with the balances taken back. -/
def unpostTransaction (env : PostingEnv) (s : Ledger) (req : UnpostTransactionRequest) :
    UnpostOutcome :=
  let result : UnpostTransactionResult :=
    { transactionID := req.transactionID, unpostedBy := req.unpostedBy, unpostedAt := env.now }
  match getByID s.transactions "transaction not found" env.faults.retrieve req.transactionID with
  | .error err =>
    { ledger := s
      result := { result with errors := ["Failed to retrieve transaction: " ++ err] }
      err := some err }
  | .ok t =>
    if t.transactionStatus ≠ .posted then
      { ledger := s
        result := { result with errors := ["Only posted transactions can be unposted"] }
        err := some "transaction is not posted" }
    else match reverseAccountBalances s.accounts env.faults.balances t.entries with
      | (accounts, .error err) =>
        { ledger := { s with accounts := accounts }
          result := { result with
            errors := ["Failed to reverse account balances: " ++ err] }
          err := some err }
      | (accounts, .ok updates) =>
        let unposted : Transaction :=
          { t with
            transactionStatus := .approved
            postedAt := none
            postedBy := none
            postingDate := none }
        if env.faults.save then
          { ledger := { s with accounts := accounts }
            result := { result with
              balanceUpdates := updates
              errors := ["Failed to save unposted transaction: repository failure"] }
            err := some "repository failure" }
        else
          { ledger := { transactions := s.transactions.put unposted, accounts := accounts }
            result := { result with balanceUpdates := updates, success := true } }

/-! ## Batch posting -/

/-- The posting request of one identifier of a batch: validated, balances skipped. -/
def BatchPostRequest.postRequest (req : BatchPostRequest) (id : Uuid) :
    PostTransactionRequest :=
  { transactionID := id
    postedBy := req.postedBy
    postingDate := req.postingDate
    forcePost := false
    skipBalanceUpdate := true
    validateBeforePosting := true }

/-- The loop of `BatchPostTransactions`; `envs` gives each posting its environment. -/
def batchLoop (tolerance : Decimal) (envs : Nat → PostingEnv) (req : BatchPostRequest) :
    Nat → List Uuid → Ledger → BatchPostResult → Ledger × BatchPostResult
  | _, [], s, result => (s, result)
  | index, id :: rest, s, result =>
    let out := postTransaction tolerance (envs index) s (req.postRequest id)
    let recorded := { result with results := result.results ++ [out.result] }
    if out.err.isSome && !req.continueOnError then (out.ledger, recorded)
    else if out.result.success then
      batchLoop tolerance envs req (index + 1) rest out.ledger
        { recorded with successfulPosts := recorded.successfulPosts + 1 }
    else
      let failed := { recorded with failedPosts := recorded.failedPosts + 1 }
      if !req.continueOnError then (out.ledger, failed)
      else batchLoop tolerance envs req (index + 1) rest out.ledger failed

/--
`BatchPostTransactions`.  The batch balance update that the source announces
after the loop is not there, and its list stays empty.
-/
def batchPostTransactions (tolerance : Decimal) (envs : Nat → PostingEnv) (s : Ledger)
    (req : BatchPostRequest) : Ledger × BatchPostResult :=
  batchLoop tolerance envs req 0 req.transactionIDs s
    { totalTransactions := req.transactionIDs.length }

/-- One call of the engine with its environment. -/
inductive Operation where
  | post (env : PostingEnv) (req : PostTransactionRequest)
  | unpost (env : PostingEnv) (req : UnpostTransactionRequest)
  | batch (envs : Nat → PostingEnv) (req : BatchPostRequest)

/-- The ledger an operation leaves, whether it succeeded or not. -/
def step (tolerance : Decimal) (s : Ledger) : Operation → Ledger
  | .post env req => (postTransaction tolerance env s req).ledger
  | .unpost env req => (unpostTransaction env s req).ledger
  | .batch envs req => (batchPostTransactions tolerance envs s req).1

end PostingEngine

end ErpFinance.Service
