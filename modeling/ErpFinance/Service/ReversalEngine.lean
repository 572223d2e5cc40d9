import ErpFinance.Library.Interleaving
import ErpFinance.Service.PostingEngine

/-!
# The reversal engine

`CreateReversalTransaction` as the sequence of repository calls it makes, and
`BatchReverseTransactions` as the loop over it.  A client is one request of
either kind; it stops between any two calls, so that requests interleave.  A
failing call ends a request and leaves what the earlier calls had written.
-/

namespace ErpFinance.Service

open Domain Library

namespace ReversalEngine

open PostingEngine (getByID postTransaction)

/-! ## Requests and results -/

structure CreateReversalRequest where
  originalTransactionID : Uuid
  reversedBy : Uuid
  reversalReason : String
  reversalDate : Option Time := none
  customReversalNumber : Option String := none
  autoPost : Bool := false
  copyOriginalMetadata : Bool := false

structure BatchReversalRequest where
  transactionIDs : List Uuid
  reversedBy : Uuid
  reversalReason : String
  reversalDate : Option Time := none
  continueOnError : Bool := false
  autoPost : Bool := false

inductive ReversalConstraintType where
  | alreadyReversed | notPosted | hasReversals | timeLimit
deriving DecidableEq

structure ReversalConstraint where
  type : ReversalConstraintType
  description : String
  blocking : Bool
deriving DecidableEq

structure ReversalValidationResult where
  canReverse : Bool := true
  validationLevel : ValidationLevel := .valid
  errors : List ValidationError := []
  warnings : List ValidationWarning := []
  reversalConstraints : List ReversalConstraint := []
deriving DecidableEq

structure ReversalTransactionResult where
  reversalTransaction : Option Transaction := none
  originalTransaction : Option Transaction := none
  success : Bool := false
  postingResult : Option PostingEngine.PostTransactionResult := none
  validationResult : Option ReversalValidationResult := none
  errors : List String := []
  warnings : List String := []

structure BatchReversalResult where
  totalTransactions : Nat
  successfulReversals : Nat := 0
  failedReversals : Nat := 0
  results : List ReversalTransactionResult := []

/-! ## State -/

structure ReversalHistoryRecord where
  originalTransactionID : Uuid
  reversalTransactionID : Uuid
  reason : String
  reversedBy : Uuid

/--
The repositories the engine works on.  `reversals` is no table of the source:
it records, for the statements below, which stored transaction was created to
reverse which.
-/
structure Store where
  ledger : Ledger
  history : List ReversalHistoryRecord := []
  reversals : List (Uuid × Uuid) := []

/-- What one repository call of a request meets. -/
structure CallEnv where
  now : Time
  fails : Bool := false
  /-- `uuid.New()`, one for the transaction and one for each of its entries. -/
  newID : Nat → Uuid := fun _ => Uuid.Nil
  /-- The answer of the numbering service. -/
  number : Except String String := .ok ""
  /-- The failing calls of the posting engine. -/
  faults : Faults := {}

/-- Where a request stands: which call it makes next, with what it holds by then. -/
inductive Stage where
  | load
  | validate (original : Transaction)
  | checkHistory (original : Transaction) (found : ReversalValidationResult)
  | draft (original : Transaction)
  | create (original reversal : Transaction)
  | mark (original reversal : Transaction)
  | record (reversal : Transaction)
  | post (reversal : Transaction)
  | done (err : Option String)
deriving DecidableEq

/-- One `CreateReversalTransaction` on its way. -/
structure Call where
  req : CreateReversalRequest
  stage : Stage := .load
  result : ReversalTransactionResult := {}

/-- What the engine was built with. -/
structure Config where
  tolerance : Decimal := DoubleEntryValidator.defaultTolerance
  /-- Whether a reversal history repository was injected. -/
  hasHistory : Bool := true

/-! ## Eligibility -/

def refuse (result : ReversalValidationResult) (finding : ValidationError)
    (constraint : ReversalConstraint) : ReversalValidationResult :=
  { result with
    canReverse := false
    errors := result.errors ++ [finding]
    reversalConstraints := result.reversalConstraints ++ [constraint] }

def notFoundResult (transactionID : Uuid) : ReversalValidationResult where
  canReverse := false
  errors :=
    [{ field := "transaction_id", message := "Transaction not found",
       code := "TRANSACTION_NOT_FOUND", severity := "ERROR",
       value := some (.uuid transactionID) }]

/-- Check one of `ValidateReversalEligibility`: the transaction is posted. -/
def checkPosted (t : Transaction) (result : ReversalValidationResult) :
    ReversalValidationResult :=
  if t.transactionStatus ≠ .posted then
    refuse result
      { field := "transaction_status", message := "Only posted transactions can be reversed",
        code := "TRANSACTION_NOT_POSTED", severity := "ERROR",
        value := some (.status t.transactionStatus) }
      { type := .notPosted, description := "Transaction must be posted to be reversed",
        blocking := true }
  else result

/-- Check two: it is not reversed yet. -/
def checkNotReversed (t : Transaction) (result : ReversalValidationResult) :
    ReversalValidationResult :=
  if t.isReversed then
    refuse result
      { field := "is_reversed", message := "Transaction has already been reversed",
        code := "ALREADY_REVERSED", severity := "ERROR", value := some (.flag t.isReversed) }
      { type := .alreadyReversed, description := "Transaction has already been reversed",
        blocking := true }
  else result

/-- Check three warns about a posting date more than thirty days back. -/
def checkAge (now : Time) (t : Transaction) (result : ReversalValidationResult) :
    ReversalValidationResult :=
  match t.postingDate with
  | none => result
  | some posted =>
    let daysSincePosting : Decimal := now.sub posted / nanosPerDay
    if 30 < daysSincePosting then
      { result with
        warnings := result.warnings ++
          [{ field := "posting_date", message := "Transaction is more than 30 days old",
             code := "OLD_TRANSACTION", value := some (.time posted) }]
        reversalConstraints := result.reversalConstraints ++
          [{ type := .timeLimit
             description := "Transaction is " ++
               toString (Decimal.roundHalfEven daysSincePosting) ++ " days old"
             blocking := false }] }
    else result

/-- Check four: the transaction is no reversal itself; a failing check passes. -/
def checkNoReversal (transactionID : Uuid) (isReversal : Bool)
    (result : ReversalValidationResult) : ReversalValidationResult :=
  if isReversal then
    refuse result
      { field := "transaction_id", message := "Cannot reverse a reversal transaction",
        code := "CANNOT_REVERSE_REVERSAL", severity := "ERROR",
        value := some (.uuid transactionID) }
      { type := .hasReversals
        description := "This transaction is itself a reversal and cannot be reversed again"
        blocking := true }
  else result

/-- The level `ValidateReversalEligibility` gives its findings in the end. -/
def finalLevel (result : ReversalValidationResult) : ReversalValidationResult :=
  if result.errors ≠ [] then { result with canReverse := false, validationLevel := .error }
  else if result.warnings ≠ [] then { result with validationLevel := .warning }
  else result

/-- The checks that read the transaction alone. -/
def eligibility (now : Time) (t : Transaction) : ReversalValidationResult :=
  checkAge now t (checkNotReversed t (checkPosted t {}))

/-- `IsReversal`: the history names the transaction as a reversal. -/
def isReversal (history : List ReversalHistoryRecord) (transactionID : Uuid) : Bool :=
  history.any (fun rec => rec.reversalTransactionID = transactionID)

/-! ## The reversal -/

/-- The entry that takes an original entry back: the amounts change sides. -/
def reversalEntry (newID : Nat → Uuid) (tenantID reversalID : Uuid)
    (indexed : TransactionEntry × Nat) : TransactionEntry :=
  { id := newID (indexed.2 + 1)
    tenantID := tenantID
    transactionID := reversalID
    entryNumber := int32 (indexed.2 + 1)
    accountID := indexed.1.accountID
    debitAmount := indexed.1.creditAmount
    creditAmount := indexed.1.debitAmount
    description := "Reversal: " ++ indexed.1.description
    reference := indexed.1.reference
    costCenter := indexed.1.costCenter
    department := indexed.1.department
    projectID := indexed.1.projectID }

/-- The number of a reversal: the requested one, else the numbering service's answer. -/
def reversalNumber (env : CallEnv) (req : CreateReversalRequest) : Except String String :=
  match req.customReversalNumber with
  | some number => .ok number
  | none => env.number.mapError ("failed to generate transaction number: " ++ ·)

def createReversalFromOriginal (env : CallEnv) (original : Transaction)
    (req : CreateReversalRequest) : Except String Transaction := do
  let number ← reversalNumber env req
  let reversal : Transaction :=
    { id := env.newID 0
      tenantID := original.tenantID
      entityID := original.entityID
      transactionNumber := number
      transactionType := .adjustment
      transactionStatus := .draft
      transactionDate := req.reversalDate.getD env.now
      description := "Reversal of " ++ original.transactionNumber ++ " - " ++ req.reversalReason
      currencyCode := original.currencyCode
      exchangeRate := original.exchangeRate
      approvalRequired := true
      approvalStatus := .pending
      validationStatus := .pending
      sourceModule := if req.copyOriginalMetadata then original.sourceModule else none
      createdBy := req.reversedBy
      createdAt := env.now
      updatedAt := env.now
      entries := original.entries.zipIdx.map
        (reversalEntry env.newID original.tenantID (env.newID 0)) }
  return reversal.calculateTotals

/-- The original once its reversal is stored. -/
def markReversed (original reversal : Transaction) (req : CreateReversalRequest) : Transaction :=
  { original with
    isReversed := true
    reversedByTransactionID := some reversal.id
    reversalReason := some req.reversalReason }

/-! ## One call at a time -/

/-- End a request with an error and the message the result carries for it. -/
def Call.fail (call : Call) (message err : String) : Call :=
  { call with
    stage := .done (some err)
    result := { call.result with errors := call.result.errors ++ [message ++ err] } }

def Call.succeed (call : Call) : Call :=
  { call with stage := .done none, result := { call.result with success := true } }

/-- What the verdict of the eligibility check makes of a request. -/
def Call.judge (call : Call) (original : Transaction) (verdict : ReversalValidationResult) :
    Call :=
  if verdict.canReverse then
    { call with
      stage := .draft original
      result := { call.result with validationResult := some verdict } }
  else
    { call with
      stage := .done (some "transaction cannot be reversed")
      result := { call.result with
        validationResult := some verdict
        errors := call.result.errors ++
          "Transaction cannot be reversed due to validation errors" ::
            verdict.errors.map ValidationError.message } }

/-- The stage after the history: posting when the request asks for it. -/
def Call.afterHistory (call : Call) (reversal : Transaction) : Call :=
  if call.req.autoPost then { call with stage := .post reversal } else call.succeed

def Call.postRequest (call : Call) (reversal : Transaction) :
    PostingEngine.PostTransactionRequest where
  transactionID := reversal.id
  postedBy := call.req.reversedBy
  postingDate := call.req.reversalDate
  forcePost := false
  validateBeforePosting := true

/-- The next repository call of `CreateReversalTransaction`. -/
def advance (cfg : Config) (s : Store) (call : Call) (env : CallEnv) : Store × Call :=
  match call.stage with
  | .load =>
    match getByID s.ledger.transactions "transaction not found" env.fails
        call.req.originalTransactionID with
    | .error err => (s, call.fail "Failed to load original transaction: " err)
    | .ok original =>
      (s, { call with
        stage := .validate original
        result := { call.result with originalTransaction := some original } })
  | .validate original =>
    -- the eligibility check reads the transaction a second time
    match getByID s.ledger.transactions "transaction not found" env.fails
        call.req.originalTransactionID with
    | .error _ => (s, call.judge original (notFoundResult call.req.originalTransactionID))
    | .ok t =>
      if cfg.hasHistory then
        (s, { call with stage := .checkHistory original (eligibility env.now t) })
      else (s, call.judge original (finalLevel (eligibility env.now t)))
  | .checkHistory original found =>
    let isReversal := !env.fails && isReversal s.history call.req.originalTransactionID
    (s, call.judge original
      (finalLevel (checkNoReversal call.req.originalTransactionID isReversal found)))
  | .draft original =>
    match createReversalFromOriginal env original call.req with
    | .error err => (s, call.fail "Failed to create reversal transaction: " err)
    | .ok reversal =>
      (s, { call with
        stage := .create original reversal
        result := { call.result with reversalTransaction := some reversal } })
  | .create original reversal =>
    if env.fails || (s.ledger.transactions.get? reversal.id).isSome then
      (s, call.fail "Failed to save reversal transaction: " "repository failure")
    else
      ({ s with
          ledger := { s.ledger with
            transactions := s.ledger.transactions.insert reversal }
          reversals := s.reversals ++ [(call.req.originalTransactionID, reversal.id)] },
        { call with stage := .mark original reversal })
  | .mark original reversal =>
    let marked := markReversed original reversal call.req
    let call := { call with
      result := { call.result with originalTransaction := some marked } }
    if env.fails then
      (s, call.fail "Failed to update original transaction: " "repository failure")
    else
      ({ s with ledger := { s.ledger with transactions := s.ledger.transactions.put marked } },
        { call with stage := .record reversal })
  | .record reversal =>
    if !cfg.hasHistory then (s, call.afterHistory reversal)
    else if env.fails then
      let warned := { call with result := { call.result with
        warnings := call.result.warnings ++
          ["Failed to persist reversal history: repository failure"] } }
      (s, warned.afterHistory reversal)
    else
      ({ s with history := s.history ++
          [{ originalTransactionID := call.req.originalTransactionID
             reversalTransactionID := reversal.id
             reason := call.req.reversalReason
             reversedBy := call.req.reversedBy }] }, call.afterHistory reversal)
  | .post reversal =>
    let out := postTransaction cfg.tolerance { now := env.now, faults := env.faults } s.ledger
      (call.postRequest reversal)
    let call := match out.err with
      | some err => { call with result := { call.result with
          warnings := call.result.warnings ++ ["Failed to auto-post reversal: " ++ err] } }
      | none => { call with result := { call.result with postingResult := some out.result } }
    ({ s with ledger := out.ledger }, call.succeed)
  | .done _ => (s, call)

/-! ## Clients -/

/--
A request with what is left of it: the reversals still to be made, the one
being made and the results so far.  A single request waits for one reversal.
-/
structure Client where
  waiting : List CreateReversalRequest
  continueOnError : Bool
  call : Option Call := none
  result : BatchReversalResult

namespace Client

/-- `CreateReversalTransaction`. -/
def single (req : CreateReversalRequest) : Client where
  waiting := [req]
  continueOnError := true
  result := { totalTransactions := 1 }

/-- `BatchReverseTransactions`. -/
def batch (req : BatchReversalRequest) : Client where
  waiting := req.transactionIDs.map (fun id =>
    { originalTransactionID := id
      reversedBy := req.reversedBy
      reversalReason := req.reversalReason
      reversalDate := req.reversalDate
      autoPost := req.autoPost
      copyOriginalMetadata := true })
  continueOnError := req.continueOnError
  result := { totalTransactions := req.transactionIDs.length }

/-- A finished reversal is recorded, unless it stops the batch. -/
def collect (client : Client) (result : ReversalTransactionResult) (err : Option String) :
    Client :=
  if err.isSome && !client.continueOnError then { client with waiting := [], call := none }
  else
    { client with
      call := none
      result := { client.result with
        results := client.result.results ++ [result]
        successfulReversals := client.result.successfulReversals + if result.success then 1 else 0
        failedReversals := client.result.failedReversals + if result.success then 0 else 1 } }

/-- One step of a client: start a reversal, move it on or collect its result. -/
def next (cfg : Config) (s : Store) (client : Client) (env : CallEnv) : Store × Client :=
  match client.call with
  | none =>
    match client.waiting with
    | [] => (s, client)
    | req :: rest => (s, { client with waiting := rest, call := some { req := req } })
  | some call =>
    match call.stage with
    | .done err => (s, client.collect call.result err)
    | _ => ((advance cfg s call env).1, { client with call := some (advance cfg s call env).2 })

end Client

/-- The engine with all its requests. -/
abbrev Engine := System Store Client

/-- A request arrives, or the request at an index makes its next step. -/
inductive Input where
  | reverse (req : CreateReversalRequest)
  | batch (req : BatchReversalRequest)
  | act (index : Nat) (env : CallEnv)

def Input.turn : Input → Turn Client CallEnv
  | reverse req => .arrive (.single req)
  | batch req => .arrive (.batch req)
  | act index env => .act index env

def step (cfg : Config) (s : Engine) (input : Input) : Engine :=
  s.step (Client.next cfg) input.turn

end ReversalEngine

end ErpFinance.Service
