import ErpFinance.Domain.TransactionEntry
import ErpFinance.Library.Interleaving

/-!
# The opening balance engine

`SetOpeningBalance`, `ApproveOpeningBalance`, `RejectOpeningBalance`,
`VoidOpeningBalance` and `PostOpeningBalance` as the sequences of repository
calls they make.  A client is one request; it stops between any two calls, so
that requests interleave.  A balance that was read is written back whole.
-/

namespace ErpFinance.Service

open Domain Library

namespace OpeningBalanceEngine

/-! ## Opening balances -/

inductive OpeningBalanceStatus where
  | pending | approved | posted | rejected | voided
deriving DecidableEq

def OpeningBalanceStatus.string : OpeningBalanceStatus → String
  | pending => "PENDING"
  | approved => "APPROVED"
  | posted => "POSTED"
  | rejected => "REJECTED"
  | voided => "VOIDED"

structure OpeningBalance where
  id : Uuid
  tenantID : Uuid
  accountID : Uuid
  periodID : Uuid
  effectiveDate : Time
  debitAmount : Decimal
  creditAmount : Decimal
  currencyCode : String
  status : OpeningBalanceStatus
  submittedBy : Uuid
  approvedBy : Option Uuid := none
  postedBy : Option Uuid := none
  transactionID : Option Uuid := none
  reason : String
  rejectionReason : Option String := none
  submittedAt : Time
  approvedAt : Option Time := none
  postedAt : Option Time := none
deriving DecidableEq

instance : Keyed OpeningBalance Uuid := ⟨OpeningBalance.id⟩

namespace OpeningBalance

@[simp] theorem key_eq (ob : OpeningBalance) : Keyed.key ob = ob.id := rfl

def isPosted (ob : OpeningBalance) : Bool := ob.status = .posted

def isImmutable (ob : OpeningBalance) : Bool := ob.status = .posted || ob.status = .voided

end OpeningBalance

structure OpeningBalanceRequest where
  accountID : Uuid
  periodID : Uuid
  effectiveDate : Time
  debitAmount : Decimal
  creditAmount : Decimal
  currencyCode : String
  reason : String
  submittedBy : Uuid

/-- `Validate`: the texts of all violations, in the order of the checks. -/
def OpeningBalanceRequest.validate (r : OpeningBalanceRequest) : List String :=
  let report (failed : Bool) (text : String) : List String := if failed then [text] else []
  report (r.accountID = Uuid.Nil) "account_id is required" ++
  report (r.periodID = Uuid.Nil) "period_id is required" ++
  report r.effectiveDate.isZero "effective_date is required" ++
  report (r.submittedBy = Uuid.Nil) "submitted_by is required" ++
  report (r.reason = "") "reason is required for opening balance submissions" ++
  report (r.debitAmount = 0 && r.creditAmount = 0)
    "either debit_amount or credit_amount must be non-zero" ++
  report (r.debitAmount ≠ 0 && r.creditAmount ≠ 0)
    "only one of debit_amount or credit_amount may be non-zero" ++
  report (r.debitAmount ≠ 0 && r.debitAmount < 0) "debit_amount must be positive" ++
  report (r.creditAmount ≠ 0 && r.creditAmount < 0) "credit_amount must be positive" ++
  report (r.currencyCode = "") "currency_code is required"

/-! ## Error texts -/

def errAlreadyPosted : String :=
  "opening balance has already been posted; use a journal entry for corrections"

def errSelfApproval : String :=
  "opening balance approver cannot be the same as the submitter (SOD)"

def errCurrencyMismatch : String := "opening balance currency does not match account currency"

def errDirectionMismatch : String :=
  "opening balance debit/credit direction does not match account normal balance"

def errNotApproved : String := "opening balance must be approved before posting"

def validateOpeningBalanceDirection (account : Accounts) (debit credit : Decimal) :
    Except String Unit :=
  let text (normal side : String) : String :=
    errDirectionMismatch ++ ": account " ++ account.accountCode ++ " (root=" ++
      account.rootType.string ++ ") has a " ++ normal ++
      " normal balance; opening balance must be a " ++ side ++ " entry"
  match getNormalBalanceForRootType account.rootType with
  | .debit => if credit ≠ 0 && debit = 0 then .error (text "DEBIT" "debit") else .ok ()
  | .credit => if debit ≠ 0 && credit = 0 then .error (text "CREDIT" "credit") else .ok ()
  | .other _ _ => .ok ()

/-! ## Requests under way -/

inductive Operation where
  | set (req : OpeningBalanceRequest)
  | approve (openingBalanceID approverID : Uuid) (notes : String)
  | reject (openingBalanceID approverID : Uuid) (reason : String)
  | void (openingBalanceID operatorID : Uuid) (reason : String)
  | post (openingBalanceID posterID : Uuid)

/-- The repository call a request comes to next, with what it holds by then. -/
inductive Stage where
  | read
  | getByAccount (account : Accounts)
  | create (ob : OpeningBalance)
  | getAccount (ob : OpeningBalance)
  | update (ob : OpeningBalance)
  | done (result : Except String (Option OpeningBalance))

structure Call where
  op : Operation
  stage : Stage := .read

structure Store where
  balances : Table OpeningBalance

/--
What a repository call meets: its failure, the account the accounts repository
would hand out, the clock and a generated identifier.
-/
structure CallEnv where
  fails : Option String := none
  account : Except String Accounts
  now : Time
  newID : Uuid

/-- `balances.GetByID`. -/
def getByID (env : CallEnv) (s : Store) (id : Uuid) : Except String OpeningBalance :=
  match env.fails with
  | some err => .error ("opening balance not found: " ++ err)
  | none =>
    match s.balances.get? id with
    | some ob => .ok ob
    | none => .error "opening balance not found: not found"

/-! ## One call -/

/-- What `SetOpeningBalance` checks of the account. -/
def checkAccountForSet (req : OpeningBalanceRequest) (account : Accounts) : Except String Unit :=
  if ¬ account.canAcceptTransactions then
    .error ("account " ++ account.accountCode ++ " (status=" ++ account.status.string ++
      ") cannot accept opening balance entries")
  else
    match account.currencyCode with
    | some code =>
      if req.currencyCode ≠ code then
        .error (errCurrencyMismatch ++ ": requested " ++ req.currencyCode ++
          " but account uses " ++ code)
      else validateOpeningBalanceDirection account req.debitAmount req.creditAmount
    | none => validateOpeningBalanceDirection account req.debitAmount req.creditAmount

/-- A balance of the period that is still on its way to posting. -/
def inProgress (periodID : Uuid) (ob : OpeningBalance) : Bool :=
  ob.periodID = periodID && (ob.status = .pending || ob.status = .approved)

def newBalance (env : CallEnv) (req : OpeningBalanceRequest) (account : Accounts) :
    OpeningBalance where
  id := env.newID
  tenantID := account.tenantID
  accountID := req.accountID
  periodID := req.periodID
  effectiveDate := req.effectiveDate
  debitAmount := req.debitAmount
  creditAmount := req.creditAmount
  currencyCode := req.currencyCode
  status := .pending
  submittedBy := req.submittedBy
  reason := req.reason
  submittedAt := env.now

/-- `SetOpeningBalance` up to its next repository call. -/
def setCall (env : CallEnv) (s : Store) (req : OpeningBalanceRequest) : Stage → Stage
  | .read =>
    if req.validate ≠ [] then
      .done (.error ("opening balance validation: [" ++ " ".intercalate req.validate ++ "]"))
    else
      match env.account with
      | .error err => .done (.error ("account not found: " ++ err))
      | .ok account =>
        match checkAccountForSet req account with
        | .error err => .done (.error err)
        | .ok () => .getByAccount account
  | .getByAccount account =>
    match env.fails with
    | some err => .done (.error ("failed to check existing opening balances: " ++ err))
    | none =>
      match (s.balances.rows.filter (fun ob => ob.accountID = req.accountID)).find?
          (inProgress req.periodID) with
      | some ob =>
        .done (.error ("an opening balance request for account " ++ account.accountCode ++
          " in period " ++ Uuid.string req.periodID ++ " is already in progress (status=" ++
          ob.status.string ++ ")"))
      | none => .create (newBalance env req account)
  | stage => stage

/-- `ApproveOpeningBalance` after its read. -/
def approveRead (env : CallEnv) (ob : OpeningBalance) (approverID : Uuid) : Stage :=
  if ob.isImmutable then
    .done (.error (errAlreadyPosted ++ ": current status is " ++ ob.status.string))
  else if ob.status ≠ .pending then
    .done (.error ("opening balance must be PENDING to approve (current: " ++
      ob.status.string ++ ")"))
  else if approverID = ob.submittedBy then .done (.error errSelfApproval)
  else .update { ob with
    status := .approved
    approvedBy := some approverID
    approvedAt := some env.now }

/-- `RejectOpeningBalance` after its read. -/
def rejectRead (ob : OpeningBalance) (reason : String) : Stage :=
  if ob.isImmutable then
    .done (.error ("opening balance cannot be rejected: current status is " ++ ob.status.string))
  else if ob.status ≠ .pending then
    .done (.error ("only PENDING opening balances can be rejected (current: " ++
      ob.status.string ++ ")"))
  else .update { ob with
    status := .rejected
    rejectionReason := some reason }

/-- `VoidOpeningBalance` after its read. -/
def voidRead (ob : OpeningBalance) : Stage :=
  if ob.isImmutable then
    .done (.error ("opening balance is already " ++ ob.status.string ++ " and cannot be voided"))
  else .update { ob with status := .voided }

/-- `PostOpeningBalance` after its first read. -/
def postRead (ob : OpeningBalance) : Stage :=
  if ob.isPosted then .done (.error errAlreadyPosted)
  else if ob.status ≠ .approved then
    .done (.error (errNotApproved ++ ": current status is " ++ ob.status.string))
  else .getAccount ob

/-- `PostOpeningBalance` after it has read the account again. -/
def postAccount (env : CallEnv) (ob : OpeningBalance) (account : Accounts) (posterID : Uuid) :
    Stage :=
  let posted : OpeningBalance := { ob with
    status := .posted
    postedBy := some posterID
    postedAt := some env.now
    transactionID := some env.newID }
  if ¬ account.canAcceptTransactions then
    .done (.error ("account " ++ account.accountCode ++ " (status=" ++ account.status.string ++
      ") cannot accept postings"))
  else
    match account.currencyCode with
    | some code =>
      if ob.currencyCode ≠ code then
        .done (.error (errCurrencyMismatch ++ ": opening balance uses " ++ ob.currencyCode ++
          " but account now uses " ++ code))
      else .update posted
    | none => .update posted

/-- The first call of an operation on a stored balance. -/
def readCall (env : CallEnv) (s : Store) (id : Uuid) (after : OpeningBalance → Stage) : Stage :=
  match getByID env s id with
  | .error err => .done (.error err)
  | .ok ob => after ob

/-- A request up to its next repository call; the writes are in `next`. -/
def advance (env : CallEnv) (s : Store) (call : Call) : Stage :=
  match call.op, call.stage with
  | .set req, stage => setCall env s req stage
  | .approve id approverID _, .read => readCall env s id (approveRead env · approverID)
  | .reject id _ reason, .read =>
    if reason = "" then .done (.error "rejection reason is required")
    else readCall env s id (rejectRead · reason)
  | .void id _ reason, .read =>
    if reason = "" then .done (.error "void reason is required")
    else readCall env s id voidRead
  | .post id _, .read => readCall env s id postRead
  | .post _ posterID, .getAccount ob =>
    match env.account with
    | .error err => .done (.error ("account not found during posting: " ++ err))
    | .ok account => postAccount env ob account posterID
  | _, stage => stage

/-- The text a failing write is reported with. -/
def writeFailure : Operation → String
  | .set _ => "failed to persist opening balance: "
  | .approve .. => "failed to approve opening balance: "
  | .reject .. => "failed to reject opening balance: "
  | .void .. => "failed to void opening balance: "
  | .post .. => "failed to mark opening balance as posted: "

/-- What a request hands back after its write. -/
def answer (op : Operation) (ob : OpeningBalance) : Option OpeningBalance :=
  match op with
  | .set _ => some ob
  | .post .. => some ob
  | _ => none

/-- One repository call of a request. -/
def next (s : Store) (call : Call) (env : CallEnv) : Store × Call :=
  match call.stage with
  | .create ob =>
    match env.fails with
    | some err => (s, { call with stage := .done (.error (writeFailure call.op ++ err)) })
    | none =>
      -- the primary key refuses an identifier that is taken
      match s.balances.get? ob.id with
      | some _ =>
        (s, { call with stage := .done (.error (writeFailure call.op ++ "duplicate key")) })
      | none => ({ balances := s.balances.insert ob },
          { call with stage := .done (.ok (answer call.op ob)) })
  | .update ob =>
    match env.fails with
    | some err => (s, { call with stage := .done (.error (writeFailure call.op ++ err)) })
    | none => ({ balances := s.balances.put ob },
        { call with stage := .done (.ok (answer call.op ob)) })
  | _ => (s, { call with stage := advance env s call })

abbrev Engine := System Store Call

/-- A request arrives, or a request under way makes its next call. -/
inductive Input where
  | request (op : Operation)
  | act (index : Nat) (env : CallEnv)

def Input.turn : Input → Turn Call CallEnv
  | .request op => .arrive { op := op }
  | .act index env => .act index env

def step (s : Engine) (input : Input) : Engine := System.step next s input.turn

/-- The engine before any request. -/
def initial : Engine where
  shared := { balances := ⟨[], List.nodup_nil⟩ }
  clients := []

end OpeningBalanceEngine

end ErpFinance.Service
