import ErpFinance.Domain.StateMachine
import ErpFinance.Library.Except

/-!
# The finance repositories

The statements of the transaction, account, period and reversal-history
repositories over one database.  A statement reads and writes only the rows its
`WHERE` clause selects; any call may also fail for reasons outside the model.
Records are handed out in the form in which they are held.
-/

namespace ErpFinance.Repository

open Domain Library

/-! ## Errors -/

inductive Error where
  /-- `errors.New` and `fmt.Errorf` without a cause. -/
  | plain (text : String)
  /-- `NewBusinessError`. -/
  | business (code message : String)
  /-- `fmt.Errorf` with a cause. -/
  | wrapped (context : String) (cause : Error)
deriving DecidableEq

namespace Error

def tenantMissing : Error := plain "tenant ID not found in context"
def userMissing : Error := plain "user ID not found in context"
def accountNotFound : Error := plain "account not found"
def transactionNotFound : Error := plain "transaction not found"
def transactionNumberExists : Error := plain "transaction number already exists"
def periodNotFound : Error := plain "accounting period not found for date"
def databaseFailure : Error := plain "database operation failed"
def foreignKeyViolation : Error := plain "foreign key constraint violation"

end Error

/-! ## Requests -/

/-- The identities a request context carries. -/
structure Caller where
  tenantID : Option Uuid := none
  userID : Option Uuid := none

/-- `GetTenantID`: the nil tenant counts as a missing one. -/
def Caller.getTenantID (caller : Caller) : Option Uuid :=
  caller.tenantID.filter (· ≠ Uuid.Nil)

/-- The repository calls of one service operation. -/
inductive Call where
  | getByID | reload | getEntries | getAccount (id : Uuid) | isNumberUnique
  | create | createEntry (index : Nat) | update | approve | reject | post | reverse | delete
  | getPeriod | accountBalance (id : Uuid) | updateBalance (id : Uuid)
  | isReversal | insertReversal | writeOutbox
deriving DecidableEq

/-- What surrounds one service operation: its caller, its clock and the failing calls. -/
structure Env where
  caller : Caller
  now : Time
  fails : Call → Bool := fun _ => false
  /-- The identifier `uuid.New` gives the header the operation builds. -/
  newID : Uuid := Uuid.Nil
  /-- The identifier the database assigns to a header it stores. -/
  assignedID : Uuid := Uuid.Nil
  /-- What the velocity limit of the operation answers. -/
  velocity : Except Error Unit := .ok ()

/-! ## The database -/

structure AccountingPeriod where
  tenantID : Uuid
  name : String
  startDate : Time
  endDate : Time
  status : PeriodStatus

structure AccountBalance where
  accountID : Uuid
  totalDebits : Decimal
  totalCredits : Decimal
  netBalance : Decimal
  asOfDate : Time

structure ReversalHistoryRecord where
  originalTransactionID : Uuid
  reversalTransactionID : Uuid
  reason : String
  reversedBy : Option Uuid

/-- The live rows; deleting a header takes it out of `transactions`. -/
structure Database where
  transactions : Table Transaction
  entries : List TransactionEntry
  accounts : Table Accounts
  periods : List AccountingPeriod
  /-- The balance rows by account and day. -/
  balances : Uuid → Time → Option AccountBalance
  reversals : List ReversalHistoryRecord

namespace Database

variable (env : Env) (db : Database)

/-! ## Reading -/

/-- Every statement runs under a tenant and may fail. -/
def runs (call : Call) : Except Error Uuid :=
  match env.caller.getTenantID with
  | none => .error .tenantMissing
  | some tenant => if env.fails call then .error .databaseFailure else .ok tenant

/-- The live header with an identifier, if the tenant owns it. -/
def visible (tenant id : Uuid) : Option Transaction :=
  (db.transactions.get? id).filter (·.tenantID = tenant)

def getByID (call : Call) (id : Uuid) : Except Error Transaction := do
  let tenant ← runs env call
  match db.visible tenant id with
  | none => .error .transactionNotFound
  | some t => .ok t

/-- `GetByID` of the account repository. -/
def getAccount (id : Uuid) : Except Error Accounts := do
  let tenant ← runs env (.getAccount id)
  match (db.accounts.get? id).filter (·.tenantID = tenant) with
  | none => .error .accountNotFound
  | some account => .ok account

def getEntriesByTransaction (id : Uuid) : Except Error (List TransactionEntry) := do
  let tenant ← runs env .getEntries
  return (db.entries.filter (fun e => e.transactionID = id && e.tenantID = tenant)).mergeSort
    (fun e e' => e.entryNumber ≤ e'.entryNumber)

/-- `IsTransactionNumberUnique` without an excluded identifier; a failing read counts as unique. -/
def isTransactionNumberUnique (number : String) : Except Error Bool :=
  match env.caller.getTenantID with
  | none => .error .tenantMissing
  | some tenant =>
    .ok (env.fails .isNumberUnique ||
      !db.transactions.rows.any
        (fun t => t.transactionNumber = number && t.tenantID = tenant))

/-- `GetPeriodForDate`: a period of the tenant that contains the day. -/
def getPeriodForDate (date : Time) : Except Error AccountingPeriod := do
  let tenant ← runs env .getPeriod
  match db.periods.find? (fun p => p.tenantID = tenant && !date.date.before p.startDate.date &&
      !p.endDate.date.before date.date) with
  | none => .error .periodNotFound
  | some period => .ok period

def isReversal (id : Uuid) : Except Error Bool := do
  let _ ← runs env .isReversal
  return db.reversals.any (·.reversalTransactionID = id)

/-! ## Writing headers -/

/-- Update the selected header of the tenant; no selected row is a missing transaction. -/
def updateWhere (call : Call) (id : Uuid) (selected : Transaction → Bool)
    (set : Transaction → Transaction) : Except Error Database := do
  let tenant ← runs env call
  match (db.visible tenant id).filter selected with
  | none => .error .transactionNotFound
  | some t => .ok { db with transactions := db.transactions.put (set t) }

/-- A `DATE` column: the day, with the zero time read back as no date. -/
def dateColumn (t : Option Time) : Option Time :=
  (t.map Time.date).filter (!·.isZero)

/-- `mapDomainTransactionTypeToSQLCEnum`: most document types are stored as manual. -/
def storedType : TransactionType → TransactionType
  | .system => .system
  | .imported => .imported
  | .recurring => .recurring
  | .adjustment => .adjustment
  | .closing => .closing
  | _ => .manual

/-- `mapDomainTransactionStatusToSQLCEnum`: a status without a column value becomes a draft. -/
def storedStatus : TransactionStatus → TransactionStatus
  | .rejected => .draft
  | .other _ _ => .draft
  | status => status

/-- `mapDomainApprovalStatusToNullEnum`. -/
def storedApproval : ApprovalStatus → ApprovalStatus
  | .pending => .pending
  | .approved => .approved
  | .rejected => .rejected
  | _ => .notRequired

/-- `Create`: the database assigns the identifier, which the caller's record then carries. -/
def create (t : Transaction) : Except Error (Database × Transaction) := do
  let tenant ← runs env .create
  if (db.transactions.get? env.assignedID).isSome then
    .error .databaseFailure
  else if db.transactions.rows.any
      (fun row => row.transactionNumber = t.transactionNumber && row.tenantID = tenant) then
    .error .transactionNumberExists
  else
    let row : Transaction :=
      { t with
        id := env.assignedID
        tenantID := tenant
        transactionType := storedType t.transactionType
        transactionStatus := storedStatus t.transactionStatus
        approvalStatus := storedApproval t.approvalStatus
        createdAt := env.now
        updatedAt := env.now }
    return ({ db with transactions := db.transactions.insert row },
      { t with id := env.assignedID, tenantID := tenant, createdAt := env.now,
               updatedAt := env.now })

/-- The header `Update` writes: absent values keep the stored ones, the statuses never do. -/
def updatedHeader (req t : Transaction) : Transaction :=
  { t with
    transactionStatus := storedStatus req.transactionStatus
    postingDate := dateColumn req.postingDate
    dueDate := dateColumn req.dueDate
    description := req.description
    referenceNumber := req.referenceNumber.or t.referenceNumber
    externalReference := req.externalReference.or t.externalReference
    totalDebitAmount := req.totalDebitAmount
    totalCreditAmount := req.totalCreditAmount
    approvalStatus := storedApproval req.approvalStatus
    approvedBy := req.approvedBy.or t.approvedBy
    approvedAt := req.approvedAt.or t.approvedAt
    approvalNotes := req.approvalNotes.or t.approvalNotes
    updatedAt := env.now
    updatedBy := req.updatedBy }

/-- `Update`: any header of the tenant. -/
def update (req : Transaction) : Except Error Database :=
  updateWhere env db .update req.id (fun _ => true) (updatedHeader env req)

/-- The header `Approve` and `Reject` write: the approval columns, never the status. -/
def judgedHeader (verdict : ApprovalStatus) (by_ : Uuid) (notes : String) (t : Transaction) :
    Transaction :=
  { t with
    approvalStatus := verdict
    approvedBy := some by_
    approvedAt := some env.now
    approvalNotes := some notes
    updatedAt := env.now
    updatedBy := some by_ }

/-- `Approve`: pending headers only. -/
def approve (id approvedBy : Uuid) (notes : String) : Except Error Database :=
  updateWhere env db .approve id (·.approvalStatus = .pending)
    (judgedHeader env .approved approvedBy notes)

/-- The user a statement records; a context without one is refused before the database. -/
def requireUser : Except Error Uuid :=
  if env.caller.getTenantID.isNone then .error .tenantMissing
  else match env.caller.userID with
    | none => .error .userMissing
    | some user => .ok user

/-- `Reject`: pending headers only. -/
def reject (id : Uuid) (notes : String) : Except Error Database := do
  let user ← requireUser env
  updateWhere env db .reject id (·.approvalStatus = .pending)
    (judgedHeader env .rejected user notes)

/-- The header `Post` writes, with the clock's date and the caller as poster. -/
def postedHeader (user : Uuid) (t : Transaction) : Transaction :=
  { t with
    transactionStatus := .posted
    postingDate := some env.now.date
    postedBy := some user
    postedAt := some env.now
    updatedAt := env.now
    updatedBy := some user }

/-- `Post`: approved headers only. -/
def post (id : Uuid) : Except Error Database := do
  let user ← requireUser env
  updateWhere env db .post id (·.transactionStatus = .approved) (postedHeader env user)

/-- The header `Reverse` writes: a flag on a header that stays `POSTED`. -/
def reversedHeader (user reversalID : Uuid) (reason : String) (t : Transaction) : Transaction :=
  { t with
    isReversed := true
    reversedByTransactionID := some reversalID
    reversalReason := some reason
    updatedAt := env.now
    updatedBy := some user }

/-- `Reverse`: posted headers that carry no flag yet. -/
def reverse (id reversalID : Uuid) (reason : String) : Except Error Database := do
  let user ← requireUser env
  updateWhere env db .reverse id (fun t => t.transactionStatus = .posted && !t.isReversed)
    (reversedHeader env user reversalID reason)

/-- `Delete`: drafts and cancelled headers go; on any other status nothing happens. -/
def delete (id : Uuid) : Except Error Database := do
  let tenant ← runs env .delete
  match db.visible tenant id with
  | none => .error .transactionNotFound
  | some t =>
    if t.transactionStatus = .draft || t.transactionStatus = .cancelled then
      return { db with transactions := db.transactions.remove id }
    else return db

/-! ## Writing entries, history and balances -/

/-- `CreateEntry`: the header must exist. -/
def createEntry (index : Nat) (e : TransactionEntry) : Except Error Database := do
  let tenant ← runs env (.createEntry index)
  if (db.transactions.get? e.transactionID).isNone then .error .foreignKeyViolation
  else return { db with entries := db.entries ++ [{ e with tenantID := tenant }] }

/-- `Insert` of the reversal history. -/
def insertReversal (record : ReversalHistoryRecord) : Except Error Database := do
  let _ ← runs env .insertReversal
  return { db with reversals := db.reversals ++ [record] }

def postedLines (tenant account : Uuid) (asOf : Time) : List TransactionEntry :=
  db.entries.filter (fun e =>
    e.accountID = account && e.tenantID = tenant &&
      (db.transactions.get? e.transactionID).any (fun t =>
        t.transactionStatus = .posted &&
          t.postingDate.any (fun date => !asOf.date.before date)))

/-- `GetAccountBalance`: the totals of the posted entries. -/
def getAccountBalance (account : Uuid) : Except Error AccountBalance := do
  let _ ← db.getAccount env account
  let tenant ← runs env (.accountBalance account)
  let lines := db.postedLines tenant account env.now
  return { accountID := account
           totalDebits := totalDebits lines
           totalCredits := totalCredits lines
           netBalance := totalDebits lines - totalCredits lines
           asOfDate := env.now }

/-- `UpdateBalance`: write the balance row of the account and day. -/
def updateBalance (account : Uuid) (balance : AccountBalance) : Except Error Database := do
  let _ ← runs env (.updateBalance account)
  return { db with
    balances := fun a day =>
      if a = account ∧ day = balance.asOfDate.date then some balance else db.balances a day }

/-! ## What a statement does -/

section Specifications

variable {env : Env} {db db' : Database} {call : Call} {id tenant : Uuid}

theorem runs_eq_ok_iff :
    runs env call = .ok tenant ↔
      env.caller.getTenantID = some tenant ∧ env.fails call = false := by
  unfold runs
  cases env.caller.getTenantID with
  | none => simp
  | some owner => cases env.fails call <;> simp

theorem visible_eq_some_iff {t : Transaction} :
    db.visible tenant id = some t ↔
      db.transactions.get? id = some t ∧ t.tenantID = tenant := by
  simp [visible, Option.filter_eq_some_iff]

/-- A header is read when the call works and the caller's tenant owns it. -/
theorem getByID_eq_ok_iff {t : Transaction} :
    db.getByID env call id = .ok t ↔
      ∃ tenant, runs env call = .ok tenant ∧ db.visible tenant id = some t := by
  unfold getByID
  rw [bind_eq_ok_iff]
  apply exists_congr
  intro tenant
  cases db.visible tenant id <;> simp

/-- A header statement replaces the one selected header of the tenant. -/
theorem updateWhere_eq_ok_iff {selected : Transaction → Bool}
    {set : Transaction → Transaction} :
    updateWhere env db call id selected set = .ok db' ↔
      ∃ tenant t, runs env call = .ok tenant ∧ db.visible tenant id = some t ∧
        selected t = true ∧ db' = { db with transactions := db.transactions.put (set t) } := by
  unfold updateWhere
  rw [bind_eq_ok_iff]
  apply exists_congr
  intro tenant
  cases found : db.visible tenant id with
  | none => simp
  | some t =>
    have kept : (some t).filter selected = if selected t then some t else none := rfl
    cases chosen : selected t with
    | false => simp [kept, chosen]
    | true => simpa [kept, chosen] using fun _ => eq_comm

/-- A header statement changes headers only by setting selected ones. -/
theorem evolves_of_updateWhere {selected : Transaction → Bool}
    {set : Transaction → Transaction} {R : Transaction → Transaction → Prop}
    (wrote : updateWhere env db call id selected set = .ok db') (sameID : ∀ t, (set t).id = t.id)
    (reflexive : ∀ t, R t t)
    (sets : ∀ t, db.transactions.get? id = some t → selected t = true → R t (set t)) :
    Table.Evolves R db.transactions db'.transactions := by
  obtain ⟨tenant, t, -, visible, chosen, rfl⟩ := updateWhere_eq_ok_iff.mp wrote
  have found := (visible_eq_some_iff.mp visible).1
  have setKey : Keyed.key (set t) = id := (sameID t).trans (Table.key_of_get? found)
  intro k after held
  rw [Table.get?_put, setKey] at held
  by_cases here : k = id
  · subst here
    simp only [found, if_true, Option.map_some, Option.some.injEq] at held
    exact ⟨t, found, held ▸ sets t found chosen⟩
  · rw [if_neg here] at held
    exact ⟨after, held, reflexive after⟩

theorem requireUser_eq_ok_iff {user : Uuid} :
    requireUser env = .ok user ↔
      env.caller.getTenantID.isSome = true ∧ env.caller.userID = some user := by
  unfold requireUser
  cases env.caller.getTenantID with
  | none => simp
  | some owner => cases env.caller.userID <;> simp

theorem post_eq_ok_iff :
    db.post env id = .ok db' ↔
      ∃ user tenant t, env.caller.userID = some user ∧ runs env .post = .ok tenant ∧
        db.visible tenant id = some t ∧ t.transactionStatus = .approved ∧
        db' = { db with transactions := db.transactions.put (postedHeader env user t) } := by
  simp only [post, bind_eq_ok_iff, requireUser_eq_ok_iff, updateWhere_eq_ok_iff,
    decide_eq_true_eq]
  constructor
  · rintro ⟨user, ⟨-, known⟩, tenant, t, works, found, approved, rfl⟩
    exact ⟨user, tenant, t, known, works, found, approved, rfl⟩
  · rintro ⟨user, tenant, t, known, works, found, approved, rfl⟩
    have present := (runs_eq_ok_iff.mp works).1
    exact ⟨user, ⟨by simp [present], known⟩, tenant, t, works, found, approved, rfl⟩

end Specifications

end Database

end ErpFinance.Repository
