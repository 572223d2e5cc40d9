import ErpFinance.Repository.Database

/-!
# Bank reconciliation

Import of bank statements, matching of their lines with journal entries and the
completion of a reconciliation, over the statements of the reconciliation
repository.  A repository call runs in one transaction of the database and may
fail; what the earlier calls of an operation wrote remains.
-/

namespace ErpFinance.Service

open Domain Library

namespace Reconciliation

/-! ## Statements and lines -/

/-- The column admits these four only. -/
inductive ReconciliationStatus where
  | draft | inProgress | completed | voided
deriving DecidableEq

structure BankStatement where
  id : Uuid := Uuid.Nil
  tenantID : Uuid := Uuid.Nil
  accountID : Uuid := Uuid.Nil
  statementReference : String := ""
  statementDate : Time := Time.zero
  startDate : Time := Time.zero
  currencyCode : String := ""
  openingBalance : Decimal := 0
  closingBalance : Decimal := 0
  status : ReconciliationStatus := .draft
  matchedCount : Int := 0
  unmatchedCount : Int := 0
  differenceAmount : Decimal := 0
  createdAt : Time := Time.zero
  updatedAt : Time := Time.zero
  createdBy : Uuid := Uuid.Nil
  updatedBy : Option Uuid := none

structure BankStatementLine where
  id : Uuid := Uuid.Nil
  statementID : Uuid := Uuid.Nil
  tenantID : Uuid := Uuid.Nil
  transactionDate : Time := Time.zero
  valueDate : Option Time := none
  description : String := ""
  reference : Option String := none
  debitAmount : Decimal := 0
  creditAmount : Decimal := 0
  balance : Decimal := 0
  isReconciled : Bool := false
  reconciledAt : Option Time := none
  reconciledBy : Option Uuid := none
  matchedEntryID : Option Uuid := none
  createdAt : Time := Time.zero

/-- The reconciliation columns of a journal entry. -/
structure EntryReconciliation where
  id : Uuid
  reconciled : Bool := false
  reconciledDate : Option Time := none
  reconciliationReference : Option String := none

instance : Keyed BankStatement Uuid := ⟨BankStatement.id⟩
instance : Keyed BankStatementLine Uuid := ⟨BankStatementLine.id⟩

@[simp] theorem BankStatement.key_eq (stmt : BankStatement) : Keyed.key stmt = stmt.id := rfl

@[simp] theorem BankStatementLine.key_eq (line : BankStatementLine) :
    Keyed.key line = line.id := rfl

def BankStatement.validate (stmt : BankStatement) : List Domain.ValidationError :=
  check (stmt.tenantID = Uuid.Nil)
    { field := "tenant_id", message := "tenant_id is required", code := "REQUIRED_FIELD",
      severity := "ERROR" } ++
  check (stmt.accountID = Uuid.Nil)
    { field := "account_id", message := "account_id is required", code := "REQUIRED_FIELD",
      severity := "ERROR" } ++
  check (isBlank stmt.statementReference)
    { field := "statement_reference", message := "statement_reference is required",
      code := "REQUIRED_FIELD", severity := "ERROR" } ++
  check stmt.statementDate.isZero
    { field := "statement_date", message := "statement_date is required",
      code := "REQUIRED_FIELD", severity := "ERROR" } ++
  check (byteLen stmt.currencyCode ≠ 3)
    { field := "currency_code", message := "currency_code must be a 3-letter ISO code",
      code := "INVALID_FORMAT", severity := "ERROR" }

/-! ## Errors -/

/-- The errors of the repository. -/
inductive ReconError where
  | statementNotFound | statementAlreadyClosed | lineNotFound | lineAlreadyMatched
  | entryAlreadyReconciled
  | other (text : String)

structure BusinessError where
  code : String
  message : String
  httpStatus : Nat

def mapReconError (err : ReconError) (op : String) : BusinessError :=
  match err with
  | .statementNotFound => ⟨"STATEMENT_NOT_FOUND", "bank statement not found", 404⟩
  | .statementAlreadyClosed =>
    ⟨"STATEMENT_ALREADY_COMPLETED", "bank statement is already completed", 409⟩
  | .lineNotFound => ⟨"LINE_NOT_FOUND", "statement line not found", 404⟩
  | .lineAlreadyMatched => ⟨"LINE_ALREADY_MATCHED", "statement line is already matched", 409⟩
  | .entryAlreadyReconciled =>
    ⟨"ENTRY_ALREADY_RECONCILED", "journal entry is already reconciled", 409⟩
  | .other text => ⟨"RECONCILIATION_ERROR", op ++ ": " ++ text, 500⟩

/-! ## The repository -/

structure Store where
  statements : Table BankStatement
  lines : Table BankStatementLine
  entries : List EntryReconciliation

/-- The repository calls. -/
inductive ReconCall where
  | getStatementByID | createStatement | updateStatement | createLines
  | matchLine | unmatchLine | completeReconciliation

/-- The caller and the clock of an operation, its failing calls and the generated identifiers. -/
structure ReconEnv where
  caller : Repository.Caller
  now : Time
  fails : ReconCall → Bool := fun _ => false
  statementID : Uuid := Uuid.Nil
  lineID : Nat → Uuid := fun _ => Uuid.Nil

def runs (env : ReconEnv) (call : ReconCall) : Except ReconError Uuid :=
  match env.caller.getTenantID with
  | none => .error (.other "tenant ID not found in context")
  | some tenant => if env.fails call then .error (.other "database failure") else .ok tenant

def Store.statement? (s : Store) (tenant id : Uuid) : Option BankStatement :=
  (s.statements.get? id).filter (·.tenantID = tenant)

def Store.line? (s : Store) (tenant id : Uuid) : Option BankStatementLine :=
  (s.lines.get? id).filter (·.tenantID = tenant)

def getStatementByID (env : ReconEnv) (s : Store) (id : Uuid) :
    Except ReconError BankStatement := do
  let tenant ← runs env .getStatementByID
  match s.statement? tenant id with
  | none => .error .statementNotFound
  | some stmt => .ok stmt

/-- `CreateStatement` stores both counts as zero; the caller's record gets the identifier. -/
def createStatement (env : ReconEnv) (s : Store) (stmt : BankStatement) :
    Except ReconError (Store × BankStatement) := do
  let tenant ← runs env .createStatement
  let taken := (s.statements.get? env.statementID).isSome ||
    s.statements.rows.any (fun row => row.tenantID = tenant && row.accountID = stmt.accountID &&
      row.statementReference = stmt.statementReference)
  if taken then .error (.other "duplicate key value violates unique constraint")
  else
    let row : BankStatement :=
      { stmt with
        id := env.statementID
        tenantID := tenant
        statementDate := stmt.statementDate.date
        startDate := stmt.startDate.date
        matchedCount := 0
        unmatchedCount := 0
        createdAt := env.now
        updatedAt := env.now
        updatedBy := none }
    .ok ({ s with statements := s.statements.insert row },
      { stmt with id := env.statementID, createdAt := env.now, updatedAt := env.now })

/-- The columns `UpdateStatement` writes: the status, the counts and the difference. -/
def BankStatement.restated (row stmt : BankStatement) (now : Time) : BankStatement :=
  { row with
    status := stmt.status
    matchedCount := stmt.matchedCount
    unmatchedCount := stmt.unmatchedCount
    differenceAmount := stmt.differenceAmount
    updatedAt := now
    updatedBy := stmt.updatedBy }

def updateStatement (env : ReconEnv) (s : Store) (stmt : BankStatement) :
    Except ReconError Store := do
  let tenant ← runs env .updateStatement
  match s.statement? tenant stmt.id with
  | none => .error (.other "no rows in result set")
  | some row => .ok { s with statements := s.statements.put (row.restated stmt env.now) }

/-- Insert lines one after the other; amounts are not negative. -/
def insertLines : Table BankStatementLine → List BankStatementLine →
    Except ReconError (Table BankStatementLine)
  | lines, [] => .ok lines
  | lines, line :: rest =>
    if line.debitAmount < 0 ∨ line.creditAmount < 0 ∨ (lines.get? line.id).isSome then
      .error (.other "insert statement line: constraint violation")
    else insertLines (lines.insert line) rest

/-- `CreateLines`: all lines or none; a new line is not reconciled. -/
def createLines (env : ReconEnv) (s : Store) (lines : List BankStatementLine) :
    Except ReconError (Store × List BankStatementLine) := do
  let tenant ← runs env .createLines
  let stored ← insertLines s.lines (lines.zipIdx.map (fun (line, index) =>
    { line with
      id := env.lineID index
      tenantID := tenant
      isReconciled := false
      reconciledAt := none
      reconciledBy := none
      matchedEntryID := none
      createdAt := env.now }))
  return ({ s with lines := stored }, lines.zipIdx.map (fun (line, index) =>
    { line with id := env.lineID index, createdAt := env.now }))

def BankStatementLine.matchedTo (line : BankStatementLine) (entryID byUserID : Uuid)
    (now : Time) : BankStatementLine :=
  { line with
    isReconciled := true
    reconciledAt := some now
    reconciledBy := some byUserID
    matchedEntryID := some entryID }

def BankStatementLine.unmatched (line : BankStatementLine) : BankStatementLine :=
  { line with
    isReconciled := false
    reconciledAt := none
    reconciledBy := none
    matchedEntryID := none }

/-- `MatchLine` of the repository takes the line of any statement that is not reconciled. -/
def storeMatch (env : ReconEnv) (s : Store) (lineID entryID byUserID : Uuid) :
    Except ReconError Store := do
  let tenant ← runs env .matchLine
  match (s.line? tenant lineID).filter (fun line => !line.isReconciled) with
  | none => .error .lineAlreadyMatched
  | some line =>
    .ok { s with lines := s.lines.put (line.matchedTo entryID byUserID env.now) }

/-- `UnmatchLine` of the repository succeeds whether it finds a line or not. -/
def storeUnmatch (env : ReconEnv) (s : Store) (lineID : Uuid) : Except ReconError Store := do
  let tenant ← runs env .unmatchLine
  match s.line? tenant lineID with
  | none => .ok s
  | some line => .ok { s with lines := s.lines.put line.unmatched }

/-- The reference the entries of a completed statement get. -/
def reconciliationReference (statementID : Uuid) : String :=
  "RECON-" ++ String.ofList ((Uuid.string statementID).toList.take 8)

def stampEntries (env : ReconEnv) (s : Store) (statementID : Uuid) : List EntryReconciliation :=
  s.entries.map (fun entry =>
    if s.lines.rows.any (fun line => line.statementID = statementID &&
        line.matchedEntryID = some entry.id && line.isReconciled) then
      { entry with
        reconciled := true
        reconciledDate := some env.now
        reconciliationReference := some (reconciliationReference statementID) }
    else entry)

/-- `CompleteReconciliation` of the repository. -/
def storeCompletion (env : ReconEnv) (s : Store) (statementID byUserID : Uuid) :
    Except ReconError Store := do
  let tenant ← runs env .completeReconciliation
  match (s.statement? tenant statementID).filter (fun stmt => stmt.status ≠ .completed) with
  | none => .error .statementAlreadyClosed
  | some stmt =>
    let completed : BankStatement :=
      { stmt with status := .completed, updatedAt := env.now, updatedBy := some byUserID }
    .ok { s with
      statements := s.statements.put completed
      entries := stampEntries env s statementID }

/-! ## The service -/

/-- The statement `ImportStatement` hands to the repository. -/
def preparedStatement (tenant : Uuid) (stmt : BankStatement) (lines : List BankStatementLine) :
    BankStatement :=
  { stmt with tenantID := tenant, status := .draft, unmatchedCount := lines.length }

/-- The lines it hands over for a created statement. -/
def preparedLines (tenant statementID : Uuid) (lines : List BankStatementLine) :
    List BankStatementLine :=
  lines.map (fun line => { line with statementID := statementID, tenantID := tenant })

/-- `ImportStatement`; its lines are created after the statement, in a call of their own. -/
def importStatement (env : ReconEnv) (s : Store) (stmt : BankStatement)
    (lines : List BankStatementLine) :
    Store × Except BusinessError (BankStatement × List BankStatementLine) :=
  match env.caller.getTenantID with
  | none => (s, .error ⟨"MISSING_TENANT", "tenant ID not found in context", 401⟩)
  | some tenant =>
    match (preparedStatement tenant stmt lines).validate with
    | err :: _ => (s, .error ⟨"STATEMENT_VALIDATION_FAILED", err.message, 400⟩)
    | [] =>
      match createStatement env s (preparedStatement tenant stmt lines) with
      | .error err => (s, .error (mapReconError err "import statement"))
      | .ok (created, stmt) =>
        if lines.isEmpty then (created, .ok (stmt, []))
        else match createLines env created (preparedLines tenant stmt.id lines) with
          | .error err => (created, .error (mapReconError err "create statement lines"))
          | .ok (filled, lines) => (filled, .ok (stmt, lines))

/-- The counter update after a line has changed; its failure is not reported. -/
def updateCounters (env : ReconEnv) (s : Store) (stmt : BankStatement) : Store :=
  match updateStatement env s stmt with
  | .error _ => s
  | .ok after => after

/-- The statement once one of its lines is matched; matching starts a draft. -/
def BankStatement.countMatch (stmt : BankStatement) (byUserID : Uuid) : BankStatement :=
  { stmt with
    status := if stmt.status = .draft then .inProgress else stmt.status
    matchedCount := stmt.matchedCount + 1
    unmatchedCount :=
      if 0 < stmt.unmatchedCount then stmt.unmatchedCount - 1 else stmt.unmatchedCount
    updatedBy := some byUserID }

/-- The statement once a match is removed. -/
def BankStatement.countUnmatch (stmt : BankStatement) : BankStatement :=
  { stmt with
    matchedCount := if 0 < stmt.matchedCount then stmt.matchedCount - 1 else stmt.matchedCount
    unmatchedCount := stmt.unmatchedCount + 1 }

def matchLine (env : ReconEnv) (s : Store) (statementID lineID entryID byUserID : Uuid) :
    Store × Except BusinessError BankStatement :=
  match getStatementByID env s statementID with
  | .error err => (s, .error (mapReconError err "get statement"))
  | .ok stmt =>
    if stmt.status = .completed ∨ stmt.status = .voided then
      (s, .error ⟨"STATEMENT_CLOSED", "cannot modify a completed or voided statement", 409⟩)
    else match storeMatch env s lineID entryID byUserID with
      | .error err => (s, .error (mapReconError err "match line"))
      | .ok after =>
        (updateCounters env after (stmt.countMatch byUserID), .ok (stmt.countMatch byUserID))

/-- `UnmatchLine`; a voided statement is not refused here. -/
def unmatchLine (env : ReconEnv) (s : Store) (statementID lineID : Uuid) :
    Store × Except BusinessError BankStatement :=
  match getStatementByID env s statementID with
  | .error err => (s, .error (mapReconError err "get statement"))
  | .ok stmt =>
    if stmt.status = .completed then
      (s, .error ⟨"STATEMENT_CLOSED", "cannot modify a completed statement", 409⟩)
    else match storeUnmatch env s lineID with
      | .error err => (s, .error (mapReconError err "unmatch line"))
      | .ok after => (updateCounters env after stmt.countUnmatch, .ok stmt.countUnmatch)

/-- `CompleteReconciliation`; the difference stays with the returned record. -/
def completeReconciliation (env : ReconEnv) (s : Store) (statementID byUserID : Uuid) :
    Store × Except BusinessError BankStatement :=
  match getStatementByID env s statementID with
  | .error err => (s, .error (mapReconError err "get statement"))
  | .ok stmt =>
    if stmt.status = .completed then
      (s, .error ⟨"STATEMENT_ALREADY_COMPLETED", "statement is already completed", 409⟩)
    else if stmt.status = .voided then
      (s, .error ⟨"STATEMENT_VOIDED", "cannot complete a voided statement", 409⟩)
    else match storeCompletion env s statementID byUserID with
      | .error err => (s, .error (mapReconError err "complete reconciliation"))
      | .ok after =>
        (after, .ok { stmt with
          differenceAmount := stmt.closingBalance - stmt.openingBalance
          status := .completed
          updatedBy := some byUserID
          updatedAt := env.now })

/--
Voiding has no function of its own: the statement is read and handed back to
`UpdateStatement` of the repository with the status changed.
-/
def voidStatement (env : ReconEnv) (s : Store) (statementID : Uuid) : Store :=
  match getStatementByID env s statementID with
  | .error _ => s
  | .ok stmt => updateCounters env s { stmt with status := .voided }

/-! ## Operations -/

inductive Operation where
  | importStatement (env : ReconEnv) (stmt : BankStatement) (lines : List BankStatementLine)
  | matchLine (env : ReconEnv) (statementID lineID entryID byUserID : Uuid)
  | unmatchLine (env : ReconEnv) (statementID lineID : Uuid)
  | completeReconciliation (env : ReconEnv) (statementID byUserID : Uuid)
  | voidStatement (env : ReconEnv) (statementID : Uuid)

def step (s : Store) : Operation → Store
  | .importStatement env stmt lines => (importStatement env s stmt lines).1
  | .matchLine env statementID lineID entryID byUserID =>
    (matchLine env s statementID lineID entryID byUserID).1
  | .unmatchLine env statementID lineID => (unmatchLine env s statementID lineID).1
  | .completeReconciliation env statementID byUserID =>
    (completeReconciliation env s statementID byUserID).1
  | .voidStatement env statementID => voidStatement env s statementID

/-- The statement an operation goes through. -/
def Operation.statementID : Operation → Option Uuid
  | .importStatement .. => none
  | .matchLine _ statementID _ _ _ => some statementID
  | .unmatchLine _ statementID _ => some statementID
  | .completeReconciliation _ statementID _ => some statementID
  | .voidStatement _ statementID => some statementID

end Reconciliation

end ErpFinance.Service
