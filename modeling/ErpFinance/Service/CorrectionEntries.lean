import ErpFinance.Service.ReversalEngine

/-!
# Correction entries

`CreateCorrectionEntry` books correcting entries for a stored transaction.  It
validates them against the accounts it loads, and what loads the accounts loads
none, so that no correction passes.
-/

namespace ErpFinance.Service.ReversalEngine

open Domain Library
open PostingEngine (getByID postTransaction)

/-! ## Requests and results -/

inductive CorrectionType where
  | amount | account | description
  | other (code : String) (unknown : code ∉ ["AMOUNT", "ACCOUNT", "DESCRIPTION"])

structure CorrectionEntryDefinition where
  originalEntryID : Uuid := Uuid.Nil
  accountID : Uuid
  newDebitAmount : Decimal := 0
  newCreditAmount : Decimal := 0
  correctionType : CorrectionType := .amount
  description : String

structure CorrectionEntryRequest where
  originalTransactionID : Uuid
  correctionEntries : List CorrectionEntryDefinition
  correctedBy : Uuid
  correctionReason : String
  correctionDate : Option Time := none
  autoPost : Bool := false

structure CorrectionEntryResult where
  correctionTransaction : Option Transaction := none
  success : Bool := false
  postingResult : Option PostingEngine.PostTransactionResult := none
  errors : List String := []

structure CorrectionEnv where
  now : Time
  loadFails : Bool := false
  createFails : Bool := false
  newID : Nat → Uuid := fun _ => Uuid.Nil
  /-- The answer of the numbering service. -/
  number : Except String String := .ok ""
  /-- The failing calls of the posting engine. -/
  faults : Faults := {}

/-- What a correction leaves, what it reports and the error it returns. -/
structure CorrectionOutcome where
  ledger : Ledger
  result : CorrectionEntryResult
  err : Option String := none

/-! ## The correction -/

def correctionEntry (env : CorrectionEnv) (tenantID : Uuid)
    (indexed : CorrectionEntryDefinition × Nat) : TransactionEntry :=
  { id := env.newID (indexed.2 + 1)
    tenantID
    transactionID := env.newID 0
    entryNumber := int32 (indexed.2 + 1)
    accountID := indexed.1.accountID
    debitAmount := indexed.1.newDebitAmount
    creditAmount := indexed.1.newCreditAmount
    description := indexed.1.description }

/-- The correcting transaction with its number and entries. -/
def correctionTransaction (env : CorrectionEnv) (original : Transaction)
    (req : CorrectionEntryRequest) (number : String) : Transaction :=
  let correction : Transaction :=
    { id := env.newID 0
      tenantID := original.tenantID
      entityID := original.entityID
      transactionNumber := number
      transactionType := .adjustment
      transactionStatus := .draft
      transactionDate := env.now
      description :=
        "Correction for " ++ original.transactionNumber ++ " - " ++ req.correctionReason
      currencyCode := original.currencyCode
      exchangeRate := original.exchangeRate
      approvalRequired := true
      approvalStatus := .pending
      validationStatus := .pending
      createdBy := req.correctedBy
      createdAt := env.now
      updatedAt := env.now
      entries := req.correctionEntries.zipIdx.map (correctionEntry env original.tenantID) }
  correction.calculateTotals

/-- `loadTransactionAccounts`: an empty map, whatever the transaction. -/
def loadTransactionAccounts (_ : Transaction) : Except String AccountMap := .ok fun _ => none

/-- The posting that a correction asks for; a failing one is not reported. -/
def autoPost (cfg : Config) (env : CorrectionEnv) (s : Ledger) (req : CorrectionEntryRequest)
    (correction : Transaction) : CorrectionOutcome :=
  let saved : CorrectionEntryResult :=
    { correctionTransaction := some correction, success := true }
  if req.autoPost then
    let out := postTransaction cfg.tolerance { now := env.now, faults := env.faults } s
      { transactionID := correction.id
        postedBy := req.correctedBy
        postingDate := req.correctionDate
        validateBeforePosting := true }
    { ledger := out.ledger
      result :=
        { saved with
          postingResult :=
            if out.err.isNone && out.result.success then some out.result else none } }
  else { ledger := s, result := saved }

def createCorrectionEntry (cfg : Config) (env : CorrectionEnv) (s : Ledger)
    (req : CorrectionEntryRequest) : CorrectionOutcome :=
  let fail (message err : String) : CorrectionOutcome :=
    { ledger := s, result := { errors := [message ++ err] }, err := some err }
  match getByID s.transactions "transaction not found" env.loadFails
      req.originalTransactionID with
  | .error err => fail "Failed to load original transaction: " err
  | .ok original =>
    match env.number with
    | .error err => fail "Failed to generate transaction number: " err
    | .ok number =>
      let correction := correctionTransaction env original req number
      match loadTransactionAccounts correction with
      | .error err => fail "Failed to load accounts: " err
      | .ok accounts =>
        let validation := DoubleEntryValidator.validateTransaction cfg.tolerance env.now
          correction accounts
        if !validation.isValid then
          { ledger := s
            result :=
              { errors := "Correction transaction validation failed" ::
                  validation.errors.map ValidationError.message }
            err := some "correction transaction validation failed" }
        else if env.createFails || (s.transactions.get? correction.id).isSome then
          fail "Failed to save correction transaction: " "repository failure"
        else
          autoPost cfg env { s with transactions := s.transactions.insert correction } req
            correction

def netOf (account : Uuid) (entries : List TransactionEntry) : Decimal :=
  ((entries.filter fun e => e.accountID = account).map fun e =>
    e.debitAmount - e.creditAmount).sum

/-- The correction succeeds: with it there is a reversal, and original, reversal and correction
together leave on every account what the correcting entries say. -/
def Corrects (cfg : Config) (env : CorrectionEnv) (s : Ledger) (req : CorrectionEntryRequest) :
    Prop :=
  (createCorrectionEntry cfg env s req).result.success = true ∧
    ∃ original reversal correction,
      s.transactions.get? req.originalTransactionID = some original ∧
      (createCorrectionEntry cfg env s req).ledger.transactions.get? reversal.id = some reversal ∧
      (createCorrectionEntry cfg env s req).result.correctionTransaction = some correction ∧
      ∀ account, netOf account original.entries + netOf account reversal.entries +
          netOf account correction.entries =
        netOf account (req.correctionEntries.zipIdx.map (correctionEntry env original.tenantID))

/-! ## No correction passes -/

theorem isValid_setFinalLevel {result : ValidationResult} (errors : result.errors ≠ []) :
    (DoubleEntryValidator.setFinalLevel result).isValid = false := by
  rw [DoubleEntryValidator.setFinalLevel, if_pos errors]

theorem errors_of_isValid {tolerance : Decimal} {now : Time} {t : Transaction}
    {accounts : AccountMap}
    (valid : (DoubleEntryValidator.validateTransaction tolerance now t accounts).isValid = true) :
    (DoubleEntryValidator.validateTransaction tolerance now t accounts).errors = [] := by
  by_contra errors
  refine absurd valid ?_
  rw [Bool.not_eq_true]
  apply isValid_setFinalLevel
  rwa [DoubleEntryValidator.validateTransaction, DoubleEntryValidator.setFinalLevel_errors]
    at errors

/-- Without accounts nothing is valid: too few entries, or an entry whose account is missing. -/
theorem validateTransaction_noAccounts (tolerance : Decimal) (now : Time) (t : Transaction) :
    (DoubleEntryValidator.validateTransaction tolerance now t fun _ => none).isValid = false := by
  by_contra accepted
  have errors := errors_of_isValid (by simpa using accepted)
  rw [DoubleEntryValidator.validateTransaction_errors] at errors
  simp only [List.append_eq_nil_iff] at errors
  obtain ⟨⟨⟨⟨-, entries⟩, accounts⟩, -⟩, -⟩ := errors
  simp only [DoubleEntryValidator.validateEntries, List.append_eq_nil_iff, check_eq_nil,
    decide_eq_false_iff_not, not_lt] at entries
  obtain ⟨e, rest, shape⟩ := List.exists_cons_of_length_pos
    (show 0 < t.entries.length by omega)
  simp [DoubleEntryValidator.validateAccountCompatibility, DoubleEntryValidator.accountErrors,
    shape] at accounts

theorem createCorrectionEntry_refuses (cfg : Config) (env : CorrectionEnv) (s : Ledger)
    (req : CorrectionEntryRequest) :
    (createCorrectionEntry cfg env s req).err ≠ none ∧
      (createCorrectionEntry cfg env s req).result.success = false ∧
      (createCorrectionEntry cfg env s req).ledger = s := by
  unfold createCorrectionEntry
  split
  · exact ⟨Option.some_ne_none _, rfl, rfl⟩
  · split
    · exact ⟨Option.some_ne_none _, rfl, rfl⟩
    · next number _ =>
        simp only [loadTransactionAccounts, validateTransaction_noAccounts]
        exact ⟨Option.some_ne_none _, rfl, rfl⟩

/-- No correction does what it is for, whatever the original, the entries and the accounts. -/
theorem never_corrects (cfg : Config) (env : CorrectionEnv) (s : Ledger)
    (req : CorrectionEntryRequest) : ¬Corrects cfg env s req := by
  rintro ⟨success, -⟩
  rw [(createCorrectionEntry_refuses cfg env s req).2.1] at success
  cases success

/-! ## A sample correction -/

/-- The sample rent, posted, with two open accounts. -/
def rentLedger : Ledger where
  transactions :=
    { rows := [{ Transaction.rentDraft with transactionStatus := .posted, postedBy := some 23 }]
      nodup := by simp }
  accounts :=
    { rows := [{ id := 11, tenantID := 7, accountCode := "5100", normalBalance := .debit
                 isActive := true, status := .active, validationStatus := .valid },
               { id := 12, tenantID := 7, accountCode := "2100", normalBalance := .credit
                 isActive := true, status := .active, validationStatus := .valid }]
      nodup := by decide }

def rentCorrection : CorrectionEntryRequest :=
  { originalTransactionID := 1
    correctionEntries :=
      [{ accountID := 11, newDebitAmount := 90, description := "Office rent" },
       { accountID := 12, newCreditAmount := 90, description := "Office rent" }]
    correctedBy := 21
    correctionReason := "wrong amount" }

/-- Balanced entries over open accounts do not correct a balanced posted transaction. -/
theorem rentCorrection_refused :
    (∀ d ∈ rentCorrection.correctionEntries, ∃ account,
      rentLedger.accounts.get? d.accountID = some account ∧
        account.canAcceptTransactions = true) ∧
    (createCorrectionEntry {} { now := ⟨2024, 6, 1, 0, by decide⟩, newID := fun n => 50 + n
                                number := .ok "ADJ-2024-000001" } rentLedger rentCorrection).err =
      some "correction transaction validation failed" := by
  refine ⟨?_, by decide +kernel⟩
  intro d member
  simp only [rentCorrection, List.mem_cons, List.not_mem_nil, or_false] at member
  rcases member with rfl | rfl
  · exact ⟨_, rfl, by decide⟩
  · exact ⟨_, rfl, by decide⟩

end ErpFinance.Service.ReversalEngine
