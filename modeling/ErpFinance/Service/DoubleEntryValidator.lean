import ErpFinance.Domain.Transaction
import Mathlib.Tactic.NormNum

/-!
# The double-entry validator

`ValidateTransaction` and the validators it merges.  Balance is judged over the
entries with a tolerance, and the header totals are compared with the entries
exactly.  Iteration over a Go map is taken in order of first occurrence.
-/

namespace ErpFinance.Service

open Domain

/-! ## Results -/

inductive ValidationLevel where
  | valid | warning | error | fatal
deriving DecidableEq

/-- The `any` value a finding carries. -/
inductive Value where
  | text (s : String)
  | decimal (d : Decimal)
  | uuid (id : Uuid)
  | status (s : TransactionStatus)
  | time (t : Time)
  | flag (b : Bool)
deriving DecidableEq

structure ValidationError where
  field : String
  message : String
  code : String
  severity : String
  value : Option Value := none
  expectedValue : Option Value := none
deriving DecidableEq

structure ValidationWarning where
  field : String
  message : String
  code : String
  value : Option Value := none
deriving DecidableEq

structure BusinessRuleResult where
  ruleID : String
  ruleName : String
  passed : Bool
  message : String := ""
  severity : String

structure BalanceValidationResult where
  totalDebits : Decimal
  totalCredits : Decimal
  difference : Decimal
  isBalanced : Bool
  tolerance : Decimal

structure CurrencyValidationResult where
  baseCurrency : String
  multiCurrency : Bool
  currenciesUsed : List String
  exchangeRateValid : Bool
  conversionAccurate : Bool

structure AccountValidationResult where
  accountsValidated : Nat
  inactiveAccounts : List Uuid
  missingAccounts : List Uuid
  accountTypes : List (String × Nat)
  normalBalances : List (String × Nat)

structure ValidationResult where
  isValid : Bool := true
  validationLevel : ValidationLevel := .valid
  errors : List ValidationError := []
  warnings : List ValidationWarning := []
  businessRules : List BusinessRuleResult := []
  balanceCheck : Option BalanceValidationResult := none
  currencyCheck : Option CurrencyValidationResult := none
  accountCheck : Option AccountValidationResult := none

/-- The accounts a validator is handed: `map[uuid.UUID]*domain.Accounts`. -/
abbrev AccountMap := Uuid → Option Accounts

/-- How often each string occurs, in order of first occurrence. -/
def tally (names : List String) : List (String × Nat) :=
  names.reverse.dedup.reverse.map (fun name => (name, names.count name))

namespace DoubleEntryValidator

/-- The default tolerance of `NewDoubleEntryValidator`. -/
def defaultTolerance : Decimal := 1 / 100

/-! ## Structure and balance -/

def validateTransactionStructure (t : Transaction) : List ValidationError :=
  check (t.id = Uuid.Nil)
    { field := "id", message := "Transaction ID is required", code := "REQUIRED_FIELD",
      severity := "ERROR" } ++
  check (t.tenantID = Uuid.Nil)
    { field := "tenant_id", message := "Tenant ID is required", code := "REQUIRED_FIELD",
      severity := "ERROR" } ++
  check (isBlank t.transactionNumber)
    { field := "transaction_number", message := "Transaction number is required",
      code := "REQUIRED_FIELD", severity := "ERROR" }

def headerMismatch (field side : String) (header entries : Decimal) : ValidationError :=
  { field := field
    message := "Transaction header " ++ side ++ " total (" ++ Decimal.string header ++
      ") does not match entries total (" ++ Decimal.string entries ++ ")"
    code := "HEADER_ENTRY_MISMATCH"
    severity := "ERROR"
    value := some (.decimal header)
    expectedValue := some (.decimal entries) }

/-- `ValidateBalance`: the entries within the tolerance, the header totals exactly. -/
def validateBalance (tolerance : Decimal) (t : Transaction) : ValidationResult :=
  let debits := totalDebits t.entries
  let credits := totalCredits t.entries
  let difference := |debits - credits|
  let balanced : Bool := difference ≤ tolerance
  { balanceCheck := some
      { totalDebits := debits, totalCredits := credits, difference := difference,
        isBalanced := balanced, tolerance := tolerance }
    errors :=
      check (!balanced)
        { field := "entries"
          message := "Transaction does not balance: debits=" ++ Decimal.string debits ++
            ", credits=" ++ Decimal.string credits ++ ", difference=" ++
            Decimal.string difference
          code := "UNBALANCED_TRANSACTION"
          severity := "ERROR"
          value := some (.decimal difference)
          expectedValue := some (.decimal 0) } ++
      check (debits ≠ t.totalDebitAmount)
        (headerMismatch "total_debit_amount" "debit" t.totalDebitAmount debits) ++
      check (credits ≠ t.totalCreditAmount)
        (headerMismatch "total_credit_amount" "credit" t.totalCreditAmount credits) }

/-! ## Entries -/

def validateIndividualEntry (e : TransactionEntry) (index : Nat) : List ValidationError :=
  let hasDebit : Bool := 0 < e.debitAmount
  let hasCredit : Bool := 0 < e.creditAmount
  check (hasDebit && hasCredit)
    { field := entryPath index, message := "Entry cannot have both debit and credit amounts",
      code := "INVALID_ENTRY_AMOUNTS", severity := "ERROR" } ++
  check (!hasDebit && !hasCredit)
    { field := entryPath index, message := "Entry must have either debit or credit amount",
      code := "MISSING_ENTRY_AMOUNT", severity := "ERROR" } ++
  check (e.debitAmount < 0)
    { field := entryPath index ++ ".debit_amount",
      message := "Debit amount cannot be negative", code := "NEGATIVE_AMOUNT",
      severity := "ERROR", value := some (.decimal e.debitAmount) } ++
  check (e.creditAmount < 0)
    { field := entryPath index ++ ".credit_amount",
      message := "Credit amount cannot be negative", code := "NEGATIVE_AMOUNT",
      severity := "ERROR", value := some (.decimal e.creditAmount) }

def validateEntryUniqueness (entries : List TransactionEntry) : List ValidationWarning :=
  let ids := entries.map TransactionEntry.accountID
  (ids.reverse.dedup.reverse.filter (fun id => 1 < ids.count id)).map (fun id =>
    { field := "entries"
      message := "Account " ++ Uuid.string id ++ " appears in multiple entries"
      code := "DUPLICATE_ACCOUNT_ENTRIES"
      value := some (.text (Uuid.string id)) })

def validateEntryConsistency (entries : List TransactionEntry) : List ValidationWarning :=
  entries.zipIdx.flatMap (fun indexed =>
    check (indexed.1.debitAmount = 0 && indexed.1.creditAmount = 0)
      { field := entryPath indexed.2, message := "Entry has zero amount",
        code := "ZERO_AMOUNT_ENTRY" })

def validateEntries (entries : List TransactionEntry) : ValidationResult where
  errors :=
    check (entries.length < 2)
      { field := "entries",
        message := "Transaction must have at least 2 entries for double-entry bookkeeping",
        code := "INSUFFICIENT_ENTRIES", severity := "ERROR" } ++
    entries.zipIdx.flatMap (fun indexed => validateIndividualEntry indexed.1 indexed.2)
  warnings := validateEntryUniqueness entries ++ validateEntryConsistency entries

/-! ## Accounts -/

def validateNormalBalance (e : TransactionEntry) (a : Accounts) (index : Nat) :
    List ValidationWarning :=
  match a.normalBalance with
  | .debit =>
    check (0 < e.creditAmount)
      { field := entryPath index
        message := "Account " ++ a.accountName ++
          " has normal debit balance but entry is credit"
        code := "ABNORMAL_BALANCE_ENTRY"
        value := some (.text a.accountName) }
  | .credit =>
    check (0 < e.debitAmount)
      { field := entryPath index
        message := "Account " ++ a.accountName ++
          " has normal credit balance but entry is debit"
        code := "ABNORMAL_BALANCE_ENTRY"
        value := some (.text a.accountName) }
  | .other _ _ => []

def accountErrors (accounts : AccountMap) (e : TransactionEntry) (index : Nat) :
    List ValidationError :=
  match accounts e.accountID with
  | none =>
    [{ field := entryPath index ++ ".account_id"
       message := "Referenced account does not exist"
       code := "ACCOUNT_NOT_FOUND"
       severity := "ERROR"
       value := some (.uuid e.accountID) }]
  | some a =>
    check (!a.isActive)
      { field := entryPath index ++ ".account_id"
        message := "Account " ++ a.accountName ++ " is inactive"
        code := "INACTIVE_ACCOUNT"
        severity := "ERROR"
        value := some (.text a.accountName) } ++
    check (a.requireReference && e.reference.all isBlank)
      { field := entryPath index ++ ".reference"
        message := "Account " ++ a.accountName ++ " requires a reference for all entries"
        code := "REFERENCE_REQUIRED"
        severity := "ERROR"
        value := some (.text a.accountName) }

def accountWarnings (accounts : AccountMap) (e : TransactionEntry) (index : Nat) :
    List ValidationWarning :=
  match accounts e.accountID with
  | none => []
  | some a =>
    check (!a.allowManualEntries)
      { field := entryPath index ++ ".account_id"
        message := "Account " ++ a.accountName ++
          " does not typically allow manual entries"
        code := "MANUAL_ENTRY_WARNING"
        value := some (.text a.accountName) } ++
    validateNormalBalance e a index

def validateAccountCompatibility (entries : List TransactionEntry) (accounts : AccountMap) :
    ValidationResult :=
  let found := entries.filterMap (fun e => accounts e.accountID)
  { errors := entries.zipIdx.flatMap (fun indexed =>
      accountErrors accounts indexed.1 indexed.2)
    warnings := entries.zipIdx.flatMap (fun indexed =>
      accountWarnings accounts indexed.1 indexed.2)
    accountCheck := some
      { accountsValidated := found.length
        inactiveAccounts := (entries.filter (fun e =>
          (accounts e.accountID).any (fun a => !a.isActive))).map TransactionEntry.accountID
        missingAccounts := (entries.filter (fun e =>
          (accounts e.accountID).isNone)).map TransactionEntry.accountID
        accountTypes := tally (found.map Accounts.accountType)
        normalBalances := tally (found.map (fun a => a.normalBalance.string)) } }

def currencyErrors (e : TransactionEntry) (index : Nat) : List ValidationError :=
  if e.originalCurrency.isSome then
    check (e.exchangeRate ≤ 0)
      { field := entryPath index ++ ".exchange_rate"
        message := "Entry exchange rate must be greater than zero for multi-currency entries"
        code := "INVALID_ENTRY_EXCHANGE_RATE"
        severity := "ERROR" } ++
    check (e.originalAmount ≤ 0)
      { field := entryPath index ++ ".original_amount"
        message := "Original amount must be provided for multi-currency entries"
        code := "MISSING_ORIGINAL_AMOUNT"
        severity := "ERROR" }
  else []

def validateCurrencyConsistency (t : Transaction) : ValidationResult :=
  let currencies := (t.currencyCode ::
    t.entries.filterMap TransactionEntry.originalCurrency).reverse.dedup.reverse
  let rateValid : Bool := 0 < t.exchangeRate
  { currencyCheck := some
      { baseCurrency := t.currencyCode
        multiCurrency := 1 < currencies.length
        currenciesUsed := currencies
        exchangeRateValid := rateValid
        conversionAccurate := true }
    errors :=
      check (!rateValid)
        { field := "exchange_rate", message := "Exchange rate must be greater than zero",
          code := "INVALID_EXCHANGE_RATE", severity := "ERROR",
          value := some (.decimal t.exchangeRate) } ++
      t.entries.zipIdx.flatMap (fun indexed => currencyErrors indexed.1 indexed.2) }

def controlAccountEntry (accounts : AccountMap) (indexed : TransactionEntry × Nat) :
    Option (Nat × Accounts) :=
  match accounts indexed.1.accountID with
  | some a => if a.isControlAccount then some (indexed.2, a) else none
  | none => none

/-- `ValidateBusinessRules`; only the control-account rule reports errors. -/
def validateBusinessRules (now : Time) (t : Transaction) (accounts : AccountMap) :
    ValidationResult :=
  let control := t.entries.zipIdx.filterMap (controlAccountEntry accounts)
  let future := t.postingDate.any (fun date => date.after now)
  let large : Bool := 1000000 < t.totalDebitAmount
  { businessRules :=
      [{ ruleID := "ACCOUNT_TYPE_CONSISTENCY", ruleName := "Account Type Consistency Check",
         passed := true, severity := "WARNING" },
       { ruleID := "NORMAL_BALANCE_RULES", ruleName := "Normal Balance Rules Check",
         passed := true, severity := "WARNING" },
       { ruleID := "CONTROL_ACCOUNT_USAGE", ruleName := "Control Account Usage Check",
         passed := control.isEmpty, severity := "ERROR",
         message := match control.getLast? with
           | some last => "Entry " ++ toString (last.1 + 1) ++ " uses control account " ++
               last.2.accountName
           | none => "" },
       { ruleID := "POSTING_PERIOD_VALIDATION", ruleName := "Posting Period Validation",
         passed := !future, severity := "WARNING",
         message := if future then "Posting date is in the future" else "" },
       { ruleID := "AMOUNT_LIMITS", ruleName := "Transaction Amount Limits",
         passed := !large, severity := "WARNING",
         message := if large then
           "Transaction amount (" ++ Decimal.string t.totalDebitAmount ++
             ") exceeds typical limit (1000000)" else "" }]
    errors := control.map (fun used =>
      { field := entryPath used.1 ++ ".account_id"
        message := "Control account " ++ used.2.accountName ++
          " should not have direct entries"
        code := "CONTROL_ACCOUNT_ENTRY"
        severity := "ERROR"
        value := some (.text used.2.accountName) })
    warnings :=
      check future
        { field := "posting_date", message := "Posting date is in the future",
          code := "FUTURE_POSTING_DATE", value := t.postingDate.map Value.time } ++
      check large
        { field := "total_debit_amount", message := "Transaction amount is unusually large",
          code := "LARGE_TRANSACTION_AMOUNT", value := some (.decimal t.totalDebitAmount) } }

/-! ## The whole validation -/

def mergeResults (target source : ValidationResult) : ValidationResult :=
  { target with
    errors := target.errors ++ source.errors
    warnings := target.warnings ++ source.warnings
    businessRules := target.businessRules ++ source.businessRules
    isValid := if source.errors = [] then target.isValid else false
    validationLevel :=
      if source.errors ≠ [] then .error
      else if source.warnings ≠ [] ∧ target.validationLevel = .valid then .warning
      else target.validationLevel }

theorem mergeResults_errors (target source : ValidationResult) :
    (mergeResults target source).errors = target.errors ++ source.errors := rfl

/-- The final level of a validation: errors first, then warnings. -/
def setFinalLevel (result : ValidationResult) : ValidationResult :=
  if result.errors ≠ [] then { result with isValid := false, validationLevel := .error }
  else if result.warnings ≠ [] then { result with validationLevel := .warning }
  else result

/--
`ValidateTransaction`.  The business rules are assigned before they are merged,
so the source lists each of them twice; the model does the same.
-/
def validateTransaction (tolerance : Decimal) (now : Time) (t : Transaction)
    (accounts : AccountMap) : ValidationResult :=
  let balance := validateBalance tolerance t
  let compatibility := validateAccountCompatibility t.entries accounts
  let currency := validateCurrencyConsistency t
  let business := validateBusinessRules now t accounts
  let structural : ValidationResult :=
    { errors := validateTransactionStructure t, balanceCheck := balance.balanceCheck }
  let withEntries := mergeResults (mergeResults structural balance) (validateEntries t.entries)
  let withAccounts := mergeResults
    { withEntries with accountCheck := compatibility.accountCheck } compatibility
  let withCurrency := mergeResults
    { withAccounts with currencyCheck := currency.currencyCheck } currency
  setFinalLevel (mergeResults
    { withCurrency with businessRules := business.businessRules } business)

/-! ## What acceptance means -/

theorem setFinalLevel_errors (result : ValidationResult) :
    (setFinalLevel result).errors = result.errors := by
  unfold setFinalLevel
  split
  · rfl
  · split <;> rfl

/-- The errors of a validation are those of its parts, in order. -/
theorem validateTransaction_errors (tolerance : Decimal) (now : Time) (t : Transaction)
    (accounts : AccountMap) :
    (validateTransaction tolerance now t accounts).errors =
      validateTransactionStructure t ++ (validateBalance tolerance t).errors ++
        (validateEntries t.entries).errors ++
        (validateAccountCompatibility t.entries accounts).errors ++
        (validateCurrencyConsistency t).errors ++
        (validateBusinessRules now t accounts).errors := by
  simp only [validateTransaction, setFinalLevel_errors, mergeResults_errors]

theorem totals_of_validateBalance {tolerance : Decimal} {t : Transaction}
    (accepted : (validateBalance tolerance t).errors = []) :
    totalDebits t.entries = t.totalDebitAmount ∧
      totalCredits t.entries = t.totalCreditAmount ∧
      |totalDebits t.entries - totalCredits t.entries| ≤ tolerance := by
  simp only [validateBalance, List.append_eq_nil_iff, check_eq_nil] at accepted
  obtain ⟨⟨near, debits⟩, credits⟩ := accepted
  exact ⟨by simpa using debits, by simpa using credits, by simpa using near⟩

/-- An entry without errors has exactly one side, and it is positive. -/
theorem oneSided_of_validateIndividualEntry {e : TransactionEntry} {index : Nat}
    (accepted : validateIndividualEntry e index = []) :
    (0 < e.debitAmount ∧ e.creditAmount = 0) ∨ (e.debitAmount = 0 ∧ 0 < e.creditAmount) := by
  simp only [validateIndividualEntry, List.append_eq_nil_iff, check_eq_nil] at accepted
  obtain ⟨⟨⟨notBoth, some_⟩, debitNonneg⟩, creditNonneg⟩ := accepted
  simp only [decide_eq_false_iff_not, not_lt] at debitNonneg creditNonneg
  by_cases debitPos : 0 < e.debitAmount
  · have creditLe : e.creditAmount ≤ 0 := by simpa [debitPos] using notBoth
    exact Or.inl ⟨debitPos, le_antisymm creditLe creditNonneg⟩
  · have creditPos : 0 < e.creditAmount := by simpa [debitPos] using some_
    exact Or.inr ⟨le_antisymm (not_lt.mp debitPos) debitNonneg, creditPos⟩

theorem oneSided_of_validateEntries {entries : List TransactionEntry}
    (accepted : (validateEntries entries).errors = []) {e : TransactionEntry}
    (member : e ∈ entries) :
    (0 < e.debitAmount ∧ e.creditAmount = 0) ∨ (e.debitAmount = 0 ∧ 0 < e.creditAmount) := by
  simp only [validateEntries, List.append_eq_nil_iff, List.flatMap_eq_nil_iff] at accepted
  obtain ⟨index, found⟩ := List.mem_iff_getElem?.mp member
  have placed : (e, index) ∈ entries.zipIdx := List.mem_zipIdx_iff_getElem?.mpr found
  have noErrors : validateIndividualEntry e index = [] := accepted.2 (e, index) placed
  exact oneSided_of_validateIndividualEntry noErrors

end DoubleEntryValidator

end ErpFinance.Service
