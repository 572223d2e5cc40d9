import ErpFinance.Domain.Types
import ErpFinance.Library.Table

/-!
# Accounts and transaction entries

The fields of an account and of a journal entry that the posting code reads,
with the entry validator.  Defaults are the zero values of the Go structs.
-/

namespace ErpFinance.Domain

open Library

/-! ## Accounts -/

structure Accounts where
  id : Uuid := Uuid.Nil
  tenantID : Uuid := Uuid.Nil
  accountCode : String := ""
  accountName : String := ""
  hasChildren : Bool := false
  accountType : String := ""
  rootType : RootType := .other "" RootType.empty_unknown
  normalBalance : NormalBalance := .other "" (by decide)
  isControlAccount : Bool := false
  currencyCode : Option String := none
  isMultiCurrency : Bool := false
  isActive : Bool := false
  allowManualEntries : Bool := false
  requireReference : Bool := false
  currentBalance : Decimal := 0
  status : AccountStatus := .other "" (by decide)
  validationStatus : ValidationStatus := .other "" empty_not_validationStatus
  deletedAt : Option Time := none
deriving DecidableEq

namespace Accounts

instance : Keyed Accounts Uuid := ⟨Accounts.id⟩

@[simp] theorem key_eq (a : Accounts) : Keyed.key a = a.id := rfl

/-- `CanAcceptTransactions`: active, a leaf, not deleted and validated. -/
def canAcceptTransactions (a : Accounts) : Bool :=
  a.status = .active && a.isActive && !a.hasChildren && a.deletedAt.isNone &&
    a.validationStatus = .valid

end Accounts

/-! ## Currencies -/

/-- The currencies whose number of decimal places is not two. -/
def currencyMinorUnits : List (String × Nat) :=
  ["BIF", "CLP", "DJF", "GNF", "IDR", "ISK", "JPY", "KMF", "KRW", "PYG", "RWF", "UGX",
    "VND", "VUV", "XAF", "XOF", "XPF"].map (·, 0) ++
  ["BHD", "IQD", "JOD", "KWD", "LYD", "OMR", "TND"].map (·, 3) ++
  ["CLF", "UYW"].map (·, 4)

/-- `strings.ToUpper` up to the letters that an ISO code can be built from. -/
def toUpper (code : String) : String :=
  code.map (fun c => if c = 'ı' then 'I' else if c = 'ſ' then 'S' else c.toUpper)

def CurrencyMinorUnits (code : String) : Nat :=
  (currencyMinorUnits.lookup (toUpper code)).getD 2

/-- `CurrencyConversionTolerance`: half a minor unit of the currency. -/
def currencyConversionTolerance (code : String) : Decimal :=
  1 / 2 / 10 ^ CurrencyMinorUnits code

/-! ## Entries -/

structure TransactionEntry where
  id : Uuid := Uuid.Nil
  tenantID : Uuid := Uuid.Nil
  transactionID : Uuid := Uuid.Nil
  entryNumber : Int := 0
  accountID : Uuid := Uuid.Nil
  debitAmount : Decimal := 0
  creditAmount : Decimal := 0
  description : String := ""
  reference : Option String := none
  costCenter : Option String := none
  department : Option String := none
  projectID : Option Uuid := none
  originalCurrency : Option String := none
  originalAmount : Decimal := 0
  exchangeRate : Decimal := 0
  taxCode : Option String := none
  taxRate : Decimal := 0
  taxAmount : Decimal := 0
deriving DecidableEq

namespace TransactionEntry

/-- `TransactionEntry.Validate`. -/
def validate (e : TransactionEntry) : List ValidationError :=
  check (e.tenantID = Uuid.Nil)
    { field := "tenant_id", message := "Tenant ID is required", code := "REQUIRED_FIELD" } ++
  check (e.transactionID = Uuid.Nil)
    { field := "transaction_id", message := "Transaction ID is required",
      code := "REQUIRED_FIELD" } ++
  check (e.accountID = Uuid.Nil)
    { field := "account_id", message := "Account ID is required", code := "REQUIRED_FIELD" } ++
  (if isBlank e.description then
    [{ field := "description", message := "Description is required",
       code := "REQUIRED_FIELD" }]
  else check (500 < byteLen e.description)
    { field := "description", message := "Description must be 500 characters or less",
      code := "MAX_LENGTH_EXCEEDED" }) ++
  check (e.debitAmount < 0)
    { field := "debit_amount", message := "Debit amount cannot be negative",
      code := "VALUE_OUT_OF_RANGE" } ++
  check (e.creditAmount < 0)
    { field := "credit_amount", message := "Credit amount cannot be negative",
      code := "VALUE_OUT_OF_RANGE" } ++
  check (e.debitAmount = 0 && e.creditAmount = 0)
    { field := "amount", message := "Entry must have either a debit or credit amount",
      code := "MISSING_AMOUNT" } ++
  check (e.debitAmount ≠ 0 && e.creditAmount ≠ 0)
    { field := "amount", message := "Entry cannot have both debit and credit amounts",
      code := "DUAL_AMOUNTS" } ++
  check (e.exchangeRate ≤ 0)
    { field := "exchange_rate", message := "Exchange rate must be greater than zero",
      code := "VALUE_OUT_OF_RANGE" } ++
  (match e.originalCurrency with
  | some currency =>
    check (byteLen currency ≠ 3)
      { field := "original_currency",
        message := "Original currency must be exactly 3 characters (ISO 4217)",
        code := "INVALID_FORMAT" } ++
    check (e.originalAmount < 0)
      { field := "original_amount", message := "Original amount cannot be negative",
        code := "VALUE_OUT_OF_RANGE" }
  | none =>
    check (e.originalAmount ≠ 0)
      { field := "original_amount",
        message := "Original amount should be zero when no original currency is specified",
        code := "INCONSISTENT_CURRENCY_DATA" }) ++
  check (e.taxRate < 0 || 100 < e.taxRate)
    { field := "tax_rate", message := "Tax rate must be between 0 and 100",
      code := "VALUE_OUT_OF_RANGE" } ++
  check (e.taxAmount < 0)
    { field := "tax_amount", message := "Tax amount cannot be negative",
      code := "VALUE_OUT_OF_RANGE" } ++
  check (e.taxCode.isSome && e.taxRate = 0 && e.taxAmount ≠ 0)
    { field := "tax_rate",
      message := "Tax rate must be specified when tax code and tax amount are provided",
      code := "INCOMPLETE_TAX_DATA" } ++
  check (e.entryNumber ≤ 0)
    { field := "entry_number", message := "Entry number must be greater than zero",
      code := "VALUE_OUT_OF_RANGE" } ++
  check (e.costCenter.any (20 < byteLen ·))
    { field := "cost_center", message := "Cost center code must be 20 characters or less",
      code := "MAX_LENGTH_EXCEEDED" } ++
  check (e.department.any (20 < byteLen ·))
    { field := "department", message := "Department code must be 20 characters or less",
      code := "MAX_LENGTH_EXCEEDED" }

def isDebit (e : TransactionEntry) : Bool := e.debitAmount ≠ 0

/-- `GetEffectiveAmount`: the debit amount unless it is zero. -/
def getEffectiveAmount (e : TransactionEntry) : Decimal :=
  if e.debitAmount ≠ 0 then e.debitAmount else e.creditAmount

def hasMultiCurrency (e : TransactionEntry) : Bool :=
  e.originalCurrency.any (· ≠ "")

def calculateConvertedAmount (e : TransactionEntry) : Decimal :=
  if e.hasMultiCurrency then e.originalAmount * e.exchangeRate else e.getEffectiveAmount

def validateAmountConsistency (e : TransactionEntry) : List ValidationError :=
  let currency := e.originalCurrency.getD ""
  let expected := e.calculateConvertedAmount
  let actual := e.getEffectiveAmount
  let tolerance := currencyConversionTolerance currency
  check (e.hasMultiCurrency && decide (tolerance < |expected - actual|))
    { field := "amount",
      message := "Converted amount (" ++ Decimal.string actual ++
        ") does not match expected amount (" ++ Decimal.string expected ++
        "); tolerance for " ++ currency ++ " is " ++ Decimal.string tolerance,
      code := "CURRENCY_CONVERSION_MISMATCH" }

def validateBusinessRules (e : TransactionEntry) (account : Accounts) : List ValidationError :=
  check (!account.isActive)
    { field := "account_id", message := "Cannot post to inactive account",
      code := "INACTIVE_ACCOUNT" } ++
  check (!account.allowManualEntries)
    { field := "account_id", message := "Account does not allow manual journal entries",
      code := "MANUAL_ENTRY_NOT_ALLOWED" } ++
  (match account.currencyCode, e.originalCurrency with
  | some accountCurrency, some entryCurrency =>
    check (accountCurrency ≠ entryCurrency && !account.isMultiCurrency)
      { field := "original_currency",
        message := "Account currency (" ++ accountCurrency ++
          ") does not match entry currency (" ++ entryCurrency ++
          ") and account does not allow multi-currency",
        code := "CURRENCY_MISMATCH" }
  | _, _ => []) ++
  check (account.requireReference && e.reference.isNone)
    { field := "reference", message := "Account requires a reference for all entries",
      code := "REFERENCE_REQUIRED" }

end TransactionEntry

end ErpFinance.Domain
