import ErpFinance.Repository.Database
import ErpFinance.Service.PostingEngine
import Mathlib.Data.List.Sort

/-!
# The replay reconstructor

Balances rebuilt from the entries of the listed posted transactions, for a
tenant and for one account, and the comparison with the stored balances.  The
listings read the ledger the posting engine writes, under the filters, orders
and default limits of the repositories; rows that an `ORDER BY` leaves tied
come as they are stored.
-/

namespace ErpFinance.Service

open Domain Library

namespace ReplayReconstructor

/-! ## Repository reads -/

/-- The repository reads of a replay. -/
inductive Read where
  | listTransactions | getEntries (id : Uuid) | listAccounts | getAccount

structure ReplayEnv where
  caller : Repository.Caller
  now : Time
  /-- The order the collation of the database gives account codes. -/
  collates : String → String → Bool
  fails : Read → Bool := fun _ => false

structure DateRange where
  startDate : Time
  endDate : Option Time := none

/-- The fields of the filter that `List` looks at. -/
structure TransactionFilter where
  transactionType : Option TransactionType := none
  status : Option TransactionStatus := none
  dateRange : Option DateRange := none
  limit : Option Int := none
  offset : Option Int := none

structure AccountFilter where
  isActive : Option Bool := none
  limit : Option Int := none
  offset : Option Int := none

/-- A statement runs under the tenant of the caller, and may fail. -/
def runs (env : ReplayEnv) (read : Read) : Except String Uuid :=
  match env.caller.getTenantID with
  | none => .error "tenant ID not found in context"
  | some tenant => if env.fails read then .error "database operation failed" else .ok tenant

/-- `LIMIT` and `OFFSET`; a listing without a limit has fifty rows at most. -/
def page {ρ : Type} (limit offset : Option Int) (rows : List ρ) : Except String (List ρ) :=
  let limitCount := (limit.map int32).getD 50
  let offsetCount := (offset.map int32).getD 0
  if limitCount < 0 ∨ offsetCount < 0 then .error "database operation failed"
  else .ok ((rows.drop offsetCount.toNat).take limitCount.toNat)

/-- The first and the last day of a filter. -/
def TransactionFilter.window (filter : TransactionFilter) : Time × Time :=
  let earliest : Time := ⟨1900, 1, 1, 0, by decide⟩
  let latest : Time := ⟨2100, 12, 31, 86399000000000, by decide⟩
  match filter.dateRange with
  | none => (earliest, latest)
  | some range =>
    (if range.startDate.isZero then earliest else range.startDate, range.endDate.getD latest)

/-- The `WHERE` clause of `ListTransactions`. -/
def TransactionFilter.selects (filter : TransactionFilter) (tenant : Uuid) (t : Transaction) :
    Bool :=
  t.tenantID = tenant &&
    filter.transactionType.all (· = t.transactionType) &&
    filter.status.all (· = t.transactionStatus) &&
    !t.transactionDate.date.before filter.window.1.date &&
    !filter.window.2.date.before t.transactionDate.date

/-- `ORDER BY transaction_date DESC, created_at DESC`. -/
def newestFirst (t u : Transaction) : Bool :=
  u.transactionDate.date.before t.transactionDate.date ||
    (t.transactionDate.date = u.transactionDate.date && !t.createdAt.before u.createdAt)

/-- `List` of the transaction repository. -/
def listTransactions (env : ReplayEnv) (s : Ledger) (filter : TransactionFilter) :
    Except String (List Transaction) := do
  let tenant ← runs env .listTransactions
  page filter.limit filter.offset
    ((s.transactions.rows.filter (filter.selects tenant)).insertionSort
      (fun t u => newestFirst t u))

def getEntriesByTransaction (env : ReplayEnv) (s : Ledger) (id : Uuid) :
    Except String (List TransactionEntry) := do
  let _ ← runs env (.getEntries id)
  return ((s.transactions.get? id).elim [] Transaction.entries).insertionSort
    (fun e e' => e.entryNumber ≤ e'.entryNumber)

/-- `List` of the account repository: only active accounts, unless the filter says otherwise. -/
def listAccounts (env : ReplayEnv) (s : Ledger) (filter : AccountFilter) :
    Except String (List Accounts) := do
  let tenant ← runs env .listAccounts
  page filter.limit filter.offset
    ((s.accounts.rows.filter (fun a => a.tenantID = tenant && a.deletedAt.isNone &&
      a.isActive = filter.isActive.getD true)).insertionSort
        (fun a b => env.collates a.accountCode b.accountCode))

/-- `GetByID` of the account repository. -/
def getAccount (env : ReplayEnv) (s : Ledger) (id : Uuid) : Except String Accounts := do
  let tenant ← runs env .getAccount
  match (s.accounts.get? id).filter (fun a => a.tenantID = tenant && a.deletedAt.isNone) with
  | none => .error "account not found"
  | some a => .ok a

/-! ## Reports -/

structure ReplayedBalance where
  accountID : Uuid
  accountCode : String
  replayedDebit : Decimal
  replayedCredit : Decimal
  netBalance : Decimal
  txnCount : Nat

structure ReplayReport where
  tenantID : Uuid
  asOfDate : Time
  generatedAt : Time
  balances : List ReplayedBalance
  txnsReplayed : Nat
  entriesReplayed : Nat
  driftAccounts : List Uuid
  replayClean : Bool

/-- The totals of the replayed entries of an account. -/
structure Accumulator where
  debit : Decimal := 0
  credit : Decimal := 0
  count : Nat := 0

def Accumulator.add (totals : Accumulator) (e : TransactionEntry) : Accumulator where
  debit := totals.debit + e.debitAmount
  credit := totals.credit + e.creditAmount
  count := totals.count + 1

/-- The raw balance; its sign is that of the debits. -/
def Accumulator.balance (totals : Accumulator) (a : Accounts) : ReplayedBalance where
  accountID := a.id
  accountCode := a.accountCode
  replayedDebit := totals.debit
  replayedCredit := totals.credit
  netBalance := totals.debit - totals.credit
  txnCount := totals.count

/-! ## Replays -/

def effectiveDate (env : ReplayEnv) (asOfDate : Time) : Time :=
  if asOfDate.isZero then env.now else asOfDate

def postedFilter (asOfDate : Time) : TransactionFilter where
  status := some .posted
  dateRange := some { startDate := Time.zero, endDate := some asOfDate }

/-- The map of the tenant replay. -/
abbrev Accumulators := Uuid → Option Accumulator

def accumulate (acc : Accumulators) (e : TransactionEntry) : Accumulators :=
  Function.update acc e.accountID (some (((acc e.accountID).getD {}).add e))

/-- The loop of the tenant replay, with the number of entries so far. -/
def replayTransactions (env : ReplayEnv) (s : Ledger) :
    List Transaction → Accumulators × Nat → Except String (Accumulators × Nat)
  | [], tally => .ok tally
  | t :: rest, (acc, totalEntries) => do
      let entries ← (getEntriesByTransaction env s t.id).mapError
        ("replay tenant: load entries for txn " ++ Uuid.string t.id ++ ": " ++ ·)
      replayTransactions env s rest
        (entries.foldl accumulate acc, totalEntries + entries.length)

/-- `ReplayTenant`: every listed account is reported, and drifts where the balances differ. -/
def replayTenant (env : ReplayEnv) (s : Ledger) (asOfDate : Time) :
    Except String ReplayReport :=
  match env.caller.getTenantID with
  | none => .error "replay tenant: tenant ID missing from context"
  | some tenantID => do
      let asOfDate := effectiveDate env asOfDate
      let transactions ← (listTransactions env s (postedFilter asOfDate)).mapError
        ("replay tenant: load transactions: " ++ ·)
      let (acc, totalEntries) ← replayTransactions env s transactions (fun _ => none, 0)
      let accounts ← (listAccounts env s {}).mapError ("replay tenant: load accounts: " ++ ·)
      let replayed := fun a => ((acc a.id).getD {}).balance a
      let driftAccounts :=
        (accounts.filter (fun a => (replayed a).netBalance ≠ a.currentBalance)).map Accounts.id
      return { tenantID := tenantID
               asOfDate := asOfDate
               generatedAt := env.now
               balances := accounts.map replayed
               txnsReplayed := transactions.length
               entriesReplayed := totalEntries
               driftAccounts := driftAccounts
               replayClean := driftAccounts.isEmpty }

/-- The entries of other accounts are skipped. -/
def accumulateOn (accountID : Uuid) (totals : Accumulator) (e : TransactionEntry) : Accumulator :=
  if e.accountID ≠ accountID then totals else totals.add e

def replayAccountEntries (env : ReplayEnv) (s : Ledger) (accountID : Uuid) :
    List Transaction → Accumulator → Except String Accumulator
  | [], totals => .ok totals
  | t :: rest, totals => do
      let entries ← (getEntriesByTransaction env s t.id).mapError
        ("replay account: load entries for txn " ++ Uuid.string t.id ++ ": " ++ ·)
      replayAccountEntries env s accountID rest (entries.foldl (accumulateOn accountID) totals)

def replayAccount (env : ReplayEnv) (s : Ledger) (accountID : Uuid) (asOfDate : Time) :
    Except String ReplayedBalance := do
  let a ← (getAccount env s accountID).mapError ("replay account: load account: " ++ ·)
  let transactions ← (listTransactions env s (postedFilter (effectiveDate env asOfDate))).mapError
    ("replay account: load transactions: " ++ ·)
  let totals ← replayAccountEntries env s accountID transactions {}
  return totals.balance a

end ReplayReconstructor

end ErpFinance.Service
