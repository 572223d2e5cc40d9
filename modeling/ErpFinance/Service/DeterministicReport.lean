import ErpFinance.Library.JsonText
import ErpFinance.Library.Sha256
import ErpFinance.Library.SliceSort
import ErpFinance.Service.LedgerReplay

/-!
# Deterministic reports

Snapshots of the chart of accounts and the trial balances bound to them.  The
entries of the listed posted transactions are summed per account, one line is
made for each account of the snapshot, and the lines are sorted by code and
hashed with the snapshot's hash and the transaction identifiers.  Repositories
are taken at their interface, so that they may answer in any order.
-/

namespace ErpFinance.Service.DeterministicReport

open Domain Library
open Service.ReplayReconstructor (TransactionFilter postedFilter)

/-! ## Snapshots -/

structure COASnapshotEntry where
  accountID : Uuid
  accountCode : String
  accountName : String
  rootType : RootType
  normalBalance : NormalBalance
  status : AccountStatus
  parentID : Option Uuid := none
  accountLevel : Int := 1
  currencyCode : Option String := none
  isActive : Bool := true

/-- Hashes are the bytes of their texts. -/
structure COASnapshot where
  id : Uuid
  tenantID : Uuid
  snapshotAt : Time
  periodID : Option Uuid := none
  accounts : List COASnapshotEntry
  hash : Bytes
  entryCount : Nat
  createdBy : Uuid
  createdAt : Time

/-- A member that is left out when there is none. -/
def optional (name : String) (value : Option String) : List (String × String) :=
  value.toList.map fun text => (name, jsonString text)

/-- `json.Marshal` of a snapshot entry. -/
def COASnapshotEntry.json (e : COASnapshotEntry) : String :=
  jsonObject
    ([("account_id", jsonString e.accountID.string),
      ("account_code", jsonString e.accountCode), ("account_name", jsonString e.accountName),
      ("root_type", jsonString e.rootType.string),
      ("normal_balance", jsonString e.normalBalance.string),
      ("status", jsonString e.status.string)] ++
      optional "parent_id" (e.parentID.map Uuid.string) ++
      [("account_level", toString e.accountLevel)] ++
      optional "currency_code" e.currencyCode ++
      [("is_active", toString e.isActive)])

def computeSnapshotHash (entries : List COASnapshotEntry) : Bytes :=
  sha256Hex (entries.flatMap fun e => utf8 e.json)

/-- The caller and the clock at the start and at the end of a call. -/
structure Env where
  tenantID : Option Uuid
  now : Time
  finished : Time := now

/-! ## Trial balances -/

structure TrialBalanceLine where
  accountID : Uuid
  accountCode : String
  accountName : String
  rootType : RootType
  normalBalance : NormalBalance
  debit : Decimal
  credit : Decimal
deriving DecidableEq

/-- `json.Marshal` of a line; decimals are quoted. -/
def TrialBalanceLine.json (line : TrialBalanceLine) : String :=
  jsonObject
    [("account_id", jsonString line.accountID.string),
     ("account_code", jsonString line.accountCode), ("account_name", jsonString line.accountName),
     ("root_type", jsonString line.rootType.string),
     ("normal_balance", jsonString line.normalBalance.string),
     ("debit", jsonString line.debit.string), ("credit", jsonString line.credit.string)]

structure TrialBalanceReport where
  tenantID : Uuid
  asOfDate : Time
  snapshotID : Uuid
  generatedAt : Time
  lines : List TrialBalanceLine
  totalDebits : Decimal
  totalCredits : Decimal
  balanced : Bool
  hash : Bytes

structure TrialBalanceRequest where
  snapshotID : Uuid
  asOfDate : Time := Time.zero
  generatedBy : Uuid := Uuid.Nil

/-- The repositories of the engine. -/
structure Repositories where
  getSnapshot : Uuid → Except String COASnapshot
  list : TransactionFilter → Except String (List Transaction)
  getEntriesByTransaction : Uuid → Except String (List TransactionEntry)

/-- The sums of an account. -/
structure Accum where
  debit : Decimal := 0
  credit : Decimal := 0

abbrev Balances := Uuid → Option Accum

def accumulate (balances : Balances) (entry : TransactionEntry) : Balances :=
  let sums := (balances entry.accountID).getD {}
  Function.update balances entry.accountID
    (some { debit := sums.debit + entry.debitAmount, credit := sums.credit + entry.creditAmount })

/-- The loop over the transactions. -/
def collect (repos : Repositories) : List Transaction → Balances → Except String Balances
  | [], balances => .ok balances
  | txn :: rest, balances => do
      let entries ← (repos.getEntriesByTransaction txn.id).mapError
        ("generate trial balance: load entries for txn " ++ Uuid.string txn.id ++ ": " ++ ·)
      collect repos rest (entries.foldl accumulate balances)

/-- The line of an account, which is zero where nothing was posted. -/
def lineOf (balances : Balances) (acct : COASnapshotEntry) : TrialBalanceLine where
  accountID := acct.accountID
  accountCode := acct.accountCode
  accountName := acct.accountName
  rootType := acct.rootType
  normalBalance := acct.normalBalance
  debit := ((balances acct.accountID).getD {}).debit
  credit := ((balances acct.accountID).getD {}).credit

def computeTrialBalanceHash (lines : List TrialBalanceLine) (snapshotHash : Bytes)
    (transactions : List Transaction) : Bytes × Bytes :=
  let txIDs := sortStrings (transactions.map fun t => Uuid.string t.id)
  let ledgerHash := sha256Hex (txIDs.flatMap utf8)
  (sha256Hex (snapshotHash ++ ledgerHash ++ lines.flatMap fun line => utf8 line.json), ledgerHash)

section Engine

variable (sorting : SliceSort)

/-- The report of what was loaded. -/
def report (env : Env) (tenantID : Uuid) (asOfDate : Time) (snapshotID : Uuid) (snap : COASnapshot)
    (transactions : List Transaction) (balances : Balances) : TrialBalanceReport :=
  let unsorted := snap.accounts.map (lineOf balances)
  let lines := sorting.byKey TrialBalanceLine.accountCode unsorted
  let totalDebits := (unsorted.map TrialBalanceLine.debit).sum
  let totalCredits := (unsorted.map TrialBalanceLine.credit).sum
  { tenantID, asOfDate, snapshotID, generatedAt := env.finished, lines, totalDebits, totalCredits
    balanced := totalDebits = totalCredits
    hash := (computeTrialBalanceHash lines snap.hash transactions).1 }

def cutoff (env : Env) (asOfDate : Time) : Time := if asOfDate.isZero then env.now else asOfDate

def generateTrialBalance (repos : Repositories) (env : Env) (req : TrialBalanceRequest) :
    Except String TrialBalanceReport :=
  match env.tenantID with
  | none => .error "generate trial balance: tenant ID missing from context"
  | some tenantID => do
      let asOfDate := cutoff env req.asOfDate
      let snap ← (repos.getSnapshot req.snapshotID).mapError
        ("generate trial balance: load snapshot: " ++ ·)
      let transactions ← (repos.list (postedFilter asOfDate)).mapError
        ("generate trial balance: load transactions: " ++ ·)
      let balances ← collect repos transactions fun _ => none
      return report sorting env tenantID asOfDate req.snapshotID snap transactions balances

/-- The fields of a stored fingerprint that a verification reads. -/
structure FinancialReportHash where
  snapshotID : Uuid
  asOfDate : Time
  reportHash : Bytes

def verifyReportHash (repos : Repositories) (env : Env) (stored : FinancialReportHash)
    (generatedBy : Uuid) : Except String Bool := do
  let regen ← (generateTrialBalance sorting repos env
    { snapshotID := stored.snapshotID, asOfDate := stored.asOfDate, generatedBy }).mapError
      ("verify report hash: regenerate: " ++ ·)
  return regen.hash = stored.reportHash

end Engine

/-! ## The sums of the entries -/

def accountLine (entries : List TransactionEntry) (acct : COASnapshotEntry) : TrialBalanceLine where
  accountID := acct.accountID
  accountCode := acct.accountCode
  accountName := acct.accountName
  rootType := acct.rootType
  normalBalance := acct.normalBalance
  debit := ((entries.filter (·.accountID = acct.accountID)).map TransactionEntry.debitAmount).sum
  credit := ((entries.filter (·.accountID = acct.accountID)).map TransactionEntry.creditAmount).sum

theorem foldl_accumulate (entries : List TransactionEntry) (balances : Balances) (id : Uuid) :
    ((entries.foldl accumulate balances id).getD {}).debit = ((balances id).getD {}).debit +
        ((entries.filter (·.accountID = id)).map TransactionEntry.debitAmount).sum ∧
      ((entries.foldl accumulate balances id).getD {}).credit = ((balances id).getD {}).credit +
        ((entries.filter (·.accountID = id)).map TransactionEntry.creditAmount).sum := by
  induction entries generalizing balances with
  | nil => simp
  | cons entry rest ih =>
    obtain ⟨debit, credit⟩ := ih (accumulate balances entry)
    rw [List.foldl_cons, debit, credit]
    by_cases own : entry.accountID = id
    · subst own
      simp [accumulate, add_assoc]
    · have other : id ≠ entry.accountID := fun same => own same.symm
      simp [accumulate, own, other]

theorem lineOf_foldl (entries : List TransactionEntry) :
    lineOf (entries.foldl accumulate fun _ => none) = accountLine entries := by
  funext acct
  obtain ⟨debit, credit⟩ := foldl_accumulate entries (fun _ => none) acct.accountID
  simp [lineOf, accountLine, debit, credit]

/-- Only which entries there are matters. -/
theorem accountLine_congr {entries others : List TransactionEntry} (perm : entries.Perm others) :
    accountLine entries = accountLine others := by
  funext acct
  have own := perm.filter (·.accountID = acct.accountID)
  simp only [accountLine, (own.map TransactionEntry.debitAmount).sum_eq,
    (own.map TransactionEntry.creditAmount).sum_eq]

def entriesOn (accounts : List COASnapshotEntry) (entries : List TransactionEntry) :
    List TransactionEntry :=
  entries.filter fun e => e.accountID ∈ accounts.map COASnapshotEntry.accountID

def debitsOn (accounts : List COASnapshotEntry) (entries : List TransactionEntry) : Decimal :=
  ((entriesOn accounts entries).map TransactionEntry.debitAmount).sum

def creditsOn (accounts : List COASnapshotEntry) (entries : List TransactionEntry) : Decimal :=
  ((entriesOn accounts entries).map TransactionEntry.creditAmount).sum

/-- Sums over entries that pass one of two tests that exclude each other. -/
theorem sum_filter_or (amount : TransactionEntry → Decimal) {p q : TransactionEntry → Bool}
    (disjoint : ∀ e, p e = true → q e = false) (entries : List TransactionEntry) :
    ((entries.filter fun e => p e || q e).map amount).sum =
      ((entries.filter p).map amount).sum + ((entries.filter q).map amount).sum := by
  induction entries with
  | nil => simp
  | cons e rest ih =>
    cases first : p e with
    | true =>
      have second := disjoint e first
      simp [first, second, ih, add_assoc]
    | false =>
      cases second : q e with
      | true => simp [first, second, ih, add_left_comm]
      | false => simp [first, second, ih]

theorem sum_accounts (amount : TransactionEntry → Decimal) (entries : List TransactionEntry)
    {accounts : List COASnapshotEntry}
    (once : (accounts.map COASnapshotEntry.accountID).Nodup) :
    (accounts.map fun acct =>
      ((entries.filter (·.accountID = acct.accountID)).map amount).sum).sum =
        ((entriesOn accounts entries).map amount).sum := by
  induction accounts with
  | nil => simp [entriesOn]
  | cons acct others ih =>
    rw [List.map_cons, List.nodup_cons] at once
    have split : entriesOn (acct :: others) entries = entries.filter fun e =>
        decide (e.accountID = acct.accountID) ||
          decide (e.accountID ∈ others.map COASnapshotEntry.accountID) := by
      simp [entriesOn]
    have disjoint (e : TransactionEntry) (own : decide (e.accountID = acct.accountID) = true) :
        decide (e.accountID ∈ others.map COASnapshotEntry.accountID) = false := by
      rw [of_decide_eq_true own]
      exact decide_eq_false once.1
    rw [List.map_cons, List.sum_cons, ih once.2, split, sum_filter_or amount disjoint]
    rfl

/-! ## What a generation loads -/

/-- What the repositories answer to a generation. -/
structure Loads (repos : Repositories) (snapshotID : Uuid) (asOfDate : Time) (snap : COASnapshot)
    (transactions : List Transaction) (entries : Uuid → List TransactionEntry) : Prop where
  snapshot : repos.getSnapshot snapshotID = .ok snap
  listed : repos.list (postedFilter asOfDate) = .ok transactions
  read : ∀ t ∈ transactions, repos.getEntriesByTransaction t.id = .ok (entries t.id)

def allEntries (transactions : List Transaction) (entries : Uuid → List TransactionEntry) :
    List TransactionEntry :=
  transactions.flatMap fun t => entries t.id

section Generation

variable {sorting : SliceSort} {repos : Repositories} {env : Env} {snapshotID : Uuid}
  {asOfDate : Time} {snap : COASnapshot} {transactions : List Transaction}
  {entries : Uuid → List TransactionEntry}

theorem collect_of_read
    (read : ∀ t ∈ transactions, repos.getEntriesByTransaction t.id = .ok (entries t.id))
    (balances : Balances) : collect repos transactions balances =
      .ok ((allEntries transactions entries).foldl accumulate balances) := by
  induction transactions generalizing balances with
  | nil => rfl
  | cons t rest ih =>
    rw [List.forall_mem_cons] at read
    rw [collect, read.1, allEntries, List.flatMap_cons, List.foldl_append]
    exact ih read.2 _

theorem read_of_collect {balances sums : Balances}
    (collected : collect repos transactions balances = .ok sums) :
    ∀ t ∈ transactions, ∃ own, repos.getEntriesByTransaction t.id = .ok own := by
  induction transactions generalizing balances with
  | nil => simp
  | cons t rest ih =>
    rw [collect, bind_eq_ok_iff] at collected
    obtain ⟨own, here, there⟩ := collected
    exact List.forall_mem_cons.mpr ⟨⟨own, mapError_eq_ok_iff.mp here⟩, ih there⟩

/-- The report over what was loaded. -/
def reportOn (sorting : SliceSort) (env : Env) (tenantID : Uuid) (asOfDate : Time)
    (snapshotID : Uuid) (snap : COASnapshot) (transactions : List Transaction)
    (entries : Uuid → List TransactionEntry) : TrialBalanceReport :=
  report sorting env tenantID asOfDate snapshotID snap transactions
    ((allEntries transactions entries).foldl accumulate fun _ => none)

variable (sorting) in
theorem generate_of_loads (req : TrialBalanceRequest) {tenantID : Uuid}
    (caller : env.tenantID = some tenantID)
    (loads : Loads repos req.snapshotID (cutoff env req.asOfDate) snap transactions entries) :
    generateTrialBalance sorting repos env req = .ok (reportOn sorting env tenantID
      (cutoff env req.asOfDate) req.snapshotID snap transactions entries) := by
  rw [generateTrialBalance, caller]
  simp only [loads.snapshot, loads.listed, Except.mapError, bind, Except.bind,
    collect_of_read loads.read]
  rfl

theorem loads_of_generate {req : TrialBalanceRequest} {r : TrialBalanceReport}
    (generated : generateTrialBalance sorting repos env req = .ok r) :
    ∃ tenantID snap transactions entries, env.tenantID = some tenantID ∧
      Loads repos req.snapshotID (cutoff env req.asOfDate) snap transactions entries := by
  unfold generateTrialBalance at generated
  cases caller : env.tenantID with
  | none =>
    rw [caller] at generated
    cases generated
  | some tenantID =>
    simp only [caller, bind_eq_ok_iff, mapError_eq_ok_iff] at generated
    obtain ⟨snap, snapshot, transactions, listed, sums, collected, -⟩ := generated
    refine ⟨tenantID, snap, transactions,
      fun id => (repos.getEntriesByTransaction id).toOption.getD [], rfl, snapshot, listed,
      fun t member => ?_⟩
    obtain ⟨own, read⟩ := read_of_collect collected t member
    simp [read, Except.toOption]

/-! ## Orders -/

/-- Repositories with the same answers as others, in other orders. -/
structure Reorders (repos other : Repositories) : Prop where
  snapshot : ∀ id snap, repos.getSnapshot id = .ok snap →
    ∃ accounts, other.getSnapshot id = .ok { snap with accounts } ∧ accounts.Perm snap.accounts
  list : ∀ filter transactions, repos.list filter = .ok transactions →
    ∃ others, other.list filter = .ok others ∧ others.Perm transactions
  entries : ∀ id entries, repos.getEntriesByTransaction id = .ok entries →
    ∃ others, other.getEntriesByTransaction id = .ok others ∧ others.Perm entries

theorem Reorders.loads {other : Repositories} (reorders : Reorders repos other)
    (loads : Loads repos snapshotID asOfDate snap transactions entries) :
    ∃ accounts others entries', accounts.Perm snap.accounts ∧ others.Perm transactions ∧
      (allEntries others entries').Perm (allEntries transactions entries) ∧
      Loads other snapshotID asOfDate { snap with accounts } others entries' := by
  obtain ⟨accounts, snapshot, accountsPerm⟩ := reorders.snapshot _ _ loads.snapshot
  obtain ⟨others, listed, listPerm⟩ := reorders.list _ _ loads.listed
  let entries' (id : Uuid) := (other.getEntriesByTransaction id).toOption.getD []
  have read (t : Transaction) (member : t ∈ transactions) :
      other.getEntriesByTransaction t.id = .ok (entries' t.id) ∧
        (entries' t.id).Perm (entries t.id) := by
    obtain ⟨own, answer, ownPerm⟩ := reorders.entries _ _ (loads.read t member)
    have same : entries' t.id = own := by simp [entries', answer, Except.toOption]
    exact ⟨same ▸ answer, same ▸ ownPerm⟩
  refine ⟨accounts, others, entries', accountsPerm, listPerm, ?_, snapshot, listed,
    fun t member => (read t (listPerm.subset member)).1⟩
  exact listPerm.flatMap fun t member => (read t (listPerm.subset member)).2

/-- Two reports with the same figures; their lines may be in other orders. -/
structure SameFigures (r r' : TrialBalanceReport) : Prop where
  lines : r'.lines.Perm r.lines
  totalDebits : r'.totalDebits = r.totalDebits
  totalCredits : r'.totalCredits = r.totalCredits
  balanced : r'.balanced = r.balanced

section Reordered

variable {sorting' : SliceSort} {env' : Env} {tenantID tenantID' : Uuid}
  {accounts : List COASnapshotEntry} {others : List Transaction}
  {entries' : Uuid → List TransactionEntry}

theorem reportOn_sameFigures (accountsPerm : accounts.Perm snap.accounts)
    (entriesPerm : (allEntries others entries').Perm (allEntries transactions entries)) :
    SameFigures (reportOn sorting env tenantID asOfDate snapshotID snap transactions entries)
      (reportOn sorting' env' tenantID' asOfDate snapshotID { snap with accounts } others
        entries') := by
  have lines : accountLine (allEntries others entries') =
      accountLine (allEntries transactions entries) := accountLine_congr entriesPerm
  have perm := accountsPerm.map (accountLine (allEntries transactions entries))
  have debits := (perm.map TrialBalanceLine.debit).sum_eq
  have credits := (perm.map TrialBalanceLine.credit).sum_eq
  constructor <;> simp only [reportOn, report, lineOf_foldl, lines, debits, credits]
  exact (sorting'.perm _ _).trans (perm.trans (sorting.perm _ _).symm)

/-- Under distinct codes there is one order of the lines, and one hash. -/
theorem reportOn_congr (codes : (snap.accounts.map COASnapshotEntry.accountCode).Nodup)
    (accountsPerm : accounts.Perm snap.accounts) (listPerm : others.Perm transactions)
    (entriesPerm : (allEntries others entries').Perm (allEntries transactions entries)) :
    (reportOn sorting' env' tenantID' asOfDate snapshotID { snap with accounts } others
        entries').lines =
        (reportOn sorting env tenantID asOfDate snapshotID snap transactions entries).lines ∧
      (reportOn sorting' env' tenantID' asOfDate snapshotID { snap with accounts } others
        entries').hash =
        (reportOn sorting env tenantID asOfDate snapshotID snap transactions entries).hash := by
  have perm := accountsPerm.map (accountLine (allEntries transactions entries))
  have distinct : ((snap.accounts.map (accountLine (allEntries transactions entries))).map
      TrialBalanceLine.accountCode).Nodup := by
    rw [List.map_map]
    exact codes
  have lines : sorting'.byKey TrialBalanceLine.accountCode
        (accounts.map (accountLine (allEntries others entries'))) =
      sorting.byKey TrialBalanceLine.accountCode
        (snap.accounts.map (accountLine (allEntries transactions entries))) := by
    rw [accountLine_congr entriesPerm]
    exact (SliceSort.byKey_congr sorting sorting' distinct perm.symm).symm
  have ids := sortStrings_congr (listPerm.map fun t => Uuid.string t.id)
  simp only [reportOn, report, lineOf_foldl, computeTrialBalanceHash, lines, ids, and_self]

end Reordered

theorem reportOn_totals {tenantID : Uuid}
    (once : (snap.accounts.map COASnapshotEntry.accountID).Nodup) :
    let r := reportOn sorting env tenantID asOfDate snapshotID snap transactions entries
    let all := allEntries transactions entries
    r.totalDebits = debitsOn snap.accounts all ∧ r.totalCredits = creditsOn snap.accounts all ∧
      (r.balanced = true ↔ debitsOn snap.accounts all = creditsOn snap.accounts all) := by
  intro r all
  have totalDebits : r.totalDebits = debitsOn snap.accounts all := by
    rw [debitsOn, ← sum_accounts _ _ once]
    simp only [r, all, reportOn, report, lineOf_foldl, List.map_map]
    rfl
  have totalCredits : r.totalCredits = creditsOn snap.accounts all := by
    rw [creditsOn, ← sum_accounts _ _ once]
    simp only [r, all, reportOn, report, lineOf_foldl, List.map_map]
    rfl
  refine ⟨totalDebits, totalCredits, ?_⟩
  rw [← totalDebits, ← totalCredits]
  exact decide_eq_true_iff

variable (sorting env) in
theorem generate_reordered (tenantID : Uuid) {tenantID' : Uuid} (sorting' : SliceSort)
    {other : Repositories} {env' : Env} (again : TrialBalanceRequest)
    (loads : Loads repos again.snapshotID (cutoff env' again.asOfDate) snap transactions entries)
    (reorders : Reorders repos other) (caller : env'.tenantID = some tenantID') :
    let r := reportOn sorting env tenantID (cutoff env' again.asOfDate) again.snapshotID snap
      transactions entries
    ∃ r', generateTrialBalance sorting' other env' again = .ok r' ∧ SameFigures r r' ∧
      ((snap.accounts.map COASnapshotEntry.accountCode).Nodup →
        r'.lines = r.lines ∧ r'.hash = r.hash) := by
  obtain ⟨accounts, others, entries', accountsPerm, listPerm, entriesPerm, loads'⟩ :=
    reorders.loads loads
  exact ⟨_, generate_of_loads sorting' again caller loads',
    reportOn_sameFigures accountsPerm entriesPerm,
    fun codes => reportOn_congr codes accountsPerm listPerm entriesPerm⟩

/-- A verification accepts where the same hash is generated. -/
theorem verify_of_generate {stored : FinancialReportHash} {generatedBy : Uuid}
    {r : TrialBalanceReport}
    (generated : generateTrialBalance sorting repos env
      { snapshotID := stored.snapshotID, asOfDate := stored.asOfDate, generatedBy } = .ok r)
    (same : r.hash = stored.reportHash) :
    verifyReportHash sorting repos env stored generatedBy = .ok true := by
  rw [verifyReportHash, generated, ← same]
  exact congrArg Except.ok (decide_eq_true rfl)

end Generation

/-! ## Reproducible reports -/

def TrialBalanceReport.fingerprint (r : TrialBalanceReport) : FinancialReportHash where
  snapshotID := r.snapshotID
  asOfDate := r.asOfDate
  reportHash := r.hash

theorem cutoff_of_ne {env : Env} {asOfDate : Time} (isDate : asOfDate ≠ Time.zero) :
    cutoff env asOfDate = asOfDate := by
  simp [cutoff, Time.isZero, isDate]

theorem cutoff_ne_zero {env : Env} (clock : env.now ≠ Time.zero) (asOfDate : Time) :
    cutoff env asOfDate ≠ Time.zero := by
  by_cases isZero : asOfDate = Time.zero
  · simpa [cutoff, Time.isZero, isZero] using clock
  · rwa [cutoff_of_ne isZero]

/--
A generated report has the same figures in whatever order the repositories answer, is accepted by
the verification, and sums the posted entries on the accounts of its snapshot.  Its lines and its
hash are the same too where no two accounts have one code.
-/
theorem trial_balance_is_reproducible {sorting : SliceSort} {repos : Repositories} {env : Env}
    {req : TrialBalanceRequest} {r : TrialBalanceReport} (clock : env.now ≠ Time.zero)
    (generated : generateTrialBalance sorting repos env req = .ok r) :
    ∃ snap transactions entries,
      Loads repos req.snapshotID r.asOfDate snap transactions entries ∧
      (∀ sorting' other env' again, Reorders repos other → env'.tenantID.isSome →
        again.snapshotID = req.snapshotID → cutoff env' again.asOfDate = r.asOfDate →
        ∃ r', generateTrialBalance sorting' other env' again = .ok r' ∧ SameFigures r r' ∧
          ((snap.accounts.map COASnapshotEntry.accountCode).Nodup →
            r'.lines = r.lines ∧ r'.hash = r.hash)) ∧
      (∀ env' generatedBy, env'.tenantID.isSome →
        verifyReportHash sorting repos env' r.fingerprint generatedBy = .ok true) ∧
      ((snap.accounts.map COASnapshotEntry.accountCode).Nodup →
        ∀ sorting' other env' generatedBy, Reorders repos other → env'.tenantID.isSome →
          verifyReportHash sorting' other env' r.fingerprint generatedBy = .ok true) ∧
      ((snap.accounts.map COASnapshotEntry.accountID).Nodup →
        r.totalDebits = debitsOn snap.accounts (allEntries transactions entries) ∧
        r.totalCredits = creditsOn snap.accounts (allEntries transactions entries) ∧
        (r.balanced = true ↔ debitsOn snap.accounts (allEntries transactions entries) =
          creditsOn snap.accounts (allEntries transactions entries))) := by
  obtain ⟨tenantID, snap, transactions, entries, caller, loads⟩ := loads_of_generate generated
  have isReport := generate_of_loads sorting req caller loads
  rw [generated] at isReport
  cases isReport
  have isDate := cutoff_ne_zero clock req.asOfDate
  refine ⟨snap, transactions, entries, loads, ?_, ?_, ?_, reportOn_totals⟩
  · intro sorting' other env' again reorders isTenant sameSnapshot sameDate
    obtain ⟨tenantID', caller'⟩ := Option.isSome_iff_exists.mp isTenant
    change cutoff env' again.asOfDate = cutoff env req.asOfDate at sameDate
    rw [← sameSnapshot, ← sameDate] at loads ⊢
    exact generate_reordered sorting env tenantID sorting' again loads reorders caller'
  · intro env' generatedBy isTenant
    obtain ⟨tenantID', caller'⟩ := Option.isSome_iff_exists.mp isTenant
    rw [← cutoff_of_ne isDate] at loads
    let again : TrialBalanceRequest :=
      { snapshotID := req.snapshotID, asOfDate := cutoff env req.asOfDate, generatedBy }
    exact verify_of_generate (generate_of_loads sorting again caller' loads) rfl
  · intro codes sorting' other env' generatedBy reorders isTenant
    obtain ⟨tenantID', caller'⟩ := Option.isSome_iff_exists.mp isTenant
    rw [← cutoff_of_ne isDate] at loads
    let again : TrialBalanceRequest :=
      { snapshotID := req.snapshotID, asOfDate := cutoff env req.asOfDate, generatedBy }
    obtain ⟨r', generated', -, same⟩ :=
      generate_reordered sorting env tenantID sorting' again loads reorders caller'
    exact verify_of_generate generated' (same codes).2

/-! ## A sample report -/

def rentExpense : COASnapshotEntry :=
  { accountID := 11, accountCode := "5100", accountName := "Rent", rootType := .expense
    normalBalance := .debit, status := .active }

/-- An account under a code of the caller's. -/
def payable (accountCode : String) : COASnapshotEntry :=
  { accountID := 12, accountCode, accountName := "Payables", rootType := .liability
    normalBalance := .credit, status := .active }

/-- The sample rent, posted, with a snapshot of some accounts and the order they come in. -/
def rentRepositories (stored accounts : List COASnapshotEntry) : Repositories where
  getSnapshot id :=
    .ok { id, tenantID := 7, snapshotAt := Transaction.rentDraft.transactionDate, accounts
          hash := computeSnapshotHash stored, entryCount := stored.length, createdBy := 21
          createdAt := Transaction.rentDraft.transactionDate }
  list _ := .ok [{ Transaction.rentDraft with transactionStatus := .posted }]
  getEntriesByTransaction _ := .ok Transaction.rentDraft.entries

theorem rentRepositories_reorders (stored : List COASnapshotEntry)
    {accounts others : List COASnapshotEntry} (perm : others.Perm accounts) :
    Reorders (rentRepositories stored accounts) (rentRepositories stored others) where
  snapshot id snap found := by
    cases found
    exact ⟨others, rfl, perm⟩
  list _ transactions listed := ⟨transactions, listed, .refl _⟩
  entries _ entries read := ⟨entries, read, .refl _⟩

/-- The sample tenant, on the day of the rent. -/
def rentEnv : Env where
  tenantID := some 7
  now := Transaction.rentDraft.transactionDate

def rentRequest : TrialBalanceRequest where
  snapshotID := 61

theorem trial_balance_is_reproducible_rent :
    ∃ r, generateTrialBalance .insertion
        (rentRepositories [payable "2100", rentExpense] [payable "2100", rentExpense]) rentEnv
          rentRequest = .ok r ∧
      verifyReportHash .insertion
        (rentRepositories [payable "2100", rentExpense] [rentExpense, payable "2100"]) rentEnv
          r.fingerprint 23 = .ok true ∧
      r.totalDebits = 100 ∧ r.totalCredits = 100 ∧ r.balanced = true := by
  obtain ⟨r, generated⟩ : ∃ r, generateTrialBalance .insertion
      (rentRepositories [payable "2100", rentExpense] [payable "2100", rentExpense]) rentEnv
        rentRequest = .ok r := ⟨_, rfl⟩
  obtain ⟨snap, transactions, entries, loads, -, -, verified, totals⟩ :=
    trial_balance_is_reproducible (by decide) generated
  have read := loads.read
  cases loads.snapshot
  cases loads.listed
  have own : entries 1 = Transaction.rentDraft.entries :=
    (Except.ok.inj (read _ (List.mem_singleton_self _))).symm
  obtain ⟨debits, credits, balanced⟩ := totals (by decide)
  have all : allEntries [{ Transaction.rentDraft with transactionStatus := .posted }] entries =
      Transaction.rentDraft.entries := (List.append_nil _).trans own
  rw [all] at debits credits balanced
  refine ⟨r, generated, verified (by decide) _ _ _ _ (rentRepositories_reorders _ (.swap _ _ _))
    rfl, debits.trans ?_, credits.trans ?_, balanced.mpr ?_⟩ <;> decide +kernel

/--
A balanced transaction over an account outside the snapshot leaves the report unbalanced, and
lines under one code come in the order of the snapshot.
-/
theorem trial_balance_follows_snapshot :
    (Transaction.rentDraft.entries.map TransactionEntry.debitAmount).sum =
        (Transaction.rentDraft.entries.map TransactionEntry.creditAmount).sum ∧
      (∃ r, generateTrialBalance .insertion (rentRepositories [rentExpense] [rentExpense]) rentEnv
          rentRequest = .ok r ∧
        r.totalDebits = 100 ∧ r.totalCredits = 0 ∧ r.balanced = false) ∧
      Reorders
        (rentRepositories [payable "5100", rentExpense] [payable "5100", rentExpense])
        (rentRepositories [payable "5100", rentExpense] [rentExpense, payable "5100"]) ∧
      ∃ r r',
        generateTrialBalance .insertion
          (rentRepositories [payable "5100", rentExpense] [payable "5100", rentExpense])
          rentEnv rentRequest = .ok r ∧
        generateTrialBalance .insertion
          (rentRepositories [payable "5100", rentExpense] [rentExpense, payable "5100"])
          rentEnv rentRequest = .ok r' ∧
        r'.lines ≠ r.lines := by
  refine ⟨by decide +kernel, ⟨_, rfl, ?_, ?_, ?_⟩,
    rentRepositories_reorders _ (.swap _ _ _), _, _, rfl, rfl, ?_⟩ <;> decide +kernel

end ErpFinance.Service.DeterministicReport
