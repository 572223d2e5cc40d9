import ErpFinance.Service.AccountBalances
import ErpFinance.Service.ReplayReconstructor
import Mathlib.Tactic.Linarith

/-!
# Replays of a posted ledger

What the replay reports for a ledger whose balances were moved by the posting
engine alone.  The stored balance of an account is signed by its normal balance
and counts every posted transaction; the replay is raw and counts the listed
ones, so that both agree exactly where the difference of the two sums vanishes.
-/

namespace ErpFinance.Service

open Domain Library

namespace ReplayReconstructor

/-! ## Histories -/

/-- A call of the posting engine, or another service storing a transaction. -/
inductive Event where
  | engine (operation : PostingEngine.Operation)
  | record (t : Transaction)

/-- A new transaction is added, a stored one replaced. -/
def recordTransaction (s : Ledger) (t : Transaction) : Ledger :=
  match s.transactions.get? t.id with
  | none => { s with transactions := s.transactions.insert t }
  | some _ => { s with transactions := s.transactions.put t }

def step (tolerance : Decimal) (s : Ledger) : Event → Ledger
  | .engine operation => PostingEngine.step tolerance s operation
  | .record t => recordTransaction s t

/-- A transaction that is stored without posting, unposting or changing posted entries. -/
def KeepsPosting (s : Ledger) (t : Transaction) : Prop :=
  match s.transactions.get? t.id with
  | none => t.transactionStatus ≠ .posted
  | some old => (t.transactionStatus = .posted ↔ old.transactionStatus = .posted) ∧
      (old.transactionStatus = .posted → t.entries = old.entries)

/--
Only the engine posts and unposts, with its balance updates and not interrupted
between its writes.  Reversals are stored as any other transaction is.
-/
def Guard (tolerance : Decimal) (s : Ledger) : Event → Prop
  | .engine operation => PostingEngine.Guard tolerance s operation
  | .record t => KeepsPosting s t

/-- No balance and nothing posted yet. -/
def Opening (s : Ledger) : Prop :=
  (∀ a ∈ s.accounts.rows, a.currentBalance = 0) ∧
    ∀ t ∈ s.transactions.rows, t.transactionStatus ≠ .posted

theorem Opening.balancesMatch {s : Ledger} (opening : Opening s) :
    BalancesMatch (fun _ => 0) s := by
  intro a member
  have nothing : s.transactions.sum (postedAmount a.normalBalance a.id) = 0 :=
    Table.sum_eq_zero (fun t stored => postedAmount_of_not_posted (opening.2 t stored))
  rw [opening.1 a member, nothing, add_zero]

theorem recordTransaction_keeps {s : Ledger} {t : Transaction}
    (isMatch : BalancesMatch (fun _ => 0) s) (keeps : KeepsPosting s t) :
    BalancesMatch (fun _ => 0) (recordTransaction s t) := by
  unfold KeepsPosting at keeps
  unfold recordTransaction
  cases found : s.transactions.get? t.id with
  | none =>
    rw [found] at keeps
    intro a member
    show a.currentBalance = 0 + (s.transactions.insert t).sum _
    rw [Table.sum_insert _ found, postedAmount_of_not_posted keeps, add_zero]
    exact isMatch a member
  | some old =>
    rw [found] at keeps
    refine @PostingEngine.balancesMatch_move (fun _ => 0) s old t s.accounts (fun _ => 0) isMatch
      found ?_ ?_
    · intro id
      simp [Option.map_congr (fun a _ => PostingEngine.moved_zero a)]
    · intro normal id
      rw [signed_zero]
      by_cases posted : old.transactionStatus = .posted
      · rw [postedAmount_of_posted posted, postedAmount_of_posted (keeps.1.mpr posted),
          keeps.2 posted, sub_self]
      · rw [postedAmount_of_not_posted posted,
          postedAmount_of_not_posted (fun now => posted (keeps.1.mp now)), sub_self]

theorem history_balancesMatch {tolerance : Decimal} {start s : Ledger} (opening : Opening start)
    (history : Run (step tolerance) (Guard tolerance) start s) :
    BalancesMatch (fun _ => 0) s := by
  apply history.invariant opening.balancesMatch
  intro middle event guard isMatch
  cases event with
  | engine operation => exact PostingEngine.step_keeps isMatch guard
  | record t => exact recordTransaction_keeps isMatch guard

/-! ## Listings -/

/-- The posted transactions a replay lists: the newest fifty of the tenant up to a date. -/
def listed (tenant : Uuid) (asOfDate : Time) (s : Ledger) : List Transaction :=
  ((s.transactions.rows.filter ((postedFilter asOfDate).selects tenant)).insertionSort
    (fun t u => newestFirst t u)).take 50

def posted (s : Ledger) : List Transaction :=
  s.transactions.rows.filter (fun t => t.transactionStatus = .posted)

def leftOut (tenant : Uuid) (asOfDate : Time) (s : Ledger) : List Transaction :=
  s.transactions.rows.filter (fun t =>
    t.transactionStatus = .posted ∧ t ∉ listed tenant asOfDate s)

/-- The accounts it compares: the first fifty active ones of the tenant. -/
def listedAccounts (collates : String → String → Bool) (tenant : Uuid) (s : Ledger) :
    List Accounts :=
  ((s.accounts.rows.filter (fun a => a.tenantID = tenant && a.deletedAt.isNone &&
    a.isActive = true)).insertionSort (fun a b => collates a.accountCode b.accountCode)).take 50

section Listings

variable {env : ReplayEnv} {s : Ledger} {tenant : Uuid} {asOfDate : Time}

theorem runs_eq (isCaller : env.caller.getTenantID = some tenant) {read : Read}
    (succeeds : env.fails read = false) : runs env read = .ok tenant := by
  simp [runs, isCaller, succeeds]

theorem listTransactions_eq (isCaller : env.caller.getTenantID = some tenant)
    (succeeds : env.fails .listTransactions = false) :
    listTransactions env s (postedFilter asOfDate) = .ok (listed tenant asOfDate s) := by
  rw [listTransactions, runs_eq isCaller succeeds]
  rfl

theorem listAccounts_eq (isCaller : env.caller.getTenantID = some tenant)
    (succeeds : env.fails .listAccounts = false) :
    listAccounts env s {} = .ok (listedAccounts env.collates tenant s) := by
  rw [listAccounts, runs_eq isCaller succeeds]
  rfl

theorem mem_of_mem_listed {t : Transaction} (member : t ∈ listed tenant asOfDate s) :
    t ∈ s.transactions.rows ∧ t.transactionStatus = .posted := by
  have selected := List.mem_filter.mp
    ((List.mem_insertionSort _).mp (List.mem_of_mem_take member))
  have selects := selected.2
  simp only [TransactionFilter.selects, postedFilter, Option.all_some, Bool.and_eq_true,
    decide_eq_true_eq] at selects
  exact ⟨selected.1, selects.1.1.2.symm⟩

theorem nodup_listed : (listed tenant asOfDate s).Nodup := by
  have rows := (List.Nodup.of_map _ s.transactions.nodup).filter
    ((postedFilter asOfDate).selects tenant)
  exact ((List.perm_insertionSort _ _).nodup_iff.mpr rows).sublist (List.take_sublist _ _)

theorem mem_of_mem_listedAccounts {collates : String → String → Bool} {a : Accounts}
    (member : a ∈ listedAccounts collates tenant s) :
    a ∈ s.accounts.rows ∧ a.tenantID = tenant ∧ a.deletedAt.isNone = true := by
  have selected := List.mem_filter.mp
    ((List.mem_insertionSort _).mp (List.mem_of_mem_take member))
  have selects := selected.2
  simp only [Bool.and_eq_true, decide_eq_true_eq] at selects
  exact ⟨selected.1, selects.1.1, selects.1.2⟩

theorem listed_congr {other : Time} (sameDay : asOfDate.date = other.date) :
    listed tenant asOfDate s = listed tenant other s := by
  have same : (postedFilter asOfDate).selects tenant = (postedFilter other).selects tenant := by
    funext t
    simp [TransactionFilter.selects, TransactionFilter.window, postedFilter, sameDay]
  unfold listed
  rw [same]

end Listings

/-! ## Replayed sums -/

def netOf (transactions : List Transaction) (id : Uuid) : Decimal :=
  (transactions.map (fun t => netOn t.entries id)).sum

theorem netOf_append (first second : List Transaction) (id : Uuid) :
    netOf (first ++ second) id = netOf first id + netOf second id := by
  simp [netOf]

theorem netOf_perm {first second : List Transaction} (perm : first.Perm second) (id : Uuid) :
    netOf first id = netOf second id :=
  (perm.map _).sum_eq

/-- The entries a replay reads for its transactions. -/
def readEntries (s : Ledger) (transactions : List Transaction) : List TransactionEntry :=
  transactions.flatMap (fun t =>
    ((s.transactions.get? t.id).elim [] Transaction.entries).insertionSort
      (fun e e' => e.entryNumber ≤ e'.entryNumber))

/-- For stored transactions these are their own entries, in another order. -/
theorem netOn_readEntries {s : Ledger} {transactions : List Transaction}
    (stored : ∀ t ∈ transactions, t ∈ s.transactions.rows) (id : Uuid) :
    netOn (readEntries s transactions) id = netOf transactions id := by
  induction transactions with
  | nil => rfl
  | cons t rest ih =>
    have found : s.transactions.get? t.id = some t :=
      Table.get?_key_of_mem (stored t (by simp))
    have sorted :
        netOn (t.entries.insertionSort (fun e e' => e.entryNumber ≤ e'.entryNumber)) id =
          netOn t.entries id := landed_perm (List.perm_insertionSort _ _) id
    have others := ih (fun other member => stored other (by simp [member]))
    unfold readEntries netOf at others ⊢
    rw [List.flatMap_cons, netOn, landed_append, found, List.map_cons, List.sum_cons, ← others]
    exact congrArg (· + _) sorted

/-- The tenant replay keeps for each account what the account replay sums up. -/
theorem foldl_accumulate (entries : List TransactionEntry) (acc : Accumulators) (id : Uuid) :
    (entries.foldl accumulate acc id).getD {} =
      entries.foldl (accumulateOn id) ((acc id).getD {}) := by
  induction entries generalizing acc with
  | nil => rfl
  | cons e rest ih =>
    rw [List.foldl_cons, List.foldl_cons, ih]
    congr 1
    by_cases here : e.accountID = id
    · simp [accumulate, accumulateOn, here]
    · simp [accumulate, accumulateOn, here, Ne.symm here]

/-- The raw balance of a sum is the net of its entries. -/
theorem net_foldl_accumulateOn (entries : List TransactionEntry) (id : Uuid)
    (totals : Accumulator) :
    (entries.foldl (accumulateOn id) totals).debit -
        (entries.foldl (accumulateOn id) totals).credit =
      totals.debit - totals.credit + netOn entries id := by
  induction entries generalizing totals with
  | nil => simp
  | cons e rest ih =>
    rw [List.foldl_cons, ih, netOn, netOn, landed_cons]
    by_cases here : e.accountID = id
    · simp only [accumulateOn, here, ne_eq, not_true, if_false, if_true, Accumulator.add,
        entryNet]
      ring
    · simp [accumulateOn, here]

section Replays

variable {env : ReplayEnv} {s : Ledger} {tenant : Uuid}

theorem getEntriesByTransaction_eq (isCaller : env.caller.getTenantID = some tenant)
    (reads : ∀ read, env.fails read = false) (id : Uuid) :
    getEntriesByTransaction env s id =
      .ok (((s.transactions.get? id).elim [] Transaction.entries).insertionSort
        (fun e e' => e.entryNumber ≤ e'.entryNumber)) := by
  rw [getEntriesByTransaction, runs_eq isCaller (reads _)]
  rfl

theorem replayTransactions_eq (isCaller : env.caller.getTenantID = some tenant)
    (reads : ∀ read, env.fails read = false) (transactions : List Transaction)
    (acc : Accumulators) (totalEntries : Nat) :
    replayTransactions env s transactions (acc, totalEntries) =
      .ok ((readEntries s transactions).foldl accumulate acc,
        totalEntries + (readEntries s transactions).length) := by
  induction transactions generalizing acc totalEntries with
  | nil => rfl
  | cons t rest ih =>
    rw [replayTransactions, getEntriesByTransaction_eq isCaller reads]
    simp only [Except.mapError, bind, Except.bind, ih]
    simp [readEntries, Nat.add_assoc]

theorem replayAccountEntries_eq (isCaller : env.caller.getTenantID = some tenant)
    (reads : ∀ read, env.fails read = false) (id : Uuid) (transactions : List Transaction)
    (totals : Accumulator) :
    replayAccountEntries env s id transactions totals =
      .ok ((readEntries s transactions).foldl (accumulateOn id) totals) := by
  induction transactions generalizing totals with
  | nil => rfl
  | cons t rest ih =>
    rw [replayAccountEntries, getEntriesByTransaction_eq isCaller reads]
    simp only [Except.mapError, bind, Except.bind, ih]
    simp [readEntries]

def foundBalance (tenant : Uuid) (asOfDate : Time) (s : Ledger) (a : Accounts) :
    ReplayedBalance :=
  ((readEntries s (listed tenant asOfDate s)).foldl (accumulateOn a.id) {}).balance a

theorem netBalance_foundBalance (tenant : Uuid) (asOfDate : Time) (s : Ledger) (a : Accounts) :
    (foundBalance tenant asOfDate s a).netBalance = netOf (listed tenant asOfDate s) a.id := by
  show _ - _ = _
  rw [net_foldl_accumulateOn,
    netOn_readEntries (fun t member => (mem_of_mem_listed member).1)]
  simp

theorem replayTenant_eq (isCaller : env.caller.getTenantID = some tenant)
    (reads : ∀ read, env.fails read = false) (asOfDate : Time) :
    ∃ report, replayTenant env s asOfDate = .ok report ∧
      report.balances =
        (listedAccounts env.collates tenant s).map
          (foundBalance tenant (effectiveDate env asOfDate) s) ∧
      (report.replayClean = true ↔ ∀ a ∈ listedAccounts env.collates tenant s,
        netOf (listed tenant (effectiveDate env asOfDate) s) a.id = a.currentBalance) := by
  have balances : ∀ a : Accounts,
      (((readEntries s (listed tenant (effectiveDate env asOfDate) s)).foldl accumulate
        (fun _ => none) a.id).getD {}).balance a =
        foundBalance tenant (effectiveDate env asOfDate) s a := by
    intro a
    rw [foldl_accumulate]
    rfl
  unfold replayTenant
  rw [isCaller]
  simp only [listTransactions_eq isCaller (reads _), listAccounts_eq isCaller (reads _),
    replayTransactions_eq isCaller reads, Except.mapError, bind, Except.bind, pure, Except.pure,
    balances, netBalance_foundBalance]
  refine ⟨_, rfl, rfl, ?_⟩
  simp [List.filter_eq_nil_iff]

theorem replayAccount_eq (isCaller : env.caller.getTenantID = some tenant)
    (reads : ∀ read, env.fails read = false) (asOfDate : Time)
    {collates : String → String → Bool} {a : Accounts}
    (member : a ∈ listedAccounts collates tenant s) :
    replayAccount env s a.id asOfDate =
      .ok (foundBalance tenant (effectiveDate env asOfDate) s a) := by
  obtain ⟨stored, ofTenant, live⟩ := mem_of_mem_listedAccounts member
  have account : getAccount env s a.id = .ok a := by
    rw [getAccount, runs_eq isCaller (reads _)]
    simp only [bind, Except.bind, show s.accounts.get? a.id = some a from
      Table.get?_key_of_mem stored]
    simp [Option.filter, ofTenant, live]
  unfold replayAccount
  simp only [account, listTransactions_eq isCaller (reads _),
    replayAccountEntries_eq isCaller reads, Except.mapError, bind, Except.bind, pure, Except.pure]
  rfl

end Replays

/-! ## Clean replays -/

theorem posted_perm (tenant : Uuid) (asOfDate : Time) (s : Ledger) :
    (posted s).Perm (listed tenant asOfDate s ++ leftOut tenant asOfDate s) := by
  have rows : s.transactions.rows.Nodup := List.Nodup.of_map _ s.transactions.nodup
  have apart : (listed tenant asOfDate s ++ leftOut tenant asOfDate s).Nodup := by
    apply List.Nodup.append nodup_listed (rows.filter _)
    intro t inListed inRest
    have outside := (List.mem_filter.mp inRest).2
    simp [inListed] at outside
  unfold posted
  rw [List.perm_ext_iff_of_nodup (rows.filter _) apart]
  intro t
  simp only [List.mem_append, leftOut, List.mem_filter, decide_eq_true_eq]
  constructor
  · rintro ⟨stored, posted⟩
    by_cases inListed : t ∈ listed tenant asOfDate s
    · exact Or.inl inListed
    · exact Or.inr ⟨stored, posted, inListed⟩
  · rintro (inListed | ⟨stored, posted, _⟩)
    · exact mem_of_mem_listed inListed
    · exact ⟨stored, posted⟩

theorem sum_postedAmount (s : Ledger) (normal : NormalBalance) (id : Uuid) :
    s.transactions.sum (postedAmount normal id) = signed normal (netOf (posted s) id) := by
  unfold Table.sum netOf posted
  induction s.transactions.rows with
  | nil => simp
  | cons t rest ih =>
    rw [List.map_cons, List.sum_cons, ih]
    by_cases isPosted : t.transactionStatus = .posted
    · rw [List.filter_cons_of_pos (by simp [isPosted]), List.map_cons, List.sum_cons, signed_add,
        postedAmount_of_posted isPosted]
    · rw [List.filter_cons_of_neg (by simp [isPosted]), postedAmount_of_not_posted isPosted,
        zero_add]

/--
The transactions left out of the listing cancel on a debit account; on any other
account they come to twice the net of all posted ones.
-/
def Settled (tenant : Uuid) (asOfDate : Time) (s : Ledger) (a : Accounts) : Prop :=
  netOf (leftOut tenant asOfDate s) a.id =
    if a.normalBalance = .debit then 0 else 2 * netOf (posted s) a.id

instance (tenant : Uuid) (asOfDate : Time) (s : Ledger) (a : Accounts) :
    Decidable (Settled tenant asOfDate s a) :=
  inferInstanceAs (Decidable (_ = _))

theorem replayed_eq_stored_iff {s : Ledger} (isMatch : BalancesMatch (fun _ => 0) s)
    {a : Accounts} (stored : a ∈ s.accounts.rows) (tenant : Uuid) (asOfDate : Time) :
    netOf (listed tenant asOfDate s) a.id = a.currentBalance ↔ Settled tenant asOfDate s a := by
  have split : netOf (posted s) a.id =
      netOf (listed tenant asOfDate s) a.id + netOf (leftOut tenant asOfDate s) a.id := by
    rw [netOf_perm (posted_perm tenant asOfDate s), netOf_append]
  rw [isMatch a stored, sum_postedAmount, zero_add, Settled, signed]
  by_cases debit : a.normalBalance = .debit
  · rw [if_pos debit, if_pos debit]
    constructor <;> intro same <;> linarith
  · rw [if_neg debit, if_neg debit]
    constructor <;> intro same <;> linarith

/--
After every history of the posting engine the replay is clean exactly when
every compared account is settled, and both replays find the same balances.
-/
theorem guarded_history_replays {tolerance : Decimal} {start s : Ledger}
    (opening : Opening start) (history : Run (step tolerance) (Guard tolerance) start s)
    {tenant : Uuid} {env : ReplayEnv} (isCaller : env.caller.getTenantID = some tenant)
    (reads : ∀ read, env.fails read = false) (asOfDate : Time) :
    ∃ report, replayTenant env s asOfDate = .ok report ∧
      (report.replayClean = true ↔ ∀ a ∈ listedAccounts env.collates tenant s,
        Settled tenant (effectiveDate env asOfDate) s a) ∧
      ∀ other : ReplayEnv, other.caller.getTenantID = some tenant →
        (∀ read, other.fails read = false) → ∀ otherDate : Time,
        (effectiveDate other otherDate).date = (effectiveDate env asOfDate).date →
        ∀ balance ∈ report.balances,
          replayAccount other s balance.accountID otherDate = .ok balance := by
  obtain ⟨report, reported, balances, clean⟩ :=
    @replayTenant_eq env s tenant isCaller reads asOfDate
  refine ⟨report, reported, ?_, ?_⟩
  · rw [clean]
    have isMatch := history_balancesMatch opening history
    constructor
    · intro same a member
      exact (replayed_eq_stored_iff isMatch (mem_of_mem_listedAccounts member).1 _ _).mp
        (same a member)
    · intro settled a member
      exact (replayed_eq_stored_iff isMatch (mem_of_mem_listedAccounts member).1 _ _).mpr
        (settled a member)
  · intro other sameCaller otherReads otherDate sameDay balance member
    rw [balances] at member
    obtain ⟨a, inListing, rfl⟩ := List.mem_map.mp member
    have found := replayAccount_eq sameCaller otherReads otherDate inListing
    rw [foundBalance, listed_congr sameDay] at found
    exact found

/-! ## Samples -/

def tenantSeven : ReplayEnv where
  caller := { tenantID := some 7 }
  now := ⟨2024, 6, 1, 0, by decide⟩
  collates := fun first second => first = second

/-- The sample ledger with a cash account in place of the payables. -/
def cashLedger : Ledger where
  transactions := PostingEngine.rentLedger.transactions
  accounts := ⟨[PostingEngine.expenseAccount,
    { PostingEngine.payableAccount with accountName := "Cash", normalBalance := .debit }],
    by decide⟩

/-- The sample transaction posted. -/
def postRent (s : Ledger) : Ledger :=
  step (1 / 100) s (.engine (.post { now := Time.zero } PostingEngine.rentPosting))

/-- Paying the rent in cash touches debit accounts alone, and its replay is clean. -/
theorem guarded_history_replays_cash :
    ∃ report, replayTenant tenantSeven (postRent cashLedger) Time.zero = .ok report ∧
      report.replayClean = true ∧ ∀ balance ∈ report.balances,
        replayAccount tenantSeven (postRent cashLedger) balance.accountID Time.zero =
          .ok balance := by
  have opening : Opening cashLedger := by
    constructor <;> decide +kernel
  have guard : Guard (1 / 100) cashLedger
      (.engine (.post { now := Time.zero } PostingEngine.rentPosting)) :=
    PostingEngine.guard_rentPosting (by decide +kernel) (by decide +kernel) (by decide +kernel)
  obtain ⟨report, reported, clean, agree⟩ :=
    @guarded_history_replays (1 / 100) cashLedger (postRent cashLedger) opening
      (.tail _ .refl guard) 7 tenantSeven rfl (fun _ => rfl) Time.zero
  refine ⟨report, reported, clean.mpr (by decide +kernel), ?_⟩
  exact agree tenantSeven rfl (fun _ => rfl) Time.zero rfl

/-- On the sample ledger itself the credit account drifts after one posting. -/
theorem posted_credit_drifts :
    Opening PostingEngine.rentLedger ∧
      Run (step (1 / 100)) (Guard (1 / 100)) PostingEngine.rentLedger
        (postRent PostingEngine.rentLedger) ∧
      (replayTenant tenantSeven (postRent PostingEngine.rentLedger) Time.zero).toOption.map
        ReplayReport.driftAccounts = some [12] := by
  refine ⟨?_, ?_, by decide +kernel⟩
  · constructor <;> decide +kernel
  · apply Run.tail _ .refl
    exact PostingEngine.guard_rentPosting (by decide +kernel) (by decide +kernel)
      (by decide +kernel)

end ReplayReconstructor

end ErpFinance.Service
