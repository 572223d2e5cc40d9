import ErpFinance.Service.AccountBalances

/-!
# Balanced postings

Exact balance of the posted entries.  The posting checks accept a transaction
only when its header totals agree with each other and each agrees exactly with
its side of the entries, so the tolerance of the balance check never lets a
difference through.  A posting that asks for no validation is not held to this.
-/

namespace ErpFinance.Service

open Domain Library

/-- The exact sums of both sides of a transaction's entries agree. -/
def EntriesBalance (t : Transaction) : Prop := totalDebits t.entries = totalCredits t.entries

/-- Every transaction stored as posted balances exactly. -/
def PostedBalance (s : Ledger) : Prop :=
  ∀ t ∈ s.transactions.rows, t.transactionStatus = .posted → EntriesBalance t

instance (s : Ledger) : Decidable (PostedBalance s) :=
  inferInstanceAs (Decidable (∀ t ∈ s.transactions.rows, t.transactionStatus = .posted →
    totalDebits t.entries = totalCredits t.entries))

def postedDebits (s : Ledger) : Decimal :=
  s.transactions.sum (fun t => if t.transactionStatus = .posted then totalDebits t.entries else 0)

def postedCredits (s : Ledger) : Decimal :=
  s.transactions.sum (fun t =>
    if t.transactionStatus = .posted then totalCredits t.entries else 0)

theorem PostedBalance.totals {s : Ledger} (balanced : PostedBalance s) :
    postedDebits s = postedCredits s := by
  apply Table.sum_congr
  intro t member
  by_cases posted : t.transactionStatus = .posted
  · rw [if_pos posted, if_pos posted]
    exact balanced t member posted
  · rw [if_neg posted, if_neg posted]

/-- Only the transactions decide whether the posted ones balance. -/
theorem PostedBalance.of_same_transactions {s after : Ledger} (balanced : PostedBalance s)
    (same : after.transactions = s.transactions) : PostedBalance after := by
  unfold PostedBalance
  rw [same]
  exact balanced

theorem PostedBalance.of_put {s after : Ledger} {new : Transaction}
    (balanced : PostedBalance s) (stored : after.transactions = s.transactions.put new)
    (newBalanced : new.transactionStatus = .posted → EntriesBalance new) :
    PostedBalance after := by
  intro t member posted
  rw [stored] at member
  rcases Table.mem_put member with rfl | ⟨old, _⟩
  · exact newBalanced posted
  · exact balanced t old posted

namespace PostingEngine

/-! ## What the posting checks accept -/

variable {tolerance : Decimal} {t : Transaction}

theorem accepted_of_canPost {now : Time} {accounts : AccountMap}
    (canPost : (validatePostingRequirements tolerance now t accounts).canPost = true) :
    (DoubleEntryValidator.validateTransaction tolerance now t accounts).errors = [] ∧
      t.totalDebitAmount = t.totalCreditAmount := by
  simp only [validatePostingRequirements, Bool.and_eq_true, List.isEmpty_iff,
    List.append_eq_nil_iff] at canPost
  obtain ⟨⟨postable, _⟩, ⟨_, noErrors⟩, _⟩ := canPost
  refine ⟨noErrors, ?_⟩
  unfold Transaction.canBePosted at postable
  cases header : t.isBalanced with
  | false => simp [header] at postable
  | true => simpa [Transaction.isBalanced] using header

theorem entriesBalance_of_canPost {now : Time} {accounts : AccountMap}
    (canPost : (validatePostingRequirements tolerance now t accounts).canPost = true) :
    EntriesBalance t := by
  obtain ⟨noErrors, header⟩ := accepted_of_canPost canPost
  rw [DoubleEntryValidator.validateTransaction_errors] at noErrors
  simp only [List.append_eq_nil_iff] at noErrors
  obtain ⟨⟨⟨⟨⟨_, balance⟩, _⟩, _⟩, _⟩, _⟩ := noErrors
  obtain ⟨debits, credits, _⟩ := DoubleEntryValidator.totals_of_validateBalance balance
  calc totalDebits t.entries = t.totalDebitAmount := debits
    _ = t.totalCreditAmount := header
    _ = totalCredits t.entries := credits.symm

/-- A posting that asks for validation and does not override it. -/
def Validated (req : PostTransactionRequest) : Prop :=
  req.validateBeforePosting = true ∧ req.forcePost = false

variable {req : PostTransactionRequest}

/-- Passing the gate of a validated posting means the posting checks accept. -/
theorem canPost_of_validationGate {env : PostingEnv} {accounts : Table Accounts}
    {result : PostTransactionResult} (validated : Validated req)
    (gate : validationGate tolerance env accounts req t = .ok result) :
    ∃ map, (validatePostingRequirements tolerance env.now t map).canPost = true := by
  obtain ⟨validates, unforced⟩ := validated
  rw [validationGate, validates, unforced] at gate
  cases loading : loadTransactionAccounts accounts t.entries env.faults.load [] with
  | error err => simp [loading] at gate
  | ok loaded =>
    refine ⟨accountMap loaded, ?_⟩
    cases canPost : (validatePostingRequirements tolerance env.now t
        (accountMap loaded)).canPost with
    | true => rfl
    | false => simp [loading, canPost] at gate

/-! ## Steps -/

theorem commitPosting_transactions (env : PostingEnv) (s : Ledger)
    (req : PostTransactionRequest) (posted : Transaction) (result : PostTransactionResult)
    (fresh : result.success = false) :
    let out := commitPosting env s req posted result
    (out.result.success = false ∧ out.ledger.transactions = s.transactions) ∨
      (out.result.success = true ∧ out.ledger.transactions = s.transactions.put posted) := by
  unfold commitPosting
  generalize (if req.skipBalanceUpdate = true then
      (s.accounts, Except.ok result.balanceUpdates)
    else updateAccountBalances s.accounts env.faults.balances posted.entries) = balances
  rcases balances with ⟨accounts, err | updates⟩
  · exact Or.inl ⟨fresh, rfl⟩
  · cases save : env.faults.save with
    | true => exact Or.inl ⟨fresh, rfl⟩
    | false => exact Or.inr ⟨rfl, rfl⟩

/--
A validated posting either stores no transaction, or succeeds and stores the
requested one as posted with balancing entries.
-/
theorem validated_postTransaction (tolerance : Decimal) (env : PostingEnv) (s : Ledger)
    (validated : Validated req) :
    let out := postTransaction tolerance env s req
    (out.result.success = false ∧ out.ledger.transactions = s.transactions) ∨
      ∃ posted, out.ledger.transactions = s.transactions.put posted ∧
        out.ledger.transactions.get? req.transactionID = some posted ∧
        posted.transactionStatus = .posted ∧ EntriesBalance posted := by
  dsimp only
  rcases postTransaction_cases tolerance env s req with
    ⟨result, err, stopped, unsuccessful⟩ |
      ⟨t, posted, result, accepted, sameId, sameEntries, nowPosted, ran⟩
  · rw [stopped]
    exact Or.inl ⟨unsuccessful, rfl⟩
  · rw [ran]
    have fresh := success_of_validationGate_ok accepted.gate
    rcases commitPosting_transactions env s req posted result fresh with kept | ⟨_, stored⟩
    · exact Or.inl kept
    · obtain ⟨map, canPost⟩ := canPost_of_validationGate validated accepted.gate
      have balance : EntriesBalance posted := by
        unfold EntriesBalance
        rw [sameEntries]
        exact entriesBalance_of_canPost canPost
      have found := getByID_ok accepted.found
      have postedKey : Keyed.key posted = req.transactionID :=
        sameId.trans (Table.key_of_get? found)
      refine Or.inr ⟨posted, stored, ?_, nowPosted, balance⟩
      rw [stored, ← postedKey]
      rw [← postedKey] at found
      exact Table.get?_put_self found

theorem validated_postRequest (req : BatchPostRequest) (id : Uuid) :
    Validated (req.postRequest id) := ⟨rfl, rfl⟩

variable {s : Ledger}

theorem postTransaction_postedBalance (tolerance : Decimal) (env : PostingEnv)
    (validated : Validated req) (balanced : PostedBalance s) :
    PostedBalance (postTransaction tolerance env s req).ledger := by
  rcases validated_postTransaction tolerance env s validated with
    ⟨_, same⟩ | ⟨posted, stored, _, _, balance⟩
  · exact balanced.of_same_transactions same
  · exact balanced.of_put stored (fun _ => balance)

theorem unpostTransaction_postedBalance {env : PostingEnv} {req : UnpostTransactionRequest}
    (balanced : PostedBalance s) :
    PostedBalance (unpostTransaction env s req).ledger := by
  unfold unpostTransaction
  cases getByID s.transactions "transaction not found" env.faults.retrieve
      req.transactionID with
  | error err => exact balanced
  | ok t =>
    dsimp only
    split
    · exact balanced
    · rcases reverseAccountBalances s.accounts env.faults.balances t.entries with
        ⟨accounts, err | updates⟩
      · exact balanced
      · cases env.faults.save with
        | true => exact balanced
        | false => exact balanced.of_put rfl (by simp)

theorem batchLoop_postedBalance {envs : Nat → PostingEnv} {req : BatchPostRequest} {index : Nat}
    {ids : List Uuid} {result : BatchPostResult} (balanced : PostedBalance s) :
    PostedBalance (batchLoop tolerance envs req index ids s result).1 := by
  induction ids generalizing index s result with
  | nil => exact balanced
  | cons id rest ih =>
    have kept := postTransaction_postedBalance tolerance (envs index)
      (validated_postRequest req id) balanced
    unfold batchLoop
    dsimp only
    split
    · exact kept
    · split
      · exact ih kept
      · split
        · exact kept
        · exact ih kept

/-- Postings must be validated; unposting and batches need nothing. -/
def ValidatedOperation : Operation → Prop
  | .post _ req => Validated req
  | .unpost _ _ => True
  | .batch _ _ => True

theorem step_postedBalance {operation : Operation} (validated : ValidatedOperation operation)
    (balanced : PostedBalance s) :
    PostedBalance (step tolerance s operation) := by
  cases operation with
  | post env req => exact postTransaction_postedBalance tolerance env validated balanced
  | unpost env req => exact unpostTransaction_postedBalance balanced
  | batch envs req => exact batchLoop_postedBalance balanced

/--
A validated posting that succeeds leaves the requested transaction posted with
exactly balancing entries, and along every run of validated operations all
posted transactions balance, so the totals of posted debits and credits agree.
-/
theorem validated_postings_balance (tolerance : Decimal) :
    (∀ env s req, Validated req → (postTransaction tolerance env s req).result.success = true →
      ∃ posted, (postTransaction tolerance env s req).ledger.transactions.get?
          req.transactionID = some posted ∧
        posted.transactionStatus = .posted ∧ EntriesBalance posted) ∧
    (∀ s after, PostedBalance s →
      Run (step tolerance) (fun _ operation => ValidatedOperation operation) s after →
      PostedBalance after ∧ postedDebits after = postedCredits after) := by
  constructor
  · intro env s req validated success
    rcases validated_postTransaction tolerance env s validated with
      ⟨unsuccessful, _⟩ | ⟨posted, _, found, nowPosted, balance⟩
    · rw [unsuccessful] at success
      cases success
    · exact ⟨posted, found, nowPosted, balance⟩
  · intro s after balanced run
    have kept : PostedBalance after := run.invariant balanced
      (fun _ _ validated balanced => step_postedBalance validated balanced)
    exact ⟨kept, kept.totals⟩

/-- The sample posting is validated, succeeds and is a run of one step. -/
theorem validated_postings_balance_rent :
    (∃ posted, (postTransaction (1 / 100) { now := Time.zero } rentLedger
        rentPosting).ledger.transactions.get? 1 = some posted ∧
      posted.transactionStatus = .posted ∧ EntriesBalance posted) ∧
    postedDebits (step (1 / 100) rentLedger (.post { now := Time.zero } rentPosting)) =
      postedCredits (step (1 / 100) rentLedger (.post { now := Time.zero } rentPosting)) := by
  obtain ⟨stored, runs⟩ := validated_postings_balance (1 / 100)
  constructor
  · exact stored { now := Time.zero } rentLedger rentPosting ⟨rfl, rfl⟩ (by decide +kernel)
  · have validated : ValidatedOperation (.post { now := Time.zero } rentPosting) := ⟨rfl, rfl⟩
    exact (runs rentLedger _ (by decide +kernel) (.tail _ .refl validated)).2

/-- The sample transaction with one cent too much on the debit line under the same header. -/
def driftingRent : Transaction :=
  { approvedRent with
    entries := [Transaction.rentEntry 1 11 (10001 / 100) 0, Transaction.rentEntry 2 12 0 100] }

def driftingLedger : Ledger where
  transactions := ⟨[driftingRent], by decide⟩
  accounts := rentLedger.accounts

/-- Posted without validation, it succeeds and leaves one cent between the posted totals. -/
theorem unvalidated_posting_drifts :
    PostedBalance driftingLedger ∧
      (postTransaction (1 / 100) { now := Time.zero } driftingLedger
        { transactionID := 1, postedBy := 23 }).result.success = true ∧
      postedDebits (postTransaction (1 / 100) { now := Time.zero } driftingLedger
        { transactionID := 1, postedBy := 23 }).ledger ≠
        postedCredits (postTransaction (1 / 100) { now := Time.zero } driftingLedger
          { transactionID := 1, postedBy := 23 }).ledger := by
  refine ⟨?_, ?_, ?_⟩ <;> decide +kernel

end PostingEngine

end ErpFinance.Service
