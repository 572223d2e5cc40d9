import ErpFinance.Service.AccountBalances

/-!
# Failed postings

What a posting that returns an error leaves behind.  The balances of the
entries are written one at a time before the transaction, and nothing takes
them back, so the ledger is as it was exactly when what was written until the
failure moves no account.
-/

namespace ErpFinance.Service.PostingEngine

open Domain Library

def postingNet (e : TransactionEntry) : Decimal :=
  if 0 < e.debitAmount then e.debitAmount
  else if 0 < e.creditAmount then -e.creditAmount
  else 0

theorem newBalance_eq (e : TransactionEntry) (normal : NormalBalance) (previous : Decimal) :
    newBalance normal previous (postingChange e) = previous + signed normal (postingNet e) := by
  rw [postingChange, postingNet, signed]
  by_cases debit : 0 < e.debitAmount
  · rw [if_pos debit, if_pos debit, newBalance]
    split <;> ring
  · rw [if_neg debit, if_neg debit]
    by_cases credit : 0 < e.creditAmount
    · rw [if_pos credit, if_pos credit, newBalance]
      split <;> ring
    · rw [if_neg credit, if_neg credit, newBalance]
      split <;> ring

/-- The entries whose balances are written before a call of the balance phase fails. -/
def written (accounts : Table Accounts) : List Bool → List TransactionEntry →
    List TransactionEntry
  | _, [] => []
  | faults, e :: rest =>
    if accounts.get? e.accountID = none ∨ faults.headD false = true ∨
      faults.tail.headD false = true then []
    else e :: written accounts faults.tail.tail rest

/-- Writing a balance keeps which accounts there are. -/
theorem written_put {accounts : Table Accounts} (a : Accounts) (faults : List Bool)
    (entries : List TransactionEntry) :
    written (accounts.put a) faults entries = written accounts faults entries := by
  have missing : ∀ id, (accounts.put a).get? id = none ↔ accounts.get? id = none := by
    intro id
    rw [← Option.not_isSome_iff_eq_none, Table.get?_put_isSome, Option.not_isSome_iff_eq_none]
  induction entries generalizing faults with
  | nil => rfl
  | cons e rest ih => simp only [written, missing, ih]

theorem changeBalances_written (failure : String) (reported : Decimal → Decimal)
    (entries : List TransactionEntry) (accounts : Table Accounts) (faults : List Bool)
    (updates : List AccountBalanceUpdate) :
    (∀ id, (changeBalances postingChange failure reported accounts faults entries
        updates).1.get? id =
      (accounts.get? id).map (moved (landed TransactionEntry.accountID postingNet
        (written accounts faults entries) id))) ∧
    ((∃ reports, (changeBalances postingChange failure reported accounts faults entries
        updates).2 = .ok reports) ↔ written accounts faults entries = entries) := by
  induction entries generalizing accounts faults updates with
  | nil =>
    refine ⟨fun id => ?_, iff_of_true ⟨updates, rfl⟩ rfl⟩
    simp [changeBalances, written, Option.map_congr (fun a _ => moved_zero a)]
  | cons e rest ih =>
    by_cases stops : accounts.get? e.accountID = none ∨ faults.headD false = true ∨
      faults.tail.headD false = true
    · have before : StopsFirst accounts faults (e :: rest) := stops
      obtain ⟨err, ran⟩ :=
        changeBalances_stopsFirst postingChange failure reported updates before
      rw [ran, written, if_pos stops]
      refine ⟨fun id => ?_, iff_of_false ?_ (List.cons_ne_nil _ _).symm⟩
      · simp [Option.map_congr (fun a _ => moved_zero a)]
      · rintro ⟨reports, failed⟩
        cases failed
    · rw [written, if_neg stops]
      push Not at stops
      obtain ⟨known, read, write⟩ := stops
      obtain ⟨a, found⟩ := Option.ne_none_iff_exists'.mp known
      have aKey : a.id = e.accountID := Table.key_of_get? found
      have moves : { a with
          currentBalance := newBalance a.normalBalance a.currentBalance (postingChange e) } =
          moved (postingNet e) a := by
        rw [newBalance_eq]
        rfl
      rw [changeBalances, getByID, Bool.eq_false_of_not_eq_true read, found]
      simp only [Bool.false_eq_true, if_false, Bool.eq_false_of_not_eq_true write, moves]
      obtain ⟨looked, complete⟩ :=
        ih (accounts.put (moved (postingNet e) a)) faults.tail.tail _
      rw [written_put] at complete
      refine ⟨fun id => ?_, complete.trans ?_⟩
      · have movedKey : Keyed.key (moved (postingNet e) a) = e.accountID := aKey
        rw [looked id, written_put, Table.get?_put, movedKey, landed_cons]
        by_cases here : id = e.accountID
        · subst here
          simp [found, moved_moved]
        · simp [here, Ne.symm here]
      · rw [List.cons.injEq, and_iff_right rfl]

/-! ## Failed postings -/

def Atomic (s : Ledger) (out : PostOutcome) : Prop :=
  out.err ≠ none → (∀ id, out.ledger.accounts.get? id = s.accounts.get? id) ∧
    ∀ id, out.ledger.transactions.get? id = s.transactions.get? id

theorem signed_eq_zero_iff {normal : NormalBalance} {amount : Decimal} :
    signed normal amount = 0 ↔ amount = 0 := by
  rw [signed]
  split
  · rfl
  · exact neg_eq_zero

theorem moved_eq_self_iff {amount : Decimal} {a : Accounts} : moved amount a = a ↔ amount = 0 := by
  constructor
  · intro same
    have balance : a.currentBalance + signed a.normalBalance amount = a.currentBalance :=
      congrArg Accounts.currentBalance same
    exact signed_eq_zero_iff.mp (add_eq_left.mp balance)
  · rintro rfl
    exact moved_zero a

/-- Accounts are as they were when nothing lands on any of them. -/
theorem map_moved_eq_iff {accounts : Table Accounts} {amount : Uuid → Decimal} :
    (∀ id, (accounts.get? id).map (moved (amount id)) = accounts.get? id) ↔
      ∀ id, accounts.get? id ≠ none → amount id = 0 := by
  refine forall_congr' fun id => ?_
  cases accounts.get? id with
  | none => simp
  | some a =>
    rw [Option.map_some, Option.some.injEq, moved_eq_self_iff]
    simp

/-- What a commit writes before it fails moves no account, or it does not fail. -/
def Harmless (env : PostingEnv) (s : Ledger) (req : PostTransactionRequest)
    (entries : List TransactionEntry) : Prop :=
  req.skipBalanceUpdate = true ∨
    (written s.accounts env.faults.balances entries = entries ∧ env.faults.save = false) ∨
    ∀ id, s.accounts.get? id ≠ none → landed TransactionEntry.accountID postingNet
      (written s.accounts env.faults.balances entries) id = 0

theorem commitPosting_atomic_iff {env : PostingEnv} {s : Ledger} {req : PostTransactionRequest}
    {posted : Transaction} {result : PostTransactionResult} :
    Atomic s (commitPosting env s req posted result) ↔ Harmless env s req posted.entries := by
  cases skip : req.skipBalanceUpdate with
  | true =>
    refine iff_of_true ?_ (.inl skip)
    intro failed
    rw [commitPosting, skip] at failed ⊢
    simp only [if_true] at failed ⊢
    split at failed
    · rename_i save
      rw [if_pos save]
      exact ⟨fun _ => rfl, fun _ => rfl⟩
    · exact absurd rfl failed
  | false =>
    have unskipped : Harmless env s req posted.entries ↔
        (written s.accounts env.faults.balances posted.entries = posted.entries ∧
          env.faults.save = false) ∨
        ∀ id, s.accounts.get? id ≠ none → landed TransactionEntry.accountID postingNet
          (written s.accounts env.faults.balances posted.entries) id = 0 := by
      rw [Harmless, skip]
      simp
    obtain ⟨looked, complete⟩ := changeBalances_written "failed to update account balance for "
      id posted.entries s.accounts env.faults.balances []
    rw [unskipped, ← map_moved_eq_iff, ← complete]
    simp only [← looked]
    rw [commitPosting, skip, updateAccountBalances]
    rcases ran : changeBalances postingChange "failed to update account balance for " id
      s.accounts env.faults.balances posted.entries [] with ⟨after, err | reports⟩
    · simp [Atomic]
    · cases save : env.faults.save with
      | true => simp [Atomic]
      | false => simp [Atomic]

theorem postTransaction_of_accepted {tolerance : Decimal} {env : PostingEnv} {s : Ledger}
    {req : PostTransactionRequest} {t : Transaction} {result : PostTransactionResult}
    (accepted : Accepted tolerance env s req t result) :
    ∃ posted, posted.entries = t.entries ∧
      postTransaction tolerance env s req = commitPosting env s req posted result := by
  obtain ⟨after, moves, sameEntries⟩ :
      ∃ after, t.post req.postedBy env.now = .ok after ∧ after.entries = t.entries :=
    ⟨_, Transaction.transitionTo_eq_ok_iff.mpr ⟨accepted.allowed, rfl⟩, rfl⟩
  refine ⟨{ after with postingDate := some (req.postingDate.getD env.now) }, sameEntries, ?_⟩
  rw [postTransaction, accepted.found]
  simp only [accepted.gate, moves]

/--
A posting that fails leaves the accounts and the stored transaction as they were exactly when, of
a transaction that passes the checks, the balances are not updated, or all are and the transaction
is saved, or the entries written before the failure cancel out on every account.
-/
theorem postTransaction_atomic_iff {tolerance : Decimal} {env : PostingEnv} {s : Ledger}
    {req : PostTransactionRequest} :
    Atomic s (postTransaction tolerance env s req) ↔
      ∀ t result, Accepted tolerance env s req t result → Harmless env s req t.entries := by
  constructor
  · intro atomic t result accepted
    obtain ⟨posted, sameEntries, ran⟩ := postTransaction_of_accepted accepted
    rw [ran, commitPosting_atomic_iff, sameEntries] at atomic
    exact atomic
  · intro harmless
    rcases postTransaction_cases tolerance env s req with
      ⟨result, err, stopped, _⟩ | ⟨t, posted, result, accepted, -, sameEntries, -, ran⟩
    · rw [stopped]
      exact fun _ => ⟨fun _ => rfl, fun _ => rfl⟩
    · rw [ran, commitPosting_atomic_iff, sameEntries]
      exact harmless t result accepted

/-- The write of the second balance fails, and the first one stays. -/
theorem failed_write_keeps_first :
    ¬ Atomic rentLedger (postTransaction (1 / 100)
      { now := Time.zero, faults := { balances := [false, false, false, true] } } rentLedger
      rentPosting) := by
  intro atomic
  have failed : (postTransaction (1 / 100)
      { now := Time.zero, faults := { balances := [false, false, false, true] } } rentLedger
      rentPosting).err ≠ none := by decide +kernel
  have same := (atomic failed).1 11
  revert same
  decide +kernel

end ErpFinance.Service.PostingEngine
