import ErpFinance.Library.Journal
import ErpFinance.Service.PostingEngine
import Mathlib.Tactic.Ring

/-!
# Account balances under posting

What the posting engine keeps true of the account balances.  A balance matches
when it is the opening balance plus the signed entries of the transactions
stored as posted.  Each operation either leaves the posted set and the balances
alone or moves both by the same entries, as long as it does not post with the
balance updates skipped and is not interrupted between its writes.
-/

namespace ErpFinance.Service

open Domain Library

/-! ## Signed amounts -/

def entryNet (e : TransactionEntry) : Decimal := e.debitAmount - e.creditAmount

/-- The net debit of a list of entries on one account. -/
abbrev netOn (entries : List TransactionEntry) (id : Uuid) : Decimal :=
  landed TransactionEntry.accountID entryNet entries id

def signed (normal : NormalBalance) (amount : Decimal) : Decimal :=
  if normal = .debit then amount else -amount

theorem signed_add (normal : NormalBalance) (first second : Decimal) :
    signed normal (first + second) = signed normal first + signed normal second := by
  unfold signed
  split
  · rfl
  · ring

@[simp] theorem signed_zero (normal : NormalBalance) : signed normal 0 = 0 := by
  simp [signed]

theorem signed_neg (normal : NormalBalance) (amount : Decimal) :
    signed normal (-amount) = -signed normal amount := by
  unfold signed
  split <;> rfl

/-- An entry's amount on an account: debit minus credit for `DEBIT`, else credit minus debit. -/
def signedAmount (normal : NormalBalance) (e : TransactionEntry) : Decimal :=
  if normal = .debit then e.debitAmount - e.creditAmount else e.creditAmount - e.debitAmount

theorem landed_signedAmount (normal : NormalBalance) (entries : List TransactionEntry)
    (id : Uuid) :
    landed TransactionEntry.accountID (signedAmount normal) entries id =
      signed normal (netOn entries id) := by
  by_cases debit : normal = .debit
  · have weights : ∀ e ∈ entries, signedAmount normal e = entryNet e := by
      intro e _
      simp [signedAmount, debit, entryNet]
    rw [signed, if_pos debit]
    exact landed_congr weights id
  · have weights : ∀ e ∈ entries, signedAmount normal e = -entryNet e := by
      intro e _
      simp [signedAmount, debit, entryNet]
    rw [signed, if_neg debit, ← landed_neg]
    exact landed_congr weights id

/--
An entry whose posted amount is debit minus credit: one positive side and a
zero on the other, or no positive side and equal amounts.
-/
def Unambiguous (e : TransactionEntry) : Prop :=
  (0 < e.debitAmount ∧ e.creditAmount = 0) ∨ (e.debitAmount = 0 ∧ 0 < e.creditAmount) ∨
    (e.debitAmount ≤ 0 ∧ e.creditAmount ≤ 0 ∧ e.debitAmount = e.creditAmount)

namespace PostingEngine

theorem newBalance_postingChange {e : TransactionEntry} (plain : Unambiguous e)
    (normal : NormalBalance) (previous : Decimal) :
    newBalance normal previous (postingChange e) = previous + signed normal (entryNet e) := by
  unfold signed entryNet
  rcases plain with ⟨debitPos, creditZero⟩ | ⟨debitZero, creditPos⟩ | ⟨debitNeg, creditNeg, same⟩
  · rw [postingChange, if_pos debitPos, newBalance, creditZero]
    split <;> ring
  · rw [postingChange, if_neg (by simp [debitZero]), if_pos creditPos, newBalance, debitZero]
    split <;> ring
  · rw [postingChange, if_neg (not_lt.mpr debitNeg), if_neg (not_lt.mpr creditNeg), newBalance,
      same]
    split <;> ring

/-- Reversing moves it back by the same amount. -/
theorem newBalance_reversingChange {e : TransactionEntry} (plain : Unambiguous e)
    (normal : NormalBalance) (previous : Decimal) :
    newBalance normal previous (reversingChange e) =
      previous + signed normal (-entryNet e) := by
  unfold signed entryNet
  rcases plain with ⟨debitPos, creditZero⟩ | ⟨debitZero, creditPos⟩ | ⟨debitNeg, creditNeg, same⟩
  · rw [reversingChange, if_pos debitPos, newBalance, creditZero]
    split <;> ring
  · rw [reversingChange, if_neg (by simp [debitZero]), if_pos creditPos, newBalance, debitZero]
    split <;> ring
  · rw [reversingChange, if_neg (not_lt.mpr debitNeg), if_neg (not_lt.mpr creditNeg),
      newBalance, same]
    split <;> ring

/-! ## The balance loop -/

def moved (amount : Decimal) (a : Accounts) : Accounts :=
  { a with currentBalance := a.currentBalance + signed a.normalBalance amount }

theorem moved_zero (a : Accounts) : moved 0 a = a := by
  simp [moved]

theorem moved_moved (first second : Decimal) (a : Accounts) :
    moved second (moved first a) = moved (first + second) a := by
  simp [moved, signed_add, add_assoc]

/-- Every account of the entries exists and no call of the balance phase fails. -/
def Undisturbed (accounts : Table Accounts) (faults : List Bool)
    (entries : List TransactionEntry) : Prop :=
  (∀ e ∈ entries, (accounts.get? e.accountID).isSome = true) ∧ ∀ fault ∈ faults, fault = false

/-- The balance phase stops before its first write. -/
def StopsFirst (accounts : Table Accounts) (faults : List Bool) :
    List TransactionEntry → Prop
  | [] => False
  | e :: _ => accounts.get? e.accountID = none ∨ faults.headD false = true ∨
      faults.tail.headD false = true

variable {faults : List Bool}

theorem headD_eq_false (quiet : ∀ fault ∈ faults, fault = false) :
    faults.headD false = false := by
  cases faults with
  | nil => rfl
  | cons fault rest => exact quiet fault (by simp)

theorem changeBalances_stopsFirst (change : TransactionEntry → Decimal × BalanceUpdateType)
    (failure : String) (reported : Decimal → Decimal) (updates : List AccountBalanceUpdate)
    {accounts : Table Accounts} {entries : List TransactionEntry}
    (stops : StopsFirst accounts faults entries) :
    ∃ err, changeBalances change failure reported accounts faults entries updates =
      (accounts, .error err) := by
  cases entries with
  | nil => exact stops.elim
  | cons e rest =>
    rw [changeBalances]
    cases headFault : faults.headD false with
    | true => exact ⟨_, rfl⟩
    | false =>
      cases found : accounts.get? e.accountID with
      | none =>
        simp only [getByID, found]
        exact ⟨_, rfl⟩
      | some a =>
        rcases stops with missing | first | second
        · simp [found] at missing
        · rw [headFault] at first
          cases first
        · simp only [getByID, found, second]
          exact ⟨_, rfl⟩

/-- An undisturbed loop moves every account by what lands on it and succeeds. -/
theorem changeBalances_undisturbed {change : TransactionEntry → Decimal × BalanceUpdateType}
    (failure : String) (reported : Decimal → Decimal) (updates : List AccountBalanceUpdate)
    {delta : TransactionEntry → Decimal} {entries : List TransactionEntry}
    (moves : ∀ e ∈ entries, ∀ normal previous, newBalance normal previous (change e) = previous +
      signed normal (delta e))
    {accounts : Table Accounts} (undisturbed : Undisturbed accounts faults entries) :
    ∃ after reports,
      changeBalances change failure reported accounts faults entries updates =
        (after, .ok reports) ∧
      ∀ id, after.get? id =
        (accounts.get? id).map (moved (landed TransactionEntry.accountID delta entries id)) := by
  induction entries generalizing accounts faults updates with
  | nil =>
    refine ⟨accounts, updates, rfl, ?_⟩
    intro id
    simp [Option.map_congr (fun a _ => moved_zero a)]
  | cons e rest ih =>
    obtain ⟨exist, quiet⟩ := undisturbed
    obtain ⟨a, found⟩ := Option.isSome_iff_exists.mp (exist e (by simp))
    have aKey : a.id = e.accountID := Table.key_of_get? found
    have quietTail : ∀ fault ∈ faults.tail, fault = false :=
      fun fault member => quiet fault (List.mem_of_mem_tail member)
    have written : { a with
        currentBalance := newBalance a.normalBalance a.currentBalance (change e) } =
        moved (delta e) a := by
      rw [moves e (by simp)]
      rfl
    have existRest : ∀ other ∈ rest,
        ((accounts.put (moved (delta e) a)).get? other.accountID).isSome = true := by
      intro other member
      rw [Table.get?_put_isSome]
      exact exist other (by simp [member])
    have quietRest : ∀ fault ∈ faults.tail.tail, fault = false :=
      fun fault member => quietTail fault (List.mem_of_mem_tail member)
    obtain ⟨after, reports, ran, looked⟩ :=
      ih _ (fun other member => moves other (by simp [member])) ⟨existRest, quietRest⟩
    refine ⟨after, reports, ?_, ?_⟩
    · rw [changeBalances, getByID, headD_eq_false quiet, found]
      simp only [Bool.false_eq_true, if_false, headD_eq_false quietTail, written]
      exact ran
    · intro id
      have movedKey : Keyed.key (moved (delta e) a) = e.accountID := aKey
      rw [looked id, Table.get?_put, movedKey, landed_cons]
      by_cases here : id = e.accountID
      · subst here
        simp [found, moved_moved]
      · simp [here, Ne.symm here]

end PostingEngine

/-! ## Matching balances -/

/-- What a stored transaction adds to an account: its signed entries there, when posted. -/
def postedAmount (normal : NormalBalance) (id : Uuid) (t : Transaction) : Decimal :=
  if t.transactionStatus = .posted then
    landed TransactionEntry.accountID (signedAmount normal) t.entries id
  else 0

/-- Every balance is its opening plus the signed entries of the posted transactions. -/
def BalancesMatch (opening : Uuid → Decimal) (s : Ledger) : Prop :=
  ∀ a ∈ s.accounts.rows,
    a.currentBalance = opening a.id + s.transactions.sum (postedAmount a.normalBalance a.id)

instance (opening : Uuid → Decimal) (s : Ledger) : Decidable (BalancesMatch opening s) :=
  inferInstanceAs (Decidable (∀ a ∈ s.accounts.rows, _))

def NetsToZero (entries : List TransactionEntry) : Prop :=
  ∀ id, netOn entries id = 0

theorem postedAmount_of_posted {normal : NormalBalance} {id : Uuid} {t : Transaction}
    (posted : t.transactionStatus = .posted) :
    postedAmount normal id t = signed normal (netOn t.entries id) := by
  rw [postedAmount, if_pos posted, landed_signedAmount]

theorem postedAmount_of_not_posted {normal : NormalBalance} {id : Uuid} {t : Transaction}
    (notPosted : t.transactionStatus ≠ .posted) : postedAmount normal id t = 0 :=
  if_neg notPosted

theorem BalancesMatch.of_same_accounts {opening : Uuid → Decimal} {s : Ledger}
    {accounts : Table Accounts} (isMatch : BalancesMatch opening s)
    (same : ∀ id, accounts.get? id = s.accounts.get? id) :
    BalancesMatch opening { s with accounts := accounts } := by
  intro a member
  have stored : s.accounts.get? a.id = some a := by
    rw [← same]
    exact Table.get?_key_of_mem member
  exact isMatch a (Table.mem_of_get? stored)

namespace PostingEngine

theorem balancesMatch_move {opening : Uuid → Decimal} {s : Ledger} {old new : Transaction}
    {accounts : Table Accounts} {amount : Uuid → Decimal}
    (isMatch : BalancesMatch opening s)
    (found : s.transactions.get? new.id = some old)
    (looked : ∀ id, accounts.get? id = (s.accounts.get? id).map (moved (amount id)))
    (difference : ∀ normal id, postedAmount normal id new - postedAmount normal id old =
      signed normal (amount id)) :
    BalancesMatch opening { transactions := s.transactions.put new, accounts := accounts } := by
  intro b member
  have lookedB := looked b.id
  rw [show accounts.get? b.id = some b from Table.get?_key_of_mem member] at lookedB
  obtain ⟨a, foundA, movedA⟩ := Option.map_eq_some_iff.mp lookedB.symm
  have before := isMatch a (Table.mem_of_get? foundA)
  have aId : a.id = b.id := Table.key_of_get? foundA
  have sameNormal : a.normalBalance = b.normalBalance := by
    simpa [moved] using congrArg Accounts.normalBalance movedA
  have balance : a.currentBalance + signed a.normalBalance (amount b.id) = b.currentBalance := by
    simpa [moved] using congrArg Accounts.currentBalance movedA
  have summed := Table.sum_put (postedAmount a.normalBalance a.id) found
  show b.currentBalance = opening b.id + _
  rw [← balance, ← sameNormal, before, ← aId, summed, difference, add_assoc]

variable {t : Transaction}

/-- Only an approved transaction may move to `POSTED`. -/
theorem approved_of_canTransitionTo_posted (allowed : t.canTransitionTo .posted = none) :
    t.transactionStatus = .approved := by
  unfold Transaction.canTransitionTo at allowed
  cases source : t.transactionStatus with
  | approved => rfl
  | _ => simp [source, transactionStatusTransitions] at allowed

/-! ## What one posting does -/

theorem getByID_ok {ρ : Type} [Keyed ρ Uuid] {table : Table ρ} {notFound : String}
    {fails : Bool} {id : Uuid} {row : ρ} (read : getByID table notFound fails id = .ok row) :
    table.get? id = some row := by
  unfold getByID at read
  cases fails with
  | true => simp at read
  | false =>
    cases found : table.get? id with
    | none => simp [found] at read
    | some other => simpa [found] using read

structure Accepted (tolerance : Decimal) (env : PostingEnv) (s : Ledger)
    (req : PostTransactionRequest) (t : Transaction) (result : PostTransactionResult) : Prop where
  found : getByID s.transactions "transaction not found" env.faults.retrieve
    req.transactionID = .ok t
  gate : validationGate tolerance env s.accounts req t = .ok result
  allowed : t.canTransitionTo .posted = none

theorem success_of_validationGate_ok {tolerance : Decimal} {env : PostingEnv}
    {accounts : Table Accounts} {req : PostTransactionRequest} {result : PostTransactionResult}
    (gate : validationGate tolerance env accounts req t = .ok result) :
    result.success = false := by
  unfold validationGate at gate
  split at gate
  · cases gate
    rfl
  · split at gate
    · cases gate
    · dsimp only at gate
      split at gate
      · cases gate
      · cases gate
        rfl

theorem success_of_validationGate_error {tolerance : Decimal} {env : PostingEnv}
    {accounts : Table Accounts} {req : PostTransactionRequest}
    {refused : PostTransactionResult × String}
    (gate : validationGate tolerance env accounts req t = .error refused) :
    refused.1.success = false := by
  unfold validationGate at gate
  split at gate
  · cases gate
  · split at gate
    · cases gate
      rfl
    · dsimp only at gate
      split at gate
      · cases gate
        rfl
      · cases gate

theorem postTransaction_cases (tolerance : Decimal) (env : PostingEnv) (s : Ledger)
    (req : PostTransactionRequest) :
    (∃ result err, postTransaction tolerance env s req =
        { ledger := s, result := result, err := some err } ∧ result.success = false) ∨
    (∃ t posted result, Accepted tolerance env s req t result ∧ posted.id = t.id ∧
      posted.entries = t.entries ∧ posted.transactionStatus = .posted ∧
      postTransaction tolerance env s req = commitPosting env s req posted result) := by
  unfold postTransaction
  cases found : getByID s.transactions "transaction not found" env.faults.retrieve
      req.transactionID with
  | error err => exact Or.inl ⟨_, _, rfl, rfl⟩
  | ok t =>
    dsimp only
    cases gate : validationGate tolerance env s.accounts req t with
    | error refused =>
      exact Or.inl ⟨_, _, rfl, success_of_validationGate_error gate⟩
    | ok result =>
      dsimp only
      cases transition : t.post req.postedBy env.now with
      | error err =>
        have unsuccessful : result.success = false := success_of_validationGate_ok gate
        exact Or.inl ⟨_, _, rfl, unsuccessful⟩
      | ok after =>
        obtain ⟨allowed, applied⟩ := Transaction.transitionTo_eq_ok_iff.mp transition
        refine Or.inr ⟨t, { after with postingDate := some (req.postingDate.getD env.now) },
          result, ⟨found, gate, allowed⟩, ?_, ?_, ?_, rfl⟩
        · rw [← applied]
          rfl
        · rw [← applied]
          rfl
        · rw [← applied]
          rfl

/-! ## The guard of a step -/

/--
The balance phase of an operation either stops before its first write, or runs
through over unambiguous entries and, unless they net to zero everywhere, is
followed by a save that does not fail.
-/
def BalancePhaseSafe (accounts : Table Accounts) (faults : Faults)
    (entries : List TransactionEntry) : Prop :=
  StopsFirst accounts faults.balances entries ∨
    (Undisturbed accounts faults.balances entries ∧ (∀ e ∈ entries, Unambiguous e) ∧
      (faults.save = true → NetsToZero entries))

def PostGuard (tolerance : Decimal) (env : PostingEnv) (s : Ledger)
    (req : PostTransactionRequest) : Prop :=
  ∀ t result, Accepted tolerance env s req t result →
    if req.skipBalanceUpdate then env.faults.save = true ∨ NetsToZero t.entries
    else BalancePhaseSafe s.accounts env.faults t.entries

def UnpostGuard (env : PostingEnv) (s : Ledger) (req : UnpostTransactionRequest) : Prop :=
  ∀ t, getByID s.transactions "transaction not found" env.faults.retrieve req.transactionID =
      .ok t → t.transactionStatus = .posted →
    BalancePhaseSafe s.accounts env.faults t.entries

/-- Every posting a batch makes meets the guard of a posting in the ledger it finds. -/
def BatchGuard (tolerance : Decimal) (envs : Nat → PostingEnv) (req : BatchPostRequest) :
    Nat → List Uuid → Ledger → Prop
  | _, [], _ => True
  | index, id :: rest, s =>
    PostGuard tolerance (envs index) s (req.postRequest id) ∧
      let out := postTransaction tolerance (envs index) s (req.postRequest id)
      (out.err = none ∨ req.continueOnError = true →
        BatchGuard tolerance envs req (index + 1) rest out.ledger)

def Guard (tolerance : Decimal) (s : Ledger) : Operation → Prop
  | .post env req => PostGuard tolerance env s req
  | .unpost env req => UnpostGuard env s req
  | .batch envs req => BatchGuard tolerance envs req 0 req.transactionIDs s

section Steps

variable {opening : Uuid → Decimal} {s : Ledger}

/--
A safe balance phase either fails with the accounts as they were, or moves each
account by what the entries put there; before a failing save it moves nothing.
-/
theorem changeBalances_safe {change : TransactionEntry → Decimal × BalanceUpdateType}
    (failure : String) (reported : Decimal → Decimal) (updates : List AccountBalanceUpdate)
    {delta : TransactionEntry → Decimal} {entries : List TransactionEntry}
    (moves : ∀ e, Unambiguous e → ∀ normal previous,
      newBalance normal previous (change e) = previous + signed normal (delta e))
    (vanishes : NetsToZero entries →
      ∀ id, landed TransactionEntry.accountID delta entries id = 0)
    {accounts : Table Accounts} {faults : Faults}
    (safe : BalancePhaseSafe accounts faults entries) :
    (∃ err, changeBalances change failure reported accounts faults.balances entries updates =
        (accounts, .error err)) ∨
    (∃ after reports,
      changeBalances change failure reported accounts faults.balances entries updates =
        (after, .ok reports) ∧
      (∀ id, after.get? id =
        (accounts.get? id).map (moved (landed TransactionEntry.accountID delta entries id))) ∧
      (faults.save = true → ∀ id, after.get? id = accounts.get? id)) := by
  rcases safe with stops | ⟨undisturbed, plain, saved⟩
  · exact Or.inl (changeBalances_stopsFirst change failure reported updates stops)
  · obtain ⟨after, reports, ran, looked⟩ := changeBalances_undisturbed failure reported updates
      (fun e member => moves e (plain e member)) undisturbed
    refine Or.inr ⟨after, reports, ran, looked, ?_⟩
    intro save id
    rw [looked id, vanishes (saved save) id]
    simp [Option.map_congr (fun a _ => moved_zero a)]

variable {env : PostingEnv}

theorem commitPosting_keeps {req : PostTransactionRequest} {old posted : Transaction}
    {result : PostTransactionResult} (isMatch : BalancesMatch opening s)
    (found : s.transactions.get? posted.id = some old) (notPosted : old.transactionStatus ≠ .posted)
    (nowPosted : posted.transactionStatus = .posted)
    (guard : if req.skipBalanceUpdate then env.faults.save = true ∨ NetsToZero posted.entries else
      BalancePhaseSafe s.accounts env.faults posted.entries) :
    BalancesMatch opening (commitPosting env s req posted result).ledger := by
  have difference : ∀ normal id, postedAmount normal id posted - postedAmount normal id old =
      signed normal (netOn posted.entries id) := by
    intro normal id
    rw [postedAmount_of_posted nowPosted, postedAmount_of_not_posted notPosted, sub_zero]
  unfold commitPosting
  cases skip : req.skipBalanceUpdate with
  | true =>
    simp only [skip, if_true] at guard ⊢
    cases save : env.faults.save with
    | true => exact isMatch
    | false =>
      have zero : NetsToZero posted.entries := by simpa [save] using guard
      refine balancesMatch_move isMatch found ?_ difference
      intro id
      simp [zero id, Option.map_congr (fun a _ => moved_zero a)]
  | false =>
    simp only [skip, Bool.false_eq_true, if_false, updateAccountBalances] at guard ⊢
    rcases changeBalances_safe "failed to update account balance for " id []
      (fun e plain => newBalance_postingChange plain) (fun zero => zero) guard with
      ⟨err, ran⟩ | ⟨after, reports, ran, looked, unsaved⟩
    · rw [ran]
      exact isMatch
    · rw [ran]
      cases save : env.faults.save with
      | true => exact isMatch.of_same_accounts (unsaved save)
      | false => exact balancesMatch_move isMatch found looked difference

variable {tolerance : Decimal}

theorem postTransaction_keeps {req : PostTransactionRequest} (isMatch : BalancesMatch opening s)
    (guard : PostGuard tolerance env s req) :
    BalancesMatch opening (postTransaction tolerance env s req).ledger := by
  rcases postTransaction_cases tolerance env s req with
    ⟨result, err, stopped, _⟩ | ⟨t, posted, result, accepted, sameId, sameEntries, nowPosted, ran⟩
  · rw [stopped]
    exact isMatch
  · rw [ran]
    have stored := getByID_ok accepted.found
    have found : s.transactions.get? posted.id = some t := by
      rw [sameId, show t.id = req.transactionID from Table.key_of_get? stored]
      exact stored
    have notPosted : t.transactionStatus ≠ .posted := by
      rw [approved_of_canTransitionTo_posted accepted.allowed]
      decide
    have entriesGuard := guard t result accepted
    rw [← sameEntries] at entriesGuard
    exact commitPosting_keeps isMatch found notPosted nowPosted entriesGuard

theorem unpostTransaction_keeps {req : UnpostTransactionRequest} (isMatch : BalancesMatch opening s)
    (guard : UnpostGuard env s req) :
    BalancesMatch opening (unpostTransaction env s req).ledger := by
  unfold unpostTransaction
  cases found : getByID s.transactions "transaction not found" env.faults.retrieve
      req.transactionID with
  | error err => exact isMatch
  | ok t =>
    dsimp only
    by_cases isPosted : t.transactionStatus = .posted
    · rw [if_neg (not_not.mpr isPosted)]
      have stored := getByID_ok found
      have tKey : t.id = req.transactionID := Table.key_of_get? stored
      rw [← tKey] at stored
      have vanishes : NetsToZero t.entries →
          ∀ id, landed TransactionEntry.accountID (fun e => -entryNet e) t.entries id = 0 := by
        intro zero id
        rw [landed_neg, show landed _ entryNet t.entries id = 0 from zero id, neg_zero]
      rcases changeBalances_safe "failed to reverse account balance for " Neg.neg []
        (fun e plain => newBalance_reversingChange plain) vanishes (guard t found isPosted) with
        ⟨err, ran⟩ | ⟨after, reports, ran, looked, unsaved⟩
      · rw [reverseAccountBalances, ran]
        exact isMatch
      · rw [reverseAccountBalances, ran]
        cases save : env.faults.save with
        | true => exact isMatch.of_same_accounts (unsaved save)
        | false =>
          refine balancesMatch_move isMatch stored looked ?_
          intro normal id
          rw [postedAmount_of_posted isPosted, postedAmount_of_not_posted (by simp),
            landed_neg, signed_neg, zero_sub]
    · rw [if_pos isPosted]
      exact isMatch

theorem batchLoop_keeps {envs : Nat → PostingEnv} {req : BatchPostRequest} {index : Nat}
    {ids : List Uuid} {result : BatchPostResult} (isMatch : BalancesMatch opening s)
    (guard : BatchGuard tolerance envs req index ids s) :
    BalancesMatch opening (batchLoop tolerance envs req index ids s result).1 := by
  induction ids generalizing index s result with
  | nil => exact isMatch
  | cons id rest ih =>
    obtain ⟨first, later⟩ := guard
    have kept := postTransaction_keeps isMatch first
    unfold batchLoop
    dsimp only
    split
    · exact kept
    · rename_i continues
      have goesOn : (postTransaction tolerance (envs index) s (req.postRequest id)).err = none ∨
          req.continueOnError = true := by
        cases errEq : (postTransaction tolerance (envs index) s (req.postRequest id)).err with
        | none => exact Or.inl rfl
        | some err => exact Or.inr (by simpa [errEq] using continues)
      split
      · exact ih kept (later goesOn)
      · split
        · exact kept
        · exact ih kept (later goesOn)

theorem step_keeps {operation : Operation} (isMatch : BalancesMatch opening s)
    (guard : Guard tolerance s operation) :
    BalancesMatch opening (step tolerance s operation) := by
  cases operation with
  | post env req => exact postTransaction_keeps isMatch guard
  | unpost env req => exact unpostTransaction_keeps isMatch guard
  | batch envs req => exact batchLoop_keeps isMatch guard

end Steps

/--
In every run of guarded engine operations, every account's balance is its
opening balance plus the signed entries of exactly the transactions stored as
posted.
-/
theorem run_balancesMatch {tolerance : Decimal} {opening : Uuid → Decimal} {s after : Ledger}
    (isMatch : BalancesMatch opening s)
    (run : Run (step tolerance) (Guard tolerance) s after) : BalancesMatch opening after :=
  run.invariant isMatch (fun _ _ guard isMatch => step_keeps isMatch guard)

/-! ## A sample ledger -/

def expenseAccount : Accounts :=
  { id := 11, tenantID := 7, accountName := "Rent", accountType := "Operating Expense",
    normalBalance := .debit, isActive := true, allowManualEntries := true, status := .active,
    validationStatus := .valid }

def payableAccount : Accounts :=
  { id := 12, tenantID := 7, accountName := "Payables", accountType := "Current Liability",
    normalBalance := .credit, isActive := true, allowManualEntries := true, status := .active,
    validationStatus := .valid }

/-- The sample transaction, approved and ready to be posted. -/
def approvedRent : Transaction :=
  { Transaction.rentDraft with transactionStatus := .approved, approvedBy := some 22 }

def rentLedger : Ledger where
  transactions := ⟨[approvedRent], by decide⟩
  accounts := ⟨[expenseAccount, payableAccount], by decide⟩

def rentPosting : PostTransactionRequest :=
  { transactionID := 1, postedBy := 23, validateBeforePosting := true }

theorem guard_rentPosting {s : Ledger} (stored : s.transactions.get? 1 = some approvedRent)
    (expense : (s.accounts.get? 11).isSome = true) (other : (s.accounts.get? 12).isSome = true) :
    Guard (1 / 100) s (.post { now := Time.zero } rentPosting) := by
  intro t result accepted
  have same : some approvedRent = some t := stored.symm.trans (getByID_ok accepted.found)
  cases same
  refine Or.inr ⟨⟨?_, by simp⟩, ?_, nofun⟩
  · intro e member
    rcases List.mem_pair.mp member with rfl | rfl
    · exact expense
    · exact other
  · intro e member
    rcases List.mem_pair.mp member with rfl | rfl
    · exact Or.inl ⟨by decide +kernel, rfl⟩
    · exact Or.inr (Or.inl ⟨rfl, by decide +kernel⟩)

/-- Posting the sample transaction with its balances is a guarded run. -/
theorem run_balancesMatch_rent :
    BalancesMatch (fun _ => 0)
      (step (1 / 100) rentLedger (.post { now := Time.zero } rentPosting)) := by
  have isMatch : BalancesMatch (fun _ => 0) rentLedger := by decide +kernel
  have guard : Guard (1 / 100) rentLedger (.post { now := Time.zero } rentPosting) :=
    guard_rentPosting (by decide +kernel) (by decide +kernel) (by decide +kernel)
  exact run_balancesMatch isMatch (.tail _ .refl guard)

/-- A batch of the same transaction succeeds and leaves both balances behind. -/
theorem batch_leaves_balances_behind :
    BalancesMatch (fun _ => 0) rentLedger ∧
      (batchPostTransactions (1 / 100) (fun _ => { now := Time.zero }) rentLedger
        { transactionIDs := [1], postedBy := 23 }).2.successfulPosts = 1 ∧
      ¬ BalancesMatch (fun _ => 0) (step (1 / 100) rentLedger
        (.batch (fun _ => { now := Time.zero }) { transactionIDs := [1], postedBy := 23 })) := by
  refine ⟨?_, ?_, ?_⟩ <;> decide +kernel

end PostingEngine

end ErpFinance.Service
