import ErpFinance.Service.PostingAtomicity

/-!
# The preview of a posting

`PreviewPostingImpact` reports a balance for every entry, each computed from the
balance that the account has before the posting.  The posting carries the balance
from one entry of an account to the next.
-/

namespace ErpFinance.Service.PostingEngine

open Domain Library

/-! ## The preview -/

structure PostingImpactPreview where
  transactionID : Uuid
  expectedBalanceChanges : List AccountBalanceUpdate := []
  affectedAccounts : List Uuid := []
  validationResult : PostingValidationResult

/-- The expected change of one entry; an entry whose account is not in the map has none. -/
def expectedChange (accounts : AccountMap) (e : TransactionEntry) : Option AccountBalanceUpdate :=
  (accounts e.accountID).map fun account =>
    { accountID := e.accountID
      accountName := account.accountName
      previousBalance := account.currentBalance
      balanceChange := (postingChange e).1
      newBalance := newBalance account.normalBalance account.currentBalance (postingChange e)
      updateType := (postingChange e).2 }

/-- `PreviewPostingImpact`: it calls no repository, so the ledger stays. -/
def previewPostingImpact (tolerance : Decimal) (now : Time) (s : Ledger) (t : Transaction)
    (accounts : AccountMap) : Ledger × PostingImpactPreview :=
  let changes := t.entries.filterMap (expectedChange accounts)
  (s,
    { transactionID := t.id
      expectedBalanceChanges := changes
      affectedAccounts := changes.map AccountBalanceUpdate.accountID
      validationResult := validatePostingRequirements tolerance now t accounts })

theorem signed_injective (normal : NormalBalance) : Function.Injective (signed normal) := by
  intro first second same
  unfold signed at same
  split at same
  · exact same
  · exact neg_injective same

variable {e : TransactionEntry}

/-- An entry with one positive side moves something. -/
theorem postingNet_ne_zero
    (oneSided : (0 < e.debitAmount ∧ e.creditAmount = 0) ∨ (e.debitAmount = 0 ∧ 0 < e.creditAmount))
      :
    postingNet e ≠ 0 := by
  rcases oneSided with ⟨debit, -⟩ | ⟨noDebit, credit⟩
  · rw [postingNet, if_pos debit]
    exact debit.ne'
  · rw [postingNet, if_neg (by rw [noDebit]; exact lt_irrefl 0), if_pos credit]
    exact neg_ne_zero.mpr credit.ne'

theorem accounts_of_posted {tolerance : Decimal} {env : PostingEnv} {s : Ledger}
    {req : PostTransactionRequest} {stored : Transaction}
    (found : s.transactions.get? req.transactionID = some stored)
    (updating : req.skipBalanceUpdate = false)
    (succeeded : (postTransaction tolerance env s req).err = none) (account : Uuid) :
    (postTransaction tolerance env s req).ledger.accounts.get? account =
      (s.accounts.get? account).map
        (moved (landed TransactionEntry.accountID postingNet stored.entries account)) := by
  rcases postTransaction_cases tolerance env s req with
    ⟨result, err, stopped, -⟩ | ⟨t, posted, result, accepted, -, entries, -, committed⟩
  · rw [stopped] at succeeded
    cases succeeded
  · have same : t = stored := Option.some.inj ((getByID_ok accepted.found).symm.trans found)
    subst same
    rw [committed] at succeeded ⊢
    unfold commitPosting at succeeded ⊢
    rw [updating, if_neg Bool.false_ne_true, entries] at succeeded ⊢
    dsimp only at succeeded ⊢
    split at succeeded
    · cases succeeded
    · next after reports ran =>
        obtain ⟨looked, complete⟩ := changeBalances_written
          "failed to update account balance for " id t.entries s.accounts
          env.faults.balances []
        rw [updateAccountBalances] at ran
        rw [ran] at looked complete
        have moves := looked account
        rw [complete.mp ⟨reports, rfl⟩] at moves
        split at succeeded
        · cases succeeded
        · next saves =>
            rw [if_neg saves]
            exact moves

/-! ## When the preview is right -/

def PreviewAgrees (preview : PostingImpactPreview) (t : Transaction) (after : Ledger) : Prop :=
  ∀ e ∈ t.entries,
    (∃ change ∈ preview.expectedBalanceChanges, change.accountID = e.accountID) ∧
    ∀ change ∈ preview.expectedBalanceChanges, change.accountID = e.accountID →
      (after.accounts.get? e.accountID).map Accounts.currentBalance = some change.newBalance

/-- An accepted preview has found every account and only entries with one positive side. -/
theorem accepted_entries {tolerance : Decimal} {now : Time} {t : Transaction}
    {accounts : AccountMap}
    (accepted : (validatePostingRequirements tolerance now t accounts).canPost = true)
    (member : e ∈ t.entries) :
    postingNet e ≠ 0 ∧ ∃ a, accounts e.accountID = some a := by
  simp only [validatePostingRequirements, Bool.and_eq_true, List.isEmpty_iff,
    List.append_eq_nil_iff, DoubleEntryValidator.validateTransaction_errors] at accepted
  obtain ⟨-, ⟨-, ⟨⟨⟨-, entries⟩, compatible⟩, -⟩, -⟩, -⟩ := accepted
  refine ⟨postingNet_ne_zero (DoubleEntryValidator.oneSided_of_validateEntries entries member),
    ?_⟩
  obtain ⟨index, found⟩ := List.mem_iff_getElem?.mp member
  have placed : (e, index) ∈ t.entries.zipIdx := List.mem_zipIdx_iff_getElem?.mpr found
  have silent : DoubleEntryValidator.accountErrors accounts e index = [] :=
    List.flatMap_eq_nil_iff.mp compatible (e, index) placed
  rw [← Option.isSome_iff_exists]
  by_contra missing
  rw [Option.not_isSome_iff_eq_none] at missing
  simp [DoubleEntryValidator.accountErrors, missing] at silent

theorem expectedChange_eq_some {accounts : AccountMap} {change : AccountBalanceUpdate}
    (report : expectedChange accounts e = some change) :
    ∃ a, accounts e.accountID = some a ∧ change.accountID = e.accountID ∧
      change.newBalance = a.currentBalance + signed a.normalBalance (postingNet e) := by
  obtain ⟨a, held, rfl⟩ := Option.map_eq_some_iff.mp report
  exact ⟨a, held, rfl, newBalance_eq _ _ _⟩

/-- The preview of an accepted transaction, given the accounts as they are stored, agrees with its
posting exactly when no account has two entries; it changes nothing itself. -/
theorem preview_agrees_iff {tolerance : Decimal} {now : Time} {env : PostingEnv} {s : Ledger}
    {req : PostTransactionRequest} {t stored : Transaction} {accounts : AccountMap}
    (current : ∀ e ∈ t.entries, accounts e.accountID = s.accounts.get? e.accountID)
    (accepted :
      (previewPostingImpact tolerance now s t accounts).2.validationResult.canPost = true)
    (found : s.transactions.get? req.transactionID = some stored)
    (same : stored.entries = t.entries)
    (updating : req.skipBalanceUpdate = false)
    (succeeded : (postTransaction tolerance env s req).err = none) :
    ((previewPostingImpact tolerance now s t accounts).1 = s ∧
      PreviewAgrees (previewPostingImpact tolerance now s t accounts).2 t
        (postTransaction tolerance env s req).ledger) ↔
      (t.entries.map TransactionEntry.accountID).Nodup := by
  have entries : ∀ e ∈ t.entries, postingNet e ≠ 0 ∧ ∃ a, accounts e.accountID = some a :=
    fun e member => accepted_entries accepted member
  have after := accounts_of_posted found updating succeeded
  rw [same] at after
  -- a report is right when its entry is all that lands on the account
  have right : ∀ e ∈ t.entries, ∀ change, expectedChange accounts e = some change →
      (((postTransaction tolerance env s req).ledger.accounts.get? e.accountID).map
          Accounts.currentBalance = some change.newBalance ↔
        landed TransactionEntry.accountID postingNet t.entries e.accountID =
          postingNet e) := by
    intro e member change report
    obtain ⟨a, held, -, balance⟩ := expectedChange_eq_some report
    have row : s.accounts.get? e.accountID = some a := (current e member).symm.trans held
    simp only [after, row, balance, Option.map_some, Option.some.injEq, moved, add_right_inj]
    exact (signed_injective a.normalBalance).eq_iff
  have reported : ∀ e ∈ t.entries, ∃ change, expectedChange accounts e = some change ∧
      change ∈ t.entries.filterMap (expectedChange accounts) ∧
      change.accountID = e.accountID := by
    intro e member
    obtain ⟨a, held⟩ := (entries e member).2
    obtain ⟨change, report⟩ := Option.isSome_iff_exists.mp
      (show (expectedChange accounts e).isSome = true by simp [expectedChange, held])
    obtain ⟨-, -, own, -⟩ := expectedChange_eq_some report
    exact ⟨change, report, List.mem_filterMap.mpr ⟨e, member, report⟩, own⟩
  rw [← forall_landed_eq_iff_nodup fun e member => (entries e member).1]
  constructor
  · rintro ⟨-, agrees⟩ e member
    obtain ⟨change, report, listed, own⟩ := reported e member
    exact (right e member change report).mp ((agrees e member).2 change listed own)
  · intro alone
    refine ⟨rfl, fun e member => ⟨?_, ?_⟩⟩
    · obtain ⟨change, -, listed, own⟩ := reported e member
      exact ⟨change, listed, own⟩
    · intro change listed here
      obtain ⟨other, inEntries, report⟩ := List.mem_filterMap.mp listed
      obtain ⟨-, -, own, -⟩ := expectedChange_eq_some report
      rw [← here, own]
      exact (right other inEntries change report).mpr (alone other inEntries)

instance (preview : PostingImpactPreview) (t : Transaction) (after : Ledger) :
    Decidable (PreviewAgrees preview t after) :=
  inferInstanceAs (Decidable (∀ e ∈ t.entries, _))

/-- The preview of the sample rent, whose accounts differ, agrees with its posting. -/
theorem preview_agrees_rent :
    (previewPostingImpact (1 / 100) Time.zero rentLedger approvedRent
        rentLedger.accounts.get?).1 = rentLedger ∧
      PreviewAgrees (previewPostingImpact (1 / 100) Time.zero rentLedger approvedRent
        rentLedger.accounts.get?).2 approvedRent
        (postTransaction (1 / 100) { now := Time.zero } rentLedger rentPosting).ledger :=
  (preview_agrees_iff (fun _ _ => rfl) (by decide +kernel)
    (show rentLedger.transactions.get? rentPosting.transactionID = some approvedRent from rfl)
    rfl rfl (by decide +kernel)).mpr (by decide)

/-- The rent in two parts on one account. -/
def splitRent : Transaction :=
  { approvedRent with
    entries := [Transaction.rentEntry 1 11 60 0, Transaction.rentEntry 2 11 40 0,
      Transaction.rentEntry 3 12 0 100] }

def splitLedger : Ledger where
  transactions := ⟨[splitRent], by decide⟩
  accounts := rentLedger.accounts

/-- Its preview is accepted and reports 60 and 40 for an account that has 100 after the posting. -/
theorem preview_disagrees_split :
    let preview := (previewPostingImpact (1 / 100) Time.zero splitLedger splitRent
      splitLedger.accounts.get?).2
    let out := postTransaction (1 / 100) { now := Time.zero } splitLedger rentPosting
    preview.validationResult.canPost = true ∧ out.err = none ∧
      ¬PreviewAgrees preview splitRent out.ledger := by
  decide +kernel

end ErpFinance.Service.PostingEngine
