import ErpFinance.Service.TransactionService
import Mathlib.Data.List.Dedup

/-!
# The two posting paths

`PostTransaction` exists twice.  Both paths load the header and end in the same
repository write; in between they check different things.  The state machine of
the pipeline asks for a validation status that no header read from the database
carries, so that the paths agree exactly where the inline one refuses as well.
-/

namespace ErpFinance.Service.TransactionService

open Domain Library Repository Repository.Database

variable {cfg : Config} {env : Env} {db : Database} {id : Uuid} {t : Transaction}
variable {date : Option Time}

/-! ## Agreement -/

/-- An operation reports success. -/
def Succeeds (out : Outcome) : Prop := ∃ t, out.2 = .ok t

/-- The status stored under an identifier. -/
def storedStatusOf (db : Database) (id : Uuid) : Option TransactionStatus :=
  (db.transactions.get? id).map Transaction.transactionStatus

/-- Two implementations succeed together and then leave the same status and balances. -/
structure Agree (first second : Outcome) (id : Uuid) : Prop where
  success : Succeeds first ↔ Succeeds second
  status : Succeeds first → Succeeds second →
    storedStatusOf first.1 id = storedStatusOf second.1 id
  accounts : Succeeds first → Succeeds second → first.1.accounts = second.1.accounts
  balances : Succeeds first → Succeeds second → first.1.balances = second.1.balances

/-! ## What the paths check -/

/-- The final write and the read after it work: the caller is known and neither call fails. -/
def Writable (env : Env) : Prop :=
  env.caller.userID.isSome = true ∧ env.fails .post = false ∧ env.fails .reload = false

/-- The inline checks pass: amount limit, entries, `ValidateTransaction`, period. -/
def InlineAccepts (cfg : Config) (env : Env) (db : Database) (t : Transaction)
    (date : Option Time) : Prop :=
  ∃ entries, inlineChecks cfg env db t (date.getD env.now) = .ok entries

/-- The largest amount the caller's tenant posts; zero for no limit. -/
def amountLimit (cfg : Config) (env : Env) : Decimal :=
  cfg.maxTransactionAmount (env.caller.getTenantID.getD Uuid.Nil)

/-- A well-formed entry on an account of the tenant that takes it. -/
def LineAdmissible (env : Env) (db : Database) (e : TransactionEntry) : Prop :=
  e.validate = [] ∧ e.validateAmountConsistency = [] ∧
    ∃ account, db.getAccount env e.accountID = .ok account ∧
      e.validateBusinessRules account = []

/-- The stored records behind a posting that the inline path makes. -/
structure Admissible (cfg : Config) (env : Env) (db : Database) (t : Transaction) (day : Time)
    (entries : List TransactionEntry) : Prop where
  amount : amountLimit cfg env = 0 ∨ t.totalDebitAmount ≤ amountLimit cfg env
  listed : db.getEntriesByTransaction env t.id = .ok entries
  lines : ∀ e ∈ entries, LineAdmissible env db e
  balanced : totalDebits entries = totalCredits entries
  nonzero : totalDebits entries ≠ 0
  accounts : 2 ≤ (entries.map TransactionEntry.accountID).dedup.length
  period : cfg.periodRepo = true →
    ∃ period, db.getPeriodForDate env day = .ok period ∧ period.status.allowsPosting = true

def postedDatabase (env : Env) (db : Database) (t : Transaction) : Database :=
  { db with transactions :=
      db.transactions.put (postedHeader env (env.caller.userID.getD Uuid.Nil) t) }

/-! ## The common write -/

/-- A header that was read belongs to the caller's tenant. -/
theorem not_ownedElsewhere (found : db.getByID env .getByID id = .ok t) :
    ownedElsewhere env t = false := by
  obtain ⟨tenant, works, visible⟩ := getByID_eq_ok_iff.mp found
  have owned := (visible_eq_some_iff.mp visible).2
  have present := (runs_eq_ok_iff.mp works).1
  simp [ownedElsewhere, present, owned]

theorem id_of_getByID (found : db.getByID env .getByID id = .ok t) : t.id = id := by
  obtain ⟨tenant, -, visible⟩ := getByID_eq_ok_iff.mp found
  exact Table.key_of_get? (visible_eq_some_iff.mp visible).1

/-- The repository posts a header that was read exactly when it is approved and the write works. -/
theorem post_of_found (found : db.getByID env .getByID id = .ok t) {written : Database} :
    db.post env id = .ok written ↔
      t.transactionStatus = .approved ∧ env.caller.userID.isSome = true ∧
        env.fails .post = false ∧ written = postedDatabase env db t := by
  obtain ⟨tenant, works, visible⟩ := getByID_eq_ok_iff.mp found
  obtain ⟨present, -⟩ := runs_eq_ok_iff.mp works
  rw [post_eq_ok_iff]
  constructor
  · rintro ⟨user, other, row, known, writes, sameRow, approved, rfl⟩
    obtain ⟨samePresent, noFault⟩ := runs_eq_ok_iff.mp writes
    cases present.symm.trans samePresent
    cases visible.symm.trans sameRow
    exact ⟨approved, by simp [known], noFault, by simp [postedDatabase, known]⟩
  · rintro ⟨approved, known, noFault, rfl⟩
    obtain ⟨user, known⟩ := Option.isSome_iff_exists.mp known
    exact ⟨user, tenant, t, known, runs_eq_ok_iff.mpr ⟨present, noFault⟩, visible, approved,
      by simp [postedDatabase, known]⟩

theorem get?_postedDatabase (found : db.getByID env .getByID id = .ok t) :
    (postedDatabase env db t).transactions.get? id =
      some (postedHeader env (env.caller.userID.getD Uuid.Nil) t) := by
  obtain ⟨tenant, -, visible⟩ := getByID_eq_ok_iff.mp found
  have held := (visible_eq_some_iff.mp visible).1
  have sameID : Keyed.key (postedHeader env (env.caller.userID.getD Uuid.Nil) t) = id := by
    simpa [postedHeader] using id_of_getByID found
  rw [← sameID] at held ⊢
  exact Table.get?_put_self held

theorem reload_postedDatabase (found : db.getByID env .getByID id = .ok t) :
    (∃ posted, (postedDatabase env db t).getByID env .reload id = .ok posted) ↔
      env.fails .reload = false := by
  obtain ⟨tenant, works, visible⟩ := getByID_eq_ok_iff.mp found
  obtain ⟨present, -⟩ := runs_eq_ok_iff.mp works
  have owned := (visible_eq_some_iff.mp visible).2
  constructor
  · rintro ⟨posted, again⟩
    obtain ⟨other, reads, -⟩ := getByID_eq_ok_iff.mp again
    exact (runs_eq_ok_iff.mp reads).2
  · intro noFault
    exact ⟨_, getByID_eq_ok_iff.mpr ⟨tenant, runs_eq_ok_iff.mpr ⟨present, noFault⟩,
      visible_eq_some_iff.mpr ⟨get?_postedDatabase found, owned⟩⟩⟩

/-! ## The pipeline path -/

@[simp] theorem stage_eq_ok_iff {α : Type} {name : String} {result : Except Error α}
    {value : α} : stage name result = .ok value ↔ result = .ok value := by
  simp [stage]

/-- The state machine asks for a validation status before a header is posted. -/
theorem validated_of_canTransitionTo (allowed : t.canTransitionTo .posted = none) :
    t.validationStatus = .valid ∨ t.validationStatus = .warning := by
  unfold Transaction.canTransitionTo at allowed
  split at allowed
  · simp at allowed
  · split at allowed
    · unfold Transaction.validateTransitionRules at allowed
      dsimp only at allowed
      split at allowed
      · simp at allowed
      · split at allowed
        · simp at allowed
        · split at allowed
          · simp at allowed
          · next validated => simpa [imp_iff_not_or] using validated
    · simp at allowed

/-- The pipeline writes only what its state machine lets through. -/
theorem runPipeline_ok (found : db.getByID env .getByID id = .ok t) {written : Database}
    (ran : runPipeline cfg env db id (date.getD env.now) = .ok written) :
    t.canTransitionTo .posted = none ∧ db.post env id = .ok written := by
  simp only [runPipeline, bind_eq_ok_iff, stage_eq_ok_iff] at ran
  obtain ⟨⟨row, entries⟩, loaded, -, -, -, -, -, -, post⟩ := ran
  simp only [loadTransactionStage, found] at loaded
  cases listed : db.getEntriesByTransaction env id with
  | error err => simp [listed] at loaded
  | ok lines =>
    simp only [listed, Except.ok.injEq, Prod.mk.injEq] at loaded
    obtain ⟨rfl, rfl⟩ := loaded
    unfold glPostStage at post
    cases moves : t.canTransitionTo .posted with
    | some reason => simp [moves] at post
    | none =>
      rw [moves, id_of_getByID found] at post
      cases wrote : db.post env id with
      | error err => simp [wrote] at post
      | ok after => exact ⟨rfl, by simpa [wrote] using post⟩

/-- A header without a validation status stops the pipeline path. -/
theorem pipeline_refuses (found : db.getByID env .getByID id = .ok t)
    (unvalidated : t.validationStatus = .other "" empty_not_validationStatus) :
    ¬ Succeeds (postTransactionViaPipeline cfg env db id date) := by
  rintro ⟨posted, succeeded⟩
  simp only [postTransactionViaPipeline, found, not_ownedElsewhere found] at succeeded
  cases ran : runPipeline cfg env db id (date.getD env.now) with
  | error err => simp [ran] at succeeded
  | ok written =>
    rcases validated_of_canTransitionTo (runPipeline_ok found ran).1 with valid | warning
    · simp [unvalidated] at valid
    · simp [unvalidated] at warning

/-! ## The inline path -/

theorem updateAccountBalances_transactions (entries : List TransactionEntry) :
    (updateAccountBalances env db entries).transactions = db.transactions := by
  have refreshed (db : Database) (account : Uuid) :
      (refreshBalance env db account).transactions = db.transactions := by
    cases calculated : db.getAccountBalance env account with
    | error err => simp [refreshBalance, calculated]
    | ok balance =>
      cases works : runs env (.updateBalance account) with
      | error err => simp [refreshBalance, calculated, updateBalance, works, bind, Except.bind,
          Except.toOption]
      | ok tenant => simp [refreshBalance, calculated, updateBalance, works, bind, Except.bind,
          Except.toOption, pure, Except.pure]
  unfold updateAccountBalances
  generalize (entries.map TransactionEntry.accountID).dedup = accounts
  induction accounts generalizing db with
  | nil => rfl
  | cons account rest ih => rw [List.foldl_cons, ih, refreshed]

theorem checkTransactionAmount_eq_ok_iff {amount : Decimal} :
    checkTransactionAmount cfg env amount = .ok () ↔
      amountLimit cfg env = 0 ∨ amount ≤ amountLimit cfg env := by
  unfold checkTransactionAmount amountLimit
  generalize cfg.maxTransactionAmount (env.caller.getTenantID.getD Uuid.Nil) = limit
  by_cases free : limit = 0
  · simp [free]
  · by_cases within : amount ≤ limit
    · simp [within]
    · simp [free, within]

theorem validateEntry_eq_nil_iff {e : TransactionEntry} :
    validateEntry env db e = [] ↔ LineAdmissible env db e := by
  cases held : db.getAccount env e.accountID with
  | error err => simp [validateEntry, LineAdmissible, held]
  | ok account =>
    simp only [validateEntry, LineAdmissible, held, List.append_eq_nil_iff, Except.ok.injEq,
      exists_eq_left']
    exact and_congr_right fun _ => and_comm

theorem validateTransaction_eq_nil_iff {entries : List TransactionEntry} :
    validateTransaction env db entries = [] ↔
      (∀ e ∈ entries, LineAdmissible env db e) ∧ totalDebits entries = totalCredits entries ∧
        totalDebits entries ≠ 0 ∧
        2 ≤ (entries.map TransactionEntry.accountID).dedup.length := by
  unfold validateTransaction
  split
  · next empty => simp [empty]
  · simp [List.flatMap_eq_nil_iff, validateEntry_eq_nil_iff, Nat.succ_le_iff]

theorem checkPeriod_eq_ok_iff {day : Time} :
    checkPeriod cfg env db day = .ok () ↔ (cfg.periodRepo = true →
      ∃ period, db.getPeriodForDate env day = .ok period ∧
        period.status.allowsPosting = true) := by
  cases repo : cfg.periodRepo with
  | false => simp [checkPeriod, repo]
  | true =>
    cases looked : db.getPeriodForDate env day with
    | error err => simp [checkPeriod, repo, looked]
    | ok period =>
      cases posts : period.status.allowsPosting <;> simp [checkPeriod, repo, looked, posts]

/-- The inline checks, in the terms of the stored records. -/
theorem inlineChecks_eq_ok_iff {day : Time} {entries : List TransactionEntry} :
    inlineChecks cfg env db t day = .ok entries ↔ Admissible cfg env db t day entries := by
  simp only [inlineChecks, getEntriesByTransactionID, bind_eq_ok_iff, mapError_eq_ok_iff]
  constructor
  · rintro ⟨⟨⟩, amount, lines, listed, rest⟩
    split at rest
    · simp at rest
    · split at rest
      · simp at rest
      · next silent =>
          simp only [bind_eq_ok_iff] at rest
          obtain ⟨⟨⟩, period, same⟩ := rest
          cases same
          obtain ⟨valid, balanced, nonzero, accounts⟩ :=
            validateTransaction_eq_nil_iff.mp (not_not.mp silent)
          exact ⟨checkTransactionAmount_eq_ok_iff.mp amount, listed, valid, balanced, nonzero,
            accounts, checkPeriod_eq_ok_iff.mp period⟩
  · intro admits
    have silent : validateTransaction env db entries = [] :=
      validateTransaction_eq_nil_iff.mpr
        ⟨admits.lines, admits.balanced, admits.nonzero, admits.accounts⟩
    have filled : entries ≠ [] := by
      rintro rfl
      simpa using admits.accounts
    refine ⟨(), checkTransactionAmount_eq_ok_iff.mpr admits.amount, entries, admits.listed, ?_⟩
    simp [filled, silent, checkPeriod_eq_ok_iff.mpr admits.period, bind, Except.bind, pure,
      Except.pure]

theorem post_of_admitted_draft (found : db.getByID env .getByID id = .ok t)
    (draft : t.transactionStatus = .draft) {admitted written : Database}
    (cleared : clearForPosting env db t = .ok admitted) : admitted.post env id ≠ .ok written := by
  intro wrote
  obtain ⟨tenant, -, visible⟩ := getByID_eq_ok_iff.mp found
  have stored := (visible_eq_some_iff.mp visible).1
  obtain ⟨user, poster, row, -, -, seen, approved, -⟩ := post_eq_ok_iff.mp wrote
  have held := (visible_eq_some_iff.mp seen).1
  simp only [clearForPosting, draft] at cleared
  split at cleared
  · simp at cleared
  · cases approves : db.approve env t.id t.createdBy "auto-approved: no approval required" with
    | error err => simp [approves] at cleared
    | ok approvedDb =>
      simp only [approves, Except.ok.injEq] at cleared
      subst cleared
      have keeps : Table.Evolves (fun before after : Transaction =>
          after.transactionStatus = before.transactionStatus)
          db.transactions approvedDb.transactions :=
        evolves_of_updateWhere approves (fun _ => rfl) (fun _ => rfl) (fun _ _ _ => rfl)
      obtain ⟨old, oldStored, same⟩ := keeps _ _ held
      cases stored.symm.trans oldStored
      simp [same, draft] at approved

/-- Past the status switch the inline path needs an approved header, its checks and the write. -/
theorem postTransactionInline_approved (found : db.getByID env .getByID id = .ok t)
    (approved : t.transactionStatus = .approved) :
    Succeeds (postTransactionInline cfg env db id date) ↔
      InlineAccepts cfg env db t date ∧ Writable env := by
  have owned := not_ownedElsewhere found
  have cleared : clearForPosting env db t = .ok db := by simp [clearForPosting, approved]
  cases checks : inlineChecks cfg env db t (date.getD env.now) with
  | error err =>
    have refuses : ¬ InlineAccepts cfg env db t date := by
      rintro ⟨entries, accepted⟩
      simp [checks] at accepted
    simp [postTransactionInline, found, owned, approved, cleared, checks, Succeeds, refuses]
  | ok entries =>
    have accepts : InlineAccepts cfg env db t date := ⟨entries, checks⟩
    cases wrote : db.post env id with
    | error err =>
      have blocked : ¬ Writable env := by
        rintro ⟨known, noFault, -⟩
        have := (post_of_found found).mpr ⟨approved, known, noFault, rfl⟩
        simp [wrote] at this
      simp [postTransactionInline, found, owned, approved, cleared, checks, wrote, Succeeds,
        blocked]
    | ok written =>
      obtain ⟨-, known, noFault, rfl⟩ := (post_of_found found).mp wrote
      have reloads := reload_postedDatabase found
      cases again : (postedDatabase env db t).getByID env .reload id with
      | error err =>
        have faulty : ¬ env.fails .reload = false := fun working => by
          simpa [again] using reloads.mpr working
        simp [postTransactionInline, found, owned, approved, cleared, checks, wrote, again,
          Succeeds, Writable, faulty]
      | ok posted =>
        have working := reloads.mp ⟨posted, again⟩
        simp [postTransactionInline, found, owned, approved, cleared, checks, wrote, again,
          Succeeds, Writable, accepts, known, noFault, working]

theorem postTransactionInline_refuses (found : db.getByID env .getByID id = .ok t)
    (notPosted : t.transactionStatus ≠ .posted) (notApproved : t.transactionStatus ≠ .approved) :
    ¬ Succeeds (postTransactionInline cfg env db id date) := by
  have owned := not_ownedElsewhere found
  rintro ⟨result, succeeded⟩
  simp only [postTransactionInline, found, owned, notPosted] at succeeded
  cases cleared : clearForPosting env db t with
  | error err => simp [cleared] at succeeded
  | ok admitted =>
    have draft : t.transactionStatus = .draft := by
      unfold clearForPosting at cleared
      split at cleared <;> simp_all
    cases checks : inlineChecks cfg env admitted t (date.getD env.now) with
    | error err => simp [cleared, checks] at succeeded
    | ok entries =>
      cases wrote : admitted.post env id with
      | error err => simp [cleared, checks, wrote] at succeeded
      | ok written => exact post_of_admitted_draft found draft cleared wrote

/-! ## When the paths agree -/

/-- Where the first implementation fails, the two agree when the second one fails as well. -/
theorem agree_iff_of_failure {first second : Outcome} (fails : ¬ Succeeds first) :
    Agree first second id ↔ ¬ Succeeds second := by
  constructor
  · exact fun agree succeeds => fails (agree.success.mpr succeeds)
  · exact fun alsoFails =>
      ⟨iff_of_false fails alsoFails, fun succeeds => absurd succeeds fails,
        fun succeeds => absurd succeeds fails, fun succeeds => absurd succeeds fails⟩

/--
The repository's mapper leaves the validation status of a header empty.  The two
paths agree exactly on headers the caller cannot read, and on those that are not
posted and, when they are approved and the write works, have stored records that
the inline checks refuse.
-/
theorem posting_paths_agree_iff
    (unvalidated : ∀ t, db.getByID env .getByID id = .ok t →
      t.validationStatus = .other "" empty_not_validationStatus) :
    Agree (postTransactionViaPipeline cfg env db id date)
        (postTransactionInline cfg env db id date) id ↔
      ∀ t, db.getByID env .getByID id = .ok t → t.transactionStatus ≠ .posted ∧
        (t.transactionStatus = .approved → Writable env →
          ∀ entries, ¬ Admissible cfg env db t (date.getD env.now) entries) := by
  cases found : db.getByID env .getByID id with
  | error err =>
    have refused : ¬ Succeeds (postTransactionViaPipeline cfg env db id date) := by
      simp [Succeeds, postTransactionViaPipeline, found]
    rw [agree_iff_of_failure refused]
    simp [Succeeds, postTransactionInline, found]
  | ok t =>
    rw [agree_iff_of_failure (pipeline_refuses found (unvalidated t found))]
    simp only [Except.ok.injEq, forall_eq']
    by_cases posted : t.transactionStatus = .posted
    · simp [Succeeds, postTransactionInline, found, not_ownedElsewhere found, posted]
    · by_cases approved : t.transactionStatus = .approved
      · rw [postTransactionInline_approved found approved]
        constructor
        · exact fun refuses => ⟨posted, fun _ works entries admits =>
            refuses ⟨⟨entries, inlineChecks_eq_ok_iff.mpr admits⟩, works⟩⟩
        · rintro ⟨-, refuses⟩ ⟨⟨entries, accepted⟩, works⟩
          exact refuses approved works entries (inlineChecks_eq_ok_iff.mp accepted)
      · have refused := @postTransactionInline_refuses cfg env db id t date found posted approved
        simp [refused, posted, approved]

/-! ## A posted header -/

/-- The sample header as it is read in a status. -/
def storedRent (status : TransactionStatus) : Transaction :=
  { Transaction.rentDraft with
    transactionStatus := status, validationStatus := .other "" empty_not_validationStatus }

def openAccount (id : Uuid) (normal : NormalBalance) : Accounts :=
  { id := id, tenantID := 7, normalBalance := normal, isActive := true,
    allowManualEntries := true, status := .active, validationStatus := .valid }

def postedRentDatabase : Database where
  transactions :=
    { rows := [storedRent .posted]
      nodup := by simp }
  entries := Transaction.rentDraft.entries
  accounts :=
    { rows := [openAccount 11 .debit, openAccount 12 .credit]
      nodup := by decide }
  periods := []
  balances := fun _ _ => none
  reversals := []

/-- The same with an approved header. -/
def unpostedRentDatabase : Database :=
  { postedRentDatabase with
    transactions := { rows := [storedRent .approved], nodup := by simp } }

/-- A request of the sample tenant. -/
def rentCaller : Env :=
  { caller := { tenantID := some 7, userID := some 23 }, now := ⟨2024, 5, 2, 0, by decide⟩ }

/-- An approved header above the limit of its tenant is refused by both paths; posted, only by
the pipeline. -/
theorem posting_paths_agree_above_limit :
    Agree
        (postTransactionViaPipeline { maxTransactionAmount := fun _ => 50 } rentCaller
          unpostedRentDatabase 1 none)
        (postTransactionInline { maxTransactionAmount := fun _ => 50 } rentCaller
          unpostedRentDatabase 1 none) 1 ∧
      ¬Agree
        (postTransactionViaPipeline {} rentCaller postedRentDatabase 1 none)
        (postTransactionInline {} rentCaller postedRentDatabase 1 none) 1 := by
  have approved : unpostedRentDatabase.getByID rentCaller .getByID 1 =
      .ok (storedRent .approved) := rfl
  have posted : postedRentDatabase.getByID rentCaller .getByID 1 =
      .ok (storedRent .posted) := rfl
  constructor
  · refine (posting_paths_agree_iff fun t found => ?_).mpr fun t found => ?_
    · cases approved.symm.trans found
      rfl
    · cases approved.symm.trans found
      refine ⟨by decide, fun _ _ entries admits => ?_⟩
      rcases admits.amount with free | within
      · revert free
        decide
      · revert within
        decide
  · intro agree
    refine ((posting_paths_agree_iff fun t found => ?_).mp agree _ posted).1 rfl
    cases posted.symm.trans found
    rfl

/-- Posting a posted transaction again succeeds inline and fails through the pipeline. -/
theorem posting_paths_disagree_on_posted :
    ¬ ∀ (cfg : Config) (env : Env) (db : Database) (id : Uuid) (date : Option Time),
      Agree (postTransactionViaPipeline cfg env db id date)
        (postTransactionInline cfg env db id date) id := by
  intro agree
  have here := agree { periodRepo := false } rentCaller postedRentDatabase 1 none
  have found : postedRentDatabase.getByID rentCaller .getByID 1 =
      .ok (storedRent .posted) := rfl
  have repeated : Succeeds (postTransactionInline { periodRepo := false } rentCaller
      postedRentDatabase 1 none) := ⟨_, rfl⟩
  exact pipeline_refuses found rfl (here.success.mpr repeated)

end ErpFinance.Service.TransactionService
