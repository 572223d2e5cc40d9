import ErpFinance.Service.PostingPaths

/-!
# Control over the stored status

What the service operations do to the statuses of the stored headers.  All of
them move along the transition table, but an edit writes whatever status and
approval status its request carries.
-/

namespace ErpFinance.Service.TransactionService

open Domain Library Repository Repository.Database

variable {cfg : Config} {env : Env} {db db' : Database} {id : Uuid}

/-! ## Moves of the status -/

def StatusStep (before after : Transaction) : Prop :=
  after.transactionStatus = before.transactionStatus ∨
    (before.transactionStatus = .approved ∧ after.transactionStatus = .posted)

theorem StatusStep.refl (t : Transaction) : StatusStep t t := .inl rfl

theorem StatusStep.trans {a b c : Transaction} (first : StatusStep a b) (second : StatusStep b c) :
    StatusStep a c := by
  rcases first with same | ⟨approved, posted⟩
  · rw [StatusStep, ← same]
    exact second
  · rcases second with same | ⟨approvedAgain, -⟩
    · exact .inr ⟨approved, same.trans posted⟩
    · simp [posted] at approvedAgain

/-- No header is lost from sight of its past: each continues an earlier one by status steps. -/
abbrev Moves (before after : Database) : Prop :=
  Table.Evolves StatusStep before.transactions after.transactions

theorem Moves.refl (db : Database) : Moves db db := Table.Evolves.refl StatusStep.refl _

theorem Moves.of_eq (same : db'.transactions = db.transactions) : Moves db db' := by
  unfold Moves
  rw [same]
  exact Table.Evolves.refl StatusStep.refl _

theorem Moves.trans {a b c : Database} (first : Moves a b) (second : Moves b c) : Moves a c :=
  Table.Evolves.trans StatusStep.trans first second

def Grows (before after : Database) : Prop :=
  ∀ k t, after.transactions.get? k = some t →
    (∃ old, before.transactions.get? k = some old ∧ StatusStep old t) ∨
      (before.transactions.get? k = none ∧ t.transactionStatus = .draft)

theorem Moves.grows (moves : Moves db db') : Grows db db' :=
  fun k t held => .inl (moves k t held)

theorem Grows.trans_moves {a b c : Database} (grows : Grows a b) (moves : Moves b c) :
    Grows a c := by
  intro k t held
  obtain ⟨between, heldBetween, step⟩ := moves k t held
  rcases grows k between heldBetween with ⟨old, heldOld, earlier⟩ | ⟨fresh, draft⟩
  · exact .inl ⟨old, heldOld, earlier.trans step⟩
  · rcases step with same | ⟨approved, -⟩
    · exact .inr ⟨fresh, same.trans draft⟩
    · simp [draft] at approved

/-! ## The repository -/

variable {notes : String}

theorem approve_moves {by_ : Uuid} (wrote : db.approve env id by_ notes = .ok db') :
    Moves db db' :=
  evolves_of_updateWhere wrote (fun _ => rfl) StatusStep.refl (fun _ _ _ => .inl rfl)

theorem reject_moves (wrote : db.reject env id notes = .ok db') :
    Moves db db' := by
  obtain ⟨user, -, wrote⟩ := bind_eq_ok_iff.mp wrote
  exact evolves_of_updateWhere wrote (fun _ => rfl) StatusStep.refl (fun _ _ _ => .inl rfl)

theorem post_moves (wrote : db.post env id = .ok db') : Moves db db' := by
  obtain ⟨user, -, wrote⟩ := bind_eq_ok_iff.mp wrote
  exact evolves_of_updateWhere wrote (fun _ => rfl) StatusStep.refl
    (fun t _ approved => .inr ⟨by simpa using approved, rfl⟩)

variable {reason : String}

theorem reverse_moves {reversalID : Uuid} (wrote : db.reverse env id reversalID reason = .ok db') :
    Moves db db' := by
  obtain ⟨user, -, wrote⟩ := bind_eq_ok_iff.mp wrote
  exact evolves_of_updateWhere wrote (fun _ => rfl) StatusStep.refl (fun _ _ _ => .inl rfl)

theorem cleanUp_moves : Moves db (cleanUp env db id) := by
  unfold cleanUp Database.delete
  cases runs env .delete with
  | error err => exact Moves.refl db
  | ok tenant =>
    simp only [bind, Except.bind]
    cases db.visible tenant id with
    | none => exact Moves.refl db
    | some t =>
      dsimp only
      split
      · exact Table.Evolves.remove StatusStep.refl _ _
      · exact Moves.refl db

/-- A stored header is a new draft when the record was one. -/
theorem create_grows {t stored : Transaction} (draft : t.transactionStatus = .draft)
    (wrote : db.create env t = .ok (db', stored)) : Grows db db' := by
  obtain ⟨tenant, -, wrote⟩ := bind_eq_ok_iff.mp wrote
  split at wrote
  · simp at wrote
  · rename_i unused
    split at wrote
    · simp at wrote
    · simp only [pure, Except.pure, Except.ok.injEq, Prod.mk.injEq] at wrote
      obtain ⟨rfl, -⟩ := wrote
      have fresh : db.transactions.get? env.assignedID = none := by simpa using unused
      intro k after held
      rw [Table.get?_insert (by simpa using fresh)] at held
      split at held
      · rename_i here
        cases held
        exact .inr ⟨by simpa [here] using fresh, by simp [storedStatus, draft]⟩
      · exact .inl ⟨after, held, StatusStep.refl after⟩

theorem insertEntry_transactions {index : Nat} {e : TransactionEntry}
    (wrote : db.createEntry env index e = .ok db') : db'.transactions = db.transactions := by
  obtain ⟨tenant, -, wrote⟩ := bind_eq_ok_iff.mp wrote
  split at wrote
  · simp at wrote
  · cases wrote
    rfl

theorem insertReversal_transactions {record : ReversalHistoryRecord}
    (wrote : db.insertReversal env record = .ok db') : db'.transactions = db.transactions := by
  obtain ⟨tenant, -, wrote⟩ := bind_eq_ok_iff.mp wrote
  cases wrote
  rfl

/-! ## The operations -/

@[simp] theorem reread_fst (written : Database) (context : String) :
    (reread env written context id).1 = written := by
  unfold reread
  split <;> rfl

theorem approveTransaction_moves :
    Moves db (approveTransaction env db id notes).1 := by
  unfold approveTransaction
  repeat' split
  all_goals first
    | exact Moves.refl db
    | rw [reread_fst]; exact approve_moves ‹_›

theorem rejectTransaction_moves {reason : RejectionReason} :
    Moves db (rejectTransaction env db id reason notes).1 := by
  unfold rejectTransaction
  repeat' split
  all_goals first
    | exact Moves.refl db
    | rw [reread_fst]; exact reject_moves ‹_›

variable {t : Transaction}

theorem clearForPosting_moves (cleared : clearForPosting env db t = .ok db') : Moves db db' := by
  unfold clearForPosting at cleared
  split at cleared
  · cases cleared
    exact Moves.refl db
  · split at cleared
    · simp at cleared
    · split at cleared
      · simp at cleared
      · cases cleared
        exact approve_moves ‹_›
  · simp at cleared

variable {date : Option Time}

theorem postTransactionInline_moves :
    Moves db (postTransactionInline cfg env db id date).1 := by
  unfold postTransactionInline
  split
  · exact Moves.refl db
  · split
    · exact Moves.refl db
    · split
      · exact Moves.refl db
      · split
        · exact Moves.refl db
        · rename_i admitted cleared
          have first := clearForPosting_moves cleared
          split
          · exact first
          · split
            · exact first
            · rename_i written wrote
              have second := first.trans (post_moves wrote)
              split
              · exact second
              · exact second.trans (Moves.of_eq (updateAccountBalances_transactions _))

theorem postTransactionViaPipeline_moves :
    Moves db (postTransactionViaPipeline cfg env db id date).1 := by
  unfold postTransactionViaPipeline
  cases found : db.getByID env .getByID id with
  | error err => exact Moves.refl db
  | ok t =>
    dsimp only
    split
    · exact Moves.refl db
    · split
      · exact Moves.refl db
      · rename_i written ran
        rw [reread_fst]
        exact post_moves (runPipeline_ok found ran).2

theorem postTransaction_moves :
    Moves db (postTransaction cfg env db id date).1 := by
  unfold postTransaction
  split
  · exact postTransactionViaPipeline_moves
  · exact postTransactionInline_moves

theorem recordReversal_moves {reversalID : Uuid} :
    Moves db (recordReversal cfg env db id reversalID reason).1 := by
  unfold recordReversal
  split
  · exact Moves.refl db
  · rename_i flagged wrote
    have first := reverse_moves wrote
    split
    · exact first
    · split
      · exact first
      · exact first.trans (Moves.of_eq (insertReversal_transactions ‹_›))

/-- The checks of the entry service write nothing. -/
theorem createEntry_transactions {index : Nat} {e : TransactionEntry}
    (wrote : createEntry env db index e = .ok db') : db'.transactions = db.transactions := by
  unfold createEntry at wrote
  repeat' split at wrote
  all_goals try simp at wrote
  subst wrote
  exact insertEntry_transactions ‹_›

theorem createReversalEntries_transactions {tenant : Uuid} (entries : List TransactionEntry)
    (index : Nat) (db : Database) :
    (createReversalEntries cfg env tenant id index entries db).1.transactions =
      db.transactions := by
  induction entries generalizing index db with
  | nil => rfl
  | cons e rest ih =>
    unfold createReversalEntries
    split
    · rfl
    · rw [ih]
      exact createEntry_transactions ‹_›

theorem insertEntries_transactions (entries : List TransactionEntry) (index : Nat)
    (db : Database) : (insertEntries env index entries db).1.transactions = db.transactions := by
  induction entries generalizing index db with
  | nil => rfl
  | cons e rest ih =>
    unfold insertEntries
    split
    · rfl
    · rw [ih]
      exact insertEntry_transactions ‹_›

theorem createEntries_transactions (entries : List TransactionEntry) :
    (createEntries env db entries).1.transactions = db.transactions := by
  unfold createEntries
  split
  · rfl
  · split
    · rfl
    · have same : (insertEntries env 0 entries db).1.transactions = db.transactions :=
        insertEntries_transactions entries 0 db
      split <;> simp_all

theorem storeTransaction_grows (draft : t.transactionStatus = .draft)
    (entries : List TransactionEntry) : Grows db (storeTransaction cfg env db t entries).1 := by
  unfold storeTransaction
  split
  · exact (Moves.refl db).grows
  · rename_i created stored wrote
    have first := create_grows draft wrote
    split
    · exact first
    · have same : (createEntries env created entries).1.transactions = created.transactions :=
        createEntries_transactions entries
      split
      · rename_i left err failed
        rw [failed] at same
        dsimp only
        split
        · exact (Moves.refl db).grows
        · exact first.trans_moves ((Moves.of_eq same).trans cleanUp_moves)
      · rename_i left done
        rw [done] at same
        exact first.trans_moves (Moves.of_eq same)

theorem createTransaction_grows {req : CreateTransactionRequest} :
    Grows db (createTransaction cfg env db req).1 := by
  unfold createTransaction
  repeat' split
  all_goals first
    | exact (Moves.refl db).grows
    | exact storeTransaction_grows rfl _

theorem storeReversal_grows {entries : List TransactionEntry} {tenant : Uuid} :
    Grows db (storeReversal cfg env db id t entries reason tenant).1 := by
  unfold storeReversal
  split
  · exact (Moves.refl db).grows
  · rename_i created header wrote
    have first := create_grows rfl wrote
    have same : (createReversalEntries cfg env tenant header.id 0 entries created).1.transactions =
        created.transactions := createReversalEntries_transactions entries 0 created
    split
    · rename_i stored err failed
      rw [failed] at same
      dsimp only
      split
      · exact (Moves.refl db).grows
      · exact first.trans_moves ((Moves.of_eq same).trans cleanUp_moves)
    · rename_i stored done
      rw [done] at same
      have second := first.trans_moves (Moves.of_eq same)
      have posting : Moves stored (postTransaction cfg env stored header.id none).1 :=
        postTransaction_moves
      split
      · rename_i attempted err failed
        rw [failed] at posting
        dsimp only
        split
        · exact (Moves.refl db).grows
        · exact second.trans_moves (posting.trans cleanUp_moves)
      · rename_i posted reversal posts
        rw [posts] at posting
        have third := second.trans_moves posting
        have recording : Moves posted (recordReversal cfg env posted id header.id reason).1 :=
          recordReversal_moves
        split
        · rename_i marked err failed
          rw [failed] at recording
          dsimp only
          split
          · exact (Moves.refl db).grows
          · exact third.trans_moves recording
        · rename_i marked records
          rw [records] at recording
          have last := third.trans_moves recording
          repeat' split
          · exact (Moves.refl db).grows
          · rw [reread_fst]
            exact last
          · exact last

theorem reverseTransaction_grows :
    Grows db (reverseTransaction cfg env db id reason).1 := by
  unfold reverseTransaction
  repeat' split
  all_goals first
    | exact (Moves.refl db).grows
    | exact storeReversal_grows

/-! ## Runs -/

/-- One call of the service by some caller. -/
inductive Operation where
  | create (env : Env) (req : CreateTransactionRequest)
  | update (env : Env) (id : Uuid) (req : Transaction)
  | approve (env : Env) (id : Uuid) (notes : String)
  | reject (env : Env) (id : Uuid) (reason : RejectionReason) (notes : String)
  | post (env : Env) (id : Uuid) (date : Option Time)
  | reverse (env : Env) (id : Uuid) (reason : String)

/-- The outcome of a call. -/
def Operation.run (cfg : Config) (db : Database) : Operation → Outcome
  | create env req => createTransaction cfg env db req
  | update env id req => updateTransaction env db id req
  | approve env id notes => approveTransaction env db id notes
  | reject env id reason notes => rejectTransaction env db id reason notes
  | post env id date => postTransaction cfg env db id date
  | reverse env id reason => reverseTransaction cfg env db id reason

/--
The database with what a run remembers: the headers that `CreateTransaction`
stored, and those approved by a successful call since their last edit.
-/
structure Tracked where
  db : Database
  created : List Uuid
  approved : List Uuid

/-- Whether a header appeared under an identifier. -/
def appeared (before after : Database) (id : Uuid) : Bool :=
  (before.transactions.get? id).isNone && (after.transactions.get? id).isSome

/-- What a run remembers after a call. -/
def step (cfg : Config) (s : Tracked) (op : Operation) : Tracked :=
  let out := op.run cfg s.db
  match op with
  | .create env _ =>
    { s with
      db := out.1
      created := if appeared s.db out.1 env.assignedID then env.assignedID :: s.created
        else s.created }
  | .update _ id _ =>
    { s with
      db := out.1
      approved := if out.2.isOk then s.approved.filter (· ≠ id) else s.approved }
  | .approve _ id _ =>
    { s with
      db := out.1
      approved := if out.2.isOk then id :: s.approved else s.approved }
  | _ => { s with db := out.1 }

@[simp] theorem step_db (cfg : Config) (s : Tracked) (op : Operation) :
    (step cfg s op).db = (op.run cfg s.db).1 := by
  cases op <;> rfl

/-- A created header that requires approval is posted only when it was approved since its last
edit. -/
def PostedAfterApproval (s : Tracked) : Prop :=
  ∀ id ∈ s.created, ∀ t, s.db.transactions.get? id = some t → t.approvalRequired = true →
    t.transactionStatus = .posted → id ∈ s.approved

/-- A status stays or moves along an edge of the transition table. -/
def AlongEdge (source target : TransactionStatus) : Prop :=
  target = source ∨ ∃ targets, transactionStatusTransitions source = some targets ∧
    target ∈ targets

/-- Both statuses of a header stay. -/
def KeepsStatuses (before after : Transaction) : Prop :=
  after.transactionStatus = before.transactionStatus ∧
    after.approvalStatus = before.approvalStatus

/-- A call moves a header's status along an edge, and an edit moves neither status. -/
def Controls (op : Operation) (before after : Transaction) : Prop :=
  AlongEdge before.transactionStatus after.transactionStatus ∧
    (∀ env id req, op = .update env id req → KeepsStatuses before after)

/-- The edit request carries the statuses stored under the identifier. -/
def Carries (db : Database) (id : Uuid) (req : Transaction) : Prop :=
  ∀ t, db.transactions.get? id = some t →
    storedStatus req.transactionStatus = t.transactionStatus ∧
      storedApproval req.approvalStatus = t.approvalStatus

/-- Every edit carries the stored statuses. -/
def Guard (s : Tracked) : Operation → Prop
  | .update _ id req => Carries s.db id req
  | _ => True

theorem StatusStep.alongEdge {before after : Transaction} (moved : StatusStep before after) :
    AlongEdge before.transactionStatus after.transactionStatus := by
  rcases moved with same | ⟨approved, posted⟩
  · exact .inl same
  · exact .inr ⟨_, by rw [approved]; rfl, by simp [posted]⟩

theorem update_keeps {req : Transaction} (carries : Carries db req.id req)
    (wrote : db.update env req = .ok db') :
    Table.Evolves KeepsStatuses db.transactions db'.transactions :=
  evolves_of_updateWhere wrote (fun _ => rfl) (fun _ => ⟨rfl, rfl⟩)
    (fun t held _ => carries t held)

/-- An edit that carries the stored statuses keeps both statuses of every header. -/
theorem updateTransaction_keeps {req : Transaction} (carries : Carries db id req) :
    Table.Evolves KeepsStatuses db.transactions
      (updateTransaction env db id req).1.transactions := by
  have stays : Table.Evolves KeepsStatuses db.transactions db.transactions :=
    Table.Evolves.refl (fun _ => ⟨rfl, rfl⟩) _
  unfold updateTransaction
  repeat' split
  · exact stays
  · exact stays
  · exact stays
  · exact stays
  · exact stays
  · rename_i written wrote
    exact @update_keeps env db written { req with id := id } carries wrote

variable {op : Operation} {s : Tracked}

/-- Every guarded call lets headers only grow and move. -/
theorem run_grows (guard : Guard s op) :
    Grows s.db (op.run cfg s.db).1 := by
  cases op with
  | create env req => exact createTransaction_grows
  | update env id req =>
    intro k t held
    obtain ⟨old, heldOld, same, -⟩ := updateTransaction_keeps guard k t held
    exact .inl ⟨old, heldOld, .inl same⟩
  | approve env id notes => exact approveTransaction_moves.grows
  | reject env id reason notes => exact rejectTransaction_moves.grows
  | post env id date => exact postTransaction_moves.grows
  | reverse env id reason => exact reverseTransaction_grows

/-- Every guarded call controls the stored statuses. -/
theorem run_controls (guard : Guard s op) {t t' : Transaction}
    (before : s.db.transactions.get? id = some t)
    (after : (op.run cfg s.db).1.transactions.get? id = some t') : Controls op t t' := by
  constructor
  · rcases run_grows guard id t' after with ⟨old, heldOld, moved⟩ | ⟨fresh, -⟩
    · cases before.symm.trans heldOld
      exact moved.alongEdge
    · simp [before] at fresh
  · rintro env k req rfl
    obtain ⟨old, heldOld, same⟩ := updateTransaction_keeps guard id t' after
    cases before.symm.trans heldOld
    exact same

/-- The headers that `CreateTransaction` stored are drafts. -/
def CreatedAreDrafts (s : Tracked) : Prop :=
  ∀ id ∈ s.created, ∀ t, s.db.transactions.get? id = some t → t.transactionStatus = .draft

theorem step_keeps_drafts (guard : Guard s op) (drafts : CreatedAreDrafts s) :
    CreatedAreDrafts (step cfg s op) := by
  intro id member t held
  rw [step_db] at held
  rcases run_grows guard id t held with ⟨old, heldOld, moved⟩ | ⟨-, draft⟩
  · have known : id ∈ s.created := by
      cases op with
      | create env req =>
        simp only [step] at member
        split at member
        · rename_i fresh
          rcases List.mem_cons.mp member with rfl | later
          · simp [appeared, heldOld] at fresh
          · exact later
        · exact member
      | update => exact member
      | approve => exact member
      | reject => exact member
      | post => exact member
      | reverse => exact member
    have oldDraft := drafts id known old heldOld
    rcases moved with same | ⟨approved, -⟩
    · exact same.trans oldDraft
    · simp [oldDraft] at approved
  · exact draft

/--
In every run of service calls whose edits carry the stored statuses, whoever
makes the calls and whatever fails: each call moves every stored status along
the transition table, no edit moves a status or approval status, and a created
header that requires approval is posted only after an approval that succeeded
since its last edit.
-/
theorem guarded_run_controls_status {start s : Tracked} (fresh : start.created = [])
    (run : Run (step cfg) Guard start s) :
    PostedAfterApproval s ∧
      ∀ op, Guard s op → ∀ id t t', s.db.transactions.get? id = some t →
        (step cfg s op).db.transactions.get? id = some t' → Controls op t t' := by
  have drafts : CreatedAreDrafts s := by
    refine run.invariant ?_ (fun _ _ guard => step_keeps_drafts guard)
    simp [CreatedAreDrafts, fresh]
  constructor
  · intro id member t held _ posted
    simp [drafts id member t held] at posted
  · intro op guard id t t' before after
    rw [step_db] at after
    exact run_controls guard before after

/-! ## An edit that approves -/

/-- A service without a transaction runner. -/
def bestEffort : Config := { txRunner := false }

def emptyDatabase : Database where
  transactions := { rows := [], nodup := by simp }
  entries := []
  accounts := { rows := [], nodup := by simp }
  periods := []
  balances := fun _ _ => none
  reversals := []

/--
Creating the sample rent.  Its entries carry no rate and are refused, and the
deletion that should take the header back fails.
-/
def createRent : Operation :=
  .create
    { caller := { tenantID := some 7, userID := some 21 }, now := ⟨2024, 5, 6, 0, by decide⟩,
      fails := fun call => call = .delete, newID := 2, assignedID := 1 }
    { transactionNumber := "TXN-2024-000001", transactionType := .manual,
      transactionDate := ⟨2024, 5, 6, 0, by decide⟩, description := "Office rent May",
      currencyCode := "USD", exchangeRate := 1,
      entries := [
        { accountID := 11, debitAmount := 100, description := "Office rent", exchangeRate := 1 },
        { accountID := 12, creditAmount := 100, description := "Office rent", exchangeRate := 1 }] }

def approveByEdit : Operation :=
  .update
    { caller := { tenantID := some 7, userID := some 21 }, now := ⟨2024, 5, 7, 0, by decide⟩ } 1
    { Transaction.rentDraft with
      transactionStatus := .approved
      approvalRequired := true
      approvalStatus := .approved
      approvedBy := some 21
      approvedAt := some ⟨2024, 5, 7, 0, by decide⟩ }

def rentCreated : Tracked := step bestEffort ⟨emptyDatabase, [], []⟩ createRent

/-- Creating the rent and then trying to approve it is a run of the theorem. -/
theorem guarded_run_controls_status_rent :
    PostedAfterApproval (step bestEffort rentCreated (.approve rentCaller 1 "checked")) ∧
      ∀ op, Guard (step bestEffort rentCreated (.approve rentCaller 1 "checked")) op →
        ∀ id t t',
          (step bestEffort rentCreated (.approve rentCaller 1 "checked")).db.transactions.get? id =
            some t →
          (step bestEffort (step bestEffort rentCreated (.approve rentCaller 1 "checked"))
            op).db.transactions.get? id = some t' → Controls op t t' := by
  have created : Run (step bestEffort) Guard ⟨emptyDatabase, [], []⟩ rentCreated :=
    .tail createRent .refl trivial
  have tried := Run.tail (Operation.approve rentCaller 1 "checked") created trivial
  exact guarded_run_controls_status rfl tried

/-- The edit moves a created draft that is pending approval to approved in both statuses. -/
theorem edit_approves_created_draft :
    ¬ ∀ (cfg : Config) (start s : Tracked), start.created = [] →
      Run (step cfg) (fun _ _ => True) start s →
      PostedAfterApproval s ∧
        ∀ op, ∀ id ∈ s.created, ∀ t t', s.db.transactions.get? id = some t →
          (step cfg s op).db.transactions.get? id = some t' → Controls op t t' := by
  intro claim
  have created : Run (step bestEffort) (fun _ _ => True) ⟨emptyDatabase, [], []⟩ rentCreated :=
    .tail createRent .refl trivial
  have controls := (claim _ _ _ rfl created).2 approveByEdit 1 (by decide +kernel)
  have pending : (rentCreated.db.transactions.get? 1).map Transaction.approvalStatus =
      some .pending := by decide +kernel
  have approved : ((step bestEffort rentCreated approveByEdit).db.transactions.get? 1).map
      Transaction.approvalStatus = some .approved := by decide +kernel
  obtain ⟨t, before, wasPending⟩ := Option.map_eq_some_iff.mp pending
  obtain ⟨t', after, isApproved⟩ := Option.map_eq_some_iff.mp approved
  have kept := ((controls t t' before after).2 _ _ _ rfl).2
  simp [wasPending, isApproved] at kept

end ErpFinance.Service.TransactionService
