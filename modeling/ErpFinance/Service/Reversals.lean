import ErpFinance.Library.Except
import ErpFinance.Service.AccountBalances
import ErpFinance.Service.ReversalEngine

/-!
# Reversals

What runs of interleaved reversal requests keep true.  The requests for one
original do not exclude each other, and marking the original is a call of its
own, so the guard of a step says what has to be excluded: a second request for
an original that is on its way, and a failing mark.  Posting a reversal that
was just created is refused by the posting engine in every run.
-/

namespace ErpFinance.Service

open Domain Library

namespace ReversalEngine

open PostingEngine (getByID getByID_ok postTransaction)

/-! ## What a run has to keep -/

/-- The reversal of a finished request is posted and has taken the balances back. -/
def AutoPosted (prior : Uuid → Uuid → Decimal) (s : Store) (call : Call) : Prop :=
  ∃ created stored, call.result.reversalTransaction = some created ∧
    s.ledger.transactions.get? created.id = some stored ∧
    stored.transactionStatus = .posted ∧
    ∀ e ∈ stored.entries, ∀ a, s.ledger.accounts.get? e.accountID = some a →
      a.currentBalance = prior call.req.originalTransactionID e.accountID

/-- Every original has at most one reversal. -/
def ReversedOnce (s : Store) : Prop := (s.reversals.map Prod.fst).Nodup

def ReversalsCancel (s : Store) : Prop :=
  ∀ pair ∈ s.reversals, ∃ original reversal,
    s.ledger.transactions.get? pair.1 = some original ∧
    s.ledger.transactions.get? pair.2 = some reversal ∧
    NetsToZero (original.entries ++ reversal.entries)

/-- The client's request has just succeeded. -/
def Client.Succeeded (client : Client) (call : Call) : Prop :=
  client.call = some call ∧ call.stage = .done none

def ReversesUnmarked (before after : Store) : Prop :=
  ∀ pair ∈ after.reversals, pair ∉ before.reversals →
    ∀ t, before.ledger.transactions.get? pair.1 = some t → t.isReversed = false

/-! ## Requests on their way -/

/-- The original a request holds between reading it and marking it. -/
def Stage.original : Stage → Option Transaction
  | validate original => some original
  | checkHistory original _ => some original
  | draft original => some original
  | create original _ => some original
  | mark original _ => some original
  | _ => none

def Client.reversing (client : Client) : Option Uuid :=
  match client.call with
  | none => none
  | some call =>
    if call.stage.original.isSome then some call.req.originalTransactionID else none

variable {id : Uuid}

theorem Client.reversing_eq_some_iff {client : Client} :
    client.reversing = some id ↔ ∃ call, client.call = some call ∧
      call.stage.original.isSome = true ∧ call.req.originalTransactionID = id := by
  unfold Client.reversing
  cases client.call <;> simp

/-- No two clients reverse the same original. -/
def Apart (first second : Client) : Prop :=
  ∀ id, first.reversing = some id → second.reversing ≠ some id

/--
A request starts on an original only when no other request holds it, and an
original is marked without failure.
-/
def CallGuard (s : Engine) (index : Nat) (call : Call) (env : CallEnv) : Prop :=
  match call.stage with
  | .load => ∀ (other : Nat) (client : Client), other ≠ index → s.clients[other]? = some client →
      client.reversing ≠ some call.req.originalTransactionID
  | .mark _ _ => env.fails = false
  | _ => True

def Guard (s : Engine) : Input → Prop
  | .act index env => ∀ client call, s.clients[index]? = some client → client.call = some call →
      CallGuard s index call env
  | _ => True

/-! ## What a request asserts -/

def Loaded (s : Store) (call : Call) (original : Transaction) : Prop :=
  original.id = call.req.originalTransactionID ∧
    ∃ stored, s.ledger.transactions.get? call.req.originalTransactionID = some stored ∧
      stored.entries = original.entries

def Eligible (s : Store) (id : Uuid) : Prop :=
  ∀ t, s.ledger.transactions.get? id = some t →
    t.transactionStatus = .posted ∧ t.isReversed = false

/-- The request reports a reversal that was stored. -/
def Stored (s : Store) (call : Call) (reversal : Transaction) : Prop :=
  call.result.reversalTransaction = some reversal ∧ reversal.id ∈ s.reversals.map Prod.snd

def CallHolds (s : Store) (call : Call) : Prop :=
  match call.stage with
  | .load => True
  | .validate original => Loaded s call original
  | .checkHistory original found => Loaded s call original ∧
      (found.errors = [] → Eligible s call.req.originalTransactionID)
  | .draft original => Loaded s call original ∧ Eligible s call.req.originalTransactionID
  | .create original reversal => Loaded s call original ∧
      Eligible s call.req.originalTransactionID ∧
      NetsToZero (original.entries ++ reversal.entries) ∧
      reversal.transactionStatus = .draft ∧ call.result.reversalTransaction = some reversal
  | .mark original reversal => Loaded s call original ∧
      Eligible s call.req.originalTransactionID ∧ Stored s call reversal
  | .record reversal => Stored s call reversal
  | .post reversal => Stored s call reversal
  | .done err => err = none → ∃ reversal, Stored s call reversal

def Holds (s : Store) (client : Client) : Prop :=
  ∀ call, client.call = some call → CallHolds s call

/-! ## The reversal cancels the original -/

theorem entryNet_reversalEntry (newID : Nat → Uuid) (tenantID reversalID : Uuid)
    (indexed : TransactionEntry × Nat) :
    entryNet (reversalEntry newID tenantID reversalID indexed) = -entryNet indexed.1 := by
  simp [entryNet, reversalEntry]

/-- The entries of a reversal land with the sign of the original's turned. -/
theorem netOn_reversalEntries (newID : Nat → Uuid) (tenantID reversalID : Uuid)
    (entries : List TransactionEntry) (id : Uuid) :
    netOn (entries.zipIdx.map (reversalEntry newID tenantID reversalID)) id =
      -netOn entries id := by
  have turned : (entryNet ∘ reversalEntry newID tenantID reversalID) =
      fun indexed => -(entryNet ∘ Prod.fst) indexed := by
    funext indexed
    exact entryNet_reversalEntry newID tenantID reversalID indexed
  have placed : TransactionEntry.accountID ∘ reversalEntry newID tenantID reversalID =
      TransactionEntry.accountID ∘ Prod.fst := rfl
  rw [netOn, landed_map, turned, placed, landed_neg, ← landed_map, List.zipIdx_map_fst]

theorem cancels_of_createReversalFromOriginal {env : CallEnv} {original reversal : Transaction}
    {req : CreateReversalRequest}
    (created : createReversalFromOriginal env original req = .ok reversal) :
    NetsToZero (original.entries ++ reversal.entries) ∧
      reversal.transactionStatus = .draft := by
  unfold createReversalFromOriginal at created
  obtain ⟨number, _, built⟩ := bind_eq_ok_iff.mp created
  cases built
  refine ⟨?_, rfl⟩
  intro id
  rw [netOn, landed_append, Transaction.calculateTotals]
  rw [show landed TransactionEntry.accountID entryNet _ id = -netOn original.entries id from
    netOn_reversalEntries env.newID original.tenantID (env.newID 0) original.entries id]
  exact add_neg_cancel _

/-! ## What the eligibility check says -/

theorem finalLevel_canReverse {found : ReversalValidationResult}
    (eligible : (finalLevel found).canReverse = true) : found.errors = [] := by
  by_contra some_
  simp [finalLevel, some_] at eligible

theorem errors_checkAge (now : Time) (t : Transaction) (result : ReversalValidationResult) :
    (checkAge now t result).errors = result.errors := by
  unfold checkAge
  split
  · rfl
  · dsimp only
    split <;> rfl

theorem eligible_of_eligibility {now : Time} {t : Transaction}
    (clean : (eligibility now t).errors = []) :
    t.transactionStatus = .posted ∧ t.isReversed = false := by
  rw [eligibility, errors_checkAge] at clean
  cases reversed : t.isReversed with
  | true => simp [checkNotReversed, reversed, refuse] at clean
  | false =>
    refine ⟨?_, rfl⟩
    by_contra notPosted
    simp [checkNotReversed, reversed, checkPosted, notPosted, refuse] at clean

theorem errors_of_checkNoReversal {isReversal : Bool} {found : ReversalValidationResult}
    (clean : (checkNoReversal id isReversal found).errors = []) : found.errors = [] := by
  cases isReversal with
  | true => simp [checkNoReversal, refuse] at clean
  | false => exact clean

/-! ## What one call does -/

/-- A stored transaction that is still a draft. -/
def IsDraft (s : Store) (id : Uuid) : Prop :=
  ∃ t, s.ledger.transactions.get? id = some t ∧ t.transactionStatus = .draft

theorem postTransaction_draft {tolerance : Decimal} {env : PostingEnv} {s : Store}
    {req : PostingEngine.PostTransactionRequest} (draft : IsDraft s req.transactionID) :
    (postTransaction tolerance env s.ledger req).ledger = s.ledger := by
  rcases PostingEngine.postTransaction_cases tolerance env s.ledger req with
    ⟨result, err, stopped, _⟩ | ⟨t, posted, result, accepted, _⟩
  · rw [stopped]
  · obtain ⟨stored, found, isDraft⟩ := draft
    rw [getByID_ok accepted.found] at found
    cases found
    have approved := PostingEngine.approved_of_canTransitionTo_posted accepted.allowed
    rw [isDraft] at approved
    cases approved

/-- What a repository call of a request writes, and where the request stands after it. -/
inductive Effect (s : Store) (call : Call) (env : CallEnv) : Store → Call → Prop where
  | quiet (history : List ReversalHistoryRecord) (after : Call)
      (failedMark : ∀ original reversal, call.stage = .mark original reversal →
        env.fails = true) : Effect s call env { s with history := history } after
  | creates (original reversal : Transaction) (after : Call)
      (atCreate : call.stage = .create original reversal)
      (fresh : s.ledger.transactions.get? reversal.id = none)
      (next : after.stage = .mark original reversal) (sameReq : after.req = call.req) :
      Effect s call env
        { s with
          ledger := { s.ledger with transactions := s.ledger.transactions.insert reversal }
          reversals := s.reversals ++ [(call.req.originalTransactionID, reversal.id)] } after
  | marks (original reversal : Transaction) (after : Call)
      (atMark : call.stage = .mark original reversal) :
      Effect s call env
        { s with ledger := { s.ledger with
            transactions := s.ledger.transactions.put
              (markReversed original reversal call.req) } } after

/-- A call leaves the tables alone, stores a reversal or marks an original. -/
theorem advance_effect {cfg : Config} {s : Store} {call : Call} {env : CallEnv}
    (draft : ∀ reversal, call.stage = .post reversal → IsDraft s reversal.id) :
    Effect s call env (advance cfg s call env).1 (advance cfg s call env).2 := by
  have unwritten : ∀ after : Call, (∀ original reversal, call.stage ≠ .mark original reversal) →
      Effect s call env s after :=
    fun after notMark => .quiet s.history after
      (fun original reversal atMark => absurd atMark (notMark original reversal))
  unfold advance
  cases stage : call.stage with
  | load =>
    dsimp only
    split <;> exact unwritten _ (by simp [stage])
  | validate original =>
    dsimp only
    split
    · exact unwritten _ (by simp [stage])
    · split <;> exact unwritten _ (by simp [stage])
  | checkHistory original found => exact unwritten _ (by simp [stage])
  | draft original =>
    dsimp only
    split <;> exact unwritten _ (by simp [stage])
  | create original reversal =>
    dsimp only
    split
    · exact unwritten _ (by simp [stage])
    · rename_i stored
      simp only [Bool.or_eq_true, not_or, Bool.not_eq_true, Option.isSome_eq_false_iff,
        Option.isNone_iff_eq_none] at stored
      exact .creates original reversal _ stage stored.2 rfl rfl
  | mark original reversal =>
    dsimp only
    split
    · rename_i fails
      exact .quiet s.history _ (fun _ _ _ => fails)
    · exact .marks original reversal _ stage
  | record reversal =>
    dsimp only
    split
    · exact unwritten _ (by simp [stage])
    · split
      · exact unwritten _ (by simp [stage])
      · exact .quiet _ _ (by simp [stage])
  | post reversal =>
    dsimp only
    have refused : IsDraft s (call.postRequest reversal).transactionID := draft reversal stage
    rw [postTransaction_draft refused]
    exact unwritten _ (by simp [stage])
  | done err => exact unwritten _ (by simp [stage])

/-- A call keeps the request, and holds an original only if it did or has just read it. -/
theorem advance_holding {cfg : Config} {s : Store} {call : Call} {env : CallEnv} :
    (advance cfg s call env).2.req = call.req ∧
      ((advance cfg s call env).2.stage.original.isSome = true →
        call.stage.original.isSome = true ∨ call.stage = .load) := by
  have judged : ∀ original verdict, (call.judge original verdict).req = call.req := by
    intro original verdict
    unfold Call.judge
    split <;> rfl
  have recorded : ∀ (other : Call) reversal, (other.afterHistory reversal).req = other.req ∧
      (other.afterHistory reversal).stage.original = none := by
    intro other reversal
    unfold Call.afterHistory
    split <;> exact ⟨rfl, rfl⟩
  unfold advance
  cases stage : call.stage with
  | load =>
    dsimp only
    split <;> exact ⟨rfl, fun _ => Or.inr rfl⟩
  | validate original =>
    dsimp only
    split
    · exact ⟨judged _ _, fun _ => Or.inl rfl⟩
    · split
      · exact ⟨rfl, fun _ => Or.inl rfl⟩
      · exact ⟨judged _ _, fun _ => Or.inl rfl⟩
  | checkHistory original found => exact ⟨judged _ _, fun _ => Or.inl rfl⟩
  | draft original =>
    dsimp only
    split <;> exact ⟨rfl, fun _ => Or.inl rfl⟩
  | create original reversal =>
    dsimp only
    split <;> exact ⟨rfl, fun _ => Or.inl rfl⟩
  | mark original reversal =>
    dsimp only
    split <;> exact ⟨rfl, fun _ => Or.inl rfl⟩
  | record reversal =>
    dsimp only
    split
    · exact ⟨(recorded _ _).1, by simp [(recorded _ _).2]⟩
    · split <;> exact ⟨(recorded _ _).1, by simp [(recorded _ _).2]⟩
  | post reversal =>
    dsimp only
    split <;> exact ⟨rfl, by simp [Call.succeed, Stage.original]⟩
  | done err => exact ⟨rfl, by simp [stage, Stage.original]⟩

section Assertions

variable {s : Store} {call : Call} {original : Transaction}

/-- A new row does not hide an old one. -/
theorem get?_insert_of_some {table : Table Transaction} {new row : Transaction} {id : Uuid}
    (fresh : table.get? new.id = none) (found : table.get? id = some row) :
    (table.insert new).get? id = some row := by
  rw [Table.get?_insert fresh, if_neg]
  · exact found
  · rintro rfl
    rw [show Keyed.key new = new.id from rfl, fresh] at found
    cases found

theorem holds_fail (message err : String) : CallHolds s (call.fail message err) := by
  simp [CallHolds, Call.fail]

theorem holds_afterHistory {reversal : Transaction} (stored : Stored s call reversal) :
    CallHolds s (call.afterHistory reversal) := by
  unfold Call.afterHistory
  split
  · exact stored
  · exact fun _ => ⟨reversal, stored⟩

theorem holds_judge {verdict : ReversalValidationResult} (loaded : Loaded s call original)
    (eligible : verdict.canReverse = true → Eligible s call.req.originalTransactionID) :
    CallHolds s (call.judge original verdict) := by
  unfold Call.judge
  cases accepted : verdict.canReverse with
  | true => exact ⟨loaded, eligible accepted⟩
  | false => exact nofun

/-- Reading the transaction and finding nothing to object shows that it is eligible. -/
theorem eligible_of_read {env : CallEnv} {t : Transaction}
    (read : getByID s.ledger.transactions "transaction not found" env.fails
      call.req.originalTransactionID = .ok t)
    (clean : (eligibility env.now t).errors = []) :
    Eligible s call.req.originalTransactionID := by
  intro stored found
  rw [getByID_ok read] at found
  cases found
  exact eligible_of_eligibility clean

theorem Eligible.of_row {after : Store} {id : Uuid} {row : Transaction}
    (eligible : Eligible s id) (found : s.ledger.transactions.get? id = some row)
    (foundAfter : after.ledger.transactions.get? id = some row) : Eligible after id := by
  intro t foundT
  rw [foundAfter] at foundT
  cases foundT
  exact eligible row found

/-- Rows that stay keep what a request asserts about its original. -/
theorem CallHolds.of_kept {after : Store} (holds : CallHolds s call)
    (grows : ∀ id, id ∈ s.reversals.map Prod.snd → id ∈ after.reversals.map Prod.snd)
    (kept : call.stage.original.isSome = true → ∀ t,
      s.ledger.transactions.get? call.req.originalTransactionID = some t →
        after.ledger.transactions.get? call.req.originalTransactionID = some t) :
    CallHolds after call := by
  have loaded : ∀ original, call.stage.original.isSome = true → Loaded s call original →
      Loaded after call original := by
    rintro original holding ⟨sameID, stored, found, sameEntries⟩
    exact ⟨sameID, stored, kept holding stored found, sameEntries⟩
  have eligible : ∀ original, call.stage.original.isSome = true → Loaded s call original →
      Eligible s call.req.originalTransactionID →
        Eligible after call.req.originalTransactionID := by
    rintro original holding ⟨_, stored, found, _⟩ before
    exact before.of_row found (kept holding stored found)
  have recorded : ∀ reversal, Stored s call reversal → Stored after call reversal :=
    fun reversal stored => ⟨stored.1, grows reversal.id stored.2⟩
  unfold CallHolds at holds ⊢
  cases stage : call.stage with
  | load => trivial
  | validate original =>
    rw [stage] at holds
    exact loaded original (by simp [stage, Stage.original]) holds
  | checkHistory original found =>
    rw [stage] at holds
    have holding : call.stage.original.isSome = true := by simp [stage, Stage.original]
    exact ⟨loaded original holding holds.1,
      fun clean => eligible original holding holds.1 (holds.2 clean)⟩
  | draft original =>
    rw [stage] at holds
    have holding : call.stage.original.isSome = true := by simp [stage, Stage.original]
    exact ⟨loaded original holding holds.1, eligible original holding holds.1 holds.2⟩
  | create original reversal =>
    rw [stage] at holds
    have holding : call.stage.original.isSome = true := by simp [stage, Stage.original]
    exact ⟨loaded original holding holds.1, eligible original holding holds.1 holds.2.1,
      holds.2.2⟩
  | mark original reversal =>
    rw [stage] at holds
    have holding : call.stage.original.isSome = true := by simp [stage, Stage.original]
    exact ⟨loaded original holding holds.1, eligible original holding holds.1 holds.2.1,
      recorded reversal holds.2.2⟩
  | record reversal =>
    rw [stage] at holds
    exact recorded reversal holds
  | post reversal =>
    rw [stage] at holds
    exact recorded reversal holds
  | done err =>
    rw [stage] at holds
    intro succeeded
    obtain ⟨reversal, stored⟩ := holds succeeded
    exact ⟨reversal, recorded reversal stored⟩

/-- A request whose guard is met asserts the next stage's facts after its call. -/
theorem advance_holds {cfg : Config} {engine : Engine} {index : Nat} {env : CallEnv}
    (holds : CallHolds engine.shared call) (guard : CallGuard engine index call env)
    (draft : ∀ reversal, call.stage = .post reversal → IsDraft engine.shared reversal.id) :
    CallHolds (advance cfg engine.shared call env).1 (advance cfg engine.shared call env).2 := by
  unfold CallHolds at holds
  unfold CallGuard at guard
  unfold advance
  cases stage : call.stage with
  | load =>
    dsimp only
    split
    · exact holds_fail _ _
    · rename_i original read
      exact ⟨Table.key_of_get? (getByID_ok read), original, getByID_ok read, rfl⟩
  | validate original =>
    rw [stage] at holds
    dsimp only
    split
    · show CallHolds engine.shared (call.judge original (notFoundResult _))
      apply holds_judge holds
      intro accepted
      simp [notFoundResult] at accepted
    · rename_i t read
      split
      · exact ⟨holds, fun clean => eligible_of_read read clean⟩
      · exact holds_judge holds
          (fun accepted => eligible_of_read read (finalLevel_canReverse accepted))
  | checkHistory original found =>
    rw [stage] at holds
    exact holds_judge holds.1 (fun accepted =>
      holds.2 (errors_of_checkNoReversal (finalLevel_canReverse accepted)))
  | draft original =>
    rw [stage] at holds
    dsimp only
    split
    · exact holds_fail _ _
    · rename_i reversal created
      obtain ⟨cancels, isDraft⟩ := cancels_of_createReversalFromOriginal created
      exact ⟨holds.1, holds.2, cancels, isDraft, rfl⟩
  | create original reversal =>
    rw [stage] at holds
    dsimp only
    split
    · exact holds_fail _ _
    · rename_i accepted
      simp only [Bool.or_eq_true, not_or, Bool.not_eq_true, Option.isSome_eq_false_iff,
        Option.isNone_iff_eq_none] at accepted
      obtain ⟨⟨sameID, row, found, sameEntries⟩, eligible, _, _, reported⟩ := holds
      have foundAfter : (engine.shared.ledger.transactions.insert reversal).get?
          call.req.originalTransactionID = some row :=
        get?_insert_of_some accepted.2 found
      exact ⟨⟨sameID, row, foundAfter, sameEntries⟩, eligible.of_row found foundAfter,
        reported, by simp⟩
  | mark original reversal =>
    rw [stage] at holds guard
    dsimp only
    rw [if_neg (by simp [guard])]
    exact holds.2.2
  | record reversal =>
    rw [stage] at holds
    dsimp only
    split
    · exact holds_afterHistory holds
    · split
      · apply holds_afterHistory
        exact holds
      · exact holds_afterHistory (s := { engine.shared with history := _ }) holds
  | post reversal =>
    rw [stage] at holds
    have refused : IsDraft engine.shared (call.postRequest reversal).transactionID :=
      draft reversal stage
    dsimp only
    rw [postTransaction_draft refused]
    intro _
    split <;> exact ⟨reversal, holds⟩
  | done err =>
    rw [stage] at holds
    simp only [CallHolds, stage]
    exact holds

end Assertions

/-! ## The invariant of a run -/

def Marked (s : Store) (id : Uuid) : Prop :=
  ∃ t, s.ledger.transactions.get? id = some t ∧ t.isReversed = true

def Client.Marking (client : Client) (id : Uuid) : Prop :=
  ∃ call original reversal, client.call = some call ∧ call.stage = .mark original reversal ∧
    call.req.originalTransactionID = id

def BeingMarked (clients : List Client) (id : Uuid) : Prop :=
  ∃ (index : Nat) (client : Client), clients[index]? = some client ∧ client.Marking id

/--
The requests are coherent, no original is reversed twice, every reversal is a
draft that cancels its original, and an original with a reversal is marked or
about to be.
-/
structure Inv (s : Engine) : Prop where
  coherent : System.Coherent Holds Apart s
  once : ReversedOnce s.shared
  cancels : ReversalsCancel s.shared
  drafts : ∀ id ∈ s.shared.reversals.map Prod.snd, IsDraft s.shared id
  marked : ∀ pair ∈ s.shared.reversals, Marked s.shared pair.1 ∨ BeingMarked s.clients pair.1

theorem Client.not_marking {client : Client} {call : Call} (foundCall : client.call = some call)
    (notMark : ∀ original reversal, call.stage ≠ .mark original reversal) (id : Uuid) :
    ¬ client.Marking id := by
  rintro ⟨other, original, reversal, foundOther, atMark, _⟩
  rw [foundCall] at foundOther
  cases foundOther
  exact notMark original reversal atMark

theorem Client.Marking.reversing {client : Client} (marking : client.Marking id) :
    client.reversing = some id := by
  obtain ⟨call, original, reversal, foundCall, atMark, same⟩ := marking
  exact Client.reversing_eq_some_iff.mpr
    ⟨call, foundCall, by simp [atMark, Stage.original], same⟩

section Steps

variable {s : Engine} {index : Nat} {client : Client}

variable {new : Client}

/-- A newcomer without a call under way keeps the invariant. -/
theorem Inv.arrive (inv : Inv s) (idle : new.call = none) :
    Inv { s with clients := s.clients ++ [new] } where
  coherent := by
    have quiet : new.reversing = none := by simp [Client.reversing, idle]
    apply inv.coherent.arrive
    · intro call found
      rw [idle] at found
      cases found
    · intro other second _
      constructor
      · intro id reversing
        simp [quiet] at reversing
      · intro id _
        simp [quiet]
  once := inv.once
  cancels := inv.cancels
  drafts := inv.drafts
  marked := by
    intro pair member
    rcases inv.marked pair member with isMarked | ⟨other, second, found, marking⟩
    · exact Or.inl isMarked
    · refine Or.inr ⟨other, second, ?_, marking⟩
      dsimp only
      rw [List.getElem?_append_left]
      · exact found
      · exact (List.getElem?_eq_some_iff.mp found).1

/-- What the other clients need from a step: apartness from the client after it. -/
theorem apart_after (inv : Inv s) (found : s.clients[index]? = some client)
    (holding : ∀ id, new.reversing = some id → client.reversing = some id ∨ ∀ (other : Nat) (second
      : Client), other ≠ index → s.clients[other]? = some second → second.reversing ≠ some id)
    (other : Nat) (second : Client) (different : other ≠ index)
    (foundOther : s.clients[other]? = some second) : Apart new second ∧ Apart second new := by
  have forward : Apart new second := by
    intro id reversing
    rcases holding id reversing with before | free
    · exact inv.coherent.pairs index other client second (Ne.symm different) found foundOther id
        before
    · exact free other second different foundOther
  exact ⟨forward, fun id second new => forward id new second⟩

theorem Inv.alone (inv : Inv s) (found : s.clients[index]? = some client) {id : Uuid}
    (holding : client.reversing = some id) {other : Nat} {second : Client}
    (different : other ≠ index) (foundOther : s.clients[other]? = some second) :
    second.reversing ≠ some id :=
  inv.coherent.pairs index other client second (Ne.symm different) found foundOther id holding

/-- A holder whose call keeps its request stays apart from the others. -/
theorem Inv.apart_of_sameReq (inv : Inv s) (found : s.clients[index]? = some client)
    {call after : Call} (holding : client.reversing = some call.req.originalTransactionID)
    (sameReq : after.req = call.req) (other : Nat) (second : Client) (different : other ≠ index)
    (foundOther : s.clients[other]? = some second) :
    Apart { client with call := some after } second ∧
      Apart second { client with call := some after } := by
  apply apart_after inv found _ other second different foundOther
  intro id reversing
  obtain ⟨call', foundCall', _, same⟩ := Client.reversing_eq_some_iff.mp reversing
  cases foundCall'
  rw [sameReq] at same
  rw [holding, same]
  exact Or.inl rfl

/-- No reversal of an unmarked original is stored before its holder comes to mark it. -/
theorem Inv.unseen (inv : Inv s) (found : s.clients[index]? = some client) {id : Uuid}
    (holding : client.reversing = some id) (notMarking : ¬ client.Marking id)
    (eligible : Eligible s.shared id) : ∀ pair ∈ s.shared.reversals, pair.1 ≠ id := by
  intro pair member same
  rcases inv.marked pair member with ⟨t, foundT, isMarked⟩ | ⟨other, second, foundOther, marking⟩
  · rw [same] at foundT
    rw [(eligible t foundT).2] at isMarked
    cases isMarked
  · rw [same] at marking
    by_cases here : other = index
    · rw [here, found] at foundOther
      cases foundOther
      exact notMarking marking
    · exact inv.alone found holding here foundOther marking.reversing

/-- A step takes at most the marking of the client that makes it. -/
theorem beingMarked_after {id : Uuid} (being : BeingMarked s.clients id)
    (found : s.clients[index]? = some client) (new : Client) :
    client.Marking id ∨ BeingMarked (s.clients.set index new) id := by
  obtain ⟨other, second, foundOther, marking⟩ := being
  by_cases same : other = index
  · rw [same, found] at foundOther
    cases foundOther
    exact Or.inl marking
  · refine Or.inr ⟨other, second, ?_, marking⟩
    rw [List.getElem?_set_ne (Ne.symm same)]
    exact foundOther

/-- A step of a client that writes nothing and was not marking keeps the invariant. -/
theorem Inv.act_quiet (inv : Inv s) (history : List ReversalHistoryRecord)
    (found : s.clients[index]? = some client) (own : Holds { s.shared with history := history } new)
    (holding : ∀ id, new.reversing = some id → client.reversing = some id ∨ ∀ (other : Nat) (second
      : Client), other ≠ index → s.clients[other]? = some second → second.reversing ≠ some id)
    (notMarking : ∀ id, ¬ client.Marking id) :
    Inv { shared := { s.shared with history := history }, clients := s.clients.set index new } where
  coherent := by
    apply inv.coherent.act own
    · intro other second _ _ holds call foundCall
      exact (holds call foundCall).of_kept (fun _ member => member) (fun _ _ stored => stored)
    · exact apart_after inv found holding
  once := inv.once
  cancels := inv.cancels
  drafts := inv.drafts
  marked := by
    intro pair member
    rcases inv.marked pair member with isMarked | being
    · exact Or.inl isMarked
    · exact Or.inr ((beingMarked_after being found new).resolve_left (notMarking pair.1))

/-- Storing the reversal of an unmarked original keeps the invariant. -/
theorem Inv.act_creates (inv : Inv s) (found : s.clients[index]? = some client)
    {call after : Call} (foundCall : client.call = some call) {original reversal : Transaction}
    (atCreate : call.stage = .create original reversal)
    (fresh : s.shared.ledger.transactions.get? reversal.id = none)
    (next : after.stage = .mark original reversal) (sameReq : after.req = call.req)
    {store : Store}
    (stored : store = { s.shared with
      ledger := { s.shared.ledger with
        transactions := s.shared.ledger.transactions.insert reversal }
      reversals := s.shared.reversals ++ [(call.req.originalTransactionID, reversal.id)] })
    (own : CallHolds store after) :
    Inv { shared := store, clients := s.clients.set index { client with call := some after } } := by
  have holds := inv.coherent.each index client found call foundCall
  rw [CallHolds, atCreate] at holds
  obtain ⟨⟨sameID, row, foundRow, sameEntries⟩, eligible, cancel, isDraft, _⟩ := holds
  have holding : client.reversing = some call.req.originalTransactionID :=
    Client.reversing_eq_some_iff.mpr ⟨call, foundCall, by simp [atCreate, Stage.original], rfl⟩
  have notMarking := Client.not_marking foundCall (by simp [atCreate])
  have kept : ∀ id t, s.shared.ledger.transactions.get? id = some t →
      store.ledger.transactions.get? id = some t := by
    intro id t foundOld
    rw [stored]
    exact get?_insert_of_some fresh foundOld
  have grows : ∀ id, id ∈ s.shared.reversals.map Prod.snd →
      id ∈ store.reversals.map Prod.snd := by
    intro id member
    rw [stored, List.map_append]
    exact List.mem_append_left _ member
  have foundReversal : store.ledger.transactions.get? reversal.id = some reversal := by
    rw [stored, Table.get?_insert fresh]
    exact if_pos rfl
  have unseen := inv.unseen found holding (notMarking _) eligible
  refine ⟨?_, ?_, ?_, ?_, ?_⟩
  · apply inv.coherent.act
    · intro call' foundCall'
      cases foundCall'
      exact own
    · intro other second _ _ holds call' foundCall'
      exact (holds call' foundCall').of_kept grows (fun _ => kept _)
    · exact inv.apart_of_sameReq found holding sameReq
  · simp only [ReversedOnce, stored, List.map_append, List.map_cons, List.map_nil]
    rw [List.nodup_append']
    refine ⟨inv.once, List.nodup_singleton _, ?_⟩
    intro id old new
    obtain ⟨pair, member, rfl⟩ := List.mem_map.mp old
    exact unseen pair member (by simpa using new)
  · intro pair member
    simp only [stored, List.mem_append, List.mem_singleton] at member
    rcases member with old | rfl
    · obtain ⟨o, r, foundO, foundR, cancelOld⟩ := inv.cancels pair old
      exact ⟨o, r, kept _ o foundO, kept _ r foundR, cancelOld⟩
    · refine ⟨row, reversal, kept _ row foundRow, foundReversal, ?_⟩
      rw [sameEntries]
      exact cancel
  · intro id member
    simp only [stored, List.map_append, List.map_cons, List.map_nil, List.mem_append,
      List.mem_singleton] at member
    rcases member with old | rfl
    · obtain ⟨t, foundT, draft⟩ := inv.drafts id old
      exact ⟨t, kept id t foundT, draft⟩
    · exact ⟨reversal, foundReversal, isDraft⟩
  · intro pair member
    simp only [stored, List.mem_append, List.mem_singleton] at member
    rcases member with old | rfl
    · rcases inv.marked pair old with ⟨t, foundT, isMarked⟩ | being
      · exact Or.inl ⟨t, kept _ t foundT, isMarked⟩
      · exact Or.inr ((beingMarked_after being found _).resolve_left (notMarking pair.1))
    · refine Or.inr ⟨index, { client with call := some after }, ?_, after, original, reversal,
        rfl, next, by rw [sameReq]⟩
      rw [List.getElem?_set_self]
      exact (List.getElem?_eq_some_iff.mp found).1

theorem Inv.act_marks (inv : Inv s) (found : s.clients[index]? = some client)
    {call after : Call} (foundCall : client.call = some call) {original reversal : Transaction}
    (atMark : call.stage = .mark original reversal) (sameReq : after.req = call.req)
    {store : Store}
    (stored : store = { s.shared with ledger := { s.shared.ledger with
      transactions := s.shared.ledger.transactions.put
        (markReversed original reversal call.req) } })
    (own : CallHolds store after) :
    Inv { shared := store, clients := s.clients.set index { client with call := some after } } := by
  have holds := inv.coherent.each index client found call foundCall
  rw [CallHolds, atMark] at holds
  obtain ⟨⟨sameID, row, foundRow, sameEntries⟩, eligible, _⟩ := holds
  have holding : client.reversing = some call.req.originalTransactionID :=
    Client.reversing_eq_some_iff.mpr ⟨call, foundCall, by simp [atMark, Stage.original], rfl⟩
  have markedKey : Keyed.key (markReversed original reversal call.req) =
      call.req.originalTransactionID := sameID
  -- every row keeps its entries, and no mark is taken away
  have kept : ∀ id t, s.shared.ledger.transactions.get? id = some t →
      ∃ t', store.ledger.transactions.get? id = some t' ∧ t'.entries = t.entries ∧
        (t.isReversed = true ∨ id = call.req.originalTransactionID → t'.isReversed = true) := by
    intro id t foundOld
    simp only [stored, Table.get?_put, markedKey]
    by_cases here : id = call.req.originalTransactionID
    · rw [here, foundRow] at foundOld
      cases foundOld
      refine ⟨markReversed original reversal call.req, ?_, sameEntries.symm, fun _ => rfl⟩
      rw [if_pos here, here, foundRow]
      rfl
    · rw [if_neg here]
      exact ⟨t, foundOld, rfl, fun before => before.resolve_right here⟩
  have keptElsewhere : ∀ id, id ≠ call.req.originalTransactionID → ∀ t,
      s.shared.ledger.transactions.get? id = some t →
        store.ledger.transactions.get? id = some t := by
    intro id elsewhere t foundOld
    simp only [stored, Table.get?_put, markedKey, if_neg elsewhere]
    exact foundOld
  refine ⟨?_, ?_, ?_, ?_, ?_⟩
  · apply inv.coherent.act
    · intro call' foundCall'
      cases foundCall'
      exact own
    · intro other second different foundOther holds call' foundCall'
      apply (holds call' foundCall').of_kept (by simp [stored])
      intro isHolding t foundOld
      have elsewhere : call'.req.originalTransactionID ≠ call.req.originalTransactionID := by
        intro same
        have reversing : second.reversing = some call.req.originalTransactionID :=
          Client.reversing_eq_some_iff.mpr ⟨call', foundCall', isHolding, same⟩
        exact inv.alone found holding different foundOther reversing
      exact keptElsewhere _ elsewhere t foundOld
    · exact inv.apart_of_sameReq found holding sameReq
  · rw [stored]
    exact inv.once
  · intro pair member
    rw [stored] at member
    obtain ⟨o, r, foundO, foundR, cancel⟩ := inv.cancels pair member
    obtain ⟨o', foundO', sameO, _⟩ := kept _ o foundO
    obtain ⟨r', foundR', sameR, _⟩ := kept _ r foundR
    exact ⟨o', r', foundO', foundR', by rw [sameO, sameR]; exact cancel⟩
  · intro id member
    rw [stored] at member
    obtain ⟨t, foundT, draft⟩ := inv.drafts id member
    -- the original is posted, so it is none of the drafts
    refine ⟨t, keptElsewhere id ?_ t foundT, draft⟩
    rintro rfl
    rw [(eligible t foundT).1] at draft
    cases draft
  · intro pair member
    rw [stored] at member
    by_cases here : pair.1 = call.req.originalTransactionID
    · rw [here]
      obtain ⟨row', foundRow', _, isMarked⟩ := kept _ row foundRow
      exact Or.inl ⟨row', foundRow', isMarked (Or.inr rfl)⟩
    · rcases inv.marked pair member with ⟨t, foundT, isMarked⟩ | being
      · obtain ⟨t', foundT', _, stillMarked⟩ := kept _ t foundT
        exact Or.inl ⟨t', foundT', stillMarked (Or.inl isMarked)⟩
      · refine Or.inr ((beingMarked_after being found _).resolve_left ?_)
        rintro ⟨call', _, _, foundCall', _, sameOriginal⟩
        rw [foundCall] at foundCall'
        cases foundCall'
        exact here sameOriginal.symm

/-- A guarded call of a request keeps the invariant. -/
theorem Inv.act_advance (inv : Inv s) {cfg : Config} {env : CallEnv} {call : Call}
    (found : s.clients[index]? = some client) (foundCall : client.call = some call)
    (guard : CallGuard s index call env) :
    Inv
      { shared := (advance cfg s.shared call env).1
        clients := s.clients.set index
          { client with call := some (advance cfg s.shared call env).2 } } := by
  have holds := inv.coherent.each index client found call foundCall
  have draft : ∀ reversal, call.stage = .post reversal → IsDraft s.shared reversal.id := by
    intro reversal atPost
    rw [CallHolds, atPost] at holds
    exact inv.drafts reversal.id holds.2
  have own := @advance_holds call cfg s index env holds guard draft
  obtain ⟨sameReq, holding⟩ := @advance_holding cfg s.shared call env
  generalize out : advance cfg s.shared call env = pair at own sameReq holding ⊢
  have effect := @advance_effect cfg s.shared call env draft
  rw [out] at effect
  obtain ⟨store, after⟩ := pair
  cases effect with
  | quiet history _ failedMark =>
    apply inv.act_quiet history found
    · intro call' foundCall'
      cases foundCall'
      exact own
    · intro id reversing
      obtain ⟨call', foundCall', isHolding, same⟩ := Client.reversing_eq_some_iff.mp reversing
      cases foundCall'
      rw [sameReq] at same
      rcases holding isHolding with before | atLoad
      · exact Or.inl (Client.reversing_eq_some_iff.mpr ⟨call, foundCall, before, same⟩)
      · rw [CallGuard, atLoad] at guard
        rw [← same]
        exact Or.inr guard
    · apply Client.not_marking foundCall
      intro original reversal atMark
      rw [CallGuard, atMark] at guard
      rw [failedMark original reversal atMark] at guard
      cases guard
  | creates original reversal _ atCreate fresh next _ =>
    exact inv.act_creates found foundCall atCreate fresh next sameReq rfl own
  | marks original reversal _ atMark =>
    exact inv.act_marks found foundCall atMark sameReq rfl own

theorem step_keeps {cfg : Config} (inv : Inv s) {input : Input} (guard : Guard s input) :
    Inv (step cfg s input) := by
  cases input with
  | reverse req => exact inv.arrive rfl
  | batch req => exact inv.arrive rfl
  | act index env =>
    unfold step Input.turn
    refine System.step_act_keeps inv fun client found => ?_
    unfold Client.next
    cases foundCall : client.call with
    | none =>
      have idle : ∀ id, ¬ client.Marking id := by
        rintro id ⟨call, _, _, foundOther, _⟩
        rw [foundCall] at foundOther
        cases foundOther
      dsimp only
      split
      · refine inv.act_quiet s.shared.history found ?_
          (fun id reversing => Or.inl reversing) idle
        exact inv.coherent.each index client found
      · refine inv.act_quiet s.shared.history found ?_ ?_ idle
        · intro call starts
          cases starts
          trivial
        · intro id reversing
          simp [Client.reversing, Stage.original] at reversing
    | some call =>
      dsimp only
      split
      · rename_i err atDone
        have collected : (client.collect call.result err).call = none := by
          unfold Client.collect
          split <;> rfl
        refine inv.act_quiet s.shared.history found ?_ ?_ ?_
        · intro other foundOther
          rw [collected] at foundOther
          cases foundOther
        · intro id reversing
          simp [Client.reversing, collected] at reversing
        · exact Client.not_marking foundCall (by simp [atDone])
      · exact inv.act_advance found foundCall (guard client call found foundCall)

end Steps

/-! ## Guarded runs -/

def initial (ledger : Ledger) (history : List ReversalHistoryRecord) : Engine where
  shared := { ledger := ledger, history := history }
  clients := []

theorem inv_initial (ledger : Ledger) (history : List ReversalHistoryRecord) :
    Inv (initial ledger history) where
  coherent := ⟨by simp [initial], by simp [initial]⟩
  once := List.nodup_nil
  cancels := by simp [initial, ReversalsCancel]
  drafts := by simp [initial]
  marked := by simp [initial]

theorem run_inv {cfg : Config} {ledger : Ledger} {history : List ReversalHistoryRecord}
    {s : Engine} (run : Run (step cfg) Guard (initial ledger history) s) : Inv s :=
  run.invariant (inv_initial ledger history) (fun _ _ guard inv => step_keeps inv guard)

/-- The tables change only through a call of one request. -/
theorem step_cases (cfg : Config) (s : Engine) (input : Input) :
    (step cfg s input).shared = s.shared ∨
      ∃ (index : Nat) (env : CallEnv) (client : Client) (call : Call),
        s.clients[index]? = some client ∧ client.call = some call ∧
        (step cfg s input).shared = (advance cfg s.shared call env).1 := by
  cases input with
  | reverse req => exact Or.inl rfl
  | batch req => exact Or.inl rfl
  | act index env =>
    unfold step Input.turn
    cases found : s.clients[index]? with
    | none =>
      rw [System.step_act_absent found]
      exact Or.inl rfl
    | some client =>
      rw [System.step_act found]
      unfold Client.next
      cases foundCall : client.call with
      | none =>
        dsimp only
        split <;> exact Or.inl rfl
      | some call =>
        dsimp only
        split
        · exact Or.inl rfl
        · exact Or.inr ⟨index, env, client, call, found, foundCall, rfl⟩

/-- Whatever step is taken next, it reverses no transaction that is marked reversed. -/
theorem step_reversesUnmarked {cfg : Config} {s : Engine} (inv : Inv s) (input : Input) :
    ReversesUnmarked s.shared (step cfg s input).shared := by
  rcases step_cases cfg s input with
    unchanged | ⟨index, env, client, call, found, foundCall, changed⟩
  · rw [unchanged]
    exact fun pair after before => absurd after before
  · have holds := inv.coherent.each index client found call foundCall
    rw [changed]
    generalize out : advance cfg s.shared call env = pair
    have effect := @advance_effect cfg s.shared call env (by
      intro reversal atPost
      rw [CallHolds, atPost] at holds
      exact inv.drafts reversal.id holds.2)
    rw [out] at effect
    obtain ⟨store, after⟩ := pair
    cases effect with
    | quiet history _ _ => exact fun pair after before => absurd after before
    | marks original reversal _ _ => exact fun pair after before => absurd after before
    | creates original reversal _ atCreate _ _ _ =>
      intro pair new old t foundT
      rw [CallHolds, atCreate] at holds
      obtain ⟨_, eligible, _⟩ := holds
      rcases List.mem_append.mp new with before | added
      · exact absurd before old
      · rw [List.mem_singleton.mp added] at foundT
        exact (eligible t foundT).2

/-- A reversal that was just created is never posted by its own request. -/
theorem Inv.not_autoPosted {s : Engine} (inv : Inv s) {client : Client} {call : Call}
    (member : client ∈ s.clients) (succeeded : client.Succeeded call)
    (prior : Uuid → Uuid → Decimal) : ¬ AutoPosted prior s.shared call := by
  rintro ⟨created, stored, reported, found, posted, _⟩
  obtain ⟨index, foundClient⟩ := List.mem_iff_getElem?.mp member
  have holds := inv.coherent.each index client foundClient call succeeded.1
  rw [CallHolds, succeeded.2] at holds
  obtain ⟨reversal, same, isReversal⟩ := holds rfl
  rw [reported] at same
  cases same
  obtain ⟨t, foundT, draft⟩ := inv.drafts created.id isReversal
  rw [found] at foundT
  cases foundT
  rw [posted] at draft
  cases draft

/--
In every run in which no request starts on an original that another one holds,
and no original fails to be marked, each original is reversed at most once,
each reversal cancels its original, and nothing marked reversed is reversed
again.  A request that succeeds meets its promise to post the reversal exactly
when it did not make one.
-/
theorem guarded_run_reverses_once {cfg : Config} {ledger : Ledger}
    {history : List ReversalHistoryRecord} {s : Engine} (prior : Uuid → Uuid → Decimal)
    (run : Run (step cfg) Guard (initial ledger history) s) :
    ReversedOnce s.shared ∧ ReversalsCancel s.shared ∧
      (∀ input, ReversesUnmarked s.shared (step cfg s input).shared) ∧
      ∀ client ∈ s.clients, ∀ call, client.Succeeded call →
        ((call.req.autoPost = true → AutoPosted prior s.shared call) ↔
          call.req.autoPost = false) := by
  have inv := run_inv run
  refine ⟨inv.once, inv.cancels, fun input => step_reversesUnmarked inv input, ?_⟩
  intro client member call succeeded
  have never := inv.not_autoPosted member succeeded prior
  cases asked : call.req.autoPost with
  | true => simp [never]
  | false => simp

/-! ## A request alone -/

theorem guard_alone {s : Engine} (alone : s.clients.length ≤ 1) {env : CallEnv}
    (works : env.fails = false) (index : Nat) : Guard s (.act index env) := by
  intro client call found foundCall
  unfold CallGuard
  cases call.stage with
  | load =>
    intro other second different foundOther
    have first := (List.getElem?_eq_some_iff.mp found).1
    have also := (List.getElem?_eq_some_iff.mp foundOther).1
    omega
  | mark original reversal => exact works
  | _ => trivial

theorem run_alone (cfg : Config) {s : Engine} (alone : s.clients.length ≤ 1)
    {envs : List CallEnv} (work : ∀ env ∈ envs, env.fails = false) :
    Run (step cfg) Guard s (envs.foldl (fun s env => step cfg s (.act 0 env)) s) := by
  induction envs generalizing s with
  | nil => exact .refl
  | cons env rest ih =>
    have first : Run (step cfg) Guard s (step cfg s (.act 0 env)) :=
      .tail _ .refl (guard_alone alone (work env (by simp)) 0)
    have stillAlone : (step cfg s (.act 0 env)).clients.length ≤ 1 := by
      unfold step Input.turn System.step
      dsimp only
      split
      · exact alone
      · simpa using alone
    exact first.trans (ih stillAlone (fun other member => work other (by simp [member])))

def postedRent : Ledger :=
  (postTransaction (1 / 100) { now := Time.zero } PostingEngine.rentLedger
    PostingEngine.rentPosting).ledger

def rentReversal (autoPost : Bool) : CreateReversalRequest :=
  { originalTransactionID := 1, reversedBy := 23, reversalReason := "Entered twice",
    autoPost := autoPost }

def rentCall (firstID : Uuid) : CallEnv :=
  { now := Time.zero, newID := fun n => firstID + n, number := .ok "ADJ-2024-000001" }

/-- One request for the sample transaction, after nine undisturbed steps. -/
def rentReversed (autoPost : Bool) : Engine :=
  (List.replicate 9 (rentCall 500)).foldl (fun s env => step {} s (.act 0 env))
    (step {} (initial postedRent []) (.reverse (rentReversal autoPost)))

/-- The sample transaction is reversed once and undisturbed. -/
theorem guarded_run_reverses_once_rent :
    (rentReversed false).shared.reversals = [(1, 500)] ∧
      ReversalsCancel (rentReversed false).shared := by
  refine ⟨by decide +kernel, ?_⟩
  have arrived : Run (step {}) Guard (initial postedRent [])
      (step {} (initial postedRent []) (.reverse (rentReversal false))) := .tail _ .refl trivial
  have run : Run (step {}) Guard (initial postedRent []) (rentReversed false) := by
    apply arrived.trans
    apply run_alone
    · decide +kernel
    · simp [rentCall]
  exact (guarded_run_reverses_once (fun _ _ => 0) run).2.1

/-- Two requests for the sample transaction that take turns. -/
def rentReversedTwice : Engine :=
  (List.replicate 7 [Input.act 0 (rentCall 500), Input.act 1 (rentCall 600)]).flatten.foldl
    (step {})
    (step {} (step {} (initial postedRent []) (.reverse (rentReversal false)))
      (.reverse (rentReversal false)))

/--
A request that asks to post its reversal succeeds and leaves it a draft, and
two requests that take turns reverse one transaction twice.
-/
theorem autoPost_leaves_draft :
    (∃ client ∈ (rentReversed true).clients, ∃ call, client.Succeeded call ∧
      call.req.autoPost = true ∧ call.result.success = true ∧
      ¬ AutoPosted (fun _ _ => 0) (rentReversed true).shared call) ∧
    ¬ ReversedOnce rentReversedTwice.shared := by
  have finished : ((rentReversed true).clients.head?.bind Client.call).any (fun call =>
      call.stage = .done none && call.req.autoPost && call.result.success &&
        call.result.reversalTransaction.map Transaction.id = some 500) = true := by
    decide +kernel
  have draft : ((rentReversed true).shared.ledger.transactions.get? 500).map
      Transaction.transactionStatus = some .draft := by decide +kernel
  refine ⟨?_, by unfold ReversedOnce; decide +kernel⟩
  obtain ⟨call, foundCall, facts⟩ := (Option.any_eq_true _ _).mp finished
  obtain ⟨client, first, called⟩ := Option.bind_eq_some_iff.mp foundCall
  simp only [Bool.and_eq_true, decide_eq_true_eq] at facts
  obtain ⟨⟨⟨done, asked⟩, success⟩, reported⟩ := facts
  refine ⟨client, List.mem_of_head? first, call, ⟨called, done⟩, asked, success, ?_⟩
  rintro ⟨created, stored, sameReport, found, posted, _⟩
  rw [sameReport] at reported
  rw [show created.id = 500 from Option.some.inj reported] at found
  rw [found] at draft
  rw [show stored.transactionStatus = .draft from Option.some.inj draft] at posted
  cases posted

end ReversalEngine

end ErpFinance.Service
