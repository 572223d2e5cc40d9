import ErpFinance.Service.OpeningBalanceEngine

/-!
# Control of opening balances

At most one opening balance of an account and period is posted, as long as no
balance is created beside one that is pending, approved or posted, and none is
approved or posted over a rejection or a voiding that came in between.  That
each posted balance was approved by another user than its submitter needs no
condition.
-/

namespace ErpFinance.Service

open Domain Library

namespace OpeningBalanceEngine

/-! ## Balances in force -/

def OpeningBalance.Live (ob : OpeningBalance) : Prop :=
  ob.status ≠ .rejected ∧ ob.status ≠ .voided

/-- A balance past its approval names an approver who is not its submitter. -/
def OpeningBalance.Countersigned (ob : OpeningBalance) : Prop :=
  ob.status = .approved ∨ ob.status = .posted →
    ∃ approver, ob.approvedBy = some approver ∧ approver ≠ ob.submittedBy

def PostedOnce (s : Store) : Prop :=
  ∀ first ∈ s.balances.rows, ∀ second ∈ s.balances.rows,
    first.status = .posted → second.status = .posted →
      first.accountID = second.accountID → first.periodID = second.periodID → first = second

/-- Every posted balance was approved by a user other than its submitter. -/
def PostedByOther (s : Store) : Prop :=
  ∀ ob ∈ s.balances.rows, ob.status = .posted →
    ∃ approver, ob.approvedBy = some approver ∧ approver ≠ ob.submittedBy

/-! ## The guard of a step -/

/--
A balance is created only where its account and period have no live one, and
approved or posted only while the stored one is live.
-/
def CallGuard (s : Store) (env : CallEnv) (call : Call) : Prop :=
  match call.stage with
  | .create ob => env.fails = none → ∀ other ∈ s.balances.rows, other.Live →
      other.accountID = ob.accountID → other.periodID ≠ ob.periodID
  | .update ob => env.fails = none → ob.status = .approved ∨ ob.status = .posted →
      ∀ row ∈ s.balances.get? ob.id, row.Live
  | _ => True

def Guard (s : Engine) : Input → Prop
  | .act index env => ∀ call ∈ s.clients[index]?, CallGuard s.shared env call
  | .request _ => True

instance (ob : OpeningBalance) : Decidable ob.Live := inferInstanceAs (Decidable (_ ∧ _))

instance (s : Store) (env : CallEnv) : (call : Call) → Decidable (CallGuard s env call)
  | ⟨_, .create ob⟩ => inferInstanceAs (Decidable (env.fails = none →
      ∀ other ∈ s.balances.rows, other.Live →
        other.accountID = ob.accountID → other.periodID ≠ ob.periodID))
  | ⟨_, .update ob⟩ => inferInstanceAs (Decidable (env.fails = none →
      ob.status = .approved ∨ ob.status = .posted → ∀ row ∈ s.balances.get? ob.id, row.Live))
  | ⟨_, .read⟩ => .isTrue trivial
  | ⟨_, .getByAccount _⟩ => .isTrue trivial
  | ⟨_, .getAccount _⟩ => .isTrue trivial
  | ⟨_, .done _⟩ => .isTrue trivial

instance (s : Engine) : (input : Input) → Decidable (Guard s input)
  | .act index env =>
    inferInstanceAs (Decidable (∀ call ∈ s.clients[index]?, CallGuard s.shared env call))
  | .request _ => .isTrue trivial

/-! ## What a request asserts -/

def Stored (s : Store) (ob : OpeningBalance) : Prop :=
  ∃ row, s.balances.get? ob.id = some row ∧ row.accountID = ob.accountID ∧
    row.periodID = ob.periodID

def Holds (s : Store) (call : Call) : Prop :=
  match call.stage with
  | .create ob => ob.status = .pending
  | .getAccount ob => ob.status = .approved ∧ ob.Countersigned ∧ Stored s ob
  | .update ob => ob.status ≠ .pending ∧ ob.Countersigned ∧ Stored s ob
  | _ => True

/-- Every stored balance stays stored for its account and period. -/
def Keeps (s after : Store) : Prop :=
  ∀ ob, Stored s ob → Stored after ob

theorem Holds.keeps {s after : Store} {call : Call} (keeps : Keeps s after)
    (holds : Holds s call) : Holds after call := by
  unfold Holds at holds ⊢
  split at holds
  · exact holds
  · exact ⟨holds.1, holds.2.1, keeps _ holds.2.2⟩
  · exact ⟨holds.1, holds.2.1, keeps _ holds.2.2⟩
  · trivial

section Reading

variable {env : CallEnv} {s : Store} {ob : OpeningBalance} {id : Uuid}

theorem stored_of_getByID (found : getByID env s id = .ok ob) :
    ob ∈ s.balances.rows ∧ Stored s ob := by
  unfold getByID at found
  split at found
  · cases found
  · split at found
    · rename_i row stored
      cases found
      have isKey : ob.id = id := Table.key_of_get? stored
      exact ⟨Table.mem_of_get? stored, ob, by rw [isKey]; exact stored, rfl, rfl⟩
    · cases found

variable {op : Operation}

theorem holds_readCall {after : OpeningBalance → Stage}
    (next : ∀ ob ∈ s.balances.rows, Stored s ob → Holds s ⟨op, after ob⟩) :
    Holds s ⟨op, readCall env s id after⟩ := by
  unfold readCall
  split
  · trivial
  · rename_i ob found
    obtain ⟨member, stored⟩ := stored_of_getByID found
    exact next ob member stored

theorem holds_approveRead {approverID : Uuid} (stored : Stored s ob) :
    Holds s ⟨op, approveRead env ob approverID⟩ := by
  unfold approveRead
  split
  · trivial
  · split
    · trivial
    · split
      · trivial
      · rename_i other
        exact ⟨by simp, fun _ => ⟨approverID, rfl, other⟩, stored⟩

theorem holds_rejectRead {reason : String} (stored : Stored s ob) :
    Holds s ⟨op, rejectRead ob reason⟩ := by
  unfold rejectRead
  split
  · trivial
  · split
    · trivial
    · exact ⟨by simp, by simp [OpeningBalance.Countersigned], stored⟩

theorem holds_voidRead (stored : Stored s ob) :
    Holds s ⟨op, voidRead ob⟩ := by
  unfold voidRead
  split
  · trivial
  · exact ⟨by simp, by simp [OpeningBalance.Countersigned], stored⟩

theorem holds_postRead (signed : ob.Countersigned) (stored : Stored s ob) :
    Holds s ⟨op, postRead ob⟩ := by
  unfold postRead
  split
  · trivial
  · split
    · trivial
    · rename_i approved
      exact ⟨by simpa using approved, signed, stored⟩

theorem holds_postAccount {account : Accounts} {posterID : Uuid} (approved : ob.status = .approved)
    (signed : ob.Countersigned) (stored : Stored s ob) :
    Holds s ⟨op, postAccount env ob account posterID⟩ := by
  have posts : Holds s ⟨op, .update { ob with
      status := .posted
      postedBy := some posterID
      postedAt := some env.now
      transactionID := some env.newID }⟩ :=
    ⟨by simp, fun _ => signed (Or.inl approved), stored⟩
  unfold postAccount
  dsimp only
  split
  · trivial
  · split
    · split
      · trivial
      · exact posts
    · exact posts

theorem holds_setCall {req : OpeningBalanceRequest} {stage : Stage}
    (holds : Holds s ⟨.set req, stage⟩) : Holds s ⟨.set req, setCall env s req stage⟩ := by
  cases stage with
  | read =>
    simp only [setCall]
    split
    · trivial
    · split
      · trivial
      · split <;> trivial
  | getByAccount account =>
    simp only [setCall]
    split
    · trivial
    · split
      · trivial
      · exact rfl
  | create ob => exact holds
  | getAccount ob => exact holds
  | update ob => exact holds
  | done result => exact holds

/-- A request that reads asserts what it should at its next stage. -/
theorem holds_advance {call : Call} (signed : ∀ ob ∈ s.balances.rows, ob.Countersigned)
    (holds : Holds s call) : Holds s { call with stage := advance env s call } := by
  obtain ⟨op, stage⟩ := call
  cases op with
  | set req => exact holds_setCall holds
  | approve id approverID notes =>
    cases stage with
    | read => exact holds_readCall (fun _ _ stored => holds_approveRead stored)
    | _ => exact holds
  | reject id approverID reason =>
    cases stage with
    | read =>
      unfold advance
      dsimp only
      split
      · trivial
      · exact holds_readCall (fun _ _ stored => holds_rejectRead stored)
    | _ => exact holds
  | void id operatorID reason =>
    cases stage with
    | read =>
      unfold advance
      dsimp only
      split
      · trivial
      · exact holds_readCall (fun _ _ stored => holds_voidRead stored)
    | _ => exact holds
  | post id posterID =>
    cases stage with
    | read =>
      exact holds_readCall (fun ob member stored => holds_postRead (signed ob member) stored)
    | getAccount ob =>
      unfold advance
      dsimp only
      split
      · trivial
      · exact holds_postAccount holds.1 holds.2.1 holds.2.2
    | _ => exact holds

end Reading

/-! ## What a call does -/

/-- What a call does to the store. -/
inductive Effect (s : Store) (env : CallEnv) (call : Call) : Store → Prop where
  | nothing : Effect s env call s
  | creates {ob : OpeningBalance} (works : env.fails = none) (atCreate : call.stage = .create ob)
      (fresh : s.balances.get? ob.id = none) : Effect s env call ⟨s.balances.insert ob⟩
  | updates {ob : OpeningBalance} (works : env.fails = none)
      (atUpdate : call.stage = .update ob) : Effect s env call ⟨s.balances.put ob⟩

theorem next_effect (s : Store) (call : Call) (env : CallEnv) :
    Effect s env call (next s call env).1 := by
  unfold next
  split
  · rename_i ob atCreate
    split
    · exact .nothing
    · rename_i works
      split
      · exact .nothing
      · rename_i fresh
        exact .creates works atCreate fresh
  · rename_i ob atUpdate
    split
    · exact .nothing
    · rename_i works
      exact .updates works atUpdate
  · exact .nothing

section Effects

variable {s after : Store} {env : CallEnv} {call : Call}

theorem Effect.keeps (effect : Effect s env call after) (holds : Holds s call) :
    Keeps s after := by
  cases effect with
  | nothing => exact fun _ stored => stored
  | @creates ob works atCreate fresh =>
    rintro other ⟨row, found, sameAccount, samePeriod⟩
    refine ⟨row, ?_, sameAccount, samePeriod⟩
    rw [Table.get?_insert fresh, if_neg ?_, found]
    intro same
    rw [same, OpeningBalance.key_eq, fresh] at found
    cases found
  | @updates ob works atUpdate =>
    unfold Holds at holds
    rw [atUpdate] at holds
    obtain ⟨old, foundOld, oldAccount, oldPeriod⟩ := holds.2.2
    rintro other ⟨row, found, sameAccount, samePeriod⟩
    by_cases same : other.id = ob.id
    · rw [same, foundOld] at found
      cases found
      refine ⟨ob, ?_, oldAccount.symm.trans sameAccount, oldPeriod.symm.trans samePeriod⟩
      rw [same]
      exact Table.get?_put_self foundOld
    · exact ⟨row, by rw [Table.get?_put_of_ne same, found], sameAccount, samePeriod⟩

/-- No write leaves a balance past approval without its countersignature. -/
theorem Effect.countersigned (effect : Effect s env call after) (holds : Holds s call)
    (signed : ∀ ob ∈ s.balances.rows, ob.Countersigned) :
    ∀ ob ∈ after.balances.rows, ob.Countersigned := by
  cases effect with
  | nothing => exact signed
  | @creates new works atCreate fresh =>
    unfold Holds at holds
    rw [atCreate] at holds
    intro ob member
    rw [Table.rows_insert fresh, List.mem_append, List.mem_singleton] at member
    rcases member with old | rfl
    · exact signed ob old
    · have isPending : ob.status = .pending := holds
      simp [OpeningBalance.Countersigned, isPending]
  | @updates new works atUpdate =>
    unfold Holds at holds
    rw [atUpdate] at holds
    intro ob member
    rcases Table.mem_put member with rfl | ⟨old, _⟩
    · exact holds.2.1
    · exact signed ob old

def LiveOnce (s : Store) : Prop :=
  ∀ first ∈ s.balances.rows, ∀ second ∈ s.balances.rows, first.Live → second.Live →
    first.accountID = second.accountID → first.periodID = second.periodID → first = second

/-- A live balance that is written over a live one takes its place alone. -/
theorem liveOnce_put {ob row : OpeningBalance} (once : LiveOnce s)
    (found : s.balances.get? ob.id = some row) (sameAccount : row.accountID = ob.accountID)
    (samePeriod : row.periodID = ob.periodID) (still : ob.Live → row.Live) :
    LiveOnce ⟨s.balances.put ob⟩ := by
  have isKey : row.id = ob.id := Table.key_of_get? found
  -- another live balance of the account and period would stand beside the old row
  have alone : ∀ other ∈ s.balances.rows, other.id ≠ ob.id → ob.Live → other.Live →
      other.accountID = ob.accountID → other.periodID ≠ ob.periodID := by
    intro other member different isLive otherLive account period
    have same := once other member row (Table.mem_of_get? found) otherLive (still isLive)
      (account.trans sameAccount.symm) (period.trans samePeriod.symm)
    rw [same] at different
    exact different isKey
  intro first memberFirst second memberSecond liveFirst liveSecond account period
  rcases Table.mem_put memberFirst with rfl | ⟨oldFirst, differentFirst⟩
  · rcases Table.mem_put memberSecond with rfl | ⟨oldSecond, differentSecond⟩
    · rfl
    · exact absurd period.symm
        (alone second oldSecond differentSecond liveFirst liveSecond account.symm)
  · rcases Table.mem_put memberSecond with rfl | ⟨oldSecond, _⟩
    · exact absurd period (alone first oldFirst differentFirst liveSecond liveFirst account)
    · exact once first oldFirst second oldSecond liveFirst liveSecond account period

/-- A guarded write keeps live balances apart. -/
theorem Effect.liveOnce (effect : Effect s env call after) (holds : Holds s call)
    (guard : CallGuard s env call) (once : LiveOnce s) : LiveOnce after := by
  cases effect with
  | nothing => exact once
  | @creates new works atCreate fresh =>
    unfold CallGuard at guard
    rw [atCreate] at guard
    have free := guard works
    intro first memberFirst second memberSecond liveFirst liveSecond account period
    rw [Table.rows_insert fresh, List.mem_append, List.mem_singleton] at memberFirst memberSecond
    rcases memberFirst with oldFirst | rfl
    · rcases memberSecond with oldSecond | rfl
      · exact once first oldFirst second oldSecond liveFirst liveSecond account period
      · exact absurd period (free first oldFirst liveFirst account)
    · rcases memberSecond with oldSecond | rfl
      · exact absurd period.symm (free second oldSecond liveSecond account.symm)
      · rfl
  | @updates ob works atUpdate =>
    unfold CallGuard at guard
    rw [atUpdate] at guard
    have stillLive := guard works
    unfold Holds at holds
    rw [atUpdate] at holds
    obtain ⟨notPending, _, row, found, sameAccount, samePeriod⟩ := holds
    apply liveOnce_put once found sameAccount samePeriod
    rintro ⟨notRejected, notVoided⟩
    apply stillLive _ row found
    cases status : ob.status with
    | pending => exact absurd status notPending
    | approved => exact Or.inl rfl
    | posted => exact Or.inr rfl
    | rejected => exact absurd status notRejected
    | voided => exact absurd status notVoided

end Effects

/-! ## Runs -/

/-- Every request holds its assertion and no balance lacks a countersignature. -/
structure Inv (s : Engine) : Prop where
  holds : ∀ (index : Nat) (call : Call), s.clients[index]? = some call → Holds s.shared call
  signed : ∀ ob ∈ s.shared.balances.rows, ob.Countersigned

theorem inv_initial : Inv initial where
  holds := by simp [initial]
  signed := by simp [initial]

theorem holds_next {s : Store} {call : Call} {env : CallEnv}
    (signed : ∀ ob ∈ s.balances.rows, ob.Countersigned) (holds : Holds s call) :
    Holds (next s call env).1 (next s call env).2 := by
  unfold next
  split
  · split
    · trivial
    · split <;> trivial
  · split <;> trivial
  · exact holds_advance signed holds

section Steps

variable {s : Engine}

theorem step_keeps (inv : Inv s) (input : Input) : Inv (step s input) := by
  cases input with
  | request op =>
    refine ⟨?_, inv.signed⟩
    intro index call found
    rcases System.getElem?_arrive_cases found with ⟨_, rfl⟩ | old
    · trivial
    · exact inv.holds index call old
  | act index env =>
    unfold step Input.turn
    refine System.step_act_keeps inv fun call found => ?_
    have holds := inv.holds index call found
    have effect := next_effect s.shared call env
    refine ⟨?_, effect.countersigned holds inv.signed⟩
    intro other second foundOther
    rcases System.getElem?_set_cases foundOther with ⟨_, rfl⟩ | ⟨_, old⟩
    · exact holds_next inv.signed holds
    · exact (inv.holds other second old).keeps (effect.keeps holds)

theorem step_liveOnce (inv : Inv s) (once : LiveOnce s.shared) {input : Input}
    (guard : Guard s input) : LiveOnce (step s input).shared := by
  cases input with
  | request op => exact once
  | act index env =>
    unfold step Input.turn
    refine System.step_act_keeps (P := fun s => LiveOnce s.shared) once fun call found => ?_
    exact (next_effect s.shared call env).liveOnce (inv.holds index call found)
      (guard call found) once

end Steps

theorem postedOnce_of_liveOnce {s : Store} (once : LiveOnce s) : PostedOnce s := by
  intro first memberFirst second memberSecond postedFirst postedSecond
  exact once first memberFirst second memberSecond (by simp [OpeningBalance.Live, postedFirst])
    (by simp [OpeningBalance.Live, postedSecond])

/--
In every run whose writes meet the guard at most one opening balance of an
account and period is posted; in every run at all each posted one was approved
by a user other than its submitter.
-/
theorem guarded_run_posts_once {s : Engine} (run : Run step Guard initial s) :
    PostedOnce s.shared ∧
      ∀ {other : Engine}, Run step (fun _ _ => True) initial other →
        PostedByOther other.shared := by
  constructor
  · have both : Inv s ∧ LiveOnce s.shared := by
      apply run.invariant
      · exact ⟨inv_initial, by simp [LiveOnce, initial]⟩
      · rintro middle input guard ⟨inv, once⟩
        exact ⟨step_keeps inv input, step_liveOnce inv once guard⟩
    exact postedOnce_of_liveOnce both.2
  · intro other anyRun ob member posted
    have inv : Inv other :=
      anyRun.invariant inv_initial (fun _ input _ inv => step_keeps inv input)
    exact inv.signed ob member (Or.inr posted)

/-! ## Sample requests -/

def cashAccount : Accounts :=
  { id := 31, tenantID := 7, accountCode := "10010001", rootType := .asset, isActive := true,
    status := .active, validationStatus := .valid }

/-- A debit of one thousand for the first period, submitted by user 40. -/
def cashOpening : OpeningBalanceRequest :=
  { accountID := 31, periodID := 51, effectiveDate := ⟨2025, 1, 1, 0, by decide⟩,
    debitAmount := 1000, creditAmount := 0, currencyCode := "USD", reason := "year start",
    submittedBy := 40 }

def cashEnv (newID : Uuid) : CallEnv :=
  { account := .ok cashAccount, now := ⟨2025, 1, 2, 0, by decide⟩, newID := newID }

/-- A balance set, approved by user 41 and posted, as the requests from an index on. -/
def setToPosted (index : Nat) (id : Uuid) : List Input :=
  [.request (.set cashOpening), .act index (cashEnv id), .act index (cashEnv id),
    .act index (cashEnv id),
    .request (.approve id 41 ""), .act (index + 1) (cashEnv id), .act (index + 1) (cashEnv id),
    .request (.post id 42), .act (index + 2) (cashEnv id), .act (index + 2) (cashEnv id),
    .act (index + 2) (cashEnv id)]

/-- After a balance was posted another one is set, approved and posted beside it. -/
theorem set_after_post_posts_twice :
    ¬ PostedOnce ((setToPosted 0 61 ++ setToPosted 3 62).foldl step initial).shared := by
  unfold PostedOnce
  decide +kernel

/-- One balance set, approved and posted is guarded throughout. -/
theorem guarded_run_posts_once_cash :
    PostedOnce ((setToPosted 0 61).foldl step initial).shared ∧
      ((setToPosted 0 61).foldl step initial).shared.balances.rows.map OpeningBalance.status =
        [.posted] := by
  have run : Run step Guard initial ((setToPosted 0 61).foldl step initial) :=
    .foldl (by decide +kernel)
  exact ⟨(guarded_run_posts_once run).1, by decide +kernel⟩

end OpeningBalanceEngine

end ErpFinance.Service
