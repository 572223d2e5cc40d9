import ErpFinance.Iam.Authenticate

/-!
# What lockouts rest on

How the tries are counted, what the row of a user, the record and the calls under way have to do
with each other, and what of it depends on the clock alone.
-/

namespace ErpFinance.Iam.Authenticate

open Domain Library

section Tries

variable {now : Nat} {event : Event} {events : List Event}

theorem Event.clears_of_ne (other : ∀ v, event.kind ≠ .lockout v) (now time : Nat) :
    event.clears now time = true := by
  cases kind : event.kind with
  | lockout v => exact absurd kind (other v)
  | wrong => simp [clears, kind]
  | right => simp [clears, kind]
  | success => simp [clears, kind]

theorem tries_success (kind : event.kind = .success) : tries now (event :: events) = 0 := by
  rw [tries, List.takeWhile_cons_of_neg (by simp [kind])]
  rfl

/-- An event that lifts no bound on the tries counts only itself. -/
theorem tries_cons (kind : event.kind ≠ .success)
    (clears : ∀ time, event.clears now time = true) :
    tries now (event :: events) = tries now events +
      if event.kind = .wrong ∧ events.all (Event.clears now event.time) then 1 else 0 := by
  rw [tries, List.takeWhile_cons_of_pos (by simpa using kind), List.countP_cons, tries]
  simp only [List.all_cons, clears, Bool.true_and, Bool.and_eq_true, decide_eq_true_eq]

theorem tries_right (kind : event.kind = .right) :
    tries now (event :: events) = tries now events := by
  rw [tries_cons (by simp [kind]) (Event.clears_of_ne (by simp [kind]) now)]
  simp [kind]

theorem tries_lockout {v : Nat} (kind : event.kind = .lockout v) (lasts : now < v) :
    tries now (event :: events) = tries now events := by
  rw [tries_cons (by simp [kind]) (fun time => by simp [Event.clears, kind, lasts])]
  simp [kind]

/-- A wrong password after the end of every lockout counts. -/
theorem tries_wrong (kind : event.kind = .wrong)
    (past : ∀ other ∈ events, ∀ v, other.kind = .lockout v → v ≤ event.time) :
    tries now (event :: events) = tries now events + 1 := by
  rw [tries_cons (by simp [kind]) (Event.clears_of_ne (by simp [kind]) now), if_pos]
  refine ⟨kind, List.all_eq_true.mpr fun other member => ?_⟩
  cases otherKind : other.kind with
  | lockout v => simp [Event.clears, otherKind, past other member v otherKind]
  | wrong => simp [Event.clears, otherKind]
  | right => simp [Event.clears, otherKind]
  | success => simp [Event.clears, otherKind]

end Tries

/-! ## The attempts that were used up -/

/-- The instants at which the attempts were used up. -/
def Exhausted (cfg : UserConfig) (events : List Event) (time : Nat) : Prop :=
  ∃ later event earlier, events = later ++ event :: earlier ∧ Exhausting cfg event earlier ∧
    event.time = time

section Exhausted

variable {cfg : UserConfig} {event : Event} {events : List Event} {time : Nat}

theorem exhausted_cons : Exhausted cfg (event :: events) time ↔
    Exhausted cfg events time ∨ Exhausting cfg event events ∧ event.time = time := by
  constructor
  · rintro ⟨later, last, earlier, split, exhausting, rfl⟩
    cases later with
    | nil =>
      cases split
      exact Or.inr ⟨exhausting, rfl⟩
    | cons first later =>
      rw [List.cons_append, List.cons.injEq] at split
      exact Or.inl ⟨later, last, earlier, split.2, exhausting, rfl⟩
  · rintro (⟨later, last, earlier, rfl, exhausting, rfl⟩ | ⟨exhausting, rfl⟩)
    · exact ⟨event :: later, last, earlier, rfl, exhausting, rfl⟩
    · exact ⟨[], event, events, rfl, exhausting, rfl⟩

theorem exhausted_cons_of_ne (kind : event.kind ≠ .wrong) :
    Exhausted cfg (event :: events) time ↔ Exhausted cfg events time := by
  rw [exhausted_cons]
  exact or_iff_left fun exhausting => kind exhausting.1.1

theorem guarded_nil : Guarded cfg [] := by
  intro later event earlier split
  exact absurd split.symm (by simp)

/-- The record stays guarded where the new event comes after every lockout that is due. -/
theorem Guarded.cons (guarded : Guarded cfg events)
    (late : event.admits → ∀ time, Exhausted cfg events time →
      time + cfg.lockoutDuration ≤ event.time) : Guarded cfg (event :: events) := by
  intro later last earlier split exhausting after member admits
  cases later with
  | nil => cases member
  | cons first later =>
    rw [List.cons_append, List.cons.injEq] at split
    obtain ⟨rfl, split⟩ := split
    rcases List.mem_cons.mp member with rfl | among
    · exact late admits _ ⟨later, last, earlier, split, exhausting, rfl⟩
    · exact guarded later last earlier split exhausting after among admits

end Exhausted

/-! ## What holds of a site -/

section Invariant

variable (cfg : UserConfig) (u : Uuid) (site : Site)

/-- Every row of the user meets a condition. -/
def Site.Each (p : UserRow → Prop) : Prop := ∀ row ∈ site.rows, row.id = u → p row

/-- Every lockout of the user that is recorded has ended. -/
def Over : Prop :=
  ∀ event ∈ history u site.log, ∀ v, event.kind = .lockout v → v ≤ site.clock

/-- The lockout that was due at an instant has ended. -/
def Passed (time : Nat) : Prop := time + cfg.lockoutDuration ≤ site.clock

/-- What holds at any time: the row has a count, the attempts of a locked user are used up, and the
record is guarded. -/
structure Kept : Prop where
  count : site.Each u fun row => ∃ k : Int, row.failedLoginAttempts = some k ∧ 0 ≤ k
  locks : site.Each u fun row => ∀ v, row.lockoutUntil = some v → ∀ now, site.clock ≤ now →
    now < v → cfg.maxFailedAttempts ≤ tries now (history u site.log)
  guarded : Guarded cfg (history u site.log)

/-- What holds while no call has evaluated a password and not finished: without a lockout the row
counts the tries, and every lockout that is due, or recorded, has ended or is in the row. -/
structure Settled : Prop where
  counts : site.Each u fun row => row.lockoutUntil = none → ∀ now, site.clock ≤ now →
    row.failedLoginAttempts = some (tries now (history u site.log) : Int)
  due : ∀ time, Exhausted cfg (history u site.log) time → Passed cfg site time ∨
    site.Each u fun row => ∃ v, row.lockoutUntil = some v ∧ time + cfg.lockoutDuration ≤ v
  ends : ∀ event ∈ history u site.log, ∀ v, event.kind = .lockout v → v ≤ site.clock ∨
    site.Each u fun row => row.lockoutUntil = some v

/-- What holds of a call that has found a password wrong, with the tries that the row is behind. -/
structure Mistaken (user : User) (behind : Nat) : Prop where
  past : Over u site
  due : ∀ time, Exhausted cfg (history u site.log) time → Passed cfg site time ∨
    time ≤ site.clock ∧ cfg.maxFailedAttempts ≤ user.failedLoginAttempts + 1
  used : cfg.maxFailedAttempts ≤ user.failedLoginAttempts + 1 → ∀ now, site.clock ≤ now →
    cfg.maxFailedAttempts ≤ tries now (history u site.log)
  short : ¬ cfg.maxFailedAttempts ≤ user.failedLoginAttempts + 1 → site.Each u fun row =>
    row.lockoutUntil = none ∧ ∀ now, site.clock ≤ now →
      ∃ k : Int, row.failedLoginAttempts = some k ∧ k + behind = tries now (history u site.log)

/-- What holds of a call that locks the account. -/
structure Locking (until_ : Nat) : Prop where
  past : Over u site
  due : ∀ time, Exhausted cfg (history u site.log) time → Passed cfg site time ∨
    time + cfg.lockoutDuration ≤ until_
  used : ∀ now, site.clock ≤ now → cfg.maxFailedAttempts ≤ tries now (history u site.log)

/-- What holds of a call that has found the password right. -/
structure Accepted : Prop where
  past : Over u site
  due : ∀ time, Exhausted cfg (history u site.log) time → Passed cfg site time

/-- What a call asserts about the site, by where it stands. -/
def Holds : Call → Prop
  | .started _ _ | .returned _ => True
  | .found user _ => user.id = u → 0 ≤ user.failedLoginAttempts
  | .unlocked user _ => user.id = u → 0 ≤ user.failedLoginAttempts ∧
      ∀ v, user.lockoutUntil = some v → v ≤ site.clock
  | .mistaken user => user.id = u → Mistaken cfg u site user 1
  | .counted user => user.id = u → Mistaken cfg u site user 0
  | .locking user v => user.id = u → Locking cfg u site v
  | .accepted user => user.id = u → Accepted cfg u site
  | .reset user => user.id = u → Accepted cfg u site ∧
      site.Each u fun row => row.lockoutUntil = none ∧ row.failedLoginAttempts = some 0

/-- The user that a call has read, and may write to. -/
def Call.user? : Call → Option User
  | .started _ _ | .returned _ => none
  | .found user _ | .unlocked user _ | .mistaken user | .counted user | .locking user _
  | .accepted user | .reset user => some user

/-- A call that has found a password right or wrong and has not finished. -/
def Call.Pending (call : Call) : Prop := call.Undecided u ∨ call.Admitted u

def Apart (call other : Call) : Prop :=
  (call.Undecided u → ¬ other.Pending u) ∧ (other.Undecided u → ¬ call.Pending u)

/-- The invariant of a run. -/
structure Sound (s : Calls) : Prop where
  calls : s.Coherent (Holds cfg u) (Apart u)
  kept : Kept cfg u s.shared
  settled : (∀ call ∈ s.clients, ¬ call.Pending u) → Settled cfg u s.shared

end Invariant

section Frames

variable {cfg : UserConfig} {u id : Uuid} {site before after : Site} {call : Call}
  {p q : UserRow → Prop} {f : UserRow → UserRow} {kind : Kind} {elapsed time : Nat}

theorem Site.Each.imp (each : site.Each u p) (implies : ∀ row, p row → q row) : site.Each u q :=
  fun row member same => implies row (each row member same)

/-- A write to the row of the user. -/
theorem Site.each_change (each : site.Each u fun row => p (f row)) :
    (site.change u f).Each u p := by
  intro changed member same
  obtain ⟨row, original, rfl⟩ := List.mem_map.mp member
  by_cases mine : row.id = u
  · rw [if_pos mine]
    exact each row original mine
  · rw [if_neg mine] at same
    exact absurd same mine

/-- A write to the row of another user. -/
theorem Site.each_change_of_ne (keeps : ∀ row, (f row).id = row.id) (other : id ≠ u)
    (each : site.Each u p) : (site.change id f).Each u p := by
  intro changed member same
  obtain ⟨row, original, rfl⟩ := List.mem_map.mp member
  by_cases theirs : row.id = id
  · rw [if_pos theirs, keeps, theirs] at same
    exact absurd same other
  · rw [if_neg theirs] at same ⊢
    exact each row original same

theorem history_note : history u (site.note u kind).log =
    { user := u, time := site.clock, kind := kind } :: history u site.log :=
  List.filter_cons_of_pos (by simp)

theorem history_change : history u (site.change id f).log = history u site.log := rfl

theorem history_note_of_ne (other : id ≠ u) :
    history u (site.note id kind).log = history u site.log :=
  List.filter_cons_of_neg (by simpa using other)

/-- Nothing happened that concerns the user, but time may have passed. -/
structure Unseen (u : Uuid) (before after : Site) : Prop where
  log : history u after.log = history u before.log
  clock : before.clock ≤ after.clock
  each : ∀ p, before.Each u p → after.Each u p

namespace Unseen

theorem passes (u : Uuid) (site : Site) (elapsed : Nat) : Unseen u site (site.passes elapsed) :=
  ⟨rfl, Nat.le_add_right _ _, fun _ each => each⟩

theorem trans {middle : Site} (first : Unseen u before middle) (second : Unseen u middle after) :
    Unseen u before after :=
  ⟨second.log.trans first.log, first.clock.trans second.clock,
    fun p each => second.each p (first.each p each)⟩

theorem note (other : id ≠ u) : Unseen u site (site.note id kind) :=
  ⟨history_note_of_ne other, Nat.le_refl _, fun _ each => each⟩

theorem change (keeps : ∀ row, (f row).id = row.id) (other : id ≠ u) :
    Unseen u site (site.change id f) :=
  ⟨rfl, Nat.le_refl _, fun _ each => Site.each_change_of_ne keeps other each⟩

variable (unseen : Unseen u before after)

include unseen

theorem past (past : Over u before) : Over u after := by
  intro event member v kind
  rw [unseen.log] at member
  exact (past event member v kind).trans unseen.clock

theorem passed (passed : Passed cfg before time) : Passed cfg after time :=
  passed.trans (Int.ofNat_le.mpr unseen.clock)

theorem kept (kept : Kept cfg u before) : Kept cfg u after where
  count := unseen.each _ kept.count
  locks := by
    refine unseen.each _ (kept.locks.imp fun row locks v locked now later lasts => ?_)
    rw [unseen.log]
    exact locks v locked now (unseen.clock.trans later) lasts
  guarded := by
    rw [unseen.log]
    exact kept.guarded

theorem settled (settled : Settled cfg u before) : Settled cfg u after where
  counts := by
    refine unseen.each _ (settled.counts.imp fun row counts open_ now later => ?_)
    rw [unseen.log]
    exact counts open_ now (unseen.clock.trans later)
  due time exhausted := by
    rw [unseen.log] at exhausted
    exact (settled.due time exhausted).imp unseen.passed (unseen.each _)
  ends event member v kind := by
    rw [unseen.log] at member
    exact (settled.ends event member v kind).imp (·.trans unseen.clock) (unseen.each _)

theorem mistaken {user : User} {behind : Nat} (mistaken : Mistaken cfg u before user behind) :
    Mistaken cfg u after user behind where
  past := unseen.past mistaken.past
  due time exhausted := by
    rw [unseen.log] at exhausted
    exact (mistaken.due time exhausted).imp unseen.passed (And.imp_left (·.trans unseen.clock))
  used reached now later := by
    rw [unseen.log]
    exact mistaken.used reached now (unseen.clock.trans later)
  short below := by
    refine unseen.each _ ((mistaken.short below).imp fun row short => ⟨short.1, ?_⟩)
    rw [unseen.log]
    exact fun now later => short.2 now (unseen.clock.trans later)

theorem locking {v : Nat} (locking : Locking cfg u before v) : Locking cfg u after v where
  past := unseen.past locking.past
  due time exhausted := by
    rw [unseen.log] at exhausted
    exact (locking.due time exhausted).imp_left unseen.passed
  used now later := by
    rw [unseen.log]
    exact locking.used now (unseen.clock.trans later)

theorem accepted (accepted : Accepted cfg u before) : Accepted cfg u after where
  past := unseen.past accepted.past
  due time exhausted := by
    rw [unseen.log] at exhausted
    exact unseen.passed (accepted.due time exhausted)

/-- What a call asserts survives what does not concern the user. -/
theorem holds (holds : Holds cfg u before call) : Holds cfg u after call := by
  cases call with
  | started identifier password => trivial
  | returned result => trivial
  | found user password => exact holds
  | unlocked user password =>
    exact fun mine => ⟨(holds mine).1, fun v locked =>
      ((holds mine).2 v locked).trans unseen.clock⟩
  | mistaken user => exact fun mine => unseen.mistaken (holds mine)
  | counted user => exact fun mine => unseen.mistaken (holds mine)
  | locking user v => exact fun mine => unseen.locking (holds mine)
  | accepted user => exact fun mine => unseen.accepted (holds mine)
  | reset user => exact fun mine => ⟨unseen.accepted (holds mine).1, unseen.each _ (holds mine).2⟩

end Unseen

/-- What a call that is not pending asserts depends on the clock alone. -/
theorem Holds.idle (holds : Holds cfg u before call) (idle : ¬ call.Pending u)
    (later : before.clock ≤ after.clock) : Holds cfg u after call := by
  cases call with
  | started identifier password => trivial
  | returned result => trivial
  | found user password => exact holds
  | unlocked user password =>
    exact fun mine => ⟨(holds mine).1, fun v locked => ((holds mine).2 v locked).trans later⟩
  | mistaken user => exact fun mine => absurd (Or.inl mine) idle
  | counted user => exact fun mine => absurd (Or.inl mine) idle
  | locking user v => exact fun mine => absurd (Or.inl mine) idle
  | accepted user => exact fun mine => absurd (Or.inr mine) idle
  | reset user => exact fun mine => absurd (Or.inr mine) idle

/-- A recorded event that is neither a wrong password nor a lockout leaves the time behind a right
password as it was. -/
theorem Accepted.note (accepted : Accepted cfg u site) (notWrong : kind ≠ .wrong)
    (notLockout : ∀ v, kind ≠ .lockout v) : Accepted cfg u (site.note u kind) where
  past event member v locked := by
    rw [history_note] at member
    rcases List.mem_cons.mp member with rfl | old
    · exact absurd locked (notLockout v)
    · exact accepted.past event old v locked
  due time exhausted := by
    rw [history_note, exhausted_cons_of_ne notWrong] at exhausted
    exact accepted.due time exhausted

/-- What a call that is not undecided asserts survives a step of a call that has found the password
right. -/
theorem Holds.decided (holds : Holds cfg u before call) (decided : ¬ call.Undecided u)
    (later : before.clock ≤ after.clock) (accepted : Accepted cfg u before → Accepted cfg u after)
    (cleared : before.Each u (fun row => row.lockoutUntil = none ∧
        row.failedLoginAttempts = some 0) →
      after.Each u fun row => row.lockoutUntil = none ∧ row.failedLoginAttempts = some 0) :
    Holds cfg u after call := by
  by_cases admitted : call.Admitted u
  · cases call with
    | accepted user => exact fun mine => accepted (holds mine)
    | reset user => exact fun mine => ⟨accepted (holds mine).1, cleared (holds mine).2⟩
    | started identifier password => exact admitted.elim
    | returned result => exact admitted.elim
    | found user password => exact admitted.elim
    | unlocked user password => exact admitted.elim
    | mistaken user => exact admitted.elim
    | counted user => exact admitted.elim
    | locking user v => exact admitted.elim
  · exact holds.idle (not_or.mpr ⟨decided, admitted⟩) later

theorem Apart.mono {new other : Call} (apart : Apart u call other)
    (undecided : new.Undecided u → call.Undecided u) (pending : new.Pending u → call.Pending u) :
    Apart u new other :=
  ⟨fun mine => apart.1 (undecided mine), fun theirs mine => apart.2 theirs (pending mine)⟩

theorem Apart.symm {other : Call} (apart : Apart u call other) : Apart u other call :=
  ⟨apart.2, apart.1⟩

end Frames

end ErpFinance.Iam.Authenticate
