import ErpFinance.Iam.LockoutInvariant

/-!
# Lockouts hold

Every turn in which passwords are evaluated in time keeps what the row of a user, the record and
the calls under way have to do with each other.  So no guess gets past a lockout, and nobody is
locked early.
-/

namespace ErpFinance.Iam.Authenticate

open Domain Library

/-! ## One turn -/

namespace Sound

variable {cfg : UserConfig} {verifyPassword : String → String → Bool} {u : Uuid} {s : Calls}
  {index elapsed : Nat} {call new : Call} {after : Site} {user : User}
  {password hashedPassword : String}

theorem apart (sound : Sound cfg u s) (found : s.clients[index]? = some call) {other : Nat}
    {second : Call} (different : other ≠ index) (among : s.clients[other]? = some second) :
    Apart u call second :=
  sound.calls.pairs index other call second different.symm found among

/-- A step keeps the invariant where the call is right about what it left, the others still are,
and it stays apart from them. -/
theorem act (sound : Sound cfg u s) (own : Holds cfg u after new)
    (others : ∀ other second, other ≠ index → s.clients[other]? = some second →
      Holds cfg u s.shared second → Holds cfg u after second)
    (stays : ∀ other second, other ≠ index → s.clients[other]? = some second →
      Apart u new second)
    (kept : Kept cfg u after)
    (settled : (∀ second ∈ s.clients.set index new, ¬ second.Pending u) → Settled cfg u after) :
    Sound cfg u (s.put index (after, new)) where
  calls := by
    refine sound.calls.act own others fun other second different among => ?_
    have apart := stays other second different among
    exact ⟨apart, apart.symm⟩
  kept := kept
  settled := settled

/-- Where no call is pending after a step of one that was not, none was. -/
theorem quiet_before (found : s.clients[index]? = some call) (idle : ¬ call.Pending u)
    (quiet : ∀ second ∈ s.clients.set index new, ¬ second.Pending u) :
    ∀ second ∈ s.clients, ¬ second.Pending u := by
  intro second member pending
  obtain ⟨other, among⟩ := List.mem_iff_getElem?.mp member
  by_cases same : other = index
  · subst same
    cases found.symm.trans among
    exact idle pending
  · have kept : (s.clients.set index new)[other]? = some second := by
      rw [List.getElem?_set_ne (Ne.symm same)]
      exact among
    exact quiet second (List.mem_of_getElem? kept) pending

/-- A step that does not concern the user, of a call that is as pending as before. -/
theorem unseen (sound : Sound cfg u s) (found : s.clients[index]? = some call)
    (unseen : Unseen u s.shared after) (own : Holds cfg u after new)
    (undecided : new.Undecided u → call.Undecided u) (pending : new.Pending u ↔ call.Pending u) :
    Sound cfg u (s.put index (after, new)) := by
  refine sound.act own (fun other second _ _ => unseen.holds)
    (fun other second different among => (sound.apart found different among).mono undecided
      pending.mp) (unseen.kept sound.kept) fun quiet => ?_
  have newIdle : ¬ new.Pending u := by
    obtain ⟨bound, -⟩ := List.getElem?_eq_some_iff.mp found
    exact quiet new (List.mem_set bound new)
  exact unseen.settled (sound.settled (quiet_before found (newIdle ∘ pending.mpr) quiet))

theorem caughtUp (sound : Sound cfg u s) (decided : ∀ second ∈ s.clients, ¬ second.Undecided u)
    {row : UserRow} (member : row ∈ s.shared.rows) (mine : row.id = u)
    (ended : ∀ v, row.lockoutUntil = some v → v ≤ s.shared.clock) : Accepted cfg u s.shared := by
  by_cases quiet : ∀ second ∈ s.clients, ¬ second.Pending u
  · have settled := sound.settled quiet
    refine ⟨fun event among v kind => ?_, fun time exhausted => ?_⟩
    · rcases settled.ends event among v kind with past | locked
      · exact past
      · exact ended v (locked row member mine)
    · rcases settled.due time exhausted with passed | locked
      · exact passed
      · obtain ⟨v, lockedUntil, lasts⟩ := locked row member mine
        exact lasts.trans (Int.ofNat_le.mpr (ended v lockedUntil))
  · simp only [not_forall, not_not] at quiet
    obtain ⟨second, among, pending⟩ := quiet
    have admitted := pending.resolve_left (decided second among)
    obtain ⟨other, found⟩ := List.mem_iff_getElem?.mp among
    have holds := sound.calls.each other second found
    cases second with
    | accepted user => exact holds admitted
    | reset user => exact (holds admitted).1
    | started identifier password => exact admitted.elim
    | returned result => exact admitted.elim
    | found user password => exact admitted.elim
    | unlocked user password => exact admitted.elim
    | mistaken user => exact admitted.elim
    | counted user => exact admitted.elim
    | locking user v => exact admitted.elim

section Evaluation

variable (sound : Sound cfg u s) (found : s.clients[index]? = some (.unlocked user password))
  (mine : user.id = u) (timely : Timely cfg verifyPassword s index user password hashedPassword)
  {row : UserRow} (member : row ∈ s.shared.rows) (same : row.id = u)

include sound found mine timely member same

/-- When a password is evaluated in time, every lockout that was due has ended. -/
theorem accepted_of_timely : Accepted cfg u s.shared := by
  refine sound.caughtUp (fun second among undecided => ?_) member same fun v locked => ?_
  · obtain ⟨other, at_⟩ := List.mem_iff_getElem?.mp among
    by_cases acting : other = index
    · subst acting
      cases found.symm.trans at_
      exact undecided
    · exact timely.alone other second acting at_ (mine.symm ▸ undecided)
  · rw [timely.lockout row member (same.trans mine.symm)] at locked
    exact (sound.calls.each index _ found mine).2 v locked

theorem right (elapsed : Nat) : Sound cfg u
    (s.put index ((s.shared.passes elapsed).note user.id .right, .accepted user)) := by
  subst mine
  have later := Unseen.passes user.id s.shared elapsed
  have accepted := later.accepted (sound.accepted_of_timely found rfl timely member same)
  have noted : Accepted cfg user.id ((s.shared.passes elapsed).note user.id .right) :=
    accepted.note (by decide) (fun _ => nofun)
  have decided (other : Nat) (second : Call) (different : other ≠ index)
      (among : s.clients[other]? = some second) : ¬ second.Undecided user.id :=
    timely.alone other second different among
  refine sound.act (fun _ => noted) (fun other second different among holds => ?_)
    (fun other second different among => ?_) ?_ fun quiet => ?_
  · exact (later.holds holds).decided (decided other second different among) (Nat.le_refl _)
      (fun _ => noted) id
  · exact ⟨fun undecided => undecided.elim, fun undecided =>
      absurd undecided (decided other second different among)⟩
  · have kept := later.kept sound.kept
    refine ⟨kept.count, ?_, ?_⟩
    · refine kept.locks.imp fun row locks v locked now after lasts => ?_
      rw [history_note, tries_right rfl]
      exact locks v locked now after lasts
    · rw [history_note]
      exact kept.guarded.cons fun _ time exhausted => accepted.due time exhausted
  · obtain ⟨bound, -⟩ := List.getElem?_eq_some_iff.mp found
    exact absurd (Or.inr rfl) (quiet _ (List.mem_set bound _))

variable (mismatch : verifyPassword hashedPassword password = false)

include mismatch

omit member same in
/-- When a password is found wrong in time, no call is pending. -/
theorem settled_of_timely : Settled cfg u s.shared := by
  refine sound.settled fun second among pending => ?_
  obtain ⟨other, at_⟩ := List.mem_iff_getElem?.mp among
  by_cases acting : other = index
  · subst acting
    cases found.symm.trans at_
    exact pending.elim id id
  · rcases pending with undecided | admitted
    · exact timely.alone other second acting at_ (mine.symm ▸ undecided)
    · exact (timely.wrong mismatch).1 other second acting at_ (mine.symm ▸ admitted)

theorem decides_of_timely {now : Nat} (after : s.shared.clock ≤ now) :
    cfg.maxFailedAttempts ≤ user.failedLoginAttempts + 1 ↔
      cfg.maxFailedAttempts ≤ (tries now (history u s.shared.log) : Int) + 1 := by
  have settled := sound.settled_of_timely found mine timely mismatch
  have count := (sound.calls.each index _ found mine).1
  rcases (timely.wrong mismatch).2 with one | ⟨open_, agrees⟩
  · exact iff_of_true (by omega) (by omega)
  · have rowOpen : row.lockoutUntil = none :=
      (timely.lockout row member (same.trans mine.symm)).trans open_
    rw [agrees row member (same.trans mine.symm), settled.counts row member same rowOpen now after]
    rfl

theorem wrong (elapsed : Nat) : Sound cfg u
    (s.put index ((s.shared.passes elapsed).note user.id .wrong, .mistaken user)) := by
  subst mine
  have later := Unseen.passes user.id s.shared elapsed
  have accepted := later.accepted (sound.accepted_of_timely found rfl timely member same)
  have settled := later.settled (sound.settled_of_timely found rfl timely mismatch)
  have rows : (s.shared.passes elapsed).Each user.id fun row =>
      row.lockoutUntil = user.lockoutUntil := timely.lockout
  have ended : (s.shared.passes elapsed).Each user.id fun row =>
      ∀ v, row.lockoutUntil = some v → v ≤ (s.shared.passes elapsed).clock := by
    intro row member mine v locked
    rw [rows row member mine] at locked
    exact ((sound.calls.each index _ found rfl).2 v locked).trans later.clock
  have one (now : Nat) : tries now (history user.id
      ((s.shared.passes elapsed).note user.id .wrong).log) =
        tries now (history user.id (s.shared.passes elapsed).log) + 1 := by
    rw [history_note]
    exact tries_wrong rfl accepted.past
  have decides (now : Nat) (after : (s.shared.passes elapsed).clock ≤ now) :=
    sound.decides_of_timely found rfl timely member same mismatch (later.clock.trans after)
  have own : Mistaken cfg user.id ((s.shared.passes elapsed).note user.id .wrong) user 1 := by
    refine ⟨fun event among v locked => ?_, fun time exhausted => ?_, fun used now after => ?_,
      fun below row member mine => ?_⟩
    · rw [history_note] at among
      rcases List.mem_cons.mp among with rfl | old
      · cases locked
      · exact accepted.past event old v locked
    · rw [history_note, exhausted_cons] at exhausted
      rcases exhausted with old | ⟨exhausting, rfl⟩
      · exact Or.inl (accepted.due time old)
      · refine Or.inr ⟨Nat.le_refl _, (decides _ (Nat.le_refl _)).mpr ?_⟩
        have used := exhausting.2
        rw [← history_note, one] at used
        exact used.trans (by push_cast; rfl)
    · rw [one, Nat.cast_add]
      exact (decides now after).mp used
    · have count := (sound.calls.each index _ found rfl).1
      have open_ : user.lockoutUntil = none := by
        rcases (timely.wrong mismatch).2 with few | ⟨open_, -⟩
        · omega
        · exact open_
      have rowOpen := (rows row member mine).trans open_
      refine ⟨rowOpen, fun now after => ?_⟩
      rw [one]
      exact ⟨_, settled.counts row member mine rowOpen now after, by push_cast; rfl⟩
  have idle (other : Nat) (second : Call) (different : other ≠ index)
      (among : s.clients[other]? = some second) : ¬ second.Pending user.id :=
    not_or.mpr ⟨timely.alone other second different among,
      (timely.wrong mismatch).1 other second different among⟩
  refine sound.act (fun _ => own) (fun other second different among holds => ?_)
    (fun other second different among => ?_) ?_ fun quiet => ?_
  · exact holds.idle (idle other second different among) later.clock
  · exact ⟨fun _ => idle other second different among, fun undecided =>
      absurd (Or.inl undecided) (idle other second different among)⟩
  · have kept := later.kept sound.kept
    refine ⟨kept.count, ?_, ?_⟩
    · intro row member mine v locked now after lasts
      exact absurd ((ended row member mine v locked).trans after) (Nat.not_le.mpr lasts)
    · rw [history_note]
      exact kept.guarded.cons fun _ time exhausted => accepted.due time exhausted
  · obtain ⟨bound, -⟩ := List.getElem?_eq_some_iff.mp found
    exact absurd (Or.inl rfl) (quiet _ (List.mem_set bound _))

end Evaluation

theorem others_idle (sound : Sound cfg u s) (found : s.clients[index]? = some call)
    (undecided : call.Undecided u) {other : Nat} {second : Call} (different : other ≠ index)
    (among : s.clients[other]? = some second) : ¬ second.Pending u :=
  (sound.apart found different among).1 undecided

theorem increment (sound : Sound cfg u s) (found : s.clients[index]? = some (.mistaken user))
    (mine : user.id = u) (elapsed : Nat) : Sound cfg u
      (s.put index ((s.shared.passes elapsed).change user.id
        (incrementedFailedLogins (s.shared.passes elapsed).clock),
        .counted user)) := by
  subst mine
  have later := Unseen.passes user.id s.shared elapsed
  have kept := later.kept sound.kept
  have mistaken := later.mistaken (sound.calls.each index _ found rfl)
  refine sound.act (fun _ => ⟨mistaken.past, mistaken.due, mistaken.used, fun below => ?_⟩)
    (fun other second different among holds =>
      holds.idle (sound.others_idle found rfl different among) later.clock)
    (fun other second different among => (sound.apart found different among).mono id id)
    ⟨Site.each_change ?_, Site.each_change kept.locks, kept.guarded⟩ fun quiet => ?_
  · refine Site.each_change ((mistaken.short below).imp fun row short => ⟨short.1, ?_⟩)
    intro now after
    obtain ⟨k, counted, tried⟩ := short.2 now after
    refine ⟨k + 1, ?_, ?_⟩
    · rw [incrementedFailedLogins, counted]
      rfl
    · rw [history_change]
      simpa using tried
  · refine kept.count.imp fun row ⟨k, counted, positive⟩ => ⟨k + 1, ?_, by omega⟩
    rw [incrementedFailedLogins, counted]
    rfl
  · obtain ⟨bound, -⟩ := List.getElem?_eq_some_iff.mp found
    exact absurd (Or.inl rfl) (quiet _ (List.mem_set bound _))

theorem decide_lock (sound : Sound cfg u s) (found : s.clients[index]? = some (.counted user))
    (mine : user.id = u) (used : cfg.maxFailedAttempts ≤ user.failedLoginAttempts + 1)
    (elapsed : Nat) : Sound cfg u
      (s.put index (s.shared.passes elapsed,
        .locking user ((s.shared.passes elapsed).clock + cfg.lockoutDuration).toNat)) := by
  subst mine
  have later := Unseen.passes user.id s.shared elapsed
  have mistaken := later.mistaken (sound.calls.each index _ found rfl)
  refine sound.unseen found later (fun _ => ⟨mistaken.past, fun time exhausted => ?_,
    mistaken.used used⟩) id Iff.rfl
  rcases mistaken.due time exhausted with passed | ⟨earlier, -⟩
  · exact Or.inl passed
  · exact Or.inr (by omega)

theorem decide_fail (sound : Sound cfg u s) (found : s.clients[index]? = some (.counted user))
    (mine : user.id = u) (left : ¬ cfg.maxFailedAttempts ≤ user.failedLoginAttempts + 1)
    (result : Except AuthError User) (elapsed : Nat) : Sound cfg u
      (s.put index (s.shared.passes elapsed, .returned result)) := by
  subst mine
  have later := Unseen.passes user.id s.shared elapsed
  have mistaken := later.mistaken (sound.calls.each index _ found rfl)
  refine sound.act trivial (fun other second _ _ => later.holds)
    (fun other second different among => (sound.apart found different among).mono False.elim
      (Or.elim · False.elim False.elim)) (later.kept sound.kept) fun _ => ?_
  refine ⟨?_, fun time exhausted => ?_, fun event among v locked =>
    Or.inl (mistaken.past event among v locked)⟩
  · refine (mistaken.short left).imp fun row short _ now after => ?_
    obtain ⟨k, counted, tried⟩ := short.2 now after
    rw [counted, ← tried, Nat.cast_zero, add_zero]
  · exact Or.inl ((mistaken.due time exhausted).resolve_right fun reached => left reached.2)

/-- The account is locked. -/
theorem lock (sound : Sound cfg u s) {v : Nat}
    (found : s.clients[index]? = some (.locking user v)) (mine : user.id = u)
    (result : Except AuthError User) (elapsed : Nat) : Sound cfg u
      (s.put index (((s.shared.passes elapsed).change user.id fun row =>
        lockedUntil (s.shared.passes elapsed).clock row v).note user.id (.lockout v),
        .returned result)) := by
  subst mine
  have later := Unseen.passes user.id s.shared elapsed
  have kept := later.kept sound.kept
  have locking := later.locking (sound.calls.each index _ found rfl)
  refine sound.act trivial
    (fun other second different among holds =>
      holds.idle (sound.others_idle found rfl different among) later.clock)
    (fun other second different among => (sound.apart found different among).mono False.elim
      (Or.elim · False.elim False.elim))
    ⟨Site.each_change kept.count, Site.each_change ?_, ?_⟩ fun _ => ⟨?_, ?_, ?_⟩
  · intro row member same w locked now after lasts
    cases locked
    rw [history_note, tries_lockout rfl lasts]
    exact locking.used now after
  · rw [history_note]
    exact kept.guarded.cons fun admits => by rcases admits with h | h | h <;> cases h
  · exact Site.each_change fun row _ _ open_ => absurd open_ (Option.some_ne_none v)
  · intro time exhausted
    rw [history_note, exhausted_cons_of_ne (by simp)] at exhausted
    exact (locking.due time exhausted).imp_right fun lasts =>
      Site.each_change fun row _ _ => ⟨v, rfl, lasts⟩
  · intro event among w locked
    rw [history_note] at among
    rcases List.mem_cons.mp among with rfl | old
    · cases locked
      exact Or.inr (Site.each_change fun row _ _ => rfl)
    · exact Or.inl (locking.past event old w locked)

/-- The attempts start again. -/
theorem resets (sound : Sound cfg u s) (found : s.clients[index]? = some (.accepted user))
    (mine : user.id = u) (elapsed : Nat) : Sound cfg u
      (s.put index ((s.shared.passes elapsed).change user.id
        (unlocked (s.shared.passes elapsed).clock),
        .reset user)) := by
  subst mine
  have later := Unseen.passes user.id s.shared elapsed
  have kept := later.kept sound.kept
  have accepted := later.accepted (sound.calls.each index _ found rfl)
  have changed : Accepted cfg user.id ((s.shared.passes elapsed).change user.id
      (unlocked (s.shared.passes elapsed).clock)) := ⟨accepted.past, accepted.due⟩
  have apart (other : Nat) (second : Call) (different : other ≠ index)
      (among : s.clients[other]? = some second) := sound.apart found different among
  refine sound.act (fun _ => ⟨changed, Site.each_change fun row _ _ => ⟨rfl, rfl⟩⟩)
    (fun other second different among holds => ?_)
    (fun other second different among => (apart other second different among).mono id id)
    ⟨Site.each_change fun row _ _ => ⟨0, rfl, Int.le_refl 0⟩,
      Site.each_change fun row _ _ v => nofun, kept.guarded⟩ fun quiet => ?_
  · have decided : ¬ second.Undecided user.id := fun undecided =>
      (apart other second different among).2 undecided (Or.inr rfl)
    exact (later.holds holds).decided decided (Nat.le_refl _) (fun _ => changed)
      fun _ => Site.each_change fun row _ _ => ⟨rfl, rfl⟩
  · obtain ⟨bound, -⟩ := List.getElem?_eq_some_iff.mp found
    exact absurd (Or.inr rfl) (quiet _ (List.mem_set bound _))

/-- The call succeeds. -/
theorem succeed (sound : Sound cfg u s) (found : s.clients[index]? = some (.reset user))
    (mine : user.id = u) (elapsed : Nat) : Sound cfg u
      (s.put index (((s.shared.passes elapsed).change user.id
        (loggedIn (s.shared.passes elapsed).clock)).note user.id .success,
        .returned (.ok user))) := by
  subst mine
  have later := Unseen.passes user.id s.shared elapsed
  have kept := later.kept sound.kept
  obtain ⟨acceptedBefore, clearedBefore⟩ := sound.calls.each index _ found rfl
  have accepted := later.accepted acceptedBefore
  have cleared := later.each _ clearedBefore
  have changed : Accepted cfg user.id ((s.shared.passes elapsed).change user.id
      (loggedIn (s.shared.passes elapsed).clock)) := ⟨accepted.past, accepted.due⟩
  have noted : Accepted cfg user.id (((s.shared.passes elapsed).change user.id
      (loggedIn (s.shared.passes elapsed).clock)).note user.id .success) :=
    changed.note nofun (fun _ => nofun)
  have apart (other : Nat) (second : Call) (different : other ≠ index)
      (among : s.clients[other]? = some second) := sound.apart found different among
  refine sound.act trivial (fun other second different among holds => ?_)
    (fun other second different among => (apart other second different among).mono False.elim
      (Or.elim · False.elim False.elim))
    ⟨Site.each_change kept.count, Site.each_change ?_, ?_⟩ fun _ => ⟨Site.each_change ?_, ?_, ?_⟩
  · have decided : ¬ second.Undecided user.id := fun undecided =>
      (apart other second different among).2 undecided (Or.inr rfl)
    exact (later.holds holds).decided decided (Nat.le_refl _) (fun _ => noted)
      fun cleared => Site.each_change cleared
  · intro row member same v locked
    exact absurd ((cleared row member same).1.symm.trans locked) nofun
  · rw [history_note]
    exact kept.guarded.cons fun _ time exhausted => accepted.due time exhausted
  · intro row member same _ now _
    rw [history_note, tries_success rfl]
    exact (cleared row member same).2
  · exact fun time exhausted => Or.inl (noted.due time exhausted)
  · exact fun event among v locked => Or.inl (noted.past event among v locked)

/-- The acting call is of another user, or is not yet known to be of any. -/
theorem next_of_ne (call : Call) (other : ∀ user, call.user? = some user → user.id ≠ u)
    (site : Site) (elapsed : Nat) :
    Unseen u site (next cfg verifyPassword site call elapsed).1 := by
  have later := Unseen.passes u site elapsed
  cases call with
  | started identifier password =>
    dsimp only [next]
    split <;> exact later
  | found user password =>
    dsimp only [next]
    split <;> exact later
  | unlocked user password =>
    dsimp only [next]
    split
    · exact later
    · split <;> exact later.trans (Unseen.note (other user rfl))
  | mistaken user => exact later.trans (Unseen.change (fun _ => rfl) (other user rfl))
  | counted user =>
    dsimp only [next]
    split <;> exact later
  | locking user v =>
    refine later.trans (Unseen.trans (Unseen.change ?_ (other user rfl))
      (Unseen.note (other user rfl)))
    exact fun _ => rfl
  | accepted user => exact later.trans (Unseen.change (fun _ => rfl) (other user rfl))
  | reset user =>
    refine later.trans (Unseen.trans (Unseen.change ?_ (other user rfl))
      (Unseen.note (other user rfl)))
    exact fun _ => rfl
  | returned result => exact later

theorem next_user? (call : Call) (site : Site) (elapsed : Nat) {user : User}
    (read : (next cfg verifyPassword site call elapsed).2.user? = some user) :
    call.user? = some user ∨
      ∃ identifier password, call = .started identifier password ∧
        selectUser site.rows (identifierKey identifier) = some user ∧
        (next cfg verifyPassword site call elapsed).2 = .found user password := by
  cases call with
  | started identifier password =>
    refine Or.inr ⟨identifier, password, rfl, ?_⟩
    dsimp only [next] at read ⊢
    split at read
    · cases read
    · rename_i selected
      cases read
      exact ⟨selected, rfl⟩
  | found other password =>
    dsimp only [next] at read
    split at read
    · cases read
    · exact Or.inl read
  | unlocked other password =>
    dsimp only [next] at read
    split at read
    · cases read
    · split at read <;> exact Or.inl read
  | counted other =>
    dsimp only [next] at read
    split at read
    · exact Or.inl read
    · cases read
  | mistaken other => exact Or.inl read
  | accepted other => exact Or.inl read
  | locking other v => cases read
  | reset other => cases read
  | returned result => cases read

/-- A call of no user, or of another one, asserts nothing. -/
theorem holds_of_ne {site : Site} (theirs : ∀ user, call.user? = some user → user.id ≠ u) :
    Holds cfg u site call ∧ ¬ call.Pending u := by
  cases call with
  | started identifier password => exact ⟨trivial, not_or_intro id id⟩
  | returned result => exact ⟨trivial, not_or_intro id id⟩
  | found user password =>
    exact ⟨fun mine => absurd mine (theirs user rfl), not_or_intro id id⟩
  | unlocked user password =>
    exact ⟨fun mine => absurd mine (theirs user rfl), not_or_intro id id⟩
  | mistaken user =>
    exact ⟨fun mine => absurd mine (theirs user rfl), not_or_intro (theirs user rfl) id⟩
  | counted user =>
    exact ⟨fun mine => absurd mine (theirs user rfl), not_or_intro (theirs user rfl) id⟩
  | locking user v =>
    exact ⟨fun mine => absurd mine (theirs user rfl), not_or_intro (theirs user rfl) id⟩
  | accepted user =>
    exact ⟨fun mine => absurd mine (theirs user rfl), not_or_intro id (theirs user rfl)⟩
  | reset user =>
    exact ⟨fun mine => absurd mine (theirs user rfl), not_or_intro id (theirs user rfl)⟩

theorem count_of_selected (kept : Kept cfg u after) {key : UserKey}
    (selected : selectUser after.rows key = some user) (mine : user.id = u) :
    0 ≤ user.failedLoginAttempts := by
  obtain ⟨row, first, rfl⟩ := Option.map_eq_some_iff.mp selected
  obtain ⟨k, counted, positive⟩ := kept.count row (List.mem_of_find?_eq_some first) mine
  have count : (fromSQLCUser row).failedLoginAttempts = k := by
    rw [fromSQLCUser, counted]
    rfl
  rw [count]
  exact positive

theorem next_mine (sound : Sound cfg u s) (found : s.clients[index]? = some call)
    (careful : Careful cfg verifyPassword u s (.act index elapsed)) (read : call.user? = some user)
    (mine : user.id = u) : Sound cfg u
      (s.put index (next cfg verifyPassword s.shared call elapsed)) := by
  have later := Unseen.passes u s.shared elapsed
  cases call with
  | started identifier password => cases read
  | returned result => cases read
  | found user password =>
    cases read
    dsimp only [next]
    split
    · exact sound.unseen found later trivial id Iff.rfl
    · rename_i open_
      refine sound.unseen found later (fun _ => ?_) id Iff.rfl
      refine ⟨sound.calls.each index _ found mine, fun v locked => ?_⟩
      simp only [isLocked, locked, Option.any_some, Bool.and_eq_true, decide_eq_true_eq, ne_eq,
        not_and, Nat.not_lt] at open_
      by_cases zero : v = 0
      · exact zero ▸ Nat.zero_le _
      · exact open_ zero
  | unlocked user password =>
    cases read
    dsimp only [next]
    have written : (s.shared.passes elapsed).getUserPassword user.id =
        s.shared.getUserPassword user.id := rfl
    split
    · exact sound.unseen found later trivial False.elim
        ⟨(Or.elim · False.elim False.elim), (Or.elim · False.elim False.elim)⟩
    · rename_i hashedPassword stored
      rw [written] at stored
      have timely := careful user password hashedPassword found mine (mine ▸ stored)
      obtain ⟨row, first, -⟩ := Option.bind_eq_some_iff.mp stored
      have member := List.mem_of_find?_eq_some first
      have same : row.id = u := by
        have reads := UserKey.reads_iff.mp (List.find?_some first)
        have keys : user.id = row.id := by simpa [UserRow.keys] using reads.2
        exact keys.symm.trans mine
      split
      · exact sound.right found mine timely member same elapsed
      · rename_i mismatch
        exact sound.wrong found mine timely member same (Bool.eq_false_iff.mpr mismatch) elapsed
  | mistaken user =>
    cases read
    exact sound.increment found mine elapsed
  | counted user =>
    cases read
    dsimp only [next]
    split
    · rename_i used
      exact sound.decide_lock found mine used elapsed
    · rename_i left
      exact sound.decide_fail found mine left _ elapsed
  | locking user v =>
    cases read
    exact sound.lock found mine _ elapsed
  | accepted user =>
    cases read
    exact sound.resets found mine elapsed
  | reset user =>
    cases read
    exact sound.succeed found mine elapsed

/-- Every careful turn keeps the invariant. -/
theorem step (sound : Sound cfg u s) (turn : Turn Call Nat) (proper : Proper turn)
    (careful : Careful cfg verifyPassword u s turn) :
    Sound cfg u (s.step (next cfg verifyPassword) turn) := by
  cases turn with
  | arrive call =>
    obtain ⟨identifier, password, rfl⟩ := proper
    refine ⟨sound.calls.arrive trivial fun index other _ => ?_, sound.kept, fun quiet =>
      sound.settled fun second member => quiet second (List.mem_append_left _ member)⟩
    have apart : Apart u (.started identifier password) other :=
      ⟨False.elim, fun _ => not_or_intro id id⟩
    exact ⟨apart, apart.symm⟩
  | act index elapsed =>
    cases found : s.clients[index]? with
    | none => rwa [System.step_act_absent found]
    | some call =>
      rw [System.step_act found]
      by_cases mine : ∃ user, call.user? = some user ∧ user.id = u
      · obtain ⟨user, read, same⟩ := mine
        exact sound.next_mine found careful read same
      · have theirs (user : User) (read : call.user? = some user) : user.id ≠ u :=
          fun same => mine ⟨user, read, same⟩
        have unseen : Unseen u s.shared (next cfg verifyPassword s.shared call elapsed).1 :=
          next_of_ne call theirs s.shared elapsed
        have before : Holds cfg u s.shared call ∧ ¬ call.Pending u := holds_of_ne theirs
        have after : Holds cfg u (next cfg verifyPassword s.shared call elapsed).1
            (next cfg verifyPassword s.shared call elapsed).2 ∧
              ¬ (next cfg verifyPassword s.shared call elapsed).2.Pending u := by
          by_cases foreign : ∀ user,
              (next cfg verifyPassword s.shared call elapsed).2.user? = some user → user.id ≠ u
          · exact holds_of_ne foreign
          · simp only [not_forall, not_not] at foreign
            obtain ⟨user, read, same⟩ := foreign
            rcases next_user? call s.shared elapsed read with old | ⟨_, _, _, selected, found⟩
            · exact absurd same (theirs user old)
            · rw [found]
              exact ⟨count_of_selected sound.kept selected, not_or_intro id id⟩
        exact sound.unseen found unseen after.1 (fun undecided =>
          absurd (Or.inl undecided) after.2) (iff_of_false after.2 before.2)

end Sound

/-- In every run of calls from a user as created, in which every evaluation of a password is
timely, no password is evaluated and no call succeeds for the duration of a lockout after the
attempts were used up, and the user is locked only after that. -/
theorem lockouts_hold (cfg : UserConfig) (verifyPassword : String → String → Bool) (u : Uuid)
    {start : Site} (fresh : Fresh u start) {s : Calls}
    (run : Run (System.step (next cfg verifyPassword))
      (fun s turn => Proper turn ∧ Careful cfg verifyPassword u s turn) ⟨start, []⟩ s) :
    Guarded cfg (history u s.shared.log) ∧ LockedOnlyAfter cfg u s.shared := by
  have begins : Sound cfg u (⟨start, []⟩ : Calls) := by
    have empty : history u start.log = [] := by rw [fresh.log]; rfl
    refine ⟨⟨fun _ _ => nofun, fun _ _ _ _ _ => nofun⟩, ⟨?_, ?_, ?_⟩, fun _ => ⟨?_, ?_, ?_⟩⟩
    · exact fun row member mine => ⟨0, (fresh.rows row member mine).1, Int.le_refl 0⟩
    · intro row member mine v locked
      exact absurd ((fresh.rows row member mine).2.symm.trans locked) nofun
    · rw [empty]
      exact guarded_nil
    · intro row member mine _ now _
      rw [empty]
      exact (fresh.rows row member mine).1
    · rintro time ⟨later, event, earlier, split, -⟩
      rw [empty] at split
      exact absurd split.symm (by simp)
    · intro event member
      rw [empty] at member
      cases member
  have sound : Sound cfg u s :=
    run.invariant begins fun s turn met sound => sound.step turn met.1 met.2
  refine ⟨sound.kept.guarded, fun row member mine now after locked => ?_⟩
  cases lockout : row.lockoutUntil with
  | none =>
    rw [isLocked, fromSQLCUser, lockout] at locked
    cases locked
  | some v =>
    rw [isLocked, fromSQLCUser, lockout, Option.any_some, Bool.and_eq_true,
      decide_eq_true_eq, decide_eq_true_eq] at locked
    exact sound.kept.locks row member mine v lockout now after locked.2

/-! ## A site with one user -/

def ada : UserRow where
  id := 1
  entityID := 2
  username := "ada"
  email := "ada@example.org"
  passwordHash := some "secret"
  userType := "human"
  accountStatus := some "active"
  sessionTimeoutMinutes := none
  mfaEnabled := none
  createdAt := 0
  updatedAt := 0

def sameText (hashedPassword password : String) : Bool := hashedPassword = password

/-- What a number of turns makes of the site. -/
def runs (cfg : UserConfig) (turns : List (Turn Call Nat)) : Calls :=
  turns.foldl (System.step (next cfg sameText)) ⟨{ rows := [ada], clock := 1 }, []⟩

/-- Two attempts, and a minute in nanoseconds. -/
def strict : UserConfig where
  maxFailedAttempts := 2
  lockoutDuration := 60 * 10 ^ 9

/-- Two guesses lock the user; the right password is refused, and a minute later accepted. -/
def lockedOut : List (Turn Call Nat) :=
  [.arrive (.started "ada" "guess"), .act 0 0, .act 0 0, .act 0 0, .act 0 0, .act 0 0,
    .arrive (.started "ada" "guess"), .act 1 0, .act 1 0, .act 1 0, .act 1 0, .act 1 0, .act 1 0,
    .arrive (.started "ada" "secret"), .act 2 0, .act 2 0,
    .arrive (.started "ada" "secret"), .act 3 (60 * 10 ^ 9), .act 3 0, .act 3 0, .act 3 0,
    .act 3 0]

/-- Where all other calls have returned, and the row is as it was read. -/
theorem Timely.of_returned {cfg : UserConfig} {s : Calls} {index : Nat} {user : User}
    {row : UserRow} {password hashedPassword : String} (rows : s.shared.rows = [row])
    (lockout : row.lockoutUntil = user.lockoutUntil)
    (others : ∀ other call, other ≠ index → s.clients[other]? = some call →
      ∃ result, call = .returned result)
    (wrong : sameText hashedPassword password = false →
      user.lockoutUntil = none ∧ row.failedLoginAttempts = some user.failedLoginAttempts) :
    Timely cfg sameText s index user password hashedPassword where
  lockout other member _ := by
    rw [rows] at member
    rwa [List.mem_singleton.mp member]
  alone other call different among := by
    obtain ⟨_, rfl⟩ := others other call different among
    exact id
  wrong mistaken := by
    refine ⟨fun other call different among => ?_,
      .inr ⟨(wrong mistaken).1, fun other member _ => ?_⟩⟩
    · obtain ⟨_, rfl⟩ := others other call different among
      exact id
    · rw [rows] at member
      rw [List.mem_singleton.mp member, (wrong mistaken).2, Option.getD_some]

/-- The lockout holds and ends. -/
theorem lockouts_hold_lockedOut :
    (runs strict lockedOut).shared.log.map Event.kind =
        [.success, .right, .lockout (60 * 10 ^ 9 + 1), .wrong, .wrong] ∧
      Guarded strict (history 1 (runs strict lockedOut).shared.log) ∧
      LockedOnlyAfter strict 1 (runs strict lockedOut).shared := by
  have fresh : Fresh 1 { rows := [ada], clock := 1 } := by
    refine ⟨fun row member _ => ?_, rfl⟩
    cases List.mem_singleton.mp member
    exact ⟨rfl, rfl⟩
  refine ⟨by decide +kernel, lockouts_hold strict sameText 1 fresh (Run.foldl fun k bound => ?_)⟩
  match k, bound with
  | 0, _ | 6, _ | 13, _ | 16, _ => exact ⟨⟨_, _, rfl⟩, trivial⟩
  | 1, _ | 2, _ | 4, _ | 5, _ | 7, _ | 8, _ | 10, _ | 11, _ | 12, _ | 14, _ | 15, _ | 17, _
  | 18, _ | 20, _ | 21, _ =>
    refine ⟨trivial, ?_⟩
    rintro _ _ _ ⟨⟩
  | 3, _ =>
    refine ⟨trivial, ?_⟩
    rintro _ _ _ ⟨⟩ - ⟨⟩
    refine .of_returned rfl rfl ?_ fun _ => ⟨rfl, rfl⟩
    rintro (_ | _) _ other ⟨⟩
    exact absurd rfl other
  | 9, _ =>
    refine ⟨trivial, ?_⟩
    rintro _ _ _ ⟨⟩ - ⟨⟩
    refine .of_returned rfl rfl ?_ fun _ => ⟨rfl, rfl⟩
    rintro (_ | _ | _) _ other ⟨⟩
    · exact ⟨_, rfl⟩
    · exact absurd rfl other
  | 19, _ =>
    refine ⟨trivial, ?_⟩
    rintro _ _ _ ⟨⟩ - ⟨⟩
    refine .of_returned rfl rfl ?_ fun wrong => absurd wrong (by decide)
    rintro (_ | _ | _ | _ | _) _ other ⟨⟩
    · exact ⟨_, rfl⟩
    · exact ⟨_, rfl⟩
    · exact ⟨_, rfl⟩
    · exact absurd rfl other
  | k + 22, bound => exact absurd bound (by simp [lockedOut])

/-- Six guesses at the same time. -/
def guesses : List (Turn Call Nat) :=
  List.replicate 6 (.arrive (.started "ada" "guess")) ++
    (List.replicate 3 ((List.range 6).map fun index => .act index 0)).flatten

/-- Six passwords are evaluated at once, where five use up the attempts. -/
theorem guesses_unguarded : ∃ s : Calls,
    Run (System.step (next {} sameText)) (fun _ turn => Proper turn)
      ⟨{ rows := [ada], clock := 1 }, []⟩ s ∧ ¬ Guarded {} (history 1 s.shared.log) := by
  have proper (turn : Turn Call Nat) (member : turn ∈ guesses) : Proper turn := by
    rcases List.mem_append.mp member with arrives | acts
    · rw [(List.mem_replicate.mp arrives).2]
      exact ⟨_, _, rfl⟩
    · obtain ⟨round, among, member⟩ := List.mem_flatten.mp acts
      rw [(List.mem_replicate.mp among).2] at member
      obtain ⟨index, -, same⟩ := List.mem_map.mp member
      rw [← same]
      trivial
  refine ⟨runs {} guesses, .foldl_of_forall fun _ => proper, fun guarded => ?_⟩
  have record : history 1 (runs {} guesses).shared.log =
      List.replicate 6 { user := 1, time := 1, kind := .wrong } := by decide +kernel
  rw [record] at guarded
  have used : Exhausting {} { user := 1, time := 1, kind := .wrong }
      (List.replicate 4 { user := 1, time := 1, kind := .wrong }) := ⟨rfl, by decide⟩
  have late := guarded [{ user := 1, time := 1, kind := .wrong }] _ _ rfl used _
    (List.mem_singleton.mpr rfl) (Or.inl rfl)
  exact absurd late (by decide)

end ErpFinance.Iam.Authenticate
