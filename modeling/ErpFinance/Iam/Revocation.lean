import ErpFinance.Iam.SessionControl

/-!
# Revocation and role changes over every interleaving

Each step of each caller, admitted, keeps what the callers assert: a validation
that started after a revocation does not accept the token, and what it accepts
carries the roles in force.
-/

namespace ErpFinance.Iam

open Domain Library

/-! ## The steps of each caller -/

@[simp] theorem next_finished (sh : Shared) (i : Input) :
    next sh .finished i = (sh, .finished) := by
  rw [next]

/-- A client that asserts nothing. -/
def Client.free : Client → Bool
  | .loginStore .. | .load .. | .recover .. | .reload .. | .restore .. | .reindex .. => false
  | .accepted .. | .logoutIndex .. | .logoutAudit .. | .revokeAudit .. => false
  | .changeCommit .. => false
  | _ => true

section Clients

variable {sh : Shared} {client new other : Client} {session : Session} {before : List String}

theorem Client.free_of_starts (starts : client.starts = true) : client.free = true := by
  cases client <;> cases starts <;> rfl

theorem Client.plain_of_free (free : client.free = true) :
    client.carries = none ∧ client.commits = none := by
  cases client <;> cases free <;> exact ⟨rfl, rfl⟩

theorem Holds.of_free (free : client.free = true) : Holds sh client := by
  cases client <;> cases free <;> exact ⟨nofun, nofun, nofun, nofun, trivial⟩

theorem Apart.of_plain (carries : new.carries = none) (commits : new.commits = none) :
    Apart new other ∧ Apart other new := by
  constructor
  · intro session tenantID userID carried
    rw [carries] at carried
    cases carried
  · intro session tenantID userID _ committed
    rw [commits] at committed
    cases committed

theorem Apart.of_carries (carries : new.carries = some session) (commits : new.commits = none)
    (others : ∀ tenantID userID, other.commits = some (tenantID, userID) →
      ¬ session.ofUser tenantID userID) :
    Apart new other ∧ Apart other new := by
  constructor
  · intro carried tenantID userID same committed
    rw [carries] at same
    cases same
    exact others tenantID userID committed
  · intro _ tenantID userID _ committed
    rw [commits] at committed
    cases committed

theorem conclude_plain (i : Input) :
    (sh.conclude i session before).carries = none ∧
      (sh.conclude i session before).commits = none := by
  unfold Shared.conclude
  split <;> exact ⟨rfl, rfl⟩

/-- A validation concludes with the roles in force, and not on a token revoked before it. -/
theorem holds_conclude {after : Shared} (i : Input) (current : sh.Current session)
    (fresh : session.token ∉ before) : Holds after (sh.conclude i session before) := by
  unfold Shared.conclude
  split
  · exact .of_free rfl
  · refine ⟨nofun, nofun, nofun, nofun, fresh, fun human => ?_⟩
    obtain ⟨same, closed⟩ := current human
    rw [same, Shared.inForce_eq closed]

end Clients

section Steps

variable {s : Sys} {index : Nat} {i : Input} {client new : Client} {after : Shared}
  {session : Session}

/-- The step leads to a client that carries nothing and commits nothing. -/
theorem Sound.plain (sound : Sound s) (effect : Effect s index after) (own : Holds after new)
    (plain : new.carries = none ∧ new.commits = none)
    (revoked : ∀ token ∈ after.revoked, token ∈ s.shared.revoked ∨
      (after.Keyless token ∧ after.Rowless token)) :
    Sound (put s index (after, new)) :=
  sound.act effect own (fun _ _ _ _ => Apart.of_plain plain.1 plain.2) revoked

/-- The step only forgets and leads to a client that asserts nothing. -/
theorem Sound.forget (sound : Sound s) (quiet : Quiet s.shared after)
    (same : after.revoked = s.shared.revoked) (free : new.free = true) :
    Sound (put s index (after, new)) :=
  sound.plain quiet.effect (.of_free free) (Client.plain_of_free free)
    fun _ member => .inl (same ▸ member)

/-- The step changes nothing and leads to a client that asserts nothing. -/
theorem Sound.rest (sound : Sound s) (free : new.free = true) :
    Sound (put s index (s.shared, new)) :=
  sound.forget (Quiet.refl s.shared) rfl free

theorem write_revoked (sh : Shared) (i : Input) (store : Store) :
    (sh.write i store).revoked = sh.revoked := by
  unfold Shared.write
  split <;> rfl

variable {tenantID userID : Uuid}

theorem ReadsRoles.current {unread : Prop} [Decidable unread]
    (reads : ReadsRoles s unread tenantID userID) (tenant : session.tenantID = tenantID)
    (user : session.userID = userID)
    (roles : session.roles = if unread then [] else s.shared.store.roles tenantID userID) :
    s.shared.Current session := by
  subst tenant user
  intro human
  obtain ⟨empty, closed, -⟩ := reads human
  refine ⟨?_, closed⟩
  rw [roles]
  split
  · rename_i notRead
    exact (empty notRead).symm
  · rfl

theorem ReadsRoles.apart {unread : Prop} (reads : ReadsRoles s unread tenantID userID)
    (tenant : session.tenantID = tenantID) (user : session.userID = userID)
    (member : client ∈ s.clients) (one two : Uuid) (commits : client.commits = some (one, two)) :
    ¬ session.ofUser one two := by
  subst tenant user
  rintro ⟨human, rfl, rfl⟩
  exact (reads human).2.2 client member commits

theorem Effect.set (sound : Sound s) (found : s.clients[index]? = some client)
    (carries : client.carries = some session) (free : ¬ KeyDenied s session.token)
    (store : after.store = s.shared.store.set session)
    (pending : after.pending = s.shared.pending) (revoked : after.revoked = s.shared.revoked) :
    Effect s index after where
  keys token stored keyed := by
    rw [store] at keyed
    rcases Store.sessions_set keyed with ⟨rfl, rfl⟩ | before
    · refine .inr ⟨free, (sound.clients.each index client found).1 stored carries, ?_⟩
      intro other second different foundOther tenantID userID commits
      exact sound.clients.pairs index other client second different.symm found foundOther
        stored tenantID userID carries commits
    · exact .inl before
  rows row member _ := by
    rw [store] at member
    exact .inl member
  revoked _ member := revoked ▸ member
  roles tenantID userID := by
    refine .inl ⟨by rw [store]; rfl, ?_⟩
    rintro ⟨roleChange, member⟩
    exact ⟨roleChange, pending ▸ member⟩

theorem Effect.insert {row : SessionRow} (free : ¬ RowDenied s row.tokenHash) :
    Effect s index (s.shared.withStore ((s.shared.store.insertRow row).getD s.shared.store)) where
  keys token session found := by
    refine .inl ?_
    rw [← Store.insertRow_frame.1]
    exact found
  rows other member _ := by
    rcases Store.mem_insertRow member with rfl | before
    · exact .inr free
    · exact .inl before
  revoked _ member := member
  roles tenantID userID := .inl ⟨congrFun₂ Store.insertRow_frame.2 tenantID userID, id⟩

/-- A login, once it has read the roles, stores the session and writes its row. -/
theorem Sound.login (sound : Sound s) {contextTenant tenantID userID : Uuid}
    (admits : Admits s (.login contextTenant tenantID userID) i) :
    Sound (put s index (next s.shared (.login contextTenant tenantID userID) i)) := by
  have reads : ReadsRoles s (contextTenant ≠ tenantID) tenantID userID := admits
  rw [next]
  split
  · exact sound.rest rfl
  · refine sound.act (Quiet.refl s.shared).effect ⟨?_, nofun, nofun, nofun, trivial⟩ ?_
      fun _ member => .inl member
    · rintro _ ⟨⟩
      exact reads.current rfl rfl (by simp only [ite_not])
    · intro other client _ found
      exact Apart.of_carries rfl rfl (reads.apart rfl rfl (List.mem_of_getElem? found))

variable {contextTenant : Uuid}

theorem Sound.loginStore (sound : Sound s)
    (found : s.clients[index]? = some (.loginStore contextTenant session))
    (admits : Admits s (.loginStore contextTenant session) i) :
    Sound (put s index (next s.shared (.loginStore contextTenant session) i)) := by
  rw [next]
  split
  · exact sound.rest rfl
  · rename_i goes
    simp only [Bool.or_eq_true, Bool.not_eq_true', not_or, Bool.not_eq_true, Bool.not_eq_false]
      at goes
    have free : ¬ KeyDenied s session.token := admits goes.1 goes.2
    exact sound.plain (.set sound found rfl free rfl rfl rfl) (.of_free rfl) ⟨rfl, rfl⟩
      fun _ member => .inl member

theorem Sound.loginIndex (sound : Sound s) :
    Sound (put s index (next s.shared (.loginIndex contextTenant session) i)) :=
  sound.forget (Quiet.setIndex s.shared _ _ _).write (write_revoked _ _ _) rfl

theorem Sound.loginAudit (sound : Sound s) (admits : Admits s (.loginAudit contextTenant session) i)
    :
    Sound (put s index (next s.shared (.loginAudit contextTenant session) i)) := by
  rw [next, Shared.write]
  split
  · exact sound.rest rfl
  · rename_i succeeds
    have free : ¬ RowDenied s (tokenHash session.token) := admits (Bool.not_eq_true _ ▸ succeeds)
    exact sound.plain (.insert free) (.of_free rfl) ⟨rfl, rfl⟩ fun _ member => .inl member

variable {token : String}

/-- A validation that finds the key accepts a current session of a token that is not revoked. -/
theorem Sound.load (sound : Sound s) {before : List String}
    (found : s.clients[index]? = some (.load contextTenant token before)) :
    Sound (put s index (next s.shared (.load contextTenant token before) i)) := by
  have known : before ⊆ s.shared.revoked := (sound.clients.each index _ found).validates
  have quiet := Quiet.refl s.shared
  rw [next]
  split
  · exact sound.rest rfl
  · cases stored : s.shared.store.sessions token with
    | none =>
      exact sound.plain quiet.effect ⟨nofun, nofun, nofun, nofun, known⟩ ⟨rfl, rfl⟩
        fun _ member => .inl member
    | some session =>
      dsimp only
      split
      · exact sound.rest rfl
      · refine sound.plain quiet.effect ⟨nofun, nofun, nofun, nofun, ?_, fun human => ?_⟩
          ⟨rfl, rfl⟩ fun _ member => .inl member
        · intro member
          have keyless := (sound.revoked token (known member)).1
          rw [Shared.Keyless, stored] at keyless
          cases keyless
        · obtain ⟨same, closed⟩ := sound.keys token session stored human
          rw [same, Shared.inForce_eq closed]

theorem Sound.recover (sound : Sound s) {before : List String}
    (found : s.clients[index]? = some (.recover contextTenant token before)) :
    Sound (put s index (next s.shared (.recover contextTenant token before) i)) := by
  have known : before ⊆ s.shared.revoked := (sound.clients.each index _ found).validates
  have quiet := Quiet.refl s.shared
  rw [next]
  split
  · exact sound.rest rfl
  · cases loads : s.shared.store.loadRow contextTenant (tokenHash token) i.now with
    | none => exact sound.rest rfl
    | some row =>
      have met := List.find?_some loads
      simp only [decide_eq_true_eq] at met
      have fresh : token ∉ before := fun member =>
        (sound.revoked token (known member)).2 row (List.mem_of_find?_eq_some loads)
          met.2.1 met.2.2.1
      dsimp only
      split
      · exact sound.plain quiet.effect ⟨nofun, nofun, nofun, nofun, fresh⟩ ⟨rfl, rfl⟩
          fun _ member => .inl member
      · rename_i human
        have nil : row.userID = Uuid.Nil := not_not.mp human
        refine sound.act quiet.effect ⟨?_, nofun, nofun, nofun, fresh⟩ ?_
          fun _ member => .inl member
        · rintro _ ⟨⟩ isHuman
          exact absurd nil isHuman
        · intro other client _ _
          exact Apart.of_carries rfl rfl fun _ _ _ owns => owns.1 nil

theorem Sound.reload (sound : Sound s) {row : SessionRow} {before : List String}
    (found : s.clients[index]? = some (.reload contextTenant token row before))
    (admits : Admits s (.reload contextTenant token row before) i) :
    Sound (put s index (next s.shared (.reload contextTenant token row before) i)) := by
  have fresh : token ∉ before := (sound.clients.each index _ found).validates
  have reads : ReadsRoles s (i.fails ∨ contextTenant ≠ row.tenantID) row.tenantID row.userID :=
    admits
  rw [next]
  refine sound.act (Quiet.refl s.shared).effect ⟨?_, nofun, nofun, nofun, fresh⟩ ?_
    fun _ member => .inl member
  · rintro _ ⟨⟩
    refine reads.current rfl rfl ?_
    by_cases fails : i.fails <;> by_cases same : contextTenant = row.tenantID <;>
      simp [SessionRow.session, fails, same]
  · intro other client _ found
    exact Apart.of_carries rfl rfl (reads.apart rfl rfl (List.mem_of_getElem? found))

/-- The restored session keeps what holds of it while it is carried on. -/
theorem Sound.restore (sound : Sound s) {before : List String}
    (found : s.clients[index]? = some (.restore session before))
    (admits : Admits s (.restore session before) i) :
    Sound (put s index (next s.shared (.restore session before) i)) := by
  have holds := sound.clients.each index _ found
  have fresh : session.token ∉ before := holds.validates
  have current : s.shared.Current session := holds.current session rfl
  rw [next]
  split
  · exact sound.plain (Quiet.refl s.shared).effect (holds_conclude i current fresh)
      (conclude_plain i) fun _ member => .inl member
  · rename_i goes
    simp only [Bool.or_eq_true, Bool.not_eq_true', not_or, Bool.not_eq_true, Bool.not_eq_false]
      at goes
    have free : ¬ KeyDenied s session.token := admits goes.1 goes.2
    have effect : Effect s index (s.shared.withStore (s.shared.store.set session)) :=
      .set sound found rfl free rfl rfl rfl
    split
    · refine sound.act effect ⟨?_, nofun, nofun, nofun, fresh⟩ ?_ fun _ member => .inl member
      · rintro _ ⟨⟩
        exact current
      · intro other client different foundOther
        exact Apart.of_carries rfl rfl fun tenantID userID commits =>
          sound.clients.pairs index other _ client different.symm found foundOther session
            tenantID userID rfl commits
    · exact sound.plain effect (holds_conclude i current fresh) (conclude_plain i)
        fun _ member => .inl member

theorem Sound.reindex (sound : Sound s) {before : List String}
    (found : s.clients[index]? = some (.reindex session before)) :
    Sound (put s index (next s.shared (.reindex session before) i)) := by
  have holds := sound.clients.each index _ found
  have quiet : Quiet s.shared (s.shared.write i (s.shared.store.zAdd session)) :=
    (Quiet.setIndex s.shared _ _ _).write
  exact sound.plain quiet.effect (holds_conclude i (holds.current session rfl) holds.validates)
    (conclude_plain i) fun _ member => .inl (write_revoked _ _ _ ▸ member)

theorem Sound.logout (sound : Sound s) :
    Sound (put s index (next s.shared (.logout contextTenant session) i)) := by
  rw [next]
  split
  · exact sound.rest rfl
  · have keyless : ∀ token ∈ [session.token],
        (s.shared.withStore (s.shared.store.del [session.token])).Keyless token :=
      fun token member => if_pos member
    have quiet := Quiet.del s.shared [session.token]
    split <;> exact sound.plain quiet.effect ⟨nofun, nofun, keyless, nofun, trivial⟩ ⟨rfl, rfl⟩
      fun _ member => .inl member

theorem Sound.logoutIndex (sound : Sound s)
    (found : s.clients[index]? = some (.logoutIndex contextTenant session)) :
    Sound (put s index (next s.shared (.logoutIndex contextTenant session) i)) := by
  have gone := (sound.clients.each index _ found).keyless
  have quiet : Quiet s.shared (s.shared.write i (s.shared.store.zRem session)) :=
    (Quiet.setIndex s.shared _ _ _).write
  refine sound.plain quiet.effect ⟨nofun, nofun, ?_, nofun, trivial⟩ ⟨rfl, rfl⟩
    fun _ member => .inl (write_revoked _ _ _ ▸ member)
  exact fun token deleted => quiet.keyless (gone token deleted)

variable {tokens covers : List String}

theorem MarksRows.rowless (marks : MarksRows s i.fails contextTenant tokens covers)
    (covered : token ∈ covers) (listed : token ∈ tokens) :
    (s.shared.write i
      (s.shared.store.revokeRows contextTenant (tokens.map tokenHash) i.now)).Rowless token := by
  intro row member hash unrevoked
  unfold Shared.write at member
  split at member
  · rename_i fails
    have succeeds := (marks row member unrevoked ⟨token, covered, listed, hash⟩).1
    rw [fails] at succeeds
    cases succeeds
  · obtain ⟨before, unmarked⟩ := Store.mem_revokeRows member unrevoked
    refine unmarked ⟨(marks row before unrevoked ⟨token, covered, listed, hash⟩).2, ?_⟩
    rw [hash]
    exact List.mem_map_of_mem listed

theorem Sound.logoutAudit (sound : Sound s)
    (found : s.clients[index]? = some (.logoutAudit contextTenant session))
    (admits : Admits s (.logoutAudit contextTenant session) i) :
    Sound (put s index (next s.shared (.logoutAudit contextTenant session) i)) := by
  have marks : MarksRows s i.fails contextTenant [session.token] [session.token] := admits
  have quiet : Quiet s.shared (s.shared.write i
      (s.shared.store.revokeRows contextTenant [tokenHash session.token] i.now)) :=
    (Quiet.revokeRows s.shared _ _ _).write
  have gone := (sound.clients.each index _ found).keyless session.token List.mem_cons_self
  refine sound.plain (quiet.record [session.token]).effect (.of_free rfl) ⟨rfl, rfl⟩ ?_
  intro token member
  rcases List.mem_cons.mp member with rfl | before
  · exact .inr ⟨quiet.keyless gone, marks.rowless List.mem_cons_self List.mem_cons_self⟩
  · exact .inl before

theorem Sound.revokeList (sound : Sound s) {contextTenant tenantID userID : Uuid}
    (admits : Admits s (.revokeList contextTenant tenantID userID) i) :
    Sound (put s index (next s.shared (.revokeList contextTenant tenantID userID) i)) := by
  rw [next]
  split
  · exact sound.rest rfl
  · rename_i succeeds
    dsimp only
    split
    · rename_i empty
      have lists := admits (Bool.not_eq_true _ ▸ succeeds) empty
      refine sound.plain ((Quiet.refl s.shared).record _).effect (.of_free rfl) ⟨rfl, rfl⟩ ?_
      intro token member
      rcases List.mem_append.mp member with covered | before
      · exact .inr (lists token covered List.not_mem_nil)
      · exact .inl before
    · exact sound.rest rfl

theorem Sound.revokeDelete (sound : Sound s) {contextTenant tenantID userID : Uuid}
    (admits : Admits s (.revokeDelete contextTenant tenantID userID tokens covers) i) :
    Sound (put s index
      (next s.shared (.revokeDelete contextTenant tenantID userID tokens covers) i)) := by
  rw [next]
  split
  · exact sound.rest rfl
  · rename_i succeeds
    have lists : Lists s tokens covers := admits (Bool.not_eq_true _ ▸ succeeds)
    have quiet := Quiet.delAll s.shared tenantID userID tokens
    refine sound.plain quiet.effect ⟨nofun, nofun, ?_, ?_, trivial⟩ ⟨rfl, rfl⟩
      fun _ member => .inl member
    · intro token covered
      by_cases listed : token ∈ tokens
      · exact if_pos listed
      · exact quiet.keyless (lists token covered listed).1
    · intro token unlisted
      simp only [Client.unlisted, List.mem_filter, decide_eq_true_eq] at unlisted
      exact quiet.rowless (lists token unlisted.1 unlisted.2).2

theorem Sound.revokeAudit (sound : Sound s)
    (found : s.clients[index]? = some (.revokeAudit contextTenant tokens covers))
    (admits : Admits s (.revokeAudit contextTenant tokens covers) i) :
    Sound (put s index (next s.shared (.revokeAudit contextTenant tokens covers) i)) := by
  have marks : MarksRows s i.fails contextTenant tokens covers := admits
  have holds := sound.clients.each index _ found
  have quiet : Quiet s.shared (s.shared.write i
      (s.shared.store.revokeRows contextTenant (tokens.map tokenHash) i.now)) :=
    (Quiet.revokeRows s.shared _ _ _).write
  refine sound.plain (quiet.record covers).effect (.of_free rfl) ⟨rfl, rfl⟩ ?_
  intro token member
  rcases List.mem_append.mp member with covered | before
  · refine .inr ⟨quiet.keyless (holds.keyless token covered), ?_⟩
    by_cases listed : token ∈ tokens
    · exact marks.rowless covered listed
    · exact quiet.rowless (holds.rowless token
        (List.mem_filter.mpr ⟨covered, decide_eq_true listed⟩))
  · exact .inl before

variable {roleChange : RoleChange}

/-- A hook succeeds where every session of the user has been dropped and none is on its way. -/
theorem Sound.openChange (sound : Sound s) {tokens : List String} {store : Store}
    (drops : Drops s tenantID userID tokens) (quiet : Quiet s.shared (s.shared.withStore store))
    (dropped : ∀ token ∈ tokens, store.sessions token = none) :
    Sound (put s index
      ({ s.shared with
          store := store
          pending := (tenantID, userID, roleChange) :: s.shared.pending },
        .changeCommit tenantID userID roleChange)) := by
  have cleared : ∀ token session, store.sessions token = some session →
      ¬ session.ofUser tenantID userID := by
    intro token session stored owns
    have gone := dropped token (drops.1 token session (quiet.keys token session stored) owns)
    rw [stored] at gone
    cases gone
  have away : ∀ other client, other ≠ index → s.clients[other]? = some client →
      ∀ session, client.carries = some session → ¬ session.ofUser tenantID userID :=
    fun _ client _ found => drops.2 client (List.mem_of_getElem? found)
  refine sound.act
    { keys := fun token session stored => .inl (quiet.keys token session stored)
      rows := fun row member unrevoked => .inl (quiet.rows row member unrevoked)
      revoked := fun _ member => member
      roles := fun tenant user => ?_ }
    ⟨nofun, ?_, nofun, nofun, trivial⟩ ?_ fun _ member => .inl member
  · by_cases same : tenant = tenantID ∧ user = userID
    · obtain ⟨rfl, rfl⟩ := same
      exact .inr ⟨cleared, away⟩
    · refine .inl ⟨congrFun₂ quiet.roles tenant user, ?_⟩
      rintro ⟨change, member⟩
      rcases List.mem_cons.mp member with isNew | before
      · cases isNew
        exact absurd ⟨rfl, rfl⟩ same
      · exact ⟨change, before⟩
  · rintro tenant user ⟨⟩
    exact cleared
  · intro other client different found
    constructor
    · intro _ _ _ carries
      cases carries
    · rintro session tenant user carries ⟨⟩
      exact away other client different found session carries

theorem Sound.changeList (sound : Sound s) {tenantID userID hookUser : Uuid}
    (admits : Admits s (.changeList tenantID userID hookUser roleChange) i) :
    Sound (put s index (next s.shared (.changeList tenantID userID hookUser roleChange) i)) := by
  rw [next]
  split
  · exact sound.rest rfl
  · rename_i succeeds
    dsimp only
    split
    · rename_i empty
      have drops : Drops s tenantID userID [] := admits (Bool.not_eq_true _ ▸ succeeds) empty
      exact sound.openChange drops (Quiet.refl s.shared) nofun
    · exact sound.rest rfl

theorem Sound.changeDelete (sound : Sound s) {tenantID userID hookUser : Uuid}
    {tokens : List String}
    (admits : Admits s (.changeDelete tenantID userID hookUser roleChange tokens) i) :
    Sound (put s index
      (next s.shared (.changeDelete tenantID userID hookUser roleChange tokens) i)) := by
  rw [next]
  split
  · exact sound.rest rfl
  · rename_i succeeds
    have drops : Drops s tenantID userID tokens := admits (Bool.not_eq_true _ ▸ succeeds)
    exact sound.openChange drops (Quiet.delAll s.shared tenantID hookUser tokens)
      fun token listed => if_pos listed

/-- The roles change while nobody has a session of the user. -/
theorem Sound.changeCommit (sound : Sound s)
    (found : s.clients[index]? = some (.changeCommit tenantID userID roleChange)) :
    Sound (put s index (next s.shared (.changeCommit tenantID userID roleChange) i)) := by
  have cleared := (sound.clients.each index _ found).cleared tenantID userID rfl
  have away : ∀ other client, other ≠ index → s.clients[other]? = some client →
      ∀ session, client.carries = some session → ¬ session.ofUser tenantID userID := by
    intro other client different foundOther session carries
    exact sound.clients.pairs other index client _ different foundOther found session
      tenantID userID carries rfl
  rw [next]
  have stores : (s.shared.write i (s.shared.store.setRoles tenantID userID
        roleChange.apply)).store.sessions = s.shared.store.sessions ∧
      (s.shared.write i (s.shared.store.setRoles tenantID userID
        roleChange.apply)).store.rows = s.shared.store.rows := by
    unfold Shared.write
    split <;> exact ⟨rfl, rfl⟩
  refine sound.plain
    { keys := fun token session stored => .inl (by rwa [← stores.1])
      rows := fun row member _ => .inl (by rwa [← stores.2])
      revoked := fun _ member => (write_revoked _ _ _).symm ▸ member
      roles := fun tenant user => ?_ }
    (.of_free rfl) ⟨rfl, rfl⟩ fun _ member => .inl (write_revoked _ _ _ ▸ member)
  by_cases same : tenant = tenantID ∧ user = userID
  · obtain ⟨rfl, rfl⟩ := same
    refine .inr ⟨fun token session stored => ?_, away⟩
    exact cleared token session (by rwa [← stores.1])
  · refine .inl ⟨?_, ?_⟩
    · dsimp only [Shared.write]
      split
      · rfl
      · exact Store.setRoles_of_ne same
    · rintro ⟨change, member⟩
      exact ⟨change, List.mem_of_mem_erase member⟩

/-- Every admitted step of a client keeps the invariant. -/
theorem Sound.next (sound : Sound s) (found : s.clients[index]? = some client)
    (admits : Admits s client i) : Sound (put s index (next s.shared client i)) := by
  cases client with
  | login => exact sound.login admits
  | loginStore => exact sound.loginStore found admits
  | loginIndex => exact sound.loginIndex
  | loginAudit => exact sound.loginAudit admits
  | validate =>
    exact sound.plain (Quiet.refl s.shared).effect
      ⟨nofun, nofun, nofun, nofun, List.Subset.refl s.shared.revoked⟩ ⟨rfl, rfl⟩
      fun _ member => .inl member
  | load => exact sound.load found
  | recover => exact sound.recover found
  | reload => exact sound.reload found admits
  | restore => exact sound.restore found admits
  | reindex => exact sound.reindex found
  | accepted token session inForce before =>
    exact sound.plain (Quiet.refl s.shared).effect
      ⟨nofun, nofun, nofun, nofun, (sound.clients.each index _ found).validates⟩ ⟨rfl, rfl⟩
      fun _ member => .inl member
  | logout => exact sound.logout
  | logoutIndex => exact sound.logoutIndex found
  | logoutAudit => exact sound.logoutAudit found admits
  | revoke => exact sound.forget (Quiet.setIndex s.shared _ _ _).write (write_revoked _ _ _) rfl
  | revokeList => exact sound.revokeList admits
  | revokeDelete => exact sound.revokeDelete admits
  | revokeAudit => exact sound.revokeAudit found admits
  | change => exact sound.forget (Quiet.setIndex s.shared _ _ _).write (write_revoked _ _ _) rfl
  | changeList => exact sound.changeList admits
  | changeDelete => exact sound.changeDelete admits
  | changeCommit => exact sound.changeCommit found
  | evictSession token => exact sound.forget (Quiet.del s.shared [token]) rfl rfl
  | evictIndex => exact sound.forget (Quiet.setIndex s.shared _ _ _) rfl rfl
  | finished => exact sound.rest rfl

end Steps

/-! ## Runs -/

/-- Nobody is there, no session is stored and none has been issued. -/
def start (rows : List SessionRow) (roles : Uuid → Uuid → List String) : Sys where
  shared := { store := { rows := rows, roles := roles } }
  clients := []

theorem sound_start (rows : List SessionRow) (roles : Uuid → Uuid → List String) :
    Sound (start rows roles) where
  clients :=
    { each := by
        rintro _ _ ⟨⟩
      pairs := by
        rintro _ _ _ _ _ ⟨⟩ }
  keys := by
    rintro _ _ ⟨⟩
  revoked _ member := absurd member List.not_mem_nil

/-- One turn of an admitted run keeps the invariant. -/
theorem Sound.step {s : Sys} {turn : Turn Client Input} (sound : Sound s)
    (allowed : Allowed s turn) : Sound (s.step Iam.next turn) := by
  cases turn with
  | arrive client =>
    have free := Client.free_of_starts allowed
    have plain := Client.plain_of_free free
    exact
      { clients := sound.clients.arrive (.of_free free)
          fun _ _ _ => Apart.of_plain plain.1 plain.2
        keys := sound.keys
        revoked := sound.revoked }
  | act index i =>
    refine System.step_act_keeps sound fun client found => ?_
    exact sound.next found (allowed client found)

/-- Where every turn is admitted, a validation accepts no token revoked before it started, and a
session of a user only with the roles in force. -/
theorem accepted_unrevoked_in_force {rows : List SessionRow} {roles : Uuid → Uuid → List String}
    {s : Sys} (run : Run (System.step next) Allowed (start rows roles) s) (token : String)
    (session : Session) (inForce before : List String)
    (member : Client.accepted token session inForce before ∈ s.clients) :
    token ∉ before ∧ (session.userID ≠ Uuid.Nil → session.roles = inForce) := by
  have sound : Sound s :=
    run.invariant (sound_start rows roles) fun _ _ allowed sound => sound.step allowed
  obtain ⟨index, found⟩ := List.mem_iff_getElem?.mp member
  exact (sound.clients.each index _ found).validates

section Sample

def oneClerk : Sys :=
  start [] fun tenantID userID => if tenantID = 1 ∧ userID = 7 then ["clerk"] else []

def clerkSession : Session where
  token := "secret"
  userID := 7
  serviceAccountID := Uuid.Nil
  tenantID := 1
  roles := ["clerk"]
  expiresAt := humanSessionTTL
  issuedAt := 0

/-- The clerk logs in and out, becomes an auditor too and logs in again; then the new token is
validated. -/
def promoted : List (Turn Client Input) :=
  [.arrive (.login 1 1 7), .act 0 { token := "secret" }, .act 0 {}, .act 0 {}, .act 0 {},
    .arrive (.logout 1 clerkSession), .act 1 {}, .act 1 {}, .act 1 {},
    .arrive (.change 1 7 7 (.grant "auditor")), .act 2 {}, .act 2 {}, .act 2 {},
    .arrive (.login 1 1 7), .act 3 { token := "renewed" }, .act 3 {},
    .arrive (.validate 1 "renewed"), .act 4 {}, .act 4 {}]

/-- The clerk logs in and out, and the row could not be marked; then the token is validated. -/
def logoutUnmarked : List (Turn Client Input) :=
  [.arrive (.login 1 1 7), .act 0 { token := "secret" }, .act 0 {}, .act 0 {}, .act 0 {},
    .arrive (.logout 1 clerkSession), .act 1 {}, .act 1 {}, .act 1 { fails := true },
    .arrive (.validate 1 "secret"), .act 2 {}, .act 2 {}, .act 2 {}, .act 2 {}, .act 2 {},
    .act 2 {}]

/-- The clerk logs in, the index is evicted, and the hook of a new role finds no session. -/
def changeUnlisted : List (Turn Client Input) :=
  [.arrive (.login 1 1 7), .act 0 { token := "secret" }, .act 0 {}, .act 0 {}, .act 0 {},
    .arrive (.evictIndex 1 7), .act 1 {},
    .arrive (.change 1 7 7 (.grant "auditor")), .act 2 {}, .act 2 {}, .act 2 {},
    .arrive (.validate 1 "secret"), .act 3 {}, .act 3 {}]

theorem promoted_run : Run (System.step next) Allowed oneClerk
    (promoted.foldl (System.step next) oneClerk) := by
  refine Run.foldl fun k bound => ?_
  match k, bound with
  | 0, _ | 5, _ | 9, _ | 13, _ | 16, _ => rfl
  | 3, _ | 6, _ | 7, _ | 10, _ | 12, _ | 17, _ | 18, _ =>
    rintro _ ⟨⟩
    trivial
  | 1, _ =>
    rintro _ ⟨⟩ -
    refine ⟨fun other => absurd rfl other, ?_, ?_⟩
    · rintro ⟨roleChange, ⟨⟩⟩
    · rintro _ (_ | ⟨_, ⟨⟩⟩) ⟨⟩
  | 2, _ =>
    rintro _ ⟨⟩ - - (member | ⟨_, _ | ⟨_, ⟨⟩⟩, ⟨⟩⟩)
    cases member
  | 4, _ =>
    rintro _ ⟨⟩ - ⟨_, -, member | ⟨_, _ | ⟨_, ⟨⟩⟩, ⟨⟩⟩⟩
    cases member
  | 8, _ =>
    rintro _ ⟨⟩ _ (_ | ⟨_, ⟨⟩⟩) - -
    exact ⟨rfl, rfl⟩
  | 11, _ =>
    rintro _ ⟨⟩ - -
    refine ⟨fun token session stored _ => ?_, ?_⟩
    · have sessions : (if token ∈ ["secret"] then none
          else if token = "secret" then some clerkSession else none) = some session := stored
      by_cases same : token = "secret" <;> simp [same] at sessions
    · rintro _ (_ | ⟨_, _ | ⟨_, _ | ⟨_, ⟨⟩⟩⟩⟩) _ ⟨⟩
  | 14, _ =>
    rintro _ ⟨⟩ -
    refine ⟨fun other => absurd rfl other, ?_, ?_⟩
    · rintro ⟨roleChange, ⟨⟩⟩
    · rintro _ (_ | ⟨_, _ | ⟨_, _ | ⟨_, _ | ⟨_, ⟨⟩⟩⟩⟩⟩) ⟨⟩
  | 15, _ =>
    rintro _ ⟨⟩ - - (member | ⟨_, _ | ⟨_, _ | ⟨_, _ | ⟨_, _ | ⟨_, ⟨⟩⟩⟩⟩⟩, ⟨⟩⟩)
    exact absurd (List.mem_singleton.mp member) (by decide)
  | k + 19, bound => exact absurd bound (by simp [promoted])

def auditorSession : Session :=
  { clerkSession with token := "renewed", roles := ["clerk", "auditor"] }

/-- The new token of the clerk is accepted after the old one has been revoked, and its session has
the new roles. -/
theorem accepted_after_promotion :
    Client.accepted "renewed" auditorSession ["clerk", "auditor"] ["secret"] ∈
        (promoted.foldl (System.step next) oneClerk).clients ∧
      "renewed" ∉ ["secret"] ∧
        (auditorSession.userID ≠ Uuid.Nil → auditorSession.roles = ["clerk", "auditor"]) := by
  have accepted : Client.accepted "renewed" auditorSession ["clerk", "auditor"] ["secret"] ∈
      (promoted.foldl (System.step next) oneClerk).clients := List.mem_of_getElem? (i := 4) rfl
  exact ⟨accepted, accepted_unrevoked_in_force promoted_run _ _ _ _ accepted⟩

/-- A logged out token is accepted again, and a session with roles no longer in force. -/
theorem accepted_after_logout :
    (logoutUnmarked.foldl (System.step next) oneClerk).clients[2]? =
        some (.accepted "secret" clerkSession ["clerk"] ["secret"]) ∧
      (changeUnlisted.foldl (System.step next) oneClerk).clients[3]? =
        some (.accepted "secret" clerkSession ["clerk", "auditor"] []) := by
  decide +kernel

end Sample

end ErpFinance.Iam
