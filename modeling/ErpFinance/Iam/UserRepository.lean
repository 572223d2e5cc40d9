import ErpFinance.Iam.Users
import Mathlib.Data.List.Induction

/-!
# The repository of users and its cache

A user is cached under its identifier, its email and its username.  The writes
that know only the identifier drop the first of the three entries, so that the
other two can serve the user as it was.
-/

namespace ErpFinance.Iam

open Domain ErpFinance.Runtime

/-- The table and the cache; an entry that has expired is none. -/
structure UserStore where
  rows : List UserRow
  cache : UserKey → Option User := fun _ => none

namespace UserStore

section Repository

-- The checks on the columns of a row that is written at an instant.
variable (check : Nat → UserRow → Bool) (s : UserStore)

def ErrUserNotFound : Error := .business "USER_NOT_FOUND" "User not found" 404

def failed (operation : String) : Error :=
  .wrapped ("iam repo: " ++ operation) (.other "the row violates a constraint")

/-! ### The cache -/

def cacheUser (u : User) : UserStore :=
  let byID := Function.update s.cache (.id u.id) (some u)
  let byEmail := Function.update byID (.email u.email) (some u)
  { s with
    cache := if u.username ≠ "" then Function.update byEmail (.username u.username) (some u)
      else byEmail }

/-- `Delete` of a key. -/
def drop (key : UserKey) : UserStore := { s with cache := Function.update s.cache key none }

def invalidateUser (id : Uuid) (email username : String) : UserStore :=
  let byID := s.drop (.id id)
  let byEmail := if email ≠ "" then byID.drop (.email email) else byID
  if username ≠ "" then byEmail.drop (.username username) else byEmail

def invalidateUserByID (id : Uuid) : UserStore := s.drop (.id id)

/-- `GetUserByID`, `GetUserByEmail` or `GetUserByUsername`. -/
def getUser (key : UserKey) : Except Error User × UserStore :=
  match s.cache key with
  | some u => (.ok u, s)
  | none =>
    match selectUser s.rows key with
    | some u => (.ok u, s.cacheUser u)
    | none => (.error ErrUserNotFound, s)

/-! ### Writes -/

/-- `CreateUser`; the identifier comes from the database. -/
def createUser (req : CreateUserRequest) (hashedPassword : String) (id : Uuid) (now : Nat) :
    Except Error User × UserStore :=
  let row := newUserRow req hashedPassword id now
  if check now row && admits s.rows row then
    (.ok (fromSQLCUser row),
      { s with rows := s.rows ++ [row] }.invalidateUser row.id row.email row.username)
  else (.error (failed "create user"), s)

/-- `UpdateUser`, which sets no column. -/
def updateUser (id : Uuid) (now : Nat) : Except Error User × UserStore :=
  match updateRows (check now) id (touched now) s.rows with
  | none => (.error (failed "update user"), s)
  | some rows =>
    match rows.find? fun row => row.id = id with
    | none => (.error ErrUserNotFound, { s with rows := rows })
    | some row =>
      let u := fromSQLCUser row
      (.ok u, ({ s with rows := rows }.invalidateUser u.id u.email u.username).cacheUser u)

/-- A write that knows the identifier only, and drops the entry that has it for its key. -/
def writeByID (operation : String) (id : Uuid) (change : UserRow → UserRow) (now : Nat) :
    Except Error Unit × UserStore :=
  match updateRows (check now) id change s.rows with
  | none => (.error (failed operation), s)
  | some rows => (.ok (), { s with rows := rows }.invalidateUserByID id)

def deleteUser (id : Uuid) (now : Nat) := s.writeByID check "delete user" id (softDeleted now) now

def incrementFailedAttempts (id : Uuid) (now : Nat) :=
  s.writeByID check "increment failed attempts" id (incrementedFailedLogins now) now

def resetFailedAttempts (id : Uuid) (now : Nat) :=
  s.writeByID check "reset failed attempts" id (unlocked now) now

def lockAccount (id : Uuid) (until_ now : Nat) :=
  s.writeByID check "lock account" id (fun row => lockedUntil now row until_) now

def updateLastLogin (id : Uuid) (now : Nat) :=
  s.writeByID check "update last login" id (loggedIn now) now

def setMFASecret (id : Uuid) (secret : String) (now : Nat) :=
  s.writeByID check "set mfa secret" id (fun row => mfaEnabledWith now row secret) now

def clearMFASecret (id : Uuid) (now : Nat) :=
  s.writeByID check "clear mfa secret" id (mfaDisabled now) now

/-- `UpdatePasswordAndHistory`, whose statement finds no row on a connection without the tenant. -/
def updatePasswordAndHistory (id : Uuid) (newHash : String) (newHistory : List String)
    (tenant : Bool) (now : Nat) :=
  s.writeByID check "update password and history" id
    (fun row => if tenant then passwordUpdated now row newHash newHistory else row) now

end Repository

/-- With nothing in the cache. -/
def uncached (s : UserStore) : UserStore := { s with cache := fun _ => none }

end UserStore

/-! ## Sequences of operations -/

inductive UserOp where
  | getUser (key : UserKey)
  | createUser (req : CreateUserRequest) (hashedPassword : String) (id : Uuid) (now : Nat)
  | updateUser (id : Uuid) (now : Nat)
  | deleteUser (id : Uuid) (now : Nat)
  | incrementFailedAttempts (id : Uuid) (now : Nat)
  | resetFailedAttempts (id : Uuid) (now : Nat)
  | lockAccount (id : Uuid) (until_ now : Nat)
  | updateLastLogin (id : Uuid) (now : Nat)
  | setMFASecret (id : Uuid) (secret : String) (now : Nat)
  | clearMFASecret (id : Uuid) (now : Nat)
  | updatePasswordAndHistory (id : Uuid) (newHash : String) (newHistory : List String)
      (tenant : Bool) (now : Nat)
  /-- An entry of the cache expires. -/
  | expire (key : UserKey)

namespace UserOp

/-- The write of an operation that knows the identifier only. -/
def byID : UserOp → Option (Uuid × (UserRow → UserRow) × Nat)
  | deleteUser id now => some (id, softDeleted now, now)
  | incrementFailedAttempts id now => some (id, incrementedFailedLogins now, now)
  | resetFailedAttempts id now => some (id, unlocked now, now)
  | lockAccount id until_ now => some (id, fun row => lockedUntil now row until_, now)
  | updateLastLogin id now => some (id, loggedIn now, now)
  | setMFASecret id secret now => some (id, fun row => mfaEnabledWith now row secret, now)
  | clearMFASecret id now => some (id, mfaDisabled now, now)
  | updatePasswordAndHistory id newHash newHistory tenant now =>
    some (id, fun row => if tenant then passwordUpdated now row newHash newHistory else row, now)
  | _ => none

end UserOp

namespace UserStore

variable (check : Nat → UserRow → Bool)

def step (s : UserStore) : UserOp → UserStore
  | .getUser key => (s.getUser key).2
  | .createUser req hashedPassword id now => (s.createUser check req hashedPassword id now).2
  | .updateUser id now => (s.updateUser check id now).2
  | .deleteUser id now => (s.deleteUser check id now).2
  | .incrementFailedAttempts id now => (s.incrementFailedAttempts check id now).2
  | .resetFailedAttempts id now => (s.resetFailedAttempts check id now).2
  | .lockAccount id until_ now => (s.lockAccount check id until_ now).2
  | .updateLastLogin id now => (s.updateLastLogin check id now).2
  | .setMFASecret id secret now => (s.setMFASecret check id secret now).2
  | .clearMFASecret id now => (s.clearMFASecret check id now).2
  | .updatePasswordAndHistory id newHash newHistory tenant now =>
    (s.updatePasswordAndHistory check id newHash newHistory tenant now).2
  | .expire key => s.drop key

def after (start : List UserRow) (ops : List UserOp) : UserStore :=
  ops.foldl (step check) { rows := start }

/-- A read returns what it would return with the cache empty. -/
def Current (s : UserStore) : Prop :=
  ∀ key, (s.getUser key).1 = (s.uncached.getUser key).1

/-- At every point of the sequence, every read is current. -/
def Coherent (start : List UserRow) (ops : List UserOp) : Prop :=
  ∀ before rest, ops = before ++ rest → (after check start before).Current

/-- The row of the user stays as it is for its readers. -/
def Unseen (change : UserRow → UserRow) (row : UserRow) : Prop :=
  fromSQLCUser (change row) = fromSQLCUser row

/-- What an operation may be asked for: no write by identifier changes a user that is cached under
its email or its username, and no deleted user is updated. -/
def Harmless (s : UserStore) (op : UserOp) : Prop :=
  (∀ id change now, op.byID = some (id, change, now) →
    ∀ row ∈ s.rows, row.id = id → row.deletedAt = none → check now (change row) = true →
      Unseen change row ∨
        s.cache (.email row.email) = none ∧ s.cache (.username row.username) = none) ∧
  ∀ id now, op = .updateUser id now →
    ∀ row ∈ s.rows, row.id = id → check now (touched now row) = true → row.deletedAt = none

/-! ## Entries and rows -/

/-- What is cached under a key is what the table has for it. -/
def Fresh (s : UserStore) : Prop :=
  ∀ key u, s.cache key = some u → selectUser s.rows key = some u

/-- The table is consistent, and no user is cached under an empty username. -/
structure Sound (s : UserStore) : Prop where
  distinct : DistinctUsers s.rows
  nameless : s.cache (.username "") = none

variable {check} {s : UserStore} {u : User} {row : UserRow} {id : Uuid} {now : Nat}
  {change : UserRow → UserRow} {rows : List UserRow}

theorem current_iff : s.Current ↔ s.Fresh := by
  have plain (key : UserKey) : (s.uncached.getUser key).1 =
      ((selectUser s.rows key).elim (.error ErrUserNotFound) .ok : Except Error User) := by
    rw [getUser, uncached]
    cases selectUser s.rows key <;> rfl
  constructor
  · intro current key u cached
    have same := current key
    rw [plain, getUser, cached] at same
    cases read : selectUser s.rows key with
    | none => rw [read] at same; cases same
    | some v => rw [read] at same; rw [Except.ok.inj same]
  · intro fresh key
    rw [plain, getUser]
    cases cached : s.cache key with
    | none => cases selectUser s.rows key <;> rfl
    | some u => rw [fresh key u cached]; rfl

theorem cache_cacheUser {key : UserKey} {v : User} (cached : (s.cacheUser u).cache key = some v) :
    key ∈ [.id u.id, .email u.email, .username u.username] ∧ key ≠ .username "" ∧ v = u ∨
      key ∉ [.id u.id, .email u.email] ∧ (key = .username u.username → u.username = "") ∧
        s.cache key = some v := by
  rw [cacheUser] at cached
  dsimp only at cached
  by_cases named : u.username ≠ ""
  · rw [if_pos named] at cached
    simp only [Function.update_apply] at cached
    split_ifs at cached with byName byEmail byID
    · exact .inl ⟨by simp [byName], by simp [byName, named], (Option.some.inj cached).symm⟩
    · exact .inl ⟨by simp [byEmail], by simp [byEmail], (Option.some.inj cached).symm⟩
    · exact .inl ⟨by simp [byID], by simp [byID], (Option.some.inj cached).symm⟩
    · exact .inr ⟨by simp [byEmail, byID], fun same => absurd same byName, cached⟩
  · rw [if_neg named] at cached
    simp only [Function.update_apply] at cached
    split_ifs at cached with byEmail byID
    · exact .inl ⟨by simp [byEmail], by simp [byEmail], (Option.some.inj cached).symm⟩
    · exact .inl ⟨by simp [byID], by simp [byID], (Option.some.inj cached).symm⟩
    · exact .inr ⟨by simp [byEmail, byID], fun _ => not_not.mp named, cached⟩

theorem cacheUser_id : (s.cacheUser u).cache (.id u.id) = some u := by
  rw [cacheUser]
  split_ifs <;> simp

theorem cacheUser_nameless (nameless : s.cache (.username "") = none) :
    (s.cacheUser u).cache (.username "") = none := by
  cases cached : (s.cacheUser u).cache (.username "") with
  | none => rfl
  | some v =>
    rcases cache_cacheUser cached with ⟨_, named, _⟩ | ⟨_, _, before⟩
    · exact absurd rfl named
    · rw [nameless] at before
      cases before

theorem cache_drop {key dropped : UserKey} : (s.drop dropped).cache key = some u ↔
    key ≠ dropped ∧ s.cache key = some u := by
  have cache : (s.drop dropped).cache key = if key = dropped then none else s.cache key :=
    Function.update_apply ..
  rw [cache]
  split_ifs with same
  · exact iff_of_false nofun fun both => both.1 same
  · exact (and_iff_right same).symm

theorem cache_invalidateUser {key : UserKey} {email username : String}
    (cached : (s.invalidateUser id email username).cache key = some u) :
    key ≠ .id id ∧ s.cache key = some u := by
  rw [invalidateUser] at cached
  split_ifs at cached
  · exact cache_drop.mp (cache_drop.mp (cache_drop.mp cached).2).2
  · exact cache_drop.mp (cache_drop.mp cached).2
  · exact cache_drop.mp (cache_drop.mp cached).2
  · exact cache_drop.mp cached

theorem rows_invalidateUser (email username : String) :
    (s.invalidateUser id email username).rows = s.rows := by
  rw [invalidateUser]
  split_ifs <;> rfl

/-! ## What a step does to the entries -/

theorem Fresh.cacheUser (distinct : DistinctUsers s.rows) (member : row ∈ s.rows)
    (live : row.deletedAt = none)
    (others : ∀ key v, key ∉ row.keys ∨ key = .username "" → s.cache key = some v →
      selectUser s.rows key = some v) : (s.cacheUser (fromSQLCUser row)).Fresh := by
  intro key v cached
  rcases cache_cacheUser cached with ⟨mine, _, rfl⟩ | ⟨apart, unnamed, before⟩
  · have reads : key.reads row = true := UserKey.reads_iff.mpr ⟨live, mine⟩
    exact (DistinctUsers.selectUser_eq_some_iff distinct).mpr ⟨row, member, reads, rfl⟩
  · refine others key v ?_ before
    by_cases name : key = .username row.username
    · exact .inr (by rw [name]; exact congrArg _ (unnamed name))
    · refine .inl fun mine => ?_
      simp only [UserRow.keys, List.mem_cons, List.not_mem_nil, or_false] at mine
      rcases mine with id | email | username
      · exact apart (by simp [id, fromSQLCUser])
      · exact apart (by simp [email, fromSQLCUser])
      · exact name username

theorem fresh_getUser (sound : s.Sound) (fresh : s.Fresh) (key : UserKey) :
    (s.getUser key).2.Fresh := by
  rw [getUser]
  cases cached : s.cache key with
  | some u => exact fresh
  | none =>
    cases read : selectUser s.rows key with
    | none => exact fresh
    | some u =>
      obtain ⟨row, member, reads, rfl⟩ :=
        (DistinctUsers.selectUser_eq_some_iff sound.distinct).mp read
      exact Fresh.cacheUser sound.distinct member (UserKey.reads_iff.mp reads).1
        fun other v _ => fresh other v

theorem fresh_createUser (sound : s.Sound) (fresh : s.Fresh) (req : CreateUserRequest)
    (hashedPassword : String) (id : Uuid) (now : Nat) :
    (s.createUser check req hashedPassword id now).2.Fresh := by
  rw [createUser]
  split_ifs with accepted
  · rw [Bool.and_eq_true] at accepted
    intro key v cached
    have before := fresh key v (cache_invalidateUser cached).2
    rw [rows_invalidateUser, (sound.distinct.append accepted.2).selectUser_eq_some_iff]
    obtain ⟨row, member, reads, read⟩ := sound.distinct.selectUser_eq_some_iff.mp before
    exact ⟨row, List.mem_append_left _ member, reads, read⟩
  · exact fresh

theorem mem_changed {other : UserRow} (member : other ∈ s.rows) (apart : other.id ≠ id) :
    other ∈ s.rows.map fun row => if row.id = id then change row else row :=
  List.mem_map.mpr ⟨other, member, if_neg apart⟩

theorem changed_mem (member : row ∈ s.rows) (same : row.id = id) :
    change row ∈ s.rows.map fun row => if row.id = id then change row else row :=
  List.mem_map.mpr ⟨row, member, if_pos same⟩

theorem Sound.refused_of_updateRows (sound : s.Sound)
    (updated : updateRows (check now) id change s.rows = none) (member : row ∈ s.rows)
    (same : row.id = id) : ¬ check now (change row) = true := by
  obtain ⟨refused, refusedMem, refusedId, fails⟩ := updateRows_eq_none updated
  rw [sound.distinct.ids row member refused refusedMem (same.trans refusedId.symm), fails]
  exact Bool.false_ne_true

/-- A write by identifier is right for the entries that are left if and only if none of them is of
the user that it changes. -/
theorem fresh_writeByID_iff (sound : s.Sound) (fresh : s.Fresh) (keeps : KeepsKeys change)
    (operation : String) : (s.writeByID check operation id change now).2.Fresh ↔
      ∀ row ∈ s.rows, row.id = id → row.deletedAt = none → check now (change row) = true →
        Unseen change row ∨
          s.cache (.email row.email) = none ∧ s.cache (.username row.username) = none := by
  rw [writeByID]
  cases updated : updateRows (check now) id change s.rows with
  | none =>
    exact iff_of_true fresh fun row member same _ accepted =>
      absurd accepted (sound.refused_of_updateRows updated member same)
  | some rows =>
    obtain ⟨rfl, accepts⟩ := updateRows_eq_some updated
    have distinct := sound.distinct.map (keeps.at id)
    constructor
    · intro after row member same live _
      have stale (key : UserKey) (other : key ≠ .id id) (mine : key ∈ row.keys)
          (seen : ¬ Unseen change row) : s.cache key = none := by
        cases cached : s.cache key with
        | none => rfl
        | some u =>
          obtain ⟨read, readMem, reads, rfl⟩ :=
            sound.distinct.selectUser_eq_some_iff.mp (fresh key u cached)
          have one := sound.distinct.named key read readMem row member reads
            (UserKey.reads_iff.mpr ⟨live, mine⟩)
          obtain ⟨changed, changedMem, _, same'⟩ := distinct.selectUser_eq_some_iff.mp
            (after key _ (cache_drop.mpr ⟨other, cached⟩))
          obtain ⟨origin, originMem, rfl⟩ := List.mem_map.mp changedMem
          have ids : origin.id = id := by
            have read' := congrArg User.id same'
            rw [one] at read'
            exact (((keeps.at id).id origin).symm.trans read').trans same
          obtain rfl := sound.distinct.ids origin originMem row member (ids.trans same.symm)
          rw [if_pos ids, one] at same'
          exact absurd same' seen
      by_cases seen : Unseen change row
      · exact .inl seen
      · exact .inr ⟨stale _ nofun (by simp [UserRow.keys]) seen,
          stale _ nofun (by simp [UserRow.keys]) seen⟩
    · intro harmless key u cached
      obtain ⟨other, before⟩ := cache_drop.mp cached
      obtain ⟨row, member, reads, rfl⟩ :=
        sound.distinct.selectUser_eq_some_iff.mp (fresh key u before)
      obtain ⟨live, mine⟩ := UserKey.reads_iff.mp reads
      refine distinct.selectUser_eq_some_iff.mpr ?_
      by_cases same : row.id = id
      · rcases harmless row member same live (accepts row member same) with
          unseen | ⟨noEmail, noUsername⟩
        · have alive : (change row).deletedAt = none :=
            (congrArg User.deletedAt unseen).trans live
          refine ⟨change row, changed_mem member same, ?_, unseen⟩
          exact UserKey.reads_iff.mpr ⟨alive, by rw [keeps.keys]; exact mine⟩
        · simp only [UserRow.keys, List.mem_cons, List.not_mem_nil, or_false] at mine
          rcases mine with rfl | rfl | rfl
          · exact absurd (congrArg _ same) other
          · rw [noEmail] at before
            cases before
          · rw [noUsername] at before
            cases before
      · exact ⟨row, mem_changed member same, reads, rfl⟩

theorem fresh_updateUser_iff (sound : s.Sound) (fresh : s.Fresh) :
    (s.updateUser check id now).2.Fresh ↔
      ∀ row ∈ s.rows, row.id = id → check now (touched now row) = true → row.deletedAt = none := by
  have keeps : KeepsKeys (touched now) :=
    ⟨fun _ => rfl, fun _ => rfl, fun _ => rfl, fun _ live => live⟩
  rw [updateUser]
  cases updated : updateRows (check now) id (touched now) s.rows with
  | none =>
    exact iff_of_true fresh fun row member same accepted =>
      absurd accepted (sound.refused_of_updateRows updated member same)
  | some rows =>
    obtain ⟨rfl, accepts⟩ := updateRows_eq_some updated
    have distinct := sound.distinct.map (keeps.at id)
    dsimp only
    cases found : (s.rows.map fun row => if row.id = id then touched now row else row).find?
        fun row => row.id = id with
    | none =>
      have absent (row : UserRow) (member : row ∈ s.rows) : row.id ≠ id := fun same => by
        have changed : touched now row ∈
            s.rows.map fun row => if row.id = id then touched now row else row :=
          changed_mem member same
        have other := List.find?_eq_none.mp found (touched now row) changed
        exact absurd (decide_eq_true same) other
      refine iff_of_true (fun key u cached => ?_) fun row member same _ =>
        absurd same (absent row member)
      obtain ⟨row, member, reads, rfl⟩ :=
        sound.distinct.selectUser_eq_some_iff.mp (fresh key u cached)
      exact distinct.selectUser_eq_some_iff.mpr
        ⟨row, mem_changed member (absent row member), reads, rfl⟩
    | some new =>
      obtain ⟨row, member, rfl⟩ := List.mem_map.mp (List.mem_of_find?_eq_some found)
      have newId : (if row.id = id then touched now row else row).id = id := by
        have one := List.find?_some found
        exact of_decide_eq_true one
      have same : row.id = id := ((keeps.at id).id row).symm.trans newId
      rw [if_pos same]
      have changed : touched now row ∈
          s.rows.map fun row => if row.id = id then touched now row else row :=
        changed_mem member same
      have kept : (s.rows.map fun row => if row.id = id then touched now row else row) =
          (invalidateUser { s with rows := s.rows.map fun row =>
            if row.id = id then touched now row else row } (fromSQLCUser (touched now row)).id
            (fromSQLCUser (touched now row)).email
            (fromSQLCUser (touched now row)).username).rows := by
        rw [rows_invalidateUser]
      constructor
      · intro after other otherMem otherId _
        have one := sound.distinct.ids other otherMem row member (otherId.trans same.symm)
        have read := (congrArg (selectUser · (.id row.id)) kept).trans
          (after (.id row.id) _ cacheUser_id)
        obtain ⟨served, servedMem, reads, _⟩ := distinct.selectUser_eq_some_iff.mp read
        obtain ⟨origin, originMem, rfl⟩ := List.mem_map.mp servedMem
        obtain ⟨live, mine⟩ := UserKey.reads_iff.mp ((keeps.at id).reads reads)
        have ids : row.id = origin.id := by simpa [UserRow.keys] using mine
        rw [one, ← sound.distinct.ids origin originMem row member ids.symm]
        exact live
      · intro harmless
        have live := harmless row member same (accepts row member same)
        rw [kept] at distinct changed
        refine Fresh.cacheUser distinct changed live ?_
        rw [← kept] at distinct changed ⊢
        intro key v apart cached
        obtain ⟨_, before⟩ := cache_invalidateUser cached
        obtain ⟨read, readMem, reads, rfl⟩ :=
          sound.distinct.selectUser_eq_some_iff.mp (fresh key v before)
        refine distinct.selectUser_eq_some_iff.mpr ⟨read, mem_changed readMem ?_, reads, rfl⟩
        intro ids
        have one := sound.distinct.ids read readMem row member (ids.trans same.symm)
        rcases apart with unnamed | nameless
        · rw [keeps.keys, ← one] at unnamed
          exact unnamed (UserKey.reads_iff.mp reads).2
        · rw [nameless, sound.nameless] at before
          cases before

/-! ## Steps and sequences -/

theorem byID_keeps {op : UserOp} (writes : op.byID = some (id, change, now)) :
    KeepsKeys change := by
  cases op with
  | getUser | createUser | updateUser | expire => cases writes
  | deleteUser id now =>
    cases writes
    exact ⟨fun _ => rfl, fun _ => rfl, fun _ => rfl,
      fun _ gone => absurd gone (Option.some_ne_none now)⟩
  | updatePasswordAndHistory id newHash newHistory tenant now =>
    cases writes
    have unchanged : KeepsKeys fun row => row :=
      ⟨fun _ => rfl, fun _ => rfl, fun _ => rfl, fun _ live => live⟩
    have updated : KeepsKeys fun row => passwordUpdated now row newHash newHistory :=
      ⟨fun _ => rfl, fun _ => rfl, fun _ => rfl, fun _ live => live⟩
    cases tenant with
    | false => exact unchanged
    | true => exact updated
  | incrementFailedAttempts | resetFailedAttempts | lockAccount | updateLastLogin | setMFASecret
  | clearMFASecret =>
    cases writes
    exact ⟨fun _ => rfl, fun _ => rfl, fun _ => rfl, fun _ live => live⟩

theorem step_byID {op : UserOp} (writes : op.byID = some (id, change, now)) :
    ∃ operation, step check s op = (s.writeByID check operation id change now).2 := by
  cases op with
  | getUser | createUser | updateUser | expire => cases writes
  | deleteUser id now =>
    cases writes
    exact ⟨"delete user", rfl⟩
  | incrementFailedAttempts id now =>
    cases writes
    exact ⟨"increment failed attempts", rfl⟩
  | resetFailedAttempts id now =>
    cases writes
    exact ⟨"reset failed attempts", rfl⟩
  | lockAccount id until_ now =>
    cases writes
    exact ⟨"lock account", rfl⟩
  | updateLastLogin id now =>
    cases writes
    exact ⟨"update last login", rfl⟩
  | setMFASecret id secret now =>
    cases writes
    exact ⟨"set mfa secret", rfl⟩
  | clearMFASecret id now =>
    cases writes
    exact ⟨"clear mfa secret", rfl⟩
  | updatePasswordAndHistory id newHash newHistory tenant now =>
    cases writes
    exact ⟨"update password and history", rfl⟩

theorem Sound.cacheUser (sound : s.Sound) (u : User) : (s.cacheUser u).Sound where
  distinct := sound.distinct
  nameless := cacheUser_nameless sound.nameless

theorem Sound.drop (sound : s.Sound) (key : UserKey) : (s.drop key).Sound where
  distinct := sound.distinct
  nameless := by
    cases cached : (s.drop key).cache (.username "") with
    | none => rfl
    | some u => exact absurd (cache_drop.mp cached).2 (by rw [sound.nameless]; exact nofun)

theorem Sound.invalidateUser (sound : s.Sound) (id : Uuid) (email username : String) :
    (s.invalidateUser id email username).Sound := by
  rw [UserStore.invalidateUser]
  split_ifs
  · exact ((sound.drop _).drop _).drop _
  · exact (sound.drop _).drop _
  · exact (sound.drop _).drop _
  · exact sound.drop _

theorem Sound.step (sound : s.Sound) (op : UserOp) : (step check s op).Sound := by
  cases writes : op.byID with
  | some write =>
    obtain ⟨id, change, now⟩ := write
    obtain ⟨operation, (eq : UserStore.step check s op = _)⟩ := step_byID writes
    rw [eq, writeByID]
    cases updated : updateRows (check now) id change s.rows with
    | none => exact sound
    | some rows =>
      obtain ⟨rfl, _⟩ := updateRows_eq_some updated
      have changed : Sound { s with rows := s.rows.map fun row =>
          if row.id = id then change row else row } :=
        ⟨sound.distinct.map ((byID_keeps writes).at id), sound.nameless⟩
      exact changed.drop _
  | none =>
    cases op with
    | getUser key =>
      rw [UserStore.step, getUser]
      cases s.cache key with
      | some u => exact sound
      | none =>
        cases selectUser s.rows key with
        | none => exact sound
        | some u => exact sound.cacheUser u
    | createUser req hashedPassword id now =>
      rw [UserStore.step, createUser]
      split_ifs with accepted
      · rw [Bool.and_eq_true] at accepted
        have inserted : Sound { s with
            rows := s.rows ++ [newUserRow req hashedPassword id now] } :=
          ⟨sound.distinct.append accepted.2, sound.nameless⟩
        exact inserted.invalidateUser _ _ _
      · exact sound
    | updateUser id now =>
      rw [UserStore.step, updateUser]
      cases updated : updateRows (check now) id (touched now) s.rows with
      | none => exact sound
      | some rows =>
        obtain ⟨rfl, _⟩ := updateRows_eq_some updated
        have keeps : KeepsKeys (touched now) :=
          ⟨fun _ => rfl, fun _ => rfl, fun _ => rfl, fun _ live => live⟩
        have changed : Sound { s with rows := s.rows.map fun row =>
            if row.id = id then touched now row else row } :=
          ⟨sound.distinct.map (keeps.at id), sound.nameless⟩
        dsimp only
        cases (s.rows.map fun row => if row.id = id then touched now row else row).find?
            fun row => row.id = id with
        | none => exact changed
        | some row => exact (changed.invalidateUser _ _ _).cacheUser _
    | expire key => exact sound.drop key
    | _ => cases writes

/-- From entries that are right, an operation leads to such entries if and only if it is
harmless. -/
theorem fresh_step_iff (sound : s.Sound) (fresh : s.Fresh) (op : UserOp) :
    (step check s op).Fresh ↔ Harmless check s op := by
  cases writes : op.byID with
  | some write =>
    obtain ⟨id, change, now⟩ := write
    obtain ⟨operation, (eq : UserStore.step check s op = _)⟩ := step_byID writes
    rw [eq, fresh_writeByID_iff sound fresh (byID_keeps writes)]
    constructor
    · intro harmless
      refine ⟨fun id' change' now' same => ?_, ?_⟩
      · cases Option.some.inj (writes.symm.trans same)
        exact harmless
      · rintro id' now' rfl
        cases writes
    · exact fun harmless => harmless.1 id change now writes
  | none =>
    have noWrite : ∀ id change now, op.byID = some (id, change, now) →
        ∀ row ∈ s.rows, row.id = id → row.deletedAt = none → check now (change row) = true →
          Unseen change row ∨
            s.cache (.email row.email) = none ∧ s.cache (.username row.username) = none := by
      intro id change now same
      rw [writes] at same
      cases same
    cases op with
    | getUser key => exact iff_of_true (fresh_getUser sound fresh key) ⟨noWrite, nofun⟩
    | createUser req hashedPassword id now =>
      exact iff_of_true (fresh_createUser sound fresh req hashedPassword id now)
        ⟨noWrite, nofun⟩
    | updateUser id now =>
      rw [step, fresh_updateUser_iff sound fresh]
      constructor
      · intro harmless
        refine ⟨noWrite, fun id' now' same => ?_⟩
        cases same
        exact harmless
      · exact fun harmless => harmless.2 id now rfl
    | expire key =>
      exact iff_of_true (fun other u cached => fresh other u (cache_drop.mp cached).2)
        ⟨noWrite, nofun⟩
    | _ => cases writes

theorem after_concat (start : List UserRow) (before : List UserOp) (op : UserOp) :
    after check start (before ++ [op]) = step check (after check start before) op :=
  List.foldl_concat ..

theorem sound_after {start : List UserRow} (distinct : DistinctUsers start) (ops : List UserOp) :
    (after check start ops).Sound := by
  induction ops using List.reverseRecOn with
  | nil => exact ⟨distinct, rfl⟩
  | append_singleton before op ih =>
    rw [after_concat]
    exact ih.step op

end UserStore

/-- In every sequence of operations on a table of users that is consistent, all reads are current
at every point if and only if every operation is harmless where it stands. -/
theorem coherent_iff (check : Nat → UserRow → Bool) (start : Subtype DistinctUsers)
    (ops : List UserOp) : UserStore.Coherent check start.1 ops ↔
      ∀ before op rest, ops = before ++ op :: rest →
        UserStore.Harmless check (UserStore.after check start.1 before) op := by
  have sound (before : List UserOp) : (UserStore.after check start.1 before).Sound :=
    UserStore.sound_after start.2 before
  constructor
  · intro coherent before op rest split
    have fresh := UserStore.current_iff.mp (coherent before (op :: rest) split)
    have next := coherent (before ++ [op]) rest (by rw [split, List.append_assoc]; rfl)
    rw [UserStore.current_iff, UserStore.after_concat] at next
    exact (UserStore.fresh_step_iff (sound before) fresh op).mp next
  · intro harmless before rest split
    rw [UserStore.current_iff]
    induction before using List.reverseRecOn generalizing rest with
    | nil => exact nofun
    | append_singleton before op ih =>
      rw [List.append_assoc, List.singleton_append] at split
      rw [UserStore.after_concat]
      exact (UserStore.fresh_step_iff (sound before) (ih _ split) op).mpr
        (harmless before op rest split)

def ada : CreateUserRequest where
  entityID := 7
  username := "ada"
  email := "ada@example.org"
  userType := "INTERNAL"
  accountStatus := "ACTIVE"

def servedDeleted : List UserOp :=
  [.createUser ada "hash" 1 1, .getUser (.email "ada@example.org"),
    .deleteUser 1 2]

theorem servedDeleted_incoherent :
    (((UserStore.after (fun _ _ => true) [] servedDeleted).getUser
        (.email "ada@example.org")).1 = .ok (fromSQLCUser (newUserRow ada "hash" 1 1)) ∧
      ((UserStore.after (fun _ _ => true) [] servedDeleted).uncached.getUser
        (.email "ada@example.org")).1 = .error UserStore.ErrUserNotFound) ∧
      ¬ UserStore.Coherent (fun _ _ => true) [] servedDeleted := by
  have served : ((UserStore.after (fun _ _ => true) [] servedDeleted).getUser
      (.email "ada@example.org")).1 = .ok (fromSQLCUser (newUserRow ada "hash" 1 1)) := rfl
  have gone : ((UserStore.after (fun _ _ => true) [] servedDeleted).uncached.getUser
      (.email "ada@example.org")).1 = .error UserStore.ErrUserNotFound := rfl
  refine ⟨⟨served, gone⟩, fun coherent => ?_⟩
  have same := coherent servedDeleted [] (List.append_nil _).symm (.email "ada@example.org")
  rw [served, gone] at same
  cases same

end ErpFinance.Iam
