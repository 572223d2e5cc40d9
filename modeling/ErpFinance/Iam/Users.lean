import ErpFinance.Domain.Basics
import ErpFinance.Runtime.Errors

/-!
# The rows of users

The table of the users of a tenant and the statements on it.  Deleted users stay
in the table; of those that are not deleted no two have the same email or the
same username.
-/

namespace ErpFinance.Iam

open Domain ErpFinance.Runtime

/-- A row of the table `users`; instants are in nanoseconds. -/
structure UserRow where
  id : Uuid
  entityID : Uuid
  username : String
  email : String
  displayName : Option String := none
  passwordHash : Option String := none
  passwordHistory : List String := []
  userType : String
  accountStatus : Option String
  isActive : Bool := true
  lastLoginAt : Option Nat := none
  failedLoginAttempts : Option Int := some 0
  lockoutUntil : Option Nat := none
  sessionTimeoutMinutes : Option Int
  mfaEnabled : Option Bool
  mfaSecret : Option String := none
  createdAt : Nat
  updatedAt : Nat
  deletedAt : Option Nat := none

/-- `User`; an instant that the row has not is the zero time. -/
structure User where
  id : Uuid
  entityID : Uuid
  username : String
  email : String
  displayName : Option String
  userType : String
  accountStatus : String
  isActive : Bool
  lastLoginAt : Option Nat
  failedLoginAttempts : Int
  lockoutUntil : Option Nat
  sessionTimeoutMinutes : Int
  mfaEnabled : Bool
  createdAt : Nat
  updatedAt : Nat
  deletedAt : Option Nat
deriving DecidableEq

def fromSQLCUser (row : UserRow) : User where
  id := row.id
  entityID := row.entityID
  username := row.username
  email := row.email
  displayName := row.displayName
  userType := row.userType
  accountStatus := row.accountStatus.getD ""
  isActive := row.isActive
  lastLoginAt := row.lastLoginAt
  failedLoginAttempts := row.failedLoginAttempts.getD 0
  lockoutUntil := row.lockoutUntil
  sessionTimeoutMinutes := row.sessionTimeoutMinutes.getD 0
  mfaEnabled := row.mfaEnabled.getD false
  createdAt := row.createdAt
  updatedAt := row.updatedAt
  deletedAt := row.deletedAt

structure CreateUserRequest where
  entityID : Uuid
  username : String
  email : String
  displayName : Option String := none
  userType : String
  accountStatus : String := ""
  sessionTimeoutMinutes : Int := 0
  mfaEnabled : Bool := false

/-! ## What a statement makes of a row -/

section Columns

variable (now : Nat) (row : UserRow)

/-- The row that `CreateUser` inserts. -/
def newUserRow (req : CreateUserRequest) (hashedPassword : String) (id : Uuid) (now : Nat) :
    UserRow where
  id := id
  entityID := req.entityID
  username := req.username
  email := req.email
  displayName := req.displayName
  passwordHash := some hashedPassword
  userType := req.userType
  accountStatus := some req.accountStatus
  sessionTimeoutMinutes :=
    if 0 < req.sessionTimeoutMinutes then some req.sessionTimeoutMinutes else none
  mfaEnabled := some req.mfaEnabled
  createdAt := now
  updatedAt := now

/-- `UpdateUser` with no column but the identifier. -/
def touched : UserRow := { row with updatedAt := now }

/-- `SoftDeleteUser`. -/
def softDeleted : UserRow := { row with deletedAt := some now, updatedAt := now }

/-- `IncrementFailedLogins`. -/
def incrementedFailedLogins : UserRow :=
  { row with failedLoginAttempts := row.failedLoginAttempts.map (· + 1), updatedAt := now }

/-- `UnlockUser`. -/
def unlocked : UserRow :=
  { row with failedLoginAttempts := some 0, lockoutUntil := none, updatedAt := now }

/-- `LockAccount`. -/
def lockedUntil (until_ : Nat) : UserRow :=
  { row with lockoutUntil := some until_, updatedAt := now }

/-- `UpdateUserLastLogin`. -/
def loggedIn : UserRow := { row with lastLoginAt := some now, updatedAt := now }

/-- `EnableMFA`. -/
def mfaEnabledWith (secret : String) : UserRow :=
  { row with mfaSecret := some secret, mfaEnabled := some true, updatedAt := now }

/-- `DisableMFA`. -/
def mfaDisabled : UserRow :=
  { row with mfaSecret := none, mfaEnabled := some false, updatedAt := now }

/-- `UpdatePasswordAndHistory`. -/
def passwordUpdated (newHash : String) (newHistory : List String) : UserRow :=
  { row with
    passwordHash := some newHash
    passwordHistory := newHistory.take 5
    updatedAt := now }

end Columns

/-! ## The table -/

/-- What a user is read by. -/
inductive UserKey where
  | id (id : Uuid)
  | email (email : String)
  | username (username : String)
deriving DecidableEq

def UserKey.reads : UserKey → UserRow → Bool
  | id key, row => row.deletedAt.isNone && row.id = key
  | email key, row => row.deletedAt.isNone && row.email = key
  | username key, row => row.deletedAt.isNone && row.username = key

def UserRow.keys (row : UserRow) : List UserKey :=
  [.id row.id, .email row.email, .username row.username]

/-- The constraints of the table: its primary key, and the names among the rows that are not
deleted. -/
structure DistinctUsers (rows : List UserRow) : Prop where
  ids : ∀ row ∈ rows, ∀ other ∈ rows, row.id = other.id → row = other
  named : ∀ key : UserKey, ∀ row ∈ rows, ∀ other ∈ rows,
    key.reads row = true → key.reads other = true → row = other

/-- `GetUserByID`, `GetUserByEmail` and `GetUserByUsername`. -/
def selectUser (rows : List UserRow) (key : UserKey) : Option User :=
  (rows.find? key.reads).map fromSQLCUser

/-- Whether a new row breaks no constraint. -/
def admits (rows : List UserRow) (new : UserRow) : Bool :=
  rows.all fun row => row.id ≠ new.id &&
    (row.deletedAt.isSome || row.email ≠ new.email && row.username ≠ new.username)

/-- An update of the row with an identifier, unless its checks refuse what it becomes. -/
def updateRows (check : UserRow → Bool) (id : Uuid) (change : UserRow → UserRow)
    (rows : List UserRow) : Option (List UserRow) :=
  if rows.all fun row => row.id ≠ id || check (change row) then
    some (rows.map fun row => if row.id = id then change row else row)
  else none

/-! ## What the constraints give -/

structure KeepsKeys (change : UserRow → UserRow) : Prop where
  id : ∀ row, (change row).id = row.id
  email : ∀ row, (change row).email = row.email
  username : ∀ row, (change row).username = row.username
  deleted : ∀ row, (change row).deletedAt = none → row.deletedAt = none

theorem UserKey.reads_iff {key : UserKey} {row : UserRow} :
    key.reads row = true ↔ row.deletedAt = none ∧ key ∈ row.keys := by
  cases key with
  | id key =>
    simp only [reads, UserRow.keys, Bool.and_eq_true, Option.isNone_iff_eq_none,
      decide_eq_true_eq, List.mem_cons, List.not_mem_nil, or_false, UserKey.id.injEq,
      reduceCtorEq, or_self]
    exact and_congr_right' eq_comm
  | email key =>
    simp only [reads, UserRow.keys, Bool.and_eq_true, Option.isNone_iff_eq_none,
      decide_eq_true_eq, List.mem_cons, List.not_mem_nil, or_false, UserKey.email.injEq,
      reduceCtorEq, false_or]
    exact and_congr_right' eq_comm
  | username key =>
    simp only [reads, UserRow.keys, Bool.and_eq_true, Option.isNone_iff_eq_none,
      decide_eq_true_eq, List.mem_cons, List.not_mem_nil, or_false, UserKey.username.injEq,
      reduceCtorEq, false_or]
    exact and_congr_right' eq_comm

theorem KeepsKeys.keys {change : UserRow → UserRow} (keeps : KeepsKeys change) (row : UserRow) :
    (change row).keys = row.keys := by
  rw [UserRow.keys, keeps.id, keeps.email, keeps.username, UserRow.keys]

theorem KeepsKeys.reads {change : UserRow → UserRow} (keeps : KeepsKeys change) {key : UserKey}
    {row : UserRow} (reads : key.reads (change row) = true) : key.reads row = true := by
  rw [UserKey.reads_iff] at reads ⊢
  exact ⟨keeps.deleted row reads.1, keeps.keys row ▸ reads.2⟩

theorem KeepsKeys.at {change : UserRow → UserRow} (keeps : KeepsKeys change) (id : Uuid) :
    KeepsKeys fun row => if row.id = id then change row else row where
  id row := by split_ifs; exacts [keeps.id row, rfl]
  email row := by split_ifs; exacts [keeps.email row, rfl]
  username row := by split_ifs; exacts [keeps.username row, rfl]
  deleted row := by split_ifs; exacts [keeps.deleted row, fun live => live]

namespace DistinctUsers

variable {rows : List UserRow} {new row : UserRow} {change : UserRow → UserRow}

theorem map (distinct : DistinctUsers rows) (keeps : KeepsKeys change) :
    DistinctUsers (rows.map change) where
  ids := by
    intro first firstMem second secondMem same
    obtain ⟨row, member, rfl⟩ := List.mem_map.mp firstMem
    obtain ⟨other, otherMem, rfl⟩ := List.mem_map.mp secondMem
    rw [keeps.id, keeps.id] at same
    rw [distinct.ids row member other otherMem same]
  named := by
    intro key first firstMem second secondMem firstReads secondReads
    obtain ⟨row, member, rfl⟩ := List.mem_map.mp firstMem
    obtain ⟨other, otherMem, rfl⟩ := List.mem_map.mp secondMem
    rw [distinct.named key row member other otherMem (keeps.reads firstReads)
      (keeps.reads secondReads)]

theorem admits_apart (admitted : admits rows new = true) (member : row ∈ rows) :
    row.id ≠ new.id ∧ ∀ key : UserKey, key.reads row = true → key.reads new = false := by
  have apart := List.all_eq_true.mp admitted row member
  simp only [Bool.and_eq_true, Bool.or_eq_true, decide_eq_true_eq] at apart
  refine ⟨apart.1, fun key reads => ?_⟩
  obtain ⟨live, mine⟩ := UserKey.reads_iff.mp reads
  rw [live] at apart
  rw [Bool.eq_false_iff]
  intro also
  obtain ⟨-, theirs⟩ := UserKey.reads_iff.mp also
  obtain ⟨idNe, deleted | ⟨emailNe, usernameNe⟩⟩ := apart
  · cases deleted
  · simp only [UserRow.keys, List.mem_cons, List.not_mem_nil, or_false] at mine theirs
    rcases mine with rfl | rfl | rfl
    · simp [idNe] at theirs
    · simp [emailNe] at theirs
    · simp [usernameNe] at theirs

theorem append (distinct : DistinctUsers rows) (admitted : admits rows new = true) :
    DistinctUsers (rows ++ [new]) where
  ids := by
    intro first firstMem second secondMem same
    rw [List.mem_append, List.mem_singleton] at firstMem secondMem
    rcases firstMem with old | rfl <;> rcases secondMem with other | rfl
    · exact distinct.ids first old second other same
    · exact absurd same (admits_apart admitted old).1
    · exact absurd same.symm (admits_apart admitted other).1
    · rfl
  named := by
    intro key first firstMem second secondMem firstReads secondReads
    rw [List.mem_append, List.mem_singleton] at firstMem secondMem
    rcases firstMem with old | rfl <;> rcases secondMem with other | rfl
    · exact distinct.named key first old second other firstReads secondReads
    · have unread := (admits_apart admitted old).2 key firstReads
      rw [secondReads] at unread
      cases unread
    · have unread := (admits_apart admitted other).2 key secondReads
      rw [firstReads] at unread
      cases unread
    · rfl

theorem selectUser_eq_some_iff (distinct : DistinctUsers rows) {key : UserKey} {u : User} :
    selectUser rows key = some u ↔
      ∃ row ∈ rows, key.reads row = true ∧ fromSQLCUser row = u := by
  rw [selectUser, Option.map_eq_some_iff]
  constructor
  · rintro ⟨row, found, rfl⟩
    exact ⟨row, List.mem_of_find?_eq_some found, List.find?_some found, rfl⟩
  · rintro ⟨row, member, reads, rfl⟩
    cases found : rows.find? key.reads with
    | none => exact absurd reads (List.find?_eq_none.mp found row member)
    | some other =>
      have same := distinct.named key other (List.mem_of_find?_eq_some found) row member
        (List.find?_some found) reads
      exact ⟨other, rfl, by rw [same]⟩

end DistinctUsers

theorem updateRows_eq_some {check : UserRow → Bool} {id : Uuid} {change : UserRow → UserRow}
    {rows after : List UserRow} (updated : updateRows check id change rows = some after) :
    after = rows.map (fun row => if row.id = id then change row else row) ∧
      ∀ row ∈ rows, row.id = id → check (change row) = true := by
  rw [updateRows] at updated
  split_ifs at updated with all
  refine ⟨(Option.some.inj updated).symm, fun row member same => ?_⟩
  have one := List.all_eq_true.mp all row member
  simpa [same] using one

theorem updateRows_eq_none {check : UserRow → Bool} {id : Uuid} {change : UserRow → UserRow}
    {rows : List UserRow} (refused : updateRows check id change rows = none) :
    ∃ row ∈ rows, row.id = id ∧ check (change row) = false := by
  rw [updateRows] at refused
  split_ifs at refused with all
  have some := List.all_eq_false.mp (Bool.eq_false_iff.mpr all)
  obtain ⟨row, member, fails⟩ := some
  simp only [Bool.or_eq_true, decide_eq_true_eq, not_or, not_not, Bool.not_eq_true] at fails
  exact ⟨row, member, fails.1, fails.2⟩

end ErpFinance.Iam
