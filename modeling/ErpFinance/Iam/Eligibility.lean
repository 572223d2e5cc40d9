import ErpFinance.Iam.Authenticate
import ErpFinance.Iam.UserRepository

/-!
# Who gets a session

The rule of who may start a session stands in the domain type, whose pointers a
loaded user always has.  The three ways to log in check parts of it, each its
own, before they build a session for the user that they have loaded.
-/

namespace ErpFinance.Iam.Eligibility

open Domain Library

/-! ## The rule -/

/-- What the rule reads of the domain's user; a pointer is nil or holds an instant. -/
structure Account where
  accountStatus : String
  isActive : Bool
  deletedAt : Option Nat
  lockoutUntil : Option Nat

/-- `IsLocked`; the instant 0 is the zero time. -/
def Account.isLocked (account : Account) (now : Nat) : Bool :=
  account.lockoutUntil.any fun v => v ≠ 0 && now < v

def Account.canAuthenticate (account : Account) (now : Nat) : Bool :=
  account.isActive && account.deletedAt.isNone && account.accountStatus = "ACTIVE" &&
    !account.isLocked now

/-- The pointers that `fromSQLCUser` sets are addresses of the instants, null or not. -/
def account (user : User) : Account where
  accountStatus := user.accountStatus
  isActive := user.isActive
  deletedAt := some (user.deletedAt.getD 0)
  lockoutUntil := some (user.lockoutUntil.getD 0)

structure Eligible (row : UserRow) (now : Nat) : Prop where
  status : row.accountStatus = some "ACTIVE"
  active : row.isActive = true
  live : row.deletedAt = none
  unlocked : ∀ v, row.lockoutUntil = some v → v ≤ now

/-- No loaded user may authenticate: the pointer to its deletion is never nil. -/
theorem canAuthenticate_account (user : User) (now : Nat) :
    (account user).canAuthenticate now = false := by
  simp [Account.canAuthenticate, account]

/-! ## The ways to log in -/

/-- What the identity provider says of a user, and what its configuration allows. -/
structure SSOUserInfo where
  email : String
  name : String
  autoProvision : Bool
  defaultEntityID : Uuid

/-- The constraints on the columns of `users` that are written for a new user; NULL passes. -/
def columnChecks (_now : Nat) (row : UserRow) : Bool :=
  row.userType ∈ ["INTERNAL", "CUSTOMER", "VENDOR", "PARTNER", "SYSADMIN"] &&
    row.accountStatus.all
      (· ∈ ["ACTIVE", "INACTIVE", "LOCKED", "SUSPENDED", "PENDING_VERIFICATION"])

/-- `CreateUserRequest.Validate`; the placeholder password is long enough. -/
def validate (req : CreateUserRequest) : Bool :=
  req.entityID ≠ Uuid.Nil && req.username ≠ "" && contains req.email "@" && req.userType ≠ ""

def provisionRequest (info : SSOUserInfo) : CreateUserRequest where
  entityID := info.defaultEntityID
  username := toLower (String.ofList (info.email.toList.flatMap fun c =>
    if c = '@' then "_at_".toList else [c]))
  email := info.email
  displayName := some info.name
  userType := "CUSTOMER"

section Paths

variable (verifyPassword : String → String → Bool) (s : UserStore)

/-- `Authenticate` with what it has read, where it succeeds. -/
def authenticate (identifier password : String) (now : Nat) : Option User := do
  let user ← (s.getUser (Authenticate.identifierKey identifier)).1.toOption
  if (account user).isLocked now then none
  let hashedPassword ← (s.rows.find? (UserKey.id user.id).reads).bind UserRow.passwordHash
  if verifyPassword hashedPassword password then some user else none

/-- `ResolveUser` after the exchange with the provider. -/
def resolveUser (info : SSOUserInfo) (hashedPlaceholder : String) (id : Uuid) (now : Nat) :
    Option User :=
  match (s.getUser (.email info.email)).1 with
  | .ok user => some user
  | .error _ =>
    if !info.autoProvision || info.defaultEntityID = Uuid.Nil then none
    else if validate (provisionRequest info) then
      (s.createUser columnChecks (provisionRequest info) hashedPlaceholder id now).1.toOption
    else none

/-- A call that may create a session, with what it finds outside the table of the users. -/
inductive LoginCall where
  | login (email password : String) (checked : Nat)
  | completeMFALogin (pending : Option Uuid) (accepted : Bool)
  | loginWithSSO (info : SSOUserInfo) (hashedPlaceholder : String) (id : Uuid) (resolved : Nat)

def sessionUser : LoginCall → Option User
  | .login email password checked => do
      let user ← authenticate verifyPassword s email password checked
      if user.mfaEnabled then none else some user
  | .completeMFALogin pending accepted => do
      let userID ← pending
      if accepted then (s.getUser (.id userID)).1.toOption else none
  | .loginWithSSO info hashedPlaceholder id resolved =>
    resolveUser s info hashedPlaceholder id resolved

/-- For a stored row, a session is created only while it is eligible, and the rule says of the
loaded user whether it is. -/
structure Agrees (row : UserRow) (call : LoginCall) (now : Nat) : Prop where
  created : ∀ user, sessionUser verifyPassword s call = some user → user.id = row.id →
    Eligible row now
  rule : (account (fromSQLCUser row)).canAuthenticate now = true ↔ Eligible row now

/-- What a way to log in asks of the copy that it has loaded. -/
def Passes (u : Uuid) : LoginCall → Prop
  | .login email password checked =>
    ∃ user hashedPassword,
      (s.getUser (Authenticate.identifierKey email)).1 = .ok user ∧ user.id = u ∧
      (user.lockoutUntil.getD 0 ≤ checked) ∧
      (s.rows.find? (UserKey.id u).reads).bind UserRow.passwordHash = some hashedPassword ∧
      verifyPassword hashedPassword password = true ∧ user.mfaEnabled = false
  | .completeMFALogin pending accepted =>
    ∃ userID user, pending = some userID ∧ accepted = true ∧
      (s.getUser (.id userID)).1 = .ok user ∧ user.id = u
  | .loginWithSSO info _ _ _ =>
    ∃ user, (s.getUser (.email info.email)).1 = .ok user ∧ user.id = u

end Paths

/-! ## Who passes -/

variable {verifyPassword : String → String → Bool} {s : UserStore} {u : Uuid} {now : Nat}

variable {user : User}

theorem isLocked_eq_false_iff :
    (account user).isLocked now = false ↔ user.lockoutUntil.getD 0 ≤ now := by
  simp only [Account.isLocked, account, Option.any_some, Bool.and_eq_false_iff,
    decide_eq_false_iff_not, ne_eq, not_not, not_lt]
  constructor
  · rintro (zero | passed)
    · rw [zero]
      exact Nat.zero_le now
    · exact passed
  · exact .inr

theorem authenticate_eq_some_iff {identifier password : String} :
    authenticate verifyPassword s identifier password now = some user ↔
      (s.getUser (Authenticate.identifierKey identifier)).1 = .ok user ∧
      user.lockoutUntil.getD 0 ≤ now ∧
      ∃ hashedPassword,
        (s.rows.find? (UserKey.id user.id).reads).bind UserRow.passwordHash = some hashedPassword ∧
        verifyPassword hashedPassword password = true := by
  rw [authenticate]
  cases (s.getUser (Authenticate.identifierKey identifier)).1 with
  | error err => simp [Except.toOption]
  | ok found =>
    have same : (Except.ok found : Except Runtime.Error User) = .ok user ↔ found = user :=
      ⟨Except.ok.inj, congrArg Except.ok⟩
    rw [same]
    cases locked : (account found).isLocked now with
    | true =>
      refine iff_of_false (by simp [Except.toOption, locked]) ?_
      rintro ⟨rfl, passed, -⟩
      rw [isLocked_eq_false_iff.mpr passed] at locked
      cases locked
    | false =>
      have passed := isLocked_eq_false_iff.mp locked
      cases stored : (s.rows.find? (UserKey.id found.id).reads).bind UserRow.passwordHash with
      | none =>
        refine iff_of_false (by simp [Except.toOption, locked, stored]) ?_
        rintro ⟨rfl, -, hashedPassword, other, -⟩
        cases stored.symm.trans other
      | some hashedPassword =>
        cases right : verifyPassword hashedPassword password with
        | false =>
          refine iff_of_false (by simp [Except.toOption, locked, stored, right]) ?_
          rintro ⟨rfl, -, other, also, verified⟩
          cases stored.symm.trans also
          cases right.symm.trans verified
        | true =>
          have result : (do
              let user ← (Except.ok found : Except Runtime.Error User).toOption
              if (account user).isLocked now = true then none
              let hash ← (s.rows.find? (UserKey.id user.id).reads).bind
                UserRow.passwordHash
              if verifyPassword hash password = true then some user else none) =
              some found := by
            simp [Except.toOption, locked, stored, right]
          rw [result, Option.some.injEq]
          constructor
          · rintro rfl
            exact ⟨rfl, passed, hashedPassword, stored, right⟩
          · exact fun all => all.1

/-- No user can be provisioned: its account status is none that the table knows. -/
theorem createUser_provisionRequest (info : SSOUserInfo) (hashedPlaceholder : String) (id : Uuid) :
    (s.createUser columnChecks (provisionRequest info) hashedPlaceholder id now).1.toOption =
      none := by
  have refused : columnChecks now
      (newUserRow (provisionRequest info) hashedPlaceholder id now) = false := by
    simp [columnChecks, newUserRow, provisionRequest]
  rw [UserStore.createUser]
  simp only [refused, Bool.false_and]
  rfl

theorem resolveUser_eq_some_iff {info : SSOUserInfo} {hashedPlaceholder : String} {id : Uuid} :
    resolveUser s info hashedPlaceholder id now = some user ↔
      (s.getUser (.email info.email)).1 = .ok user := by
  rw [resolveUser]
  cases (s.getUser (.email info.email)).1 with
  | ok found => simp
  | error err => simp [createUser_provisionRequest]

theorem sessionUser_iff {call : LoginCall} :
    (∃ user, sessionUser verifyPassword s call = some user ∧ user.id = u) ↔
      Passes verifyPassword s u call := by
  cases call with
  | login email password checked =>
    have session : ∀ user, sessionUser verifyPassword s (.login email password checked) =
        some user ↔ authenticate verifyPassword s email password checked = some user ∧
          user.mfaEnabled = false := by
      intro user
      rw [sessionUser]
      cases authenticate verifyPassword s email password checked with
      | none => simp
      | some found =>
        simp only [Option.bind_eq_bind, Option.bind_some, Option.some.injEq]
        cases mfa : found.mfaEnabled with
        | true =>
          refine iff_of_false (by simp) ?_
          rintro ⟨rfl, off⟩
          cases mfa.symm.trans off
        | false =>
          simp only [Bool.false_eq_true, if_false, Option.some.injEq]
          constructor
          · rintro rfl
            exact ⟨rfl, mfa⟩
          · exact fun both => both.1
    simp only [session, authenticate_eq_some_iff, Passes]
    constructor
    · rintro ⟨user, ⟨⟨found, unlocked, hashedPassword, stored, right⟩, noMfa⟩, rfl⟩
      exact ⟨user, hashedPassword, found, rfl, unlocked, stored, right, noMfa⟩
    · rintro ⟨user, hashedPassword, found, rfl, unlocked, stored, right, noMfa⟩
      exact ⟨user, ⟨⟨found, unlocked, hashedPassword, stored, right⟩, noMfa⟩, rfl⟩
  | completeMFALogin pending accepted =>
    cases pending with
    | none => simp [sessionUser, Passes]
    | some userID =>
      cases accepted with
      | false => simp [sessionUser, Passes]
      | true =>
        have loaded : ∀ user, (s.getUser (.id userID)).1.toOption = some user ↔
            (s.getUser (.id userID)).1 = .ok user := by
          intro user
          cases (s.getUser (.id userID)).1 <;> simp [Except.toOption]
        simp [sessionUser, Passes, loaded]
  | loginWithSSO info hashedPlaceholder id resolved =>
    simp only [sessionUser, Passes, resolveUser_eq_some_iff]

/-- For a stored row the rule is kept exactly when the row is not eligible and no copy that is
loaded of it passes. -/
theorem sessions_agree_iff {row : UserRow} {call : LoginCall} :
    Agrees verifyPassword s row call now ↔
      ¬ Eligible row now ∧ ¬ Passes verifyPassword s row.id call := by
  constructor
  · rintro ⟨created, rule⟩
    rw [canAuthenticate_account] at rule
    have ineligible : ¬ Eligible row now := fun eligible => by cases rule.mpr eligible
    refine ⟨ineligible, fun passes => ?_⟩
    obtain ⟨user, session, same⟩ := sessionUser_iff.mpr passes
    exact ineligible (created user session same)
  · rintro ⟨ineligible, refused⟩
    refine ⟨fun user session same => ?_, ?_⟩
    · exact absurd (sessionUser_iff.mp ⟨user, session, same⟩) refused
    · rw [canAuthenticate_account]
      exact iff_of_false Bool.false_ne_true ineligible

/-! ## A suspended user -/

def suspended : UserRow where
  id := 7
  entityID := 1
  username := "ada"
  email := "ada@example.com"
  passwordHash := some "secret"
  userType := "INTERNAL"
  accountStatus := some "SUSPENDED"
  sessionTimeoutMinutes := none
  mfaEnabled := some false
  createdAt := 1
  updatedAt := 1

/-- A suspended user logs in with the password, and an active one may not by the rule. -/
theorem suspended_gets_session :
    ¬ Agrees (fun hash password => hash = password) { rows := [suspended] } suspended
        (.login "ada@example.com" "secret" 5) 5 ∧
      ¬ Agrees (fun hash password => hash = password)
        { rows := [{ suspended with accountStatus := some "ACTIVE" }] }
        { suspended with accountStatus := some "ACTIVE" }
        (.login "ada@example.com" "wrong" 5) 5 := by
  constructor
  · intro agrees
    have session : sessionUser (fun hash password => hash = password) { rows := [suspended] }
        (.login "ada@example.com" "secret" 5) = some (fromSQLCUser suspended) := by decide +kernel
    have status := (agrees.created _ session rfl).status
    revert status
    decide
  · intro agrees
    have eligible : Eligible { suspended with accountStatus := some "ACTIVE" } 5 :=
      ⟨rfl, rfl, rfl, fun v locked => by cases locked⟩
    have allowed := agrees.rule.mpr eligible
    revert allowed
    decide

end ErpFinance.Iam.Eligibility
