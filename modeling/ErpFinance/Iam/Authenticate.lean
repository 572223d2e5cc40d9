import ErpFinance.Iam.Users
import ErpFinance.Library.Interleaving
import ErpFinance.Library.Text

/-!
# Logins with a lockout

`Authenticate` as the steps that it takes on the table of the users, with any number of calls
taking them in turn, and the record of what they tried.  Reads are current and writes succeed.
-/

namespace ErpFinance.Iam.Authenticate

open Domain Library

/-- The thresholds of `UserConfig`; the duration is in nanoseconds. -/
structure UserConfig where
  maxFailedAttempts : Int := 5
  lockoutDuration : Int := 15 * 60 * 10 ^ 9

inductive AuthError where
  | authenticationFailed
  | accountLocked

/-- `IsLocked`; the instant 0 is the zero time. -/
def isLocked (now : Nat) (user : User) : Bool :=
  user.lockoutUntil.any fun v => v ≠ 0 && now < v

/-- Where a call stands: what it does next, with what it has read. -/
inductive Call where
  | started (identifier password : String)
  | found (user : User) (password : String)
  | unlocked (user : User) (password : String)
  | mistaken (user : User)
  | counted (user : User)
  | locking (user : User) (until_ : Nat)
  | accepted (user : User)
  | reset (user : User)
  | returned (result : Except AuthError User)

inductive Kind where
  | wrong
  | right
  | success
  | lockout (until_ : Nat)
deriving DecidableEq

/-- What a call did about a user, and when. -/
structure Event where
  user : Uuid
  time : Nat
  kind : Kind
deriving DecidableEq

/-- The users, the clock, and the record of what was done, newest first. -/
structure Site where
  rows : List UserRow
  clock : Nat := 0
  log : List Event := []

namespace Site

variable (site : Site)

def passes (elapsed : Nat) : Site := { site with clock := site.clock + elapsed }

def change (id : Uuid) (change : UserRow → UserRow) : Site :=
  { site with rows := site.rows.map fun row => if row.id = id then change row else row }

def note (user : Uuid) (kind : Kind) : Site :=
  { site with log := { user := user, time := site.clock, kind := kind } :: site.log }

def getUserPassword (id : Uuid) : Option String :=
  (site.rows.find? (UserKey.id id).reads).bind UserRow.passwordHash

end Site

/-- What a user is looked up by. -/
def identifierKey (identifier : String) : UserKey :=
  if contains identifier "@" then .email identifier else .username identifier

/-- The next step of a call, some time after the last step of any. -/
def next (cfg : UserConfig) (verifyPassword : String → String → Bool) (before : Site) (call : Call)
    (elapsed : Nat) : Site × Call :=
  let site := before.passes elapsed
  match call with
  | .started identifier password =>
    match selectUser site.rows (identifierKey identifier) with
    | none => (site, .returned (.error .authenticationFailed))
    | some user => (site, .found user password)
  | .found user password =>
    if isLocked site.clock user then (site, .returned (.error .accountLocked))
    else (site, .unlocked user password)
  | .unlocked user password =>
    match site.getUserPassword user.id with
    | none => (site, .returned (.error .authenticationFailed))
    | some hashedPassword =>
      if verifyPassword hashedPassword password then
        (site.note user.id .right, .accepted user)
      else (site.note user.id .wrong, .mistaken user)
  | .mistaken user => (site.change user.id (incrementedFailedLogins site.clock), .counted user)
  | .counted user =>
    if cfg.maxFailedAttempts ≤ user.failedLoginAttempts + 1 then
      (site, .locking user (site.clock + cfg.lockoutDuration).toNat)
    else (site, .returned (.error .authenticationFailed))
  | .locking user v =>
    ((site.change user.id fun row => lockedUntil site.clock row v).note user.id (.lockout v),
      .returned (.error .authenticationFailed))
  | .accepted user => (site.change user.id (unlocked site.clock), .reset user)
  | .reset user =>
    ((site.change user.id (loggedIn site.clock)).note user.id .success, .returned (.ok user))
  | .returned result => (site, .returned result)

/-- The site and the calls, in order of arrival. -/
abbrev Calls := System Site Call

/-- Calls arrive before their first step. -/
def Proper : Turn Call Nat → Prop
  | .arrive call => ∃ identifier password, call = .started identifier password
  | .act _ _ => True

/-! ## What is asked of the record -/

/-- The record of a user. -/
def history (u : Uuid) (log : List Event) : List Event := log.filter (·.user = u)

/-- An event that is no lockout, or a lockout that has ended by an instant or lasts beyond the
present. -/
def Event.clears (now time : Nat) (event : Event) : Bool :=
  match event.kind with
  | .lockout v => now < v || v ≤ time
  | _ => true

/-- The wrong passwords tried since the last success and the end of the last lockout. -/
def tries (now : Nat) (events : List Event) : Nat :=
  (events.takeWhile (·.kind ≠ .success)).countP fun event =>
    event.kind = .wrong && events.all (Event.clears now event.time)

/-- A password was evaluated or a call succeeded. -/
def Event.admits (event : Event) : Prop :=
  event.kind = .wrong ∨ event.kind = .right ∨ event.kind = .success

/-- A wrong password that used up the attempts, after what came before it. -/
def Exhausting (cfg : UserConfig) (event : Event) (earlier : List Event) : Prop :=
  event.kind = .wrong ∧ cfg.maxFailedAttempts ≤ tries event.time (event :: earlier)

/-- For the duration of a lockout after the attempts were used up, no password is evaluated and no
call succeeds. -/
def Guarded (cfg : UserConfig) (events : List Event) : Prop :=
  ∀ later event earlier, events = later ++ event :: earlier → Exhausting cfg event earlier →
    ∀ after ∈ later, after.admits → event.time + cfg.lockoutDuration ≤ after.time

/-- A user who is locked, now or before anything else happens, has used up the attempts. -/
def LockedOnlyAfter (cfg : UserConfig) (u : Uuid) (site : Site) : Prop :=
  ∀ row ∈ site.rows, row.id = u → ∀ now, site.clock ≤ now →
    isLocked now (fromSQLCUser row) = true →
      cfg.maxFailedAttempts ≤ tries now (history u site.log)

/-! ## The condition -/

namespace Call

/-- The call has found a password of the user wrong and has not acted on it in full. -/
def Undecided (u : Uuid) : Call → Prop
  | .mistaken user | .counted user | .locking user _ => user.id = u
  | _ => False

/-- The call has found a password of the user right and has not returned. -/
def Admitted (u : Uuid) : Call → Prop
  | .accepted user | .reset user => user.id = u
  | _ => False

end Call

/-- What the call has read decides as the row does, and no call that has evaluated a password
interferes. -/
structure Timely (cfg : UserConfig) (verifyPassword : String → String → Bool) (s : Calls)
    (index : Nat) (user : User) (password hashedPassword : String) : Prop where
  lockout : ∀ row ∈ s.shared.rows, row.id = user.id → row.lockoutUntil = user.lockoutUntil
  alone : ∀ other call, other ≠ index → s.clients[other]? = some call → ¬ call.Undecided user.id
  wrong : verifyPassword hashedPassword password = false →
    (∀ other call, other ≠ index → s.clients[other]? = some call → ¬ call.Admitted user.id) ∧
      (cfg.maxFailedAttempts ≤ 1 ∨ user.lockoutUntil = none ∧
        ∀ row ∈ s.shared.rows, row.id = user.id →
          (cfg.maxFailedAttempts ≤ user.failedLoginAttempts + 1 ↔
            cfg.maxFailedAttempts ≤ row.failedLoginAttempts.getD 0 + 1))

def Careful (cfg : UserConfig) (verifyPassword : String → String → Bool) (u : Uuid) (s : Calls) :
    Turn Call Nat → Prop
  | .arrive _ => True
  | .act index _ => ∀ user password hashedPassword,
      s.clients[index]? = some (.unlocked user password) → user.id = u →
        s.shared.getUserPassword u = some hashedPassword →
          Timely cfg verifyPassword s index user password hashedPassword

/-- A user as created, of whom nothing is recorded. -/
structure Fresh (u : Uuid) (site : Site) : Prop where
  rows : ∀ row ∈ site.rows, row.id = u →
    row.failedLoginAttempts = some 0 ∧ row.lockoutUntil = none
  log : site.log = []

end ErpFinance.Iam.Authenticate
