import ErpFinance.Iam.Authenticate
import ErpFinance.Iam.Totp
import ErpFinance.Library.Lapse
import ErpFinance.Library.Table

/-!
# The second factor

A login with a password ends in a session, or in a pending token where the user
has a second factor.  A code makes a session of a pending token, and a code
turns the second factor on.  A code that a validation accepts is marked, and one
that a confirmation accepts is not.  Logins read the user from the cache, where
there may be an old copy.
-/

namespace ErpFinance.Iam.SecondFactor

open Domain Library
open Iam.Authenticate (UserConfig identifierKey isLocked)

instance : Keyed UserRow Uuid := ⟨UserRow.id⟩

/-- The service's configuration, and what it takes from the standard library. -/
structure Service where
  crypto : Totp.Crypto
  /-- AES-256-GCM with a key. -/
  decryptSecret : Bytes → String → Option String
  verifyPassword : String → String → Bool
  cfg : UserConfig := {}
  mfaEncryptionKey : Bytes

def Service.mfaKey (service : Service) : Option Bytes :=
  if service.mfaEncryptionKey.length = 32 then some service.mfaEncryptionKey else none

/-- The step of which a code is, by an encrypted secret, at an instant in nanoseconds. -/
def Service.verify (service : Service) (encrypted code : String) (clock : Nat) : Option Int :=
  (service.mfaKey.bind fun key => service.decryptSecret key encrypted).bind fun secret =>
    Totp.verifyTOTP service.crypto secret code 1 (clock / 10 ^ 9)

/-! ## The record -/

/-- Who accepts a code: a confirmation, or a validation for a pending token or for none. -/
inductive Acceptor
  | confirm
  | validate (token : Option Nat)
deriving DecidableEq

/-- What a session is made of: a login, by the number of its password, or a pending token. -/
inductive Source
  | login (number : Nat)
  | pending (token : Nat)
deriving DecidableEq

inductive Event
  /-- A login has found the password right. -/
  | password (user : Uuid) (number : Nat)
  /-- A login has stored a pending token. -/
  | issued (user : Uuid) (token number : Nat)
  | accepted (user : Uuid) (step : Int) (acceptor : Acceptor)
  /-- A session, and whether the user's row had the second factor turned on. -/
  | session (user : Uuid) (source : Source) (enabled : Bool)
deriving DecidableEq

def accepted (log : List Event) : List (Uuid × Int) :=
  log.filterMap fun
    | .accepted user step _ => some (user, step)
    | _ => none

def spent (log : List Event) : List Nat :=
  log.filterMap fun
    | .session _ (.pending token) _ => some token
    | _ => none

/-! ## Calls -/

/-- The table, the entries of the cache, and the record, newest first. -/
structure Shared where
  clock : Nat
  users : Table UserRow
  /-- `user:id:{id}`, `user:email:{email}` and `user:username:{username}`. -/
  cached : Lapsing UserKey User
  /-- `mfa:setup:{id}`. -/
  setups : Lapsing Uuid String
  /-- `mfa:replay:{id}:{step}`. -/
  replays : Lapsing (Uuid × Int) Unit
  /-- `mfa:login:pending:{token}`. -/
  pending : Lapsing Nat Uuid
  /-- The number of pending tokens that were generated. -/
  tokens : Nat
  log : List Event

/-- What a user is read for. -/
inductive Purpose
  | initiate (user : Uuid)
  | login (identifier password : String)
  | complete (user : Uuid) (token : Nat)

def Purpose.key : Purpose → UserKey
  | .initiate user => .id user
  | .login identifier _ => identifierKey identifier
  | .complete user _ => .id user

/-- Where a call stands. -/
inductive Call
  -- `GetUserByID`, `GetUserByEmail` and `GetUserByUsername`
  | getCached (purpose : Purpose)
  | getRow (purpose : Purpose)
  | setCached (user : User) (keys : List UserKey) (rest : Call)
  -- `invalidateUserByID`
  | dropCached (id : Uuid) (rest : Call)
  -- `InitiateMFA`
  | initiate (user : Uuid)
  | storeSetup (user : Uuid)
  -- `ConfirmMFA`
  | confirm (user : Uuid) (code : String)
  | verifySetup (user : Uuid) (encrypted code : String)
  | setMFASecret (user : Uuid) (encrypted : String) (step : Int)
  | clearSetup (user : Uuid)
  -- `Login`
  | found (user : User) (password : String)
  | unlocked (user : User) (password : String)
  | mistaken (user : User)
  | counted (user : User)
  | locking (user : User) (until_ : Nat)
  | accepted (user : User) (number : Nat)
  | reset (user : User) (number : Nat)
  | storePending (user : Uuid) (number : Nat)
  | createSession (user : User) (source : Source)
  -- `CompleteMFALogin`
  | complete (token : Nat) (code : String)
  -- `ValidateMFACode`, for a pending token or for none
  | validate (user : Uuid) (token : Option Nat) (code : String)
  | verifyCode (user : Uuid) (token : Option Nat) (encrypted code : String)
  | checkReplay (user : Uuid) (token : Option Nat) (step : Int)
  | mark (user : Uuid) (token : Option Nat) (step : Int)
  | finished

/-- The time that passes before a step, whether its statement fails, and the secret that is
generated and encrypted in it. -/
structure Input where
  elapsed : Nat := 0
  fails : Bool := false
  encrypted : String := ""

def second : Nat := 10 ^ 9

def mfaSetupCacheTTL : Nat := 10 * 60 * second

def mfaReplayCacheTTL : Nat := 90 * second

def mfaLoginPendingTTL : Nat := 5 * 60 * second

def userCacheTTL : Nat := 30 * 60 * second

/-- The keys under which `cacheUser` stores a user. -/
def userKeys (user : User) : List UserKey :=
  .id user.id :: .email user.email ::
    if user.username ≠ "" then [.username user.username] else []

/-- What is done with the user that was read. -/
def Purpose.resume (user : User) : Purpose → Call
  | .initiate _ => .storeSetup user.id
  | .login _ password => .found user password
  | .complete _ token => .createSession user (.pending token)

/-- What follows an authentication. -/
def authenticated (user : User) (number : Nat) : Call :=
  if user.mfaEnabled then .storePending user.id number
  else .createSession user (.login number)

namespace Shared

variable (sh : Shared)

def tick (elapsed : Nat) : Shared := { sh with clock := sh.clock + elapsed }

def change (id : Uuid) (change : UserRow → UserRow) : Shared :=
  { sh with users := (sh.users.get? id).elim sh.users fun row => sh.users.put (change row) }

def note (event : Event) : Shared := { sh with log := event :: sh.log }

/-- Whether the user's row has the second factor turned on. -/
def enabled (id : Uuid) : Bool := (sh.users.get? id).any fun row => row.mfaEnabled.getD false

def row (id : Uuid) : Option UserRow := (sh.users.get? id).filter fun row => row.deletedAt.isNone

end Shared

/-- One step of a call, at the present time. -/
def act (service : Service) (sh : Shared) (call : Call) (i : Input) : Shared × Call :=
  match call with
  | .getCached purpose =>
    match sh.cached.live sh.clock purpose.key with
    | some user => (sh, purpose.resume user)
    | none => (sh, .getRow purpose)
  | .getRow purpose =>
    if i.fails then (sh, .finished)
    else match selectUser sh.users.rows purpose.key with
      | none => (sh, .finished)
      | some user => (sh, .setCached user (userKeys user) (purpose.resume user))
  | .setCached _ [] rest => (sh, rest)
  | .setCached user (key :: keys) rest =>
    ({ sh with cached := sh.cached.put key user (sh.clock + userCacheTTL) },
      .setCached user keys rest)
  | .dropCached id rest => ({ sh with cached := sh.cached.drop (.id id) }, rest)
  | .initiate user =>
    match service.mfaKey with
    | none => (sh, .finished)
    | some _ => (sh, .getCached (.initiate user))
  | .storeSetup user =>
    ({ sh with setups := sh.setups.put user i.encrypted (sh.clock + mfaSetupCacheTTL) },
      .finished)
  | .confirm user code =>
    match service.mfaKey, sh.setups.live sh.clock user with
    | some _, some encrypted => (sh, .verifySetup user encrypted code)
    | _, _ => (sh, .finished)
  | .verifySetup user encrypted code =>
    match service.verify encrypted code sh.clock with
    | none => (sh, .finished)
    | some step => (sh, .setMFASecret user encrypted step)
  | .setMFASecret user encrypted step =>
    if i.fails then (sh, .finished)
    else
      ((sh.change user fun row => mfaEnabledWith sh.clock row encrypted).note
        (.accepted user step .confirm), .dropCached user (.clearSetup user))
  | .clearSetup user => ({ sh with setups := sh.setups.drop user }, .finished)
  | .found user password =>
    if isLocked sh.clock user then (sh, .finished) else (sh, .unlocked user password)
  | .unlocked user password =>
    match (if i.fails then none else (sh.row user.id).bind UserRow.passwordHash) with
    | none => (sh, .finished)
    | some hashedPassword =>
      if service.verifyPassword hashedPassword password then
        (sh.note (.password user.id sh.log.length), .accepted user sh.log.length)
      else (sh, .mistaken user)
  | .mistaken user =>
    if i.fails then (sh, .counted user)
    else (sh.change user.id (incrementedFailedLogins sh.clock),
      .dropCached user.id (.counted user))
  | .counted user =>
    if service.cfg.maxFailedAttempts ≤ user.failedLoginAttempts + 1 then
      (sh, .locking user (sh.clock + service.cfg.lockoutDuration).toNat)
    else (sh, .finished)
  | .locking user v =>
    if i.fails then (sh, .finished)
    else (sh.change user.id fun row => lockedUntil sh.clock row v,
      .dropCached user.id .finished)
  | .accepted user number =>
    if i.fails then (sh, .reset user number)
    else (sh.change user.id (Iam.unlocked sh.clock),
      .dropCached user.id (.reset user number))
  | .reset user number =>
    if i.fails then (sh, authenticated user number)
    else (sh.change user.id (loggedIn sh.clock),
      .dropCached user.id (authenticated user number))
  | .storePending user number =>
    ({ sh with
        pending := sh.pending.put sh.tokens user (sh.clock + mfaLoginPendingTTL)
        tokens := sh.tokens + 1 }.note (.issued user sh.tokens number), .finished)
  | .createSession user source =>
    if i.fails then (sh, .finished)
    else (sh.note (.session user.id source (sh.enabled user.id)), .finished)
  | .complete token code =>
    match sh.pending.live sh.clock token with
    | none => (sh, .finished)
    | some user =>
      ({ sh with pending := sh.pending.drop token }, .validate user (some token) code)
  | .validate user token code =>
    match service.mfaKey, (if i.fails then none else sh.row user) with
    | some _, some row =>
      if row.mfaEnabled.getD false ∧ row.mfaSecret.getD "" ≠ "" then
        (sh, .verifyCode user token (row.mfaSecret.getD "") code)
      else (sh, .finished)
    | _, _ => (sh, .finished)
  | .verifyCode user token encrypted code =>
    match service.verify encrypted code sh.clock with
    | none => (sh, .finished)
    | some step => (sh, .checkReplay user token step)
  | .checkReplay user token step =>
    match sh.replays.live sh.clock (user, step) with
    | some _ => (sh, .finished)
    | none => (sh, .mark user token step)
  | .mark user token step =>
    ({ sh with replays := sh.replays.put (user, step) () (sh.clock + mfaReplayCacheTTL) }.note
        (.accepted user step (.validate token)),
      token.elim .finished fun t => .getCached (.complete user t))
  | .finished => (sh, .finished)

@[simp] theorem act_finished (service : Service) (sh : Shared) (i : Input) :
    act service sh .finished i = (sh, .finished) := by
  rw [act]

/-- One step of a call, after some time. -/
def next (service : Service) (sh : Shared) (call : Call) (i : Input) : Shared × Call :=
  act service (sh.tick i.elapsed) call i

/-! ## The rule and the condition -/

abbrev Sys := System Shared Call

/-- One event is in the record before another. -/
def Before (first last : Event) (log : List Event) : Prop :=
  ∃ earlier, last :: earlier <:+ log ∧ first ∈ earlier

/-- The password of the login was right, and a code of the user was accepted later: for a pending
token, one for this token, after the login had stored it. -/
def Proven (user : Uuid) (log : List Event) : Source → Prop
  | .login number =>
    ∃ step acceptor, Before (.password user number) (.accepted user step acceptor) log
  | .pending token => ∃ step number earlier,
      .accepted user step (.validate (some token)) :: earlier <:+ log ∧
        Before (.password user number) (.issued user token number) earlier

/-- A step is accepted once, a pending token makes one session, and a user with a second factor
gets one after a right password and an accepted code. -/
structure Respects (s : Sys) : Prop where
  steps : (accepted s.shared.log).Nodup
  tokens : (spent s.shared.log).Nodup
  sessions : ∀ user source earlier,
    .session user source true :: earlier <:+ s.shared.log → Proven user earlier source

def Call.marking : Call → Option (Uuid × Int)
  | .setCached _ _ rest | .dropCached _ rest => rest.marking
  | .mark user _ step => some (user, step)
  | _ => none

/-- What a step has to meet.  A code that is not marked is checked in time, or its step was not
accepted by a validation; it was not accepted by a confirmation, and no other call is about to
accept it.  A confirmation accepts no step that was accepted or is about to be.  Where a password
is found right by a copy of the user without the second factor, the user has none. -/
def Careful (service : Service) (s : Sys) (sh : Shared) (i : Input) : Call → Prop
  | .checkReplay user _ step =>
    sh.replays.live sh.clock (user, step) = none →
      ((sh.clock : Int) < Totp.closes step ∨
          ∀ token, .accepted user step (.validate token) ∉ sh.log) ∧
        .accepted user step .confirm ∉ sh.log ∧
        ∀ other ∈ s.clients, other.marking ≠ some (user, step)
  | .setMFASecret user _ step =>
    i.fails = false →
      (user, step) ∉ accepted sh.log ∧ ∀ other ∈ s.clients, other.marking ≠ some (user, step)
  | .unlocked user password =>
    ∀ row hashedPassword, i.fails = false → sh.row user.id = some row →
      row.passwordHash = some hashedPassword →
        service.verifyPassword hashedPassword password = true → user.mfaEnabled = false →
          row.mfaEnabled.getD false = false
  | _ => True

def Legal : Turn Call Input → Prop
  | .arrive call =>
    (∃ user, call = .initiate user) ∨ (∃ user code, call = .confirm user code) ∨
      (∃ identifier password, call = .getCached (.login identifier password)) ∨
        (∃ token code, call = .complete token code) ∨ ∃ user code, call = .validate user none code
  | .act _ _ => True

/-- A turn whose step meets the condition. -/
def Guard (service : Service) (s : Sys) (turn : Turn Call Input) : Prop :=
  Legal turn ∧ ∀ index input call, turn = .act index input → s.clients[index]? = some call →
    Careful service s (s.shared.tick input.elapsed) input call

/-- Some users, and nothing else. -/
def initial (users : Table UserRow) (clock : Nat) : Sys where
  shared :=
    { clock := clock, users := users, cached := Lapsing.empty, setups := Lapsing.empty
      replays := Lapsing.empty, pending := Lapsing.empty, tokens := 0, log := [] }
  clients := []

/-! ## What survives every step -/

/-- The pending token that a call has taken. -/
def Purpose.token : Purpose → Option Nat
  | .complete _ token => some token
  | _ => none

def Source.token : Source → Option Nat
  | .pending token => some token
  | .login _ => none

def Call.token : Call → Option Nat
  | .getCached purpose | .getRow purpose => purpose.token
  | .setCached _ _ rest | .dropCached _ rest => rest.token
  | .createSession _ source => source.token
  | .validate _ token _ | .verifyCode _ token _ _ | .checkReplay _ token _
  | .mark _ token _ => token
  | _ => none

structure Carried (sh : Shared) (token : Nat) : Prop where
  known : token < sh.tokens
  fresh : token ∉ spent sh.log
  taken : sh.pending token = none

/-- The pending token was stored by a login of the user. -/
def Issued (log : List Event) (user : Uuid) (token : Nat) : Prop :=
  ∃ number, Before (.password user number) (.issued user token number) log

def Purpose.Holds (sh : Shared) : Purpose → Prop
  | .complete user token => Carried sh token ∧ Proven user sh.log (.pending token)
  | _ => True

/-- A validation for a pending token has taken it. -/
def Validates (sh : Shared) (user : Uuid) (token : Option Nat) : Prop :=
  ∀ t ∈ token, Carried sh t ∧ Issued sh.log user t

/-- What a call knows between two of its steps. -/
def Holds (sh : Shared) : Call → Prop
  | .getCached purpose | .getRow purpose => purpose.Holds sh
  | .setCached user keys rest => (∀ key ∈ keys, key ∈ userKeys user) ∧ Holds sh rest
  | .dropCached _ rest => Holds sh rest
  | .accepted user number | .reset user number =>
    .password user.id number ∈ sh.log ∧
      (user.mfaEnabled = false → sh.enabled user.id = true →
        Proven user.id sh.log (.login number))
  | .storePending user number => .password user number ∈ sh.log
  | .createSession user (.login number) =>
    .password user.id number ∈ sh.log ∧
      (sh.enabled user.id = true → Proven user.id sh.log (.login number))
  | .createSession user (.pending token) =>
    Carried sh token ∧ Proven user.id sh.log (.pending token)
  | .validate user token _ | .verifyCode user token _ _ => Validates sh user token
  | .checkReplay user token step => Validates sh user token ∧ Totp.opens step ≤ sh.clock
  | .mark user token step =>
    Validates sh user token ∧ Totp.opens step ≤ sh.clock ∧ (user, step) ∉ accepted sh.log
  | _ => True

/-- Two calls have not taken the same pending token, and are not about to accept the same step. -/
structure Apart (first second : Call) : Prop where
  token : ∀ t, first.token = some t → second.token ≠ some t
  marking : ∀ key, first.marking = some key → second.marking ≠ some key

/-- What the entries of the cache have to do with the record. -/
structure Kept (sh : Shared) : Prop where
  steps : (accepted sh.log).Nodup
  tokens : (spent sh.log).Nodup
  sessions : ∀ user source earlier,
    .session user source true :: earlier <:+ sh.log → Proven user earlier source
  marks : ∀ user step token, .accepted user step (.validate token) ∈ sh.log →
    ∃ lapse : Nat, sh.replays (user, step) = some ((), lapse) ∧ Totp.closes step ≤ lapse
  pending : ∀ token entry, sh.pending token = some entry →
    token < sh.tokens ∧ token ∉ spent sh.log ∧ Issued sh.log entry.1 token
  known : ∀ token ∈ spent sh.log, token < sh.tokens
  copies : ∀ user entry, sh.cached (.id user) = some entry → entry.1.id = user

structure Inv (s : Sys) : Prop where
  calls : System.Coherent Holds Apart s
  kept : Kept s.shared

section Record

variable {log after : List Event} {event first last : Event} {user : Uuid} {source : Source}
  {token : Nat}

theorem Before.mono (extends_ : log <:+ after) (before : Before first last log) :
    Before first last after := by
  obtain ⟨earlier, suffix, member⟩ := before
  exact ⟨earlier, suffix.trans extends_, member⟩

/-- What is in the record is before what comes next. -/
theorem before_cons (member : first ∈ log) : Before first last (last :: log) :=
  ⟨log, List.suffix_rfl, member⟩

theorem Issued.mono (extends_ : log <:+ after) (issued : Issued log user token) :
    Issued after user token :=
  issued.imp fun _ before => before.mono extends_

theorem Proven.mono (extends_ : log <:+ after) (proven : Proven user log source) :
    Proven user after source := by
  cases source with
  | login number =>
    obtain ⟨step, acceptor, before⟩ := proven
    exact ⟨step, acceptor, before.mono extends_⟩
  | pending token =>
    obtain ⟨step, number, earlier, suffix, before⟩ := proven
    exact ⟨step, number, earlier, suffix.trans extends_, before⟩

/-- A code that is accepted proves the logins that came before it. -/
theorem proven_login {number : Nat} {step : Int} {acceptor : Acceptor}
    (member : .password user number ∈ log) :
    Proven user (.accepted user step acceptor :: log) (.login number) :=
  ⟨step, acceptor, before_cons member⟩

theorem proven_pending {step : Int} (issued : Issued log user token) :
    Proven user (.accepted user step (.validate (some token)) :: log) (.pending token) := by
  obtain ⟨number, before⟩ := issued
  exact ⟨step, number, log, List.suffix_rfl, before⟩

end Record

section Invariant

variable {sh after : Shared} {call : Call} {user : Uuid} {token : Nat}

theorem Apart.symm {first second : Call} (apart : Apart first second) : Apart second first where
  token t own others := apart.token t others own
  marking key own others := apart.marking key others own

/-! ### Later states -/

/-- Time passes, the record grows, and no pending token comes back. -/
structure Later (sh after : Shared) : Prop where
  clock : sh.clock ≤ after.clock
  log : sh.log <:+ after.log
  tokens : sh.tokens ≤ after.tokens
  taken : ∀ t < sh.tokens, sh.pending t = none → after.pending t = none

/-- Who has the second factor now and had not has it by a code that was accepted in between. -/
def Enables (sh after : Shared) : Prop :=
  ∀ user, after.enabled user = true → sh.enabled user = true ∨
    ∀ number, .password user number ∈ sh.log → Proven user after.log (.login number)

theorem Carried.later (later : Later sh after) (carried : Carried sh token)
    (unspent : token ∉ spent after.log) : Carried after token where
  known := Nat.lt_of_lt_of_le carried.known later.tokens
  fresh := unspent
  taken := later.taken token carried.known carried.taken

theorem Validates.later {token : Option Nat} (later : Later sh after)
    (unspent : ∀ t, token = some t → t ∉ spent sh.log → t ∉ spent after.log)
    (validates : Validates sh user token) : Validates after user token := by
  intro t own
  obtain ⟨carried, issued⟩ := validates t own
  exact ⟨carried.later later (unspent t own carried.fresh), issued.mono later.log⟩

/-- What a call knows stays true where the others leave its token and its step alone. -/
theorem Holds.later (later : Later sh after) (enables : Enables sh after)
    (unspent : ∀ t, call.token = some t → t ∉ spent sh.log → t ∉ spent after.log)
    (unmarked : ∀ key, call.marking = some key → key ∉ accepted sh.log → key ∉ accepted after.log)
    (holds : Holds sh call) : Holds after call := by
  have clock : (sh.clock : Int) ≤ after.clock := Int.ofNat_le.mpr later.clock
  induction call with
  | getCached purpose | getRow purpose =>
    cases purpose with
    | complete user token =>
      exact ⟨holds.1.later later (unspent token rfl holds.1.fresh), holds.2.mono later.log⟩
    | initiate | login => trivial
  | setCached user keys rest ih => exact ⟨holds.1, ih unspent unmarked holds.2⟩
  | dropCached id rest ih => exact ih unspent unmarked holds
  | accepted user number | reset user number =>
    refine ⟨later.log.subset holds.1, fun off on => ?_⟩
    rcases enables user.id on with before | proven
    · exact (holds.2 off before).mono later.log
    · exact proven number holds.1
  | storePending user number => exact later.log.subset holds
  | createSession user source =>
    cases source with
    | login number =>
      refine ⟨later.log.subset holds.1, fun on => ?_⟩
      rcases enables user.id on with before | proven
      · exact (holds.2 before).mono later.log
      · exact proven number holds.1
    | pending token =>
      exact ⟨holds.1.later later (unspent token rfl holds.1.fresh), holds.2.mono later.log⟩
  | validate user token code | verifyCode user token encrypted code =>
    exact Validates.later later unspent holds
  | checkReplay user token step => exact ⟨holds.1.later later unspent, holds.2.trans clock⟩
  | mark user token step =>
    exact ⟨holds.1.later later unspent, holds.2.1.trans clock, unmarked _ rfl holds.2.2⟩
  | initiate | storeSetup | confirm | verifySetup | setMFASecret | clearSetup | found | unlocked
  | mistaken | counted | locking | complete | finished => trivial

/-! ### What each change keeps -/

theorem Enables.of_eq (same : ∀ user, after.enabled user = sh.enabled user) : Enables sh after :=
  fun user on => .inl ((same user).symm.trans on)

variable {id : Uuid}

theorem get?_change {change : UserRow → UserRow} (same : ∀ row, (change row).id = row.id) :
    (sh.change id change).users.get? user =
      if user = id then (sh.users.get? user).map change else sh.users.get? user := by
  rw [Shared.change]
  cases found : sh.users.get? id with
  | none =>
    split
    · rename_i mine
      rw [mine, Option.elim_none, found, Option.map_none]
    · rfl
  | some row =>
    have key : Keyed.key (change row) = id := (same row).trans (Table.key_of_get? found)
    rw [Option.elim_some, Table.get?_put, key]
    split
    · rename_i mine
      rw [mine, found, Option.map_some, Option.map_some]
    · rfl

theorem enabled_change {change : UserRow → UserRow} (same : ∀ row, (change row).id = row.id)
    (keeps : ∀ row, (change row).mfaEnabled = row.mfaEnabled) :
    (sh.change id change).enabled user = sh.enabled user := by
  rw [Shared.enabled, get?_change same, Shared.enabled]
  split
  · rw [Option.any_map]
    congr 1
    funext row
    rw [keeps]
  · rfl

variable {step : Int}

/-- A confirmation turns the second factor on by a code that it accepts. -/
theorem enables_confirm {encrypted : String} :
    Enables sh ((sh.change user fun row => mfaEnabledWith sh.clock row encrypted).note
      (.accepted user step .confirm)) := by
  intro other on
  by_cases mine : other = user
  · subst mine
    exact .inr fun number member => proven_login member
  · refine .inl ?_
    have changed : (sh.change user fun row =>
        mfaEnabledWith sh.clock row encrypted).enabled other = true := on
    have same : ∀ row, (mfaEnabledWith sh.clock row encrypted).id = row.id := fun _ => rfl
    rw [Shared.enabled, get?_change same, if_neg mine] at changed
    exact changed

theorem Kept.tick (kept : Kept sh) (elapsed : Nat) : Kept (sh.tick elapsed) := { kept with }

theorem Kept.change {change : UserRow → UserRow} (kept : Kept sh) :
    Kept (sh.change id change) :=
  { kept with }

theorem Kept.putCached {key : UserKey} {copy : User} {lapse : Nat} (kept : Kept sh)
    (own : key ∈ userKeys copy) : Kept { sh with cached := sh.cached.put key copy lapse } where
  __ := kept
  copies user entry stored := by
    rcases Lapsing.put_eq_some_cases sh.cached stored with ⟨rfl, rfl⟩ | ⟨-, old⟩
    · rcases List.mem_cons.mp own with same | others
      · exact (UserKey.id.inj same).symm
      · rcases List.mem_cons.mp others with same | last
        · cases same
        · split at last
          · cases List.mem_singleton.mp last
          · cases last
    · exact kept.copies user entry old

theorem Kept.dropCached (kept : Kept sh) :
    Kept { sh with cached := sh.cached.drop (.id id) } where
  __ := kept
  copies user entry stored := kept.copies user entry (Lapsing.eq_some_of_drop sh.cached stored)

theorem Kept.take (kept : Kept sh) : Kept { sh with pending := sh.pending.drop token } where
  __ := kept
  pending t entry stored := kept.pending t entry (Lapsing.eq_some_of_drop sh.pending stored)

/-- A new event, of which it is said what it has to do with the others. -/
theorem Kept.note {event : Event} (kept : Kept sh)
    (steps : (accepted (event :: sh.log)).Nodup)
    (tokens : (spent (event :: sh.log)).Nodup)
    (session : ∀ user source, event = .session user source true → Proven user sh.log source)
    (mark : ∀ user step token, event = .accepted user step (.validate token) →
      ∃ lapse : Nat, sh.replays (user, step) = some ((), lapse) ∧ Totp.closes step ≤ lapse)
    (unspent : ∀ token entry, sh.pending token = some entry → token ∉ spent (event :: sh.log))
    (known : ∀ token ∈ spent (event :: sh.log), token < sh.tokens) : Kept (sh.note event) where
  steps := steps
  tokens := tokens
  sessions user source earlier suffix := by
    rcases List.suffix_cons_iff.mp suffix with new | old
    · obtain ⟨same, rfl⟩ := List.cons.inj new
      exact session user source same.symm
    · exact kept.sessions user source earlier old
  marks user step token member := by
    rcases List.mem_cons.mp member with new | old
    · exact mark user step token new.symm
    · exact kept.marks user step token old
  pending token entry stored := by
    obtain ⟨below, -, issued⟩ := kept.pending token entry stored
    exact ⟨below, unspent token entry stored, issued.mono (List.suffix_cons _ _)⟩
  known := known
  copies := kept.copies

variable {number : Nat}

theorem Kept.password (kept : Kept sh) : Kept (sh.note (.password user number)) :=
  kept.note kept.steps kept.tokens nofun nofun
    (fun t entry stored => (kept.pending t entry stored).2.1) kept.known

theorem Kept.issue {number lapse : Nat} (kept : Kept sh)
    (right : .password user number ∈ sh.log) :
    Kept ({ sh with
      pending := sh.pending.put sh.tokens user lapse
      tokens := sh.tokens + 1 }.note (.issued user sh.tokens number)) where
  steps := kept.steps
  tokens := kept.tokens
  sessions other source earlier suffix := by
    rcases List.suffix_cons_iff.mp suffix with new | old
    · cases (List.cons.inj new).1
    · exact kept.sessions other source earlier old
  marks other step token member :=
    kept.marks other step token ((List.mem_cons.mp member).resolve_left nofun)
  pending t entry stored := by
    rcases Lapsing.put_eq_some_cases sh.pending stored with ⟨rfl, rfl⟩ | ⟨-, old⟩
    · refine ⟨Nat.lt_succ_self _, fun member => ?_, number, before_cons right⟩
      exact Nat.lt_irrefl _ (kept.known _ member)
    · obtain ⟨below, unspent, issued⟩ := kept.pending t entry old
      exact ⟨Nat.lt_succ_of_lt below, unspent, issued.mono (List.suffix_cons _ _)⟩
  known t member := Nat.lt_succ_of_lt (kept.known t member)
  copies := kept.copies

theorem Kept.accept {acceptor : Acceptor} (kept : Kept sh) (fresh : (user, step) ∉ accepted sh.log)
    (mark : ∀ token, acceptor = .validate token →
      ∃ lapse : Nat, sh.replays (user, step) = some ((), lapse) ∧ Totp.closes step ≤ lapse) :
    Kept (sh.note (.accepted user step acceptor)) := by
  refine kept.note (List.nodup_cons.mpr ⟨fresh, kept.steps⟩) kept.tokens nofun ?_
    (fun t entry stored => (kept.pending t entry stored).2.1) kept.known
  intro _ _ token same
  obtain ⟨rfl, rfl, by_⟩ := Event.accepted.inj same
  exact mark token by_

/-- A mark lasts for as long as the code of its step is taken. -/
theorem closes_le_mark {clock : Nat} (opened : Totp.opens step ≤ clock) :
    Totp.closes step ≤ (clock + mfaReplayCacheTTL : Nat) := by
  rw [Totp.closes_eq, mfaReplayCacheTTL, second]
  push_cast
  omega

theorem Kept.mark {token : Option Nat} (kept : Kept sh) (opened : Totp.opens step ≤ sh.clock)
    (fresh : (user, step) ∉ accepted sh.log) :
    Kept ({ sh with
      replays := sh.replays.put (user, step) () (sh.clock + mfaReplayCacheTTL) }.note
        (.accepted user step (.validate token))) := by
  have marked : Kept { sh with
      replays := sh.replays.put (user, step) () (sh.clock + mfaReplayCacheTTL) } :=
    { kept with
      marks := fun other later token member => by
        by_cases same : (other, later) = (user, step)
        · obtain ⟨rfl, rfl⟩ := Prod.mk.inj same
          exact ⟨_, Function.update_self _ _ _, closes_le_mark opened⟩
        · obtain ⟨lapse, stored, covers⟩ := kept.marks other later token member
          exact ⟨lapse, (Function.update_of_ne same _ _).trans stored, covers⟩ }
  exact marked.accept fresh fun _ _ => ⟨_, Function.update_self _ _ _, closes_le_mark opened⟩

theorem Kept.session {source : Source} {on : Bool} (kept : Kept sh)
    (carried : ∀ t, source.token = some t → Carried sh t)
    (proven : on = true → Proven user sh.log source) :
    Kept (sh.note (.session user source on)) := by
  have rule : ∀ other origin, Event.session user source on = .session other origin true →
      Proven other sh.log origin := by
    intro other origin same
    obtain ⟨rfl, rfl, rfl⟩ := Event.session.inj same
    exact proven rfl
  cases source with
  | login number =>
    exact kept.note kept.steps kept.tokens rule nofun
      (fun t entry stored => (kept.pending t entry stored).2.1) kept.known
  | pending token =>
    have own := carried token rfl
    refine kept.note kept.steps (List.nodup_cons.mpr ⟨own.fresh, kept.tokens⟩) rule nofun ?_ ?_
    · intro t entry stored
      refine List.not_mem_cons_of_ne_of_not_mem ?_ (kept.pending t entry stored).2.1
      rintro rfl
      rw [own.taken] at stored
      cases stored
    · intro t member
      rcases List.mem_cons.mp member with rfl | old
      · exact own.known
      · exact kept.known t old

/-! ### Reads -/

/-- A user that is read by its identifier has it. -/
theorem id_of_live {copy : User} (kept : Kept sh)
    (live : sh.cached.live sh.clock (.id user) = some copy) : copy.id = user := by
  obtain ⟨lapse, stored, -⟩ := Lapsing.live_eq_some.mp live
  exact kept.copies user _ stored

variable {read : User}

theorem id_of_selectUser {rows : List UserRow} (found : selectUser rows (.id user) = some read) :
    read.id = user := by
  obtain ⟨row, first, rfl⟩ := Option.map_eq_some_iff.mp found
  have reads := List.find?_some first
  rw [UserKey.reads, Bool.and_eq_true, decide_eq_true_eq] at reads
  exact reads.2

variable {purpose : Purpose}

/-- What a call knows of a user that was read for it. -/
theorem holds_resume (holds : purpose.Holds sh)
    (own : ∀ u t, purpose = .complete u t → read.id = u) : Holds sh (purpose.resume read) := by
  cases purpose with
  | complete u token =>
    obtain rfl := own u token rfl
    exact holds
  | initiate | login => trivial

theorem token_resume :
    (purpose.resume read).token = purpose.token := by
  cases purpose <;> rfl

theorem marking_resume :
    (purpose.resume read).marking = none := by
  cases purpose <;> rfl

/-- What follows an authentication knows what the authentication knew. -/
theorem holds_authenticated (holds : Holds sh (.reset read number)) :
    Holds sh (authenticated read number) := by
  rw [authenticated]
  split
  · exact holds.1
  · rename_i off
    exact ⟨holds.1, holds.2 (Bool.eq_false_iff.mpr off)⟩

theorem token_authenticated :
    (authenticated read number).token = none := by
  rw [authenticated]
  split <;> rfl

theorem marking_authenticated :
    (authenticated read number).marking = none := by
  rw [authenticated]
  split <;> rfl

end Invariant

section Step

variable {service : Service} {s : Sys} {index : Nat} {call new : Call} {after : Shared} {i : Input}

/-- A step keeps the invariant where the call is right about what it left, its token and its step
are nobody else's, and it leaves those of the others alone. -/
theorem Inv.act (inv : Inv s) (later : Later s.shared after) (enables : Enables s.shared after)
    (kept : Kept after) (own : Holds after new)
    (unspent : ∀ other second t, other ≠ index → s.clients[other]? = some second →
      second.token = some t → t ∉ spent s.shared.log → t ∉ spent after.log)
    (unmarked : ∀ other second key, other ≠ index → s.clients[other]? = some second →
      second.marking = some key → key ∉ accepted s.shared.log → key ∉ accepted after.log)
    (apart : ∀ other second, other ≠ index → s.clients[other]? = some second →
      Apart new second) : Inv (s.put index (after, new)) where
  calls := by
    refine inv.calls.act own (fun other second different found holds => ?_)
      fun other second different found => ?_
    · exact holds.later later enables (unspent other second · different found)
        (unmarked other second · different found)
    · exact ⟨apart other second different found, (apart other second different found).symm⟩
  kept := kept

/-- Two calls of a state with the invariant are apart. -/
theorem Inv.apart (inv : Inv s) (found : s.clients[index]? = some call) {other : Nat}
    {second : Call} (different : other ≠ index) (among : s.clients[other]? = some second) :
    Apart call second :=
  inv.calls.pairs index other call second different.symm found among

/-- A step that neither accepts a code nor makes a session. -/
theorem Inv.quiet (inv : Inv s) (found : s.clients[index]? = some call)
    (later : Later s.shared after) (enables : Enables s.shared after) (kept : Kept after)
    (own : Holds after new) (spends : spent after.log = spent s.shared.log)
    (accepts : accepted after.log = accepted s.shared.log)
    (token : ∀ t, new.token = some t → call.token = some t)
    (marking : ∀ key, new.marking = some key → call.marking = some key) :
    Inv (s.put index (after, new)) := by
  refine inv.act later enables kept own ?_ ?_ fun other second different among => ?_
  · rw [spends]
    exact fun _ _ _ _ _ _ fresh => fresh
  · rw [accepts]
    exact fun _ _ _ _ _ _ fresh => fresh
  · have apart := inv.apart found different among
    exact ⟨fun t mine => apart.token t (token t mine), fun key mine =>
      apart.marking key (marking key mine)⟩

theorem Later.refl {sh : Shared} : Later sh sh where
  clock := Nat.le_refl _
  log := List.suffix_rfl
  tokens := Nat.le_refl _
  taken _ _ taken := taken

/-- A step that leaves the record and the pending tokens as they are. -/
theorem Inv.silent (inv : Inv s) (found : s.clients[index]? = some call) (own : Holds s.shared new)
    (token : ∀ t, new.token = some t → call.token = some t)
    (marking : ∀ key, new.marking = some key → call.marking = some key) :
    Inv (s.put index (s.shared, new)) :=
  inv.quiet found .refl (.of_eq fun _ => rfl) inv.kept own rfl rfl token marking

/-- A call with neither a token nor a marking has nothing to keep. -/
theorem owns_nothing {α : Type} {held : Option α} {Keeps : α → Prop} (nothing : held = none) :
    ∀ a, held = some a → Keeps a := by
  intro a own
  rw [nothing] at own
  cases own

theorem Inv.finish (inv : Inv s) (found : s.clients[index]? = some call) :
    Inv (s.put index (s.shared, .finished)) :=
  inv.silent found trivial (owns_nothing rfl) (owns_nothing rfl)

theorem Later.of_eq {sh : Shared} (clock : after.clock = sh.clock) (log : after.log = sh.log)
    (tokens : after.tokens = sh.tokens) (pending : after.pending = sh.pending) :
    Later sh after where
  clock := clock.ge
  log := log ▸ List.suffix_rfl
  tokens := tokens.ge
  taken _ _ taken := pending ▸ taken

theorem Inv.tick (inv : Inv s) (elapsed : Nat) :
    Inv { s with shared := s.shared.tick elapsed } where
  calls :=
    { each := fun other second found => by
        have later : Later s.shared (s.shared.tick elapsed) :=
          ⟨Nat.le_add_right _ _, List.suffix_rfl, Nat.le_refl _, fun _ _ taken => taken⟩
        exact (inv.calls.each other second found).later later (.of_eq fun _ => rfl)
          (fun _ _ fresh => fresh) fun _ _ fresh => fresh
      pairs := inv.calls.pairs }
  kept := inv.kept.tick elapsed

/-- A write to the row of a user that leaves the second factor as it is. -/
theorem Inv.write {id : Uuid} {change : UserRow → UserRow} (inv : Inv s)
    (found : s.clients[index]? = some call) (same : ∀ row, (change row).id = row.id)
    (keeps : ∀ row, (change row).mfaEnabled = row.mfaEnabled) (own : Holds s.shared new)
    (token : ∀ t, new.token = some t → call.token = some t)
    (marking : ∀ key, new.marking = some key → call.marking = some key) :
    Inv (s.put index (s.shared.change id change, new)) := by
  have later : Later s.shared (s.shared.change id change) := .of_eq rfl rfl rfl rfl
  have enables : Enables s.shared (s.shared.change id change) :=
    .of_eq fun _ => enabled_change same keeps
  exact inv.quiet found later enables inv.kept.change
    (own.later later enables (fun _ _ fresh => fresh) fun _ _ fresh => fresh) rfl rfl token marking

/-- Whoever has taken a pending token knows that it is not spent. -/
theorem carried_of_holds {sh : Shared} {t : Nat} (holds : Holds sh call)
    (own : call.token = some t) : Carried sh t := by
  induction call with
  | getCached purpose | getRow purpose =>
    cases purpose with
    | complete user token =>
      cases own
      exact holds.1
    | initiate | login => cases own
  | setCached user keys rest ih => exact ih holds.2 own
  | dropCached id rest ih => exact ih holds own
  | createSession user source =>
    cases source with
    | login number => cases own
    | pending token =>
      cases own
      exact holds.1
  | validate user token code | verifyCode user token encrypted code => exact (holds t own).1
  | checkReplay user token step | mark user token step => exact (holds.1 t own).1
  | initiate | storeSetup | confirm | verifySetup | setMFASecret | clearSetup | found | unlocked
  | mistaken | counted | locking | accepted | reset | storePending | complete | finished =>
    cases own

theorem getCached_inv {purpose : Purpose} (inv : Inv s)
    (found : s.clients[index]? = some (.getCached purpose)) :
    Inv (s.put index (act service s.shared (.getCached purpose) i)) := by
  have held : purpose.Holds s.shared := inv.calls.each index _ found
  simp only [act]
  cases copy : s.shared.cached.live s.shared.clock purpose.key with
  | none => exact inv.silent found held (fun _ own => own) fun _ own => own
  | some user =>
    refine inv.silent found (holds_resume held fun u t same => ?_)
      (fun _ own => token_resume.symm.trans own) fun _ own => ?_
    · subst same
      exact id_of_live inv.kept copy
    · rw [marking_resume] at own
      cases own

theorem getRow_inv {purpose : Purpose} (inv : Inv s)
    (found : s.clients[index]? = some (.getRow purpose)) :
    Inv (s.put index (act service s.shared (.getRow purpose) i)) := by
  have held : purpose.Holds s.shared := inv.calls.each index _ found
  simp only [act]
  split
  · exact inv.finish found
  · cases read : selectUser s.shared.users.rows purpose.key with
    | none => exact inv.finish found
    | some user =>
      refine inv.silent found ⟨fun _ among => among, holds_resume held fun u t same => ?_⟩
        (fun _ own => token_resume.symm.trans own) fun _ own => ?_
      · subst same
        exact id_of_selectUser read
      · rw [Call.marking, marking_resume] at own
        cases own

/-- A password that is found right by a copy that agrees with the row on the second factor. -/
theorem unlocked_inv {user : User} {password : String} (inv : Inv s)
    (found : s.clients[index]? = some (.unlocked user password))
    (careful : Careful service s s.shared i (.unlocked user password)) :
    Inv (s.put index (act service s.shared (.unlocked user password) i)) := by
  simp only [act]
  split
  · exact inv.finish found
  · rename_i hashedPassword read
    obtain ⟨succeeds, row, stored, hash⟩ : i.fails = false ∧ ∃ row,
        s.shared.row user.id = some row ∧ row.passwordHash = some hashedPassword := by
      split at read
      · cases read
      · rename_i succeeds
        exact ⟨Bool.eq_false_iff.mpr succeeds, Option.bind_eq_some_iff.mp read⟩
    split
    · rename_i right
      have later : Later s.shared
          (s.shared.note (.password user.id s.shared.log.length)) :=
        ⟨Nat.le_refl _, List.suffix_cons _ _, Nat.le_refl _, fun _ _ taken => taken⟩
      refine inv.quiet found later (.of_eq fun _ => rfl) inv.kept.password
        ⟨List.mem_cons_self, fun off on => ?_⟩ rfl rfl (owns_nothing rfl)
        (owns_nothing rfl)
      have present : s.shared.users.get? user.id = some row :=
        (Option.filter_eq_some_iff.mp stored).1
      have disabled := careful row hashedPassword succeeds stored hash right off
      have enabled : (s.shared.users.get? user.id).any
          (fun row => row.mfaEnabled.getD false) = true := on
      rw [present, Option.any_some, disabled] at enabled
      cases enabled
    · exact inv.silent found trivial (owns_nothing rfl) (owns_nothing rfl)

theorem storePending_inv {user : Uuid} {number : Nat} (inv : Inv s)
    (found : s.clients[index]? = some (.storePending user number)) :
    Inv (s.put index (act service s.shared (.storePending user number) i)) := by
  have held : .password user number ∈ s.shared.log := inv.calls.each index _ found
  refine inv.quiet found
    ⟨Nat.le_refl _, List.suffix_cons _ _, Nat.le_succ _, fun t below taken => ?_⟩
    (.of_eq fun _ => rfl) (inv.kept.issue held) trivial rfl rfl (owns_nothing rfl)
    (owns_nothing rfl)
  exact (Function.update_of_ne (Nat.ne_of_lt below) _ _).trans taken

theorem createSession_inv {user : User} {source : Source} (inv : Inv s)
    (found : s.clients[index]? = some (.createSession user source)) :
    Inv (s.put index (act service s.shared (.createSession user source) i)) := by
  have held := inv.calls.each index _ found
  simp only [act]
  split
  · exact inv.finish found
  · have carried : ∀ t, source.token = some t → Carried s.shared t := fun t own =>
      carried_of_holds held own
    have proven : s.shared.enabled user.id = true → Proven user.id s.shared.log source := by
      intro on
      cases source with
      | login number => exact held.2 on
      | pending token => exact held.2
    refine inv.act
      ⟨Nat.le_refl _, List.suffix_cons _ _, Nat.le_refl _, fun _ _ taken => taken⟩
      (.of_eq fun _ => rfl) (inv.kept.session carried proven) trivial ?_
      (fun _ _ _ _ _ _ fresh => fresh)
      fun _ _ _ _ => ⟨fun _ own => (by cases own), fun _ own => (by cases own)⟩
    intro other second t different among own fresh
    cases source with
    | login number => exact fresh
    | pending token =>
      refine List.not_mem_cons_of_ne_of_not_mem ?_ fresh
      rintro rfl
      exact (inv.apart found different among).token _ rfl own

/-- The token is taken by one call. -/
theorem complete_inv {token : Nat} {code : String} (inv : Inv s)
    (found : s.clients[index]? = some (.complete token code)) :
    Inv (s.put index (act service s.shared (.complete token code) i)) := by
  simp only [act]
  cases live : s.shared.pending.live s.shared.clock token with
  | none => exact inv.finish found
  | some user =>
    obtain ⟨lapse, stored, -⟩ := Lapsing.live_eq_some.mp live
    obtain ⟨known, fresh, issued⟩ := inv.kept.pending token _ stored
    have later : Later s.shared { s.shared with pending := s.shared.pending.drop token } := by
      refine ⟨Nat.le_refl _, List.suffix_rfl, Nat.le_refl _, fun t _ taken => ?_⟩
      by_cases same : t = token
      · subst same
        exact Function.update_self _ _ _
      · exact (Function.update_of_ne same _ _).trans taken
    refine inv.act later (.of_eq fun _ => rfl) inv.kept.take (fun t own => ?_)
      (fun _ _ _ _ _ _ fresh => fresh) (fun _ _ _ _ _ _ fresh => fresh)
      fun other second different among => ⟨fun t own others => ?_, nofun⟩
    · cases own
      exact ⟨⟨known, fresh, Function.update_self _ _ _⟩, issued⟩
    · cases own
      have carried := carried_of_holds (inv.calls.each other second among) others
      rw [carried.taken] at stored
      cases stored

/-- A confirmation accepts a step that was not accepted. -/
theorem setMFASecret_inv {user : Uuid} {encrypted : String} {step : Int} (inv : Inv s)
    (found : s.clients[index]? = some (.setMFASecret user encrypted step))
    (careful : Careful service s s.shared i (.setMFASecret user encrypted step)) :
    Inv (s.put index (act service s.shared (.setMFASecret user encrypted step) i)) := by
  simp only [act]
  split
  · exact inv.finish found
  · rename_i succeeds
    obtain ⟨fresh, nobody⟩ := careful (Bool.eq_false_iff.mpr succeeds)
    refine inv.act
      ⟨Nat.le_refl _, List.suffix_cons _ _, Nat.le_refl _, fun _ _ taken => taken⟩
      enables_confirm (inv.kept.change.accept fresh nofun) trivial (fun _ _ _ _ _ _ fresh => fresh)
      (fun other second key different among own unmarked => ?_)
      fun _ _ _ _ => ⟨fun _ own => (by cases own), fun _ own => (by cases own)⟩
    refine List.not_mem_cons_of_ne_of_not_mem ?_ unmarked
    rintro rfl
    exact nobody second (List.mem_of_getElem? among) own

/-- A code that is not marked is of a step that was not accepted. -/
theorem checkReplay_inv {user : Uuid} {token : Option Nat} {step : Int} (inv : Inv s)
    (found : s.clients[index]? = some (.checkReplay user token step))
    (careful : Careful service s s.shared i (.checkReplay user token step)) :
    Inv (s.put index (act service s.shared (.checkReplay user token step) i)) := by
  obtain ⟨validates, opened⟩ := inv.calls.each index _ found
  simp only [act]
  cases live : s.shared.replays.live s.shared.clock (user, step) with
  | some _ => exact inv.finish found
  | none =>
    obtain ⟨inTime, unconfirmed, nobody⟩ := careful live
    have fresh : (user, step) ∉ accepted s.shared.log := by
      intro member
      obtain ⟨event, among, same⟩ := List.mem_filterMap.mp member
      cases event with
      | accepted other later acceptor =>
        obtain ⟨rfl, rfl⟩ := Prod.mk.inj (Option.some.inj same)
        cases acceptor with
        | confirm => exact unconfirmed among
        | validate first =>
          rcases inTime with early | unseen
          · obtain ⟨lapse, stored, covers⟩ := inv.kept.marks _ _ _ among
            have still : s.shared.clock < lapse := by omega
            rw [Lapsing.live_eq_some.mpr ⟨lapse, stored, still⟩] at live
            cases live
          · exact unseen first among
      | password | issued | session => cases same
    refine inv.act .refl (.of_eq fun _ => rfl) inv.kept ⟨validates, opened, fresh⟩
      (fun _ _ _ _ _ _ fresh => fresh) (fun _ _ _ _ _ _ fresh => fresh)
      fun other second different among => ⟨?_, fun key own others => ?_⟩
    · exact (inv.apart found different among).token
    · cases own
      exact nobody second (List.mem_of_getElem? among) others

theorem mark_inv {user : Uuid} {token : Option Nat} {step : Int} (inv : Inv s)
    (found : s.clients[index]? = some (.mark user token step)) :
    Inv (s.put index (act service s.shared (.mark user token step) i)) := by
  obtain ⟨validates, opened, fresh⟩ := inv.calls.each index _ found
  refine inv.act ⟨Nat.le_refl _, List.suffix_cons _ _, Nat.le_refl _, fun _ _ taken => taken⟩
    (.of_eq fun _ => rfl) (inv.kept.mark opened fresh) ?_ (fun _ _ _ _ _ _ fresh => fresh)
    (fun other second key different among own unmarked => ?_)
    fun other second different among => ⟨fun t own => ?_, fun key own => ?_⟩
  · cases token with
    | none => trivial
    | some t =>
      obtain ⟨carried, issued⟩ := validates t rfl
      exact ⟨⟨carried.known, carried.fresh, carried.taken⟩, proven_pending issued⟩
  · refine List.not_mem_cons_of_ne_of_not_mem ?_ unmarked
    rintro rfl
    exact (inv.apart found different among).marking _ rfl own
  · refine (inv.apart found different among).token t ?_
    cases token with
    | none => cases own
    | some token => exact own
  · cases token with
    | none => cases own
    | some token => cases own

/-- Every step that meets the condition keeps the invariant. -/
theorem act_inv (inv : Inv s) (found : s.clients[index]? = some call)
    (careful : Careful service s s.shared i call) :
    Inv (s.put index (act service s.shared call i)) := by
  have held := inv.calls.each index call found
  cases call with
  | getCached purpose => exact getCached_inv inv found
  | getRow purpose => exact getRow_inv inv found
  | setCached user keys rest =>
    cases keys with
    | nil => exact inv.silent found held.2 (fun _ own => own) fun _ own => own
    | cons key keys =>
      have later : Later s.shared { s.shared with
          cached := s.shared.cached.put key user (s.shared.clock + userCacheTTL) } :=
        .of_eq rfl rfl rfl rfl
      have enables : Enables s.shared { s.shared with
          cached := s.shared.cached.put key user (s.shared.clock + userCacheTTL) } :=
        .of_eq fun _ => rfl
      refine inv.quiet found later enables
        (inv.kept.putCached (held.1 key List.mem_cons_self)) ⟨?_, ?_⟩ rfl rfl
        (fun _ own => own) fun _ own => own
      · exact fun other among => held.1 other (List.mem_cons_of_mem key among)
      · exact held.2.later later enables (fun _ _ fresh => fresh) fun _ _ fresh => fresh
  | dropCached id rest =>
    have later : Later s.shared { s.shared with cached := s.shared.cached.drop (.id id) } :=
      .of_eq rfl rfl rfl rfl
    have enables : Enables s.shared { s.shared with cached := s.shared.cached.drop (.id id) } :=
      .of_eq fun _ => rfl
    have own : Holds s.shared rest := held
    exact inv.quiet found later enables inv.kept.dropCached
      (own.later later enables (fun _ _ fresh => fresh) fun _ _ fresh => fresh) rfl rfl
      (fun _ own => own) fun _ own => own
  | initiate user =>
    simp only [act]
    split
    · exact inv.finish found
    · exact inv.silent found trivial (owns_nothing rfl) (owns_nothing rfl)
  | storeSetup user =>
    exact inv.quiet found (.of_eq rfl rfl rfl rfl) (.of_eq fun _ => rfl) { inv.kept with } trivial
      rfl rfl (owns_nothing rfl) (owns_nothing rfl)
  | confirm user code =>
    simp only [act]
    split
    · exact inv.silent found trivial (owns_nothing rfl) (owns_nothing rfl)
    · exact inv.finish found
  | verifySetup user encrypted code =>
    simp only [act]
    split
    · exact inv.finish found
    · exact inv.silent found trivial (owns_nothing rfl) (owns_nothing rfl)
  | setMFASecret user encrypted step => exact setMFASecret_inv inv found careful
  | clearSetup user =>
    exact inv.quiet found (.of_eq rfl rfl rfl rfl) (.of_eq fun _ => rfl) { inv.kept with } trivial
      rfl rfl (owns_nothing rfl) (owns_nothing rfl)
  | found user password =>
    simp only [act]
    split
    · exact inv.finish found
    · exact inv.silent found trivial (owns_nothing rfl) (owns_nothing rfl)
  | unlocked user password => exact unlocked_inv inv found careful
  | mistaken user =>
    simp only [act]
    split
    · exact inv.silent found trivial (owns_nothing rfl) (owns_nothing rfl)
    · exact inv.write found (fun _ => rfl) (fun _ => rfl) trivial (owns_nothing rfl)
        (owns_nothing rfl)
  | counted user =>
    simp only [act]
    split
    · exact inv.silent found trivial (owns_nothing rfl) (owns_nothing rfl)
    · exact inv.finish found
  | locking user v =>
    simp only [act]
    split
    · exact inv.finish found
    · exact inv.write found (fun _ => rfl) (fun _ => rfl) trivial (owns_nothing rfl)
        (owns_nothing rfl)
  | accepted user number =>
    simp only [act]
    split
    · exact inv.silent found held (owns_nothing rfl) (owns_nothing rfl)
    · exact inv.write found (fun _ => rfl) (fun _ => rfl) held (owns_nothing rfl)
        (owns_nothing rfl)
  | reset user number =>
    have own : Holds s.shared (authenticated user number) := holds_authenticated held
    have token : ∀ t, (authenticated user number).token ≠ some t := fun t own => by
      rw [token_authenticated] at own
      cases own
    have marking : ∀ key, (authenticated user number).marking ≠ some key := fun key own => by
      rw [marking_authenticated] at own
      cases own
    simp only [act]
    split
    · exact inv.silent found own (fun t mine => absurd mine (token t)) fun key mine =>
        absurd mine (marking key)
    · exact inv.write found (fun _ => rfl) (fun _ => rfl) own
        (fun t mine => absurd mine (token t)) fun key mine => absurd mine (marking key)
  | storePending user number => exact storePending_inv inv found
  | createSession user source => exact createSession_inv inv found
  | complete token code => exact complete_inv inv found
  | validate user token code =>
    simp only [act]
    split
    · split
      · exact inv.silent found held (fun _ own => own) (owns_nothing rfl)
      · exact inv.finish found
    · exact inv.finish found
  | verifyCode user token encrypted code =>
    simp only [act]
    cases taken : service.verify encrypted code s.shared.clock with
    | none => exact inv.finish found
    | some step =>
      obtain ⟨secret, -, matched⟩ := Option.bind_eq_some_iff.mp taken
      exact inv.silent found ⟨held, (Totp.opens_le_of_verifyTOTP matched).1⟩
        (fun _ own => own) (owns_nothing rfl)
  | checkReplay user token step => exact checkReplay_inv inv found careful
  | mark user token step => exact mark_inv inv found
  | finished => exact inv.finish found

end Step

/-! ## Every run -/

theorem inv_initial (users : Table UserRow) (clock : Nat) : Inv (initial users clock) where
  calls := ⟨fun _ _ found => (by cases found), fun _ _ _ _ _ found => (by cases found)⟩
  kept :=
    { steps := List.nodup_nil
      tokens := List.nodup_nil
      sessions := fun _ _ _ suffix => by cases List.suffix_nil.mp suffix
      marks := nofun
      pending := nofun
      known := nofun
      copies := fun _ _ stored => by cases stored }

theorem step_inv {service : Service} {s : Sys} (turn : Turn Call Input)
    (guard : Guard service s turn) (inv : Inv s) : Inv (s.step (next service) turn) := by
  cases turn with
  | arrive call =>
    have own : Holds s.shared call ∧ call.token = none ∧ call.marking = none := by
      rcases guard.1 with ⟨_, rfl⟩ | ⟨_, _, rfl⟩ | ⟨_, _, rfl⟩ | ⟨_, _, rfl⟩ | ⟨_, _, rfl⟩
      · exact ⟨trivial, rfl, rfl⟩
      · exact ⟨trivial, rfl, rfl⟩
      · exact ⟨trivial, rfl, rfl⟩
      · exact ⟨trivial, rfl, rfl⟩
      · exact ⟨fun _ same => (by cases same), rfl, rfl⟩
    refine ⟨inv.calls.arrive own.1 fun _ other _ => ?_, inv.kept⟩
    have apart : Apart call other :=
      ⟨fun t mine => absurd (own.2.1.symm.trans mine) nofun,
        fun key mine => absurd (own.2.2.symm.trans mine) nofun⟩
    exact ⟨apart, apart.symm⟩
  | act index input =>
    refine System.step_act_keeps inv fun call found => ?_
    exact act_inv (inv.tick input.elapsed) found (guard.2 index input call rfl found)

/-- In every run whose steps meet the condition, each step is accepted once, each pending token
makes one session at most, and nobody with a second factor gets in without it. -/
theorem factors_respected_of_careful {service : Service} {users : Table UserRow} {clock : Nat}
    {s : Sys} (run : Run (System.step (next service)) (Guard service) (initial users clock) s) :
    Respects s := by
  have inv : Inv s :=
    run.invariant (inv_initial users clock) fun _ turn guard held => step_inv turn guard held
  exact ⟨inv.kept.steps, inv.kept.tokens, inv.kept.sessions⟩

section Clerk

/-- The code of a step is its number. -/
def numbered : Service where
  crypto :=
    { hmac := fun _ message => message.drop 4 ++ List.replicate 16 0
      base32 := fun _ _ => some [] }
  decryptSecret := fun _ encrypted => some encrypted
  verifyPassword := fun hashedPassword password => hashedPassword = password
  mfaEncryptionKey := List.replicate 32 0

def clerk (mfaEnabled : Bool) : UserRow where
  id := 7
  entityID := 1
  username := "clerk"
  email := "clerk@acme"
  passwordHash := some "pw"
  userType := "TENANT"
  accountStatus := some "ACTIVE"
  sessionTimeoutMinutes := none
  mfaEnabled := some mfaEnabled
  mfaSecret := if mfaEnabled then some "S" else none
  createdAt := 0
  updatedAt := 0

/-- The clerk alone, a minute after the start. -/
def clerks (mfaEnabled : Bool) : Sys :=
  initial (Table.empty.insert (clerk mfaEnabled)) (60 * second)

/-- The clerk logs in with the password and a code. -/
def twoFactors : List (Turn Call Input) :=
  [.arrive (.getCached (.login "clerk" "pw")), .act 0 {}, .act 0 {}, .act 0 {}, .act 0 {},
    .act 0 {}, .act 0 {}, .act 0 {}, .act 0 {}, .act 0 {}, .act 0 {}, .act 0 {}, .act 0 {},
    .act 0 {}, .arrive (.complete 0 "000002"), .act 1 {}, .act 1 {}, .act 1 {}, .act 1 {},
    .act 1 {}, .act 1 {}, .act 1 {}, .act 1 {}, .act 1 {}, .act 1 {}, .act 1 {}, .act 1 {}]

/-- The clerk turns the second factor on. -/
def confirmed : List (Turn Call Input) :=
  [.arrive (.initiate 7), .act 0 {}, .act 0 {}, .act 0 {}, .act 0 {}, .act 0 {}, .act 0 {},
    .act 0 {}, .act 0 { encrypted := "S" }, .arrive (.confirm 7 "000002"), .act 1 {}, .act 1 {},
    .act 1 {}, .act 1 {}, .act 1 {}]

/-- The code that turned it on is validated. -/
def replayed : List (Turn Call Input) :=
  confirmed ++ [.arrive (.validate 7 none "000002"), .act 2 {}, .act 2 {}, .act 2 {}, .act 2 {}]

def bypassed : List (Turn Call Input) :=
  confirmed ++ [.arrive (.getCached (.login "clerk" "pw")), .act 2 {}, .act 2 {}, .act 2 {},
    .act 2 {}, .act 2 {}, .act 2 {}, .act 2 {}, .act 2 {}]

/-- Two validations of one code at a time. -/
def validatedTwice : List (Turn Call Input) :=
  [.arrive (.validate 7 none "000002"), .arrive (.validate 7 none "000002"), .act 0 {}, .act 0 {},
    .act 0 {}, .act 1 {}, .act 1 {}, .act 1 {}, .act 0 {}, .act 1 {}]

theorem guard_act {service : Service} {s : Sys} {index : Nat} {input : Input} {call : Call}
    (found : s.clients[index]? = some call)
    (careful : Careful service s (s.shared.tick input.elapsed) input call) :
    Guard service s (.act index input) := by
  refine ⟨trivial, ?_⟩
  rintro _ _ _ ⟨⟩ same
  cases found.symm.trans same
  exact careful

/-- The clerk's session is respected. -/
theorem session_of_two_factors :
    Respects (twoFactors.foldl (System.step (next numbered)) (clerks true)) ∧
      .session 7 (.pending 0) true ∈
        (twoFactors.foldl (System.step (next numbered)) (clerks true)).shared.log := by
  refine ⟨factors_respected_of_careful (Run.foldl fun k bound => ?_), by decide +kernel⟩
  match k, bound with
  | 0, _ => exact ⟨.inr (.inr (.inl ⟨_, _, rfl⟩)), nofun⟩
  | 14, _ => exact ⟨.inr (.inr (.inr (.inl ⟨_, _, rfl⟩))), nofun⟩
  | 8, _ => exact guard_act rfl fun _ _ _ _ _ _ off => by cases off
  | 18, _ => exact guard_act rfl fun _ => ⟨.inl (by decide), by decide, by decide⟩
  | 1, _ | 2, _ | 3, _ | 4, _ | 5, _ | 6, _ | 7, _ | 9, _ | 10, _ | 11, _ | 12, _ | 13, _
  | 15, _ | 16, _ | 17, _ | 19, _ | 20, _ | 21, _ | 22, _ | 23, _ | 24, _ | 25, _ | 26, _ =>
    exact guard_act rfl trivial
  | k + 27, bound => exact absurd bound (by simp [twoFactors])

theorem legal_confirmed : ∀ turn ∈ confirmed, Legal turn := by
  simp [confirmed, Legal]

/-- The code that turned the second factor on is validated within the same half minute; two
validations accept one code; and the clerk, who has the second factor, gets in without it. -/
theorem factors_not_respected :
    (∃ s, Run (System.step (next numbered)) (fun _ turn => Legal turn) (clerks false) s ∧
        accepted s.shared.log = [(7, 2), (7, 2)] ∧ ¬Respects s) ∧
      (∃ s, Run (System.step (next numbered)) (fun _ turn => Legal turn) (clerks true) s ∧
        accepted s.shared.log = [(7, 2), (7, 2)] ∧ ¬Respects s) ∧
      ∃ s, Run (System.step (next numbered)) (fun _ turn => Legal turn) (clerks false) s ∧
        s.shared.log =
          [.session 7 (.login 1) true, .password 7 1, .accepted 7 2 .confirm] ∧ ¬Respects s := by
  have twice {s : Sys} (same : accepted s.shared.log = [(7, 2), (7, 2)]) : ¬Respects s := by
    intro respects
    have steps := respects.steps
    rw [same] at steps
    exact absurd steps (by decide)
  have unproven {s : Sys} (same : s.shared.log =
      [.session 7 (.login 1) true, .password 7 1, .accepted 7 2 .confirm]) : ¬Respects s := by
    intro respects
    have last : .session 7 (.login 1) true :: [.password 7 1, .accepted 7 2 .confirm] <:+
        s.shared.log := same ▸ List.suffix_rfl
    obtain ⟨step, acceptor, earlier, suffix, member⟩ := respects.sessions 7 (.login 1) _ last
    rcases List.suffix_cons_iff.mp suffix with new | old
    · cases (List.cons.inj new).1
    · rcases List.suffix_cons_iff.mp old with only | none
      · obtain ⟨-, rfl⟩ := List.cons.inj only
        cases member
      · cases List.suffix_nil.mp none
  have first : accepted (replayed.foldl (System.step (next numbered)) (clerks false)).shared.log =
      [(7, 2), (7, 2)] := by decide +kernel
  have both : accepted
      (validatedTwice.foldl (System.step (next numbered)) (clerks true)).shared.log =
        [(7, 2), (7, 2)] := by decide +kernel
  have stale : (bypassed.foldl (System.step (next numbered)) (clerks false)).shared.log =
      [.session 7 (.login 1) true, .password 7 1, .accepted 7 2 .confirm] := by decide +kernel
  refine ⟨⟨_, .foldl_of_forall fun _ => ?_, first, twice first⟩,
    ⟨_, .foldl_of_forall fun _ => ?_, both, twice both⟩,
    _, .foldl_of_forall fun _ => ?_, stale, unproven stale⟩
  · exact List.forall_mem_append.mpr ⟨legal_confirmed, by simp [Legal]⟩
  · simp [validatedTwice, Legal]
  · exact List.forall_mem_append.mpr ⟨legal_confirmed, by simp [Legal]⟩

end Clerk

end ErpFinance.Iam.SecondFactor
