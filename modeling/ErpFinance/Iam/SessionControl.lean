import ErpFinance.Iam.Service
import ErpFinance.Library.Interleaving

/-!
# What keeps revoked sessions out and roles in force

A client is a caller between two of its operations on the stores; each step
carries out one operation, which may fail.  The session store may also drop any
key of its own.  Three lists record what has happened: the tokens issued, the
tokens whose revocation has returned success, and the role changes whose hook
has succeeded while their transaction is still open.

A revoked token stays out when neither a key nor an unrevoked row is left for
it, and no caller that read the session before puts one back.  The roles of a
session are those in force when no caller reads roles while a change of them
is open, and when the hook of a change drops every session of its user.

A step that only forgets keys and marks rows leaves every assertion of the
callers standing; any other has to say whose assertions it could speak against.
-/

namespace ErpFinance.Iam

open Domain Library

/-- The effect of a created or deleted role assignment on the roles of its user. -/
inductive RoleChange where
  | grant (role : String)
  | withdraw (role : String)
deriving DecidableEq

def RoleChange.apply : RoleChange → List String → List String
  | grant role, roles => roles ++ [role]
  | withdraw role, roles => roles.filter (· ≠ role)

structure Shared where
  store : Store := {}
  issued : List (String × Uuid × Uuid) := []
  revoked : List String := []
  pending : List (Uuid × Uuid × RoleChange) := []

/-- The roles of a user after every change whose hook has succeeded. -/
def Shared.inForce (sh : Shared) (tenantID userID : Uuid) : List String :=
  (sh.pending.filter fun p => p.1 = tenantID ∧ p.2.1 = userID).foldl
    (fun roles p => p.2.2.apply roles) (sh.store.roles tenantID userID)

def Shared.issuedTo (sh : Shared) (tenantID userID : Uuid) : List String :=
  (sh.issued.filter fun p => p.2.1 = tenantID ∧ p.2.2 = userID).map Prod.fst

/-- What one step meets: whether its operation fails, the time, and the next random token. -/
structure Input where
  fails : Bool := false
  now : Nat := 0
  token : String := ""

/-- Where a caller stands; `contextTenant` is the tenant of its context.  A validation keeps the
tokens revoked before it started, a bulk revocation the tokens issued when it listed. -/
inductive Client where
  -- `Login`, with verified credentials
  | login (contextTenant tenantID userID : Uuid)
  | loginStore (contextTenant : Uuid) (session : Session)
  | loginIndex (contextTenant : Uuid) (session : Session)
  | loginAudit (contextTenant : Uuid) (session : Session)
  -- `ValidateToken`
  | validate (contextTenant : Uuid) (token : String)
  | load (contextTenant : Uuid) (token : String) (before : List String)
  | recover (contextTenant : Uuid) (token : String) (before : List String)
  | reload (contextTenant : Uuid) (token : String) (row : SessionRow) (before : List String)
  | restore (session : Session) (before : List String)
  | reindex (session : Session) (before : List String)
  | accepted (token : String) (session : Session) (inForce before : List String)
  -- `Logout`
  | logout (contextTenant : Uuid) (session : Session)
  | logoutIndex (contextTenant : Uuid) (session : Session)
  | logoutAudit (contextTenant : Uuid) (session : Session)
  -- `RevokeUserSessions`
  | revoke (contextTenant tenantID userID : Uuid)
  | revokeList (contextTenant tenantID userID : Uuid)
  | revokeDelete (contextTenant tenantID userID : Uuid) (tokens covers : List String)
  | revokeAudit (contextTenant : Uuid) (tokens covers : List String)
  -- the transaction of a role change, from its hook on; `hookUser` is what the hook reads as user
  | change (tenantID userID hookUser : Uuid) (roleChange : RoleChange)
  | changeList (tenantID userID hookUser : Uuid) (roleChange : RoleChange)
  | changeDelete (tenantID userID hookUser : Uuid) (roleChange : RoleChange)
      (tokens : List String)
  | changeCommit (tenantID userID : Uuid) (roleChange : RoleChange)
  -- evictions
  | evictSession (token : String)
  | evictIndex (tenantID userID : Uuid)
  | finished
deriving DecidableEq

namespace Shared

variable (sh : Shared)

def withStore (store : Store) : Shared := { sh with store := store }

/-- A best-effort write. -/
def write (i : Input) (store : Store) : Shared := if i.fails then sh else sh.withStore store

/-- The last check of a validation. -/
def conclude (i : Input) (session : Session) (before : List String) : Client :=
  if session.isExpired i.now then .finished
  else .accepted session.token session (sh.inForce session.tenantID session.userID) before

end Shared

/-- One step of one client. -/
def next (sh : Shared) (client : Client) (i : Input) : Shared × Client :=
  match client with
  | .login contextTenant tenantID userID =>
    if i.fails then (sh, .finished)
    else
      (sh, .loginStore contextTenant
        { token := i.token
          userID := userID
          serviceAccountID := Uuid.Nil
          tenantID := tenantID
          roles := if contextTenant = tenantID then sh.store.roles tenantID userID else []
          expiresAt := i.now + humanSessionTTL
          issuedAt := i.now })
  | .loginStore contextTenant session =>
    if i.fails || !session.hasTTL i.now then (sh, .finished)
    else
      ({ sh with
          store := sh.store.set session
          issued := (session.token, session.tenantID, session.userID) :: sh.issued },
        .loginIndex contextTenant session)
  | .loginIndex contextTenant session =>
    (sh.write i (sh.store.zAdd session), .loginAudit contextTenant session)
  | .loginAudit contextTenant session =>
    (sh.write i ((sh.store.insertRow (session.row contextTenant)).getD sh.store), .finished)
  | .validate contextTenant token => (sh, .load contextTenant token sh.revoked)
  | .load contextTenant token before =>
    if i.fails then (sh, .finished)
    else
      match sh.store.sessions token with
      | some session =>
        if session.isExpired i.now then (sh, .finished)
        else
          (sh, .accepted token session (sh.inForce session.tenantID session.userID) before)
      | none => (sh, .recover contextTenant token before)
  | .recover contextTenant token before =>
    if i.fails then (sh, .finished)
    else
      match sh.store.loadRow contextTenant (tokenHash token) i.now with
      | none => (sh, .finished)
      | some row =>
        if row.userID ≠ Uuid.Nil then (sh, .reload contextTenant token row before)
        else (sh, .restore (row.session token ["role:api-client"]) before)
  | .reload contextTenant token row before =>
    (sh, .restore (row.session token
      (if i.fails then []
        else if contextTenant = row.tenantID then sh.store.roles row.tenantID row.userID
        else [])) before)
  | .restore session before =>
    if i.fails || !session.hasTTL i.now then (sh, sh.conclude i session before)
    else
      (sh.withStore (sh.store.set session),
        if session.indexed then .reindex session before else sh.conclude i session before)
  | .reindex session before =>
    (sh.write i (sh.store.zAdd session), sh.conclude i session before)
  | .logout contextTenant session =>
    if i.fails then (sh, .finished)
    else
      (sh.withStore (sh.store.del [session.token]),
        if session.indexed then .logoutIndex contextTenant session
        else .logoutAudit contextTenant session)
  | .logoutIndex contextTenant session =>
    (sh.write i (sh.store.zRem session), .logoutAudit contextTenant session)
  | .logoutAudit contextTenant session =>
    let written := sh.write i
      (sh.store.revokeRows contextTenant [tokenHash session.token] i.now)
    ({ written with revoked := session.token :: sh.revoked }, .finished)
  | .revoke contextTenant tenantID userID =>
    (sh.write i (sh.store.prune tenantID userID i.now),
      .revokeList contextTenant tenantID userID)
  | .revokeList contextTenant tenantID userID =>
    if i.fails then (sh, .finished)
    else
      let tokens := sh.store.zRange tenantID userID
      let covers := sh.issuedTo tenantID userID
      if tokens = [] then ({ sh with revoked := covers ++ sh.revoked }, .finished)
      else (sh, .revokeDelete contextTenant tenantID userID tokens covers)
  | .revokeDelete contextTenant tenantID userID tokens covers =>
    if i.fails then (sh, .finished)
    else
      (sh.withStore (sh.store.delAll tenantID userID tokens),
        .revokeAudit contextTenant tokens covers)
  | .revokeAudit contextTenant tokens covers =>
    let written := sh.write i
      (sh.store.revokeRows contextTenant (tokens.map tokenHash) i.now)
    ({ written with revoked := covers ++ sh.revoked }, .finished)
  | .change tenantID userID hookUser roleChange =>
    (sh.write i (sh.store.prune tenantID hookUser i.now),
      .changeList tenantID userID hookUser roleChange)
  | .changeList tenantID userID hookUser roleChange =>
    if i.fails then (sh, .finished)
    else
      let tokens := sh.store.zRange tenantID hookUser
      if tokens = [] then
        ({ sh with pending := (tenantID, userID, roleChange) :: sh.pending },
          .changeCommit tenantID userID roleChange)
      else (sh, .changeDelete tenantID userID hookUser roleChange tokens)
  | .changeDelete tenantID userID hookUser roleChange tokens =>
    if i.fails then (sh, .finished)
    else
      ({ sh with
          store := sh.store.delAll tenantID hookUser tokens
          pending := (tenantID, userID, roleChange) :: sh.pending },
        .changeCommit tenantID userID roleChange)
  | .changeCommit tenantID userID roleChange =>
    let committed := sh.write i (sh.store.setRoles tenantID userID roleChange.apply)
    ({ committed with pending := sh.pending.erase (tenantID, userID, roleChange) }, .finished)
  | .evictSession token => (sh.withStore (sh.store.del [token]), .finished)
  | .evictIndex tenantID userID =>
    (sh.withStore (sh.store.setIndex tenantID userID []), .finished)
  | .accepted token session inForce before =>
    (sh, .accepted token session inForce before)
  | .finished => (sh, .finished)

abbrev Sys := System Shared Client

/-! ## What a caller holds -/

namespace Session

/-- A session of a user's, which is no service account's. -/
def ofUser (session : Session) (tenantID userID : Uuid) : Prop :=
  session.userID ≠ Uuid.Nil ∧ session.tenantID = tenantID ∧ session.userID = userID

end Session

namespace Client

/-- What a caller may arrive to do. -/
def starts : Client → Bool
  | .login .. | .validate .. | .logout .. | .revoke .. | .change .. => true
  | .evictSession _ | .evictIndex .. => true
  | _ => false

/-- The session a caller is about to store or to return. -/
def carries : Client → Option Session
  | .loginStore _ session | .restore session _ | .reindex session _ => some session
  | _ => none

/-- The user whose roles a caller is about to commit. -/
def commits : Client → Option (Uuid × Uuid)
  | .changeCommit tenantID userID _ => some (tenantID, userID)
  | _ => none

/-- The tokens whose keys a revocation under way has deleted. -/
def deleted : Client → List String
  | .logoutIndex _ session | .logoutAudit _ session => [session.token]
  | .revokeAudit _ _ covers => covers
  | _ => []

/-- The tokens that a revocation under way covers without having listed them. -/
def unlisted : Client → List String
  | .revokeAudit _ tokens covers => covers.filter (· ∉ tokens)
  | _ => []

end Client

namespace Shared

/-- No session is stored under the token. -/
def Keyless (sh : Shared) (token : String) : Prop := sh.store.sessions token = none

/-- No row brings a session back under the token. -/
def Rowless (sh : Shared) (token : String) : Prop :=
  ∀ row ∈ sh.store.rows, row.tokenHash = tokenHash token → row.revokedAt ≠ none

/-- A change of the roles of a user is open. -/
def Changing (sh : Shared) (tenantID userID : Uuid) : Prop :=
  ∃ roleChange, (tenantID, userID, roleChange) ∈ sh.pending

/-- The session of a user has the committed roles, and no change of them is open. -/
def Current (sh : Shared) (session : Session) : Prop :=
  session.userID ≠ Uuid.Nil →
    session.roles = sh.store.roles session.tenantID session.userID ∧
      ¬ sh.Changing session.tenantID session.userID

def Cleared (sh : Shared) (tenantID userID : Uuid) : Prop :=
  ∀ token session, sh.store.sessions token = some session → ¬ session.ofUser tenantID userID

end Shared

/-! ## Which steps are admitted -/

section Guard

variable (s : Sys)

/-- The token is revoked, or a revocation under way has deleted its key. -/
def KeyDenied (token : String) : Prop :=
  token ∈ s.shared.revoked ∨ ∃ client ∈ s.clients, token ∈ client.deleted

/-- A token with the hash is revoked, or passed over by a revocation under way. -/
def RowDenied (hash : Bytes) : Prop :=
  ∃ token, tokenHash token = hash ∧
    (token ∈ s.shared.revoked ∨ ∃ client ∈ s.clients, token ∈ client.unlisted)

/-- Roles are read while no change of them is open; an unread list passes for an empty one. -/
def ReadsRoles (unread : Prop) (tenantID userID : Uuid) : Prop :=
  userID ≠ Uuid.Nil →
    (unread → s.shared.store.roles tenantID userID = []) ∧
      ¬ s.shared.Changing tenantID userID ∧
        ∀ client ∈ s.clients, client.commits ≠ some (tenantID, userID)

/-- Where a row has to be marked revoked, the write succeeds and its tenant sees the row. -/
def MarksRows (fails : Bool) (contextTenant : Uuid) (tokens covers : List String) : Prop :=
  ∀ row ∈ s.shared.store.rows, row.revokedAt = none →
    (∃ token ∈ covers, token ∈ tokens ∧ row.tokenHash = tokenHash token) →
      fails = false ∧ row.tenantID = contextTenant

/-- What the index does not list is neither stored nor recovered. -/
def Lists (tokens covers : List String) : Prop :=
  ∀ token ∈ covers, token ∉ tokens → s.shared.Keyless token ∧ s.shared.Rowless token

/-- Every session of the user that is stored is listed, and none is on its way. -/
def Drops (tenantID userID : Uuid) (tokens : List String) : Prop :=
  (∀ token session, s.shared.store.sessions token = some session →
    session.ofUser tenantID userID → token ∈ tokens) ∧
  ∀ client ∈ s.clients, ∀ session, client.carries = some session →
    ¬ session.ofUser tenantID userID

/-- Whether a step of a client is admitted. -/
def Admits (client : Client) (i : Input) : Prop :=
  match client with
  | .login contextTenant tenantID userID =>
    ReadsRoles s (contextTenant ≠ tenantID) tenantID userID
  | .reload contextTenant _ row _ =>
    ReadsRoles s (i.fails ∨ contextTenant ≠ row.tenantID) row.tenantID row.userID
  | .loginStore _ session | .restore session _ =>
    i.fails = false → session.hasTTL i.now → ¬ KeyDenied s session.token
  | .loginAudit _ session => i.fails = false → ¬ RowDenied s (tokenHash session.token)
  | .logoutAudit contextTenant session =>
    MarksRows s i.fails contextTenant [session.token] [session.token]
  | .revokeList _ tenantID userID =>
    i.fails = false → s.shared.store.zRange tenantID userID = [] →
      Lists s [] (s.shared.issuedTo tenantID userID)
  | .revokeDelete _ _ _ tokens covers => i.fails = false → Lists s tokens covers
  | .revokeAudit contextTenant tokens covers => MarksRows s i.fails contextTenant tokens covers
  | .changeList tenantID userID hookUser _ =>
    i.fails = false → s.shared.store.zRange tenantID hookUser = [] → Drops s tenantID userID []
  | .changeDelete tenantID userID _ _ tokens => i.fails = false → Drops s tenantID userID tokens
  | _ => True

/-- Callers arrive to start, and every step of theirs is admitted. -/
def Allowed : Turn Client Input → Prop
  | .arrive client => client.starts = true
  | .act index i => ∀ client, s.clients[index]? = some client → Admits s client i

end Guard

/-! ## The invariant -/

/-- What a validation asserts of its token and of the roles it returns. -/
def Validates (sh : Shared) : Client → Prop
  | .load _ _ before | .recover _ _ before => before ⊆ sh.revoked
  | .reload _ token _ before => token ∉ before
  | .restore session before | .reindex session before => session.token ∉ before
  | .accepted token session inForce before =>
    token ∉ before ∧ (session.userID ≠ Uuid.Nil → session.roles = inForce)
  | _ => True

/-- What holds of a client between two steps. -/
structure Holds (sh : Shared) (client : Client) : Prop where
  current : ∀ session, client.carries = some session → sh.Current session
  cleared : ∀ tenantID userID, client.commits = some (tenantID, userID) →
    sh.Cleared tenantID userID
  keyless : ∀ token ∈ client.deleted, sh.Keyless token
  rowless : ∀ token ∈ client.unlisted, sh.Rowless token
  validates : Validates sh client

/-- Nobody carries a session of a user whose roles another is about to commit. -/
def Apart (client other : Client) : Prop :=
  ∀ session tenantID userID, client.carries = some session →
    other.commits = some (tenantID, userID) → ¬ session.ofUser tenantID userID

/-- What holds in every state of a run of admitted steps. -/
structure Sound (s : Sys) : Prop where
  clients : System.Coherent Holds Apart s
  keys : ∀ token session, s.shared.store.sessions token = some session →
    s.shared.Current session
  revoked : ∀ token ∈ s.shared.revoked, s.shared.Keyless token ∧ s.shared.Rowless token

section Stores

variable {store : Store} {session : Session} {tokens : List String} {hashes : List Bytes}
  {tenantID userID : Uuid} {now : Nat} {row : SessionRow}

/-- The key just written, or one that was there. -/
theorem Store.sessions_set {token : String} {stored : Session}
    (found : (store.set session).sessions token = some stored) :
    (token = session.token ∧ stored = session) ∨ store.sessions token = some stored := by
  simp only [Store.set] at found
  split at found
  · rename_i same
    exact .inl ⟨same, (Option.some.inj found).symm⟩
  · exact .inr found

/-- A key that is left was there, and it is not a deleted one. -/
theorem Store.sessions_del {token : String} {stored : Session}
    (found : (store.del tokens).sessions token = some stored) :
    token ∉ tokens ∧ store.sessions token = some stored := by
  simp only [Store.del] at found
  split at found
  · cases found
  · rename_i kept
    exact ⟨kept, found⟩

theorem Store.mem_revokeRows (member : row ∈ (store.revokeRows tenantID hashes now).rows)
    (unrevoked : row.revokedAt = none) :
    row ∈ store.rows ∧ ¬ (row.tenantID = tenantID ∧ row.tokenHash ∈ hashes) := by
  simp only [Store.revokeRows, List.mem_map] at member
  obtain ⟨before, member, rfl⟩ := member
  unfold Store.revokeRow at unrevoked ⊢
  split_ifs at unrevoked ⊢ with marks
  · exact ⟨member, fun met => marks ⟨met.1, met.2, unrevoked⟩⟩

theorem Store.setRoles_of_ne {change : List String → List String} {tenant user : Uuid}
    (different : ¬ (tenant = tenantID ∧ user = userID)) :
    (store.setRoles tenantID userID change).roles tenant user = store.roles tenant user :=
  if_neg different

theorem Store.insertRow_frame {new : SessionRow} :
    ((store.insertRow new).getD store).sessions = store.sessions ∧
      ((store.insertRow new).getD store).roles = store.roles := by
  unfold Store.insertRow
  split <;> exact ⟨rfl, rfl⟩

theorem Store.mem_insertRow {new : SessionRow}
    (member : row ∈ ((store.insertRow new).getD store).rows) : row = new ∨ row ∈ store.rows := by
  unfold Store.insertRow at member
  split at member
  · exact .inr member
  · exact List.mem_cons.mp member

end Stores

section Shared

variable {sh : Shared} {tenantID userID : Uuid}

/-- Where no change is open, the roles in force are the committed ones. -/
theorem Shared.inForce_eq (closed : ¬ sh.Changing tenantID userID) :
    sh.inForce tenantID userID = sh.store.roles tenantID userID := by
  have none : sh.pending.filter (fun p => p.1 = tenantID ∧ p.2.1 = userID) = [] := by
    rw [List.filter_eq_nil_iff]
    rintro ⟨tenant, user, roleChange⟩ member same
    simp only [decide_eq_true_eq] at same
    obtain ⟨rfl, rfl⟩ := same
    exact closed ⟨roleChange, member⟩
  rw [Shared.inForce, none, List.foldl_nil]

end Shared

/-! ## Steps that only forget -/

/-- No key and no unrevoked row is new, and the roles and their open changes are as they were. -/
structure Quiet (sh after : Shared) : Prop where
  keys : ∀ token session, after.store.sessions token = some session →
    sh.store.sessions token = some session
  rows : ∀ row ∈ after.store.rows, row.revokedAt = none → row ∈ sh.store.rows
  roles : after.store.roles = sh.store.roles
  pending : after.pending = sh.pending
  revoked : sh.revoked ⊆ after.revoked

namespace Quiet

variable {sh after : Shared} {session : Session} {token : String}

theorem refl (sh : Shared) : Quiet sh sh :=
  ⟨fun _ _ found => found, fun _ member _ => member, rfl, rfl, fun _ member => member⟩

/-- A best-effort write that only forgets. -/
theorem write {i : Input} {store : Store}
    (quiet : Quiet sh (sh.withStore store)) : Quiet sh (sh.write i store) := by
  unfold Shared.write
  split
  · exact refl sh
  · exact quiet

theorem setIndex (sh : Shared) (tenantID userID : Uuid) (entries : List (String × Nat)) :
    Quiet sh (sh.withStore (sh.store.setIndex tenantID userID entries)) :=
  ⟨fun _ _ found => found, fun _ member _ => member, rfl, rfl, fun _ member => member⟩

theorem del (sh : Shared) (tokens : List String) :
    Quiet sh (sh.withStore (sh.store.del tokens)) where
  keys _ _ found := (Store.sessions_del found).2
  rows _ member _ := member
  roles := rfl
  pending := rfl
  revoked _ member := member

theorem delAll (sh : Shared) (tenantID userID : Uuid) (tokens : List String) :
    Quiet sh (sh.withStore (sh.store.delAll tenantID userID tokens)) where
  keys := (del sh tokens).keys
  rows := (del sh tokens).rows
  roles := rfl
  pending := rfl
  revoked _ member := member

theorem revokeRows (sh : Shared) (tenantID : Uuid) (hashes : List Bytes) (now : Nat) :
    Quiet sh (sh.withStore (sh.store.revokeRows tenantID hashes now)) where
  keys _ _ found := found
  rows _ member unrevoked := (Store.mem_revokeRows member unrevoked).1
  roles := rfl
  pending := rfl
  revoked _ member := member

theorem record (quiet : Quiet sh after) (tokens : List String) :
    Quiet sh { after with revoked := tokens ++ sh.revoked } where
  keys := quiet.keys
  rows := quiet.rows
  roles := quiet.roles
  pending := quiet.pending
  revoked _ member := List.mem_append_right _ member

theorem keyless (quiet : Quiet sh after) (keyless : sh.Keyless token) : after.Keyless token := by
  cases found : after.store.sessions token with
  | none => exact found
  | some session =>
    have before := quiet.keys token session found
    rw [Shared.Keyless] at keyless
    rw [keyless] at before
    cases before

theorem rowless (quiet : Quiet sh after) (rowless : sh.Rowless token) : after.Rowless token :=
  fun row member hash unrevoked => rowless row (quiet.rows row member unrevoked) hash unrevoked

end Quiet

/-! ## What a step may do -/

structure Effect (s : Sys) (index : Nat) (after : Shared) : Prop where
  keys : ∀ token session, after.store.sessions token = some session →
    s.shared.store.sessions token = some session ∨
      (¬ KeyDenied s token ∧ s.shared.Current session ∧
        ∀ other client, other ≠ index → s.clients[other]? = some client →
          ∀ tenantID userID, client.commits = some (tenantID, userID) →
            ¬ session.ofUser tenantID userID)
  rows : ∀ row ∈ after.store.rows, row.revokedAt = none →
    row ∈ s.shared.store.rows ∨ ¬ RowDenied s row.tokenHash
  revoked : s.shared.revoked ⊆ after.revoked
  /-- A change of roles, or of what is open, leaves no session of the user with anyone. -/
  roles : ∀ tenantID userID,
    (after.store.roles tenantID userID = s.shared.store.roles tenantID userID ∧
      (after.Changing tenantID userID → s.shared.Changing tenantID userID)) ∨
    (after.Cleared tenantID userID ∧
      ∀ other client, other ≠ index → s.clients[other]? = some client →
        ∀ session, client.carries = some session → ¬ session.ofUser tenantID userID)

theorem Quiet.effect {s : Sys} {index : Nat} {after : Shared} (quiet : Quiet s.shared after) :
    Effect s index after where
  keys token session found := .inl (quiet.keys token session found)
  rows row member unrevoked := .inl (quiet.rows row member unrevoked)
  revoked := quiet.revoked
  roles tenantID userID := by
    refine .inl ⟨by rw [quiet.roles], ?_⟩
    rintro ⟨roleChange, member⟩
    rw [quiet.pending] at member
    exact ⟨roleChange, member⟩

namespace Effect

variable {s : Sys} {index other : Nat} {after : Shared} {client : Client} {session : Session}
  {token : String} {tenantID userID : Uuid}

theorem current (effect : Effect s index after) (current : s.shared.Current session)
    (held : ∀ tenantID userID, session.ofUser tenantID userID →
      ¬ (after.Cleared tenantID userID ∧
        ∀ other client, other ≠ index → s.clients[other]? = some client →
          ∀ session, client.carries = some session → ¬ session.ofUser tenantID userID)) :
    after.Current session := by
  intro human
  obtain ⟨same, closed⟩ := current human
  rcases effect.roles session.tenantID session.userID with ⟨roles, changing⟩ | cleared
  · exact ⟨by rw [same, roles], fun isOpen => closed (changing isOpen)⟩
  · exact absurd cleared (held _ _ ⟨human, rfl, rfl⟩)

theorem keyless (effect : Effect s index after) (denied : KeyDenied s token)
    (keyless : s.shared.Keyless token) : after.Keyless token := by
  cases found : after.store.sessions token with
  | none => exact found
  | some session =>
    rcases effect.keys token session found with before | ⟨free, -⟩
    · rw [Shared.Keyless] at keyless
      rw [keyless] at before
      cases before
    · exact absurd denied free

theorem rowless (effect : Effect s index after) (denied : RowDenied s (tokenHash token))
    (rowless : s.shared.Rowless token) : after.Rowless token := by
  intro row member hash unrevoked
  rcases effect.rows row member unrevoked with before | free
  · exact rowless row before hash unrevoked
  · rw [hash] at free
    exact free denied

/-- The assertion of another client survives the step. -/
theorem holds (effect : Effect s index after) (different : other ≠ index)
    (found : s.clients[other]? = some client) (holds : Holds s.shared client) :
    Holds after client := by
  obtain ⟨carried, cleared, deleted, unlisted, validates⟩ := holds
  have member : client ∈ s.clients := List.mem_of_getElem? found
  refine ⟨fun session carries => ?_, fun tenantID userID commits => ?_, fun token denied => ?_,
    fun token denied => ?_, ?_⟩
  · refine effect.current (carried session carries) fun tenantID userID owns gone => ?_
    exact gone.2 other client different found session carries owns
  · intro token session stored
    rcases effect.keys token session stored with before | ⟨-, -, apart⟩
    · exact cleared tenantID userID commits token session before
    · exact apart other client different found tenantID userID commits
  · exact effect.keyless (.inr ⟨client, member, denied⟩) (deleted token denied)
  · exact effect.rowless ⟨token, rfl, .inr ⟨client, member, denied⟩⟩ (unlisted token denied)
  · cases client <;> first
      | exact validates
      | exact List.Subset.trans validates effect.revoked

end Effect

/-- A client's step, put into the system. -/
def put (s : Sys) (index : Nat) (outcome : Shared × Client) : Sys where
  shared := outcome.1
  clients := s.clients.set index outcome.2

/-- A step keeps the invariant when it has the effect of one, the client ends in an assertion that
holds and apart from the others, and what it revokes is gone. -/
theorem Sound.act {s : Sys} {index : Nat} {after : Shared} {new : Client} (sound : Sound s)
    (effect : Effect s index after) (own : Holds after new)
    (apart : ∀ other client, other ≠ index → s.clients[other]? = some client →
      Apart new client ∧ Apart client new)
    (revoked : ∀ token ∈ after.revoked, token ∈ s.shared.revoked ∨
      (after.Keyless token ∧ after.Rowless token)) :
    Sound (put s index (after, new)) where
  clients := sound.clients.act own
    (fun _ _ different found holds => effect.holds different found holds) apart
  keys token session found := by
    have before : s.shared.Current session := by
      rcases effect.keys token session found with before | ⟨-, current, -⟩
      · exact sound.keys token session before
      · exact current
    exact effect.current before fun tenantID userID owns gone =>
      gone.1 token session found owns
  revoked token member := by
    rcases revoked token member with before | gone
    · obtain ⟨keyless, rowless⟩ := sound.revoked token before
      exact ⟨effect.keyless (.inl before) keyless, effect.rowless ⟨token, rfl, .inl before⟩ rowless⟩
    · exact gone

end ErpFinance.Iam
