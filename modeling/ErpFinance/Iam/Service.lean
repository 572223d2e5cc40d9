import ErpFinance.Iam.Session
import ErpFinance.Library.Stateful
import ErpFinance.Runtime.Errors

/-!
# The authentication service

`AuthService` as one caller runs it: login, and the validation of session tokens
and of API tokens with their caches.  Every operation on a store may fail; what
the source does best-effort goes on after a failure.
-/

namespace ErpFinance.Iam

open Domain Library ErpFinance.Runtime

/-- A row of `iam_api_tokens`. -/
structure APITokenRow where
  tokenHash : Bytes
  serviceAccountID : Uuid
  tenantID : Uuid
  expiresAt : Option Nat
  isRevoked : Bool := false

/-- A row of `iam_service_accounts`. -/
structure ServiceAccountRow where
  id : Uuid
  tenantID : Uuid
  status : String

/-- A row of `platform_tenant`, as far as the middleware reads it. -/
structure TenantRow where
  id : Uuid
  slug : String := ""
  status : String
  locale : String := ""
  timezone : String := ""
  currency : String := ""

/-- Which operations on the stores fail while one request is served. -/
structure Faults where
  tenants : Bool := false
  load : Bool := false
  recover : Bool := false
  roles : Bool := false
  set : Bool := false
  zAdd : Bool := false
  cacheGet : Bool := false
  lookup : Bool := false
  cacheSet : Bool := false

structure World where
  store : Store := {}
  /-- The entries `iam:api_token:{hash}` of the cache. -/
  apiCache : Bytes → Option Session := fun _ => none
  apiTokens : List APITokenRow := []
  serviceAccounts : List ServiceAccountRow := []
  tenants : List TenantRow := []
  now : Nat := 0
  faults : Faults := {}

/-- A program over the stores. -/
abbrev Auth := Stateful World Error

def attempt {α : Type} (fails : Faults → Bool) (operation : World → α × World) : Auth α :=
  fun w => if fails w.faults then (.error (.other "store unavailable"), w)
    else (.ok (operation w).1, (operation w).2)

def outcome {α : Type} (program : Auth α) : Auth (Except Error α) :=
  fun w => (.ok (program w).1, (program w).2)

section Outcomes

variable {α : Type} {fails : Faults → Bool} {operation : World → α × World} {program : Auth α}
  {w after : World} {value : α}

theorem attempt_eq_ok_iff :
    attempt fails operation w = (.ok value, after) ↔
      fails w.faults = false ∧ operation w = (value, after) := by
  unfold attempt
  cases fails w.faults <;> simp [Prod.ext_iff]

theorem outcome_eq_ok_iff {result : Except Error α} :
    outcome program w = (.ok result, after) ↔ program w = (result, after) := by
  simp [outcome, Prod.ext_iff]

end Outcomes

def World.setSession (w : World) (session : Session) : World :=
  { w with store := w.store.set session }

def World.addToIndex (w : World) (session : Session) : World :=
  { w with store := w.store.zAdd session }

def World.cacheToken (w : World) (hash : Bytes) (entry : Option Session) : World :=
  { w with apiCache := fun key => if key = hash then entry else w.apiCache key }

/-! ## Sessions -/

/-- `Store`; the index is written best-effort. -/
def storeSession (session : Session) : Auth Unit := do
  let w ← Stateful.get
  if session.hasTTL w.now then
    attempt Faults.set fun w => ((), w.setSession session)
    if session.indexed then
      let _ ← outcome (attempt Faults.zAdd fun w => ((), w.addToIndex session))
      pure ()
  else Stateful.fail (.other "session store: session already expired")

/-- `loadUserRoles`: the transaction of one tenant sees no roles of another. -/
def loadUserRoles (contextTenant tenantID userID : Uuid) : Auth (List String) :=
  attempt Faults.roles fun w =>
    (if contextTenant = tenantID then w.store.roles tenantID userID else [], w)

/-- The roles of a recovered session: none when they cannot be reloaded. -/
def reloadRoles (contextTenant : Uuid) (row : SessionRow) : Auth (List String) :=
  if row.userID ≠ Uuid.Nil then do
    let roles ← outcome (loadUserRoles contextTenant row.tenantID row.userID)
    pure (roles.toOption.getD [])
  else pure ["role:api-client"]

def recoverSessionFromDB (contextTenant : Uuid) (token : String) : Auth Session := do
  let row ← attempt Faults.recover fun w =>
    (w.store.loadRow contextTenant (tokenHash token) w.now, w)
  match row with
  | none => Stateful.fail (.other "iam: session recovery: not found in db")
  | some row =>
    let roles ← reloadRoles contextTenant row
    let session := row.session token roles
    let _ ← outcome (storeSession session)
    pure session

def checkExpiry (session : Session) : Auth Session := do
  let w ← Stateful.get
  if session.isExpired w.now then
    Stateful.fail (.business "iam.session.expired" "Session has expired." 401)
  else pure session

def validateToken (contextTenant : Uuid) (token : String) : Auth Session := do
  match ← outcome (attempt Faults.load fun w => (w.store.sessions token, w)) with
  | .error _ =>
    Stateful.fail (.business "iam.service_unavailable"
      "Authentication service temporarily unavailable." 503)
  | .ok (some session) => checkExpiry session
  | .ok none =>
    match ← outcome (recoverSessionFromDB contextTenant token) with
    | .error _ =>
      Stateful.fail (.business "iam.session.not_found" "Session not found or expired." 401)
    | .ok session => checkExpiry session

/-! ## API tokens -/

/-- `sqlLookupAPIToken` in a transaction of a tenant. -/
def World.loadAPIToken (w : World) (tenantID : Uuid) (hash : Bytes) :
    Option (APITokenRow × ServiceAccountRow) := do
  let token ← w.apiTokens.find? fun row => row.tenantID = tenantID ∧ row.tokenHash = hash
  let account ← w.serviceAccounts.find? fun row =>
    row.tenantID = tenantID ∧ row.id = token.serviceAccountID
  pure (token, account)

/-- 365 days. -/
def farFuture : Nat := 365 * 24 * 3600 * 10 ^ 9

def lookupAPIToken (hash : Bytes) (tenantID : Uuid) : Auth Session := do
  let found ← attempt Faults.lookup fun w => (w.loadAPIToken tenantID hash, w)
  let w ← Stateful.get
  match found with
  | none => Stateful.fail (.business "iam.api_token.not_found" "Invalid API token." 401)
  | some (row, account) =>
    if row.isRevoked then
      Stateful.fail (.business "iam.api_token.revoked" "API token has been revoked." 401)
    else if row.expiresAt.any (· < w.now) then
      Stateful.fail (.business "iam.api_token.expired" "API token has expired." 401)
    else if account.status ≠ "active" then
      Stateful.fail (.business ("iam.service_account." ++ account.status)
        ("Service account is " ++ account.status ++ ".") 403)
    else
      pure
        { token := ""
          userID := Uuid.Nil
          serviceAccountID := row.serviceAccountID
          tenantID := tenantID
          roles := ["role:api-client"]
          expiresAt := row.expiresAt.getD (w.now + farFuture)
          issuedAt := w.now }

/-- `ValidateAPIToken`; the key of the cache is the token's hash, whatever the tenant. -/
def validateAPIToken (rawToken : String) (tenantID : Uuid) : Auth Session := do
  let hash := tokenHash rawToken
  match ← outcome (attempt Faults.cacheGet fun w => (w.apiCache hash, w)) with
  | .error _ =>
    Stateful.fail (.business "iam.service_unavailable"
      "Authentication service temporarily unavailable." 503)
  | .ok (some cached) =>
    let w ← Stateful.get
    if cached.isExpired w.now then
      let _ ← outcome (attempt Faults.cacheSet fun w => ((), w.cacheToken hash none))
      Stateful.fail (.business "iam.api_token.expired" "API token has expired." 401)
    else pure cached
  | .ok none =>
    let session ← lookupAPIToken hash tenantID
    let w ← Stateful.get
    if session.hasTTL w.now then
      let _ ← outcome (attempt Faults.cacheSet fun w => ((), w.cacheToken hash (some session)))
      pure session
    else pure session

/-- 24 hours. -/
def humanSessionTTL : Nat := 24 * 3600 * 10 ^ 9

/-- `Login` from the point where the credentials of a user are verified; `token` is the
generated one. -/
def login (contextTenant tenantID userID : Uuid) (token : String) : Auth Session := do
  let roles ← loadUserRoles contextTenant tenantID userID
  let w ← Stateful.get
  let session : Session :=
    { token := token
      userID := userID
      serviceAccountID := Uuid.Nil
      tenantID := tenantID
      roles := roles
      expiresAt := w.now + humanSessionTTL
      issuedAt := w.now }
  storeSession session
  Stateful.modify fun w =>
    { w with store := (w.store.insertRow (session.row contextTenant)).getD w.store }
  pure session

/-! ## What validation returns -/

/-- Everything but the session store is as it was. -/
structure World.Same (w other : World) : Prop where
  now : other.now = w.now
  faults : other.faults = w.faults
  apiCache : other.apiCache = w.apiCache
  apiTokens : other.apiTokens = w.apiTokens
  serviceAccounts : other.serviceAccounts = w.serviceAccounts

instance : Std.Refl World.Same := ⟨fun _ => ⟨rfl, rfl, rfl, rfl, rfl⟩⟩

instance : IsTrans World World.Same where
  trans _ _ _ first second :=
    ⟨second.now.trans first.now, second.faults.trans first.faults,
      second.apiCache.trans first.apiCache, second.apiTokens.trans first.apiTokens,
      second.serviceAccounts.trans first.serviceAccounts⟩

def World.recoverable (w : World) (tenantID : Uuid) (token : String) : Option SessionRow :=
  if w.faults.recover then none else w.store.loadRow tenantID (tokenHash token) w.now

section
variable {along : World → World → Prop} {α : Type}

theorem attempt_moves [Std.Refl along] {fails : Faults → Bool}
    {operation : World → α × World} (moves : ∀ w, along w (operation w).2) :
    Stateful.Moves along (attempt fails operation) := by
  intro w
  unfold attempt
  split
  · exact Std.Refl.refl w
  · exact moves w

theorem outcome_moves {program : Auth α} (moves : Stateful.Moves along program) :
    Stateful.Moves along (outcome program) := moves

/-- Storing a session touches nothing but the session store. -/
theorem storeSession_same (session : Session) :
    Stateful.Moves World.Same (storeSession session) := by
  refine Stateful.Moves.get.bind fun w => Stateful.Moves.ite ?_ (.fail _)
  refine (attempt_moves fun w => ?_).bind fun _ => Stateful.Moves.ite ?_ (.pure _)
  · exact ⟨rfl, rfl, rfl, rfl, rfl⟩
  · refine (outcome_moves (attempt_moves fun w => ?_)).bind fun _ => .pure _
    exact ⟨rfl, rfl, rfl, rfl, rfl⟩

variable {w after : World} {session : Session} {tenantID : Uuid} {token : String}

theorem loadUserRoles_apply (contextTenant tenantID userID : Uuid) (w : World) :
    ∃ result, loadUserRoles contextTenant tenantID userID w = (result, w) := by
  unfold loadUserRoles attempt
  split
  · exact ⟨_, rfl⟩
  · exact ⟨_, rfl⟩

theorem reloadRoles_apply (contextTenant : Uuid) (row : SessionRow) (w : World) :
    ∃ roles, reloadRoles contextTenant row w = (.ok roles, w) := by
  unfold reloadRoles
  split
  · obtain ⟨result, runs⟩ := loadUserRoles_apply contextTenant row.tenantID row.userID w
    exact ⟨_, Stateful.bind_ok (outcome_eq_ok_iff.mpr runs)⟩
  · exact ⟨_, rfl⟩

/-- A row that is found makes a session, whatever becomes of the writes. -/
theorem recoverSessionFromDB_apply (tenantID : Uuid) (token : String) (w : World) :
    match w.recoverable tenantID token with
    | none => ∃ error, recoverSessionFromDB tenantID token w = (.error error, w)
    | some row => ∃ roles after, recoverSessionFromDB tenantID token w =
        (.ok (row.session token roles), after) ∧ w.Same after := by
  unfold World.recoverable recoverSessionFromDB
  cases fault : w.faults.recover with
  | true =>
    rw [if_pos rfl]
    exact ⟨_, Stateful.bind_error (if_pos fault)⟩
  | false =>
    have reads : attempt Faults.recover (fun w =>
        (w.store.loadRow tenantID (tokenHash token) w.now, w)) w =
          (.ok (w.store.loadRow tenantID (tokenHash token) w.now), w) :=
      attempt_eq_ok_iff.mpr ⟨fault, rfl⟩
    rw [if_neg Bool.false_ne_true, Stateful.bind_ok reads]
    cases w.store.loadRow tenantID (tokenHash token) w.now with
    | none => exact ⟨_, rfl⟩
    | some row =>
      obtain ⟨roles, loads⟩ := reloadRoles_apply tenantID row w
      refine ⟨roles, (storeSession (row.session token roles) w).2, ?_, storeSession_same _ w⟩
      exact (Stateful.bind_ok loads).trans (Stateful.bind_ok (outcome_eq_ok_iff.mpr rfl))

/-- The session that `ValidateToken` finds under a token in a world, if any. -/
def World.live (w : World) (token : String) : Option Session :=
  (w.store.sessions token).filter (fun session => !session.isExpired w.now)

theorem checkExpiry_apply (session : Session) (w : World) :
    checkExpiry session w =
      (if session.isExpired w.now then
        .error (.business "iam.session.expired" "Session has expired." 401)
      else .ok session, w) := by
  unfold checkExpiry
  rw [Stateful.bind_ok (Stateful.get_apply w)]
  split <;> rfl


theorem World.recoverable_tenantID {row : SessionRow}
    (found : w.recoverable tenantID token = some row) :
    row.tenantID = tenantID ∧ w.now < row.expiresAt := by
  unfold World.recoverable at found
  split at found
  · cases found
  · have met := List.find?_some found
    simp only [decide_eq_true_eq] at met
    exact ⟨met.1, met.2.2.2⟩

theorem validateToken_eq_ok (valid : validateToken tenantID token w = (.ok session, after)) :
    w.live token = some session ∨
      (w.store.sessions token = none ∧ (w.recoverable tenantID token).isSome ∧
        session.tenantID = tenantID) := by
  obtain ⟨result, next, loads, rest⟩ := Stateful.bind_eq_ok_iff.mp valid
  rw [outcome_eq_ok_iff] at loads
  rcases result with error | none | stored
  · cases rest
  · obtain ⟨-, loaded⟩ := attempt_eq_ok_iff.mp loads
    simp only [Prod.mk.injEq] at loaded
    obtain ⟨absent, rfl⟩ := loaded
    obtain ⟨recovered, last, recovers, checks⟩ := Stateful.bind_eq_ok_iff.mp rest
    rw [outcome_eq_ok_iff] at recovers
    have spec := recoverSessionFromDB_apply tenantID token w
    cases found : w.recoverable tenantID token with
    | none => 
      rw [found] at spec
      obtain ⟨error, fails⟩ := spec
      rw [fails] at recovers
      cases recovers
      cases checks
    | some row =>
      rw [found] at spec
      obtain ⟨roles, next, finds, same⟩ := spec
      rw [finds] at recovers
      cases recovers
      dsimp only at checks
      rw [checkExpiry_apply] at checks
      split at checks
      · cases checks
      · cases checks
        exact .inr ⟨absent, rfl, (World.recoverable_tenantID found).1⟩
  · obtain ⟨-, loaded⟩ := attempt_eq_ok_iff.mp loads
    simp only [Prod.mk.injEq] at loaded
    obtain ⟨stored', rfl⟩ := loaded
    dsimp only at rest
    rw [checkExpiry_apply] at rest
    split at rest
    · cases rest
    · rename_i fresh
      cases rest
      refine .inl ?_
      rw [World.live, stored']
      simp [fresh]

theorem validateToken_eq_error {error : Error}
    (invalid : validateToken tenantID token w = (.error error, after))
    (unauthorized : error.isUnauthorized = true) :
    after = w ∧ w.live token = none ∧
      (w.store.sessions token = none → w.recoverable tenantID token = none) := by
  rcases Stateful.bind_eq_error_iff.mp invalid with failed | ⟨result, next, loads, rest⟩
  · cases failed
  rw [outcome_eq_ok_iff] at loads
  rcases result with failure | none | stored
  · cases rest
    cases unauthorized
  · obtain ⟨-, loaded⟩ := attempt_eq_ok_iff.mp loads
    simp only [Prod.mk.injEq] at loaded
    obtain ⟨absent, rfl⟩ := loaded
    have spec := recoverSessionFromDB_apply tenantID token w
    rcases Stateful.bind_eq_error_iff.mp rest with failed | ⟨recovered, last, recovers, checks⟩
    · cases failed
    rw [outcome_eq_ok_iff] at recovers
    cases found : w.recoverable tenantID token with
    | none =>
      rw [found] at spec
      obtain ⟨reason, fails⟩ := spec
      rw [fails] at recovers
      cases recovers
      cases checks
      exact ⟨rfl, by simp [World.live, absent], fun _ => rfl⟩
    | some row =>
      -- a recovered session has time left
      rw [found] at spec
      obtain ⟨roles, ends, finds, same⟩ := spec
      rw [finds] at recovers
      cases recovers
      dsimp only at checks
      have alive := (World.recoverable_tenantID found).2
      rw [checkExpiry_apply, if_neg ?_] at checks
      · cases checks
      · simpa [Session.isExpired, SessionRow.session, same.now] using alive.le
  · obtain ⟨-, loaded⟩ := attempt_eq_ok_iff.mp loads
    simp only [Prod.mk.injEq] at loaded
    obtain ⟨present, rfl⟩ := loaded
    dsimp only at rest
    rw [checkExpiry_apply] at rest
    split at rest
    · rename_i expired
      cases rest
      refine ⟨rfl, by simp [World.live, present, expired], fun absent => ?_⟩
      rw [present] at absent
      cases absent
    · cases rest

theorem lookupAPIToken_tenantID {hash : Bytes}
    (found : lookupAPIToken hash tenantID w = (.ok session, after)) :
    session.tenantID = tenantID := by
  obtain ⟨entry, next, -, rest⟩ := Stateful.bind_eq_ok_iff.mp found
  obtain ⟨now, last, -, checks⟩ := Stateful.bind_eq_ok_iff.mp rest
  rcases entry with _ | ⟨row, account⟩
  · cases checks
  · dsimp only at checks
    split at checks
    · cases checks
    split at checks
    · cases checks
    split at checks
    · cases checks
    · cases checks
      rfl

theorem validateAPIToken_eq_ok
    (valid : validateAPIToken token tenantID w = (.ok session, after)) :
    w.apiCache (tokenHash token) = some session ∨
      (w.apiCache (tokenHash token) = none ∧ session.tenantID = tenantID) := by
  obtain ⟨result, next, loads, rest⟩ := Stateful.bind_eq_ok_iff.mp valid
  rw [outcome_eq_ok_iff] at loads
  rcases result with error | none | cached
  · cases rest
  · obtain ⟨-, missed⟩ := attempt_eq_ok_iff.mp loads
    simp only [Prod.mk.injEq] at missed
    obtain ⟨found, middle, finds, caches⟩ := Stateful.bind_eq_ok_iff.mp rest
    obtain ⟨now, last, -, writes⟩ := Stateful.bind_eq_ok_iff.mp caches
    refine .inr ⟨missed.1, ?_⟩
    have same : found = session := by
      split at writes
      · obtain ⟨_, _, -, ends⟩ := Stateful.bind_eq_ok_iff.mp writes
        cases ends
        rfl
      · cases writes
        rfl
    rw [← same]
    exact lookupAPIToken_tenantID finds
  · obtain ⟨-, hit⟩ := attempt_eq_ok_iff.mp loads
    simp only [Prod.mk.injEq] at hit
    obtain ⟨now, last, -, checks⟩ := Stateful.bind_eq_ok_iff.mp rest
    split at checks
    · obtain ⟨_, _, -, ends⟩ := Stateful.bind_eq_ok_iff.mp checks
      cases ends
    · cases checks
      exact .inl hit.1

end

end ErpFinance.Iam
