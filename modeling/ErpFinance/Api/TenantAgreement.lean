import ErpFinance.Iam.Service

/-!
# The tenant of the viewer and the tenant of the context

The tenant of a request is resolved from its header, a query parameter or its
host; the viewer is authenticated from the bearer token.  The parser of
identifiers is a parameter.

The two middlewares take the tenant from different places.  They agree exactly
when the session that a cache holds for the bearer token is one of the tenant
the request names; what a database is asked for is always of that tenant.
-/

namespace ErpFinance.Api

open Domain Iam Library ErpFinance.Runtime

/-- What the middleware reads of a request; an absent header or parameter is empty. -/
structure IncomingRequest where
  tenantHeader : String := ""
  tenantQuery : String := ""
  hostname : String := ""
  authorization : String := ""

structure TenantContext where
  tenantID : Uuid
  tenantSlug : String
  locale : String
  timezone : String
  currency : String

/-! ## The tenant -/

def platformSubdomains : List String := ["bo", "portal", "app", "api", "www"]

def stripPort (host : List Char) : List Char :=
  match host.reverse.dropWhile (· ≠ ':') with
  | _ :: before => if before.isEmpty then host else before.reverse
  | [] => host

section Tenant

variable (parse : String → Option Uuid)

def tenantIDFromSubdomain (host : String) : Uuid :=
  let host := stripPort host.toList
  if '.' ∉ host then Uuid.Nil
  else
    let sub := String.ofList (host.takeWhile (· ≠ '.'))
    if sub ∈ platformSubdomains then Uuid.Nil else (parse sub).getD Uuid.Nil

/-- `resolveTenantID`; none for an identifier that does not parse. -/
def resolveTenantID (q : IncomingRequest) : Option Uuid :=
  if q.tenantHeader ≠ "" then parse q.tenantHeader
  else if q.tenantQuery ≠ "" then parse q.tenantQuery
  else some (tenantIDFromSubdomain parse q.hostname)

/-- What the status of a tenant's record makes of its requests. -/
def checkStatus (status : String) : Except Error Unit :=
  if status = "ACTIVE" then .ok ()
  else if status = "PENDING" then
    .error (.business "tenant.pending"
      "Tenant account is being activated — retry in 60 seconds" 503)
  else if status = "SUSPENDED" then
    .error (.business "tenant.suspended" "Tenant account is suspended" 402)
  else if status = "ARCHIVED" then
    .error (.business "tenant.archived" "Tenant account has been closed" 410)
  else .error (.business "tenant.unavailable" "Tenant is not available" 503)

def tenantNotFound : Error := .business "tenant.not_found" "Tenant not found" 404

/-- `TenantResolver`; the first of the records with the identifier is taken. -/
def tenantResolver (q : IncomingRequest) : Auth TenantContext :=
  match resolveTenantID parse q with
  | none => Stateful.fail tenantNotFound
  | some tenantID =>
    if tenantID = Uuid.Nil then Stateful.fail tenantNotFound
    else do
      let results ← outcome (attempt Faults.tenants fun w =>
        (w.tenants.filter (·.id = tenantID), w))
      match results with
      | .ok (t :: _) =>
        Stateful.lift (checkStatus t.status)
        pure
          { tenantID := t.id
            tenantSlug := t.slug
            locale := t.locale
            timezone := t.timezone
            currency := t.currency }
      | _ => Stateful.fail tenantNotFound

/-! ## The viewer -/

def extractBearerToken (q : IncomingRequest) : String :=
  if hasPrefix q.authorization "Bearer " then
    trimSpace (trimPrefix q.authorization "Bearer ")
  else ""

/-- `tryAPIToken`: the tenant is read from the header once more. -/
def tryAPIToken (q : IncomingRequest) (rawToken : String) : Auth Session :=
  match parse q.tenantHeader with
  | none =>
    Stateful.fail (.business "iam.session.not_found"
      "Invalid or expired authentication token." 401)
  | some tenantID =>
    if tenantID = Uuid.Nil then
      Stateful.fail (.business "iam.session.not_found"
        "Invalid or expired authentication token." 401)
    else validateAPIToken rawToken tenantID

def requireAuth (q : IncomingRequest) (tc : TenantContext) : Auth DefaultViewer := do
  let token := extractBearerToken q
  if token = "" then
    Stateful.fail (.business "iam.missing_token" "Authentication token is required." 401)
  else
    let session ←
      match ← outcome (validateToken tc.tenantID token) with
      | .ok session => pure session
      | .error error =>
        if error.isUnauthorized then tryAPIToken parse q token else Stateful.fail error
    pure session.toViewer

/-- The chain in front of every entity route. -/
def authenticate (q : IncomingRequest) : Auth (TenantContext × DefaultViewer) := do
  let tc ← tenantResolver parse q
  let viewer ← requireAuth parse q tc
  pure (tc, viewer)

end Tenant

section Agreement

variable {parse : String → Option Uuid} {q : IncomingRequest} {w after : World}
  {tc : TenantContext} {viewer : DefaultViewer}

theorem tenantResolver_eq_ok (resolves : tenantResolver parse q w = (.ok tc, after)) :
    after = w ∧ resolveTenantID parse q = some tc.tenantID := by
  rw [tenantResolver] at resolves
  cases named : resolveTenantID parse q with
  | none =>
    rw [named] at resolves
    cases resolves
  | some tenantID =>
    rw [named] at resolves
    dsimp only at resolves
    by_cases empty : tenantID = Uuid.Nil
    · rw [if_pos empty] at resolves
      cases resolves
    · rw [if_neg empty] at resolves
      obtain ⟨results, middle, reads, rest⟩ := Stateful.bind_eq_ok_iff.mp resolves
      rw [outcome_eq_ok_iff] at reads
      rcases results with error | _ | ⟨t, others⟩
      · cases rest
      · cases rest
      · obtain ⟨-, rows⟩ := attempt_eq_ok_iff.mp reads
        obtain ⟨⟨⟩, last, checks, ends⟩ := Stateful.bind_eq_ok_iff.mp rest
        simp only [Stateful.lift_apply, Prod.mk.injEq] at checks rows
        obtain ⟨-, rfl⟩ := checks
        obtain ⟨found, rfl⟩ := rows
        cases ends
        have member : t ∈ w.tenants.filter (·.id = tenantID) := by
          rw [found]
          exact List.mem_cons_self
        refine ⟨rfl, ?_⟩
        rw [← of_decide_eq_true (List.mem_filter.mp member).2]

/-- The session a cache holds for a token: the live one under it; else, where no row of the
tenant brings it back, the one cached for its hash. -/
def cachedSession (w : World) (tenantID : Uuid) (token : String) : Option Session :=
  if w.store.sessions token = none ∧ (w.recoverable tenantID token).isSome then none
  else (w.live token).or (w.apiCache (tokenHash token))

/-- The header is where the tenant of an API token comes from, and it names the tenant. -/
theorem tenantHeader_of_parse {tenantID named : Uuid} (unnamed : parse "" = none)
    (header : parse q.tenantHeader = some tenantID)
    (resolved : resolveTenantID parse q = some named) : tenantID = named := by
  have present : q.tenantHeader ≠ "" := by
    intro empty
    rw [empty, unnamed] at header
    cases header
  rw [resolveTenantID, if_pos present, header] at resolved
  exact Option.some.inj resolved

theorem requireAuth_session (unnamed : parse "" = none)
    (named : resolveTenantID parse q = some tc.tenantID)
    (authenticated : requireAuth parse q tc w = (.ok viewer, after)) :
    (∃ session, cachedSession w tc.tenantID (extractBearerToken q) = some session ∧
        viewer.tenantID = session.tenantID) ∨
      (cachedSession w tc.tenantID (extractBearerToken q) = none ∧
        viewer.tenantID = tc.tenantID) := by
  rw [requireAuth] at authenticated
  dsimp only at authenticated
  split_ifs at authenticated
  · cases authenticated
  obtain ⟨result, next, validates, rest⟩ := Stateful.bind_eq_ok_iff.mp authenticated
  rw [outcome_eq_ok_iff] at validates
  rcases result with error | session
  · dsimp only at rest
    split_ifs at rest with unauthorized
    · -- the token is tried as an API token, of the tenant in the header
      obtain ⟨session, last, tries, ends⟩ := Stateful.bind_eq_ok_iff.mp rest
      cases ends
      obtain ⟨rfl, dead, lost⟩ := validateToken_eq_error validates unauthorized
      have falls : cachedSession next tc.tenantID (extractBearerToken q) =
          next.apiCache (tokenHash (extractBearerToken q)) := by
        rw [cachedSession, if_neg ?_, dead, Option.none_or]
        rintro ⟨absent, found⟩
        rw [lost absent] at found
        cases found
      rw [tryAPIToken] at tries
      cases header : parse q.tenantHeader with
      | none =>
        rw [header] at tries
        cases tries
      | some tenantID =>
        rw [header] at tries
        dsimp only at tries
        split_ifs at tries
        · cases tries
        · rcases validateAPIToken_eq_ok tries with cached | ⟨missed, same⟩
          · exact .inl ⟨session, falls.trans cached, rfl⟩
          · refine .inr ⟨falls.trans missed, same.trans ?_⟩
            exact tenantHeader_of_parse unnamed header named
    · cases rest
  · cases rest
    rcases validateToken_eq_ok validates with live | ⟨absent, found, same⟩
    · refine .inl ⟨session, ?_, rfl⟩
      rw [cachedSession, if_neg ?_, live, Option.some_or]
      rintro ⟨absent, -⟩
      rw [World.live, absent] at live
      cases live
    · exact .inr ⟨if_pos ⟨absent, found⟩, same⟩

/-- The viewer is of the context's tenant exactly when no cache holds a session of another tenant
for the bearer token. -/
theorem authenticate_tenantID_iff (unnamed : parse "" = none)
    (authenticated : authenticate parse q w = (.ok (tc, viewer), after)) :
    viewer.tenantID = tc.tenantID ↔
      ∀ session, cachedSession w tc.tenantID (extractBearerToken q) = some session →
        session.tenantID = tc.tenantID := by
  obtain ⟨context, middle, resolves, rest⟩ := Stateful.bind_eq_ok_iff.mp authenticated
  obtain ⟨other, last, requires, ends⟩ := Stateful.bind_eq_ok_iff.mp rest
  cases ends
  obtain ⟨rfl, named⟩ := tenantResolver_eq_ok resolves
  rcases requireAuth_session unnamed named requires with ⟨session, cached, same⟩ | ⟨absent, same⟩
  · rw [same, cached]
    simp
  · rw [absent]
    simp [same]

end Agreement

section Sample

/-- The identifiers of two tenants, read from their canonical texts. -/
def parseTwo (text : String) : Option Uuid :=
  if text = Uuid.string 1 then some 1 else if text = Uuid.string 2 then some 2 else none

def twoTenants : World where
  tenants := [{ id := 1, status := "ACTIVE" }, { id := 2, status := "ACTIVE" }]

def loggedIn : World := (login 1 1 7 "secret" twoTenants).2

def withHeader (tenantID : Uuid) : IncomingRequest where
  tenantHeader := Uuid.string tenantID
  authorization := "Bearer secret"

def firstTenant : TenantContext := ⟨1, "", "", "", ""⟩

def viewerOfFirst : DefaultViewer where
  roles := []
  tenantID := 1
  userID := 7
  serviceAccountID := Uuid.Nil

theorem authenticate_in_own_tenant :
    viewerOfFirst.tenantID = firstTenant.tenantID ↔
      ∀ session, cachedSession loggedIn firstTenant.tenantID
        (extractBearerToken (withHeader 1)) = some session →
          session.tenantID = firstTenant.tenantID := by
  have unnamed : parseTwo "" = none := by decide
  have authenticated : authenticate parseTwo (withHeader 1) loggedIn =
      (.ok (firstTenant, viewerOfFirst), (authenticate parseTwo (withHeader 1) loggedIn).2) :=
    Prod.ext rfl rfl
  exact authenticate_tenantID_iff unnamed authenticated

/-- The session of tenant 1 passes in the context of tenant 2. -/
theorem authenticate_in_another_tenant :
    (authenticate parseTwo (withHeader 2) loggedIn).1.toOption.map
      (fun passed => (passed.1.tenantID, passed.2.tenantID)) = some (2, 1) := by
  decide +kernel

end Sample

end ErpFinance.Api
