import ErpFinance.Auth.Casbin
import ErpFinance.Domain.Basics
import ErpFinance.Library.Sha256

/-!
# Sessions and their stores

A session is kept under its token in the session store, in an index of its
user's tokens there, and as a row of the database; roles are rows of the
database.  Each operation below is one atomic step on one of the stores, as it
succeeds.  Times are nanoseconds.
-/

namespace ErpFinance.Iam

open Auth Domain Library

structure Session where
  token : String
  userID : Uuid
  serviceAccountID : Uuid
  tenantID : Uuid
  roles : List String
  expiresAt : Nat
  issuedAt : Nat
  deviceID : String := ""
  ipAddress : String := ""
deriving DecidableEq

namespace Session

def isExpired (session : Session) (now : Nat) : Bool := session.expiresAt < now

/-- Whether any time is left for the key in the session store. -/
def hasTTL (session : Session) (now : Nat) : Bool := now < session.expiresAt

def indexed (session : Session) : Bool := session.serviceAccountID = Uuid.Nil

end Session

structure DefaultViewer extends ViewerContext where
  tenantID : Uuid
  userID : Uuid
  serviceAccountID : Uuid

/-- `NewViewer`. -/
def Session.toViewer (session : Session) : DefaultViewer where
  roles := session.roles
  tenantID := session.tenantID
  userID := session.userID
  serviceAccountID := session.serviceAccountID

def tokenHash (token : String) : Bytes := sha256Hex token.toUTF8.data.toList

/-- A row of `iam_sessions`. -/
structure SessionRow where
  tokenHash : Bytes
  userID : Uuid
  serviceAccountID : Uuid
  tenantID : Uuid
  issuedAt : Nat
  expiresAt : Nat
  revokedAt : Option Nat := none
  deviceID : String := ""
  ipAddress : String := ""
deriving DecidableEq

structure Store where
  /-- `session:{token}`. -/
  sessions : String → Option Session := fun _ => none
  /-- `user_sessions:{tenantID}:{userID}`: tokens scored by their expiry. -/
  index : Uuid → Uuid → List (String × Nat) := fun _ _ => []
  rows : List SessionRow := []
  roles : Uuid → Uuid → List String := fun _ _ => []

namespace Store

variable (s : Store)

/-! ## The session store -/

def set (session : Session) : Store :=
  { s with sessions := fun token =>
      if token = session.token then some session else s.sessions token }

def del (tokens : List String) : Store :=
  { s with sessions := fun token => if token ∈ tokens then none else s.sessions token }

def setIndex (tenantID userID : Uuid) (entries : List (String × Nat)) : Store :=
  { s with index := fun tenant user =>
      if tenant = tenantID ∧ user = userID then entries else s.index tenant user }

/-- The score of a session in its user's index. -/
def score (session : Session) : Nat := session.expiresAt / 10 ^ 9

def zAdd (session : Session) : Store :=
  s.setIndex session.tenantID session.userID
    ((session.token, score session) ::
      (s.index session.tenantID session.userID).filter (·.1 ≠ session.token))

def zRem (session : Session) : Store :=
  s.setIndex session.tenantID session.userID
    ((s.index session.tenantID session.userID).filter (·.1 ≠ session.token))

/-- `ZREMRANGEBYSCORE` up to the present second. -/
def prune (tenantID userID : Uuid) (now : Nat) : Store :=
  s.setIndex tenantID userID ((s.index tenantID userID).filter (now / 10 ^ 9 < ·.2))

/-- `ZRANGE` of the whole index. -/
def zRange (tenantID userID : Uuid) : List String := (s.index tenantID userID).map Prod.fst

/-- `DEL` of session keys together with the index. -/
def delAll (tenantID userID : Uuid) (tokens : List String) : Store :=
  (s.del tokens).setIndex tenantID userID []

/-! ## The database -/

/-- `sqlLoadSessionByHash` in a transaction of a tenant. -/
def loadRow (tenantID : Uuid) (hash : Bytes) (now : Nat) : Option SessionRow :=
  s.rows.find? fun row =>
    row.tenantID = tenantID ∧ row.tokenHash = hash ∧ row.revokedAt = none ∧ now < row.expiresAt

/-- `INSERT` of a session row; hashes are unique. -/
def insertRow (row : SessionRow) : Option Store :=
  if s.rows.any (·.tokenHash = row.tokenHash) then none
  else some { s with rows := row :: s.rows }

/-- Mark a row revoked when a tenant's transaction sees it. -/
def revokeRow (tenantID : Uuid) (hashes : List Bytes) (now : Nat) (row : SessionRow) :
    SessionRow :=
  if row.tenantID = tenantID ∧ row.tokenHash ∈ hashes ∧ row.revokedAt = none then
    { row with revokedAt := some now }
  else row

/-- `BulkUpdate` of `revoked_at` in a transaction of a tenant. -/
def revokeRows (tenantID : Uuid) (hashes : List Bytes) (now : Nat) : Store :=
  { s with rows := s.rows.map (revokeRow tenantID hashes now) }

def setRoles (tenantID userID : Uuid) (change : List String → List String) : Store :=
  { s with roles := fun tenant user =>
      if tenant = tenantID ∧ user = userID then change (s.roles tenant user)
      else s.roles tenant user }

end Store

/-- The row `auditLogin` writes; its tenant is the one of the context. -/
def Session.row (session : Session) (contextTenant : Uuid) : SessionRow where
  tokenHash := tokenHash session.token
  userID := session.userID
  serviceAccountID := session.serviceAccountID
  tenantID := contextTenant
  issuedAt := session.issuedAt
  expiresAt := session.expiresAt
  deviceID := session.deviceID
  ipAddress := session.ipAddress

def SessionRow.session (row : SessionRow) (token : String) (roles : List String) : Session where
  token := token
  userID := row.userID
  serviceAccountID := row.serviceAccountID
  tenantID := row.tenantID
  roles := roles
  expiresAt := row.expiresAt
  issuedAt := row.issuedAt
  deviceID := row.deviceID
  ipAddress := row.ipAddress

end ErpFinance.Iam
