import ErpFinance.Domain.Basics

/-!
# Resolved sessions

What a validated credential stands for in a request: whose it is, which tenant
it works in and which entities it may see.  Authorization is not part of it: it
is asked of the enforcer under the session's principal.
-/

namespace ErpFinance.Iam

open Domain

/-! ## Actors and principals -/

inductive ActorType
  | platform
  | tenant
  | portal
  | api
deriving DecidableEq

def actorTypeFromUserType (userType : String) : ActorType :=
  if userType = "SYSADMIN" ∨ userType = "PLATFORM" then .platform
  else if userType = "PORTAL" ∨ userType = "CUSTOMER" then .portal
  else if userType = "API" ∨ userType = "SERVICE" then .api
  else .tenant

/-- The subject and the domain under which the enforcer is asked. -/
structure Principal where
  subject : String
  domain : String

inductive EntityScopeType
  | all
  | subtree
  | entity
deriving DecidableEq

/-- `EntityScope`; the entity is absent from a scope over everything. -/
structure EntityScope where
  type : EntityScopeType
  entityID : Option Uuid := none
  pathPrefix : String := ""

structure ResolvedSession where
  userID : Uuid
  userType : String
  tenantID : Uuid
  principalID : Option Uuid := none
  displayName : String
  entityScope : EntityScope

variable (uuidText : Uuid → String)

/-- `ToPrincipal`, over the text of identifiers. -/
def ResolvedSession.toPrincipal (session : ResolvedSession) : Principal :=
  match actorTypeFromUserType session.userType with
  | .platform => ⟨"platform:" ++ uuidText session.userID, "_platform_"⟩
  | .portal => ⟨"portal:" ++ uuidText session.userID, uuidText session.tenantID ++ ":portal"⟩
  | .api => ⟨"api:" ++ uuidText session.userID, uuidText session.tenantID ++ ":api"⟩
  | .tenant => ⟨"tenant:" ++ uuidText session.userID, uuidText session.tenantID⟩

end ErpFinance.Iam
