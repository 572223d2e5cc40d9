import ErpFinance.Compiler.Schema

/-!
# Authorization

The policy evaluator: capability grants bind permissions to entities and
operations, role bindings give permissions to roles, and a viewer may do what
one of its roles may.  Casbin itself is a parameter that implements the model
text it is built from.
-/

namespace ErpFinance.Auth

open Compiler

structure RolePermission where
  role : String
  permission : String
deriving DecidableEq

structure ViewerContext where
  roles : List String

def ViewerContext.isPlatformAdmin (viewer : ViewerContext) : Bool :=
  "role:platform-admin" ∈ viewer.roles

/-- An enforcer built of grants and role bindings: may a role act on an object? -/
abbrev Enforcer := List CapabilityGrant → List RolePermission → String → String → String → Bool

/-- A policy evaluator answers for a viewer, an object and an action. -/
abbrev PolicyEvaluator := ViewerContext → String → String → Bool

/-- One link of the role definition `g = _, _`. -/
def Bound (rolePerms : List RolePermission) (role permission : String) : Prop :=
  ⟨role, permission⟩ ∈ rolePerms

/-- The matcher `g(r.sub, p.sub) && r.obj == p.obj && r.act == p.act`; roles inherit along `g`. -/
def Matches (grants : List CapabilityGrant) (rolePerms : List RolePermission)
    (sub obj act : String) : Prop :=
  ∃ grant ∈ grants, Relation.ReflTransGen (Bound rolePerms) sub grant.permission ∧
    grant.entity = obj ∧ grant.action = act

/-- An enforcer allows a request exactly when some policy line matches it. -/
def Implements (casbin : Enforcer) : Prop :=
  ∀ grants rolePerms sub obj act,
    casbin grants rolePerms sub obj act = true ↔ Matches grants rolePerms sub obj act

def canPerform (enforce : String → String → String → Bool) : PolicyEvaluator :=
  fun viewer object action => viewer.roles.any fun role => enforce role object action

/-- No role name is a permission identifier. -/
def RolesApart (grants : List CapabilityGrant) (rolePerms : List RolePermission)
    (viewer : ViewerContext) : Prop :=
  ∀ role ∈ viewer.roles ++ rolePerms.map RolePermission.role,
    role ∉ grants.map CapabilityGrant.permission ++ rolePerms.map RolePermission.permission

section Roles

variable {grants : List CapabilityGrant} {rolePerms : List RolePermission}
  {viewer : ViewerContext} {role permission : String}

theorem RolesApart.inherits_iff (apart : RolesApart grants rolePerms viewer)
    (held : role ∈ viewer.roles) (granted : permission ∈ grants.map CapabilityGrant.permission) :
    Relation.ReflTransGen (Bound rolePerms) role permission ↔ Bound rolePerms role permission := by
  constructor
  · intro chain
    rcases chain.cases_tail with same | ⟨middle, before, last⟩
    · subst same
      exact absurd (List.mem_append_left _ granted) (apart _ (List.mem_append_left _ held))
    · rcases before.cases_tail with same | ⟨earlier, -, link⟩
      · exact same ▸ last
      · -- the middle of a longer chain would be both a role and a permission
        have isRole : middle ∈ rolePerms.map RolePermission.role := List.mem_map_of_mem last
        have isPermission : middle ∈ rolePerms.map RolePermission.permission :=
          List.mem_map_of_mem link
        exact absurd (List.mem_append_right _ isPermission)
          (apart _ (List.mem_append_right _ isRole))
  · exact Relation.ReflTransGen.single

theorem canPerform_iff {casbin : Enforcer} (implements : Implements casbin)
    (apart : RolesApart grants rolePerms viewer) (obj act : String) :
    canPerform (casbin grants rolePerms) viewer obj act = true ↔
      ∃ role ∈ viewer.roles, ∃ permission, ⟨permission, obj, act⟩ ∈ grants ∧
        ⟨role, permission⟩ ∈ rolePerms := by
  rw [canPerform, List.any_eq_true]
  constructor
  · rintro ⟨role, held, allowed⟩
    obtain ⟨grant, member, chain, rfl, rfl⟩ := (implements ..).mp allowed
    exact ⟨role, held, grant.permission, member,
      (apart.inherits_iff held (List.mem_map_of_mem member)).mp chain⟩
  · rintro ⟨role, held, permission, member, bound⟩
    exact ⟨role, held, (implements ..).mpr ⟨_, member, .single bound, rfl, rfl⟩⟩

end Roles

end ErpFinance.Auth
