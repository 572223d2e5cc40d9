import ErpFinance.Auth.Casbin
import ErpFinance.Library.Index

/-!
# The viewer of a page

Whether a viewer has a permission is asked of the policy evaluator, for the
entity and the action of the last grant of that permission.  The evaluator
accepts any permission that is granted there.
-/

namespace ErpFinance.Sdui

open Auth Compiler Library

/-! ## The adapter -/

structure GrantEntry where
  entity : String
  action : String

abbrev GrantIndex := String → Option GrantEntry

/-- `BuildGrantIndex`; a later grant of a permission replaces the earlier one. -/
def buildGrantIndex (grants : List CapabilityGrant) : GrantIndex := fun permission =>
  (index CapabilityGrant.permission grants permission).map fun g => ⟨g.entity, g.action⟩

structure ViewerAdapter where
  inner : ViewerContext
  /-- Nil where everything is permitted. -/
  evaluator : Option PolicyEvaluator
  grants : GrantIndex

def ViewerAdapter.hasPermission (a : ViewerAdapter) (permID : String) : Bool :=
  if a.inner.isPlatformAdmin then true
  else
    match a.evaluator with
    | none => true
    | some evaluator =>
      match a.grants permID with
      | none => false
      | some g => evaluator a.inner g.entity g.action

def newViewerAdapter (casbin : Enforcer) (grants : List CapabilityGrant)
    (rolePerms : List RolePermission) (viewer : ViewerContext) : ViewerAdapter where
  inner := viewer
  evaluator := some (canPerform (casbin grants rolePerms))
  grants := buildGrantIndex grants

/-! ## Inheritance -/

/-- What a role inherits over bindings, as the role manager answers. -/
abbrev RoleManager := List RolePermission → String → String → Prop

/-- The matcher of the model, and that a binding is a link. -/
structure Enforces (casbin : Enforcer) (inherits : RoleManager) : Prop where
  matched : ∀ grants rolePerms sub obj act, casbin grants rolePerms sub obj act = true ↔
    ∃ grant ∈ grants, inherits rolePerms sub grant.permission ∧ grant.entity = obj ∧
      grant.action = act
  bound : ∀ {rolePerms role permission}, Bound rolePerms role permission →
    inherits rolePerms role permission

section Permissions

variable {casbin : Enforcer} {inherits : RoleManager} {grants : List CapabilityGrant}
  {rolePerms : List RolePermission} {viewer : ViewerContext} {permID : String}

def Holds (grants : List CapabilityGrant) (rolePerms : List RolePermission)
    (viewer : ViewerContext) (permID : String) : Prop :=
  (∃ role ∈ viewer.roles, Bound rolePerms role permID) ∧
    permID ∈ grants.map CapabilityGrant.permission

def Alone (inherits : RoleManager) (grants : List CapabilityGrant)
    (rolePerms : List RolePermission) (viewer : ViewerContext) (permID : String) : Prop :=
  ∀ kept, buildGrantIndex grants permID = some kept → ∀ grant ∈ grants,
    grant.entity = kept.entity → grant.action = kept.action → ∀ role ∈ viewer.roles,
      inherits rolePerms role grant.permission → ∃ role ∈ viewer.roles, Bound rolePerms role permID

theorem mem_of_buildGrantIndex {kept : GrantEntry}
    (lookup : buildGrantIndex grants permID = some kept) :
    ⟨permID, kept.entity, kept.action⟩ ∈ grants := by
  obtain ⟨grant, found, rfl⟩ := Option.map_eq_some_iff.mp lookup
  obtain ⟨member, rfl⟩ := index_eq_some found
  exact member

/-- The answer goes by the entity and the action that the index keeps. -/
theorem hasPermission_eq_true (enforces : Enforces casbin inherits)
    (ordinary : viewer.isPlatformAdmin = false) :
    (newViewerAdapter casbin grants rolePerms viewer).hasPermission permID = true ↔
      ∃ kept, buildGrantIndex grants permID = some kept ∧ ∃ role ∈ viewer.roles,
        ∃ grant ∈ grants, inherits rolePerms role grant.permission ∧
          grant.entity = kept.entity ∧ grant.action = kept.action := by
  simp only [ViewerAdapter.hasPermission, newViewerAdapter, ordinary, Bool.false_eq_true, if_false]
  cases lookup : buildGrantIndex grants permID with
  | none => simp
  | some kept =>
    simp only [canPerform, List.any_eq_true, enforces.matched, Option.some.injEq,
      exists_eq_left']

/--
For a viewer who is no platform admin the answer is that one of its roles is
bound to a granted permission if and only if no role of it inherits another
permission that is granted where the index keeps this one, unless one is bound
to it.
-/
theorem hasPermission_iff_holds (casbin : Enforcer) (inherits : RoleManager)
    (grants : List CapabilityGrant) (rolePerms : List RolePermission) (viewer : ViewerContext)
    (permID : String) (enforces : Enforces casbin inherits)
    (ordinary : viewer.isPlatformAdmin = false) :
    ((newViewerAdapter casbin grants rolePerms viewer).hasPermission permID = true ↔
      Holds grants rolePerms viewer permID) ↔ Alone inherits grants rolePerms viewer permID := by
  rw [hasPermission_eq_true enforces ordinary]
  constructor
  · intro agrees kept lookup grant member entity action role held inherited
    exact (agrees.mp ⟨kept, lookup, role, held, grant, member, inherited, entity, action⟩).1
  · intro alone
    constructor
    · rintro ⟨kept, lookup, role, held, grant, member, inherited, entity, action⟩
      exact ⟨alone kept lookup grant member entity action role held inherited,
        List.mem_map_of_mem (mem_of_buildGrantIndex lookup)⟩
    · rintro ⟨⟨role, held, bound⟩, granted⟩
      obtain ⟨grant, member, rfl⟩ := List.mem_map.mp granted
      obtain ⟨found, lookup⟩ := exists_index CapabilityGrant.permission member
      have kept : buildGrantIndex grants grant.permission =
          some ⟨found.entity, found.action⟩ := by rw [buildGrantIndex, lookup]; rfl
      exact ⟨_, kept, role, held, _, mem_of_buildGrantIndex kept, enforces.bound bound, rfl, rfl⟩

end Permissions

/-! ## Two permissions for one action -/

def linked : Enforcer := fun grants rolePerms sub obj act =>
  grants.any fun grant => (sub = grant.permission || ⟨sub, grant.permission⟩ ∈ rolePerms) &&
    (grant.entity = obj && grant.action = act)

theorem enforces_linked : Enforces linked fun rolePerms role permission =>
    role = permission ∨ Bound rolePerms role permission where
  matched := by simp [linked, Bound]
  bound := .inr

def leadGrants : List CapabilityGrant :=
  [⟨"crm.lead.read", "crm_lead", "read"⟩, ⟨"crm.lead.read_all", "crm_lead", "read"⟩]

def sales : ViewerContext := ⟨["role:crm.sales"]⟩

/-- A role that is bound to one of them has both. -/
theorem sales_reads_all :
    (newViewerAdapter linked leadGrants [⟨"role:crm.sales", "crm.lead.read"⟩] sales).hasPermission
      "crm.lead.read_all" = true ∧
    ¬ Holds leadGrants [⟨"role:crm.sales", "crm.lead.read"⟩] sales "crm.lead.read_all" := by
  refine ⟨by decide +kernel, ?_⟩
  rintro ⟨⟨role, -, bound⟩, -⟩
  simp [Bound] at bound

/-- A role that is bound to the permission itself has it. -/
theorem sales_reads :
    (newViewerAdapter linked leadGrants [⟨"role:crm.sales", "crm.lead.read_all"⟩]
      sales).hasPermission "crm.lead.read_all" = true ↔
    Holds leadGrants [⟨"role:crm.sales", "crm.lead.read_all"⟩] sales "crm.lead.read_all" := by
  refine (hasPermission_iff_holds linked _ leadGrants _ sales "crm.lead.read_all" enforces_linked
    (by decide)).mpr ?_
  intro kept _ grant _ _ _ role _ _
  exact ⟨"role:crm.sales", List.mem_singleton.mpr rfl, List.mem_singleton.mpr rfl⟩

end ErpFinance.Sdui
