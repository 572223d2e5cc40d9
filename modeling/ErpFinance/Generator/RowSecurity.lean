import ErpFinance.Domain.Basics
import ErpFinance.Library.Like
import ErpFinance.Library.Policies
import ErpFinance.Library.Table

/-!
# Row-level security of the generated tables

The policies that the generator emits for the scope of an entity, and what they let a session
see and write.  The policies on a table are all permissive, so each of them lets rows through
that another one was to hold back.
-/

namespace ErpFinance.Generator

open Domain Library

/-- `def.Scope`; the zero value is the scope of a tenant. -/
inductive Scope where
  | system
  | tenant
  | organization
  | organizationTree
  | user
deriving DecidableEq

/-- What the settings of a connection hold: `awo.tenant_id` and `awo.org_id`. -/
structure Session where
  tenantID : Option Uuid := none
  orgID : Option Uuid := none

/-- The columns of a row that policies read. -/
structure Row where
  tenantID : Uuid
  orgID : Option Uuid := none

/-- A row of `platform_organization`. -/
structure OrganizationRow where
  id : Uuid
  tenantID : Uuid
  path : Option String := none

instance : Keyed OrganizationRow Uuid := ⟨OrganizationRow.id⟩

/-! ## Policies -/

/-- The test of a policy, as its statement has it. -/
inductive RowTest where
  | ofTenant
  | ofOrganization
  | inOrganizationTree

namespace RowTest

def suffix : RowTest → String
  | ofTenant => "_tenant_isolation"
  | ofOrganization => "_org_isolation"
  | inOrganizationTree => "_org_tree_isolation"

/-- The answer of a test; the last one compares with what its subquery selects. -/
def answer (selected : Session → List Uuid) : RowTest → Session → Row → Option Bool
  | ofTenant, session, row => session.tenantID.map (row.tenantID = ·)
  | ofOrganization, session, row => do
      let own ← session.orgID
      let org ← row.orgID
      some (org = own)
  | inOrganizationTree, session, row => row.orgID.map (· ∈ selected session)

end RowTest

def policyTests : Scope → List RowTest
  | .system => []
  | .tenant | .user => [.ofTenant]
  | .organization => [.ofTenant, .ofOrganization]
  | .organizationTree => [.ofTenant, .inOrganizationTree]

/-- The protection of the table of an entity; only the tables of the system have none. -/
def protection (qualifiedName : String) (scope : Scope) (selected : Session → List Uuid) :
    Protection Session Row :=
  if scope = .system then none
  else some ((policyTests scope).map fun test =>
    { name := qualifiedName ++ test.suffix, sight := test.answer selected })

/-! ## The organizations of a session -/

/-- `platform_organization` declares no scope, so its rows are those of their tenant. -/
def organizationsSeen (organizations : Table OrganizationRow) (session : Session) :
    List OrganizationRow :=
  organizations.rows.filter fun org =>
    (protection "platform_organization" .tenant fun _ => []).sees session
      { tenantID := org.tenantID }

/-- `current_org_path`. -/
def currentOrgPath (organizations : Table OrganizationRow) (session : Session) : Option String :=
  ((organizationsSeen organizations session).find? fun org => session.orgID = some org.id).bind
    OrganizationRow.path

/-- The organizations that the subquery of the policy of a tree selects. -/
def orgsInTree (organizations : Table OrganizationRow) (session : Session) : List Uuid :=
  ((organizationsSeen organizations session).filter fun org =>
    match org.path, currentOrgPath organizations session with
    | some path, some own => like (own.toList ++ ['%']) path.toList
    | _, _ => false).map OrganizationRow.id

def protectionOf (organizations : Table OrganizationRow) (qualifiedName : String) (scope : Scope) :
    Protection Session Row :=
  protection qualifiedName scope (orgsInTree organizations)

/-! ## Entitlement -/

def SameTenant (session : Session) (row : Row) : Prop := session.tenantID = some row.tenantID

def SameOrganization (session : Session) (row : Row) : Prop :=
  session.orgID.isSome ∧ row.orgID = session.orgID

def Descends (organizations : Table OrganizationRow) (session : Session) (row : Row) : Prop :=
  SameOrganization session row ∨
    ∃ own ∈ organizations.rows, ∃ org ∈ organizations.rows,
      session.orgID = some own.id ∧ row.orgID = some org.id ∧
      ∃ start path, own.path = some start ∧ org.path = some path ∧ start.toList <+: path.toList

def Entitled (organizations : Table OrganizationRow) (session : Session) (row : Row) :
    Scope → Prop
  | .system => True
  | .tenant | .user => SameTenant session row
  | .organization => SameTenant session row ∧ SameOrganization session row
  | .organizationTree => SameTenant session row ∧ Descends organizations session row

def Isolated (organizations : Table OrganizationRow) (qualifiedName : String) (scope : Scope)
    (session : Session) (row : Row) : Prop :=
  ((protectionOf organizations qualifiedName scope).sees session row = true →
      Entitled organizations session row scope) ∧
    ((protectionOf organizations qualifiedName scope).writes session row = true →
      Entitled organizations session row scope)

/-- The organization of the row is kept by the tenant of the session, as the session's own is, and
its path is like the path of that one. -/
def Reaches (organizations : Table OrganizationRow) (session : Session) (row : Row) : Prop :=
  ∃ own ∈ organizations.rows, ∃ org ∈ organizations.rows,
    session.orgID = some own.id ∧ row.orgID = some org.id ∧
    session.tenantID = some own.tenantID ∧ session.tenantID = some org.tenantID ∧
    ∃ start path, own.path = some start ∧ org.path = some path ∧
      like (start.toList ++ ['%']) path.toList = true

/-- What the policies of a scope let through: a row of the tenant, or whatever the policy for the
organization lets through. -/
def LetThrough (organizations : Table OrganizationRow) (session : Session) (row : Row) :
    Scope → Prop
  | .system => True
  | .tenant | .user => SameTenant session row
  | .organization => SameTenant session row ∨ SameOrganization session row
  | .organizationTree => SameTenant session row ∨ Reaches organizations session row

/-- The rows of a scope for which the policies agree. -/
def Confined (organizations : Table OrganizationRow) (session : Session) (row : Row) :
    Scope → Prop
  | .system | .tenant | .user => True
  | .organization => SameTenant session row ↔ SameOrganization session row
  | .organizationTree =>
    (SameTenant session row → Descends organizations session row) ∧
      (Reaches organizations session row →
        SameTenant session row ∧ Descends organizations session row)

section Policies

variable {organizations : Table OrganizationRow} {session : Session} {row : Row}
  {selected : Session → List Uuid}

theorem answer_ofTenant :
    RowTest.ofTenant.answer selected session row = some true ↔ SameTenant session row := by
  simp [RowTest.answer, SameTenant, eq_comm]

theorem answer_ofOrganization : RowTest.ofOrganization.answer selected session row = some true ↔
    SameOrganization session row := by
  cases own : session.orgID with
  | none => simp [RowTest.answer, SameOrganization, own]
  | some o => cases org : row.orgID <;> simp [RowTest.answer, SameOrganization, own, org]

theorem answer_inOrganizationTree :
    RowTest.inOrganizationTree.answer selected session row = some true ↔
      ∃ org ∈ selected session, row.orgID = some org := by
  cases org : row.orgID <;> simp [RowTest.answer, org, and_comm]

/-- A session sees a row of a protected table that passes one of the tests, and no check differs
from what it may see. -/
theorem protection_sees_iff {qualifiedName : String} {scope : Scope} (guarded : scope ≠ .system) :
    (protection qualifiedName scope selected).sees session row = true ↔
      ∃ test ∈ policyTests scope, test.answer selected session row = some true := by
  rw [protection, if_neg guarded, Protection.sees, Option.all_some, Policy.admits_iff]
  · simp only [List.mem_map, exists_exists_and_eq_and]
  · intro policy member
    obtain ⟨test, -, rfl⟩ := List.mem_map.mp member
    rfl

theorem protection_writes_eq {qualifiedName : String} {scope : Scope} :
    (protection qualifiedName scope selected).writes session row =
      (protection qualifiedName scope selected).sees session row := by
  by_cases system : scope = .system
  · rw [protection, if_pos system]
    rfl
  · rw [protection, if_neg system]
    simp [Protection.writes, Protection.sees, Policy.admits, Policy.writing, List.any_map,
      List.all_map, Function.comp_def]

theorem mem_organizationsSeen {org : OrganizationRow} :
    org ∈ organizationsSeen organizations session ↔
      org ∈ organizations.rows ∧ session.tenantID = some org.tenantID := by
  rw [organizationsSeen, List.mem_filter, protection_sees_iff (by decide)]
  simp [policyTests, RowTest.answer, eq_comm]

theorem currentOrgPath_eq_some {start : String} :
    currentOrgPath organizations session = some start ↔
      ∃ own ∈ organizations.rows, session.orgID = some own.id ∧
        session.tenantID = some own.tenantID ∧ own.path = some start := by
  constructor
  · intro found
    obtain ⟨own, first, path⟩ := Option.bind_eq_some_iff.mp found
    obtain ⟨member, tenant⟩ := mem_organizationsSeen.mp (List.mem_of_find?_eq_some first)
    have same := List.find?_some first
    exact ⟨own, member, of_decide_eq_true same, tenant, path⟩
  · rintro ⟨own, member, same, tenant, path⟩
    have seen := mem_organizationsSeen.mpr ⟨member, tenant⟩
    cases first : (organizationsSeen organizations session).find?
        fun org => session.orgID = some org.id with
    | none => exact absurd (decide_eq_true same) (List.find?_eq_none.mp first own seen)
    | some other =>
      have otherMember := (mem_organizationsSeen.mp (List.mem_of_find?_eq_some first)).1
      have otherSame : session.orgID = some other.id := by
        have one := List.find?_some first
        exact of_decide_eq_true one
      have one : other = own := Table.eq_of_key_eq otherMember member
        (Option.some.inj (otherSame.symm.trans same))
      rw [currentOrgPath, first, one]
      exact path

theorem reaches_iff : (∃ org ∈ orgsInTree organizations session, row.orgID = some org) ↔
    Reaches organizations session row := by
  constructor
  · rintro ⟨_, selected, ofRow⟩
    obtain ⟨org, chosen, rfl⟩ := List.mem_map.mp selected
    obtain ⟨seen, matched⟩ := List.mem_filter.mp chosen
    obtain ⟨member, tenant⟩ := mem_organizationsSeen.mp seen
    cases ending : org.path with
    | none => simp [ending] at matched
    | some path =>
      cases start : currentOrgPath organizations session with
      | none => simp [start] at matched
      | some prior =>
        obtain ⟨own, ownMember, ownSame, ownTenant, ownPath⟩ := currentOrgPath_eq_some.mp start
        simp only [ending, start] at matched
        exact ⟨own, ownMember, org, member, ownSame, ofRow, ownTenant, tenant, prior, path,
          ownPath, ending, matched⟩
  · rintro ⟨own, ownMember, org, member, ownSame, ofRow, ownTenant, tenant, prior, path, ownPath,
      ending, matched⟩
    have start := currentOrgPath_eq_some.mpr ⟨own, ownMember, ownSame, ownTenant, ownPath⟩
    refine ⟨org.id, List.mem_map.mpr ⟨org, List.mem_filter.mpr ⟨?_, ?_⟩, rfl⟩, ofRow⟩
    · exact mem_organizationsSeen.mpr ⟨member, tenant⟩
    · simpa only [ending, start] using matched

theorem sees_iff (qualifiedName : String) (scope : Scope) :
    (protectionOf organizations qualifiedName scope).sees session row = true ↔
      LetThrough organizations session row scope := by
  cases scope with
  | system => exact iff_of_true rfl trivial
  | tenant =>
    rw [protectionOf, protection_sees_iff (by decide)]
    simp [policyTests, answer_ofTenant, LetThrough]
  | user =>
    rw [protectionOf, protection_sees_iff (by decide)]
    simp [policyTests, answer_ofTenant, LetThrough]
  | organization =>
    rw [protectionOf, protection_sees_iff (by decide)]
    simp [policyTests, answer_ofTenant, answer_ofOrganization, LetThrough]
  | organizationTree =>
    rw [protectionOf, protection_sees_iff (by decide)]
    simp [policyTests, answer_ofTenant, answer_inOrganizationTree, LetThrough, ← reaches_iff]

end Policies

/-- In every state of the tables, the policies of an entity isolate a row from a session if and
only if the row is one on which they agree. -/
theorem isolated_iff (organizations : Table OrganizationRow) (qualifiedName : String)
    (scope : Scope) (session : Session) (row : Row) :
    Isolated organizations qualifiedName scope session row ↔
      Confined organizations session row scope := by
  have writes : (protectionOf organizations qualifiedName scope).writes session row =
      (protectionOf organizations qualifiedName scope).sees session row := protection_writes_eq
  rw [Isolated, writes, and_self, sees_iff]
  cases scope with
  | system => exact iff_of_true (fun _ => trivial) trivial
  | tenant => exact iff_of_true id trivial
  | user => exact iff_of_true id trivial
  | organization =>
    constructor
    · exact fun entitled => ⟨fun tenant => (entitled (Or.inl tenant)).2,
        fun organization => (entitled (Or.inr organization)).1⟩
    · rintro ⟨placed, owned⟩ (tenant | organization)
      · exact ⟨tenant, placed tenant⟩
      · exact ⟨owned organization, organization⟩
  | organizationTree =>
    constructor
    · exact fun entitled => ⟨fun tenant => (entitled (Or.inl tenant)).2,
        fun reaches => entitled (Or.inr reaches)⟩
    · rintro ⟨placed, owned⟩ (tenant | reaches)
      · exact ⟨tenant, placed tenant⟩
      · exact owned reaches

def branches : Table OrganizationRow where
  rows := [{ id := 10, tenantID := 1, path := some "/10/" },
    { id := 11, tenantID := 1, path := some "/11/" }]
  nodup := by decide

/-- The rows of one branch are seen and written from the other. -/
theorem branches_notIsolated :
    ¬ Isolated branches "finance_budget" .organization { tenantID := some 1, orgID := some 10 }
      { tenantID := 1, orgID := some 11 } := by
  intro isolated
  have seen : (protectionOf branches "finance_budget" .organization).sees
      { tenantID := some 1, orgID := some 10 } { tenantID := 1, orgID := some 11 } = true := rfl
  have entitled := isolated.1 seen
  exact absurd entitled.2.2 (by decide)

end ErpFinance.Generator
