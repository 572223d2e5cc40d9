import ErpFinance.Domain.Basics
import ErpFinance.Library.Table
import ErpFinance.Library.Text
import Mathlib.Data.Finset.Basic

/-!
# Role assignments

A role is granted twice: as a grouping of the enforcer, which decides requests
from memory, and as an active row of the database.  The service changes the
enforcer first, then the row, and undoes the first change when the second one
fails.
-/

namespace ErpFinance.Iam.RoleAssignments

open Domain Library

/-! ## The two stores -/

structure Grouping where
  subject : String
  role : String
  domain : String
deriving DecidableEq

/-- A row of `role_assignments`. -/
structure Assignment where
  tenantID : Uuid
  grouping : Grouping
  assignedBy : Option String
  delegatedBy : Option String
  expiresAt : Option Nat
  isActive : Bool

/-- `UNIQUE (subject, role_name, domain)`. -/
instance : Keyed Assignment Grouping := ⟨Assignment.grouping⟩

structure Stores where
  groupings : Finset Grouping
  rows : Table Assignment

/-- The assignment is marked active in the database. -/
def Active (rows : Table Assignment) (g : Grouping) : Prop :=
  ∃ row, rows.get? g = some row ∧ row.isActive = true

/-- The groupings are exactly the active assignments. -/
def Agree (stores : Stores) : Prop :=
  ∀ g, g ∈ stores.groupings ↔ Active stores.rows g

/-- Both sets are the same in two states. -/
structure SameSets (stores other : Stores) : Prop where
  groupings : stores.groupings = other.groupings
  active : ∀ g, Active stores.rows g ↔ Active other.rows g

/-! ## The repository

Row level security lets the role of the connection see and write the rows of
the transaction's tenant, and lets the admin role see and write every row. -/

/-- What the connection and the request's context say. -/
structure Caller where
  admin : Bool
  tenant : Option Uuid

/-- The policies of `role_assignments`, in a transaction of the tenant. -/
def visible (caller : Caller) (tenant : Option Uuid) (row : Assignment) : Bool :=
  caller.admin || tenant == some row.tenantID

/-- `UpsertRoleAssignment`.  It runs in a transaction of the context's tenant, which must be set.
A row of the same key is updated, apart from its tenant; one that the policy hides makes the
statement fail. -/
def upsertRoleAssignment (caller : Caller) (fails : Bool) (new : Assignment)
    (rows : Table Assignment) : Option (Table Assignment) :=
  if caller.tenant.isNone || fails || !visible caller caller.tenant new then none
  else match rows.get? new.grouping with
    | none => some (rows.insert new)
    | some old =>
      if visible caller caller.tenant old then
        some (rows.put { new with tenantID := old.tenantID })
      else none

/-- What the update of `DeactivateRoleAssignment` does to a row. -/
def deactivated (caller : Caller) (g : Grouping) (row : Assignment) : Assignment :=
  if row.grouping = g && visible caller caller.tenant row then { row with isActive := false }
  else row

/-- `DeactivateRoleAssignment`, in a transaction of the context's tenant if there is one. -/
def deactivateRoleAssignment (caller : Caller) (fails : Bool) (g : Grouping)
    (rows : Table Assignment) : Option (Table Assignment) :=
  if fails then none
  else some (rows.mapRows (deactivated caller g) (by
    intro row
    simp only [deactivated]
    split <;> rfl))

def listExpiredActiveRoleNames (caller : Caller) (now : Nat) (subject domainName : String)
    (rows : Table Assignment) : List String :=
  (rows.rows.filter fun row =>
    visible caller none row && row.grouping.subject = subject &&
      row.grouping.domain = domainName && row.isActive && row.expiresAt.any (· < now)).map
    (·.grouping.role)

/-! ## The service -/

inductive AuthzError
  | invalidRequest
  | assignedByRequired
  | forbidden
  | upsertFailed
  | deactivateFailed
  | enforceFailed
deriving DecidableEq

structure AssignOpts where
  expiresAt : Option Nat
  assignedBy : String
  delegatedBy : String

/-- An audit column is null where no text was given. -/
def nullable (text : String) : Option String :=
  if text ≠ "" then some text else none

/-- What `AssignRole` answers before it changes anything. -/
def assignGuard (g : Grouping) (opts : AssignOpts) : Option AuthzError :=
  if g.subject = "" || g.role = "" || g.domain = "" then some .invalidRequest
  else if opts.assignedBy = "" then some .assignedByRequired
  else if hasPrefix g.role "role:platform-" && !hasPrefix opts.assignedBy "platform:" then
    some .forbidden
  else none

/-- The row that `AssignRole` hands to the repository; a tenant that does not parse is the nil
identifier. -/
def newAssignment (parse : String → Option Uuid) (tenantID : String) (g : Grouping)
    (opts : AssignOpts) : Assignment where
  tenantID := (parse tenantID).getD 0
  grouping := g
  assignedBy := nullable opts.assignedBy
  delegatedBy := nullable opts.delegatedBy
  expiresAt := opts.expiresAt
  isActive := true

def assignRole (parse : String → Option Uuid) (caller : Caller) (fails : Bool) (tenantID : String)
    (g : Grouping) (opts : AssignOpts) (stores : Stores) : Except AuthzError Unit × Stores :=
  match assignGuard g opts with
  | some err => (.error err, stores)
  | none =>
    let added := insert g stores.groupings
    match upsertRoleAssignment caller fails (newAssignment parse tenantID g opts) stores.rows with
    | some rows => (.ok (), ⟨added, rows⟩)
    | none => (.error .upsertFailed, ⟨added.erase g, stores.rows⟩)

def revokeRole (caller : Caller) (fails : Bool) (g : Grouping) (stores : Stores) :
    Except AuthzError Unit × Stores :=
  if g.subject = "" || g.role = "" || g.domain = "" then (.error .invalidRequest, stores)
  else
    let removed := stores.groupings.erase g
    match deactivateRoleAssignment caller fails g stores.rows with
    | some rows => (.ok (), ⟨removed, rows⟩)
    | none => (.error .deactivateFailed, ⟨insert g removed, stores.rows⟩)

/-- The loop of `revokeExpiredRoles`; a failed deactivation is only logged. -/
def revokeNames (caller : Caller) (fails : String → Bool) (subject domainName : String) :
    List String → Stores → Stores
  | [], stores => stores
  | name :: names, stores =>
    let g : Grouping := ⟨subject, name, domainName⟩
    let rows := deactivateRoleAssignment caller (fails name) g stores.rows
    revokeNames caller fails subject domainName names
      ⟨stores.groupings.erase g, rows.getD stores.rows⟩

/-- `revokeExpiredRoles`; a failed listing is only logged by its caller. -/
def revokeExpiredRoles (caller : Caller) (listFails : Bool) (fails : String → Bool) (now : Nat)
    (subject domainName : String) (stores : Stores) : Stores :=
  if listFails then stores
  else revokeNames caller fails subject domainName
    (listExpiredActiveRoleNames caller now subject domainName stores.rows) stores

structure Request where
  subject : String
  domain : String
  object : String
  action : String

/-- A request that the service answers without the enforcer. -/
def settled (r : Request) : Option (Except AuthzError Bool) :=
  if r.subject = "" || r.domain = "" || r.object = "" || r.action = "" then
    some (.error .invalidRequest)
  else if r.domain = "_platform_" && hasPrefix r.subject "platform:" then some (.ok true)
  else none

def enforce (enforcer : Finset Grouping → Request → Option Bool) (caller : Caller)
    (listFails : Bool) (fails : String → Bool) (now : Nat) (r : Request) (stores : Stores) :
    Except AuthzError Bool × Stores :=
  match settled r with
  | some answer => (answer, stores)
  | none =>
    let after := revokeExpiredRoles caller listFails fails now r.subject r.domain stores
    match enforcer after.groupings r with
    | none => (.error .enforceFailed, after)
    | some allowed => (.ok allowed, after)

/-- A call, with what the database does at its steps. -/
inductive Call
  | assignRole (tenantID : String) (g : Grouping) (opts : AssignOpts) (fails : Bool)
  | revokeRole (g : Grouping) (fails : Bool)
  | enforce (r : Request) (now : Nat) (listFails : Bool) (fails : String → Bool)

/-- The libraries that the service calls. -/
structure Libraries where
  parse : String → Option Uuid
  enforcer : Finset Grouping → Request → Option Bool

/-- What a call returns, as far as its caller can see an error, and the state at its return. -/
def run (libs : Libraries) (caller : Caller) : Call → Stores → Except AuthzError Unit × Stores
  | .assignRole tenantID g opts fails, stores =>
    assignRole libs.parse caller fails tenantID g opts stores
  | .revokeRole g fails, stores => revokeRole caller fails g stores
  | .enforce r now listFails fails, stores =>
    (enforce libs.enforcer caller listFails fails now r stores).map (Except.map fun _ => ()) id

/-! ## What the calls should keep, and when they do -/

/-- The stores agree at the return, and an error changed neither. -/
structure Kept (before : Stores) (result : Except AuthzError Unit × Stores) : Prop where
  agree : Agree result.2
  unchanged : ∀ err, result.1 = .error err → SameSets before result.2

def Refuses (caller : Caller) (fails : Bool) (new : Assignment) (rows : Table Assignment) : Prop :=
  caller.tenant = none ∨ fails = true ∨ visible caller caller.tenant new = false ∨
    ∃ old, rows.get? new.grouping = some old ∧ visible caller caller.tenant old = false

def withoutRoles (subject domainName : String) (names : List String)
    (groupings : Finset Grouping) : Finset Grouping :=
  groupings.filter fun g => ¬(g.subject = subject ∧ g.domain = domainName ∧ g.role ∈ names)

/-- An assignment that is refused was not there; a revocation that fails finds its role, and one
that succeeds sees the active row; the expired roles of a request are all deactivated, and then the
enforcer answers. -/
def Harmless (libs : Libraries) (caller : Caller) (stores : Stores) : Call → Prop
  | .assignRole tenantID g opts fails =>
    assignGuard g opts = none →
      Refuses caller fails (newAssignment libs.parse tenantID g opts) stores.rows →
        g ∉ stores.groupings
  | .revokeRole g fails =>
    g.subject ≠ "" → g.role ≠ "" → g.domain ≠ "" →
      (fails = true → g ∈ stores.groupings) ∧
        (fails = false → ∀ row, stores.rows.get? g = some row → row.isActive = true →
          visible caller caller.tenant row = true)
  | .enforce r now listFails fails =>
    settled r = none → listFails = false →
      ∀ name ∈ listExpiredActiveRoleNames caller now r.subject r.domain stores.rows,
        fails name = false ∧
          (libs.enforcer (withoutRoles r.subject r.domain
            (listExpiredActiveRoleNames caller now r.subject r.domain stores.rows)
            stores.groupings) r).isSome

/-! ## The repository's statements -/

variable {caller : Caller} {fails : Bool} {rows : Table Assignment}

theorem upsert_eq_none_iff {new : Assignment} :
    upsertRoleAssignment caller fails new rows = none ↔ Refuses caller fails new rows := by
  unfold upsertRoleAssignment Refuses
  cases caller.tenant with
  | none => simp
  | some tenant =>
    cases fails with
    | true => simp
    | false =>
      cases visible caller (some tenant) new with
      | false => simp
      | true =>
        cases rows.get? new.grouping with
        | none => simp
        | some old => simp

theorem active_upsert {new : Assignment} {rows after : Table Assignment}
    (active : new.isActive = true)
    (accepted : upsertRoleAssignment caller fails new rows = some after) (g : Grouping) :
    Active after g ↔ g = new.grouping ∨ Active rows g := by
  unfold upsertRoleAssignment at accepted
  split at accepted
  · cases accepted
  · split at accepted
    case h_1 fresh =>
        cases accepted
        have lookup : (rows.insert new).get? g =
            if g = new.grouping then some new else rows.get? g := Table.get?_insert fresh
        rw [Active, lookup]
        by_cases same : g = new.grouping
        · simp [same, active]
        · simp [same, Active]
    case h_2 old found =>
        split at accepted
        · cases accepted
          have lookup : (rows.put { new with tenantID := old.tenantID }).get? g =
              if g = new.grouping then
                (rows.get? g).map (fun _ => { new with tenantID := old.tenantID })
              else rows.get? g := Table.get?_put
          rw [Active, lookup]
          by_cases same : g = new.grouping
          · simp [same, found, active]
          · simp [same, Active]
        · cases accepted

variable {g : Grouping}

/-- A deactivation that succeeds leaves its assignment active only where it does not see the row. -/
theorem active_deactivate {rows after : Table Assignment}
    (accepted : deactivateRoleAssignment caller fails g rows = some after) (other : Grouping) :
    Active after other ↔ ∃ row, rows.get? other = some row ∧ row.isActive = true ∧
      (other = g → visible caller caller.tenant row = false) := by
  unfold deactivateRoleAssignment at accepted
  split at accepted
  · cases accepted
  · cases accepted
    rw [Active, Table.get?_mapRows]
    cases found : rows.get? other with
    | none => simp
    | some row =>
      have key : row.grouping = other := Table.key_of_get? found
      by_cases same : other = g
      · subst same
        cases seen : visible caller caller.tenant row with
        | true => simp [deactivated, key, seen]
        | false => simp [deactivated, seen]
      · simp [deactivated, key, same]

theorem deactivate_eq_none_iff :
    deactivateRoleAssignment caller fails g rows = none ↔ fails = true := by
  cases fails <;> simp [deactivateRoleAssignment]

/-! ## One call -/

theorem SameSets.refl (stores : Stores) : SameSets stores stores :=
  ⟨rfl, fun _ => Iff.rfl⟩

variable {stores : Stores}

/-- A call that changes nothing keeps the agreement. -/
theorem kept_of_same {answer : Except AuthzError Unit} (agree : Agree stores) :
    Kept stores (answer, stores) :=
  ⟨agree, fun _ _ => SameSets.refl stores⟩

theorem assignRole_kept_iff {libs : Libraries} {tenantID : String} {opts : AssignOpts}
    (agree : Agree stores) :
    Kept stores (assignRole libs.parse caller fails tenantID g opts stores) ↔
      Harmless libs caller stores (.assignRole tenantID g opts fails) := by
  unfold assignRole Harmless
  cases stopped : assignGuard g opts with
  | some err =>
    refine iff_of_true (kept_of_same agree) fun unguarded => ?_
    rw [stopped] at unguarded
    cases unguarded
  | none =>
    cases accepted : upsertRoleAssignment caller fails (newAssignment libs.parse tenantID g opts)
        stores.rows with
    | none =>
      have refused := upsert_eq_none_iff.mp accepted
      constructor
      · intro kept _ _
        have same : stores.groupings = (insert g stores.groupings).erase g :=
          (kept.unchanged .upsertFailed rfl).groupings
        rw [same]
        exact Finset.notMem_erase g _
      · intro harmless
        have absent := harmless stopped refused
        change Kept stores
          (.error .upsertFailed, ⟨(insert g stores.groupings).erase g, stores.rows⟩)
        rw [Finset.erase_insert absent]
        exact kept_of_same agree
    | some rows =>
      have granted : ¬Refuses caller fails (newAssignment libs.parse tenantID g opts)
          stores.rows := fun refused => by
        rw [upsert_eq_none_iff.mpr refused] at accepted
        cases accepted
      refine iff_of_true ⟨?_, ?_⟩ fun _ refused => absurd refused granted
      · intro other
        rw [active_upsert rfl accepted, Finset.mem_insert, agree other]
        rfl
      · intro err failed
        cases failed

theorem revokeRole_kept_iff (libs : Libraries) (agree : Agree stores) :
    Kept stores (revokeRole caller fails g stores) ↔
      Harmless libs caller stores (.revokeRole g fails) := by
  unfold revokeRole Harmless
  by_cases blank : g.subject = "" ∨ g.role = "" ∨ g.domain = ""
  · have stops : (g.subject = "" || g.role = "" || g.domain = "") = true := by
      simpa [or_assoc] using blank
    rw [if_pos stops]
    refine iff_of_true (kept_of_same agree) fun subject role domain => ?_
    rcases blank with blank | blank | blank
    · exact absurd blank subject
    · exact absurd blank role
    · exact absurd blank domain
  · push Not at blank
    have goesOn : ¬(g.subject = "" || g.role = "" || g.domain = "") = true := by
      simp [blank]
    rw [if_neg goesOn]
    simp only [blank, ne_eq, not_false_eq_true, forall_const]
    cases accepted : deactivateRoleAssignment caller fails g stores.rows with
    | none =>
      have failed := deactivate_eq_none_iff.mp accepted
      simp only [failed, forall_const, Bool.true_eq_false, IsEmpty.forall_iff, and_true]
      constructor
      · intro kept
        have same : stores.groupings = insert g (stores.groupings.erase g) :=
          (kept.unchanged .deactivateFailed rfl).groupings
        rw [same]
        exact Finset.mem_insert_self g _
      · intro present
        rw [Finset.insert_erase present]
        exact kept_of_same agree
    | some rows =>
      have succeeds : fails = false := by
        cases fails with
        | false => rfl
        | true => cases accepted
      simp only [succeeds, Bool.false_eq_true, IsEmpty.forall_iff, forall_const, true_and]
      constructor
      · intro kept row found active
        by_contra hidden
        have stays : Active rows g := (active_deactivate accepted g).mpr
          ⟨row, found, active, fun _ => Bool.eq_false_iff.mpr hidden⟩
        exact Finset.notMem_erase g _ ((kept.agree g).mpr stays)
      · intro seen
        refine ⟨fun other => ?_, fun err failed => by cases failed⟩
        rw [Finset.mem_erase, agree other, active_deactivate accepted]
        constructor
        · rintro ⟨different, row, found, active⟩
          exact ⟨row, found, active, fun same => absurd same different⟩
        · rintro ⟨row, found, active, hidden⟩
          refine ⟨fun same => ?_, row, found, active⟩
          subst same
          rw [seen row found active] at hidden
          exact absurd (hidden rfl) (by decide)

/-! ## Expired roles -/

theorem groupings_revokeNames {fails : String → Bool} {subject domainName : String}
    {names : List String} :
    (revokeNames caller fails subject domainName names stores).groupings =
      withoutRoles subject domainName names stores.groupings := by
  induction names generalizing stores with
  | nil => simp [revokeNames, withoutRoles]
  | cons name names ih =>
    rw [revokeNames, ih]
    ext g
    simp only [withoutRoles, Finset.mem_filter, Finset.mem_erase, List.mem_cons, not_and]
    constructor
    · rintro ⟨⟨different, member⟩, others⟩
      refine ⟨member, fun subj dom listed => ?_⟩
      rcases listed with first | later
      · exact different (by rw [← subj, ← dom, ← first])
      · exact others subj dom later
    · rintro ⟨member, outside⟩
      refine ⟨⟨fun same => ?_, member⟩, fun subj dom later => outside subj dom (.inr later)⟩
      subst same
      exact outside rfl rfl (.inl rfl)

/-- Through the loop an assignment stays active unless its own deactivation succeeds; for a caller
that sees every row. -/
theorem active_revokeNames {fails : String → Bool} {subject domainName : String}
    {names : List String} (admin : caller.admin = true) (g : Grouping) :
    Active (revokeNames caller fails subject domainName names stores).rows g ↔
      Active stores.rows g ∧
        ¬(g.subject = subject ∧ g.domain = domainName ∧ g.role ∈ names ∧ fails g.role = false) := by
  induction names generalizing stores with
  | nil => simp [revokeNames]
  | cons name names ih =>
    rw [revokeNames, ih]
    have step : Active ((deactivateRoleAssignment caller (fails name) ⟨subject, name, domainName⟩
        stores.rows).getD stores.rows) g ↔
        Active stores.rows g ∧ ¬(g = ⟨subject, name, domainName⟩ ∧ fails name = false) := by
      cases accepted : deactivateRoleAssignment caller (fails name) ⟨subject, name, domainName⟩
          stores.rows with
      | none => simp [deactivate_eq_none_iff.mp accepted]
      | some rows =>
        have succeeds : fails name = false := by
          cases failed : fails name with
          | false => rfl
          | true =>
            rw [deactivate_eq_none_iff.mpr failed] at accepted
            cases accepted
        have seen : ∀ row, visible caller caller.tenant row = true := fun row => by
          simp [visible, admin]
        rw [Option.getD_some, active_deactivate accepted]
        simp only [seen, Bool.true_eq_false, succeeds, and_true, Active]
        constructor
        · rintro ⟨row, found, active, other⟩
          exact ⟨⟨row, found, active⟩, other⟩
        · rintro ⟨⟨row, found, active⟩, other⟩
          exact ⟨row, found, active, other⟩
    rw [step, and_assoc]
    refine and_congr_right fun _ => ?_
    obtain ⟨subj, role, dom⟩ := g
    simp only [Grouping.mk.injEq, List.mem_cons, not_and]
    constructor
    · rintro ⟨first, later⟩ rfl rfl listed
      rcases listed with rfl | listed
      · exact first ⟨rfl, rfl, rfl⟩
      · exact later rfl rfl listed
    · intro outside
      refine ⟨?_, fun subj dom listed => outside subj dom (.inr listed)⟩
      rintro ⟨rfl, rfl, rfl⟩
      exact outside rfl rfl (.inl rfl)

theorem mem_listExpired {now : Nat} {subject domainName name : String} :
    name ∈ listExpiredActiveRoleNames caller now subject domainName rows ↔
      caller.admin = true ∧ ∃ row, rows.get? ⟨subject, name, domainName⟩ = some row ∧
        row.isActive = true ∧ ∃ v, row.expiresAt = some v ∧ v < now := by
  simp only [listExpiredActiveRoleNames, List.mem_map, List.mem_filter, Bool.and_eq_true,
    decide_eq_true_eq, Option.any_eq_true]
  constructor
  · rintro ⟨row, ⟨member, ⟨⟨⟨seen, subj⟩, dom⟩, active⟩, expired⟩, role⟩
    refine ⟨by simpa [visible] using seen, row, Table.get?_eq_some_iff.mpr ⟨member, ?_⟩, active,
      expired⟩
    rw [← subj, ← dom, ← role]
    rfl
  · rintro ⟨admin, row, found, active, expired⟩
    obtain ⟨member, key⟩ := Table.get?_eq_some_iff.mp found
    have parts : row.grouping = ⟨subject, name, domainName⟩ := key
    exact ⟨row, ⟨member, ⟨⟨⟨by simp [visible, admin], by rw [parts]⟩, by rw [parts]⟩, active⟩,
      expired⟩, by rw [parts]⟩

theorem enforce_kept_iff {libs : Libraries} {r : Request} {now : Nat} {listFails : Bool}
    {fails : String → Bool} (agree : Agree stores) :
    Kept stores (run libs caller (.enforce r now listFails fails) stores) ↔
      Harmless libs caller stores (.enforce r now listFails fails) := by
  simp only [run, enforce, Harmless]
  cases answered : settled r with
  | some answer => simpa using kept_of_same agree
  | none =>
    simp only [forall_const, revokeExpiredRoles]
    cases listFails with
    | true =>
      refine iff_of_true ?_ (by simp)
      simp only [if_true]
      cases libs.enforcer stores.groupings r <;> exact kept_of_same agree
    | false =>
      simp only [Bool.false_eq_true, if_false, forall_const, groupings_revokeNames]
      set names := listExpiredActiveRoleNames caller now r.subject r.domain stores.rows
        with names_eq
      set after := revokeNames caller fails r.subject r.domain names stores with after_eq
      have groupings : after.groupings =
          withoutRoles r.subject r.domain names stores.groupings := groupings_revokeNames
      have expired : ∀ name ∈ names, caller.admin = true ∧
          Active stores.rows ⟨r.subject, name, r.domain⟩ := by
        intro name listed
        obtain ⟨admin, row, found, active, -⟩ := mem_listExpired.mp listed
        exact ⟨admin, row, found, active⟩
      have removed : ∀ name ∈ names,
          (⟨r.subject, name, r.domain⟩ : Grouping) ∉ after.groupings := by
        intro name listed member
        rw [groupings, withoutRoles, Finset.mem_filter] at member
        exact member.2 ⟨rfl, rfl, listed⟩
      constructor
      · intro kept name listed
        obtain ⟨admin, active⟩ := expired name listed
        have inactive : ¬Active after.rows ⟨r.subject, name, r.domain⟩ := by
          have agreeAfter : Agree after := by
            cases answer : libs.enforcer
                (withoutRoles r.subject r.domain names stores.groupings) r with
            | none => simpa [answer] using kept.agree
            | some allowed => simpa [answer] using kept.agree
          exact fun still => removed name listed ((agreeAfter _).mpr still)
        rw [after_eq, active_revokeNames admin] at inactive
        refine ⟨by simpa [active, listed] using inactive, ?_⟩
        by_contra silent
        rw [Option.not_isSome_iff_eq_none] at silent
        rw [silent] at kept
        have same : stores.groupings = after.groupings :=
          (kept.unchanged .enforceFailed rfl).groupings
        exact removed name listed (same ▸ (agree _).mpr active)
      · intro harmless
        by_cases empty : names = []
        · have unchanged : after = stores := by
            rw [after_eq, empty]
            rfl
          rw [unchanged]
          cases libs.enforcer (withoutRoles r.subject r.domain names stores.groupings) r <;>
            exact kept_of_same agree
        · obtain ⟨name, listed⟩ := List.exists_mem_of_ne_nil names empty
          obtain ⟨admin, -⟩ := expired name listed
          obtain ⟨allowed, answer⟩ := Option.isSome_iff_exists.mp (harmless name listed).2
          rw [answer]
          refine ⟨fun g => ?_, fun err failed => by cases failed⟩
          change g ∈ after.groupings ↔ Active after.rows g
          rw [groupings, after_eq, active_revokeNames admin, withoutRoles, Finset.mem_filter,
            agree g]
          refine and_congr_right fun _ => not_congr ?_
          constructor
          · rintro ⟨subj, dom, listed⟩
            exact ⟨subj, dom, listed, (harmless g.role listed).1⟩
          · rintro ⟨subj, dom, listed, -⟩
            exact ⟨subj, dom, listed⟩

/-- The two sets are equal again after a call, and as before after an error, exactly when the
compensation undoes what the call did and the database deactivates what the enforcer dropped. -/
theorem stores_kept_iff {libs : Libraries} {caller : Caller} {call : Call} {stores : Stores}
    (agree : Agree stores) :
    Kept stores (run libs caller call stores) ↔ Harmless libs caller stores call := by
  cases call with
  | assignRole tenantID g opts fails => exact assignRole_kept_iff agree
  | revokeRole g fails => exact revokeRole_kept_iff libs agree
  | enforce r now listFails fails => exact enforce_kept_iff agree

/-! ## A role that is assigned again -/

def accountant : Grouping := ⟨"tenant:u-1", "accountant", "t-7"⟩

def granted : Assignment where
  tenantID := 7
  grouping := accountant
  assignedBy := some "platform:system"
  delegatedBy := none
  expiresAt := none
  isActive := true

def held : Stores where
  groupings := {accountant}
  rows := ⟨[granted], by simp⟩

def libraries : Libraries where
  parse text := if text = "t-7" then some 7 else none
  enforcer groupings r := some (decide (∃ g ∈ groupings, g.subject = r.subject))

def tenantCaller : Caller := ⟨false, some 7⟩

theorem agree_held : Agree held := by
  intro g
  rw [Active]
  by_cases same : g = accountant
  · subst same
    exact iff_of_true (Finset.mem_singleton_self _) ⟨granted, rfl, rfl⟩
  · have absent : held.rows.get? g = none :=
      Table.get?_eq_none_iff.mpr fun row member key => by
        rw [List.mem_singleton.mp member] at key
        exact same key.symm
    refine iff_of_false (fun member => same (Finset.mem_singleton.mp member)) ?_
    rintro ⟨row, found, -⟩
    rw [absent] at found
    cases found

/-- A successful revocation removes the role from both stores. -/
theorem revoked_kept :
    Kept held (run libraries tenantCaller (.revokeRole accountant false) held) :=
  (stores_kept_iff agree_held).mpr fun _ _ _ =>
    ⟨fun failed => (by cases failed), fun _ row found _ => by
      have only : row = granted := Option.some.inj (found.symm.trans rfl)
      rw [only]
      decide⟩

/-- The database refuses to assign a role again: the enforcer forgets the role, which the database
still has. -/
theorem repeated_assignment_forgotten :
    Agree held ∧
      (run libraries tenantCaller
        (.assignRole "t-7" accountant ⟨none, "platform:system", ""⟩ true) held).1 =
          .error .upsertFailed ∧
      ¬Kept held (run libraries tenantCaller
        (.assignRole "t-7" accountant ⟨none, "platform:system", ""⟩ true) held) := by
  have answer : run libraries tenantCaller
      (.assignRole "t-7" accountant ⟨none, "platform:system", ""⟩ true) held =
        (.error .upsertFailed,
          ⟨(insert accountant held.groupings).erase accountant, held.rows⟩) := by
    have unguarded : assignGuard accountant ⟨none, "platform:system", ""⟩ = none := by decide
    have refused : upsertRoleAssignment tenantCaller true
        (newAssignment libraries.parse "t-7" accountant ⟨none, "platform:system", ""⟩)
        held.rows = none := rfl
    simp only [run, assignRole, unguarded, refused]
  rw [answer]
  refine ⟨agree_held, rfl, fun kept => ?_⟩
  exact Finset.notMem_erase accountant _ ((kept.agree accountant).mpr ⟨granted, rfl, rfl⟩)

end ErpFinance.Iam.RoleAssignments
