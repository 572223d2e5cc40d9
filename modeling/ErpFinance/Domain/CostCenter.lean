import ErpFinance.Domain.Types
import ErpFinance.Library.Text

/-!
# Cost centres

A cost centre, its validator and the update of its optional fields.  The fields
are assigned one after the other and the status last, which is the only one that
is checked; what the other values may be is the validator's to say.
-/

namespace ErpFinance.Domain

open Library

/-! ## Status and allocation method -/

inductive CostCenterStatus where
  | active | inactive | closed
  | other (code : String) (unknown : code ∉ ["ACTIVE", "INACTIVE", "CLOSED"])
deriving DecidableEq

namespace CostCenterStatus

def string : CostCenterStatus → String
  | active => "ACTIVE"
  | inactive => "INACTIVE"
  | closed => "CLOSED"
  | other code _ => code

def isValid : CostCenterStatus → Bool
  | other _ _ => false
  | _ => true

/-- `CanTransitionTo`; nothing leaves a closed centre or an unknown status. -/
def canTransitionTo : CostCenterStatus → CostCenterStatus → Bool
  | active, next => next = inactive || next = closed
  | inactive, next => next = active || next = closed
  | closed, _ => false
  | other _ _, _ => false

/-- A transition leads to one of the constants. -/
theorem isValid_of_canTransitionTo {status next : CostCenterStatus}
    (allowed : status.canTransitionTo next = true) : next.isValid = true := by
  cases next with
  | other code unknown => cases status <;> simp [canTransitionTo] at allowed
  | active => rfl
  | inactive => rfl
  | closed => rfl

end CostCenterStatus

inductive AllocationMethod where
  | percentage | headcount | squareFootage | activityBased
  | other (code : String)
      (unknown : code ∉ ["PERCENTAGE", "HEADCOUNT", "SQUARE_FOOTAGE", "ACTIVITY_BASED"])
deriving DecidableEq

namespace AllocationMethod

def string : AllocationMethod → String
  | percentage => "PERCENTAGE"
  | headcount => "HEADCOUNT"
  | squareFootage => "SQUARE_FOOTAGE"
  | activityBased => "ACTIVITY_BASED"
  | other code _ => code

def isValid : AllocationMethod → Bool
  | other _ _ => false
  | _ => true

end AllocationMethod

/-! ## The cost centre -/

structure CostCenter where
  id : Uuid := Uuid.Nil
  tenantID : Uuid
  code : String
  name : String
  description : Option String := none
  parentID : Option Uuid := none
  level : Int := 0
  path : Option String := none
  isGroup : Bool := false
  departmentID : Option Uuid := none
  managerID : Option Uuid := none
  isDistributed : Bool := false
  allocationMethod : Option AllocationMethod := none
  status : CostCenterStatus := .active
  isActive : Bool := true
  createdAt : Time := Time.zero
  updatedAt : Time := Time.zero
  createdBy : Uuid := Uuid.Nil
  updatedBy : Option Uuid := none
  deletedAt : Option Time := none
deriving DecidableEq

structure UpdateCostCenterRequest where
  name : Option String := none
  description : Option String := none
  departmentID : Option Uuid := none
  managerID : Option Uuid := none
  status : Option CostCenterStatus := none
  isActive : Option Bool := none
  isGroup : Option Bool := none
  isDistributed : Option Bool := none
  allocationMethod : Option AllocationMethod := none

def costCenterCodeMaxLen : Nat := 20

def costCenterNameMaxLen : Nat := 200

def costCenterDescriptionMaxLen : Nat := 1000

namespace CostCenter

/-- A required text of bounded length: the two findings exclude each other. -/
def checkText (field what value : String) (limit : Nat) : List ValidationError :=
  if trimSpace value = "" then
    [{ field, message := "cost centre " ++ what ++ " is required", code := "REQUIRED_FIELD"
       severity := "ERROR" }]
  else check (limit < byteLen value)
    { field
      message := "cost centre " ++ what ++ " must be " ++ toString limit ++ " characters or less"
      code := "MAX_LENGTH_EXCEEDED", severity := "ERROR" }

/-- `CostCenter.Validate`; a superfluous allocation method is a warning among the findings. -/
def validate (cc : CostCenter) : List ValidationError :=
  check (cc.tenantID = Uuid.Nil)
    { field := "tenant_id", message := "tenant_id is required", code := "REQUIRED_FIELD"
      severity := "ERROR" } ++
  checkText "code" "code" cc.code costCenterCodeMaxLen ++
  checkText "name" "name" cc.name costCenterNameMaxLen ++
  check (cc.description.any fun text => costCenterDescriptionMaxLen < byteLen text)
    { field := "description"
      message := "description must be " ++ toString costCenterDescriptionMaxLen ++
        " characters or less"
      code := "MAX_LENGTH_EXCEEDED", severity := "ERROR" } ++
  check (!cc.status.isValid)
    { field := "status", message := "invalid cost centre status: " ++ quoted cc.status.string
      code := "INVALID_VALUE", severity := "ERROR" } ++
  check (cc.parentID.isNone && cc.level ≠ 0)
    { field := "level", message := "root cost centre (no parent) must have level 0"
      code := "INCONSISTENT_VALUE", severity := "ERROR" } ++
  check (cc.parentID.isSome && cc.level ≤ 0)
    { field := "level", message := "child cost centre (has parent) must have level > 0"
      code := "INCONSISTENT_VALUE", severity := "ERROR" } ++
  check (cc.isDistributed && cc.allocationMethod.isNone)
    { field := "allocation_method"
      message := "allocation_method is required when is_distributed is true"
      code := "REQUIRED_FIELD", severity := "ERROR" } ++
  (match cc.allocationMethod with
  | some method =>
    check (!method.isValid)
      { field := "allocation_method"
        message := "invalid allocation method: " ++ quoted method.string
        code := "INVALID_VALUE", severity := "ERROR" }
  | none => []) ++
  check (!cc.isDistributed && cc.allocationMethod.isSome)
    { field := "allocation_method"
      message := "allocation_method has no effect when is_distributed is false"
      code := "SUPERFLUOUS_VALUE", severity := "WARNING" }

/-- The assignments of `ApplyUpdate` before the status. -/
def assign (cc : CostCenter) (req : UpdateCostCenterRequest) : CostCenter :=
  { cc with
    name := (req.name.map trimSpace).getD cc.name
    description := req.description.or cc.description
    departmentID := req.departmentID.or cc.departmentID
    managerID := req.managerID.or cc.managerID
    isActive := req.isActive.getD cc.isActive
    isGroup := req.isGroup.getD cc.isGroup
    isDistributed := req.isDistributed.getD cc.isDistributed
    allocationMethod := req.allocationMethod.or cc.allocationMethod }

/-- The stamps of a finished update. -/
def stamp (cc : CostCenter) (updatedBy : Uuid) (now : Time) : CostCenter :=
  { cc with updatedAt := now, updatedBy := some updatedBy }

/-- `CostCenter.ApplyUpdate`: the receiver afterwards, with the error if there is one. -/
def applyUpdate (cc : CostCenter) (req : UpdateCostCenterRequest) (updatedBy : Uuid) (now : Time) :
    CostCenter × Option String :=
  let assigned := cc.assign req
  match req.status with
  | none => (assigned.stamp updatedBy now, none)
  | some next =>
    if !assigned.status.canTransitionTo next then
      (assigned, some ("invalid status transition: " ++ assigned.status.string ++ " → " ++
        next.string))
    else ({ assigned with status := next }.stamp updatedBy now, none)

@[simp] theorem checkText_eq_nil {field what value : String} {limit : Nat} :
    checkText field what value limit = [] ↔ trimSpace value ≠ "" ∧ byteLen value ≤ limit := by
  unfold checkText
  split
  · next blank => simp [blank]
  · next filled => simp [filled]

/-- The conditions that `Validate` finds nothing against. -/
structure Valid (cc : CostCenter) : Prop where
  tenantID : cc.tenantID ≠ Uuid.Nil
  code : trimSpace cc.code ≠ "" ∧ byteLen cc.code ≤ costCenterCodeMaxLen
  name : trimSpace cc.name ≠ "" ∧ byteLen cc.name ≤ costCenterNameMaxLen
  description : ∀ text ∈ cc.description, byteLen text ≤ costCenterDescriptionMaxLen
  status : cc.status.isValid = true
  root : cc.parentID = none → cc.level = 0
  child : cc.parentID ≠ none → 0 < cc.level
  method : ∀ method ∈ cc.allocationMethod, method.isValid = true
  distribution : cc.isDistributed = cc.allocationMethod.isSome

theorem validate_eq_nil_iff (cc : CostCenter) : cc.validate = [] ↔ cc.Valid := by
  constructor
  · intro silent
    simp only [validate, List.append_eq_nil_iff, check_eq_nil, checkText_eq_nil] at silent
    obtain ⟨⟨⟨⟨⟨⟨⟨⟨⟨tenantID, code⟩, name⟩, description⟩, status⟩, root⟩, child⟩, missing⟩, known⟩,
      superfluous⟩ := silent
    refine ⟨by simpa using tenantID, code, name, ?_, by simpa using status, ?_, ?_, ?_, ?_⟩
    · intro text given
      rw [Option.mem_def] at given
      simpa [given] using description
    · intro isRoot
      simpa [isRoot] using root
    · intro isChild
      obtain ⟨parent, given⟩ := Option.ne_none_iff_exists'.mp isChild
      simpa [given] using child
    · intro method given
      rw [Option.mem_def] at given
      simpa [given] using known
    · cases given : cc.isDistributed <;> simp_all
  · intro valid
    have known := valid.method
    have described := valid.description
    have distribution := valid.distribution
    simp only [validate, List.append_eq_nil_iff, check_eq_nil, checkText_eq_nil]
    refine ⟨⟨⟨⟨⟨⟨⟨⟨⟨by simpa using valid.tenantID, valid.code⟩, valid.name⟩, ?_⟩,
      by simpa using valid.status⟩, ?_⟩, ?_⟩, ?_⟩, ?_⟩, ?_⟩
    · cases given : cc.description with
      | none => rfl
      | some text => simpa using described text given
    · cases given : cc.parentID with
      | none => simpa using valid.root given
      | some parent => rfl
    · cases given : cc.parentID with
      | none => rfl
      | some parent => simpa using valid.child (by rw [given]; exact Option.some_ne_none _)
    · cases given : cc.allocationMethod <;> simp_all
    · cases given : cc.allocationMethod with
      | none => rfl
      | some method => simpa using known method given
    · cases given : cc.allocationMethod <;> simp_all

/-! ## What an update keeps -/

/-- Two cost centres agree on everything a request leaves out, the status and the stamps apart. -/
structure AgreesOutside (req : UpdateCostCenterRequest) (before after : CostCenter) : Prop where
  identity : after.id = before.id ∧ after.tenantID = before.tenantID ∧ after.code = before.code
  hierarchy : after.parentID = before.parentID ∧ after.level = before.level ∧
    after.path = before.path
  life : after.createdAt = before.createdAt ∧ after.createdBy = before.createdBy ∧
    after.deletedAt = before.deletedAt
  name : req.name = none → after.name = before.name
  description : req.description = none → after.description = before.description
  departmentID : req.departmentID = none → after.departmentID = before.departmentID
  managerID : req.managerID = none → after.managerID = before.managerID
  isActive : req.isActive = none → after.isActive = before.isActive
  isGroup : req.isGroup = none → after.isGroup = before.isGroup
  isDistributed : req.isDistributed = none → after.isDistributed = before.isDistributed
  allocationMethod : req.allocationMethod = none →
    after.allocationMethod = before.allocationMethod

theorem agreesOutside_assign (cc : CostCenter) (req : UpdateCostCenterRequest) :
    AgreesOutside req cc (cc.assign req) where
  identity := ⟨rfl, rfl, rfl⟩
  hierarchy := ⟨rfl, rfl, rfl⟩
  life := ⟨rfl, rfl, rfl⟩
  name left := by simp [assign, left]
  description left := by simp [assign, left]
  departmentID left := by simp [assign, left]
  managerID left := by simp [assign, left]
  isActive left := by simp [assign, left]
  isGroup left := by simp [assign, left]
  isDistributed left := by simp [assign, left]
  allocationMethod left := by simp [assign, left]

variable {req : UpdateCostCenterRequest}

theorem AgreesOutside.finish {before after : CostCenter} (agrees : AgreesOutside req before after)
    (status : CostCenterStatus) (updatedBy : Uuid) (now : Time) :
    AgreesOutside req before ({ after with status }.stamp updatedBy now) :=
  ⟨agrees.identity, agrees.hierarchy, agrees.life, agrees.name, agrees.description,
    agrees.departmentID, agrees.managerID, agrees.isActive, agrees.isGroup, agrees.isDistributed,
    agrees.allocationMethod⟩

/-- A request that names no field but the status assigns nothing. -/
theorem assign_eq_self (cc : CostCenter) (only : req = { status := req.status }) :
    cc.assign req = cc := by
  rw [only]
  cases cc
  simp [assign]

/-- The requested values that a valid cost centre can take. -/
structure Admissible (req : UpdateCostCenterRequest) (cc : CostCenter) : Prop where
  name : ∀ name ∈ req.name, trimSpace name ≠ "" ∧ byteLen (trimSpace name) ≤ costCenterNameMaxLen
  description : ∀ text ∈ req.description, byteLen text ≤ costCenterDescriptionMaxLen
  method : ∀ method ∈ req.allocationMethod, method.isValid = true
  distribution : req.isDistributed.getD cc.isDistributed =
    (req.allocationMethod.or cc.allocationMethod).isSome

theorem forall_mem_or {α : Type*} {requested old : Option α} {p : α → Prop}
    (was : ∀ value ∈ old, p value) :
    (∀ value ∈ requested.or old, p value) ↔ ∀ value ∈ requested, p value := by
  cases requested with
  | none => simpa using was
  | some value => simp

variable {cc : CostCenter}

theorem valid_assign_iff (req : UpdateCostCenterRequest) (valid : cc.Valid)
    {status : CostCenterStatus} (known : status.isValid = true) (updatedBy : Uuid) (now : Time) :
    ({ cc.assign req with status }.stamp updatedBy now).Valid ↔ Admissible req cc := by
  have name : (trimSpace (cc.assign req).name ≠ "" ∧
      byteLen (cc.assign req).name ≤ costCenterNameMaxLen) ↔
      ∀ name ∈ req.name, trimSpace name ≠ "" ∧ byteLen (trimSpace name) ≤ costCenterNameMaxLen := by
    cases requested : req.name with
    | none => simpa [assign, requested] using valid.name
    | some name => simp [assign, requested, trimSpace_trimSpace]
  constructor
  · intro after
    exact ⟨name.mp after.name, (forall_mem_or valid.description).mp after.description,
      (forall_mem_or valid.method).mp after.method, after.distribution⟩
  · intro admissible
    exact ⟨valid.tenantID, valid.code, name.mpr admissible.name,
      (forall_mem_or valid.description).mpr admissible.description, known, valid.root, valid.child,
      (forall_mem_or valid.method).mpr admissible.method, admissible.distribution⟩

/-! ## The update -/

/-- The request asks for a status that the machine does not lead to from here. -/
def Refuses (cc : CostCenter) (req : UpdateCostCenterRequest) : Prop :=
  ∃ next ∈ req.status, cc.status.canTransitionTo next = false

theorem applyUpdate_of_refuses (refuses : cc.Refuses req) (updatedBy : Uuid) (now : Time) :
    (cc.applyUpdate req updatedBy now).1 = cc.assign req ∧
      (cc.applyUpdate req updatedBy now).2 ≠ none := by
  obtain ⟨next, requested, refused⟩ := refuses
  rw [Option.mem_def] at requested
  have refusedHere : (cc.assign req).status.canTransitionTo next = false := refused
  simp [applyUpdate, requested, refusedHere]

theorem applyUpdate_of_accepts (accepts : ¬cc.Refuses req) (updatedBy : Uuid) (now : Time) :
    cc.applyUpdate req updatedBy now =
      ({ cc.assign req with status := req.status.getD cc.status }.stamp updatedBy now, none) := by
  cases requested : req.status with
  | none => simp [applyUpdate, requested, assign]
  | some next =>
    have allowed : (cc.assign req).status.canTransitionTo next = true := by
      by_contra refused
      exact accepts ⟨next, requested, by simpa [assign] using refused⟩
    simp [applyUpdate, requested, allowed]

/-- An update fails exactly when it asks for a status that the machine does not lead to; then the
cost centre keeps its status, its stamps and every field the request leaves out, and with a
request for the status alone it is the very same.  Otherwise the status is the requested one,
everything the request leaves out is kept, and a valid cost centre stays valid exactly when the
requested values are admissible. -/
theorem applyUpdate_meets (cc : CostCenter) (req : UpdateCostCenterRequest) (updatedBy : Uuid)
    (now : Time) :
    ((cc.applyUpdate req updatedBy now).2 ≠ none ↔ cc.Refuses req) ∧
      AgreesOutside req cc (cc.applyUpdate req updatedBy now).1 ∧
      ((cc.applyUpdate req updatedBy now).2 ≠ none →
        (cc.applyUpdate req updatedBy now).1.status = cc.status ∧
        (cc.applyUpdate req updatedBy now).1.updatedAt = cc.updatedAt ∧
        (cc.applyUpdate req updatedBy now).1.updatedBy = cc.updatedBy ∧
        (req = { status := req.status } → (cc.applyUpdate req updatedBy now).1 = cc)) ∧
      ((cc.applyUpdate req updatedBy now).2 = none →
        (cc.applyUpdate req updatedBy now).1.status = req.status.getD cc.status ∧
        (∀ next ∈ req.status, cc.status.canTransitionTo next = true) ∧
        (cc.validate = [] →
          ((cc.applyUpdate req updatedBy now).1.validate = [] ↔ Admissible req cc))) := by
  by_cases refuses : cc.Refuses req
  · obtain ⟨after, error⟩ := applyUpdate_of_refuses refuses updatedBy now
    rw [after]
    refine ⟨⟨fun _ => refuses, fun _ => error⟩, agreesOutside_assign cc req,
      fun _ => ⟨rfl, rfl, rfl, assign_eq_self cc⟩, fun success => absurd success error⟩
  · rw [applyUpdate_of_accepts refuses updatedBy now]
    refine ⟨⟨fun error => absurd rfl error, fun holds => absurd holds refuses⟩,
      (agreesOutside_assign cc req).finish _ updatedBy now, fun error => absurd rfl error,
      fun _ => ⟨rfl, ?_, ?_⟩⟩
    · intro next requested
      by_contra refused
      exact refuses ⟨next, requested, by simpa using refused⟩
    · intro silent
      have valid := (validate_eq_nil_iff cc).mp silent
      have known : (req.status.getD cc.status).isValid = true := by
        cases requested : req.status with
        | none => exact valid.status
        | some next =>
          have allowed : cc.status.canTransitionTo next = true := by
            by_contra refused
            exact refuses ⟨next, requested, by simpa using refused⟩
          exact CostCenterStatus.isValid_of_canTransitionTo allowed
      rw [validate_eq_nil_iff]
      exact valid_assign_iff req valid known updatedBy now

/-- An accepted update makes a valid cost centre a distributed one without a method, and a refused
one has renamed it. -/
theorem applyUpdate_leaves_invalid :
    let cc : CostCenter := { tenantID := 1, code := "CC-1", name := "Operations" }
    let distribute : UpdateCostCenterRequest := { isDistributed := some true }
    let reopen : UpdateCostCenterRequest := { name := some "Sales", status := some .active }
    (cc.validate = [] ∧ (cc.applyUpdate distribute 7 Time.zero).2 = none ∧
      (cc.applyUpdate distribute 7 Time.zero).1.validate ≠ []) ∧
    ((cc.applyUpdate reopen 7 Time.zero).2 ≠ none ∧
      (cc.applyUpdate reopen 7 Time.zero).1 ≠ cc) := by
  decide +kernel

end CostCenter

end ErpFinance.Domain
