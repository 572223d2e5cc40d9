import ErpFinance.Domain.Basics
import ErpFinance.Library.Json
import Mathlib.Data.List.AList

/-!
# Records

The values that a record carries under the names of its fields.  They come
from request bodies, defaults, hooks and the database, so that beside what a
JSON text denotes there are identifiers and instants.
-/

namespace ErpFinance.Runtime

open Domain Library

/-- A number, an identifier or an instant in nanoseconds. -/
inductive Scalar where
  | number (q : ℚ)
  | uuid (id : Uuid)
  | time (nanos : Nat)
deriving DecidableEq

/-- `any`; `null` is nil. -/
abbrev Value := Json Scalar

namespace Value

def uuid (id : Uuid) : Value := .number (.uuid id)

def time (nanos : Nat) : Value := .number (.time nanos)

def isNull : Value → Bool
  | .null => true
  | _ => false

def asString : Value → String
  | .string s => s
  | _ => ""

def asUuid : Value → Option Uuid
  | .number (.uuid id) => some id
  | _ => none

def asTime : Value → Option Nat
  | .number (.time nanos) => some nanos
  | _ => none

theorem eq_string_of_asString {value : Value} {text : String} (some : text ≠ "")
    (read : value.asString = text) : value = .string text := by
  cases value with
  | string other => rw [← read]; rfl
  | null => exact absurd read.symm some
  | bool _ => exact absurd read.symm some
  | number _ => exact absurd read.symm some
  | array _ => exact absurd read.symm some
  | object _ => exact absurd read.symm some

end Value

/-- `map[string]any`. -/
abbrev Object := AList fun _ : String => Value

namespace Object

/-- What an index into the map reads. -/
def get (o : Object) (key : String) : Value := (o.lookup key).getD .null

/-- `mergeMaps`: what the patch has replaces what the base has. -/
def merge (base patch : Object) : Object := patch ∪ base

/-- A value that holds a JSON object. -/
def toValue (o : Object) : Value := .object (o.entries.map fun entry => (entry.1, entry.2))

def ofValue : Value → Object
  | .object members => (members.map fun member => ⟨member.1, member.2⟩).toAList
  | _ => ∅

def mapValues (change : String → Value → Value) (o : Object) : Object where
  entries := o.entries.map fun entry => ⟨entry.1, change entry.1 entry.2⟩
  nodupKeys := by
    rw [List.NodupKeys, List.keys, List.map_map]
    exact o.nodupKeys

variable {base patch : Object} {key : String} {value : Value}

theorem get_merge_of_mem (present : key ∈ patch) : (base.merge patch).get key = patch.get key := by
  rw [get, merge, AList.lookup_union_left present, get]

theorem get_merge_of_notMem (absent : key ∉ patch) : (base.merge patch).get key = base.get key := by
  rw [get, merge, AList.lookup_union_right absent, get]

theorem mem_merge : key ∈ base.merge patch ↔ key ∈ patch ∨ key ∈ base := AList.mem_union

/-- Reading an object back from its value finds what it has. -/
theorem lookup_ofValue_toValue (o : Object) (key : String) :
    (ofValue o.toValue).lookup key = o.lookup key := by
  rw [toValue, ofValue, AList.lookup_to_alist, List.map_map, AList.lookup]
  exact congrArg _ (List.map_id _)

@[simp] theorem get_insert_self (o : Object) (key : String) (value : Value) :
    get (o.insert key value) key = value := by
  rw [get, AList.lookup_insert, Option.getD_some]

theorem get_insert_of_ne {o : Object} {other : String} (different : other ≠ key) :
    get (o.insert key value) other = o.get other := by
  rw [get, AList.lookup_insert_ne different, get]

end Object

structure Actor where
  userID : Uuid
  serviceAccountID : Uuid
  tenantID : Uuid
  roles : List String
deriving DecidableEq

/-- `EntityRecord`, with the actor of its `Meta`. -/
structure EntityRecord where
  id : Uuid := Uuid.Nil
  tenantID : Uuid := Uuid.Nil
  entityName : String
  data : Object := ∅
  customFields : Object := ∅
  createdAt : Nat := 0
  updatedAt : Nat := 0
  actor : Option Actor := none

/-- What a request carries along: its tenant, the open transaction, the viewer and the
random bytes that hooks draw. -/
structure Context where
  tenant : Option Uuid := none
  conn : Option Nat := none
  viewer : Option Actor := none
  entropy : Nat := 0

namespace EntityRecord

variable (r : EntityRecord)

def get (field : String) : Value := r.data.get field

def set (field : String) (value : Value) : EntityRecord :=
  { r with data := r.data.insert field value }

def getString (field : String) : String := (r.get field).asString

end EntityRecord

end ErpFinance.Runtime
