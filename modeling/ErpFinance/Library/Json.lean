import Mathlib.Tactic.Common

/-!
# JSON trees

The tree a JSON text denotes, over any type of numbers.  The members of an
object are kept in the order in which the text has them.
-/

namespace ErpFinance.Library

inductive Json (ν : Type*) where
  | null
  | bool (b : Bool)
  | number (n : ν)
  | string (s : String)
  | array (items : List (Json ν))
  | object (members : List (String × Json ν))

namespace Json

variable {ν : Type*}

def isObject : Json ν → Bool
  | object _ => true
  | _ => false

def isArray : Json ν → Bool
  | array _ => true
  | _ => false

/-- A member that is left out of its object when it is empty. -/
def omitEmpty (empty : Bool) (name : String) (value : Json ν) : List (String × Json ν) :=
  if empty then [] else [(name, value)]

/-- What holds of every scalar, and of an array and an object whose parts have it,
holds of every tree. -/
theorem induction {motive : Json ν → Prop} (null : motive .null)
    (bool : ∀ b, motive (.bool b)) (number : ∀ n, motive (.number n))
    (string : ∀ s, motive (.string s))
    (array : ∀ items, (∀ item ∈ items, motive item) → motive (.array items))
    (object : ∀ members, (∀ member ∈ members, motive member.2) → motive (.object members))
    (json : Json ν) : motive json := by
  refine @Json.rec ν motive (fun items => ∀ item ∈ items, motive item)
    (fun members => ∀ member ∈ members, motive member.2)
    (fun member => motive member.2) null bool number string array object ?_ ?_ ?_ ?_ ?_ json
  · simp
  · intro item rest first others
    exact List.forall_mem_cons.mpr ⟨first, others⟩
  · simp
  · intro member rest first others
    exact List.forall_mem_cons.mpr ⟨first, others⟩
  · intro name value holds
    exact holds

end Json

end ErpFinance.Library
