import ErpFinance.Library.Json
import ErpFinance.Library.Text
import Mathlib.Data.List.AList
import Mathlib.Data.List.Dedup
import Mathlib.Data.List.Perm.Subperm
import Mathlib.Data.String.Basic

/-!
# Changed fields

The names of the fields that an update has changed.  Values that are made of
parts are compared by the text that `fmt` prints of them, so that the names are
exactly those whose values differ as long as such texts tell the values.
-/

namespace ErpFinance.Audit

open Library

/-- A value that is no text, no boolean and not made of parts, in one of several Go types. -/
structure Scalars (ν : Type) where
  /-- The types `int`, `int32`, `int64`, `float32` and `float64`. -/
  direct : ν → Bool
  /-- `==` of two interfaces, which compares the types too. -/
  eq : ν → ν → Bool
  /-- `%v`. -/
  text : ν → String

/-- `%v` of a map with these keys and values. -/
def showMembers (members : List (String × String)) : String :=
  "map[" ++ " ".intercalate ((members.insertionSort fun first second => first.1 ≤ second.1).map
    fun member => member.1 ++ ":" ++ member.2) ++ "]"

/-- `map[string]any`. -/
abbrev Fields (ν : Type) := AList fun _ : String => Json ν

section Values

variable {ν : Type} (go : Scalars ν)

mutual

/-- `fmt.Sprintf("%v", value)`. -/
def sprint : Json ν → String
  | .null => "<nil>"
  | .bool b => if b then "true" else "false"
  | .number n => go.text n
  | .string s => s
  | .array items => "[" ++ " ".intercalate (sprintItems items) ++ "]"
  | .object members => showMembers (sprintMembers members)

def sprintItems : List (Json ν) → List String
  | [] => []
  | item :: rest => sprint item :: sprintItems rest

def sprintMembers : List (String × Json ν) → List (String × String)
  | [] => []
  | (name, value) :: rest => (name, sprint value) :: sprintMembers rest

end

def equalValues (a b : Json ν) : Bool :=
  match a, b with
  | .null, .null => true
  | .null, _ => false
  | _, .null => false
  | .string s, .string t => s = t
  | .string _, _ => false
  | .bool p, .bool q => p = q
  | .bool _, _ => false
  | .number p, .number q => if go.direct p then go.eq p q else go.text p = go.text q
  | .number p, b => !go.direct p && go.text p = sprint go b
  | a, b => sprint go a = sprint go b

/-- `ComputeChangedFields`; the list is nil where there is no map on one side. -/
def computeChangedFields (before after : Option (Fields ν)) : List String :=
  match before, after with
  | some b, some a =>
    sortStrings ((b.keys ++ a.keys).dedup.filter fun name =>
      match b.lookup name, a.lookup name with
      | some bv, some av => !equalValues go bv av
      | _, _ => true)
  | _, _ => []

/-! ## Structure -/

mutual

/-- The same structure: the same parts in a list, and under the same keys in a map. -/
def same : Json ν → Json ν → Bool
  | .null, .null => true
  | .bool p, .bool q => p = q
  | .number p, .number q => go.eq p q
  | .string s, .string t => s = t
  | .array items, .array others => sameItems items others
  | .object members, .object others => members.length = others.length && sameMembers members others
  | _, _ => false

def sameItems : List (Json ν) → List (Json ν) → Bool
  | [], [] => true
  | item :: rest, other :: others => same item other && sameItems rest others
  | _, _ => false

/-- Every member has its like among the others. -/
def sameMembers : List (String × Json ν) → List (String × Json ν) → Bool
  | [], _ => true
  | (name, value) :: rest, others =>
    (match others.lookup name with
    | some other => same value other
    | none => false) && sameMembers rest others

end

/-- What two maps hold under one name is the same, or nothing in both. -/
abbrev SameAt (value other : Option (Json ν)) : Prop :=
  Option.Rel (fun b a => same go b a = true) value other

/-! ## The fields that have changed -/

variable {go}

/-- Exactly the names of what is not the same in both maps, each once and in their order. -/
structure Exact (go : Scalars ν) (before after : Fields ν) (changed : List String) : Prop where
  sorted : changed.Pairwise (· < ·)
  mem : ∀ name, name ∈ changed ↔ ¬ SameAt go (before.lookup name) (after.lookup name)
  empty : changed = [] ↔ ∀ name, SameAt go (before.lookup name) (after.lookup name)

/-- Values that `equalValues` compares by their texts. -/
def fallsBack (go : Scalars ν) (b a : Json ν) : Bool :=
  match b, a with
  | _, .null => false
  | .number n, _ => !go.direct n
  | .array _, _ => true
  | .object _, _ => true
  | _, _ => false

/-- Values whose texts are compared have one text where they have one structure. -/
def Told (go : Scalars ν) (b a : Json ν) : Prop :=
  fallsBack go b a = true → (sprint go b = sprint go a ↔ same go b a = true)

/-- Values are taken for equal when they are the same, if their texts tell them. -/
theorem equalValues_iff_same (b a : Json ν) :
    (equalValues go b a = true ↔ same go b a = true) ↔ Told go b a := by
  unfold Told
  cases b with
  | null => cases a <;> simp [equalValues, same, fallsBack]
  | bool p => cases a <;> simp [equalValues, same, fallsBack]
  | string s => cases a <;> simp [equalValues, same, fallsBack]
  | number p =>
    cases direct : go.direct p <;> cases a <;>
      simp [equalValues, same, fallsBack, sprint, direct] <;> exact decide_eq_false_iff_not
  | array items => cases a <;> simp [equalValues, same, fallsBack]
  | object members => cases a <;> simp [equalValues, same, fallsBack]

section Maps

variable {before after : Fields ν}

theorem mem_computeChangedFields {name : String} :
    name ∈ computeChangedFields go (some before) (some after) ↔
      ¬ Option.Rel (fun b a => equalValues go b a = true) (before.lookup name)
        (after.lookup name) := by
  have present : ∀ {fields : Fields ν} {value}, fields.lookup name = some value →
      name ∈ fields.keys := fun found => AList.lookup_isSome.mp (by rw [found]; rfl)
  have absent : ∀ {fields : Fields ν}, fields.lookup name = none → name ∉ fields.keys :=
    fun missing inKeys => AList.lookup_eq_none.mp missing inKeys
  rw [computeChangedFields, mem_sortStrings, List.mem_filter, List.mem_dedup, List.mem_append]
  cases inBefore : before.lookup name <;> cases inAfter : after.lookup name
  · simp [absent inBefore, absent inAfter]
  · simp [present inAfter]
  · simp [present inBefore]
  · simp [present inBefore]

theorem sorted_computeChangedFields :
    (computeChangedFields go (some before) (some after)).Pairwise (· < ·) := by
  rw [computeChangedFields]
  have nodup := (sortStrings_perm _).nodup_iff.mpr
    ((List.nodup_dedup (before.keys ++ after.keys)).filter fun name =>
      match before.lookup name, after.lookup name with
      | some bv, some av => !equalValues go bv av
      | _, _ => true)
  exact (List.pairwise_insertionSort _ _).imp₂ (fun _ _ le ne => lt_of_le_of_ne le ne) nodup

/--
Of any two maps the changed fields are exactly those that differ in structure if
and only if, under every name that both have, the texts of values that are
compared by their texts tell the values.
-/
theorem changedFields_exact_iff (go : Scalars ν) (before after : Fields ν) :
    Exact go before after (computeChangedFields go (some before) (some after)) ↔
      ∀ name b a, before.lookup name = some b → after.lookup name = some a → Told go b a := by
  constructor
  · intro exact name b a inBefore inAfter
    refine (equalValues_iff_same b a).mp ?_
    have listed := exact.mem name
    rw [mem_computeChangedFields, inBefore, inAfter, not_iff_not] at listed
    simpa using listed
  · intro told
    have alike : ∀ name, Option.Rel (fun b a => equalValues go b a = true) (before.lookup name)
        (after.lookup name) ↔ SameAt go (before.lookup name) (after.lookup name) := by
      intro name
      cases inBefore : before.lookup name <;> cases inAfter : after.lookup name
      · simp
      · simp
      · simp
      · simpa using (equalValues_iff_same _ _).mpr (told name _ _ inBefore inAfter)
    have mem : ∀ name, name ∈ computeChangedFields go (some before) (some after) ↔
        ¬ SameAt go (before.lookup name) (after.lookup name) := fun name => by
      rw [mem_computeChangedFields, alike]
    refine ⟨sorted_computeChangedFields, mem, ?_⟩
    rw [List.eq_nil_iff_forall_not_mem]
    exact forall_congr' fun name => by rw [mem, not_not]

end Maps

end Values

/-- The type `int` alone. -/
def ints : Scalars Int where
  direct _ := true
  eq p q := p = q
  text := toString

/-- A record with tags. -/
def tagged (tags : List String) : Fields Int :=
  AList.singleton "tags" (.array (tags.map .string))

theorem lookup_tagged (tags : List String) :
    (tagged tags).lookup "tags" = some (.array (tags.map .string)) :=
  List.dlookup_cons_eq [] "tags" _

/-- One tag with a blank in it prints like two tags. -/
theorem tags_unlisted : computeChangedFields ints (some (tagged ["paid late"]))
      (some (tagged ["paid", "late"])) = [] ∧
    ¬ Exact ints (tagged ["paid late"]) (tagged ["paid", "late"])
      (computeChangedFields ints (some (tagged ["paid late"]))
        (some (tagged ["paid", "late"]))) := by
  have unlisted : computeChangedFields ints (some (tagged ["paid late"]))
      (some (tagged ["paid", "late"])) = [] := by decide +kernel
  refine ⟨unlisted, fun exact => ?_⟩
  have alike := exact.empty.mp unlisted "tags"
  rw [lookup_tagged, lookup_tagged] at alike
  simp [same, sameItems] at alike

end ErpFinance.Audit
