import Mathlib.Data.List.Induction
import Mathlib.Data.List.Nodup

/-!
# Indexes

A map filled by a loop over items, each stored under its key: a later item of
a key replaces the earlier one.  Where no two items share a key, a lookup
finds exactly the items.
-/

namespace ErpFinance.Library

variable {α β κ : Type*}

theorem nodup_map_of_determines {key : α → κ} {value : α → β} {items : List α}
    (nodup : (items.map key).Nodup)
    (determines : ∀ x ∈ items, ∀ y ∈ items, value x = value y → key x = key y) :
    (items.map value).Nodup := by
  rw [List.Nodup, List.pairwise_map] at nodup ⊢
  exact nodup.imp_of_mem fun {x y} xMember yMember different same =>
    different (determines x xMember y yMember same)

variable [DecidableEq κ]

/-- The map that a loop over the items fills. -/
def index (key : α → κ) (items : List α) : κ → Option α :=
  items.foldl (fun map item => Function.update map (key item) (some item)) (fun _ => none)

section Lookup

variable {key : α → κ} {items : List α} {item found : α} {k : κ}

theorem index_append (before : List α) (last : α) :
    index key (before ++ [last]) = Function.update (index key before) (key last) (some last) := by
  simp [index]

theorem index_eq_find? (items : List α) (k : κ) :
    index key items k = items.reverse.find? (fun item => key item = k) := by
  induction items using List.reverseRecOn with
  | nil => rfl
  | append_singleton before last ih =>
    rw [index_append, List.reverse_append, List.reverse_singleton, List.singleton_append,
      List.find?_cons]
    by_cases same : key last = k
    · subst same
      simp
    · rw [Function.update_of_ne (Ne.symm same), ih]
      simp [same]

theorem index_eq_some (lookup : index key items k = some found) :
    found ∈ items ∧ key found = k := by
  rw [index_eq_find?] at lookup
  exact ⟨List.mem_reverse.mp (List.mem_of_find?_eq_some lookup),
    by simpa using List.find?_some lookup⟩

theorem index_eq_none_iff : index key items k = none ↔ ∀ item ∈ items, key item ≠ k := by
  simp [index_eq_find?, List.find?_eq_none]

theorem exists_index (key : α → κ) (member : item ∈ items) :
    ∃ found, index key items (key item) = some found := by
  cases lookup : index key items (key item) with
  | none => exact absurd rfl (index_eq_none_iff.mp lookup item member)
  | some found => exact ⟨found, rfl⟩

theorem index_of_unique (member : item ∈ items)
    (unique : ∀ other ∈ items, key other = key item → other = item) :
    index key items (key item) = some item := by
  obtain ⟨found, lookup⟩ := exists_index key member
  obtain ⟨inItems, same⟩ := index_eq_some lookup
  rw [lookup, unique found inItems same]

/-- Where keys are distinct, the item of a key is found. -/
theorem index_key (nodup : (items.map key).Nodup) (member : item ∈ items) :
    index key items (key item) = some item :=
  index_of_unique member fun _ inItems same => List.inj_on_of_nodup_map nodup inItems member same

end Lookup

end ErpFinance.Library
