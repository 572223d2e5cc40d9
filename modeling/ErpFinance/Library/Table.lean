import Mathlib.Algebra.BigOperators.Group.List.Basic
import Mathlib.Data.List.Nodup
import Mathlib.Tactic.Abel

/-!
# Keyed tables

A finite table of rows with a primary key.  Key uniqueness is a field of the
table, so a table with two rows of one key cannot be built.  The operations
are those of a relational store: lookup by key, replacement of one row,
insertion of a fresh row and an update of every row that leaves keys alone.
-/

namespace ErpFinance.Library

/-- Rows that carry a primary key. -/
class Keyed (ρ : Type*) (κ : outParam (Type*)) where
  key : ρ → κ

open Keyed (key)

structure Table (ρ : Type*) {κ : Type*} [Keyed ρ κ] where
  rows : List ρ
  nodup : (rows.map key).Nodup

namespace Table

variable {ρ κ : Type*} [Keyed ρ κ]

/-- The table without rows. -/
def empty : Table ρ := ⟨[], List.nodup_nil⟩

theorem ext_rows {table other : Table ρ} (same : table.rows = other.rows) : table = other := by
  cases table
  cases other
  congr

def mapRows (table : Table ρ) (change : ρ → ρ)
    (keeps : ∀ row, key (change row) = key row) : Table ρ where
  rows := table.rows.map change
  nodup := by
    have sameKeys : (table.rows.map change).map key = table.rows.map key := by
      rw [List.map_map]
      exact List.map_congr_left (fun row _ => keeps row)
    rw [sameKeys]
    exact table.nodup

section Membership

variable {table : Table ρ}

theorem eq_of_key_eq {first second : ρ} (hfirst : first ∈ table.rows)
    (hsecond : second ∈ table.rows) (hkey : key first = key second) :
    first = second :=
  List.inj_on_of_nodup_map table.nodup hfirst hsecond hkey

theorem mem_mapRows {change : ρ → ρ}
    {keeps : ∀ row, key (change row) = key row} {row : ρ} :
    row ∈ (table.mapRows change keeps).rows ↔
      ∃ old ∈ table.rows, change old = row := by
  simp [mapRows]

end Membership

section Lookup

variable [DecidableEq κ]

/-- The row stored under a key. -/
def get? (table : Table ρ) (k : κ) : Option ρ :=
  table.rows.find? (fun row => key row = k)

variable {k : κ} {row : ρ}

theorem get?_eq_some_iff {table : Table ρ} :
    table.get? k = some row ↔ row ∈ table.rows ∧ key row = k := by
  constructor
  · intro found
    exact ⟨List.mem_of_find?_eq_some found,
      by simpa using List.find?_some found⟩
  · rintro ⟨member, rfl⟩
    cases found : table.get? (key row) with
    | none =>
      have absent := List.find?_eq_none.mp found row member
      simp at absent
    | some other =>
      have otherKey : key other = key row := by
        simpa using List.find?_some found
      rw [eq_of_key_eq (List.mem_of_find?_eq_some found) member otherKey]

theorem get?_eq_none_iff {table : Table ρ} :
    table.get? k = none ↔ ∀ row ∈ table.rows, key row ≠ k := by
  simp [get?, List.find?_eq_none]

theorem key_of_get? {table : Table ρ} (found : table.get? k = some row) : key row = k :=
  (get?_eq_some_iff.mp found).2

theorem mem_of_get? {table : Table ρ} (found : table.get? k = some row) : row ∈ table.rows :=
  (get?_eq_some_iff.mp found).1

theorem eq_of_get? {table : Table ρ} {row found : ρ} (lookup : table.get? k = some found)
    (member : row ∈ table.rows) (same : key row = k) : row = found :=
  eq_of_key_eq member (mem_of_get? lookup) (same.trans (key_of_get? lookup).symm)

theorem get?_key_of_mem {table : Table ρ} (member : row ∈ table.rows) :
    table.get? (key row) = some row :=
  get?_eq_some_iff.mpr ⟨member, rfl⟩

theorem get?_mapRows {table : Table ρ} {change : ρ → ρ} {keeps : ∀ row, key (change row) = key row}
    :
    (table.mapRows change keeps).get? k = (table.get? k).map change := by
  simp only [get?, mapRows, List.find?_map]
  congr 1
  apply congrArg (fun test => List.find? test table.rows)
  funext row
  simp [keeps]

/-- Replace the row with the new row's key; nothing happens when there is none. -/
def put (table : Table ρ) (new : ρ) : Table ρ :=
  table.mapRows (fun row => if key row = key new then new else row) (by
    intro row
    by_cases same : key row = key new <;> simp [same])

variable {new : ρ}

/-- Looking up after a replacement finds the new row exactly under its own key. -/
theorem get?_put {table : Table ρ} :
    (table.put new).get? k =
      if k = key new then (table.get? k).map (fun _ => new) else table.get? k := by
  rw [put, get?_mapRows]
  cases found : table.get? k with
  | none => simp
  | some row =>
    have rowKey := key_of_get? found
    by_cases same : k = key new <;> simp [rowKey, same]

theorem get?_put_self {table : Table ρ} {new old : ρ}
    (found : table.get? (key new) = some old) :
    (table.put new).get? (key new) = some new := by
  simp [get?_put, found]

theorem get?_put_of_ne {table : Table ρ} (different : k ≠ key new) :
    (table.put new).get? k = table.get? k := by
  simp [get?_put, different]

/-- A replacement keeps the set of keys. -/
theorem get?_put_isSome {table : Table ρ} :
    ((table.put new).get? k).isSome = (table.get? k).isSome := by
  rw [get?_put]
  split <;> simp

theorem mem_put {table : Table ρ} {new row : ρ} (member : row ∈ (table.put new).rows) :
    row = new ∨ (row ∈ table.rows ∧ key row ≠ key new) := by
  obtain ⟨old, oldMember, rfl⟩ := mem_mapRows.mp member
  by_cases same : key old = key new <;> simp [same, oldMember]

theorem mem_put_of_ne {table : Table ρ} {new row : ρ} (member : row ∈ table.rows)
    (different : key row ≠ key new) : row ∈ (table.put new).rows :=
  mem_mapRows.mpr ⟨row, member, by simp [different]⟩

theorem mem_put_self {table : Table ρ} {new old : ρ} (found : table.get? (key new) = some old) :
    new ∈ (table.put new).rows :=
  mem_of_get? (get?_put_self found)

/-- Add a row whose key is not in the table yet; an existing key refuses it. -/
def insert (table : Table ρ) (new : ρ) : Table ρ :=
  if fresh : table.get? (key new) = none then
    { rows := table.rows ++ [new]
      nodup := by
        rw [List.map_append, List.nodup_append']
        refine ⟨table.nodup, List.nodup_singleton _, ?_⟩
        intro k hrow hnew
        obtain ⟨row, member, rfl⟩ := List.mem_map.mp hrow
        exact get?_eq_none_iff.mp fresh row member (by simpa using hnew) }
  else table

theorem rows_insert {table : Table ρ} (fresh : table.get? (key new) = none) :
    (table.insert new).rows = table.rows ++ [new] := by
  simp [insert, fresh]

theorem get?_insert {table : Table ρ} (fresh : table.get? (key new) = none) :
    (table.insert new).get? k = if k = key new then some new else table.get? k := by
  have split : (table.insert new).get? k =
      (table.get? k).or (if key new = k then some new else none) := by
    simp only [get?, rows_insert fresh, List.find?_append]
    by_cases same : key new = k <;> simp [same]
  rw [split]
  by_cases same : k = key new
  · subst same
    simp [fresh]
  · simp [same, Ne.symm same]

/-- An insertion fills a free key and leaves a taken one alone. -/
theorem get?_insert_or {table : Table ρ} :
    (table.insert new).get? k = (table.get? k).or (if k = key new then some new else none) := by
  by_cases fresh : table.get? (key new) = none
  · rw [get?_insert fresh]
    by_cases same : k = key new
    · subst same
      simp [fresh]
    · simp [same]
  · have taken : table.insert new = table := by
      unfold insert
      rw [dif_neg fresh]
    rw [taken]
    by_cases same : k = key new
    · subst same
      obtain ⟨row, found⟩ := Option.ne_none_iff_exists'.mp fresh
      simp [found]
    · simp [same]

def remove (table : Table ρ) (k : κ) : Table ρ where
  rows := table.rows.filter (fun row => key row ≠ k)
  nodup := table.nodup.sublist (List.Sublist.map _ List.filter_sublist)

theorem get?_remove {table : Table ρ} {k other : κ} :
    (table.remove k).get? other = if other = k then none else table.get? other := by
  by_cases same : other = k
  · subst same
    simp only [if_true]
    rw [get?_eq_none_iff]
    intro row member
    exact of_decide_eq_true (List.mem_filter.mp member).2
  · rw [if_neg same]
    cases found : table.get? other with
    | none =>
      rw [get?_eq_none_iff] at found ⊢
      exact fun row member => found row (List.mem_filter.mp member).1
    | some row =>
      rw [get?_eq_some_iff] at found ⊢
      obtain ⟨member, rfl⟩ := found
      exact ⟨List.mem_filter.mpr ⟨member, decide_eq_true same⟩, rfl⟩

def keep (table : Table ρ) (test : ρ → Bool) : Table ρ where
  rows := table.rows.filter test
  nodup := table.nodup.sublist (List.Sublist.map _ List.filter_sublist)

/-- Removing the row that has just been inserted undoes the insertion. -/
theorem remove_insert {table : Table ρ} (fresh : table.get? (key new) = none) :
    (table.insert new).remove (key new) = table := by
  apply ext_rows
  have kept : table.rows.filter (fun row => key row ≠ key new) = table.rows :=
    List.filter_eq_self.mpr (fun row member =>
      decide_eq_true (get?_eq_none_iff.mp fresh row member))
  simp only [remove, rows_insert fresh, List.filter_append, kept]
  simp

/-- Tables with the same rows in another order have the same lookups. -/
theorem get?_congr {table other : Table ρ} (perm : table.rows.Perm other.rows) (k : κ) :
    table.get? k = other.get? k := by
  cases found : other.get? k with
  | none =>
    rw [get?_eq_none_iff] at found ⊢
    exact fun row member => found row (perm.mem_iff.mp member)
  | some row =>
    rw [get?_eq_some_iff] at found ⊢
    exact ⟨perm.mem_iff.mpr found.1, found.2⟩

/-- Every row of the later table continues a row of the earlier one with its key. -/
def Evolves (R : ρ → ρ → Prop) (before after : Table ρ) : Prop :=
  ∀ k row, after.get? k = some row → ∃ old, before.get? k = some old ∧ R old row

namespace Evolves

variable {R : ρ → ρ → Prop} {before middle after : Table ρ}

theorem refl (reflexive : ∀ row, R row row) (table : Table ρ) : Evolves R table table :=
  fun _ row found => ⟨row, found, reflexive row⟩

theorem trans (transitive : ∀ {a b c}, R a b → R b c → R a c) (first : Evolves R before middle)
    (second : Evolves R middle after) : Evolves R before after := by
  intro k row found
  obtain ⟨between, foundBetween, step⟩ := second k row found
  obtain ⟨old, foundOld, earlier⟩ := first k between foundBetween
  exact ⟨old, foundOld, transitive earlier step⟩

theorem remove (reflexive : ∀ row, R row row) (table : Table ρ) (k : κ) :
    Evolves R table (table.remove k) := by
  intro other row found
  rw [get?_remove] at found
  split at found
  · simp at found
  · exact ⟨row, found, reflexive row⟩

end Evolves

end Lookup

section Sums

variable {M : Type*} [AddCommGroup M] (weight : ρ → M)

def sum (table : Table ρ) : M := (table.rows.map weight).sum

theorem sum_congr {table : Table ρ} {weight other : ρ → M}
    (same : ∀ row ∈ table.rows, weight row = other row) :
    table.sum weight = table.sum other := by
  rw [sum, sum, List.map_congr_left same]

theorem sum_mapRows (table : Table ρ) (change : ρ → ρ)
    (keeps : ∀ row, key (change row) = key row) :
    (table.mapRows change keeps).sum weight = table.sum (fun row => weight (change row)) := by
  simp [sum, mapRows, Function.comp_def]

theorem sum_eq_zero {table : Table ρ} {weight : ρ → M}
    (zero : ∀ row ∈ table.rows, weight row = 0) : table.sum weight = 0 := by
  rw [sum_congr zero]
  simp [sum]

theorem sum_sub (table : Table ρ) (first second : ρ → M) :
    table.sum (fun row => first row - second row) = table.sum first - table.sum second := by
  unfold sum
  induction table.rows with
  | nil => simp
  | cons row rest ih =>
    simp only [List.map_cons, List.sum_cons, ih]
    abel

variable [DecidableEq κ]

/-- Only the row that was found contributes to a sum concentrated on its key. -/
theorem sum_single {table : Table ρ} {old : ρ} (member : old ∈ table.rows) (value : M) :
    table.sum (fun row => if key row = key old then value else 0) = value := by
  have nodup := table.nodup
  unfold sum
  generalize table.rows = rows at member nodup
  induction rows with
  | nil => simp at member
  | cons row rest ih =>
    rw [List.map_cons, List.nodup_cons] at nodup
    obtain ⟨rowFresh, restNodup⟩ := nodup
    simp only [List.map_cons, List.sum_cons]
    rcases List.mem_cons.mp member with rfl | inRest
    · have restZero :
          (rest.map (fun row => if key row = key old then value else 0)).sum = 0 := by
        apply List.sum_eq_zero
        intro x hx
        obtain ⟨other, otherMember, rfl⟩ := List.mem_map.mp hx
        have different : key other ≠ key old := fun same =>
          rowFresh (List.mem_map.mpr ⟨other, otherMember, same⟩)
        simp [different]
      simp [restZero]
    · have different : key row ≠ key old := fun same =>
        rowFresh (List.mem_map.mpr ⟨old, inRest, same.symm⟩)
      simp [different, ih inRest restNodup]

theorem sum_put {table : Table ρ} {new old : ρ}
    (found : table.get? (key new) = some old) :
    (table.put new).sum weight = table.sum weight + (weight new - weight old) := by
  have oldKey := key_of_get? found
  have oldMember := mem_of_get? found
  have moved : table.sum (fun row => weight (if key row = key new then new else row)
        - weight row) = weight new - weight old := by
    rw [← sum_single oldMember (weight new - weight old)]
    apply sum_congr
    intro row member
    by_cases same : key row = key new
    · have rowEq : row = old := eq_of_get? found member same
      simp [rowEq, oldKey]
    · simp [same, oldKey]
  rw [sum_sub] at moved
  rw [put, sum_mapRows, ← moved]
  abel

theorem sum_insert {table : Table ρ} {new : ρ}
    (fresh : table.get? (key new) = none) :
    (table.insert new).sum weight = table.sum weight + weight new := by
  simp [sum, rows_insert fresh]

end Sums

end Table

/-- An order in which to go through a collection that has none of its own. -/
structure Ranging (α : Type*) where
  order : List α → List α
  perm : ∀ items, (order items).Perm items

end ErpFinance.Library
