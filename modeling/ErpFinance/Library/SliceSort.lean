import ErpFinance.Library.Text
import Mathlib.Data.String.Basic

/-!
# Sorting by a text

What is promised of a sorting by a text that need not be stable: the same
elements, in ascending order of their texts.  Elements with different texts
come out in one order, however they were given.
-/

namespace ErpFinance.Library

/-- A sorting of slices by a text; the order among equal texts is its own. -/
structure SliceSort where
  byKey {α : Type} (key : α → String) : List α → List α
  perm {α : Type} (key : α → String) (xs : List α) : (byKey key xs).Perm xs
  sorted {α : Type} (key : α → String) (xs : List α) :
    (byKey key xs).Pairwise fun x y => key x ≤ key y

namespace SliceSort

variable {α : Type} {key : α → String} {xs ys : List α}

/-- Elements with different texts are sorted alike by all sortings, from every order. -/
theorem byKey_congr (sorting other : SliceSort) (distinct : (xs.map key).Nodup)
    (perm : xs.Perm ys) : sorting.byKey key xs = other.byKey key ys := by
  have first := sorting.perm key xs
  have same : (sorting.byKey key xs).Perm (other.byKey key ys) :=
    first.trans (perm.trans (other.perm key ys).symm)
  refine same.eq_of_pairwise (fun x y inFirst inSecond below above => ?_) (sorting.sorted key xs)
    (other.sorted key ys)
  have inXs := first.subset inFirst
  have inYs := perm.symm.subset ((other.perm key ys).subset inSecond)
  exact List.inj_on_of_nodup_map distinct inXs inYs (le_antisymm below above)

section View

variable {β γ : Type} {view : α → β} {label : β → String} {render : α → γ}

/-- What is seen of elements comes out in one order when it shows the texts they are sorted by. -/
theorem map_byKey_congr (sorting : SliceSort) (shows : ∀ x, label (view x) = key x)
    (distinct : (xs.map key).Nodup) (perm : (xs.map view).Perm (ys.map view)) :
    (sorting.byKey key xs).map view = (sorting.byKey key ys).map view := by
  have same : ((sorting.byKey key xs).map view).Perm ((sorting.byKey key ys).map view) :=
    ((sorting.perm key xs).map view).trans (perm.trans ((sorting.perm key ys).map view).symm)
  have labels : ((xs.map view).map label).Nodup := by
    rw [List.map_map]
    simpa only [Function.comp_def, shows] using distinct
  have ascending : ∀ zs : List α, ((sorting.byKey key zs).map view).Pairwise
      fun x y => label x ≤ label y := by
    intro zs
    rw [List.pairwise_map]
    simpa only [shows] using sorting.sorted key zs
  refine same.eq_of_pairwise (fun x y inFirst inSecond below above => ?_) (ascending xs)
    (ascending ys)
  have inXs := ((sorting.perm key xs).map view).subset inFirst
  have inYs := perm.symm.subset (((sorting.perm key ys).map view).subset inSecond)
  exact List.inj_on_of_nodup_map labels inXs inYs (le_antisymm below above)

/-- What depends on the elements only as far as they are seen is seen alike. -/
theorem map_eq_of_view (depends : ∀ x ∈ xs, ∀ y ∈ ys, view x = view y → render x = render y)
    (same : xs.map view = ys.map view) : xs.map render = ys.map render := by
  induction xs generalizing ys with
  | nil =>
    obtain rfl := List.map_eq_nil_iff.mp same.symm
    rfl
  | cons x xs ih =>
    obtain ⟨y, rest, rfl, first, others⟩ := List.map_eq_cons_iff.mp same.symm
    have heads := depends x List.mem_cons_self y List.mem_cons_self first.symm
    have tails := ih (fun x inXs y inRest => depends x (List.mem_cons_of_mem _ inXs) y
      (List.mem_cons_of_mem _ inRest)) others.symm
    rw [List.map_cons, List.map_cons, heads, tails]

end View

theorem mem_byKey (sorting : SliceSort) {x : α} : x ∈ sorting.byKey key xs ↔ x ∈ xs :=
  (sorting.perm key xs).mem_iff

/-- The texts themselves are sorted. -/
theorem map_byKey (sorting : SliceSort) (key : α → String) (xs : List α) :
    (sorting.byKey key xs).map key = sortStrings (xs.map key) := by
  refine List.Perm.eq_of_pairwise' ?_ (List.pairwise_insertionSort _ _)
    (((sorting.perm key xs).map key).trans (sortStrings_perm _).symm)
  rw [List.pairwise_map]
  exact sorting.sorted key xs

def insertion : SliceSort where
  byKey key xs := xs.insertionSort fun x y => key x ≤ key y
  perm key xs := List.perm_insertionSort _ xs
  sorted key xs := by
    have total : Std.Total fun x y => key x ≤ key y := ⟨fun x y => le_total (key x) (key y)⟩
    have transitive : IsTrans _ fun x y => key x ≤ key y := ⟨fun x y z => le_trans⟩
    exact List.pairwise_insertionSort _ xs

end SliceSort

end ErpFinance.Library
