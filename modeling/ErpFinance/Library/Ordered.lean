import Mathlib.Data.List.Sort

/-!
# Ordered listings

Lists in ascending order of a number, as a store lists its rows.  A list with
strictly ascending numbers is determined by its members, so that statements
about pages and insertions come down to membership.
-/

namespace ErpFinance.Library

variable {α : Type*} (number : α → Int)

/-- The members of a list in ascending order of their numbers. -/
def ordered (xs : List α) : List α := xs.insertionSort (fun a b => number a ≤ number b)

def Ascending (xs : List α) : Prop := xs.Pairwise (fun a b => number a < number b)

variable {number} {xs ys : List α}

@[simp] theorem mem_ordered {x : α} : x ∈ ordered number xs ↔ x ∈ xs :=
  List.mem_insertionSort _

theorem pairwise_ordered (number : α → Int) (xs : List α) :
    (ordered number xs).Pairwise fun a b => number a ≤ number b := by
  have total : Std.Total (fun a b : α => number a ≤ number b) := ⟨fun a b => Int.le_total _ _⟩
  have transitive : IsTrans α (fun a b : α => number a ≤ number b) :=
    ⟨fun a b c => Int.le_trans⟩
  exact List.pairwise_insertionSort _ xs

theorem ascending_ordered (nodup : xs.Nodup)
    (inj : ∀ a ∈ xs, ∀ b ∈ xs, number a = number b → a = b) :
    Ascending number (ordered number xs) := by
  have distinct : (ordered number xs).Pairwise (fun a b => a ≠ b) :=
    (List.perm_insertionSort _ xs).nodup_iff.mpr nodup
  apply List.Pairwise.imp_of_mem _ ((pairwise_ordered number xs).and distinct)
  intro a b memberA memberB both
  have different : number a ≠ number b :=
    fun same => both.2 (inj a (mem_ordered.mp memberA) b (mem_ordered.mp memberB) same)
  omega

/-- Strictly ascending lists with the same members are the same. -/
theorem Ascending.eq_of_mem_iff (first : Ascending number xs) (second : Ascending number ys)
    (same : ∀ x, x ∈ xs ↔ x ∈ ys) : xs = ys := by
  have irreflexive : Std.Irrefl (fun a b : α => number a < number b) := ⟨fun a => Int.lt_irrefl _⟩
  have antisymmetric : Std.Antisymm (fun a b : α => number a < number b) :=
    ⟨fun a b lt gt => absurd lt (Int.not_lt.mpr (Int.le_of_lt gt))⟩
  exact List.Subset.antisymm_of_pairwise first second (fun x => (same x).mp)
    (fun x => (same x).mpr)

theorem Ascending.append (first : Ascending number xs) (second : Ascending number ys)
    (below : ∀ a ∈ xs, ∀ b ∈ ys, number a < number b) : Ascending number (xs ++ ys) :=
  List.pairwise_append.mpr ⟨first, second, below⟩

theorem le_getLast_of_ordered {last x : α} (isLast : (ordered number xs).getLast? = some last)
    (member : x ∈ xs) : number x ≤ number last := by
  have sorted := pairwise_ordered number xs
  obtain ⟨before, split⟩ := List.getLast?_eq_some_iff.mp isLast
  rw [split] at sorted
  have inOrdered : x ∈ before ++ [last] := split ▸ mem_ordered.mpr member
  rcases List.mem_append.mp inOrdered with earlier | isX
  · exact (List.pairwise_append.mp sorted).2.2 x earlier last (by simp)
  · rw [List.mem_singleton.mp isX]

end ErpFinance.Library
