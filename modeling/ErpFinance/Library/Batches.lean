import Mathlib.Algebra.Order.BigOperators.Group.List
import Mathlib.Algebra.Order.Group.Nat

/-!
# Batches

A list that is worked through in batches: elements are held back until there
are enough of them, and what is held back at the end is the last batch.
-/

namespace ErpFinance.Library

variable {α β γ : Type*}

/-- The batches of a list behind elements that are held back. -/
def batches (size : Int) : List α → List α → List (List α)
  | [], [] => []
  | first :: pending, [] => [first :: pending]
  | pending, x :: rest =>
    if ((pending ++ [x]).length : Int) ≥ size then (pending ++ [x]) :: batches size [] rest
    else batches size (pending ++ [x]) rest

theorem batches_nil_right {size : Int} {pending : List α} (some : pending ≠ []) :
    batches size pending [] = [pending] := by
  cases pending with
  | nil => exact absurd rfl some
  | cons first pending => rfl

theorem batches_cons (size : Int) (pending : List α) (x : α) (rest : List α) :
    batches size pending (x :: rest) =
      if ((pending ++ [x]).length : Int) ≥ size then (pending ++ [x]) :: batches size [] rest
      else batches size (pending ++ [x]) rest := by
  cases pending <;> rfl

/-- No element is lost between the batches, and none is in two of them. -/
theorem flatten_batches (size : Int) (pending rest : List α) :
    (batches size pending rest).flatten = pending ++ rest := by
  induction rest generalizing pending with
  | nil =>
    cases pending with
    | nil => rfl
    | cons first pending => rfl
  | cons x rest ih =>
    rw [batches_cons]
    split
    · rw [List.flatten_cons, ih, List.append_assoc]
      rfl
    · rw [ih, List.append_assoc]
      rfl

/-- Parts that are either whole or missing come together to the whole only when none is
missing. -/
theorem flatMap_eq_flatMap_iff {kept whole : β → List γ} {parts : List β}
    (either : ∀ part ∈ parts, kept part = whole part ∨ kept part = []) :
    parts.flatMap kept = parts.flatMap whole ↔ ∀ part ∈ parts, kept part = whole part := by
  induction parts with
  | nil => exact iff_of_true rfl fun part inNil => nomatch inNil
  | cons part rest ih =>
    rw [List.forall_mem_cons] at either
    rw [List.flatMap_cons, List.flatMap_cons, List.forall_mem_cons, ← ih either.2]
    constructor
    · intro same
      have fewer : (rest.flatMap kept).length ≤ (rest.flatMap whole).length := by
        rw [List.length_flatMap, List.length_flatMap]
        refine List.sum_le_sum fun other inRest => ?_
        rcases either.2 other inRest with all | none
        · rw [all]
        · rw [none, List.length_nil]
          exact Nat.zero_le _
      have here : kept part = whole part := by
        rcases either.1 with all | none
        · exact all
        · have lengths := congrArg List.length same
          rw [none, List.length_append, List.length_append, List.length_nil] at lengths
          have empty : whole part = [] := List.length_eq_zero_iff.mp (by omega)
          rw [none, empty]
      rw [here] at same
      exact ⟨here, List.append_cancel_left same⟩
    · rintro ⟨here, others⟩
      rw [here, others]

end ErpFinance.Library
