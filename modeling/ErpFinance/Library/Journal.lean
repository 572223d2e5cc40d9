import Mathlib.Algebra.BigOperators.Group.List.Basic
import Mathlib.Data.List.Nodup
import Mathlib.Tactic.Abel

/-!
# Lines landing on places

A journal line has a place and a weight.  What lands on one place is the sum of
the weights of the lines there, in any order and however often a place is hit.
-/

namespace ErpFinance.Library

variable {ε κ M : Type*} [AddCommGroup M] [DecidableEq κ]

def landed (place : ε → κ) (weight : ε → M) (lines : List ε) (k : κ) : M :=
  (lines.map (fun line => if place line = k then weight line else 0)).sum

section Landed

variable {place : ε → κ} {weight other : ε → M}

@[simp] theorem landed_nil (k : κ) : landed place weight [] k = 0 := rfl

theorem landed_cons (line : ε) (rest : List ε) (k : κ) :
    landed place weight (line :: rest) k =
      (if place line = k then weight line else 0) + landed place weight rest k := by
  simp [landed]

theorem landed_append (first second : List ε) (k : κ) :
    landed place weight (first ++ second) k =
      landed place weight first k + landed place weight second k := by
  simp [landed]

theorem landed_perm {first second : List ε} (perm : first.Perm second) (k : κ) :
    landed place weight first k = landed place weight second k :=
  (perm.map _).sum_eq

variable {lines : List ε}

theorem landed_congr (same : ∀ line ∈ lines, weight line = other line) (k : κ) :
    landed place weight lines k = landed place other lines k := by
  unfold landed
  congr 1
  apply List.map_congr_left
  intro line member
  rw [same line member]

theorem landed_neg (lines : List ε) (k : κ) :
    landed place (fun line => -weight line) lines k = -landed place weight lines k := by
  induction lines with
  | nil => simp
  | cons line rest ih =>
    rw [landed_cons, landed_cons, ih]
    by_cases here : place line = k
    · simp only [here, if_true]
      abel
    · simp [here]

theorem landed_map {ε' : Type*} (rewrite : ε' → ε) (lines : List ε') (k : κ) :
    landed place weight (lines.map rewrite) k =
      landed (place ∘ rewrite) (weight ∘ rewrite) lines k := by
  simp [landed, Function.comp_def]

/-- Lines of one weight on a place land there as often as the place is hit. -/
theorem landed_of_forall {k : κ} {total : M}
    (same : ∀ line ∈ lines, place line = k → weight line = total) :
    landed place weight lines k = (lines.map place).count k • total := by
  induction lines with
  | nil => simp
  | cons line rest ih =>
    rw [List.forall_mem_cons] at same
    rw [landed_cons, ih same.2, List.map_cons, List.count_cons]
    by_cases here : place line = k
    · simp only [here, same.1 here, if_true, beq_self_eq_true, succ_nsmul]
      abel
    · simp [here]

/-- A place that is hit once gets the weight of its line. -/
theorem landed_of_nodup (nodup : (lines.map place).Nodup) {line : ε} (member : line ∈ lines) :
    landed place weight lines (place line) = weight line := by
  have same : ∀ other ∈ lines, place other = place line → weight other = weight line :=
    fun other inLines here => by rw [List.inj_on_of_nodup_map nodup inLines member here]
  rw [landed_of_forall same,
    List.count_eq_one_of_mem nodup (List.mem_map_of_mem member), one_nsmul]

theorem forall_landed_eq_iff_nodup [IsAddTorsionFree M] (nonzero : ∀ line ∈ lines, weight line ≠ 0)
    :
    (∀ line ∈ lines, landed place weight lines (place line) = weight line) ↔
      (lines.map place).Nodup := by
  constructor
  · intro alone
    rw [List.nodup_iff_count_le_one]
    intro k
    by_contra twice
    obtain ⟨line, member, rfl⟩ := List.mem_map.mp
      (List.count_pos_iff.mp (show 0 < (lines.map place).count k by omega))
    have same : ∀ other ∈ lines, place other = place line → weight other = weight line := by
      intro other inLines here
      rw [← alone other inLines, ← alone line member, here]
    -- all lines on the place have its whole weight, which is then zero
    have whole := alone line member
    rw [landed_of_forall same] at whole
    have more : ((lines.map place).count (place line) - 1) • weight line = 0 := by
      have split : (lines.map place).count (place line) =
          (lines.map place).count (place line) - 1 + 1 := by omega
      rw [split, succ_nsmul] at whole
      exact add_eq_right.mp whole
    exact nonzero line member ((nsmul_eq_zero_iff_right (by omega)).mp more)
  · exact fun nodup line member => landed_of_nodup nodup member

end Landed

end ErpFinance.Library
