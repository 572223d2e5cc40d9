import Mathlib.Data.List.Induction
import Mathlib.Logic.Relation

/-!
# Guarded runs

A system is a total step function on states; a step that fails is still a
step, whose state is whatever the failing operation left behind.  A run is a
finite sequence of steps each of which met a guard in the state it started
from.  An invariant that every guarded step keeps holds in every state of a
run.
-/

namespace ErpFinance.Library

variable {σ ι : Type*}

/-- States reachable by steps whose inputs meet the guard when they are taken. -/
inductive Run (step : σ → ι → σ) (guard : σ → ι → Prop) (start : σ) : σ → Prop where
  | refl : Run step guard start start
  | tail {middle : σ} (input : ι) (before : Run step guard start middle)
      (met : guard middle input) : Run step guard start (step middle input)

namespace Run

variable {step : σ → ι → σ} {guard : σ → ι → Prop} {start state : σ}

/-- An invariant kept by every guarded step holds at the end of every run. -/
theorem invariant {inv : σ → Prop} (run : Run step guard start state) (init : inv start)
    (keeps : ∀ middle input, guard middle input → inv middle → inv (step middle input)) :
    inv state := by
  induction run with
  | refl => exact init
  | tail input before met ih => exact keeps _ input met ih

theorem mono {weaker : σ → ι → Prop} (run : Run step guard start state)
    (implies : ∀ middle input, guard middle input → weaker middle input) :
    Run step weaker start state := by
  induction run with
  | refl => exact .refl
  | tail input before met ih => exact .tail input ih (implies _ input met)

theorem trans {last : σ} (first : Run step guard start state)
    (second : Run step guard state last) : Run step guard start last := by
  induction second with
  | refl => exact first
  | tail input before met ih => exact .tail input ih met

theorem foldl {inputs : List ι} (guards : ∀ (k : Nat) (bound : k < inputs.length),
    guard ((inputs.take k).foldl step start) inputs[k]) :
    Run step guard start (inputs.foldl step start) := by
  induction inputs using List.reverseRecOn with
  | nil => exact .refl
  | append_singleton before last ih =>
    rw [List.foldl_append]
    refine .tail last (ih ?_) ?_
    · intro k bound
      have met := guards k (by simp; omega)
      rw [List.take_append_of_le_length (by omega), List.getElem_append_left bound] at met
      exact met
    · simpa using guards before.length (by simp)

theorem foldl_of_forall {inputs : List ι}
    (guards : ∀ middle, ∀ input ∈ inputs, guard middle input) :
    Run step guard start (inputs.foldl step start) :=
  .foldl fun _ bound => guards _ _ (List.getElem_mem bound)

end Run

end ErpFinance.Library
