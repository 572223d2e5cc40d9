import Mathlib.Tactic.Common

/-!
# Forests

A forest is given by a partial function from nodes to their parents.  The nodes
above a node are those that the function reaches from it, and every walk
upwards ends.  Hanging a node below another that is not beneath it keeps the
forest.
-/

namespace ErpFinance.Library.Forest

variable {α : Type*}

/-- The node so many steps above a node. -/
def above (parent : α → Option α) : Nat → α → Option α
  | 0, a => some a
  | k + 1, a => (parent a).bind (above parent k)

theorem above_one {parent : α → Option α} {a : α} : above parent 1 a = parent a := by
  rw [above]
  cases parent a <;> rfl

/-- Every walk upwards ends. -/
def Rooted (parent : α → Option α) : Prop := ∀ a, ∃ n, above parent n a = none

variable {parent other : α → Option α} {a b : α}

theorem above_add (j k : Nat) (a : α) :
    above parent (j + k) a = (above parent j a).bind (above parent k) := by
  induction j generalizing a with
  | zero => simp [above]
  | succ j ih =>
    rw [Nat.succ_add, above, above]
    cases parent a with
    | none => rfl
    | some b => exact ih b

/-- One more step above, taken at the end. -/
theorem above_succ (k : Nat) : above parent (k + 1) a = (above parent k a).bind parent := by
  rw [above_add]
  exact congrArg _ (funext fun _ => above_one)

/-- Two parents that agree along a walk lead the same way. -/
theorem above_congr (agree : ∀ j b, above parent j a = some b → other b = parent b) (k : Nat) :
    above other k a = above parent k a := by
  induction k with
  | zero => rfl
  | succ k ih =>
    rw [above_succ, above_succ, ih]
    cases reached : above parent k a with
    | none => rfl
    | some b => exact agree k b reached

section Hanging

variable [DecidableEq α] {e : α} {x : Option α}

/-- A walk that does not come by a node does not see it hung elsewhere. -/
theorem above_update (avoids : ∀ j, above parent j a ≠ some e) (k : Nat) :
    above (Function.update parent e x) k a = above parent k a :=
  above_congr (fun j b reached => by
    have elsewhere : b ≠ e := by
      rintro rfl
      exact avoids j reached
    exact Function.update_of_ne elsewhere x parent) k

theorem above_update_self (avoids : ∀ p ∈ x, ∀ j, above parent j p ≠ some e) (k : Nat) :
    above (Function.update parent e x) (k + 1) e = x.bind (above parent k) := by
  rw [above, Function.update_self]
  cases x with
  | none => rfl
  | some p => exact above_update (avoids p rfl) k

/-- Hanging a node below one that is not beneath it keeps the forest. -/
theorem Rooted.update (rooted : Rooted parent)
    (avoids : ∀ p ∈ x, ∀ j, above parent j p ≠ some e) :
    Rooted (Function.update parent e x) := by
  have fromNode : ∃ n, above (Function.update parent e x) n e = none := by
    cases x with
    | none => exact ⟨1, by rw [above_one, Function.update_self]⟩
    | some p =>
      obtain ⟨n, ends⟩ := rooted p
      exact ⟨n + 1, (above_update_self avoids n).trans ends⟩
  have walks : ∀ n a, above parent n a = none →
      ∃ m, above (Function.update parent e x) m a = none := by
    intro n
    induction n with
    | zero => exact fun a ends => by cases ends
    | succ n ih =>
      intro a ends
      by_cases here : a = e
      · exact here ▸ fromNode
      · rw [above] at ends
        cases up : parent a with
        | none => exact ⟨1, by rw [above_one, Function.update_of_ne here, up]⟩
        | some b =>
          rw [up, Option.bind_some] at ends
          obtain ⟨m, ended⟩ := ih b ends
          exact ⟨m + 1, by rw [above, Function.update_of_ne here, up]; exact ended⟩
  intro a
  obtain ⟨n, ends⟩ := rooted a
  exact walks n a ends

end Hanging

end ErpFinance.Library.Forest
