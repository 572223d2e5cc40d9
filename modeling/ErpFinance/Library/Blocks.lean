import Mathlib.Data.List.TakeWhile
import Mathlib.Tactic.Common

/-!
# Blocks told by their heads

Sequences that begin with a head and go on without one.  Put one after another
they can be told: the next block begins at the next head.
-/

namespace ErpFinance.Library

variable {α : Type*} {isHead : α → Bool} {block : List α} {blocks others : List (List α)}

/-- The first element is a head, and no other is. -/
def Headed (isHead : α → Bool) : List α → Prop
  | [] => False
  | head :: tail => isHead head = true ∧ ∀ x ∈ tail, isHead x = false

/-- Behind the head, a block ends where the next one begins. -/
theorem takeWhile_tail {tail : List α} (headless : ∀ x ∈ tail, isHead x = false)
    (headed : ∀ b ∈ blocks, Headed isHead b) :
    (tail ++ blocks.flatten).takeWhile (fun x => !isHead x) = tail := by
  rw [List.takeWhile_append_of_pos fun x member => by rw [headless x member, Bool.not_false]]
  cases blocks with
  | nil => exact List.append_nil tail
  | cons next rest =>
    cases next with
    | nil => exact (headed [] List.mem_cons_self).elim
    | cons head others =>
      have isNext := (headed _ List.mem_cons_self).1
      rw [List.flatten_cons, List.cons_append, List.takeWhile_cons_of_neg (by simp [isNext]),
        List.append_nil]

/-- Elements of a kind, and after them elements of no such kind, can be told. -/
theorem append_kind_inj (kind : α → Prop) [DecidablePred kind] {xs xs' ys ys' : List α}
    (first : ∀ x ∈ xs, kind x) (first' : ∀ x ∈ xs', kind x) (second : ∀ y ∈ ys, ¬ kind y)
    (second' : ∀ y ∈ ys', ¬ kind y) (same : xs ++ ys = xs' ++ ys') : xs = xs' ∧ ys = ys' := by
  have kept : ∀ {xs ys : List α}, (∀ x ∈ xs, kind x) → (∀ y ∈ ys, ¬ kind y) →
      (xs ++ ys).filter (fun x => kind x) = xs := by
    intro xs ys first second
    rw [List.filter_append, List.filter_eq_self.mpr fun x member => decide_eq_true (first x member),
      List.filter_eq_nil_iff.mpr fun y member => by simpa using second y member, List.append_nil]
  have fronts : xs = xs' := by rw [← kept first second, same, kept first' second']
  subst fronts
  exact ⟨rfl, List.append_cancel_left same⟩

/-- Blocks can be told when they stand one after another. -/
theorem flatten_inj (headed : ∀ b ∈ blocks, Headed isHead b)
    (headed' : ∀ b ∈ others, Headed isHead b) (same : blocks.flatten = others.flatten) :
    blocks = others := by
  induction blocks generalizing others with
  | nil =>
    cases others with
    | nil => rfl
    | cons second others =>
      cases second with
      | nil => exact (headed' [] List.mem_cons_self).elim
      | cons head tail => simp at same
  | cons first blocks ih =>
    obtain ⟨headFirst, headBlocks⟩ := List.forall_mem_cons.mp headed
    cases first with
    | nil => exact headFirst.elim
    | cons head tail =>
      cases others with
      | nil => simp at same
      | cons second others =>
        obtain ⟨headSecond, headOthers⟩ := List.forall_mem_cons.mp headed'
        cases second with
        | nil => exact headSecond.elim
        | cons head' tail' =>
          rw [List.flatten_cons, List.flatten_cons, List.cons_append,
            List.cons_append] at same
          obtain ⟨rfl, rest⟩ := List.cons.inj same
          have tails : tail = tail' := by
            rw [← takeWhile_tail headFirst.2 headBlocks, rest,
              takeWhile_tail headSecond.2 headOthers]
          subst tails
          rw [ih headBlocks headOthers (List.append_cancel_left rest)]

end ErpFinance.Library
