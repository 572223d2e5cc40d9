import Mathlib.Logic.Function.Basic

/-!
# Entries that lapse

A store of values under keys, each with the instant at which it lapses.  A
lookup at some instant finds the values that have not lapsed by then; what it
does not find it finds at no later instant, unless it is stored again.
-/

namespace ErpFinance.Library

universe u v

/-- Values under keys, each with the instant at which it lapses. -/
abbrev Lapsing (κ : Type u) (α : Type v) := κ → Option (α × Nat)

namespace Lapsing

variable {κ : Type u} {α : Type v} {clock : Nat} {k other : κ} {value : α}

/-- No value at all. -/
def empty : Lapsing κ α := fun _ => none

/-- The value of a key at an instant. -/
def live (entries : Lapsing κ α) (clock : Nat) (k : κ) : Option α :=
  (entries k).bind fun entry => if clock < entry.2 then some entry.1 else none

theorem live_eq_some {entries : Lapsing κ α} :
    entries.live clock k = some value ↔
      ∃ lapse, entries k = some (value, lapse) ∧ clock < lapse := by
  cases stored : entries k with
  | none => simp [live, stored]
  | some entry =>
    obtain ⟨old, lapse⟩ := entry
    simp only [live, stored, Option.bind_some, Option.ite_none_right_eq_some, Option.some.injEq,
      Prod.mk.injEq]
    constructor
    · rintro ⟨inTime, rfl⟩
      exact ⟨lapse, ⟨rfl, rfl⟩, inTime⟩
    · rintro ⟨_, ⟨rfl, rfl⟩, inTime⟩
      exact ⟨inTime, rfl⟩

/-- What is found was to be found at every earlier instant. -/
theorem live_of_later {entries : Lapsing κ α} {later : Nat} (order : clock ≤ later)
    (found : entries.live later k = some value) : entries.live clock k = some value := by
  obtain ⟨lapse, stored, inTime⟩ := live_eq_some.mp found
  exact live_eq_some.mpr ⟨lapse, stored, Nat.lt_of_le_of_lt order inTime⟩

theorem live_eq_none_of_earlier {entries : Lapsing κ α} {later : Nat} (order : clock ≤ later)
    (absent : entries.live clock k = none) : entries.live later k = none := by
  cases found : entries.live later k with
  | none => rfl
  | some value =>
    rw [live_of_later order found] at absent
    cases absent

variable [DecidableEq κ] (entries : Lapsing κ α)

/-- Store a value until an instant. -/
def put (k : κ) (value : α) (lapse : Nat) : Lapsing κ α :=
  Function.update entries k (some (value, lapse))

/-- Remove the value of a key. -/
def drop (k : κ) : Lapsing κ α := Function.update entries k none

theorem put_eq_some_cases {lapse : Nat} {entry : α × Nat}
    (stored : entries.put k value lapse other = some entry) :
    (other = k ∧ entry = (value, lapse)) ∨ (other ≠ k ∧ entries other = some entry) := by
  by_cases same : other = k
  · subst same
    rw [put, Function.update_self] at stored
    exact .inl ⟨rfl, (Option.some.inj stored).symm⟩
  · rw [put, Function.update_of_ne same] at stored
    exact .inr ⟨same, stored⟩

/-- An entry that is left was there before. -/
theorem eq_some_of_drop {entry : α × Nat} (stored : entries.drop k other = some entry) :
    entries other = some entry := by
  by_cases same : other = k
  · subst same
    rw [drop, Function.update_self] at stored
    cases stored
  · rw [drop, Function.update_of_ne same] at stored
    exact stored

theorem live_put_of_ne {lapse : Nat} (different : other ≠ k) :
    (entries.put k value lapse).live clock other = entries.live clock other := by
  rw [live, put, Function.update_of_ne different, live]

@[simp]
theorem live_drop_self : (entries.drop k).live clock k = none := by
  rw [live, drop, Function.update_self, Option.bind_none]

theorem live_drop_of_ne (different : other ≠ k) :
    (entries.drop k).live clock other = entries.live clock other := by
  rw [live, drop, Function.update_of_ne different, live]

/-- What is absent stays absent when any key is removed. -/
theorem live_drop_eq_none (absent : entries.live clock other = none) :
    (entries.drop k).live clock other = none := by
  by_cases same : other = k
  · subst same
    exact entries.live_drop_self
  · rw [entries.live_drop_of_ne same, absent]

end Lapsing

end ErpFinance.Library
