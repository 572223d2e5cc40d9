import Mathlib.Data.List.Basic

/-!
# Row-level policies

How a database combines the policies of a table.  A test that reads a missing value has no
answer, and a row passes a test only where the answer is yes.  A row is let through by any of
the permissive policies, unless a restrictive one holds it back.
-/

namespace ErpFinance.Library

inductive PolicyKind where
  | permissive
  | restrictive
deriving DecidableEq

/-- A policy for every command and every user, on the rows `ρ` and for the sessions `σ`.  Without
a check of its own a written row has to pass the test of the rows that are seen. -/
structure Policy (σ ρ : Type*) where
  name : String
  kind : PolicyKind := .permissive
  sight : σ → ρ → Option Bool
  check : Option (σ → ρ → Option Bool) := none

namespace Policy

variable {σ ρ : Type*}

/-- The test of the rows that are written. -/
def writing (policy : Policy σ ρ) : σ → ρ → Option Bool := policy.check.getD policy.sight

/-- Whether the policies let a row through, by the test that is taken of each. -/
def admits (policies : List (Policy σ ρ)) (test : Policy σ ρ → σ → ρ → Option Bool)
    (session : σ) (row : ρ) : Bool :=
  policies.any (fun policy => policy.kind = .permissive && test policy session row == some true) &&
    policies.all fun policy => policy.kind = .permissive || test policy session row == some true

theorem admits_iff {policies : List (Policy σ ρ)} {test : Policy σ ρ → σ → ρ → Option Bool}
    {session : σ} {row : ρ} (permissive : ∀ policy ∈ policies, policy.kind = .permissive) :
    admits policies test session row = true ↔
      ∃ policy ∈ policies, test policy session row = some true := by
  rw [admits, Bool.and_eq_true, List.any_eq_true]
  constructor
  · rintro ⟨⟨policy, member, passes⟩, -⟩
    rw [Bool.and_eq_true, beq_iff_eq] at passes
    exact ⟨policy, member, passes.2⟩
  · rintro ⟨policy, member, passes⟩
    refine ⟨⟨policy, member, ?_⟩, List.all_eq_true.mpr fun other among => ?_⟩
    · rw [Bool.and_eq_true, beq_iff_eq, decide_eq_true_iff]
      exact ⟨permissive policy member, passes⟩
    · rw [Bool.or_eq_true, decide_eq_true_iff]
      exact Or.inl (permissive other among)

end Policy

/-- The protection of a table: none, or the policies on it. -/
abbrev Protection (σ ρ : Type*) := Option (List (Policy σ ρ))

namespace Protection

variable {σ ρ : Type*}

def sees (protection : Protection σ ρ) (session : σ) (row : ρ) : Bool :=
  protection.all fun policies => Policy.admits policies Policy.sight session row

/-- Whether a session may leave a row in the table. -/
def writes (protection : Protection σ ρ) (session : σ) (row : ρ) : Bool :=
  protection.all fun policies => Policy.admits policies Policy.writing session row

end Protection

end ErpFinance.Library
