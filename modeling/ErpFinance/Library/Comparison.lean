import Mathlib.Data.String.Basic

/-!
# Three-way comparisons

A comparison answers with a negative number, zero or a positive number.  One
that is made from a strict order is antisymmetric, and transitive as far as not
being below is.  A comparison that takes different ways for different items may
be transitive on some triples only; on those all laws of a total preorder
follow from two.
-/

namespace ErpFinance.Library

variable {α : Type*}

/-- The comparison of a strict order. -/
def threeWay (lt : α → α → Bool) (a b : α) : Int :=
  if lt a b then -1 else if lt b a then 1 else 0

section ThreeWay

variable {lt : α → α → Bool} {a b : α}

theorem threeWay_swap (asymm : lt a b = true → lt b a = false) :
    threeWay lt b a = -threeWay lt a b := by
  cases ab : lt a b with
  | true => simp [threeWay, ab, asymm ab]
  | false => cases ba : lt b a <;> simp [threeWay, ab, ba]

theorem threeWay_nonpos_iff (asymm : lt a b = true → lt b a = false) :
    threeWay lt a b ≤ 0 ↔ lt b a = false := by
  cases ab : lt a b with
  | true => simp [threeWay, ab, asymm ab]
  | false => cases ba : lt b a <;> simp [threeWay, ab, ba]

end ThreeWay

/-- An antisymmetric comparison that is transitive on the triples that are alike. -/
structure CoherentOn (cmp : α → α → Int) (alike : α → α → α → Prop) : Prop where
  swap : ∀ a b, cmp b a = -cmp a b
  reverse : ∀ {a b c}, alike a b c → alike c b a
  rotate : ∀ {a b c}, alike a b c → alike b c a
  trans : ∀ {a b c}, alike a b c → cmp a b ≤ 0 → cmp b c ≤ 0 → cmp a c ≤ 0

namespace CoherentOn

variable {cmp : α → α → Int} {alike : α → α → α → Prop} {a b c : α}

theorem eq_zero_comm (coherent : CoherentOn cmp alike) : cmp a b = 0 ↔ cmp b a = 0 := by
  rw [coherent.swap a b]
  omega

theorem neg_iff (coherent : CoherentOn cmp alike) : cmp a b < 0 ↔ 0 < cmp b a := by
  rw [coherent.swap a b]
  omega

theorem eq_trans (coherent : CoherentOn cmp alike) (same : alike a b c) (ab : cmp a b = 0)
    (bc : cmp b c = 0) : cmp a c = 0 := by
  have below : cmp a c ≤ 0 := coherent.trans same ab.le bc.le
  have above : cmp c a ≤ 0 :=
    coherent.trans (coherent.reverse same) (coherent.eq_zero_comm.mp bc).le
      (coherent.eq_zero_comm.mp ab).le
  rw [coherent.swap a c] at above
  omega

/-- Otherwise the third is not above the first, so that the second is not above it either. -/
theorem lt_trans (coherent : CoherentOn cmp alike) (same : alike a b c) (ab : cmp a b < 0)
    (bc : cmp b c < 0) : cmp a c < 0 := by
  by_contra notBelow
  have ca : cmp c a ≤ 0 := by
    rw [coherent.swap a c]
    omega
  have ba : cmp b a ≤ 0 := coherent.trans (coherent.rotate same) bc.le ca
  rw [coherent.swap a b] at ba
  omega

end CoherentOn

end ErpFinance.Library
