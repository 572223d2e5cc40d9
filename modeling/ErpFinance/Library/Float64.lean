import Mathlib.Algebra.Order.Ring.Int

/-!
# Integers as 64-bit floats

The float that is nearest to an integer, as the integer that it denotes: floats
have fifty-three significant bits, and of two that are equally near the even one
is taken.  Integers of that size are their own nearest float exactly when the
distance of floats there divides them.
-/

namespace ErpFinance.Library.Float64

/-- The distance of the floats between two powers of two. -/
def spacing (n : Nat) : Nat := 2 ^ (Nat.log2 n + 1 - 53)

theorem spacing_pos (n : Nat) : 0 < spacing n := Nat.two_pow_pos _

def nearestNat (n : Nat) : Nat :=
  let below := n / spacing n
  let rest := n % spacing n
  if 2 * rest < spacing n ∨ (2 * rest = spacing n ∧ below % 2 = 0) then below * spacing n
  else (below + 1) * spacing n

/-- The float that is nearest to an integer. -/
def nearest (n : Int) : Int := if 0 ≤ n then nearestNat n.natAbs else -nearestNat n.natAbs

/-- An integer that is a float. -/
def Exact (n : Int) : Prop := (spacing n.natAbs : Int) ∣ n

instance (n : Int) : Decidable (Exact n) := inferInstanceAs (Decidable (_ ∣ n))

theorem dvd_nearestNat (n : Nat) : spacing n ∣ nearestNat n := by
  simp only [nearestNat]
  split
  · exact Nat.dvd_mul_left _ _
  · exact Nat.dvd_mul_left _ _

theorem nearestNat_eq_self_iff {n : Nat} : nearestNat n = n ↔ spacing n ∣ n := by
  constructor
  · intro same
    have divides := dvd_nearestNat n
    rwa [same] at divides
  · intro divides
    have noRest : n % spacing n = 0 := Nat.mod_eq_zero_of_dvd divides
    have near : 2 * (n % spacing n) < spacing n := by
      rw [noRest]
      exact spacing_pos n
    simp only [nearestNat, if_pos (Or.inl near)]
    exact Nat.div_mul_cancel divides

theorem nearest_eq_self_iff {n : Int} : nearest n = n ↔ Exact n := by
  rw [Exact, Int.natCast_dvd, ← nearestNat_eq_self_iff, nearest]
  split
  · omega
  · omega

example : nearest 9007199254740993 = 9007199254740992 := by decide
example : nearest (-9223372036854775807) = -9223372036854775808 := by decide

end ErpFinance.Library.Float64
