import Mathlib.Algebra.Order.Ring.Nat
import Mathlib.Data.List.Basic

/-!
# Printed numbers

Decimal digits padded with zeros, with or without a sign, and what can be read
back from a text built of such numbers: the value, and the parts around the
first or the last separator.
-/

namespace ErpFinance.Library

/-! ## Padded digits -/

/-- The decimal digits of a number, padded with zeros to a width. -/
def paddedDigits (width n : Nat) : List Char :=
  List.replicate (width - (Nat.toDigits 10 n).length) '0' ++ Nat.toDigits 10 n

theorem ofDigitChars_paddedDigits (width n : Nat) :
    Nat.ofDigitChars 10 (paddedDigits width n) 0 = n := by
  simp [paddedDigits, Nat.ofDigitChars_append]

theorem eq_of_paddedDigits_eq {width other n m : Nat}
    (same : paddedDigits width n = paddedDigits other m) : n = m := by
  rw [← ofDigitChars_paddedDigits width n, same, ofDigitChars_paddedDigits]

theorem isDigit_of_mem_paddedDigits {width n : Nat} {c : Char}
    (member : c ∈ paddedDigits width n) : c.isDigit = true := by
  rcases List.mem_append.mp member with zeros | digits
  · rw [(List.mem_replicate.mp zeros).2]
    decide
  · exact Nat.isDigit_of_mem_toDigits (by decide) (by decide) digits

theorem dash_notMem_paddedDigits (width n : Nat) : '-' ∉ paddedDigits width n := by
  intro member
  have digit := isDigit_of_mem_paddedDigits member
  revert digit
  decide

/-- A number that fits the width fills it exactly. -/
theorem length_paddedDigits {width n : Nat} (positive : 0 < width) (fits : n < 10 ^ width) :
    (paddedDigits width n).length = width := by
  have short := (Nat.length_toDigits_le_iff (by decide : 1 < 10) positive).mpr fits
  rw [paddedDigits, List.length_append, List.length_replicate]
  omega

/-! ## Signed numbers -/

/-- A signed number padded to a width that counts the sign. -/
def paddedInt (width : Nat) : Int → List Char
  | .ofNat n => paddedDigits width n
  | .negSucc n => '-' :: paddedDigits (width - 1) (n + 1)

variable {width : Nat}

theorem paddedInt_injective {n m : Int} (same : paddedInt width n = paddedInt width m) : n = m := by
  cases n with
  | ofNat n =>
    cases m with
    | ofNat m => rw [eq_of_paddedDigits_eq same]
    | negSucc m =>
      refine absurd ?_ (dash_notMem_paddedDigits width n)
      rw [show paddedDigits width n = '-' :: _ from same]
      exact List.mem_cons_self
  | negSucc n =>
    cases m with
    | ofNat m =>
      refine absurd ?_ (dash_notMem_paddedDigits width m)
      rw [show paddedDigits width m = '-' :: _ from same.symm]
      exact List.mem_cons_self
    | negSucc m =>
      have digits := eq_of_paddedDigits_eq (List.cons.inj same).2
      rw [Nat.succ.inj digits]

theorem dash_notMem_paddedInt {n : Int} (nonneg : 0 ≤ n) :
    '-' ∉ paddedInt width n := by
  cases n with
  | ofNat n => exact dash_notMem_paddedDigits width n
  | negSucc n => omega

/-- Padding only ever lengthens, up to the width. -/
theorem length_paddedInt (width : Nat) (n : Int) :
    (paddedInt width n).length = max width (paddedInt 0 n).length := by
  cases n with
  | ofNat n =>
    simp only [paddedInt, paddedDigits, List.length_append, List.length_replicate]
    omega
  | negSucc n =>
    simp only [paddedInt, paddedDigits, List.length_cons, List.length_append,
      List.length_replicate]
    omega

theorem length_toDigits_mono {n m : Nat} (le : n ≤ m) :
    (Nat.toDigits 10 n).length ≤ (Nat.toDigits 10 m).length := by
  have base : 1 < 10 := by decide
  rw [Nat.length_toDigits_le_iff base Nat.length_toDigits_pos]
  exact Nat.lt_of_le_of_lt le
    ((Nat.length_toDigits_le_iff base Nat.length_toDigits_pos).mp (Nat.le_refl _))

/-- Of numbers without a sign the smaller is not written longer. -/
theorem length_paddedInt_mono {n m : Int} (nonneg : 0 ≤ n) (le : n ≤ m) :
    (paddedInt 0 n).length ≤ (paddedInt 0 m).length := by
  obtain ⟨k, rfl⟩ := Int.eq_ofNat_of_zero_le nonneg
  obtain ⟨l, rfl⟩ := Int.eq_ofNat_of_zero_le (Int.le_trans nonneg le)
  have digits := length_toDigits_mono (Int.ofNat_le.mp le)
  simp only [paddedInt, paddedDigits, List.length_append, List.length_replicate]
  omega

/-- A number that fits the width fills it exactly. -/
theorem length_paddedInt_of_fits {n : Int} (positive : 0 < width) (nonneg : 0 ≤ n)
    (fits : n < 10 ^ width) : (paddedInt width n).length = width := by
  obtain ⟨k, rfl⟩ := Int.eq_ofNat_of_zero_le nonneg
  exact length_paddedDigits positive (by exact_mod_cast fits)

section Pieces

variable {ι α : Type*} {write other : ι → List α} {pieces : List ι}

theorem length_flatMap_le (shorter : ∀ p ∈ pieces, (write p).length ≤ (other p).length) :
    (pieces.flatMap write).length ≤ (pieces.flatMap other).length := by
  induction pieces with
  | nil => exact Nat.le_refl _
  | cons piece rest ih =>
    rw [List.forall_mem_cons] at shorter
    simp only [List.flatMap_cons, List.length_append]
    exact Nat.add_le_add shorter.1 (ih shorter.2)

/-- Pieces written one after the other can be read back where no piece of one text is longer. -/
theorem eq_of_flatMap_eq (shorter : ∀ p ∈ pieces, (write p).length ≤ (other p).length)
    (same : pieces.flatMap write = pieces.flatMap other) : ∀ p ∈ pieces, write p = other p := by
  induction pieces with
  | nil => simp
  | cons piece rest ih =>
    rw [List.forall_mem_cons] at shorter
    have rests := length_flatMap_le shorter.2
    have lengths := congrArg List.length same
    simp only [List.flatMap_cons, List.length_append] at same lengths
    obtain ⟨first, others⟩ := List.append_inj same (by omega)
    exact List.forall_mem_cons.mpr ⟨first, ih shorter.2 others⟩

end Pieces

section Separators

variable {α : Type*} {separator : α} {first second rest other : List α}

/-- The part before the first separator can be read back. -/
theorem eq_of_append_first (hfirst : separator ∉ first) (hsecond : separator ∉ second)
    (same : first ++ separator :: rest = second ++ separator :: other) :
    first = second ∧ rest = other := by
  induction first generalizing second with
  | nil =>
    cases second with
    | nil => exact ⟨rfl, (List.cons.inj same).2⟩
    | cons head tail =>
      refine absurd ?_ hsecond
      rw [(List.cons.inj same).1]
      exact List.mem_cons_self
  | cons head tail ih =>
    cases second with
    | nil =>
      refine absurd ?_ hfirst
      rw [← (List.cons.inj same).1]
      exact List.mem_cons_self
    | cons head' tail' =>
      obtain ⟨rfl, sameTail⟩ := List.cons.inj same
      obtain ⟨rfl, sameRest⟩ := ih (fun inTail => hfirst (List.mem_cons_of_mem _ inTail))
        (fun inTail => hsecond (List.mem_cons_of_mem _ inTail)) sameTail
      exact ⟨rfl, sameRest⟩

/-- The part after the last separator can be read back. -/
theorem eq_of_append_last (hrest : separator ∉ rest) (hother : separator ∉ other)
    (same : first ++ separator :: rest = second ++ separator :: other) :
    first = second ∧ rest = other := by
  have reversed : rest.reverse ++ separator :: first.reverse =
      other.reverse ++ separator :: second.reverse := by
    simpa using congrArg List.reverse same
  obtain ⟨sameRest, sameFirst⟩ := eq_of_append_first (by simpa using hrest)
    (by simpa using hother) reversed
  exact ⟨List.reverse_inj.mp sameFirst, List.reverse_inj.mp sameRest⟩

end Separators

end ErpFinance.Library
