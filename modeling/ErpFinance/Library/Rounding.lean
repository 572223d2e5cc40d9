import Mathlib.Data.Rat.Floor

/-!
# Rounding to a grid

The multiples of a positive unit in an ordered field, the largest one below a
value, the smallest one above it and the nearest one with ties away from zero.
-/

namespace ErpFinance.Library

variable {K : Type*} [Field K] [LinearOrder K] [IsStrictOrderedRing K] [FloorRing K]

/-- A multiple of the unit. -/
def OnGrid (unit x : K) : Prop := ∃ k : ℤ, x = k * unit

/-- The largest multiple of the unit that is not above a value. -/
def floorTo (unit x : K) : K := ⌊x / unit⌋ * unit

/-- The smallest multiple of the unit that is not below a value. -/
def ceilTo (unit x : K) : K := ⌈x / unit⌉ * unit

/-- The nearest multiple of the unit; of two equally near ones the one farther from zero. -/
def awayTo (unit x : K) : K :=
  if 0 ≤ x then ⌊x / unit + 1 / 2⌋ * unit else ⌈x / unit - 1 / 2⌉ * unit

/-- The next multiple of the unit towards zero. -/
def truncTo (unit x : K) : K := if 0 ≤ x then floorTo unit x else ceilTo unit x

variable {unit x y : K}

/-! ## Floor and ceiling -/

omit [IsStrictOrderedRing K] in
theorem onGrid_floorTo (unit x : K) : OnGrid unit (floorTo unit x) := ⟨⌊x / unit⌋, rfl⟩

omit [IsStrictOrderedRing K] in
theorem onGrid_ceilTo (unit x : K) : OnGrid unit (ceilTo unit x) := ⟨⌈x / unit⌉, rfl⟩

theorem floorTo_neg (unit x : K) : floorTo unit (-x) = -ceilTo unit x := by
  rw [floorTo, ceilTo, neg_div, Int.floor_neg]
  push_cast
  ring

theorem ceilTo_neg (unit x : K) : ceilTo unit (-x) = -floorTo unit x := by
  rw [floorTo, ceilTo, neg_div, Int.ceil_neg]
  push_cast
  ring

theorem isGreatest_floorTo (positive : 0 < unit) (x : K) :
    IsGreatest {y | OnGrid unit y ∧ y ≤ x} (floorTo unit x) := by
  constructor
  · exact ⟨onGrid_floorTo unit x, (le_div_iff₀ positive).mp (Int.floor_le (x / unit))⟩
  · rintro y ⟨⟨k, rfl⟩, below⟩
    have floor : k ≤ ⌊x / unit⌋ := Int.le_floor.mpr ((le_div_iff₀ positive).mpr below)
    exact mul_le_mul_of_nonneg_right (Int.cast_le.mpr floor) positive.le

theorem isLeast_ceilTo (positive : 0 < unit) (x : K) :
    IsLeast {y | OnGrid unit y ∧ x ≤ y} (ceilTo unit x) := by
  constructor
  · exact ⟨onGrid_ceilTo unit x, (div_le_iff₀ positive).mp (Int.le_ceil (x / unit))⟩
  · rintro y ⟨⟨k, rfl⟩, above⟩
    have ceil : ⌈x / unit⌉ ≤ k := Int.ceil_le.mpr ((div_le_iff₀ positive).mpr above)
    exact mul_le_mul_of_nonneg_right (Int.cast_le.mpr ceil) positive.le

/-- What is on the grid already stays. -/
theorem floorTo_of_onGrid (positive : 0 < unit) (grid : OnGrid unit x) : floorTo unit x = x :=
  (isGreatest_floorTo positive x).unique ⟨⟨grid, le_refl x⟩, fun _ member => member.2⟩

theorem ceilTo_of_onGrid (positive : 0 < unit) (grid : OnGrid unit x) : ceilTo unit x = x :=
  (isLeast_ceilTo positive x).unique ⟨⟨grid, le_refl x⟩, fun _ member => member.2⟩

/-! ## The nearest multiple -/

omit [IsStrictOrderedRing K] in
theorem onGrid_awayTo (unit x : K) : OnGrid unit (awayTo unit x) := by
  unfold awayTo
  split
  · exact ⟨_, rfl⟩
  · exact ⟨_, rfl⟩

/-- Rounding to the nearest multiple is odd. -/
theorem awayTo_neg (unit x : K) : awayTo unit (-x) = -awayTo unit x := by
  have flip : -x / unit - 1 / 2 = -(x / unit + 1 / 2) := by ring
  have flop : -x / unit + 1 / 2 = -(x / unit - 1 / 2) := by ring
  rcases lt_trichotomy x 0 with below | zero | above
  · rw [awayTo, awayTo, if_pos (neg_nonneg.mpr below.le), if_neg (not_le.mpr below), flop,
      Int.floor_neg]
    push_cast
    ring
  · rw [zero, neg_zero]
    have half : ⌊(0 : K) / unit + 1 / 2⌋ = 0 := by
      rw [zero_div, zero_add, Int.floor_eq_zero_iff]
      constructor
      · exact one_half_pos.le
      · exact one_half_lt_one
    rw [awayTo, if_pos (le_refl 0), half]
    simp
  · rw [awayTo, awayTo, if_neg (not_le.mpr (neg_lt_zero.mpr above)), if_pos above.le, flip,
      Int.ceil_neg]
    push_cast
    ring

/-- A value that is not negative lies at most half a unit above and less than half a unit below the
multiple it is rounded to. -/
theorem awayTo_bounds (positive : 0 < unit) (nonneg : 0 ≤ x) :
    x - unit / 2 < awayTo unit x ∧ awayTo unit x ≤ x + unit / 2 := by
  have quotient : x = x / unit * unit := (div_mul_cancel₀ x positive.ne').symm
  have low := Int.sub_one_lt_floor (x / unit + 1 / 2)
  have high := Int.floor_le (x / unit + 1 / 2)
  rw [awayTo, if_pos nonneg]
  constructor
  · have scaled := mul_lt_mul_of_pos_right low positive
    linarith
  · have scaled := mul_le_mul_of_nonneg_right high positive.le
    linarith

theorem abs_sub_awayTo_le (positive : 0 < unit) (x : K) :
    |x - awayTo unit x| ≤ unit / 2 := by
  rcases le_total 0 x with nonneg | nonpos
  · obtain ⟨low, high⟩ := awayTo_bounds positive nonneg
    exact abs_le.mpr ⟨by linarith, by linarith⟩
  · obtain ⟨low, high⟩ := awayTo_bounds positive (neg_nonneg.mpr nonpos)
    rw [awayTo_neg] at low high
    exact abs_le.mpr ⟨by linarith, by linarith⟩

/-- On a tie the multiple is the one farther from zero. -/
theorem abs_lt_abs_awayTo (positive : 0 < unit) (tie : |x - awayTo unit x| = unit / 2) :
    |x| < |awayTo unit x| := by
  rcases le_total 0 x with nonneg | nonpos
  · obtain ⟨low, -⟩ := awayTo_bounds positive nonneg
    have up : awayTo unit x = x + unit / 2 := by
      rcases abs_eq (half_pos positive).le |>.mp tie with under | above
      · linarith
      · linarith
    rw [abs_of_nonneg nonneg, up, abs_of_nonneg (by linarith)]
    linarith
  · obtain ⟨low, -⟩ := awayTo_bounds positive (neg_nonneg.mpr nonpos)
    rw [awayTo_neg] at low
    have down : awayTo unit x = x - unit / 2 := by
      rcases abs_eq (half_pos positive).le |>.mp tie with under | above
      · linarith
      · linarith
    rw [abs_of_nonpos nonpos, down, abs_of_nonpos (by linarith)]
    linarith

/-- Two multiples are one or at least a unit apart. -/
theorem unit_le_abs_sub (positive : 0 < unit) (gridX : OnGrid unit x) (gridY : OnGrid unit y)
    (ne : x ≠ y) : unit ≤ |x - y| := by
  obtain ⟨k, rfl⟩ := gridX
  obtain ⟨l, rfl⟩ := gridY
  have apart : k - l ≠ 0 := fun same => ne (by rw [sub_eq_zero.mp same])
  have one : (1 : K) ≤ |((k - l : ℤ) : K)| := by
    rw [← Int.cast_abs]
    exact_mod_cast Int.one_le_abs apart
  calc
    unit = 1 * unit := (one_mul unit).symm
    _ ≤ |((k - l : ℤ) : K)| * unit := mul_le_mul_of_nonneg_right one positive.le
    _ = |(k * unit - l * unit : K)| := by
      rw [← abs_of_pos positive, ← abs_mul, abs_of_pos positive]
      push_cast
      ring_nf

theorem awayTo_nearest (positive : 0 < unit) (x : K) (grid : OnGrid unit y) :
    |x - awayTo unit x| ≤ |x - y| := by
  by_cases same : awayTo unit x = y
  · rw [same]
  · have near := abs_sub_awayTo_le positive x
    have apart := unit_le_abs_sub positive (onGrid_awayTo unit x) grid same
    have through : |awayTo unit x - y| ≤ |x - awayTo unit x| + |x - y| := by
      rw [abs_sub_comm x (awayTo unit x)]
      exact abs_sub_le _ _ _
    linarith

theorem awayTo_of_onGrid (positive : 0 < unit) (grid : OnGrid unit x) : awayTo unit x = x := by
  have exact := awayTo_nearest positive x grid
  rw [sub_self, abs_zero] at exact
  exact (sub_eq_zero.mp (abs_eq_zero.mp (le_antisymm exact (abs_nonneg _)))).symm

end ErpFinance.Library
