import ErpFinance.Domain.Basics

/-!
# Calendar arithmetic

`AddDate` of the standard library: years and months are added to the month, and
a day that the month does not have runs over into the next one.
-/

namespace ErpFinance.Domain.Time

/-! ## Months -/

/-- The months since January of year zero. -/
def monthIndex (t : Time) : Int := 12 * t.year + (t.month - 1 : Nat)

def monthDays (index : Int) : Nat := daysInMonth (index / 12) ((index % 12).toNat + 1)

theorem twentyEight_le_monthDays (index : Int) : 28 ≤ monthDays index := by
  unfold monthDays daysInMonth
  split
  · split <;> decide
  all_goals decide

theorem monthDays_le (index : Int) : monthDays index ≤ 31 := by
  unfold monthDays daysInMonth
  split
  · split <;> decide
  all_goals decide

theorem monthIndex_div (t : Time) : t.monthIndex / 12 = t.year := by
  obtain ⟨first, last⟩ := t.valid.1
  unfold monthIndex
  omega

theorem monthIndex_mod (t : Time) : (t.monthIndex % 12).toNat + 1 = t.month := by
  obtain ⟨first, last⟩ := t.valid.1
  unfold monthIndex
  omega

theorem monthDays_monthIndex (t : Time) : monthDays t.monthIndex = daysInMonth t.year t.month := by
  rw [monthDays, monthIndex_div, monthIndex_mod]

theorem day_le_monthDays (t : Time) : t.day ≤ monthDays t.monthIndex := by
  rw [monthDays_monthIndex]
  exact t.valid.2.1.2

def firstOf (index : Int) (nanos : Nat) (inDay : nanos < nanosPerDay) : Time :=
  ⟨index / 12, (index % 12).toNat + 1, 1, nanos, by omega, ⟨le_refl 1, daysInMonth_pos _ _⟩, inDay⟩

@[simp] theorem monthIndex_firstOf (index : Int) (nanos : Nat) (inDay : nanos < nanosPerDay) :
    (firstOf index nanos inDay).monthIndex = index := by
  simp only [monthIndex, firstOf]
  omega

@[simp] theorem day_firstOf (index : Int) (nanos : Nat) (inDay : nanos < nanosPerDay) :
    (firstOf index nanos inDay).day = 1 := rfl

def withDay (t : Time) (day : Nat) (inMonth : 1 ≤ day ∧ day ≤ daysInMonth t.year t.month) : Time :=
  ⟨t.year, t.month, day, t.nanos, t.valid.1, inMonth, t.valid.2.2⟩

/-! ## Days -/

def nextDay (t : Time) : Time :=
  if more : t.day < daysInMonth t.year t.month then
    t.withDay (t.day + 1) ⟨by omega, more⟩
  else firstOf (t.monthIndex + 1) t.nanos t.valid.2.2

def addDays : Nat → Time → Time
  | 0, t => t
  | n + 1, t => (addDays n t).nextDay

theorem addDays_add (n k : Nat) (t : Time) : addDays (n + k) t = addDays k (addDays n t) := by
  induction k with
  | zero => rfl
  | succ k ih => rw [← Nat.add_assoc, addDays, ih, addDays]

theorem addDays_of_le (t : Time) (n : Nat) (inMonth : t.day + n ≤ daysInMonth t.year t.month) :
    addDays n t = t.withDay (t.day + n) ⟨Nat.le_add_right_of_le t.valid.2.1.1, inMonth⟩ := by
  induction n with
  | zero => rfl
  | succ n ih =>
    rw [addDays, ih (by omega), nextDay, dif_pos]
    · rfl
    · show t.day + n < daysInMonth t.year t.month
      omega

theorem nextDay_of_last {t : Time} (last : t.day = monthDays t.monthIndex) :
    t.nextDay = firstOf (t.monthIndex + 1) t.nanos t.valid.2.2 := by
  rw [monthDays_monthIndex] at last
  rw [nextDay, dif_neg (by omega)]

/-! ## Adding years, months and days -/

/-- `AddDate` of amounts that are not negative. -/
def addDate (t : Time) (years months days : Nat) : Time :=
  addDays (t.day - 1 + days)
    (firstOf (t.monthIndex + (12 * years + months : Nat)) t.nanos t.valid.2.2)

theorem addDate_days (t : Time) (days : Nat) : t.addDate 0 0 days = addDays days t := by
  have valid := t.valid
  have itself : addDays (t.day - 1) (firstOf (t.monthIndex + (12 * 0 + 0 : Nat)) t.nanos
      t.valid.2.2) = t := by
    have same : firstOf (t.monthIndex + (12 * 0 + 0 : Nat)) t.nanos t.valid.2.2 =
        t.withDay 1 ⟨le_refl 1, daysInMonth_pos _ _⟩ := by
      simp only [firstOf, withDay, Time.mk.injEq, and_true]
      have year := t.monthIndex_div
      have month := t.monthIndex_mod
      constructor
      · simpa using year
      · simpa using month
    rw [same, addDays_of_le]
    · have day : 1 + (t.day - 1) = t.day := by omega
      simp only [withDay, day]
    · show 1 + (t.day - 1) ≤ daysInMonth t.year t.month
      omega
  rw [addDate, addDays_add, itself]

section Months

variable (t : Time) (years months : Nat)

theorem addDate_of_le
    (long : t.day ≤ monthDays (t.monthIndex + (12 * years + months : Nat))) :
    (t.addDate years months 0).monthIndex = t.monthIndex + (12 * years + months : Nat) ∧
      (t.addDate years months 0).day = t.day := by
  have first := t.valid.2.1.1
  rw [addDate, Nat.add_zero, addDays_of_le]
  · constructor
    · exact monthIndex_firstOf _ _ t.valid.2.2
    · show 1 + (t.day - 1) = t.day
      omega
  · show 1 + (t.day - 1) ≤ monthDays (t.monthIndex + (12 * years + months : Nat))
    omega

/-- In a shorter month it runs over into the next. -/
theorem addDate_of_lt
    (short : monthDays (t.monthIndex + (12 * years + months : Nat)) < t.day) :
    (t.addDate years months 0).monthIndex = t.monthIndex + (12 * years + months : Nat) + 1 ∧
      (t.addDate years months 0).day =
        t.day - monthDays (t.monthIndex + (12 * years + months : Nat)) := by
  generalize target : t.monthIndex + (12 * years + months : Nat) = index at short ⊢
  have enough := twentyEight_le_monthDays index
  have following := twentyEight_le_monthDays (index + 1)
  have last := t.day_le_monthDays
  have most := monthDays_le t.monthIndex
  -- the days up to the end of the month, one into the next, and the rest
  have split : t.day - 1 + 0 = (monthDays index - 1) + (1 + (t.day - 1 - monthDays index)) := by
    omega
  have through : addDays (monthDays index - 1) (firstOf index t.nanos t.valid.2.2) =
      (firstOf index t.nanos t.valid.2.2).withDay (1 + (monthDays index - 1))
        ⟨by omega, show 1 + (monthDays index - 1) ≤ monthDays index by omega⟩ :=
    addDays_of_le _ _ (show 1 + (monthDays index - 1) ≤ monthDays index by omega)
  have overflow : addDays 1 (addDays (monthDays index - 1) (firstOf index t.nanos t.valid.2.2)) =
      firstOf (index + 1) t.nanos t.valid.2.2 := by
    have same : ((firstOf index t.nanos t.valid.2.2).withDay (1 + (monthDays index - 1))
        ⟨by omega, show 1 + (monthDays index - 1) ≤ monthDays index by omega⟩).monthIndex =
          index := monthIndex_firstOf _ _ t.valid.2.2
    rw [through, addDays, addDays, nextDay_of_last]
    · simp only [same]
      rfl
    · rw [same]
      show 1 + (monthDays index - 1) = monthDays index
      omega
  rw [addDate, target, split, addDays_add, addDays_add, overflow, addDays_of_le]
  · constructor
    · exact monthIndex_firstOf _ _ t.valid.2.2
    · show 1 + (t.day - 1 - monthDays index) = t.day - monthDays index
      omega
  · show 1 + (t.day - 1 - monthDays index) ≤ monthDays (index + 1)
    omega

end Months

/-! ## Order -/

theorem before_of_monthIndex_lt {s t : Time} (less : s.monthIndex < t.monthIndex) :
    s.before t = true := by
  obtain ⟨firstS, lastS⟩ := s.valid.1
  obtain ⟨firstT, lastT⟩ := t.valid.1
  unfold monthIndex at less
  simp only [before, Bool.or_eq_true, Bool.and_eq_true, decide_eq_true_eq]
  omega

theorem before_trans {s t u : Time} (first : s.before t = true) (second : t.before u = true) :
    s.before u = true := by
  simp only [before, Bool.or_eq_true, Bool.and_eq_true, decide_eq_true_eq] at *
  omega

theorem before_nextDay (t : Time) : t.before t.nextDay = true := by
  unfold nextDay
  split
  · simp [before, withDay]
  · apply before_of_monthIndex_lt
    rw [monthIndex_firstOf]
    omega

theorem before_addDays (t : Time) (n : Nat) : t.before (addDays (n + 1) t) = true := by
  induction n with
  | zero => exact before_nextDay t
  | succ n ih => exact before_trans ih (before_nextDay _)

/-! ### Stored dates -/

@[simp] theorem monthIndex_date (t : Time) : t.date.monthIndex = t.monthIndex := rfl

@[simp] theorem day_date (t : Time) : t.date.day = t.day := rfl

theorem before_date_nextDay (t : Time) : t.before t.nextDay.date = true := by
  unfold nextDay
  split
  · simp [before, withDay, date]
  · apply before_of_monthIndex_lt
    rw [monthIndex_date, monthIndex_firstOf]
    omega

/-- Some days later it is later, also without the time of day. -/
theorem before_date_addDays (t : Time) (n : Nat) : t.before (addDays (n + 1) t).date = true := by
  cases n with
  | zero => exact before_date_nextDay t
  | succ n => exact before_trans (before_addDays t n) (before_date_nextDay _)

theorem before_date_addDate (t : Time) (years months : Nat) (some : 12 * years + months ≠ 0) :
    t.before (t.addDate years months 0).date = true := by
  apply before_of_monthIndex_lt
  rw [monthIndex_date]
  rcases Nat.lt_or_ge (monthDays (t.monthIndex + (12 * years + months : Nat))) t.day
    with short | long
  · rw [(addDate_of_lt t years months short).1]
    omega
  · rw [(addDate_of_le t years months long).1]
    omega

end ErpFinance.Domain.Time
