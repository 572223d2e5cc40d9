import ErpFinance.Condition.Evaluator
import ErpFinance.Library.Comparison

/-!
# The order of the comparison operators

Two values are compared as numbers, instants, booleans or texts, whichever comes
first for both of them; nil is below every other value.  Any two values are
compared consistently.  Three values are as long as all pairs of them are
compared the same way: a number and a text are compared as texts.
-/

namespace ErpFinance.Condition

open Library

variable {G : GoTypes} {σ : Type}

/-! ## The way a pair is compared -/

inductive Way where
  | null | number | time | bool | text
deriving DecidableEq

/-- The branch of `compare` that a pair of values takes. -/
def way (go : GoLibrary G) (left right : Value G) : Way :=
  if left.isNil || right.isNil then .null
  else if (toFloat64 go left).isSome && (toFloat64 go right).isSome then .number
  else if (toTime go left).isSome && (toTime go right).isSome then .time
  else if (toBool left).isSome && (toBool right).isSome then .bool
  else .text

/-- The number of a value, if it has one, is neither infinite nor not a number. -/
def Decimal (go : GoLibrary G) (value : Value G) : Prop :=
  ∀ f, toFloat64 go value = some f → G.finite f = true

/-- Three values without a missing number that are compared pairwise the same way, or one of
which is nil. -/
structure Alike (go : GoLibrary G) (a b c : Value G) : Prop where
  decimal : Decimal go a ∧ Decimal go b ∧ Decimal go c
  way : (a.isNil = true ∨ b.isNil = true ∨ c.isNil = true) ∨
    way go a b = way go b c ∧ way go b c = way go a c

/-- What `<` on numbers and `Before` on instants are promised to be: strict, and transitive
where they do not hold. -/
structure OrderedLibrary (go : GoLibrary G) : Prop where
  less_asymm : ∀ {x y}, go.less x y = true → go.less y x = false
  less_trans : ∀ {x y z}, G.finite x = true → G.finite y = true → G.finite z = true →
    go.less y x = false → go.less z y = false → go.less z x = false
  before_asymm : ∀ {t u}, go.before t u = true → go.before u t = false
  before_trans : ∀ {t u v}, go.before u t = false → go.before v u = false → go.before v t = false

section Ways

variable {go : GoLibrary G} {a b c : Value G}

theorem way_swap (a b : Value G) : way go b a = way go a b := by
  simp only [way, Bool.or_comm, Bool.and_comm]

theorem way_eq_null_iff : way go a b = .null ↔ a.isNil = true ∨ b.isNil = true := by
  unfold way
  split
  · simp_all
  · split_ifs <;> simp_all

theorem compare_of_null (taken : way go a b = .null) :
    compare go a b = if a.isNil && b.isNil then 0 else if a.isNil then -1 else 1 := by
  have nil := way_eq_null_iff.mp taken
  unfold compare
  cases aNil : a.isNil <;> cases bNil : b.isNil <;> simp_all

theorem not_nil_of_way (taken : way go a b ≠ .null) : a.isNil = false ∧ b.isNil = false := by
  rw [Ne, way_eq_null_iff, not_or] at taken
  exact ⟨Bool.eq_false_iff.mpr taken.1, Bool.eq_false_iff.mpr taken.2⟩

/-- Values that are compared in a way are compared by what is read of them. -/
def Reads (go : GoLibrary G) {κ : Type} (taken : Way) (read : Value G → Option κ)
    (cmp : κ → κ → Int) : Prop :=
  ∀ a b, way go a b = taken →
    ∃ x y, read a = some x ∧ read b = some y ∧ compare go a b = cmp x y

theorem reads_numbers : Reads go .number (toFloat64 go) (threeWay go.less) := by
  intro a b taken
  obtain ⟨aNil, bNil⟩ := not_nil_of_way (by rw [taken]; nofun : way go a b ≠ .null)
  simp only [way, aNil, bNil, Bool.or_false, Bool.false_eq_true, if_false] at taken
  split_ifs at taken with numbers
  rw [Bool.and_eq_true, Option.isSome_iff_exists, Option.isSome_iff_exists] at numbers
  obtain ⟨⟨x, xEq⟩, y, yEq⟩ := numbers
  refine ⟨x, y, xEq, yEq, ?_⟩
  simp only [compare, aNil, bNil, xEq, yEq, Bool.and_false, Bool.false_eq_true, if_false]
  rfl

/-- Past the numbers, the comparison looks at instants first. -/
theorem compare_of_not_number (aNil : a.isNil = false) (bNil : b.isNil = false)
    (missing : ((toFloat64 go a).isSome && (toFloat64 go b).isSome) = false) :
    compare go a b = match toTime go a, toTime go b with
      | some t, some u => threeWay go.before t u
      | _, _ => match toBool a, toBool b with
        | some p, some q => compareBools p q
        | _, _ => compareStrings (sprint go a) (sprint go b) := by
  simp only [compare, aNil, bNil, Bool.and_false, Bool.false_eq_true, if_false]
  cases numberA : toFloat64 go a with
  | none => rfl
  | some x =>
    cases numberB : toFloat64 go b with
    | none => rfl
    | some y =>
      rw [numberA, numberB] at missing
      cases missing

theorem reads_times : Reads go .time (toTime go) (threeWay go.before) := by
  intro a b taken
  obtain ⟨aNil, bNil⟩ := not_nil_of_way (by rw [taken]; nofun : way go a b ≠ .null)
  simp only [way, aNil, bNil, Bool.or_false, Bool.false_eq_true, if_false] at taken
  split_ifs at taken with numbers times
  rw [Bool.and_eq_true, Option.isSome_iff_exists, Option.isSome_iff_exists] at times
  obtain ⟨⟨t, tEq⟩, u, uEq⟩ := times
  refine ⟨t, u, tEq, uEq, ?_⟩
  rw [compare_of_not_number aNil bNil (Bool.eq_false_iff.mpr numbers), tEq, uEq]

theorem reads_bools : Reads go .bool toBool compareBools := by
  intro a b taken
  obtain ⟨aNil, bNil⟩ := not_nil_of_way (by rw [taken]; nofun : way go a b ≠ .null)
  simp only [way, aNil, bNil, Bool.or_false, Bool.false_eq_true, if_false] at taken
  split_ifs at taken with numbers times bools
  rw [Bool.and_eq_true, Option.isSome_iff_exists, Option.isSome_iff_exists] at bools
  obtain ⟨⟨p, pEq⟩, q, qEq⟩ := bools
  refine ⟨p, q, pEq, qEq, ?_⟩
  rw [compare_of_not_number aNil bNil (Bool.eq_false_iff.mpr numbers), pEq, qEq]
  cases timeA : toTime go a <;> cases timeB : toTime go b <;> simp_all

theorem reads_texts : Reads go .text (fun value => some (sprint go value)) compareStrings := by
  intro a b taken
  obtain ⟨aNil, bNil⟩ := not_nil_of_way (by rw [taken]; nofun : way go a b ≠ .null)
  simp only [way, aNil, bNil, Bool.or_false, Bool.false_eq_true, if_false] at taken
  split_ifs at taken with numbers times bools
  refine ⟨_, _, rfl, rfl, ?_⟩
  rw [compare_of_not_number aNil bNil (Bool.eq_false_iff.mpr numbers)]
  cases timeA : toTime go a <;> cases timeB : toTime go b <;> cases boolA : toBool a <;>
    cases boolB : toBool b <;> simp_all

section Reading

variable {κ : Type} {taken : Way} {read : Value G → Option κ} {cmp : κ → κ → Int}

theorem Reads.swap (reads : Reads go taken read cmp) (antisymm : ∀ x y, cmp y x = -cmp x y)
    (ab : way go a b = taken) : compare go b a = -compare go a b := by
  obtain ⟨x, y, xEq, yEq, compared⟩ := reads a b ab
  obtain ⟨y', x', yEq', xEq', compared'⟩ := reads b a ((way_swap a b).trans ab)
  obtain rfl : x = x' := Option.some.inj (xEq.symm.trans xEq')
  obtain rfl : y = y' := Option.some.inj (yEq.symm.trans yEq')
  rw [compared, compared', antisymm]

theorem Reads.trans (reads : Reads go taken read cmp)
    (transitive : ∀ x y z, read a = some x → read b = some y → read c = some z →
      cmp x y ≤ 0 → cmp y z ≤ 0 → cmp x z ≤ 0)
    (ab : way go a b = taken) (bc : way go b c = taken) (ac : way go a c = taken)
    (first : compare go a b ≤ 0) (second : compare go b c ≤ 0) : compare go a c ≤ 0 := by
  obtain ⟨x, y, xEq, yEq, compared⟩ := reads a b ab
  obtain ⟨y', z, yEq', zEq, compared'⟩ := reads b c bc
  obtain ⟨x', z', xEq', zEq', compared''⟩ := reads a c ac
  obtain rfl : x = x' := Option.some.inj (xEq.symm.trans xEq')
  obtain rfl : y = y' := Option.some.inj (yEq.symm.trans yEq')
  obtain rfl : z = z' := Option.some.inj (zEq.symm.trans zEq')
  rw [compared] at first
  rw [compared'] at second
  rw [compared'']
  exact transitive x y z xEq yEq zEq first second

end Reading

end Ways

/-! ## Coherence -/

theorem compareBools_swap (p q : Bool) : compareBools q p = -compareBools p q := by
  cases p <;> cases q <;> rfl

theorem compareBools_trans {p q r : Bool} (pq : compareBools p q ≤ 0) (qr : compareBools q r ≤ 0) :
    compareBools p r ≤ 0 := by
  revert p q r
  decide

theorem compareStrings_nonpos_iff {s t : String} : compareStrings s t ≤ 0 ↔ s ≤ t := by
  unfold compareStrings
  split_ifs with same below
  · simp [same]
  · simp [below.le]
  · simpa using lt_of_le_of_ne (not_lt.mp below) (Ne.symm same)

theorem compareStrings_swap (s t : String) : compareStrings t s = -compareStrings s t := by
  unfold compareStrings
  rcases lt_trichotomy s t with below | same | above
  · simp [below, below.ne, below.ne', below.asymm]
  · simp [same]
  · simp [above, above.ne, above.ne', above.asymm]

section Laws

variable {go : GoLibrary G} {a b c : Value G}

theorem compare_swap (ordered : OrderedLibrary go) (a b : Value G) :
    compare go b a = -compare go a b := by
  cases taken : way go a b with
  | null =>
    rw [compare_of_null ((way_swap a b).trans taken), compare_of_null taken]
    have nil := way_eq_null_iff.mp taken
    cases aNil : a.isNil <;> cases bNil : b.isNil <;> simp_all
  | number => exact reads_numbers.swap (fun _ _ => threeWay_swap ordered.less_asymm) taken
  | time => exact reads_times.swap (fun _ _ => threeWay_swap ordered.before_asymm) taken
  | bool => exact reads_bools.swap compareBools_swap taken
  | text => exact reads_texts.swap compareStrings_swap taken

theorem compare_nonpos_of_nil (nil : a.isNil = true) : compare go a b ≤ 0 := by
  rw [compare_of_null (way_eq_null_iff.mpr (.inl nil)), nil]
  cases b.isNil <;> decide

/-- Only nil is not above nil. -/
theorem isNil_of_compare_nonpos (nil : b.isNil = true) (below : compare go a b ≤ 0) :
    a.isNil = true := by
  by_contra other
  rw [compare_of_null (way_eq_null_iff.mpr (.inr nil)), nil, Bool.eq_false_iff.mpr other] at below
  exact absurd below (by decide)

/-- A nil makes three values transitive: it is below whatever it is not equal to. -/
theorem compare_trans_of_nil
    (nil : a.isNil = true ∨ b.isNil = true ∨ c.isNil = true) (ab : compare go a b ≤ 0)
    (bc : compare go b c ≤ 0) : compare go a c ≤ 0 := by
  apply compare_nonpos_of_nil
  rcases nil with aNil | bNil | cNil
  · exact aNil
  · exact isNil_of_compare_nonpos bNil ab
  · exact isNil_of_compare_nonpos (isNil_of_compare_nonpos cNil bc) ab

theorem compare_trans (ordered : OrderedLibrary go) (alike : Alike go a b c)
    (ab : compare go a b ≤ 0) (bc : compare go b c ≤ 0) : compare go a c ≤ 0 := by
  rcases alike.way with nil | ⟨abWay, bcWay⟩
  · exact compare_trans_of_nil nil ab bc
  cases taken : way go a b with
  | null => exact compare_trans_of_nil ((way_eq_null_iff.mp taken).imp id .inl) ab bc
  | number =>
    obtain ⟨xFinite, yFinite, zFinite⟩ := alike.decimal
    refine reads_numbers.trans ?_ taken (abWay.symm.trans taken)
      (bcWay.symm.trans (abWay.symm.trans taken)) ab bc
    intro x y z xEq yEq zEq
    simp only [threeWay_nonpos_iff ordered.less_asymm]
    exact ordered.less_trans (xFinite x xEq) (yFinite y yEq) (zFinite z zEq)
  | time =>
    refine reads_times.trans ?_ taken (abWay.symm.trans taken)
      (bcWay.symm.trans (abWay.symm.trans taken)) ab bc
    intro t u v _ _ _
    simp only [threeWay_nonpos_iff ordered.before_asymm]
    exact ordered.before_trans
  | bool =>
    refine reads_bools.trans ?_ taken (abWay.symm.trans taken)
      (bcWay.symm.trans (abWay.symm.trans taken)) ab bc
    exact fun _ _ _ _ _ _ => compareBools_trans
  | text =>
    refine reads_texts.trans ?_ taken (abWay.symm.trans taken)
      (bcWay.symm.trans (abWay.symm.trans taken)) ab bc
    intro r s t _ _ _
    simp only [compareStrings_nonpos_iff]
    exact le_trans

theorem Alike.reverse (alike : Alike go a b c) : Alike go c b a where
  decimal := ⟨alike.decimal.2.2, alike.decimal.2.1, alike.decimal.1⟩
  way := by
    rw [way_swap b c, way_swap a b, way_swap a c]
    rcases alike.way with nil | ⟨ab, bc⟩
    · exact .inl (by tauto)
    · exact .inr ⟨ab.symm, ab.trans bc⟩

theorem Alike.rotate (alike : Alike go a b c) : Alike go b c a where
  decimal := ⟨alike.decimal.2.1, alike.decimal.2.2, alike.decimal.1⟩
  way := by
    rw [way_swap a c, way_swap a b]
    rcases alike.way with nil | ⟨ab, bc⟩
    · exact .inl (by tauto)
    · exact .inr ⟨bc, (ab.trans bc).symm⟩

theorem compare_coherent (ordered : OrderedLibrary go) :
    CoherentOn (compare go) (Alike go) where
  swap := compare_swap ordered
  reverse := Alike.reverse
  rotate := Alike.rotate
  trans := compare_trans ordered

end Laws

/-! ## The laws of the operators -/

/-- The operator answers true of its operands. -/
def Holds (go : GoLibrary G) (fx : Effects G σ) (state : σ) (op : OperatorType) (left : Value G)
    (right : List (Value G)) : Prop :=
  applyOperator go fx op left right state = (.ok true, state)

section Operators

variable {go : GoLibrary G} {fx : Effects G σ} {state : σ} {a b c : Value G}

/-- An answer that is computed without an effect. -/
theorem holds_iff_of_answer {op : OperatorType} {left : Value G} {right : List (Value G)}
    {answer : Bool} (enough : requireOperands op right.length = .ok ⟨⟩)
    (answers : applyTo go fx op left right = pure answer) :
    Holds go fx state op left right ↔ answer = true := by
  rw [Holds, applyOperator, enough, answers]
  exact ⟨fun held => Except.ok.inj (Prod.mk.inj held).1, fun isTrue => by rw [isTrue]; rfl⟩

theorem holds_equal : Holds go fx state .equal a [b] ↔ compare go a b = 0 := by
  rw [holds_iff_of_answer rfl rfl, beq_iff_eq]
  rfl

theorem holds_notEqual : Holds go fx state .notEqual a [b] ↔ compare go a b ≠ 0 := by
  rw [holds_iff_of_answer rfl rfl, bne_iff_ne]
  rfl

theorem holds_less : Holds go fx state .less a [b] ↔ compare go a b < 0 := by
  rw [holds_iff_of_answer rfl rfl, decide_eq_true_iff]
  rfl

theorem holds_lessOrEqual : Holds go fx state .lessOrEqual a [b] ↔ compare go a b ≤ 0 := by
  rw [holds_iff_of_answer rfl rfl, decide_eq_true_iff]
  rfl

theorem holds_greater : Holds go fx state .greater a [b] ↔ 0 < compare go a b := by
  rw [holds_iff_of_answer rfl rfl, decide_eq_true_iff]
  rfl

theorem holds_greaterOrEqual :
    Holds go fx state .greaterOrEqual a [b] ↔ 0 ≤ compare go a b := by
  rw [holds_iff_of_answer rfl rfl, decide_eq_true_iff]
  rfl

theorem holds_between :
    Holds go fx state .between a [b, c] ↔ 0 ≤ compare go a b ∧ compare go a c ≤ 0 := by
  rw [holds_iff_of_answer rfl rfl, Bool.and_eq_true, decide_eq_true_iff, decide_eq_true_iff]
  rfl

/-- What holds of any two values. -/
structure PairLaws (go : GoLibrary G) (fx : Effects G σ) (state : σ) (a b : Value G) : Prop where
  converse : Holds go fx state .less a [b] ↔ Holds go fx state .greater b [a]
  lessOrEqual : Holds go fx state .lessOrEqual a [b] ↔ ¬Holds go fx state .greater a [b]
  greaterOrEqual : Holds go fx state .greaterOrEqual a [b] ↔ ¬Holds go fx state .less a [b]
  notEqual : Holds go fx state .notEqual a [b] ↔ ¬Holds go fx state .equal a [b]
  equal_symm : Holds go fx state .equal a [b] ↔ Holds go fx state .equal b [a]
  equal_iff : Holds go fx state .equal a [b] ↔
    ¬Holds go fx state .less a [b] ∧ ¬Holds go fx state .greater a [b]

/-- What holds of three values that are alike. -/
structure ChainLaws (go : GoLibrary G) (fx : Effects G σ) (state : σ) (a b c : Value G) :
    Prop where
  equal : Holds go fx state .equal a [b] → Holds go fx state .equal b [c] →
    Holds go fx state .equal a [c]
  less : Holds go fx state .less a [b] → Holds go fx state .less b [c] →
    Holds go fx state .less a [c]
  lessOrEqual : Holds go fx state .lessOrEqual a [b] → Holds go fx state .lessOrEqual b [c] →
    Holds go fx state .lessOrEqual a [c]

theorem pairLaws (ordered : OrderedLibrary go) (a b : Value G) : PairLaws go fx state a b where
  converse := by
    rw [holds_less, holds_greater]
    exact (compare_coherent ordered).neg_iff
  lessOrEqual := by rw [holds_lessOrEqual, holds_greater, not_lt]
  greaterOrEqual := by rw [holds_greaterOrEqual, holds_less, not_lt]
  notEqual := by rw [holds_notEqual, holds_equal]
  equal_symm := by
    rw [holds_equal, holds_equal]
    exact (compare_coherent ordered).eq_zero_comm
  equal_iff := by
    rw [holds_equal, holds_less, holds_greater]
    omega

theorem chainLaws (ordered : OrderedLibrary go) (alike : Alike go a b c) :
    ChainLaws go fx state a b c where
  equal := by
    simp only [holds_equal]
    exact (compare_coherent ordered).eq_trans alike
  less := by
    simp only [holds_less]
    exact (compare_coherent ordered).lt_trans alike
  lessOrEqual := by
    simp only [holds_lessOrEqual]
    exact (compare_coherent ordered).trans alike

/-- Any two values are compared consistently, a range is its two bounds, and three values that
are compared pairwise the same way are in a total preorder. -/
theorem comparison_laws (ordered : OrderedLibrary go) (fx : Effects G σ) (state : σ)
    (a b c : Value G) :
    PairLaws go fx state a b ∧
      (Holds go fx state .between a [b, c] ↔
        Holds go fx state .greaterOrEqual a [b] ∧ Holds go fx state .lessOrEqual a [c]) ∧
      (Alike go a b c → ChainLaws go fx state a b c) := by
  refine ⟨pairLaws ordered a b, ?_, chainLaws ordered⟩
  rw [holds_between, holds_greaterOrEqual, holds_lessOrEqual]

end Operators

/-! ## Values that are compared in different ways -/

/-- An evaluator without formulas, limits and patterns. -/
def bareEffects : Effects wholeTypes Unit where
  visit := pure ⟨⟩
  evaluateFormula _ := pure .nil
  matchString _ _ := pure false

theorem wholeLibrary_ordered : OrderedLibrary wholeLibrary where
  less_asymm := by
    intro (x : Int) (y : Int) below
    exact decide_eq_false (of_decide_eq_true below).asymm
  less_trans := by
    intro (x : Int) (y : Int) (z : Int) _ _ _ yx zy
    have xy : x ≤ y := not_lt.mp (of_decide_eq_false yx)
    have yz : y ≤ z := not_lt.mp (of_decide_eq_false zy)
    exact decide_eq_false (not_lt.mpr (xy.trans yz))
  before_asymm := by
    intro (t : Nat) (u : Nat) below
    exact decide_eq_false (of_decide_eq_true below).asymm
  before_trans := by
    intro (t : Nat) (u : Nat) (v : Nat) ut vu
    have tu : t ≤ u := not_lt.mp (of_decide_eq_false ut)
    have uv : u ≤ v := not_lt.mp (of_decide_eq_false vu)
    exact decide_eq_false (not_lt.mpr (tu.trans uv))

theorem comparison_laws_of_numbers :
    ChainLaws wholeLibrary bareEffects () (.int 9) (.float (10 : Int)) (.int 12) :=
  (comparison_laws wholeLibrary_ordered bareEffects () (.int 9) (.float (10 : Int)) (.int 12)).2.2
    ⟨⟨fun _ _ => rfl, fun _ _ => rfl, fun _ _ => rfl⟩, .inr ⟨by decide, by decide⟩⟩

/-- A million prints in exponent form. -/
def exponentLibrary : GoLibrary wholeTypes :=
  { wholeLibrary with
    formatFloat := fun (f : Int) => if f = 1000000 then "1e+06" else toString f }

/-- Ten is below the text "5", which is below nine; and a million equals its digits as an
integer but not as a floating-point number, which it equals too. -/
theorem order_of_mixed_values_not_transitive :
    ¬(∀ a b c : Value wholeTypes,
        Holds exponentLibrary bareEffects () .less a [b] →
        Holds exponentLibrary bareEffects () .less b [c] →
        Holds exponentLibrary bareEffects () .less a [c]) ∧
      ¬(∀ a b c : Value wholeTypes,
        Holds exponentLibrary bareEffects () .equal a [b] →
        Holds exponentLibrary bareEffects () .equal b [c] →
        Holds exponentLibrary bareEffects () .equal a [c]) := by
  simp only [holds_less, holds_equal]
  constructor
  · intro transitive
    exact absurd (transitive (.int 10) (.string "5") (.int 9) (by decide) (by decide)) (by decide)
  · intro transitive
    exact absurd (transitive (.float (1000000 : Int)) (.int 1000000) (.string "1000000")
      (by decide) (by decide)) (by decide)

end ErpFinance.Condition
