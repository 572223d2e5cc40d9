import Mathlib.Data.List.Forall2

/-!
# Fallible steps

What a chain of fallible steps needs in order to succeed: each step succeeds,
in order, on the result of the one before.
-/

namespace ErpFinance.Library

universe u

variable {ε ε' : Type*} {α β : Type u}

/-- A chain succeeds when its first step does and the rest succeeds on its result. -/
@[simp] theorem bind_eq_ok_iff {first : Except ε α} {rest : α → Except ε β} {result : β} :
    (first >>= rest) = .ok result ↔ ∃ value, first = .ok value ∧ rest value = .ok result := by
  cases first with
  | error err => simp [bind, Except.bind]
  | ok value => simp [bind, Except.bind]

/-- A loop of checks succeeds when each of them does. -/
theorem forM_eq_ok_iff {γ : Type*} {check : γ → Except ε PUnit} {items : List γ} :
    forM items check = .ok ⟨⟩ ↔ ∀ item ∈ items, check item = .ok ⟨⟩ := by
  induction items with
  | nil => simp [pure, Except.pure]
  | cons item rest ih =>
    rw [List.forM_cons, bind_eq_ok_iff, List.forall_mem_cons]
    constructor
    · rintro ⟨⟨⟩, first, others⟩
      exact ⟨first, ih.mp others⟩
    · rintro ⟨first, others⟩
      exact ⟨⟨⟩, first, ih.mpr others⟩

@[simp] theorem mapError_eq_ok_iff {reword : ε → ε'} {step : Except ε α} {value : α} :
    step.mapError reword = .ok value ↔ step = .ok value := by
  cases step <;> simp [Except.mapError]

theorem exists_of_isOk {result : Except ε α} (succeeds : result.isOk = true) :
    ∃ value, result = .ok value := by
  cases result with
  | error err => cases succeeds
  | ok value => exact ⟨value, rfl⟩

/-- A loop of fallible steps succeeds when each of them does, in order. -/
theorem mapM_eq_ok_iff {γ : Type*} {step : γ → Except ε α} {items : List γ} {results : List α} :
    items.mapM step = .ok results ↔
      List.Forall₂ (fun item result => step item = .ok result) items results := by
  induction items generalizing results with
  | nil =>
    rw [List.mapM_nil, List.forall₂_nil_left_iff]
    exact ⟨fun same => (Except.ok.inj same).symm, fun same => congrArg Except.ok same.symm⟩
  | cons item rest ih =>
    rw [List.mapM_cons, bind_eq_ok_iff, List.forall₂_cons_left_iff]
    constructor
    · rintro ⟨first, here, others⟩
      obtain ⟨more, there, same⟩ := bind_eq_ok_iff.mp others
      exact ⟨first, more, here, ih.mp there, (Except.ok.inj same).symm⟩
    · rintro ⟨first, more, here, there, rfl⟩
      exact ⟨first, here, bind_eq_ok_iff.mpr ⟨more, ih.mpr there, rfl⟩⟩

/-! ## Lists side by side -/

section Pairs

variable {α' β' : Type*} {R S : α' → β' → Prop} {items : List α'} {results : List β'}

/-- Of a member something is said on both sides. -/
theorem exists_of_forall₂ (first : List.Forall₂ R items results)
    (second : List.Forall₂ S items results) : ∀ x ∈ items, ∃ y, R x y ∧ S x y := by
  induction first with
  | nil => simp
  | cons here _ ih =>
    obtain ⟨also, others⟩ := List.forall₂_cons.mp second
    exact List.forall_mem_cons.mpr ⟨⟨_, here, also⟩, ih others⟩

/-- What follows for members follows for the lists. -/
theorem forall₂_imp_of_mem (related : List.Forall₂ R items results)
    (implies : ∀ x ∈ items, ∀ y, R x y → S x y) : List.Forall₂ S items results := by
  induction related with
  | nil => exact .nil
  | cons here _ ih =>
    obtain ⟨first, others⟩ := List.forall_mem_cons.mp implies
    exact .cons (first _ here) (ih others)

end Pairs

section Loops

variable {α' β' κ : Type} {items : List α'} {results : List β'} {step : α' → Option β'}

/-- A loop succeeds when each of its steps does, in order. -/
theorem mapM_eq_some_iff :
    items.mapM step = some results ↔ List.Forall₂ (fun x y => step x = some y) items results := by
  induction items generalizing results with
  | nil =>
    cases results with
    | nil => simp
    | cons value values => exact iff_of_false (by simp) (fun all => nomatch all)
  | cons item rest ih =>
    rw [List.mapM_cons]
    cases first : step item with
    | none =>
      refine iff_of_false (by simp) (fun all => ?_)
      cases all with
      | cons here _ =>
        rw [first] at here
        cases here
    | some value =>
      cases others : rest.mapM step with
      | none =>
        refine iff_of_false (by simp) (fun all => ?_)
        cases all with
        | cons _ there =>
          rw [ih.mpr there] at others
          cases others
      | some values =>
        have values_eq := ih.mp others
        constructor
        · rintro same
          cases same
          exact .cons first values_eq
        · intro all
          cases all with
          | cons here there =>
            have sameFirst := Option.some.inj (first.symm.trans here)
            have sameRest := Option.some.inj (others.symm.trans (ih.mpr there))
            rw [sameFirst, sameRest]
            rfl

theorem mapM_eq_none_iff : items.mapM step = none ↔ ∃ x ∈ items, step x = none := by
  induction items with
  | nil => simp
  | cons item rest ih =>
    simp only [List.mapM_cons, List.mem_cons, or_and_right, exists_or, exists_eq_left]
    cases first : step item with
    | none => simp
    | some value =>
      cases others : rest.mapM step with
      | none => simp [ih.mp others]
      | some values =>
        have noneLeft : ¬ ∃ x ∈ rest, step x = none := fun failing => by
          rw [ih.mpr failing] at others
          cases others
        simp [noneLeft]

variable [DecidableEq κ] {key : α' → κ} {value : α' → Option β'} {entries : List (κ × β')}

/-- The entries that a loop makes of keys and values are found under their keys. -/
theorem lookup_of_mapM (distinct : (items.map key).Nodup)
    (made : items.mapM (fun x => (value x).map (key x, ·)) = some entries) :
    ∀ x ∈ items, entries.lookup (key x) = value x := by
  rw [mapM_eq_some_iff] at made
  induction made with
  | nil => simp
  | @cons item entry rest others here _ ih =>
    obtain ⟨v, found, rfl⟩ := Option.map_eq_some_iff.mp here
    rw [List.map_cons, List.nodup_cons] at distinct
    rw [List.forall_mem_cons]
    refine ⟨by simp [found], fun x inRest => ?_⟩
    have other : key x ≠ key item := fun same =>
      distinct.1 (same ▸ List.mem_map_of_mem inRest)
    rw [List.lookup_cons, beq_eq_false_iff_ne.mpr other]
    exact ih distinct.2 x inRest

theorem lookup_eq_none_of_mapM {k : κ} (absent : k ∉ items.map key)
    (made : items.mapM (fun x => (value x).map (key x, ·)) = some entries) :
    entries.lookup k = none := by
  rw [mapM_eq_some_iff] at made
  induction made with
  | nil => rfl
  | @cons item entry rest others here _ ih =>
    obtain ⟨v, found, rfl⟩ := Option.map_eq_some_iff.mp here
    rw [List.map_cons, List.mem_cons, not_or] at absent
    rw [List.lookup_cons, beq_eq_false_iff_ne.mpr absent.1]
    exact ih absent.2

end Loops

end ErpFinance.Library
