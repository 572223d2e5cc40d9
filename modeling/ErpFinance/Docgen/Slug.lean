import ErpFinance.Library.Digits
import ErpFinance.Library.Text

/-!
# Anchors of headings

A heading has the slug of its text for an anchor, and a number behind the slug
from its second occurrence on.  The numbers are counted for each slug alone, so
that a numbered slug can be the slug of another heading.
-/

namespace ErpFinance.Docgen

open Library

/-! ## Slugs -/

/-- The characters that are written, after a hyphen or not. -/
def slugChars : Bool → List Char → List Char
  | _, [] => []
  | lastWasHyphen, r :: rest =>
    if ('a' ≤ r ∧ r ≤ 'z') ∨ ('0' ≤ r ∧ r ≤ '9') then r :: slugChars false rest
    else if r = ' ' ∨ r = '_' ∨ r = '-' then
      if lastWasHyphen then slugChars true rest else '-' :: slugChars true rest
    else slugChars lastWasHyphen rest

def slugify (text : String) : String :=
  String.ofList ((slugChars true (toLower text).toList).rdropWhile (· = '-'))

/-- The anchor of a slug, and the slugs seen with it. -/
def disambiguate (slug : String) (seen : String → Nat) : String × (String → Nat) :=
  let seen := Function.update seen slug (seen slug + 1)
  (if 1 < seen slug then slug ++ "-" ++ toString (seen slug - 1) else slug, seen)

/-- The anchors of headings, one after the other. -/
def anchors : (String → Nat) → List String → List String
  | _, [] => []
  | seen, label :: rest =>
    (disambiguate (slugify label) seen).1 :: anchors (disambiguate (slugify label) seen).2 rest

/-! ## Occurrences -/

/-- The anchor of a slug that has occurred so often before. -/
def occurrence (slug : String) (earlier : Nat) : String :=
  if earlier = 0 then slug else slug ++ "-" ++ toString earlier

/-- Slugs with the number of their earlier occurrences. -/
def occurrences : (String → Nat) → List String → List (String × Nat)
  | _, [] => []
  | seen, slug :: rest =>
    (slug, seen slug) :: occurrences (Function.update seen slug (seen slug + 1)) rest

variable {seen : String → Nat} {labels slugs : List String} {slug other : String} {k n : Nat}

theorem disambiguate_eq :
    disambiguate slug seen =
      (occurrence slug (seen slug), Function.update seen slug (seen slug + 1)) := by
  simp only [disambiguate, Function.update_self, occurrence]
  rcases seen slug with _ | n
  · rfl
  · rw [if_pos (by omega), if_neg (Nat.succ_ne_zero n)]
    rfl

theorem anchors_eq :
    anchors seen labels =
      (occurrences seen (labels.map slugify)).map fun entry => occurrence entry.1 entry.2 := by
  induction labels generalizing seen with
  | nil => rfl
  | cons label rest ih =>
    rw [anchors, disambiguate_eq, ih]
    rfl

theorem mem_occurrences_iff :
    (slug, k) ∈ occurrences seen slugs ↔ seen slug ≤ k ∧ k < seen slug + slugs.count slug := by
  induction slugs generalizing seen with
  | nil => simp [occurrences]
  | cons first rest ih =>
    rw [occurrences, List.mem_cons, ih, Prod.mk.injEq, List.count_cons]
    by_cases same : slug = first
    · subst same
      simp only [Function.update_self, beq_self_eq_true, if_true, true_and]
      omega
    · have apart : (first == slug) = false := beq_eq_false_iff_ne.mpr (Ne.symm same)
      rw [Function.update_of_ne same, apart]
      simp [same]

theorem nodup_occurrences : (occurrences seen slugs).Nodup := by
  induction slugs generalizing seen with
  | nil => exact List.nodup_nil
  | cons first rest ih =>
    refine List.nodup_cons.mpr ⟨fun again => ?_, ih⟩
    have later := (mem_occurrences_iff.mp again).1
    rw [Function.update_self] at later
    omega

/-! ## Anchors that coincide -/

theorem dash_notMem_toString (n : Nat) : '-' ∉ (toString n).toList := by
  intro member
  rw [Nat.toString_eq_repr, Nat.toList_repr] at member
  have digit := Nat.isDigit_of_mem_toDigits (by decide) (by decide) member
  revert digit
  decide

theorem numbered_injective
    (same : slug ++ "-" ++ toString k = other ++ "-" ++ toString n) : slug = other ∧ k = n := by
  have chars := congrArg String.toList same
  simp only [String.toList_append, List.append_assoc] at chars
  obtain ⟨slugs, digits⟩ :=
    eq_of_append_last (dash_notMem_toString k) (dash_notMem_toString n) chars
  rw [Nat.toString_eq_repr, Nat.toString_eq_repr, Nat.toList_repr, Nat.toList_repr] at digits
  have numbers := congrArg (fun text => Nat.ofDigitChars 10 text 0) digits
  exact ⟨String.toList_injective slugs, by simpa using numbers⟩

/-- A numbered anchor is of the same occurrence as another unless it is a slug itself. -/
theorem occurrence_injective (same : occurrence slug k = occurrence other n)
    (apart : n ≠ 0 → occurrence other n ≠ slug) (apart' : k ≠ 0 → occurrence slug k ≠ other) :
    (slug, k) = (other, n) := by
  rcases Nat.eq_zero_or_pos k with rfl | positive
  · rcases Nat.eq_zero_or_pos n with rfl | positive
    · exact congrArg (·, 0) same
    · exact absurd same.symm (apart positive.ne')
  · rcases Nat.eq_zero_or_pos n with rfl | positive'
    · exact absurd same (apart' positive.ne')
    · rw [occurrence, occurrence, if_neg positive.ne', if_neg positive'.ne'] at same
      exact Prod.ext_iff.mpr (numbered_injective same)

/-- The anchors of a document are distinct exactly when no slug is another one with the number that
the anchor of a repetition gets. -/
theorem nodup_anchors_iff (labels : List String) :
    (anchors (fun _ => 0) labels).Nodup ↔
      ∀ slug ∈ labels.map slugify, ∀ k, 1 ≤ k → k < (labels.map slugify).count slug →
        slug ++ "-" ++ toString k ∉ labels.map slugify := by
  have member : ∀ slug k, (slug, k) ∈ occurrences (fun _ => 0) (labels.map slugify) ↔
      k < (labels.map slugify).count slug := by
    intro slug k
    rw [mem_occurrences_iff, Nat.zero_add, and_iff_right (Nat.zero_le k)]
  rw [anchors_eq, List.nodup_map_iff_inj_on nodup_occurrences]
  constructor
  · intro injective slug _ k positive repeated numbered
    have first := (member _ 0).mpr (List.count_pos_iff.mpr numbered)
    have again := (member slug k).mpr repeated
    have equal : occurrence slug k = slug ++ "-" ++ toString k := if_neg (by omega)
    have same := injective _ again _ first equal
    have none := congrArg Prod.snd same
    dsimp only at none
    omega
  · rintro free ⟨slug, k⟩ inSlugs ⟨other, n⟩ inOthers same
    have distinct : ∀ {slug other k n}, k < (labels.map slugify).count slug →
        n < (labels.map slugify).count other → k ≠ 0 → occurrence slug k ≠ other := by
      intro slug other k n repeated present numbered equal
      rw [occurrence, if_neg numbered] at equal
      refine free slug (List.count_pos_iff.mp (by omega)) k (by omega) repeated ?_
      rw [equal]
      exact List.count_pos_iff.mp (by omega)
    have repeated := (member slug k).mp inSlugs
    have repeated' := (member other n).mp inOthers
    exact occurrence_injective same (distinct repeated' repeated) (distinct repeated repeated')

/-- The second of two headings and one with its number have one anchor. -/
theorem numbered_heading_repeated : ¬ (anchors (fun _ => 0) ["Item", "Item 1", "Item"]).Nodup := by
  decide +kernel

end ErpFinance.Docgen
