import Mathlib.Data.List.DropRight

/-!
# Texts between separators

A sequence of parts written with a separator between them, or before, between
and after them: how the parts are read back, what becomes of them when the
separators at the ends are trimmed, and when a part stands between two
separators.
-/

namespace ErpFinance.Library

variable {α : Type*} {sep : α} {l part : List α}

/-! ## Parts put together -/

/-- Parts with a separator after each are the parts between separators and a last one. -/
theorem intercalate_concat {parts : List (List α)} (nonempty : parts ≠ []) :
    [sep].intercalate parts ++ [sep] = parts.flatMap (· ++ [sep]) := by
  induction parts with
  | nil => exact absurd rfl nonempty
  | cons first rest ih =>
    cases rest with
    | nil => simp
    | cons second others =>
      rw [List.intercalate_cons_cons, List.append_assoc, ih (by simp)]
      rfl

variable {parts others : List (List α)}

theorem intercalate_append (nonempty : parts ≠ []) (more : others ≠ []) :
    [sep].intercalate (parts ++ others) =
      [sep].intercalate parts ++ [sep] ++ [sep].intercalate others := by
  induction parts with
  | nil => exact absurd rfl nonempty
  | cons first rest ih =>
    cases rest with
    | nil => rw [List.singleton_append, List.intercalate_cons_of_ne_nil more,
        List.intercalate_singleton]
    | cons second rest =>
      rw [List.cons_append, List.intercalate_cons_of_ne_nil (by simp), ih (by simp),
        List.intercalate_cons_cons]
      simp only [List.append_assoc]

/-- Nothing is in parts put together that is in none of them and does not separate them. -/
theorem notMem_intercalate {c : α} {parts : List (List α)} (other : c ≠ sep)
    (absent : ∀ part ∈ parts, c ∉ part) : c ∉ [sep].intercalate parts := by
  cases parts with
  | nil => exact List.not_mem_nil
  | cons first rest =>
    intro member
    have inside : c ∈ [sep].intercalate (first :: rest) ++ [sep] :=
      List.mem_append_left _ member
    rw [intercalate_concat (List.cons_ne_nil _ _), List.mem_flatMap] at inside
    obtain ⟨part, inParts, found⟩ := inside
    rcases List.mem_append.mp found with inPart | isSep
    · exact absent part inParts inPart
    · exact other (List.mem_singleton.mp isSep)

variable [DecidableEq α]

/-! ## The first separator -/

/-- A separator stands in a text for the first time somewhere, or nowhere. -/
theorem exists_first (sep : α) (l : List α) :
    sep ∉ l ∨ ∃ before rest, l = before ++ sep :: rest ∧ sep ∉ before := by
  by_cases member : sep ∈ l
  · exact .inr (List.eq_append_cons_of_mem member)
  · exact .inl member

theorem all_ne (whole : sep ∉ part) : ∀ c ∈ part, (c != sep) = true :=
  fun _ member => bne_iff_ne.mpr fun same => whole (same ▸ member)

theorem takeWhile_ne (whole : sep ∉ part) (rest : List α) :
    (part ++ sep :: rest).takeWhile (· != sep) = part := by
  rw [List.takeWhile_append_of_pos (all_ne whole), List.takeWhile_cons_of_neg (by simp),
    List.append_nil]

theorem dropWhile_ne (whole : sep ∉ part) (rest : List α) :
    (part ++ sep :: rest).dropWhile (· != sep) = sep :: rest := by
  rw [List.dropWhile_append_of_pos (all_ne whole), List.dropWhile_cons_of_neg (by simp)]

/-- What stands before the first separator and what stands after it can be told. -/
theorem append_sep_inj {other rest rest' : List α} (whole : sep ∉ part) (whole' : sep ∉ other)
    (same : part ++ sep :: rest = other ++ sep :: rest') : part = other ∧ rest = rest' := by
  have before : part = other := by
    rw [← takeWhile_ne whole rest, same, takeWhile_ne whole' rest']
  subst before
  exact ⟨rfl, (List.cons.inj (List.append_cancel_left same)).2⟩

/-- Parts with a separator after each can be told. -/
theorem flatMap_sep_inj (whole : ∀ part ∈ parts, sep ∉ part) (whole' : ∀ part ∈ others, sep ∉ part)
    (same : parts.flatMap (· ++ [sep]) = others.flatMap (· ++ [sep])) : parts = others := by
  induction parts generalizing others with
  | nil =>
    cases others with
    | nil => rfl
    | cons second others => simp at same
  | cons first parts ih =>
    cases others with
    | nil => simp at same
    | cons second others =>
      obtain ⟨wholeFirst, wholeParts⟩ := List.forall_mem_cons.mp whole
      obtain ⟨wholeSecond, wholeOthers⟩ := List.forall_mem_cons.mp whole'
      simp only [List.flatMap_cons, List.append_assoc, List.singleton_append] at same
      obtain ⟨rfl, rest⟩ := append_sep_inj wholeFirst wholeSecond same
      rw [ih wholeParts wholeOthers rest]

/-- Parts between separators can be told. -/
theorem intercalate_inj (nonempty : parts ≠ []) (nonempty' : others ≠ [])
    (whole : ∀ part ∈ parts, sep ∉ part) (whole' : ∀ part ∈ others, sep ∉ part)
    (same : [sep].intercalate parts = [sep].intercalate others) : parts = others := by
  refine flatMap_sep_inj whole whole' ?_
  rw [← intercalate_concat nonempty, ← intercalate_concat nonempty', same]

/-! ## Separators at the ends -/

/-- A part after the last separator is the last part. -/
theorem splitOn_concat (l : List α) (whole : sep ∉ part) :
    (l ++ sep :: part).splitOn sep = l.splitOn sep ++ [part] := by
  rw [List.splitOn_append_cons_self, List.splitOn_eq_singleton whole]

/-- The parts that say something are those of the text without the separators before it. -/
theorem mem_splitOn_dropWhile (nonempty : part ≠ []) :
    part ∈ (l.dropWhile (· = sep)).splitOn sep ↔ part ∈ l.splitOn sep := by
  induction l with
  | nil => rfl
  | cons first rest ih =>
    by_cases isSep : first = sep
    · subst isSep
      rw [List.dropWhile_cons_of_pos (by simp), ih, List.splitOn_cons_eq_if_modifyHead,
        if_pos (by simp), List.mem_cons, or_iff_right nonempty]
    · rw [List.dropWhile_cons_of_neg (by simpa using isSep)]

/-- And of the text without those after it. -/
theorem mem_splitOn_rdropWhile (nonempty : part ≠ []) :
    part ∈ (l.rdropWhile (· = sep)).splitOn sep ↔ part ∈ l.splitOn sep := by
  induction l using List.reverseRecOn with
  | nil => simp
  | append_singleton front last ih =>
    by_cases isSep : last = sep
    · subst isSep
      rw [List.rdropWhile_concat_pos _ _ _ (by simp), ih, splitOn_concat front (by simp),
        List.mem_append, List.mem_singleton, or_iff_left nonempty]
    · rw [List.rdropWhile_concat_neg _ _ _ (by simpa using isSep)]

/-- After a text that does not end in a separator, trimming the front stops inside it. -/
theorem exists_dropWhile_append {last : α} (other : last ≠ sep) (front : List α) :
    ∃ kept, ∀ rest,
      (front ++ [last] ++ rest).dropWhile (· = sep) = kept ++ [last] ++ rest := by
  induction front with
  | nil => exact ⟨[], fun rest => List.dropWhile_cons_of_neg (by simpa using other)⟩
  | cons first front ih =>
    by_cases isSep : first = sep
    · obtain ⟨kept, trims⟩ := ih
      refine ⟨kept, fun rest => ?_⟩
      rw [List.cons_append, List.cons_append, List.dropWhile_cons_of_pos (by simpa using isSep),
        trims]
    · exact ⟨first :: front, fun rest => List.dropWhile_cons_of_neg (by simpa using isSep)⟩

/-- In a text with separators at both ends, every part that says something stands between two. -/
theorem exists_between_iff (nonempty : part ≠ []) (whole : sep ∉ part)
    (starts : ∃ rest, l = sep :: rest) (ends : ∃ front, l = front ++ [sep]) :
    (∃ before after, l = before ++ sep :: part ++ sep :: after) ↔ part ∈ l.splitOn sep := by
  constructor
  · rintro ⟨before, after, rfl⟩
    rw [List.splitOn_append_cons_self, splitOn_concat _ whole]
    simp
  · intro member
    obtain ⟨earlier, later, parts⟩ := List.append_of_mem member
    have text : [sep].intercalate (l.splitOn sep) = l := List.intercalate_splitOn sep
    rw [parts] at text
    obtain ⟨rest, first⟩ := starts
    obtain ⟨front, last⟩ := ends
    have earlier_ne : earlier ≠ [] := by
      rintro rfl
      rw [first, List.splitOn_cons_eq_if_modifyHead, if_pos (by simp)] at parts
      exact nonempty (List.cons.inj parts).1.symm
    have later_ne : later ≠ [] := by
      rintro rfl
      rw [last, splitOn_concat front (List.not_mem_nil : sep ∉ [])] at parts
      exact nonempty (List.cons.inj (List.append_inj_right' parts rfl)).1.symm
    refine ⟨[sep].intercalate earlier, [sep].intercalate later, ?_⟩
    rw [← text, intercalate_append earlier_ne (by simp),
      List.intercalate_cons_of_ne_nil later_ne]
    simp only [List.append_assoc, List.cons_append, List.nil_append]

end ErpFinance.Library
