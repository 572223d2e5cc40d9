import ErpFinance.Ioport.RoundTrip

/-!
# Complete exports

When an export has written every record that its filter matches, each once.
The pages are fetched by statements of their own, and without an `ORDER BY`
each of them may be answered in another order.
-/

namespace ErpFinance.Ioport

open Library

section Pages

variable {α : Type} {matching : List α}

/-- The answers to the statements for the pages, before `OFFSET` and `LIMIT`: the records that
match, for every page in an order of its own. -/
structure Answers (matching : List α) where
  order : Nat → List α
  perm : ∀ page, (order page).Perm matching

variable (answers : Answers matching) (size : Nat) (pageSize : Int)

def Answers.window (page : Nat) : List α :=
  ((answers.order page).drop ((page - 1) * size)).take size

/-- `Query`: one row more than the page has is fetched, to tell whether there is a next page. -/
def Answers.query (page : Nat) : List α :=
  let size := (Driver.resolveOptions { page := page, pageSize := pageSize }).pageSize.toNat
  let rows := ((answers.order page).drop ((page - 1) * size)).take (size + 1)
  rows.take size

/-- The loop over the pages, where it has ended after so many. -/
def Answers.exportLoop : Nat → Nat → Option (List α)
  | 0, _ => none
  | fuel + 1, page =>
    let records := answers.query pageSize page
    if (records.length : Int) < pageSize then some records
    else (exportLoop fuel (page + 1)).map (records ++ ·)

/-- No record is on two pages. -/
def Answers.Apart : Prop :=
  ∀ page later, 1 ≤ page → page < later →
    ∀ record ∈ answers.window size page, record ∉ answers.window size later

variable {answers size pageSize}

theorem Answers.query_eq (page : Nat) :
    answers.query pageSize page = Ioport.query (answers.order page) page pageSize := by
  rw [query, Ioport.query, List.take_take, Nat.min_eq_left (Nat.le_succ _)]

theorem Answers.length_order (page : Nat) : (answers.order page).length = matching.length :=
  (answers.perm page).length_eq

/-- A page of at most 200 records is fetched as it is asked for. -/
theorem Answers.query_small (positive : 1 ≤ pageSize) (small : pageSize ≤ 200) (k : Nat) :
    answers.query pageSize (k + 1) = answers.window pageSize.toNat (k + 1) := by
  rw [query_eq, Ioport.query_small positive small, window, Nat.add_sub_cancel]

theorem Answers.length_window (k : Nat) : (answers.window size (k + 1)).length =
    min size (matching.length - k * size) := by
  rw [window, List.length_take, List.length_drop, length_order, Nat.add_sub_cancel]

theorem Answers.window_subset (page : Nat) : answers.window size page ⊆ matching := fun _ inPage =>
  (answers.perm page).subset (List.mem_of_mem_drop (List.mem_of_mem_take inPage))

theorem Answers.nodup_window (distinct : matching.Nodup) (page : Nat) :
    (answers.window size page).Nodup :=
  ((answers.perm page).nodup_iff.mpr distinct).sublist
    ((List.take_sublist _ _).trans (List.drop_sublist _ _))

/-- The pages after one that is not full are empty. -/
theorem Answers.window_eq_nil {k later : Nat} (short : (answers.window size (k + 1)).length < size)
    (after : k + 1 < later) : answers.window size later = [] := by
  rw [length_window] at short
  have skipped : (k + 1) * size ≤ (later - 1) * size :=
    Nat.mul_le_mul_right size (by omega)
  have next : (k + 1) * size = k * size + size := Nat.succ_mul k size
  rw [window, List.drop_eq_nil_of_le, List.take_nil]
  rw [length_order]
  omega

/-- What a loop that goes on after some pages has collected. -/
structure Answers.Collected (answers : Answers matching) (size k : Nat) (out : List α) : Prop where
  length : out.length = matching.length - k * size
  mem_iff : ∀ record, record ∈ out ↔ ∃ page, k < page ∧ record ∈ answers.window size page
  nodup_iff : out.Nodup ↔ ∀ page later, k < page → page < later →
    ∀ record ∈ answers.window size page, record ∉ answers.window size later
  inOrder : ∀ order, (∀ page, answers.order page = order) → out = order.drop (k * size)

variable {k : Nat}

/-- The last page ends the loop. -/
theorem Answers.Collected.last (distinct : matching.Nodup)
    (short : (answers.window size (k + 1)).length < size) :
    answers.Collected size k (answers.window size (k + 1)) := by
  have later (page : Nat) (after : k + 1 < page) : answers.window size page = [] :=
    window_eq_nil short after
  refine ⟨?_, fun record => ⟨fun inPage => ⟨k + 1, Nat.lt_succ_self k, inPage⟩, ?_⟩,
    iff_of_true (nodup_window distinct _) ?_, fun order same => ?_⟩
  · rw [length_window] at short ⊢
    omega
  · rintro ⟨page, after, inPage⟩
    rcases Nat.eq_or_lt_of_le (Nat.succ_le_of_lt after) with rfl | next
    · exact inPage
    · rw [later page next] at inPage
      cases inPage
  · intro page afterPage after next record _ inLater
    rw [later afterPage (by omega)] at inLater
    cases inLater
  · have total := (answers.perm (k + 1)).length_eq
    rw [length_window, ← total, same] at short
    rw [window, same, Nat.add_sub_cancel, List.take_of_length_le]
    rw [List.length_drop]
    omega

/-- A full page is put before what the later pages bring. -/
theorem Answers.Collected.full (distinct : matching.Nodup) {rest : List α}
    (full : ¬ (answers.window size (k + 1)).length < size)
    (collected : answers.Collected size (k + 1) rest) :
    answers.Collected size k (answers.window size (k + 1) ++ rest) := by
  have next : (k + 1) * size = k * size + size := Nat.succ_mul k size
  refine ⟨?_, fun record => ?_, ?_, fun order same => ?_⟩
  · rw [length_window] at full
    rw [List.length_append, length_window, collected.length]
    omega
  · rw [List.mem_append, collected.mem_iff]
    constructor
    · rintro (inPage | ⟨page, after, inPage⟩)
      · exact ⟨k + 1, Nat.lt_succ_self k, inPage⟩
      · exact ⟨page, by omega, inPage⟩
    · rintro ⟨page, after, inPage⟩
      rcases Nat.eq_or_lt_of_le (Nat.succ_le_of_lt after) with rfl | later
      · exact .inl inPage
      · exact .inr ⟨page, later, inPage⟩
  · rw [List.nodup_append, collected.nodup_iff, and_iff_right (nodup_window distinct _)]
    constructor
    · rintro ⟨apart, first⟩ page later after next record inPage inLater
      rcases Nat.eq_or_lt_of_le (Nat.succ_le_of_lt after) with rfl | afterFirst
      · exact first record inPage record ((collected.mem_iff record).mpr ⟨later, next, inLater⟩) rfl
      · exact apart page later afterFirst next record inPage inLater
    · intro apart
      refine ⟨fun page later after => apart page later (by omega), ?_⟩
      rintro record inPage _ inRest rfl
      obtain ⟨later, after, inLater⟩ := (collected.mem_iff record).mp inRest
      exact apart (k + 1) later (Nat.lt_succ_self k) after record inPage inLater
  · rw [collected.inOrder order same, window, same, Nat.add_sub_cancel, next, ← List.drop_drop,
      List.take_append_drop]

theorem Answers.exportLoop_short (positive : 1 ≤ pageSize) (small : pageSize ≤ 200) (fuel : Nat)
    (short : (answers.window pageSize.toNat (k + 1)).length < pageSize.toNat) :
    answers.exportLoop pageSize (fuel + 1) (k + 1) =
      some (answers.window pageSize.toNat (k + 1)) := by
  rw [exportLoop, query_small positive small]
  exact if_pos (by omega)

/-- The loop over pages of at most 200 records ends, and has collected the pages. -/
theorem Answers.exportLoop_small (distinct : matching.Nodup) (positive : 1 ≤ pageSize)
    (small : pageSize ≤ 200) (fuel k : Nat)
    (enough : matching.length ≤ k * pageSize.toNat + fuel) :
    ∃ out, answers.exportLoop pageSize (fuel + 1) (k + 1) = some out ∧
      answers.Collected pageSize.toNat k out := by
  induction fuel generalizing k with
  | zero =>
    have short : (answers.window pageSize.toNat (k + 1)).length < pageSize.toNat := by
      rw [length_window]
      omega
    exact ⟨_, exportLoop_short positive small 0 short, .last distinct short⟩
  | succ fuel ih =>
    by_cases short : (answers.window pageSize.toNat (k + 1)).length < pageSize.toNat
    · exact ⟨_, exportLoop_short positive small _ short, .last distinct short⟩
    · have next : (k + 1) * pageSize.toNat = k * pageSize.toNat + pageSize.toNat :=
        Nat.succ_mul k pageSize.toNat
      obtain ⟨rest, collects, collected⟩ := ih (k + 1) (by omega)
      refine ⟨_, ?_, .full distinct short collected⟩
      rw [exportLoop, query_small positive small, if_neg (by omega), collects]
      rfl

/-- The loop ends after a first page that was cut to 200 records. -/
theorem Answers.exportLoop_large (large : 200 < pageSize) (fuel : Nat) :
    answers.exportLoop pageSize (fuel + 1) 1 = some ((answers.order 1).take 200) := by
  rw [exportLoop, query_eq, query_large large]
  refine if_pos ?_
  rw [List.length_take]
  omega

/-- More rounds do not change what the loop has returned. -/
theorem Answers.exportLoop_mono {fuel more page : Nat} {out : List α} (enough : fuel ≤ more)
    (ended : answers.exportLoop pageSize fuel page = some out) :
    answers.exportLoop pageSize more page = some out := by
  induction fuel generalizing more page out with
  | zero => cases ended
  | succ fuel ih =>
    obtain ⟨more, rfl⟩ : ∃ rest, more = rest + 1 := ⟨more - 1, by omega⟩
    rw [exportLoop] at ended ⊢
    split at ended
    · rw [if_pos ‹_›, ended]
    · obtain ⟨rest, collects, rfl⟩ := Option.map_eq_some_iff.mp ended
      rw [if_neg ‹_›, ih (by omega) collects]
      rfl

theorem Answers.exportLoop_terminates (distinct : matching.Nodup) (positive : 1 ≤ pageSize) :
    ∃ out, answers.exportLoop pageSize (matching.length + 1) 1 = some out := by
  by_cases small : pageSize ≤ 200
  · obtain ⟨out, collects, -⟩ := answers.exportLoop_small distinct positive small matching.length 0
      (by omega)
    exact ⟨out, collects⟩
  · exact ⟨_, exportLoop_large (by omega) _⟩

def Answers.AllOnce (answers : Answers matching) (pageSize : Int) : Prop :=
  ∃ fuel out, answers.exportLoop pageSize fuel 1 = some out ∧ out.Perm matching ∧
    ∀ order, (∀ page, answers.order page = order) → out = order

/-- What the loop returns does not depend on the number of rounds. -/
theorem Answers.exportLoop_unique {fuel more page : Nat} {out other : List α}
    (first : answers.exportLoop pageSize fuel page = some out)
    (second : answers.exportLoop pageSize more page = some other) : out = other := by
  rcases Nat.le_total fuel more with le | le
  · exact Option.some.inj ((exportLoop_mono le first).symm.trans second)
  · exact Option.some.inj (first.symm.trans (exportLoop_mono le second))

/-- Every record is collected once exactly when no record is on two pages, or the page that is cut
holds all of them. -/
theorem Answers.allOnce_iff (distinct : matching.Nodup) (positive : 1 ≤ pageSize) :
    answers.AllOnce pageSize ↔
      if pageSize ≤ 200 then answers.Apart pageSize.toNat else matching.length ≤ 200 := by
  by_cases small : pageSize ≤ 200
  · obtain ⟨out, collects, collected⟩ :=
      answers.exportLoop_small distinct positive small matching.length 0 (by omega)
    have apart : out.Nodup ↔ answers.Apart pageSize.toNat := collected.nodup_iff
    rw [if_pos small, ← apart]
    constructor
    · rintro ⟨fuel, other, returned, perm, -⟩
      rw [exportLoop_unique collects returned, perm.nodup_iff]
      exact distinct
    · intro once
      have subset : out ⊆ matching := by
        intro record inOut
        obtain ⟨page, -, inPage⟩ := (collected.mem_iff record).mp inOut
        exact window_subset page inPage
      have all : matching.length ≤ out.length := by
        rw [collected.length, Nat.zero_mul, Nat.sub_zero]
      refine ⟨_, out, collects, (List.subperm_of_subset once subset).perm_of_length_le all, ?_⟩
      intro order same
      rw [collected.inOrder order same, Nat.zero_mul, List.drop_zero]
  · have cut : ∀ fuel, answers.exportLoop pageSize (fuel + 1) 1 =
        some ((answers.order 1).take 200) := exportLoop_large (by omega)
    rw [if_neg small]
    constructor
    · rintro ⟨fuel, out, returned, perm, -⟩
      have length := perm.length_eq
      rw [← exportLoop_unique (cut 0) returned, List.length_take, length_order] at length
      omega
    · intro few
      have whole : (answers.order 1).take 200 = answers.order 1 :=
        List.take_of_length_le (by rwa [length_order])
      refine ⟨1, answers.order 1, by rw [cut, whole], answers.perm 1, fun order same => same 1⟩

end Pages

/-! ## Documents -/

variable {F O : Type}

/-- A stored record: its identifier and what it holds under its fields. -/
structure StoredRecord (F O : Type) where
  id : Nat
  get : String → Value F O

instance : Keyed (StoredRecord F O) Nat := ⟨StoredRecord.id⟩

/-- The records that match a filter, which is the condition that it is built to. -/
def matching (table : Table (StoredRecord F O)) (filter : StoredRecord F O → Bool) :
    List (StoredRecord F O) := table.rows.filter filter

theorem nodup_matching (table : Table (StoredRecord F O)) (filter : StoredRecord F O → Bool) :
    (matching table filter).Nodup :=
  (List.Nodup.of_map _ table.nodup).filter _

variable (go : Language F O)

/-- What is written of records in a format, unless a value cannot be encoded. -/
def render (format : Format) (columns : List String) (exported : List (String → Value F O)) :
    Option (Document F O) :=
  match format with
  | .csv => some (.csv (Csv.writeRecord (columns.map String.toList) ++
      exported.flatMap fun get => Csv.writeRecord (csvRow go columns get)))
  | .json => (exported.mapM (jsonRow go columns)).map .json
  | .jsonl => (exported.mapM (jsonRow go columns)).map .jsonl

def exportSize (pageSize : Int) : Int := if pageSize ≤ 0 then 500 else pageSize

theorem one_le_exportSize (pageSize : Int) : 1 ≤ exportSize pageSize := by
  rw [exportSize]
  split <;> omega

variable {table : Table (StoredRecord F O)} {filter : StoredRecord F O → Bool}
  (answers : Answers (matching table filter)) (format : Format) (columns : List String)
  (pageSize : Int)

/-- `Export`, where it has ended after so many pages: the records that it has written and the
document, which a value that cannot be encoded leaves unfinished. -/
def exportAnswers (fuel : Nat) : Option (List (StoredRecord F O) × Option (Document F O)) :=
  (answers.exportLoop (exportSize pageSize) fuel 1).map fun exported =>
    (exported, render go format columns (exported.map StoredRecord.get))

/-- The export ends and has written every record that matches once, in the order of the answers
where they have one. -/
def Complete : Prop :=
  ∃ fuel exported document,
    exportAnswers go answers format columns pageSize fuel = some (exported, some document) ∧
    exported.Perm (matching table filter) ∧
    ∀ order, (∀ page, answers.order page = order) → exported = order

theorem exportAnswers_terminates :
    ∃ result, exportAnswers go answers format columns pageSize
      ((matching table filter).length + 1) = some result := by
  obtain ⟨exported, ended⟩ :=
    answers.exportLoop_terminates (nodup_matching table filter) (one_le_exportSize pageSize)
  exact ⟨_, by rw [exportAnswers, ended]; rfl⟩

variable {go format columns}

theorem jsonRow_ne_none_iff (get : String → Value F O) :
    jsonRow go columns get ≠ none ↔ ∀ col ∈ columns, marshal go (get col) ≠ none := by
  rw [jsonRow, ne_eq, mapM_eq_none_iff]
  simp only [Option.map_eq_none_iff, not_exists, not_and, ne_eq]

theorem mapM_ne_none_iff (exported : List (StoredRecord F O)) :
    (exported.map StoredRecord.get).mapM (jsonRow go columns) ≠ none ↔
      ∀ record ∈ exported, ∀ col ∈ columns, marshal go (record.get col) ≠ none := by
  simp only [ne_eq, mapM_eq_none_iff, not_exists, not_and, List.forall_mem_map]
  exact forall₂_congr fun record _ => jsonRow_ne_none_iff record.get

/-- A document is written when it has no row in JSON that fails. -/
theorem render_ne_none_iff (exported : List (StoredRecord F O)) :
    render go format columns (exported.map StoredRecord.get) ≠ none ↔
      format = .csv ∨ ∀ record ∈ exported, ∀ col ∈ columns, marshal go (record.get col) ≠ none := by
  rw [← mapM_ne_none_iff]
  cases format with
  | csv => exact iff_of_true (Option.some_ne_none _) (.inl rfl)
  | json =>
    rw [render, ne_eq, Option.map_eq_none_iff]
    exact (or_iff_right nofun).symm
  | jsonl =>
    rw [render, ne_eq, Option.map_eq_none_iff]
    exact (or_iff_right nofun).symm

variable {answers pageSize}

theorem complete_iff_allOnce :
    Complete go answers format columns pageSize ↔
      answers.AllOnce (exportSize pageSize) ∧
        (format = .csv ∨ ∀ record ∈ matching table filter, ∀ col ∈ columns,
          marshal go (record.get col) ≠ none) := by
  constructor
  · rintro ⟨fuel, exported, document, exports, perm, inOrder⟩
    obtain ⟨out, collects, same⟩ := Option.map_eq_some_iff.mp exports
    obtain ⟨rfl, written⟩ := Prod.mk.inj same
    have encoded := (render_ne_none_iff out).mp (written ▸ Option.some_ne_none _)
    refine ⟨⟨fuel, out, collects, perm, inOrder⟩, encoded.imp_right fun each record inRecords => ?_⟩
    exact each record (perm.mem_iff.mpr inRecords)
  · rintro ⟨⟨fuel, out, collects, perm, inOrder⟩, encoded⟩
    have written : render go format columns (out.map StoredRecord.get) ≠ none :=
      (render_ne_none_iff out).mpr (encoded.imp_right fun each record inOut =>
        each record (perm.mem_iff.mp inOut))
    obtain ⟨document, document_eq⟩ := Option.ne_none_iff_exists'.mp written
    refine ⟨fuel, out, document, ?_, perm, inOrder⟩
    rw [exportAnswers, collects, ← document_eq]
    rfl

/-- An export has written all records once exactly when, for a page size of up to 200, no record is
on two of the pages that the database answers and, for a larger one, at most 200 records match;
and when, in JSON, every value of a column can be encoded. -/
theorem complete_iff :
    Complete go answers format columns pageSize ↔
      (if exportSize pageSize ≤ 200 then answers.Apart (exportSize pageSize).toNat
        else (matching table filter).length ≤ 200) ∧
      (format = .csv ∨ ∀ record ∈ matching table filter, ∀ col ∈ columns,
        marshal go (record.get col) ≠ none) := by
  rw [complete_iff_allOnce, Answers.allOnce_iff (nodup_matching table filter)
    (one_le_exportSize pageSize)]

/-- Without a page size, more than 200 records are not all exported. -/
theorem not_complete_of_default (many : 200 < (matching table filter).length) :
    ¬ Complete go answers format columns 0 := by
  rw [complete_iff_allOnce, Answers.allOnce_iff (nodup_matching table filter) (by decide)]
  rintro ⟨all, -⟩
  exact absurd all (by rw [if_neg (by decide)]; omega)

/-- The customers of numbers up to 201. -/
def customers : Table (StoredRecord { n : Int // IsInt64 n } Empty) where
  rows := (List.range 201).map fun id => { id, get := fun _ => .int id }
  nodup := by
    rw [List.map_map]
    exact (List.map_id' (List.range 201)).symm ▸ List.nodup_range

def inOrder {α : Type} (rows : List α) : Answers rows := ⟨fun _ => rows, fun _ => .refl _⟩

/-- Of 201 customers, the last is left out of an export with the default page size. -/
theorem customers_cut :
    ¬ Complete integral (inOrder (matching customers fun _ => true)) .csv ["number"] 0 := by
  refine not_complete_of_default ?_
  rw [matching, List.filter_true, customers, List.length_map, List.length_range]
  decide

end ErpFinance.Ioport
