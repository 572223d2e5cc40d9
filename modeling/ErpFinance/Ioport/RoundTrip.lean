import ErpFinance.Ioport.Cells

/-!
# Import of an export

When the import of what an export has written creates the records again: every
record has to be on a page that is fetched, and every value has to come back
from its cell.
-/

namespace ErpFinance.Ioport

open Library

variable {F O : Type}

section Pages

variable {α : Type} {records : List α} {pageSize : Int} {fuel : Nat}

/-- A page of at most 200 records is fetched as it is asked for. -/
theorem query_small (positive : 1 ≤ pageSize) (small : pageSize ≤ 200) (k : Nat) :
    query records (k + 1) pageSize =
      (records.drop (k * pageSize.toNat)).take pageSize.toNat := by
  have size : (Driver.resolveOptions
      { page := ((k + 1 : Nat) : Int), pageSize := pageSize }).pageSize = pageSize := by
    simp only [Driver.resolveOptions]
    split <;> [omega; split <;> omega]
  simp only [query, size, Nat.add_sub_cancel]

theorem query_large (large : 200 < pageSize) : query records 1 pageSize = records.take 200 := by
  have size : (Driver.resolveOptions { page := ((1 : Nat) : Int), pageSize := pageSize }).pageSize =
      200 := if_pos large
  simp only [query, size, Nat.sub_self, Nat.zero_mul, List.drop_zero]
  rfl

/-- Pages that are fetched as they are asked for bring all of the records that are left. -/
theorem exportPages_small (positive : 1 ≤ pageSize) (small : pageSize ≤ 200) (k : Nat)
    (enough : records.length < k * pageSize.toNat + fuel) :
    exportPages records pageSize fuel (k + 1) = records.drop (k * pageSize.toNat) := by
  induction fuel generalizing k with
  | zero =>
    rw [exportPages, List.drop_eq_nil_of_le]
    omega
  | succ fuel ih =>
    have size : 1 ≤ pageSize.toNat := by omega
    rw [exportPages, query_small positive small]
    by_cases last : (((records.drop (k * pageSize.toNat)).take pageSize.toNat).length : Int) <
        pageSize
    · rw [if_pos last, List.take_of_length_le]
      rw [List.length_take] at last
      omega
    · have next : (k + 1) * pageSize.toNat = k * pageSize.toNat + pageSize.toNat :=
        Nat.succ_mul k pageSize.toNat
      rw [if_neg last, ih (k + 1) (by omega), next, ← List.drop_drop, List.take_append_drop]

/-- The loop ends after a first page that was cut to 200 records. -/
theorem exportPages_large (large : 200 < pageSize) :
    exportPages records pageSize (fuel + 1) 1 = records.take 200 := by
  rw [exportPages, query_large large]
  refine if_pos ?_
  rw [List.length_take]
  omega

/-- All records are exported exactly when the pages are not cut or the first one holds all. -/
theorem exportPages_eq_iff (positive : 1 ≤ pageSize) :
    exportPages records pageSize (records.length + 1) 1 = records ↔
      pageSize ≤ 200 ∨ records.length ≤ 200 := by
  by_cases small : pageSize ≤ 200
  · have all : exportPages records pageSize (records.length + 1) (0 + 1) =
        records.drop (0 * pageSize.toNat) := exportPages_small positive small 0 (by omega)
    rw [Nat.zero_mul, List.drop_zero] at all
    exact iff_of_true all (.inl small)
  · rw [exportPages_large (by omega), List.take_eq_self_iff, or_iff_right small]

theorem exportPages_prefix (positive : 1 ≤ pageSize) :
    exportPages records pageSize (records.length + 1) 1 <+: records := by
  by_cases small : pageSize ≤ 200
  · rw [(exportPages_eq_iff positive).mpr (.inl small)]
  · rw [exportPages_large (by omega)]
    exact List.take_prefix _ _

end Pages

section Columns

variable {schema : EntitySchema} (opts : ExportOptions schema)

theorem ExportOptions.one_le_size : 1 ≤ opts.size := by
  rw [size]
  split <;> omega

theorem ExportOptions.nodup_columns : opts.columns.Nodup := by
  rw [columns]
  split
  · exact schema.distinct.sublist ((List.filter_sublist).map _)
  · exact opts.listed.1

theorem ExportOptions.mem_columns {name : String} (inColumns : name ∈ opts.columns) :
    ∃ f ∈ schema.fields, f.name = name := by
  rw [columns] at inColumns
  split at inColumns
  · obtain ⟨f, kept, same⟩ := List.mem_map.mp inColumns
    exact ⟨f, (List.mem_filter.mp kept).1, same⟩
  · exact List.mem_map.mp (opts.listed.2 name inColumns)

theorem EntitySchema.fieldsByName_name {f : FieldDef} (declared : f ∈ schema.fields) :
    schema.fieldsByName f.name = some f := index_key schema.distinct declared

/-- The characters of a field's name are lower-case letters, digits and underscores. -/
theorem isIdentifier_chars {chars : List Char} (matched : Registry.isIdentifier chars = true) :
    chars ≠ [] ∧ ∀ c ∈ chars, isSpace c = false := by
  have visible : ∀ c, (Registry.isLowerOrDigit c || c = '_') = true → isSpace c = false := by
    intro c matched
    refine isSpace_eq_false (fun d => Registry.isLowerOrDigit d || d = '_') (by decide) matched ?_
    simp only [Registry.isLowerOrDigit, Registry.isLower, Char.isDigit, Bool.or_eq_true,
      Bool.and_eq_true, decide_eq_true_eq] at matched
    rcases matched with (⟨-, lower⟩ | ⟨-, digit⟩) | rfl
    · exact Nat.le_trans lower (by decide)
    · exact Nat.le_trans digit (by decide)
    · decide
  cases chars with
  | nil => cases matched
  | cons first rest =>
    rw [Registry.isIdentifier, Bool.and_eq_true, List.all_eq_true] at matched
    refine ⟨List.cons_ne_nil _ _, fun c inName => ?_⟩
    rcases List.mem_cons.mp inName with rfl | inRest
    · exact visible c (by rw [Registry.isLowerOrDigit, matched.1]; rfl)
    · exact visible c (matched.2 c inRest)

theorem EntitySchema.name_visible {f : FieldDef} (declared : f ∈ schema.fields) :
    f.name.toList ≠ [] ∧ ∀ c ∈ f.name.toList, isSpace c = false :=
  isIdentifier_chars (schema.named f declared)

end Columns

section Rows

variable {go : Language F O} {repo : Repository F O} {schema : EntitySchema}

/-- What a cell of the format is read as. -/
def imported (go : Language F O) : Format → FieldDef → Value F O → Option (Option (Value F O))
  | .csv => csvImported go
  | .json => jsonImported go
  | .jsonl => jsonImported go

/-- The values of a field that come back in the format. -/
def Survives (go : Language F O) (repo : Repository F O) : Format → FieldDef → Value F O → Prop
  | .csv => SurvivesCSV go repo
  | .json => SurvivesJSON go repo
  | .jsonl => SurvivesJSON go repo

variable {format : Format} {f : FieldDef}

theorem survives_iff {v : Value F O} (conforms : Conforms repo f v) :
    Survives go repo format f v ↔ ∃ cell, imported go format f v = some cell ∧
      stored repo f cell = some v := by
  cases format with
  | csv => exact survivesCSV_iff conforms
  | json => exact survivesJSON_iff conforms
  | jsonl => exact survivesJSON_iff conforms

/-- The data of a row are what its cells are read as. -/
def Reads (go : Language F O) (schema : EntitySchema) (format : Format) (columns : List String)
    (get : String → Value F O) (data : Data F O) : Prop :=
  ∀ f ∈ schema.fields,
    (f.name ∈ columns → imported go format f (get f.name) = some (data f.name)) ∧
      (f.name ∉ columns → data f.name = none)

/-- A cell that is read gives its field a value, or leaves it missing. -/
def fill (data : Data F O) (name : String) (cell : Option (Value F O)) : Data F O :=
  cell.elim data fun v => Function.update data name (some v)

variable {data : Data F O}

theorem fill_of_ne {name other : String} (cell : Option (Value F O)) (different : other ≠ name) :
    fill data name cell other = data other := by
  cases cell with
  | none => rfl
  | some v => exact Function.update_of_ne different _ _

theorem fill_self {name : String} (missing : data name = none) (cell : Option (Value F O)) :
    fill data name cell name = cell := by
  cases cell with
  | none => exact missing
  | some v => exact Function.update_self _ _ _

def cellOf (go : Language F O) (get : String → Value F O) (column : String) : String × String :=
  (column, String.ofList (Csv.unreturned (sprint go (get column)).toList))

/-- A cell of a declared column fails or is read. -/
theorem csvCell_cellOf (get : String → Value F O) (declared : f ∈ schema.fields) (data : Data F O) :
    (csvImported go f (get f.name) = none → ∃ err,
      csvCell go schema data (cellOf go get f.name).1 (cellOf go get f.name).2 = .error err) ∧
    ∀ cell, csvImported go f (get f.name) = some cell →
      csvCell go schema data (cellOf go get f.name).1 (cellOf go get f.name).2 =
        .ok (fill data f.name cell) := by
  have name : trimSpace f.name = f.name := trimSpace_of_visible (schema.name_visible declared).2
  have text : trimSpace (cellOf go get f.name).2 = cellText (sprint go (get f.name)) := rfl
  have header : (cellOf go get f.name).1 = f.name := rfl
  simp only [csvCell, header, name, text, schema.fieldsByName_name declared, csvImported]
  by_cases blank : cellText (sprint go (get f.name)) = ""
  · simp only [blank, if_true]
    refine ⟨(fun failed => by cases failed), ?_⟩
    rintro cell same
    cases same
    rfl
  · simp only [blank, if_false]
    cases coerceCSVValue go f.type (cellText (sprint go (get f.name))) with
    | error err =>
      refine ⟨fun _ => ⟨_, rfl⟩, ?_⟩
      rintro cell same
      cases same
    | ok w =>
      refine ⟨(fun failed => by cases failed), ?_⟩
      rintro cell same
      cases same
      rfl

variable {columns : List String}

/-- The cells of a row fill the data of their columns, or one of them fails. -/
theorem foldlM_csvCell {get : String → Value F O} (distinct : columns.Nodup)
    (declared : ∀ name ∈ columns, ∃ f ∈ schema.fields, f.name = name) (start : Data F O)
    (missing : ∀ name ∈ columns, start name = none) :
    (∃ err, (columns.map (cellOf go get)).foldlM
        (fun data cell => csvCell go schema data cell.1 cell.2) start = .error err ∧
      ∃ f ∈ schema.fields, f.name ∈ columns ∧ csvImported go f (get f.name) = none) ∨
    ∃ data, (columns.map (cellOf go get)).foldlM
        (fun data cell => csvCell go schema data cell.1 cell.2) start = .ok data ∧
      ∀ f ∈ schema.fields,
        (f.name ∈ columns → csvImported go f (get f.name) = some (data f.name)) ∧
          (f.name ∉ columns → data f.name = start f.name) := by
  induction columns generalizing start with
  | nil =>
    refine .inr ⟨start, rfl, fun f _ => ⟨fun inColumns => ?_, fun _ => rfl⟩⟩
    cases inColumns
  | cons column rest ih =>
    rw [List.nodup_cons] at distinct
    rw [List.forall_mem_cons] at declared missing
    obtain ⟨⟨f, inFields, rfl⟩, declared⟩ := declared
    have cellRead : (csvImported go f (get f.name) = none → ∃ err, csvCell go schema start
          (cellOf go get f.name).1 (cellOf go get f.name).2 = .error err) ∧
        ∀ cell, csvImported go f (get f.name) = some cell → csvCell go schema start
          (cellOf go get f.name).1 (cellOf go get f.name).2 = .ok (fill start f.name cell) :=
      csvCell_cellOf get inFields start
    obtain ⟨fails, succeeds⟩ := cellRead
    rw [List.map_cons, List.foldlM_cons]
    cases read : csvImported go f (get f.name) with
    | none =>
      obtain ⟨err, failed⟩ := fails read
      refine .inl ⟨err, ?_, f, inFields, List.mem_cons_self, read⟩
      rw [failed]
      rfl
    | some cell =>
      have untouched : ∀ name ∈ rest, fill start f.name cell name = start name :=
        fun name inRest => fill_of_ne cell fun same => distinct.1 (same ▸ inRest)
      have left : ∀ name ∈ rest, fill start f.name cell name = none :=
        fun name inRest => (untouched name inRest).trans (missing.2 name inRest)
      have first : (csvCell go schema start
          (cellOf go get f.name).1 (cellOf go get f.name).2 >>= fun data =>
          (rest.map (cellOf go get)).foldlM
            (fun data cell => csvCell go schema data cell.1 cell.2) data) =
          (rest.map (cellOf go get)).foldlM
            (fun data cell => csvCell go schema data cell.1 cell.2)
            (fill start f.name cell) := by
        rw [succeeds cell read]
        rfl
      rw [first]
      rcases ih distinct.2 declared (fill start f.name cell) left with
        ⟨err, failed, g, declaredField, inRest, unread⟩ | ⟨data, filled, reads⟩
      · exact .inl ⟨err, failed, g, declaredField, List.mem_cons_of_mem _ inRest, unread⟩
      · refine .inr ⟨data, filled, fun g declaredField => ?_⟩
        obtain ⟨inside, outside⟩ := reads g declaredField
        by_cases same : g.name = f.name
        · have sameField : g = f := by
            have found := schema.fieldsByName_name declaredField
            rw [same, schema.fieldsByName_name inFields] at found
            exact (Option.some.inj found).symm
          subst sameField
          have value : data g.name = cell :=
            (outside distinct.1).trans (fill_self missing.1 cell)
          refine ⟨fun _ => by rw [value, read], fun absent => ?_⟩
          exact absurd List.mem_cons_self absent
        · refine ⟨fun inColumns => inside ((List.mem_cons.mp inColumns).resolve_left same), ?_⟩
          intro absent
          rw [outside fun inRest => absent (List.mem_cons_of_mem _ inRest)]
          exact fill_of_ne cell same

theorem csvRowToData_row (go : Language F O) (get : String → Value F O) (distinct : columns.Nodup)
    (declared : ∀ name ∈ columns, ∃ f ∈ schema.fields, f.name = name) :
    (∃ err, csvRowToData go schema columns
        (((csvRow go columns get).map Csv.unreturned).map String.ofList) = .error err ∧
      ∃ f ∈ schema.fields, f.name ∈ columns ∧ csvImported go f (get f.name) = none) ∨
    ∃ data, csvRowToData go schema columns
        (((csvRow go columns get).map Csv.unreturned).map String.ofList) = .ok data ∧
      Reads go schema .csv columns get data := by
  have cells : columns.zip (((csvRow go columns get).map Csv.unreturned).map String.ofList) =
      columns.map (cellOf go get) := by
    rw [csvRow, List.map_map, List.map_map, List.zip_map_right]
    induction columns with
    | nil => rfl
    | cons column rest ih =>
      rw [List.zip_cons_cons, List.map_cons, List.map_cons,
        ih (List.nodup_cons.mp distinct).2
          (fun name inRest => declared name (List.mem_cons_of_mem _ inRest))]
      rfl
  rw [csvRowToData, cells]
  exact foldlM_csvCell distinct declared (fun _ => none) fun _ _ => rfl

theorem jsonRow_row (go : Language F O) (get : String → Value F O) (distinct : columns.Nodup)
    (declared : ∀ name ∈ columns, ∃ f ∈ schema.fields, f.name = name) :
    (jsonRow go columns get = none ∧
      ∃ f ∈ schema.fields, f.name ∈ columns ∧ jsonImported go f (get f.name) = none) ∨
    ∃ row, jsonRow go columns get = some row ∧
      Reads go schema .json columns get (normalizeJSONRow go schema row) := by
  have keys : (columns.map fun column => column).Nodup := by rwa [List.map_id']
  cases encoded : jsonRow go columns get with
  | none =>
    obtain ⟨name, inColumns, failed⟩ := mapM_eq_none_iff.mp encoded
    obtain ⟨f, inFields, rfl⟩ := declared name inColumns
    exact .inl ⟨rfl, f, inFields, inColumns,
      jsonImported_none (Option.map_eq_none_iff.mp failed)⟩
  | some row =>
    refine .inr ⟨row, rfl, fun f inFields => ⟨fun inColumns => ?_, fun absent => ?_⟩⟩
    · have member := lookup_of_mapM keys encoded f.name inColumns
      cases written : marshal go (get f.name) with
      | none =>
        have failed : jsonRow go columns get = none :=
          mapM_eq_none_iff.mpr ⟨f.name, inColumns, by rw [written]; rfl⟩
        cases failed.symm.trans encoded
      | some text =>
        rw [written] at member
        simp only [normalizeJSONRow, schema.fieldsByName_name inFields, member]
        rw [imported, jsonImported, written]
        rfl
    · have notMember : row.lookup f.name = none := by
        refine lookup_eq_none_of_mapM ?_ encoded
        rwa [List.map_id']
      simp only [normalizeJSONRow, schema.fieldsByName_name inFields, notMember]

/-- The record that is made has the exported values. -/
def SameValues (columns : List String) (get : String → Value F O) (made : Made F O) : Prop :=
  ∀ name ∈ columns, made.lookup name = some (get name)

def Created (schema : EntitySchema) (repo : Repository F O) (row : Parsed F O) (made : Made F O) :
    Prop :=
  ∃ data, row = .data data ∧ create schema repo data = some made

/-- The values of a record that are exported come back, and the repository does without the
others. -/
def RowSurvives (go : Language F O) (schema : EntitySchema) (repo : Repository F O)
    (format : Format) (columns : List String) (get : String → Value F O) : Prop :=
  (∀ f ∈ schema.fields, f.name ∈ columns → Survives go repo format f (get f.name)) ∧
    ∀ f ∈ schema.fields, f.name ∉ columns → repo.absent f ≠ none

theorem create_eq (data : Data F O) : create schema repo data =
    schema.fields.mapM fun f => (stored repo f (data f.name)).map (f.name, ·) := rfl

variable {record : EntityRecord repo schema}

theorem create_iff (declared : ∀ name ∈ columns, ∃ f ∈ schema.fields, f.name = name)
    (reads : Reads go schema format columns record.get data) :
    (∃ made, create schema repo data = some made ∧ SameValues columns record.get made) ↔
      RowSurvives go schema repo format columns record.get := by
  constructor
  · rintro ⟨made, created, same⟩
    have values := lookup_of_mapM schema.distinct ((create_eq data).symm.trans created)
    refine ⟨fun f inFields inColumns => ?_, fun f inFields absent refused => ?_⟩
    · refine (survives_iff (record.conforms f inFields)).mpr
        ⟨data f.name, (reads f inFields).1 inColumns, ?_⟩
      rw [← values f inFields, same f.name inColumns]
    · have failed : create schema repo data = none := by
        refine mapM_eq_none_iff.mpr ⟨f, inFields, Option.map_eq_none_iff.mpr ?_⟩
        rw [(reads f inFields).2 absent]
        exact refused
      cases failed.symm.trans created
  · rintro ⟨survive, optional⟩
    have kept : ∀ f ∈ schema.fields, f.name ∈ columns →
        stored repo f (data f.name) = some (record.get f.name) := by
      intro f inFields inColumns
      obtain ⟨cell, read, back⟩ :=
        (survives_iff (record.conforms f inFields)).mp (survive f inFields inColumns)
      rwa [Option.some.inj (((reads f inFields).1 inColumns).symm.trans read)]
    cases created : create schema repo data with
    | none =>
      obtain ⟨f, inFields, failed⟩ := mapM_eq_none_iff.mp created
      have failed : stored repo f (data f.name) = none := Option.map_eq_none_iff.mp failed
      by_cases inColumns : f.name ∈ columns
      · cases failed.symm.trans (kept f inFields inColumns)
      · rw [(reads f inFields).2 inColumns] at failed
        exact absurd failed (optional f inFields inColumns)
    | some made =>
      refine ⟨made, rfl, fun name inColumns => ?_⟩
      obtain ⟨f, inFields, rfl⟩ := declared name inColumns
      rw [lookup_of_mapM schema.distinct ((create_eq data).symm.trans created) f inFields]
      exact kept f inFields inColumns

/-- A value that cannot be read does not survive. -/
theorem not_rowSurvives (inFields : f ∈ schema.fields) (inColumns : f.name ∈ columns)
    (unread : imported go format f (record.get f.name) = none) :
    ¬ RowSurvives go schema repo format columns record.get := by
  intro survives
  obtain ⟨cell, read, -⟩ := (survives_iff (record.conforms f inFields)).mp
    (survives.1 f inFields inColumns)
  cases unread.symm.trans read

theorem csvRow_iff (distinct : columns.Nodup)
    (declared : ∀ name ∈ columns, ∃ f ∈ schema.fields, f.name = name) :
    (∃ made, Created schema repo (parsedRow go schema columns
        (.ok ((csvRow go columns record.get).map Csv.unreturned))) made ∧
      SameValues columns record.get made) ↔
      RowSurvives go schema repo .csv columns record.get := by
  rcases csvRowToData_row go record.get distinct declared with
    ⟨err, failed, f, inFields, inColumns, unread⟩ | ⟨data, filled, reads⟩
  · refine iff_of_false ?_ (not_rowSurvives inFields inColumns unread)
    rintro ⟨made, ⟨data, parsed, -⟩, -⟩
    simp only [parsedRow, failed] at parsed
    cases parsed
  · have parsed : parsedRow go schema columns
        (.ok ((csvRow go columns record.get).map Csv.unreturned)) = .data data := by
      simp only [parsedRow, filled]
    rw [← create_iff declared reads, parsed]
    constructor
    · rintro ⟨made, ⟨_, same, created⟩, values⟩
      cases same
      exact ⟨made, created, values⟩
    · rintro ⟨made, created, values⟩
      exact ⟨made, ⟨data, rfl, created⟩, values⟩

theorem jsonRow_iff (distinct : columns.Nodup)
    (declared : ∀ name ∈ columns, ∃ f ∈ schema.fields, f.name = name) :
    (∃ row, jsonRow go columns record.get = some row ∧
      ∃ made, Created schema repo (.data (normalizeJSONRow go schema row)) made ∧
        SameValues columns record.get made) ↔
      RowSurvives go schema repo .json columns record.get := by
  rcases jsonRow_row go record.get distinct declared with
    ⟨failed, f, inFields, inColumns, unread⟩ | ⟨row, encoded, reads⟩
  · refine iff_of_false ?_ (not_rowSurvives inFields inColumns unread)
    rintro ⟨row, encoded, -⟩
    cases failed.symm.trans encoded
  · rw [← create_iff declared reads]
    constructor
    · rintro ⟨_, same, made, ⟨_, parsed, created⟩, values⟩
      cases encoded.symm.trans same
      cases parsed
      exact ⟨made, created, values⟩
    · rintro ⟨made, created, values⟩
      exact ⟨row, encoded, made, ⟨_, rfl, created⟩, values⟩

end Rows

section Loops

variable {schema : EntitySchema} {repo : Repository F O} {opts : ImportOptions}
  {batch : List (Data F O)} {out : Imported F O} {made : List (Made F O)}

theorem bulkCreate_eq_some_iff : bulkCreate schema repo batch = some made ↔
    List.Forall₂ (Created schema repo) (batch.map .data) made := by
  have created : ∀ (data : Data F O) (made : Made F O),
      Created schema repo (.data data) made ↔ create schema repo data = some made := by
    intro data made
    constructor
    · rintro ⟨_, same, created⟩
      cases same
      exact created
    · exact fun created => ⟨data, rfl, created⟩
  rw [bulkCreate, mapM_eq_some_iff, List.forall₂_map_left_iff]
  simp only [created]

/-- The parts of a list correspond to parts of what it corresponds to. -/
theorem forall₂_append {α β : Type} {R : α → β → Prop} {first later : List α} {all : List β}
    (related : List.Forall₂ R (first ++ later) all) :
    ∃ before after, all = before ++ after ∧ List.Forall₂ R first before ∧
      List.Forall₂ R later after := by
  refine ⟨all.take first.length, all.drop first.length, (List.take_append_drop _ _).symm, ?_, ?_⟩
  · have front := List.forall₂_take first.length related
    rwa [List.take_left] at front
  · have back := List.forall₂_drop first.length related
    rwa [List.drop_left] at back

/-- Lists correspond by way of what is between their elements exactly when they do by way of a
list. -/
theorem forall₂_exists_iff {α β γ : Type} {R : α → γ → Prop} {S : β → γ → Prop} {first : List α}
    {second : List β} :
    List.Forall₂ (fun x y => ∃ z, S y z ∧ R x z) first second ↔
      ∃ between, List.Forall₂ S second between ∧ List.Forall₂ R first between := by
  constructor
  · intro related
    induction related with
    | nil => exact ⟨[], .nil, .nil⟩
    | cons here _ ih =>
      obtain ⟨z, right, left⟩ := here
      obtain ⟨between, others, rest⟩ := ih
      exact ⟨z :: between, .cons right others, .cons left rest⟩
  · rintro ⟨between, right, left⟩
    induction right generalizing first with
    | nil =>
      cases left
      exact .nil
    | cons here _ ih =>
      cases left with
      | cons there rest => exact .cons ⟨_, here, there⟩ (ih rest)

theorem map_data_concat (batch : List (Data F O)) (d : Data F O) (rest : List (Parsed F O)) :
    (batch ++ [d]).map .data ++ rest = batch.map .data ++ .data d :: rest := by
  rw [List.map_append, List.append_assoc]
  rfl

/-- Some of the rows, in their order, and what was created from them and added. -/
def Adds (schema : EntitySchema) (repo : Repository F O) (rows : List (Parsed F O))
    (before after : List (Made F O)) : Prop :=
  ∃ kept made, kept.Sublist rows ∧ List.Forall₂ (Created schema repo) kept made ∧
    after = before ++ made

namespace Adds

variable {rows rest : List (Parsed F O)} {before after : List (Made F O)}

theorem nothing (rows : List (Parsed F O)) (before : List (Made F O)) :
    Adds schema repo rows before before :=
  ⟨[], [], List.nil_sublist _, .nil, (List.append_nil _).symm⟩

theorem skip (adds : Adds schema repo rest before after) (skips : rest.Sublist rows) :
    Adds schema repo rows before after := by
  obtain ⟨kept, made, sublist, created, result⟩ := adds
  exact ⟨kept, made, sublist.trans skips, created, result⟩

theorem flush (flushed : bulkCreate schema repo batch = some made)
    (adds : Adds schema repo rest (before ++ made) after) :
    Adds schema repo (batch.map .data ++ rest) before after := by
  obtain ⟨kept, more, sublist, created, rfl⟩ := adds
  exact ⟨_, made ++ more, (List.Sublist.refl _).append sublist,
    List.rel_append (bulkCreate_eq_some_iff.mp flushed) created, List.append_assoc ..⟩

end Adds

theorem importLoop_adds (label : String) (rows : List (Parsed F O)) (row : Nat)
    (batch : List (Data F O)) (out : Imported F O) :
    Adds schema repo (batch.map .data ++ rows) out.created
      (importLoop schema repo opts label row batch out rows).created := by
  induction rows generalizing row batch out with
  | nil =>
    rw [importLoop]
    cases flushed : bulkCreate schema repo batch with
    | none => exact .nothing _ _
    | some made => exact .flush flushed (.nothing _ _)
  | cons parsed rest ih =>
    have skips : (batch.map Parsed.data ++ rest).Sublist
        (batch.map Parsed.data ++ parsed :: rest) :=
      (List.Sublist.refl _).append (List.sublist_cons_self _ _)
    cases parsed with
    | unreadable err =>
      rw [importLoop]
      split
      · exact (ih (row + 1) batch { out with errors := out.errors ++ [(row, err)] }).skip skips
      · exact .nothing _ _
    | bad err =>
      rw [importLoop]
      simp only []
      split
      · exact (ih (row + 1) batch
          { out with total := out.total + 1, errors := out.errors ++ [(row, err)] }).skip skips
      · exact .nothing _ _
    | data d =>
      rw [importLoop, ← map_data_concat]
      simp only []
      split
      · cases flushed : bulkCreate schema repo (batch ++ [d]) with
        | some made => exact .flush flushed (ih (row + 1) [] _)
        | none =>
          simp only []
          split
          · exact (ih (row + 1) [] _).skip (List.sublist_append_right _ _)
          · exact .nothing _ _
      · exact ih (row + 1) (batch ++ [d]) { out with total := out.total + 1 }

theorem importLoop_all (label : String) (rows : List (Parsed F O)) (row : Nat)
    (created : List.Forall₂ (Created schema repo) (batch.map .data ++ rows) made) :
    (importLoop schema repo opts label row batch out rows).created = out.created ++ made ∧
      (importLoop schema repo opts label row batch out rows).failure = out.failure := by
  induction rows generalizing row batch out made with
  | nil =>
    rw [List.append_nil] at created
    rw [importLoop, bulkCreate_eq_some_iff.mpr created]
    exact ⟨rfl, rfl⟩
  | cons parsed rest ih =>
    obtain ⟨before, after, rfl, -, created'⟩ := forall₂_append created
    obtain ⟨d, rfl⟩ : ∃ d, parsed = .data d := by
      cases created' with
      | cons here _ =>
        obtain ⟨d, same, -⟩ := here
        exact ⟨d, same⟩
    rw [← map_data_concat] at created
    rw [importLoop]
    simp only []
    split
    · obtain ⟨flushed, others, same, first, later⟩ := forall₂_append created
      rw [bulkCreate_eq_some_iff.mpr first, same, ← List.append_assoc]
      exact ih (row + 1) later
    · exact ih (row + 1) created

theorem importJSONLoop_adds (rows : List (Data F O)) (row : Nat) (batch : List (Data F O))
    (out : Imported F O) :
    Adds schema repo (batch.map .data ++ rows.map .data) out.created
      (importJSONLoop schema repo opts row batch out rows).created := by
  induction rows generalizing row batch out with
  | nil => exact .nothing _ _
  | cons d rest ih =>
    rw [importJSONLoop, List.map_cons, ← map_data_concat]
    split
    · cases flushed : bulkCreate schema repo (batch ++ [d]) with
      | some made => exact .flush flushed (ih (row + 1) [] _)
      | none =>
        simp only []
        split
        · exact (ih (row + 1) [] _).skip (List.sublist_append_right _ _)
        · exact .nothing _ _
    · exact ih (row + 1) (batch ++ [d]) out

theorem importJSONLoop_all (rows : List (Data F O)) (row : Nat) (flushes : rows ≠ [] ∨ batch = [])
    (created : List.Forall₂ (Created schema repo) (batch.map .data ++ rows.map .data) made) :
    (importJSONLoop schema repo opts row batch out rows).created = out.created ++ made ∧
      (importJSONLoop schema repo opts row batch out rows).failure = out.failure := by
  induction rows generalizing row batch out made with
  | nil =>
    rw [flushes.resolve_left (fun some => some rfl)] at created
    cases created
    exact ⟨(List.append_nil _).symm, rfl⟩
  | cons d rest ih =>
    rw [List.map_cons, ← map_data_concat] at created
    rw [importJSONLoop]
    split
    · obtain ⟨flushed, others, same, first, later⟩ := forall₂_append created
      rw [bulkCreate_eq_some_iff.mpr first, same, ← List.append_assoc]
      exact ih (row + 1) (.inr rfl) later
    · rename_i full
      exact ih (row + 1) (.inl fun last => full (.inr last)) created

/-- What the rows of a document have become. -/
structure Imports (schema : EntitySchema) (repo : Repository F O) (rows : List (Parsed F O))
    (result : Imported F O) : Prop where
  sublist : ∃ kept, kept.Sublist rows ∧ List.Forall₂ (Created schema repo) kept result.created
  all : ∀ made, List.Forall₂ (Created schema repo) rows made →
    result.created = made ∧ result.failure = none

theorem imports_importLoop (label : String) (rows : List (Parsed F O)) (row : Nat) :
    Imports schema repo rows (importLoop schema repo opts label row [] {} rows) where
  sublist := by
    obtain ⟨kept, made, sublist, created, result⟩ := importLoop_adds label rows row [] {}
    exact ⟨kept, sublist, result ▸ created⟩
  all made created := importLoop_all label rows row created

theorem imports_importJSONLoop (total : Nat) (rows : List (Data F O)) (row : Nat) :
    Imports schema repo (rows.map .data)
      (importJSONLoop schema repo opts row [] { total := total } rows) where
  sublist := by
    obtain ⟨kept, made, sublist, created, result⟩ :=
      importJSONLoop_adds rows row [] { total := total }
    exact ⟨kept, sublist, result ▸ created⟩
  all made created := importJSONLoop_all rows row (.inr rfl) created

/-- Records come back from no more rows than there are exactly when each comes back from its
row. -/
theorem Imports.forall₂_iff {α : Type} {records : List α} {rows : List (Parsed F O)}
    {result : Imported F O} {same : α → Made F O → Prop} (imports : Imports schema repo rows result)
    (few : rows.length ≤ records.length) :
    (result.failure = none ∧ List.Forall₂ same records result.created) ↔
      List.Forall₂ (fun record row => ∃ made, Created schema repo row made ∧ same record made)
        records rows := by
  constructor
  · rintro ⟨-, values⟩
    obtain ⟨kept, sublist, created⟩ := imports.sublist
    have every : kept = rows := by
      refine sublist.eq_of_length_le ?_
      rw [created.length_eq, ← values.length_eq]
      exact few
    rw [every] at created
    exact forall₂_exists_iff.mpr ⟨_, created, values⟩
  · intro back
    obtain ⟨made, created, values⟩ := forall₂_exists_iff.mp back
    obtain ⟨all, success⟩ := imports.all made created
    rw [all]
    exact ⟨success, values⟩

end Loops

section RoundTrips

variable (go : Language F O) {repo : Repository F O} {schema : EntitySchema}
  (opts : ExportOptions schema) (importOptions : ImportOptions)
  (records : List (EntityRecord repo schema))

def RoundTrips : Prop :=
  ∃ document, exportRecords go opts (records.map EntityRecord.get) = some document ∧
    (importRecords go schema repo importOptions document).failure = none ∧
    List.Forall₂ (fun record made => SameValues opts.columns record.get made) records
      (importRecords go schema repo importOptions document).created

variable {go} {opts} {importOptions} {records}

def exported (opts : ExportOptions schema) (records : List (EntityRecord repo schema)) :
    List (String → Value F O) :=
  exportPages (records.map EntityRecord.get) opts.size ((records.map EntityRecord.get).length + 1) 1

theorem exported_prefix :
    exported opts records <+: records.map EntityRecord.get := exportPages_prefix opts.one_le_size

theorem length_exported_le : (exported opts records).length ≤ records.length := by
  have shorter : (exported opts records).length ≤ (records.map EntityRecord.get).length :=
    exported_prefix.length_le
  rwa [List.length_map] at shorter

theorem exported_eq_iff : exported opts records = records.map EntityRecord.get ↔
    opts.size ≤ 200 ∨ records.length ≤ 200 := by
  rw [exported, exportPages_eq_iff opts.one_le_size, List.length_map]

theorem exported_of_le (all : records.length ≤ (exported opts records).length) :
    exported opts records = records.map EntityRecord.get := by
  refine exported_prefix.eq_of_length_le ?_
  rwa [List.length_map]

/-- The records of a JSON document come back exactly when all are exported and each survives. -/
theorem json_iff {result : List (Row F O) → Imported F O}
    (imports : ∀ rows, Imports schema repo
      (rows.map fun row => .data (normalizeJSONRow go schema row)) (result rows)) :
    (∃ rows, (exported opts records).mapM (jsonRow go opts.columns) = some rows ∧
      (result rows).failure = none ∧
      List.Forall₂ (fun record made => SameValues opts.columns record.get made) records
        (result rows).created) ↔
      exported opts records = records.map EntityRecord.get ∧
        ∀ record ∈ records, RowSurvives go schema repo .json opts.columns record.get := by
  have each : ∀ record : EntityRecord repo schema,
      RowSurvives go schema repo .json opts.columns record.get ↔
        ∃ row, (∃ made, Created schema repo (.data (normalizeJSONRow go schema row)) made ∧
            SameValues opts.columns record.get made) ∧
          jsonRow go opts.columns record.get = some row := by
    intro record
    rw [← jsonRow_iff opts.nodup_columns fun _ => opts.mem_columns]
    simp only [and_comm]
  have back : ∀ rows : List (Row F O), rows.length ≤ records.length →
      (((result rows).failure = none ∧
        List.Forall₂ (fun record made => SameValues opts.columns record.get made) records
          (result rows).created) ↔
        List.Forall₂ (fun record row => ∃ made,
          Created schema repo (.data (normalizeJSONRow go schema row)) made ∧
            SameValues opts.columns record.get made) records rows) := by
    intro rows few
    rw [(imports rows).forall₂_iff (by rwa [List.length_map]), List.forall₂_map_right_iff]
  constructor
  · rintro ⟨rows, encoded, imported⟩
    rw [mapM_eq_some_iff] at encoded
    have few : rows.length ≤ records.length := encoded.length_eq ▸ length_exported_le
    have returned := (back rows few).mp imported
    have all : exported opts records = records.map EntityRecord.get := by
      refine exported_of_le ?_
      rw [encoded.length_eq, returned.length_eq]
    rw [all, List.forall₂_map_left_iff] at encoded
    refine ⟨all, fun record inRecords => (each record).mpr ?_⟩
    exact List.forall₂_same.mp (forall₂_exists_iff.mpr ⟨rows, returned, encoded⟩) record inRecords
  · rintro ⟨all, survive⟩
    obtain ⟨rows, returned, encoded⟩ := forall₂_exists_iff.mp
      (List.forall₂_same.mpr fun record inRecords => (each record).mp (survive record inRecords))
    refine ⟨rows, ?_, (back rows returned.length_eq.ge).mpr returned⟩
    rw [mapM_eq_some_iff, all, List.forall₂_map_left_iff]
    exact encoded

theorem csv_document : Csv.writeRecord (opts.columns.map String.toList) ++
      (exported opts records).flatMap (fun get => Csv.writeRecord (csvRow go opts.columns get)) =
    (opts.columns.map String.toList ::
      (exported opts records).map (csvRow go opts.columns)).flatMap Csv.writeRecord := by
  rw [List.flatMap_cons, List.flatMap_map]

/-- The header is read as it was written. -/
theorem header_unreturned : (opts.columns.map String.toList).map Csv.unreturned =
    opts.columns.map String.toList := by
  rw [List.map_map]
  refine List.map_congr_left fun name inColumns => ?_
  obtain ⟨f, inFields, rfl⟩ := opts.mem_columns inColumns
  refine Csv.unreturned_eq_self fun inName => ?_
  have blank := (schema.name_visible inFields).2 '\r' inName
  exact absurd blank (by decide)

theorem header_full (some : opts.columns ≠ []) :
    Csv.isBlank (opts.columns.map String.toList) = false := by
  simp only [Csv.isBlank, Bool.or_eq_false_iff, decide_eq_false_iff_not]
  refine ⟨fun empty => some (List.map_eq_nil_iff.mp empty), fun single => ?_⟩
  obtain ⟨name, columns, empty⟩ : ∃ name, opts.columns = [name] ∧ name.toList = [] := by
    obtain ⟨name, rest, columns⟩ := List.exists_cons_of_ne_nil some
    rw [columns, List.map_cons] at single
    obtain ⟨empty, noMore⟩ := List.cons.inj single
    exact ⟨name, by rw [columns, List.map_eq_nil_iff.mp noMore], empty⟩
  obtain ⟨f, inFields, rfl⟩ := opts.mem_columns (columns ▸ List.mem_cons_self)
  exact (schema.name_visible inFields).1 empty

theorem length_le_flatMap (rows : List (List Csv.Field)) :
    rows.length ≤ (rows.flatMap Csv.writeRecord).length := by
  induction rows with
  | nil => exact Nat.le_refl 0
  | cons row rest ih =>
    rw [List.flatMap_cons, List.length_cons, List.length_append, Csv.writeRecord,
      List.length_append, List.length_singleton]
    omega

/-- The rows that the import sees are those of the records that are not written as blank lines. -/
theorem importCSV_document (some : opts.columns ≠ []) :
    importCSV go schema repo importOptions
      (Csv.writeRecord (opts.columns.map String.toList) ++ (exported opts records).flatMap
        fun get => Csv.writeRecord (csvRow go opts.columns get)) =
    importLoop schema repo importOptions "csv" 2 [] {}
      (((exported opts records).filter fun get => !Csv.isBlank (csvRow go opts.columns get)).map
        fun get => parsedRow go schema opts.columns
          (.ok ((csvRow go opts.columns get).map Csv.unreturned))) := by
  have names : (opts.columns.map String.toList).map String.ofList = opts.columns := by
    rw [List.map_map]
    exact (List.map_congr_left fun name _ => String.ofList_toList).trans (List.map_id' _)
  have read : ∀ rest, Csv.readRecord (Csv.writeRecord (opts.columns.map String.toList) ++ rest) =
      Option.some (.ok (opts.columns.map String.toList), rest) :=
    Csv.readRecord_writeRecord (header_full some)
  have counts : ∀ row ∈ ((exported opts records).map (csvRow go opts.columns)).map
      (List.map Csv.unreturned), row.length = (opts.columns.map String.toList).length := by
    intro row inRows
    obtain ⟨_, inRecords, rfl⟩ := List.mem_map.mp inRows
    obtain ⟨get, -, rfl⟩ := List.mem_map.mp inRecords
    rw [List.length_map, csvRow, List.length_map, List.length_map]
  have kept : (fun get => !Csv.isBlank ((csvRow go opts.columns get).map Csv.unreturned)) =
      fun get => !Csv.isBlank (csvRow go opts.columns get) :=
    funext fun get => by rw [Csv.isBlank_map_unreturned]
  rw [csv_document, importCSV, Csv.readLines_records, List.map_cons, header_unreturned,
    List.flatMap_cons, read]
  simp only []
  rw [names, Csv.readAll_records counts (Nat.lt_succ_of_le (length_le_flatMap _)), List.map_map,
    List.map_map, List.filter_map, List.map_map]
  simp only [Function.comp_def, kept]

/-- The records of a CSV file come back exactly when all are exported, none is written as a blank
line and each survives. -/
theorem csv_iff {result : Imported F O}
    (imports : Imports schema repo
      (((exported opts records).filter fun get => !Csv.isBlank (csvRow go opts.columns get)).map
        fun get => parsedRow go schema opts.columns
          (.ok ((csvRow go opts.columns get).map Csv.unreturned))) result) :
    (result.failure = none ∧
      List.Forall₂ (fun record made => SameValues opts.columns record.get made) records
        result.created) ↔
      exported opts records = records.map EntityRecord.get ∧ ∀ record ∈ records,
        Csv.isBlank (csvRow go opts.columns record.get) = false ∧
          RowSurvives go schema repo .csv opts.columns record.get := by
  have filtered := List.length_filter_le
    (fun get => !Csv.isBlank (csvRow go opts.columns get)) (exported opts records)
  have few := filtered.trans length_exported_le
  rw [imports.forall₂_iff (by rwa [List.length_map]), List.forall₂_map_right_iff]
  constructor
  · intro returned
    have all : exported opts records = records.map EntityRecord.get :=
      exported_of_le (returned.length_eq ▸ filtered)
    have full : ∀ get ∈ exported opts records,
        (!Csv.isBlank (csvRow go opts.columns get)) = true := by
      rw [← List.length_filter_eq_length_iff, ← returned.length_eq, all, List.length_map]
    rw [List.filter_eq_self.mpr full, all, List.forall₂_map_right_iff,
      List.forall₂_same] at returned
    refine ⟨all, fun record inRecords => ⟨?_, ?_⟩⟩
    · have shown := full record.get (all ▸ List.mem_map_of_mem inRecords)
      rwa [Bool.not_eq_true'] at shown
    · exact (csvRow_iff opts.nodup_columns fun _ => opts.mem_columns).mp (returned record inRecords)
  · rintro ⟨all, survive⟩
    have full : ∀ get ∈ exported opts records,
        (!Csv.isBlank (csvRow go opts.columns get)) = true := by
      rw [all, List.forall_mem_map]
      intro record inRecords
      rw [(survive record inRecords).1]
      rfl
    rw [List.filter_eq_self.mpr full, all, List.forall₂_map_right_iff, List.forall₂_same]
    exact fun record inRecords =>
      (csvRow_iff opts.nodup_columns fun _ => opts.mem_columns).mpr (survive record inRecords).2

/-- A file without columns has no header. -/
theorem importCSV_blank {text : List Char} (blank : ∀ c ∈ text, c = '\n') :
    (importCSV go schema repo importOptions text).failure ≠ none := by
  have noReturn : '\r' ∉ text := fun inText => by
    have same := blank '\r' inText
    exact absurd same (by decide)
  have last : text.getLast? ≠ some '\r' := fun same => noReturn (List.mem_of_getLast? same)
  have lines : Csv.readLines text = text := by
    rw [Csv.readLines, if_neg last, Csv.unreturned_eq_self noReturn]
  have skipped : text.dropWhile (· = '\n') = [] := by
    rw [List.dropWhile_eq_nil_iff]
    exact fun c inText => decide_eq_true (blank c inText)
  have ended : Csv.readRecord (Csv.readLines text) = none := by
    rw [lines, Csv.readRecord, skipped]
  rw [importCSV, ended]
  exact Option.some_ne_none _

theorem document_blank (empty : opts.columns = []) :
    ∀ c ∈ Csv.writeRecord (opts.columns.map String.toList) ++ (exported opts records).flatMap
      (fun get => Csv.writeRecord (csvRow go opts.columns get)), c = '\n' := by
  intro c inDocument
  rw [empty, List.mem_append, List.mem_flatMap] at inDocument
  rcases inDocument with inHeader | ⟨get, -, inRow⟩
  · exact List.mem_singleton.mp inHeader
  · exact List.mem_singleton.mp inRow

theorem roundTrips_csv (format : opts.format = .csv) :
    RoundTrips go opts importOptions records ↔ opts.columns ≠ [] ∧
      exported opts records = records.map EntityRecord.get ∧ ∀ record ∈ records,
        Csv.isBlank (csvRow go opts.columns record.get) = false ∧
          RowSurvives go schema repo .csv opts.columns record.get := by
  have written : exportRecords go opts (records.map EntityRecord.get) = some (.csv
      (Csv.writeRecord (opts.columns.map String.toList) ++ (exported opts records).flatMap
        fun get => Csv.writeRecord (csvRow go opts.columns get))) := by
    rw [exportRecords, format]
    rfl
  rw [RoundTrips, written]
  simp only [Option.some.injEq, exists_eq_left']
  by_cases empty : opts.columns = []
  · refine iff_of_false (fun returned => ?_) fun returned => returned.1 empty
    exact importCSV_blank (document_blank empty) returned.1
  · rw [and_iff_right empty, importRecords, importCSV_document empty]
    exact csv_iff (imports_importLoop "csv" _ 2)

/-- JSON arrays and JSON streams differ in how they are imported. -/
theorem roundTrips_rows (document : List (Row F O) → Document F O)
    (written : exportRecords go opts (records.map EntityRecord.get) =
      ((exported opts records).mapM (jsonRow go opts.columns)).map document)
    (imports : ∀ rows, Imports schema repo
      (rows.map fun row => .data (normalizeJSONRow go schema row))
      (importRecords go schema repo importOptions (document rows))) :
    RoundTrips go opts importOptions records ↔
      exported opts records = records.map EntityRecord.get ∧
        ∀ record ∈ records, RowSurvives go schema repo .json opts.columns record.get := by
  rw [RoundTrips, written, ← json_iff imports]
  constructor
  · rintro ⟨_, same, returned⟩
    obtain ⟨rows, encoded, rfl⟩ := Option.map_eq_some_iff.mp same
    exact ⟨rows, encoded, returned⟩
  · rintro ⟨rows, encoded, returned⟩
    exact ⟨document rows, by rw [encoded]; rfl, returned⟩

theorem roundTrips_json (format : opts.format = .json) :
    RoundTrips go opts importOptions records ↔
      exported opts records = records.map EntityRecord.get ∧
        ∀ record ∈ records, RowSurvives go schema repo .json opts.columns record.get := by
  refine roundTrips_rows .json ?_ fun rows => ?_
  · rw [exportRecords, format]
    rfl
  · have loop : Imports schema repo ((rows.map (normalizeJSONRow go schema)).map .data)
        (importRecords go schema repo importOptions (.json rows)) :=
      imports_importJSONLoop rows.length (rows.map (normalizeJSONRow go schema)) 1
    rwa [List.map_map] at loop

theorem roundTrips_jsonl (format : opts.format = .jsonl) :
    RoundTrips go opts importOptions records ↔
      exported opts records = records.map EntityRecord.get ∧
        ∀ record ∈ records, RowSurvives go schema repo .json opts.columns record.get := by
  refine roundTrips_rows .jsonl ?_ fun rows => imports_importLoop "jsonl" _ 1
  rw [exportRecords, format]
  rfl

/-- Records come back with their exported values exactly when all of them are exported, a CSV file
has columns and none of its rows is blank, every exported value survives the format and the
repository does without the other fields. -/
theorem records_roundTrip_iff : RoundTrips go opts importOptions records ↔
    (opts.size ≤ 200 ∨ records.length ≤ 200) ∧
      (opts.format = .csv → opts.columns ≠ [] ∧ ∀ record ∈ records,
        Csv.isBlank (csvRow go opts.columns record.get) = false) ∧
      ∀ record ∈ records,
        (∀ f ∈ schema.fields, f.name ∈ opts.columns →
          Survives go repo opts.format f (record.get f.name)) ∧
        ∀ f ∈ schema.fields, f.name ∉ opts.columns → repo.absent f ≠ none := by
  rw [← exported_eq_iff]
  cases format : opts.format with
  | csv =>
    rw [roundTrips_csv format]
    constructor
    · rintro ⟨some, all, each⟩
      exact ⟨all, fun _ => ⟨some, fun record inRecords => (each record inRecords).1⟩,
        fun record inRecords => (each record inRecords).2⟩
    · rintro ⟨all, shown, each⟩
      exact ⟨(shown rfl).1, all, fun record inRecords =>
        ⟨(shown rfl).2 record inRecords, each record inRecords⟩⟩
  | json =>
    rw [roundTrips_json format]
    exact and_congr_right fun _ => (and_iff_right nofun).symm
  | jsonl =>
    rw [roundTrips_jsonl format]
    exact and_congr_right fun _ => (and_iff_right nofun).symm

end RoundTrips

/-! ## A record that does not come back -/

/-- A language with the floats that are `int64` integers. -/
def integral : Language { n : Int // IsInt64 n } Empty where
  formatFloat f := String.ofList (paddedInt 0 f.val)
  parseFloat s := (parseInt s).bind fun n => if fits : IsInt64 n then some ⟨n, fits⟩ else none
  finite _ := true
  ofInt n :=
    if fits : IsInt64 (Float64.nearest n) then ⟨Float64.nearest n, fits⟩
    else ⟨-2 ^ 63, by decide⟩
  toInt f := f.val
  overflow := -2 ^ 63
  sprintOther o := nomatch o
  marshalOther o := nomatch o
  parseFloat_formatFloat f := by
    rw [parseInt_paddedInt f.property, Option.bind_some, dif_pos f.property]
  formatFloat_visible f := by
    refine ⟨fun empty => ?_, ?_⟩
    · have read := parseInt_paddedInt f.property
      have unread : parseInt "" = none := by decide
      rw [empty, unread] at read
      cases read
    · rw [String.toList_ofList]
      exact visible_paddedInt f.val
  parseFloat_nil := by decide
  isInt64_overflow := by decide
  toInt_ofInt n _ := by
    by_cases fits : IsInt64 (Float64.nearest n)
    · rw [dif_pos fits, if_pos fits]
    · rw [dif_neg fits, if_neg fits]

/-- A repository that takes every value as it is. -/
def permissive : Repository { n : Int // IsInt64 n } Empty where
  accept _ v := some v
  absent _ := some .nil
  accept_own _ _ _ _ same := (Option.some.inj same).symm

def customer : EntitySchema where
  fields := [{ name := "name", type := .data }, { name := "number", type := .int }]
  distinct := by decide
  named := by decide

def customerOptions (format : Format) : ExportOptions customer where
  format := format
  listed := by decide

/-- The name begins with a space, the number is 2^53 + 1. -/
def padded : EntityRecord permissive customer where
  get name := if name = "name" then .string " Ada" else .int 9007199254740993
  conforms := by
    intro f declared
    rcases List.mem_cons.mp declared with rfl | rest
    · exact ⟨.inr (.inl rfl), rfl⟩
    · rcases List.mem_cons.mp rest with rfl | none
      · exact ⟨.inr (.inl ⟨rfl, by decide⟩), rfl⟩
      · cases none

/-- What is created of a customer does not have both values. -/
theorem not_sameValues {name : String} {number : Int}
    (other : name ≠ " Ada" ∨ number ≠ 9007199254740993) :
    ¬ SameValues ["name", "number"] padded.get
      [("name", .string name), ("number", .int number)] := by
  intro same
  have sameName := same "name" (by decide)
  have sameNumber := same "number" (by decide)
  cases sameName
  cases sameNumber
  exact other.elim (· rfl) (· rfl)

/-- The space is trimmed in a CSV file, and the number is rounded in JSON. -/
theorem padded_lost :
    ¬ RoundTrips integral (customerOptions .csv) {} [padded] ∧
      ¬ RoundTrips integral (customerOptions .json) {} [padded] ∧
      ¬ RoundTrips integral (customerOptions .jsonl) {} [padded] := by
  have csv : exportRecords integral (customerOptions .csv) [padded.get] =
      some (.csv "name,number\n\" Ada\",9007199254740993\n".toList) := by decide +kernel
  have trimmed : (importRecords integral customer permissive {}
      (.csv "name,number\n\" Ada\",9007199254740993\n".toList)).created =
      [[("name", .string "Ada"), ("number", .int 9007199254740993)]] := by decide +kernel
  have rows : exportRecords integral (customerOptions .json) [padded.get] =
      some (.json [[("name", .string " Ada"), ("number", .integer 9007199254740993)]]) := by
    decide +kernel
  have lines : exportRecords integral (customerOptions .jsonl) [padded.get] =
      some (.jsonl [[("name", .string " Ada"), ("number", .integer 9007199254740993)]]) := by
    decide +kernel
  have rounded : (importRecords integral customer permissive {}
      (.json [[("name", .string " Ada"), ("number", .integer 9007199254740993)]])).created =
      [[("name", .string " Ada"), ("number", .int 9007199254740992)]] := by decide +kernel
  have roundedLine : (importRecords integral customer permissive {}
      (.jsonl [[("name", .string " Ada"), ("number", .integer 9007199254740993)]])).created =
      [[("name", .string " Ada"), ("number", .int 9007199254740992)]] := by decide +kernel
  refine ⟨?_, ?_, ?_⟩
  · rintro ⟨document, written, -, same⟩
    rw [← Option.some.inj (csv.symm.trans written), trimmed] at same
    cases same with
    | cons first _ => exact not_sameValues (.inl (by decide)) first
  · rintro ⟨document, written, -, same⟩
    rw [← Option.some.inj (rows.symm.trans written), rounded] at same
    cases same with
    | cons first _ => exact not_sameValues (.inr (by decide)) first
  · rintro ⟨document, written, -, same⟩
    rw [← Option.some.inj (lines.symm.trans written), roundedLine] at same
    cases same with
    | cons first _ => exact not_sameValues (.inr (by decide)) first

end ErpFinance.Ioport
