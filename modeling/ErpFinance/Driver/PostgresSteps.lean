import ErpFinance.Driver.Postgres

/-!
# What the operations do to the tables

A statement that writes either fails or leaves every row it does not match; an
operation reads or changes the rows of its table.  A transaction that fails
leaves the tables as they were.
-/

namespace ErpFinance.Driver

open Compiler Domain Library ErpFinance.Runtime

namespace Engine

variable {e : Engine} {tables after : Tables} {table : String} {row new : Row} {result : Result}

/-! ## Rows -/

variable {column : String}

theorem write_eq_some {value : Value} (written : e.write table row (column, value) = some new) :
    ∃ kept, e.keep table column value = some kept ∧
      new.value = Function.update row.value column kept := by
  obtain ⟨kept, keeps, assigned⟩ := Option.bind_eq_some_iff.mp written
  exact ⟨kept, keeps, Row.value_assign assigned⟩

variable {sets : List (String × Value)}

/-- A column that is not written holds what it held. -/
theorem writeAll_value_of_notMem (written : e.writeAll table sets row = some new)
    (absent : column ∉ sets.map Prod.fst) :
    new.value column = row.value column := by
  induction sets generalizing row with
  | nil =>
    obtain rfl := Option.some.inj written
    rfl
  | cons entry rest ih =>
    rw [writeAll, List.foldlM_cons] at written
    obtain ⟨middle, first, others⟩ := Option.bind_eq_some_iff.mp written
    obtain ⟨kept, -, changes⟩ := write_eq_some first
    rw [List.map_cons, List.mem_cons, not_or] at absent
    rw [ih others absent.2, changes, Function.update_of_ne absent.1]

theorem writeAll_value_of_mem {value : Value} (written : e.writeAll table sets row = some new)
    (nodup : (sets.map Prod.fst).Nodup) (member : (column, value) ∈ sets) :
    e.keep table column value = some (new.value column) := by
  induction sets generalizing row with
  | nil => cases member
  | cons entry rest ih =>
    rw [writeAll, List.foldlM_cons] at written
    obtain ⟨middle, first, others⟩ := Option.bind_eq_some_iff.mp written
    rw [List.map_cons, List.nodup_cons] at nodup
    rcases List.mem_cons.mp member with rfl | member
    · obtain ⟨kept, keeps, changes⟩ := write_eq_some first
      rw [writeAll_value_of_notMem others nodup.1, changes, Function.update_self, keeps]
    · exact ih others nodup.2 member

theorem writeAll_concat (sets : List (String × Value)) (entry : String × Value) (row : Row) :
    e.writeAll table (sets ++ [entry]) row =
      (e.writeAll table sets row).bind fun middle => e.write table middle entry := by
  rw [writeAll, writeAll, List.foldlM_append]
  cases sets.foldlM (e.write table) row with
  | none => rfl
  | some middle => exact bind_pure (e.write table middle entry)

variable {merges : List (String × Object)}

theorem mergeAll_value_of_notMem (merged : e.mergeAll table merges row = some new)
    (absent : column ∉ merges.map Prod.fst) :
    new.value column = row.value column := by
  induction merges generalizing row with
  | nil =>
    obtain rfl := Option.some.inj merged
    rfl
  | cons entry rest ih =>
    rw [mergeAll, List.foldlM_cons] at merged
    obtain ⟨middle, first, others⟩ := Option.bind_eq_some_iff.mp merged
    obtain ⟨value, -, written⟩ := Option.bind_eq_some_iff.mp first
    obtain ⟨kept, -, changes⟩ := write_eq_some written
    rw [List.map_cons, List.mem_cons, not_or] at absent
    rw [ih others absent.2, changes, Function.update_of_ne absent.1]

@[simp] theorem keeps_byID (id : Uuid) (row : Row) :
    e.keeps (byID id) row = decide (row.id = id) := by
  have test : Filter.truth e.compare row.value (.eq "id" (.uuid id)) =
      some (decide (row.id = id)) := e.compare_uuid id row.id
  rw [keeps, byID, Filter.keeps, Option.all_some, test]
  simp

@[simp] theorem keeps_none (row : Row) : e.keeps none row = true := rfl

/-! ## Statements -/

theorem execute_eq_ok {statement : Statement} (quoted : statement.wellQuoted = true)
    (runs : e.execute tables statement = .ok (result, after)) :
    e.admits statement = true ∧ statement.written.Nodup ∧
      e.answer tables statement = .ok (result, after) := by
  rw [execute, quoted] at runs
  simp only [Bool.not_true, Bool.false_eq_true, if_false] at runs
  split_ifs at runs with admits nodup
  · simp only [Bool.not_eq_true, Bool.not_eq_false'] at admits nodup
    exact ⟨admits, of_decide_eq_true nodup, runs⟩

theorem execute_eq_answer {statement : Statement} (quoted : statement.wellQuoted = true)
    (admits : e.admits statement = true) (nodup : statement.written.Nodup) :
    e.execute tables statement = e.answer tables statement := by
  rw [execute, quoted, admits, decide_eq_true nodup]
  rfl

theorem admits_iff {statement : Statement} :
    e.admits statement = true ↔
      (∀ column ∈ statement.columns ++ statement.condition.toList.flatMap Filter.columns,
        column ∈ e.known statement.table) ∧
      statement.condition.all (e.accepts statement.table) = true := by
  rw [admits, Bool.and_eq_true, List.all_eq_true]
  simp only [decide_eq_true_eq]

/-! ## Queries -/

theorem mem_selected {query : Select} (member : row ∈ e.selected tables query) :
    ∃ stored ∈ tables query.table, e.keeps query.condition stored = true ∧ row = stored.shown := by
  have of_rows : ∀ rows : List Row, rows.Sublist
      (e.arrange query.ordering (e.matching tables query.table query.condition)) →
      row ∈ rows.map Row.shown → ∃ stored ∈ tables query.table,
        e.keeps query.condition stored = true ∧ row = stored.shown := by
    intro rows part member
    obtain ⟨stored, inRows, rfl⟩ := List.mem_map.mp member
    have inMatching := (e.arrange_perm _ _).mem_iff.mp (part.subset inRows)
    obtain ⟨inTable, keeps⟩ := List.mem_filter.mp inMatching
    exact ⟨stored, inTable, keeps, rfl⟩
  unfold selected at member
  cases limit : query.limit with
  | none =>
    rw [limit] at member
    exact of_rows _ (List.drop_sublist _ _) member
  | some bound =>
    rw [limit] at member
    exact of_rows _ ((List.take_sublist _ _).trans (List.drop_sublist _ _)) member

/-- Of rows with distinct identifiers one has a given identifier. -/
theorem filter_id {rows : List Row} (nodup : (rows.map Row.id).Nodup) (member : row ∈ rows) :
    (rows.filter fun stored => decide (stored.id = row.id)) = [row] := by
  induction rows with
  | nil => cases member
  | cons first rest ih =>
    rw [List.map_cons, List.nodup_cons] at nodup
    rcases List.mem_cons.mp member with rfl | member
    · rw [List.filter_cons_of_pos (by simp), List.filter_eq_nil_iff.mpr]
      intro stored inRest same
      exact nodup.1 (List.mem_map.mpr ⟨stored, inRest, of_decide_eq_true same⟩)
    · have different : first.id ≠ row.id := by
        intro same
        exact nodup.1 (List.mem_map.mpr ⟨row, member, same.symm⟩)
      rw [List.filter_cons_of_neg (by simpa using different), ih nodup.2 member]

theorem matching_byID (nodup : ((tables table).map Row.id).Nodup) (member : row ∈ tables table) :
    e.matching tables table (byID row.id) = [row] := by
  have same : e.keeps (byID row.id) = fun stored : Row => decide (stored.id = row.id) :=
    funext fun stored => keeps_byID row.id stored
  rw [matching, same, filter_id nodup member]

/-- The query of a row by its identifier. -/
def byIDQuery (es : EntitySchema) (id : Uuid) (forUpdate : Bool) : Select where
  table := es.tableName
  columns := scannedColumns es
  condition := byID id
  limit := some 1
  forUpdate := forUpdate

theorem selected_byID {es : EntitySchema} {forUpdate : Bool}
    (nodup : ((tables es.tableName).map Row.id).Nodup) (member : row ∈ tables es.tableName) :
    e.selected tables (byIDQuery es row.id forUpdate) = [row.shown] := by
  have single := e.arrange_perm [] [row]
  rw [List.perm_singleton] at single
  rw [selected]
  simp only [byIDQuery, matching_byID nodup member, Select.ordering, Option.toList_none,
    List.nil_append, single]
  rfl

/-! ## Writes -/

/-- What the constraints ask of the tables after a write. -/
structure Settled (e : Engine) (table : String) (after : Tables) : Prop where
  nodup : ((after table).map Row.id).Nodup
  permits : e.permits after = true

theorem settle_eq_ok {rows : List Row} {affected : Nat}
    (settles : e.settle tables table rows affected = .ok (result, after)) :
    after = Function.update tables table rows ∧ result.affected = affected ∧
      Settled e table after := by
  unfold settle at settles
  split_ifs at settles with allowed
  cases settles
  rw [Bool.and_eq_true, decide_eq_true_eq] at allowed
  refine ⟨rfl, rfl, ⟨?_, allowed.2⟩⟩
  rw [Function.update_self]
  exact allowed.1

/-- What an insert that succeeds has done to the tables. -/
structure Inserted (e : Engine) (table : String) (values : List (String × Value))
    (before after : Tables) (row : Row) : Prop where
  distinct : (values.map Prod.fst).Nodup
  written : e.writeAll table values (e.blank table) = some row
  tables : after = Function.update before table (before table ++ [row])
  settled : e.Settled table after

theorem Inserted.mem {values : List (String × Value)}
    (inserted : e.Inserted table values tables after row) : row ∈ after table := by
  rw [inserted.tables, Function.update_self]
  exact List.mem_append_right _ List.mem_cons_self

theorem inserted_of_execute {values : List (String × Value)}
    (quoted : (Statement.insert table values).wellQuoted = true)
    (runs : e.execute tables (.insert table values) = .ok (result, after)) :
    ∃ row, e.Inserted table values tables after row := by
  obtain ⟨-, distinct, answers⟩ := execute_eq_ok quoted runs
  rw [answer] at answers
  cases written : e.writeAll table values (e.blank table) with
  | none =>
    rw [written] at answers
    cases answers
  | some row =>
    rw [written] at answers
    obtain ⟨same, -, settled⟩ := settle_eq_ok answers
    exact ⟨row, distinct, written, same, settled⟩

structure Rewritten (e : Engine) (table : String) (sets : List (String × Value))
    (merges : List (String × Object)) (condition : Option Filter) (before after : Tables) :
    Prop where
  each : List.Forall₂ (fun row new => e.revised table sets merges condition row = some new)
    (before table) (after table)
  others : ∀ other, other ≠ table → after other = before other
  distinct : (sets.map Prod.fst ++ merges.map Prod.fst).Nodup
  known : ∀ column ∈ sets.map Prod.fst ++ merges.map Prod.fst, column ∈ e.known table
  settled : Settled e table after

theorem forall₂_of_mapM {α β : Type} {f : α → Option β} {items : List α} {results : List β}
    (maps : items.mapM f = some results) :
    List.Forall₂ (fun item new => f item = some new) items results := by
  induction items generalizing results with
  | nil =>
    obtain rfl := Option.some.inj maps
    exact .nil
  | cons item rest ih =>
    rw [List.mapM_cons] at maps
    obtain ⟨first, head, maps⟩ := Option.bind_eq_some_iff.mp maps
    obtain ⟨others, tail, same⟩ := Option.bind_eq_some_iff.mp maps
    obtain rfl := Option.some.inj same
    exact .cons head (ih tail)

theorem rewritten_of_execute {condition : Option Filter}
    (quoted : (Statement.update table sets merges condition).wellQuoted = true)
    (runs : e.execute tables (.update table sets merges condition) = .ok (result, after)) :
    Rewritten e table sets merges condition tables after ∧
      result.affected = (e.matching tables table condition).length := by
  obtain ⟨admits, distinct, answers⟩ := execute_eq_ok quoted runs
  rw [answer] at answers
  cases maps : (tables table).mapM (e.revised table sets merges condition) with
  | none =>
    rw [maps] at answers
    cases answers
  | some rows =>
    rw [maps] at answers
    obtain ⟨rfl, affected, settled⟩ := settle_eq_ok answers
    refine ⟨⟨?_, fun other different => Function.update_of_ne different _ _, distinct, ?_,
      settled⟩, affected⟩
    · rw [Function.update_self]
      exact forall₂_of_mapM maps
    · intro column member
      rw [admits_iff] at admits
      exact admits.1 column (List.mem_append_left _ member)

section Forall

variable {α β : Type} {related : α → β → Prop} {items : List α} {others : List β}

theorem exists_of_mem_left (each : List.Forall₂ related items others) {item : α}
    (member : item ∈ items) : ∃ other ∈ others, related item other := by
  induction each with
  | nil => cases member
  | cons head tail ih =>
    rcases List.mem_cons.mp member with rfl | member
    · exact ⟨_, List.mem_cons_self, head⟩
    · obtain ⟨other, inOthers, holds⟩ := ih member
      exact ⟨other, List.mem_cons_of_mem _ inOthers, holds⟩

theorem exists_of_mem_right (each : List.Forall₂ related items others) {other : β}
    (member : other ∈ others) : ∃ item ∈ items, related item other := by
  induction each with
  | nil => cases member
  | cons head tail ih =>
    rcases List.mem_cons.mp member with rfl | member
    · exact ⟨_, List.mem_cons_self, head⟩
    · obtain ⟨item, inItems, holds⟩ := ih member
      exact ⟨item, List.mem_cons_of_mem _ inItems, holds⟩

end Forall

/-- A row that an update of one identifier has rewritten, or one of another identifier. -/
theorem revised_byID {id : Uuid} (revises : e.revised table sets merges (byID id) row = some new) :
    (row.id ≠ id ∧ new = row) ∨
      (row.id = id ∧ ∃ middle, e.writeAll table sets row = some middle ∧
        e.mergeAll table merges middle = some new) := by
  rw [revised, keeps_byID] at revises
  by_cases same : row.id = id
  · rw [if_pos (decide_eq_true same)] at revises
    exact .inr ⟨same, Option.bind_eq_some_iff.mp revises⟩
  · rw [if_neg (by simpa using same)] at revises
    exact .inl ⟨same, (Option.some.inj revises).symm⟩

end Engine

/-! ## Reading a record -/

section Operations

variable {e : Engine} {es : EntitySchema} {ctx : Context} {operation : String} {id : Uuid}
  {store after : Store} {forUpdate : Bool} {record : EntityRecord} {statement : Statement}
  {result : Result} {tables : Tables} {error : Error} {row : Row}

def Plain (es : EntitySchema) : Prop := ∀ name ∈ es.tableName :: scannedColumns es, unquoted name

theorem send_of_ok (runs : e.execute store.tables statement = .ok (result, tables)) :
    send e.database es ctx operation statement store =
      (.ok result, { store.log statement with tables := tables }) := by
  rw [send, Stateful.mapError, Engine.database]
  simp only [runs]
  rfl

theorem send_of_error (fails : e.execute store.tables statement = .error error) :
    send e.database es ctx operation statement store =
      (.error (.wrapped (es.tableName ++ "." ++ operation) error), store.log statement) := by
  rw [send, Stateful.mapError, Engine.database]
  simp only [fails]
  rfl

theorem execute_of_send
    (sends : send e.database es ctx operation statement store = (.ok result, after)) :
    ∃ tables, e.execute store.tables statement = .ok (result, tables) ∧
      after = { store.log statement with tables := tables } := by
  cases executes : e.execute store.tables statement with
  | error error =>
    rw [send_of_error executes] at sends
    cases sends
  | ok answered =>
    rw [send_of_ok executes] at sends
    cases sends
    exact ⟨answered.2, rfl, rfl⟩

theorem Plain.byIDQuery (plain : Plain es) :
    (Statement.select (Engine.byIDQuery es id forUpdate)).wellQuoted = true := by
  rw [Statement.wellQuoted, List.all_eq_true]
  intro name member
  refine plain name ?_
  simpa [Statement.table, Statement.columns, Select.ordering, Engine.byIDQuery] using member

/-- Whether the table has the columns that are read. -/
def Engine.serves (e : Engine) (es : EntitySchema) : Prop :=
  ∀ name ∈ scannedColumns es, name ∈ e.known es.tableName

theorem Engine.serves.admits (serves : e.serves es) :
    e.admits (.select (Engine.byIDQuery es id forUpdate)) = true := by
  rw [Engine.admits_iff]
  constructor
  · intro name member
    have cases' : name ∈ scannedColumns es ∨ name = "id" := by
      simpa [Statement.columns, Select.ordering, Statement.condition, Engine.byIDQuery, byID,
        Filter.eq, Filter.columns] using member
    rcases cases' with scanned | rfl
    · exact serves name scanned
    · exact List.mem_append_left _ (List.mem_cons_self)
  · exact e.accepts_id es.tableName id

/-- Reading a record changes nothing, and what is read is a row of the table. -/
theorem getRow_cases (plain : Plain es) {outcome : Except Error EntityRecord}
    (runs : getRow e.database es ctx operation id forUpdate store = (outcome, after)) :
    after = store.log (.select (Engine.byIDQuery es id forUpdate)) ∧
      ∀ record, outcome = .ok record →
        ∃ row ∈ store.tables es.tableName, row.id = id ∧ record = scan es row.shown := by
  have quoted : (Statement.select (Engine.byIDQuery es id forUpdate)).wellQuoted = true :=
    plain.byIDQuery
  unfold getRow at runs
  cases answered : e.execute store.tables (.select (Engine.byIDQuery es id forUpdate)) with
  | error error =>
    rw [Engine.byIDQuery] at answered
    rw [Stateful.bind_error (send_of_error answered)] at runs
    cases runs
    exact ⟨rfl, nofun⟩
  | ok answer =>
    obtain ⟨result, tables⟩ := answer
    obtain ⟨-, -, answers⟩ := Engine.execute_eq_ok quoted answered
    have selects : result.rows = e.selected store.tables (Engine.byIDQuery es id forUpdate) ∧
        tables = store.tables := by
      cases answers
      exact ⟨rfl, rfl⟩
    rw [Engine.byIDQuery] at answered
    rw [Stateful.bind_ok (send_of_ok answered), selects.2] at runs
    cases rows : result.rows with
    | nil =>
      rw [rows] at runs
      cases runs
      exact ⟨rfl, nofun⟩
    | cons row rest =>
      rw [rows] at runs
      cases runs
      refine ⟨rfl, ?_⟩
      rintro record ⟨⟩
      have member : row ∈ e.selected store.tables (Engine.byIDQuery es id forUpdate) := by
        rw [← selects.1, rows]
        exact List.mem_cons_self
      obtain ⟨stored, inTable, keeps, rfl⟩ := Engine.mem_selected member
      have same : e.keeps (byID id) stored = true := keeps
      rw [Engine.keeps_byID] at same
      exact ⟨stored, inTable, of_decide_eq_true same, rfl⟩

theorem getRow_ok (plain : Plain es)
    (runs : getRow e.database es ctx operation id forUpdate store = (.ok record, after)) :
    after.tables = store.tables ∧
      ∃ row ∈ store.tables es.tableName, row.id = id ∧ record = scan es row.shown := by
  obtain ⟨rfl, rows⟩ := getRow_cases plain runs
  exact ⟨rfl, rows record rfl⟩

theorem getRow_of_mem (plain : Plain es) (serves : e.serves es)
    (nodup : ((store.tables es.tableName).map Row.id).Nodup)
    (member : row ∈ store.tables es.tableName) :
    getRow e.database es ctx operation row.id forUpdate store =
      (.ok (scan es row.shown), store.log (.select (Engine.byIDQuery es row.id forUpdate))) := by
  have quoted : (Statement.select (Engine.byIDQuery es row.id forUpdate)).wellQuoted = true :=
    plain.byIDQuery
  have runs : e.execute store.tables (.select (Engine.byIDQuery es row.id forUpdate)) =
      .ok ({ rows := [row.shown] }, store.tables) := by
    have first : ¬ (Engine.byIDQuery es row.id forUpdate).offset < 0 := lt_irrefl (0 : Int)
    rw [Engine.execute_eq_answer quoted serves.admits List.nodup_nil, Engine.answer,
      if_neg first, Engine.selected_byID nodup member]
  rw [Engine.byIDQuery] at runs
  rw [getRow, Stateful.bind_ok (send_of_ok runs)]
  rfl

/-! ## Updates -/

variable {now : Nat}

theorem mem_updateParts {input : UpdateInput} {column : String}
    (member : column ∈ (updateParts es now input).1.map Prod.fst ++
      (updateParts es now input).2.map Prod.fst) :
    column = "updated_at" ∨ (es.isSystem = true ∧ column ∈ input.data) ∨
      column ∈ scannedColumns es := by
  unfold updateParts at member
  unfold scannedColumns
  cases system : es.isSystem with
  | true =>
    simp only [system, if_true, List.map_cons, List.map_map, List.mem_append, List.mem_cons,
      List.mem_map] at member
    rcases member with (same | ⟨entry, inEntries, rfl⟩) | merged
    · exact .inl same
    · exact .inr (.inl ⟨rfl, AList.mem_keys.mpr (List.mem_map_of_mem inEntries)⟩)
    · refine .inr (.inr ?_)
      split_ifs at merged with empty
      · simp at merged
      · simp only [List.mem_singleton, exists_eq_left] at merged
        rw [← merged]
        simp
  | false =>
    simp only [system, Bool.false_eq_true, if_false, List.map_cons, List.map_nil,
      List.cons_append, List.nil_append, List.mem_cons, List.not_mem_nil, or_false] at member
    rcases member with same | same
    · exact .inl same
    · exact .inr (.inr (by simp [same]))

theorem Plain.updateParts (plain : Plain es) {input : UpdateInput}
    (keys : es.isSystem = true → ∀ key ∈ input.data, unquoted key = true)
    {condition : Option Filter} :
    (Statement.update es.tableName (updateParts es now input).1 (updateParts es now input).2
      condition).wellQuoted = true := by
  rw [Statement.wellQuoted, List.all_eq_true]
  intro name member
  rcases List.mem_cons.mp member with rfl | written
  · exact plain _ List.mem_cons_self
  · rcases mem_updateParts written with rfl | ⟨system, inData⟩ | scanned
    · decide
    · exact keys system name inData
    · exact plain name (List.mem_cons_of_mem _ scanned)

/-- What an update that succeeds has done to the tables. -/
structure Updated (e : Engine) (es : EntitySchema) (id : Uuid) (input : UpdateInput)
    (before after : Tables) : Prop where
  /-- With nothing to update nothing happens; otherwise the row of the identifier is rewritten. -/
  effect : (nothingToUpdate es input = true ∧ after = before) ∨
    (nothingToUpdate es input = false ∧ ∃ now, e.Rewritten es.tableName
      (updateParts es now input).1 (updateParts es now input).2 (byID id) before after)
  /-- The record has been read back. -/
  found : ∃ row ∈ after es.tableName, row.id = id

theorem update_ok (plain : Plain es) {input : UpdateInput}
    (keys : es.isSystem = true → ∀ key ∈ input.data, unquoted key = true)
    (runs : update e.database es ctx id input store = (.ok record, after)) :
    Updated e es id input store.tables after.tables ∧
      ∃ row ∈ after.tables es.tableName, row.id = id ∧ record = scan es row.shown := by
  obtain ⟨now, clocked, draws, runs⟩ := Stateful.bind_eq_ok_iff.mp runs
  cases draws
  split_ifs at runs with nothing
  · obtain ⟨same, row, member, isRow, read⟩ := getRow_ok plain runs
    rw [← same] at member
    exact ⟨⟨.inl ⟨nothing, same⟩, row, member, isRow⟩, row, member, isRow, read⟩
  · obtain ⟨result, middle, sends, runs⟩ := Stateful.bind_eq_ok_iff.mp runs
    split_ifs at runs with absent
    · cases runs
    obtain ⟨same, row, member, isRow, read⟩ := getRow_ok plain runs
    obtain ⟨tables, executes, rfl⟩ := execute_of_send sends
    obtain ⟨rewritten, -⟩ := Engine.rewritten_of_execute (plain.updateParts keys) executes
    rw [same]
    refine ⟨⟨.inr ⟨Bool.eq_false_iff.mpr nothing, e.clock store.drawn, rewritten⟩, ?_⟩, ?_⟩
    · exact ⟨row, member, isRow⟩
    · exact ⟨row, member, isRow, read⟩

/-! ### Updates of a system entity -/

/-- What an update of the data does to the row of its identifier. -/
structure Wrote (e : Engine) (table : String) (data : Object) (row new : Row) : Prop where
  /-- Columns that are not in the data hold what they held. -/
  kept : ∀ column ∉ data, column ≠ "updated_at" → new.value column = row.value column
  /-- The others hold what they keep of the data. -/
  set : ∀ column value, data.lookup column = some value →
    e.keep table column value = some (new.value column)
  known : ∀ column ∈ data, column ∈ e.known table
  clock : "updated_at" ∉ data
  /-- What is new is a value that its column keeps. -/
  stable : ∀ column, new.value column = row.value column ∨
    e.keep table column (new.value column) = some (new.value column)

theorem Wrote.refl (row : Row) (table : String) : Wrote e table ∅ row row where
  kept _ _ _ := rfl
  set _ _ found := by cases found
  known _ member := absurd member (AList.notMem_empty _)
  clock := AList.notMem_empty _
  stable _ := .inl rfl

theorem wrote_of_rewritten {data : Object} {before after : Tables} {new : Row}
    (system : es.isSystem = true)
    (rewritten : e.Rewritten es.tableName (updateParts es now { data := data }).1
      (updateParts es now { data := data }).2 (byID id) before after)
    (written : e.writeAll es.tableName (updateParts es now { data := data }).1 row = some new) :
    Wrote e es.tableName data row new := by
  have parts : (updateParts es now { data := data }).1 =
      ("updated_at", .time now) :: data.entries.map (fun entry => (entry.1, entry.2)) := by
    rw [updateParts, system]
    rfl
  have columns : ∀ column, column ∈ (data.entries.map fun entry => (entry.1, entry.2)).map
      Prod.fst ↔ column ∈ data := by
    intro column
    rw [AList.mem_keys, AList.keys, List.keys, List.map_map]
    rfl
  have distinct := (List.nodup_append.mp rewritten.distinct).1
  rw [parts] at written distinct
  refine ⟨fun column absent notClock => ?_, fun column value found => ?_,
    fun column member => ?_, fun member => ?_, fun column => ?_⟩
  · refine Engine.writeAll_value_of_notMem written ?_
    rw [List.map_cons, List.mem_cons, columns, not_or]
    exact ⟨notClock, absent⟩
  · refine Engine.writeAll_value_of_mem written distinct (List.mem_cons_of_mem _ ?_)
    have member := AList.mem_lookup_iff.mp (Option.mem_def.mpr found)
    exact List.mem_map.mpr ⟨_, member, rfl⟩
  · refine rewritten.known column (List.mem_append_left _ ?_)
    rw [parts, List.map_cons]
    exact List.mem_cons_of_mem _ ((columns column).mpr member)
  · rw [List.map_cons, List.nodup_cons, columns] at distinct
    exact distinct.1 member
  · by_cases member : column ∈ (("updated_at", Value.time now) ::
        data.entries.map fun entry => (entry.1, entry.2)).map Prod.fst
    · obtain ⟨⟨name, value⟩, inSets, rfl⟩ := List.mem_map.mp member
      exact .inr (e.keep_keep (Engine.writeAll_value_of_mem written distinct inSets))
    · exact .inl (Engine.writeAll_value_of_notMem written member)

theorem Updated.rows {data : Object} {before after : Tables}
    (updated : Updated e es id { data := data } before after) (system : es.isSystem = true) :
    List.Forall₂ (fun row new => (row.id ≠ id ∧ new = row) ∨
      (row.id = id ∧ Wrote e es.tableName data row new))
      (before es.tableName) (after es.tableName) := by
  rcases updated.effect with ⟨nothing, same⟩ | ⟨-, now, rewritten⟩
  · have empty : data = ∅ := by
      rw [nothingToUpdate, Bool.and_eq_true, List.isEmpty_iff] at nothing
      exact AList.ext nothing.1
    rw [same, empty, List.forall₂_same]
    intro row _
    by_cases other : row.id = id
    · exact .inr ⟨other, Wrote.refl row _⟩
    · exact .inl ⟨other, rfl⟩
  · refine rewritten.each.imp fun row new revises => ?_
    rcases Engine.revised_byID revises with other | ⟨same, middle, written, merged⟩
    · exact .inl other
    · have none : (updateParts es now { data := data }).2 = [] := by
        rw [updateParts, system]
        rfl
      rw [none] at merged
      obtain rfl := Option.some.inj merged
      exact .inr ⟨same, wrote_of_rewritten system rewritten written⟩

theorem Updated.nodup {input : UpdateInput} {before after : Tables}
    (updated : Updated e es id input before after)
    (nodup : ((before es.tableName).map Row.id).Nodup) :
    ((after es.tableName).map Row.id).Nodup := by
  rcases updated.effect with ⟨-, same⟩ | ⟨-, now, rewritten⟩
  · rwa [same]
  · exact rewritten.settled.nodup

/-! ## Insertions and deletions -/

/-- What a creation that succeeds has done to the tables. -/
structure Created (e : Engine) (es : EntitySchema) (tenant : Option Uuid) (input : CreateInput)
    (before after : Tables) (row : Row) : Prop where
  /-- The row is made of the values of the input. -/
  written : ∃ id tenantID now, tenant = some tenantID ∧
    e.writeAll es.tableName
      (if es.isSystem then
        systemValues es id tenantID now input input.hasCustomFields
      else customValues id tenantID now input)
      (e.blank es.tableName) = some row
  tables : after = Function.update before es.tableName (before es.tableName ++ [row])
  settled : e.Settled es.tableName after

variable {input : CreateInput} {tenantID : Uuid} {custom : Bool}

theorem mem_scannedColumns_of_insert {column : String}
    (member : column ∈ (insertValues es tenantID now custom id input).map Prod.fst) :
    column ∈ scannedColumns es := by
  unfold insertValues at member
  unfold scannedColumns
  cases system : es.isSystem with
  | true =>
    simp only [system, if_true, systemValues, List.map_append, List.map_cons, List.map_nil,
      List.map_map, List.mem_append, Function.comp_def, List.map_id'] at member ⊢
    rcases member with (framework | field) | custom
    · exact .inl (.inl framework)
    · exact .inl (.inr field)
    · split_ifs at custom with present
      · exact .inr custom
      · cases custom
  | false =>
    simpa [system, customValues] using member

theorem Plain.insert (plain : Plain es) : (Statement.insert es.tableName
      (if es.isSystem then systemValues es id tenantID now input custom
      else customValues id tenantID now input)).wellQuoted = true := by
  rw [Statement.wellQuoted, List.all_eq_true]
  intro name member
  refine plain name ?_
  rcases List.mem_cons.mp member with same | column
  · rw [same]
    exact List.mem_cons_self
  · exact List.mem_cons_of_mem _ (mem_scannedColumns_of_insert column)

theorem Engine.serves.insert (serves : e.serves es) :
    e.admits (batchInsert es tenantID now custom id input) = true := by
  rw [Engine.admits_iff]
  refine ⟨fun name member => ?_, rfl⟩
  rcases List.mem_append.mp member with column | tested
  · exact serves name (mem_scannedColumns_of_insert column)
  · cases tested

/-- A new row has the identifier that has been drawn for it. -/
theorem inserted_id {blank : Row}
    (distinct : ((if es.isSystem then systemValues es id tenantID now input custom
      else customValues id tenantID now input).map Prod.fst).Nodup)
    (written : e.writeAll es.tableName (if es.isSystem then
      systemValues es id tenantID now input custom else customValues id tenantID now input) blank =
        some row) : row.id = id := by
  have first : ("id", Value.uuid id) ∈ if es.isSystem then
      systemValues es id tenantID now input custom else customValues id tenantID now input := by
    split_ifs
    · exact List.mem_append_left _ (List.mem_append_left _ List.mem_cons_self)
    · exact List.mem_cons_self
  have kept := Engine.writeAll_value_of_mem written distinct first
  rw [e.keep_id, Row.value_id] at kept
  cases kept
  rfl

/-- A creation that succeeds inserts a row and returns its record. -/
theorem create_ok (plain : Plain es)
    (runs : create e.database es ctx input store = (.ok record, after)) :
    ∃ row, Created e es ctx.tenant input store.tables after.tables row ∧
      record = scan es row.shown := by
  obtain ⟨tenantID, first, tenant, rest⟩ := Stateful.bind_eq_ok_iff.mp runs
  have isTenant : ctx.tenant = some tenantID ∧ first = store := by
    unfold tenantFromContext at tenant
    cases given : ctx.tenant with
    | none =>
      rw [given] at tenant
      cases tenant
    | some other =>
      rw [given] at tenant
      cases tenant
      exact ⟨rfl, rfl⟩
  obtain ⟨same, rfl⟩ := isTenant
  obtain ⟨id, second, drawn, rest⟩ := Stateful.bind_eq_ok_iff.mp rest
  obtain ⟨now, third, clocked, rest⟩ := Stateful.bind_eq_ok_iff.mp rest
  obtain ⟨result, fourth, sends, reads⟩ := Stateful.bind_eq_ok_iff.mp rest
  obtain ⟨tables, executes, rfl⟩ := execute_of_send sends
  obtain ⟨row, inserted⟩ := Engine.inserted_of_execute plain.insert executes
  have stays : third.tables = first.tables := by
    cases drawn
    cases clocked
    rfl
  rw [stays] at inserted
  obtain ⟨unchanged, read, member, isRead, rfl⟩ := getRow_ok plain reads
  refine ⟨row, ⟨⟨id, tenantID, now, same, inserted.written⟩, ?_, ?_⟩, ?_⟩
  · rw [unchanged]
    exact inserted.tables
  · rw [unchanged]
    exact inserted.settled
  · -- the row that is read has the identifier that has been drawn, as the new one has
    have ids : row.id = id := inserted_id inserted.distinct inserted.written
    have same := List.inj_on_of_nodup_map inserted.settled.nodup inserted.mem member
      (ids.trans isRead.symm)
    rw [same]

/-- A creation that succeeds has named no column twice. -/
theorem create_distinct (plain : Plain es)
    (runs : create e.database es ctx input store = (.ok record, after)) :
    ∃ id tenantID now, ((if es.isSystem then
      systemValues es id tenantID now input input.hasCustomFields
        else customValues id tenantID now input).map Prod.fst).Nodup := by
  obtain ⟨tenantID, _, _, rest⟩ := Stateful.bind_eq_ok_iff.mp runs
  obtain ⟨id, _, _, rest⟩ := Stateful.bind_eq_ok_iff.mp rest
  obtain ⟨now, _, _, rest⟩ := Stateful.bind_eq_ok_iff.mp rest
  obtain ⟨_, _, sends, _⟩ := Stateful.bind_eq_ok_iff.mp rest
  obtain ⟨_, executes, _⟩ := execute_of_send sends
  exact ⟨id, tenantID, now, (Engine.execute_eq_ok plain.insert executes).2.1⟩

/-! ## Transactions -/

/-- What a program inside a transaction leaves alone. -/
def SavedAs (before after : Store) : Prop := after.saved = before.saved

instance : Std.Refl SavedAs := ⟨fun _ => rfl⟩

instance : IsTrans Store SavedAs := ⟨fun _ _ _ first second => second.trans first⟩

theorem savedAs : e.database.Along SavedAs where
  send ctx statement store := by
    rw [Engine.database]
    dsimp only
    split <;> rfl
  newUUID _ := rfl
  now _ := rfl

/-- The store when a transaction has been opened. -/
def Store.opened (store : Store) (ctx : Context) : Store :=
  { store with
    saved := some store.tables
    sent := ctx.tenant.toList.map Statement.setTenantContext ++ store.sent }

theorem openTx_apply (ctx : Context) (store : Store) :
    openTx e.database ctx store = (.ok 0, store.opened ctx) := by
  unfold openTx
  cases tenant : ctx.tenant with
  | none => rw [Store.opened, tenant]; rfl
  | some tenantID => rw [Store.opened, tenant]; rfl

/-- A transaction ends as its program does; if that fails, the tables are what they were. -/
theorem withTx_cases {α : Type} {program : Context → Stateful Store Error α}
    (alone : ctx.conn = none) (moves : ∀ txCtx, Stateful.Moves SavedAs (program txCtx))
    (store : Store) :
    ∃ outcome last, program { ctx with conn := some 0 } (store.opened ctx) = (outcome, last) ∧
      withTx e.database ctx program store =
        (outcome, match outcome with
          | .ok _ => { last with saved := none }
          | .error _ => { last with tables := store.tables, saved := none }) := by
  rcases runs : program { ctx with conn := some 0 } (store.opened ctx) with ⟨error | value, last⟩
  · have saved := moves { ctx with conn := some 0 } (store.opened ctx)
    rw [runs] at saved
    refine ⟨_, _, rfl, ?_⟩
    rw [withTx, alone]
    dsimp only
    rw [Stateful.bind_ok (openTx_apply ctx store), closeTx,
      Stateful.bind_ok (Stateful.outcome_apply _ _), runs]
    have rolled : last.saved.getD last.tables = store.tables := by
      rw [show last.saved = some store.tables from saved]
      rfl
    rw [← rolled]
    rfl
  · refine ⟨_, _, rfl, ?_⟩
    rw [withTx, alone]
    dsimp only
    rw [Stateful.bind_ok (openTx_apply ctx store), closeTx,
      Stateful.bind_ok (Stateful.outcome_apply _ _), runs]
    rfl

/-- A transaction whose program succeeds succeeds. -/
theorem withTx_ok {α : Type} {program : Context → Stateful Store Error α} {value : α}
    {last : Store} (alone : ctx.conn = none)
    (moves : ∀ txCtx, Stateful.Moves SavedAs (program txCtx))
    (runs : program { ctx with conn := some 0 } (store.opened ctx) = (.ok value, last)) :
    withTx e.database ctx program store = (.ok value, { last with saved := none }) := by
  obtain ⟨outcome, reached, body, ends⟩ := withTx_cases alone moves store
  rw [runs] at body
  cases body
  exact ends

/-- A transaction whose program fails leaves the tables. -/
theorem withTx_error {α : Type} {program : Context → Stateful Store Error α} {error : Error}
    {last : Store} (alone : ctx.conn = none)
    (moves : ∀ txCtx, Stateful.Moves SavedAs (program txCtx))
    (runs : program { ctx with conn := some 0 } (store.opened ctx) = (.error error, last)) :
    withTx e.database ctx program store =
      (.error error, { last with tables := store.tables, saved := none }) := by
  obtain ⟨outcome, reached, body, ends⟩ := withTx_cases alone moves store
  rw [runs] at body
  cases body
  exact ends

end Operations

end ErpFinance.Driver
