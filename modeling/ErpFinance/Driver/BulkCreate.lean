import ErpFinance.Driver.PostgresAnswers

/-!
# Bulk creation

A batch of rows beside the creations of its inputs one after another.  The
batch has one list of columns, so that a row may be given a value where its
creation would leave the default; and it is read back in the order of the
identifiers, which are random.
-/

namespace ErpFinance.Driver

open Compiler Domain Library ErpFinance.Runtime

/-! ## Statements one after another -/

namespace Engine

variable {e : Engine} {tables after : Tables}

/-- The tables after all statements; none where one of them is refused. -/
def executeAll (e : Engine) (tables : Tables) : List Statement → Option Tables
  | [] => some tables
  | statement :: rest =>
    match e.execute tables statement with
    | .ok (_, next) => e.executeAll next rest
    | .error _ => none

variable {statement : Statement}

theorem executeAll_cons_of_ok {rest : List Statement} {result : Result} {next : Tables}
    (runs : e.execute tables statement = .ok (result, next)) :
    e.executeAll tables (statement :: rest) = e.executeAll next rest := by
  rw [executeAll, runs]

theorem executeAll_cons_of_error {rest : List Statement} {error : Error}
    (fails : e.execute tables statement = .error error) :
    e.executeAll tables (statement :: rest) = none := by
  rw [executeAll, fails]

theorem executeAll_of_refused {statements : List Statement} (member : statement ∈ statements)
    (refused : ∀ tables, ∃ error, e.execute tables statement = .error error) :
    e.executeAll tables statements = none := by
  induction statements generalizing tables with
  | nil => cases member
  | cons first rest ih =>
    cases runs : e.execute tables first with
    | error error => exact executeAll_cons_of_error runs
    | ok answer =>
      rw [executeAll_cons_of_ok runs]
      rcases List.mem_cons.mp member with rfl | member
      · obtain ⟨error, fails⟩ := refused tables
        rw [fails] at runs
        cases runs
      · exact ih member

/-- Statements that do the same one by one do the same together. -/
theorem executeAll_congr {statements others : List Statement}
    (same : List.Forall₂ (fun statement other => ∀ tables, e.execute tables statement =
      e.execute tables other) statements others) :
    e.executeAll tables statements = e.executeAll tables others := by
  induction same generalizing tables with
  | nil => rfl
  | cons head tail ih =>
    rw [executeAll, executeAll, head tables]
    cases e.execute tables _ with
    | error error => rfl
    | ok answer => exact ih

end Engine

section Rows

variable {e : Engine} {es : EntitySchema} {tenantID : Uuid} {now : Nat}
  {custom : CreateInput → Bool} {entries : List (Uuid × CreateInput)} {rows others : List Row}
  {tables after : Tables} {row other : Row} {entry : Uuid × CreateInput}

/-- The inserts for inputs and their identifiers. -/
def inserts (es : EntitySchema) (tenantID : Uuid) (now : Nat) (custom : CreateInput → Bool)
    (entries : List (Uuid × CreateInput)) : List Statement :=
  entries.map fun entry => batchInsert es tenantID now (custom entry.2) entry.1 entry.2

structure RowOf (e : Engine) (es : EntitySchema) (tenantID : Uuid) (now : Nat)
    (custom : CreateInput → Bool) (entry : Uuid × CreateInput) (row : Row) : Prop where
  distinct : ((insertValues es tenantID now (custom entry.2) entry.1 entry.2).map Prod.fst).Nodup
  written : e.writeAll es.tableName (insertValues es tenantID now (custom entry.2) entry.1 entry.2)
    (e.blank es.tableName) = some row

theorem RowOf.id (made : RowOf e es tenantID now custom entry row) : row.id = entry.1 :=
  inserted_id made.distinct made.written

/-- All rows of a batch have been created at what the column keeps of the same instant. -/
theorem RowOf.createdAt (made : RowOf e es tenantID now custom entry row) :
    e.keep es.tableName "created_at" (.time now) = some (.time row.createdAt) := by
  have member : ("created_at", Value.time now) ∈
      insertValues es tenantID now (custom entry.2) entry.1 entry.2 := by
    unfold insertValues
    split_ifs
    · simp [systemValues]
    · simp [customValues]
  have kept := Engine.writeAll_value_of_mem made.written made.distinct member
  rwa [Row.value_createdAt] at kept

theorem ids_of_rows (made : List.Forall₂ (RowOf e es tenantID now custom) entries rows) :
    rows.map Row.id = entries.map Prod.fst := by
  induction made with
  | nil => rfl
  | cons head tail ih => rw [List.map_cons, List.map_cons, head.id, ih]

theorem together_of_rows (made : List.Forall₂ (RowOf e es tenantID now custom) entries rows) :
    ∀ row ∈ rows, ∀ other ∈ rows, row.createdAt = other.createdAt := by
  intro row first other second
  obtain ⟨_, -, one⟩ := Engine.exists_of_mem_right made first
  obtain ⟨_, -, two⟩ := Engine.exists_of_mem_right made second
  have same := Option.some.inj (one.createdAt.symm.trans two.createdAt)
  injection same with same
  injection same

/-- Rows that are inserted stand at the end of their table. -/
def Appended (es : EntitySchema) (rows : List Row) (before after : Tables) : Prop :=
  after = Function.update before es.tableName (before es.tableName ++ rows)

theorem Appended.table (appended : Appended es rows tables after) :
    after es.tableName = tables es.tableName ++ rows := by
  rw [appended, Function.update_self]

theorem Appended.rows_eq (appended : Appended es rows tables after)
    (also : Appended es others tables after) : rows = others :=
  List.append_cancel_left (appended.table.symm.trans also.table)

/-- The inserts of a batch that are all accepted. -/
structure Accepted (e : Engine) (es : EntitySchema) (tenantID : Uuid) (now : Nat)
    (custom : CreateInput → Bool) (entries : List (Uuid × CreateInput)) (before after : Tables)
    (rows : List Row) : Prop where
  made : List.Forall₂ (RowOf e es tenantID now custom) entries rows
  appended : Appended es rows before after
  nodup : entries ≠ [] → ((after es.tableName).map Row.id).Nodup

theorem accepted_of_executeAll (plain : Plain es)
    (runs : e.executeAll tables (inserts es tenantID now custom entries) = some after) :
    ∃ rows, Accepted e es tenantID now custom entries tables after rows := by
  induction entries generalizing tables with
  | nil =>
    obtain rfl := Option.some.inj runs
    refine ⟨[], .nil, ?_, fun filled => absurd rfl filled⟩
    rw [Appended, List.append_nil, Function.update_eq_self]
  | cons entry rest ih =>
    rw [inserts, List.map_cons] at runs
    cases first : e.execute tables
        (batchInsert es tenantID now (custom entry.2) entry.1 entry.2) with
    | error error =>
      rw [Engine.executeAll_cons_of_error first] at runs
      cases runs
    | ok answer =>
      rw [Engine.executeAll_cons_of_ok first] at runs
      obtain ⟨row, inserted⟩ := Engine.inserted_of_execute plain.insert first
      obtain ⟨rows, accepted⟩ := ih runs
      have placed : Appended es (row :: rows) tables after := by
        rw [Appended, accepted.appended, inserted.tables, Function.update_self,
          Function.update_idem, List.append_assoc, List.singleton_append]
      refine ⟨row :: rows, .cons ⟨inserted.distinct, inserted.written⟩ accepted.made, placed,
        fun _ => ?_⟩
      cases rest with
      | nil =>
        obtain rfl := Option.some.inj runs
        exact inserted.settled.nodup
      | cons next others => exact accepted.nodup (List.cons_ne_nil _ _)

end Rows

/-! ## Creations one after another -/

section Operations

variable {σ : Type} (d : Database σ) (es : EntitySchema) (ctx : Context)

/-- `createSystem` and `createCustom`. -/
def createWith (tenantID : Uuid) (now : Nat) (id : Uuid) (input : CreateInput) :
    Stateful σ Error EntityRecord := do
  let _ ← send d es ctx "Create"
    (.insert es.tableName (insertValues es tenantID now input.hasCustomFields id input))
  getWithDB d es ctx id

/-- `Create`, for an identifier and an instant that have been drawn. -/
def createDrawn (now : Nat) (id : Uuid) (input : CreateInput) : Stateful σ Error EntityRecord := do
  let tenantID ← tenantFromContext ctx
  createWith d es ctx tenantID now id input

/-- The creations of inputs in order. -/
def createEach (now : Nat) (entries : List (Uuid × CreateInput)) :
    Stateful σ Error (List EntityRecord) :=
  entries.mapM fun entry => createDrawn d es ctx now entry.1 entry.2

end Operations

section Runs

variable {e : Engine} {es : EntitySchema} {ctx : Context} {tenantID : Uuid} {now : Nat}
  {custom : CreateInput → Bool} {entries : List (Uuid × CreateInput)} {rows : List Row}
  {tables after : Tables} {store : Store}

theorem tenantFromContext_apply (tenant : ctx.tenant = some tenantID) (store : Store) :
    (tenantFromContext ctx : Stateful Store Error Uuid) store = (.ok tenantID, store) := by
  rw [tenantFromContext, tenant]
  rfl

/-- A creation whose insert is accepted returns the record of its row. -/
theorem createDrawn_of_execute (plain : Plain es) (serves : e.serves es)
    (tenant : ctx.tenant = some tenantID) {id : Uuid} {input : CreateInput} {row : Row}
    {result : Result}
    (runs : e.execute store.tables (batchInsert es tenantID now input.hasCustomFields id input) =
      .ok (result, after))
    (made : RowOf e es tenantID now CreateInput.hasCustomFields (id, input) row) :
    ∃ last, createDrawn e.database es ctx now id input store =
      (.ok (scan es row.shown), last) ∧ last.tables = after := by
  obtain ⟨stored, inserted⟩ := Engine.inserted_of_execute plain.insert runs
  obtain rfl := Option.some.inj (inserted.written.symm.trans made.written)
  have sends : send e.database es ctx "Create"
      (batchInsert es tenantID now input.hasCustomFields id input) store = _ := send_of_ok runs
  have reads : getWithDB e.database es ctx stored.id
      { store.log (batchInsert es tenantID now input.hasCustomFields id input) with
        tables := after } = _ :=
    getRow_of_mem plain serves inserted.settled.nodup inserted.mem
  rw [made.id] at reads
  rw [createDrawn, Stateful.bind_ok (tenantFromContext_apply tenant store)]
  exact ⟨_, (Stateful.bind_ok sends).trans reads, rfl⟩

theorem createDrawn_of_refused (tenant : ctx.tenant = some tenantID) {id : Uuid}
    {input : CreateInput} {error : Error}
    (refused : e.execute store.tables
      (batchInsert es tenantID now input.hasCustomFields id input) = .error error) :
    ∃ failure last, createDrawn e.database es ctx now id input store = (.error failure, last) := by
  have sends : send e.database es ctx "Create"
      (batchInsert es tenantID now input.hasCustomFields id input) store = _ :=
    send_of_error refused
  rw [createDrawn, Stateful.bind_ok (tenantFromContext_apply tenant store)]
  exact ⟨_, _, Stateful.bind_error sends⟩

/-- The creations of inputs whose inserts are accepted return the records of their rows. -/
theorem createEach_of_executeAll (plain : Plain es) (serves : e.serves es)
    (tenant : ctx.tenant = some tenantID)
    (runs : e.executeAll store.tables
      (inserts es tenantID now CreateInput.hasCustomFields entries) = some after)
    (made : List.Forall₂ (RowOf e es tenantID now CreateInput.hasCustomFields) entries rows) :
    ∃ last, createEach e.database es ctx now entries store =
      (.ok (rows.map fun row => scan es row.shown), last) ∧ last.tables = after := by
  induction made generalizing store with
  | nil => exact ⟨store, rfl, Option.some.inj runs⟩
  | @cons entry row entries rows head tail ih =>
    rw [inserts, List.map_cons] at runs
    cases first : e.execute store.tables
        (batchInsert es tenantID now entry.2.hasCustomFields entry.1 entry.2) with
    | error error =>
      rw [Engine.executeAll_cons_of_error first] at runs
      cases runs
    | ok answer =>
      rw [Engine.executeAll_cons_of_ok first] at runs
      obtain ⟨middle, creates, same⟩ := createDrawn_of_execute plain serves tenant first head
      rw [← same] at runs
      obtain ⟨last, others, reached⟩ := ih runs
      rw [createEach] at others
      refine ⟨last, ?_, reached⟩
      rw [createEach, List.mapM_cons, Stateful.bind_ok creates, Stateful.bind_ok others]
      rfl

/-- The creations fail where one of the inserts is refused. -/
theorem createEach_of_refused (plain : Plain es) (serves : e.serves es)
    (tenant : ctx.tenant = some tenantID)
    (refused : e.executeAll store.tables
      (inserts es tenantID now CreateInput.hasCustomFields entries) = none) :
    ∃ error last, createEach e.database es ctx now entries store = (.error error, last) := by
  induction entries generalizing store with
  | nil => cases refused
  | cons entry rest ih =>
    rw [inserts, List.map_cons] at refused
    rw [createEach, List.mapM_cons]
    cases first : e.execute store.tables
        (batchInsert es tenantID now entry.2.hasCustomFields entry.1 entry.2) with
    | error error =>
      obtain ⟨failure, last, fails⟩ := createDrawn_of_refused tenant first
      rw [Stateful.bind_error fails]
      exact ⟨_, _, rfl⟩
    | ok answer =>
      rw [Engine.executeAll_cons_of_ok first] at refused
      obtain ⟨row, inserted⟩ := Engine.inserted_of_execute plain.insert first
      obtain ⟨middle, creates, same⟩ := createDrawn_of_execute plain serves tenant first
        ⟨inserted.distinct, inserted.written⟩
      rw [← same] at refused
      obtain ⟨error, last, others⟩ := ih refused
      rw [createEach] at others
      rw [Stateful.bind_ok creates, Stateful.bind_error others]
      exact ⟨_, _, rfl⟩

/-! ## The batch -/

theorem execQueued_of_ok {statement : Statement} {result : Result} (i : Nat)
    (runs : e.execute store.tables statement = .ok (result, after)) :
    execQueued e.database es ctx i statement store =
      (.ok ⟨⟩, { store.log statement with tables := after }) :=
  Stateful.bind_ok (send_of_ok runs)

theorem execQueued_of_error {statement : Statement} {error : Error} (i : Nat)
    (fails : e.execute store.tables statement = .error error) :
    ∃ failure last, execQueued e.database es ctx i statement store = (.error failure, last) :=
  ⟨_, _, Stateful.bind_error (send_of_error fails)⟩

/-- A batch whose statements are accepted leaves the tables that they leave. -/
theorem sendBatch_of_executeAll {batch : List Statement}
    (runs : e.executeAll store.tables batch = some after) :
    ∃ last, sendBatch e.database es ctx batch store = (.ok ⟨⟩, last) ∧ last.tables = after := by
  unfold sendBatch
  generalize 0 = start
  induction batch generalizing store start with
  | nil => exact ⟨store, rfl, Option.some.inj runs⟩
  | cons statement rest ih =>
    cases first : e.execute store.tables statement with
    | error error =>
      rw [Engine.executeAll_cons_of_error first] at runs
      cases runs
    | ok answer =>
      rw [Engine.executeAll_cons_of_ok first] at runs
      replace runs : e.executeAll ({ store.log statement with tables := answer.2 } :
        Store).tables rest = some after := runs
      rw [Stateful.each, Stateful.bind_ok (execQueued_of_ok start first)]
      exact ih runs (start + 1)

theorem sendBatch_of_refused {batch : List Statement}
    (refused : e.executeAll store.tables batch = none) :
    ∃ failure last, sendBatch e.database es ctx batch store = (.error failure, last) := by
  unfold sendBatch
  generalize 0 = start
  induction batch generalizing store start with
  | nil => cases refused
  | cons statement rest ih =>
    cases first : e.execute store.tables statement with
    | error error =>
      obtain ⟨failure, last, fails⟩ : ∃ failure last,
          execQueued e.database es ctx start statement store = (.error failure, last) :=
        execQueued_of_error start first
      rw [Stateful.each, Stateful.bind_error fails]
      exact ⟨failure, last, rfl⟩
    | ok answer =>
      rw [Engine.executeAll_cons_of_ok first] at refused
      replace refused : e.executeAll ({ store.log statement with tables := answer.2 } :
        Store).tables rest = none := refused
      rw [Stateful.each, Stateful.bind_ok (execQueued_of_ok start first)]
      exact ih refused (start + 1)

end Runs

/-! ## Reading the batch back -/

/-- The order of `getByIDs`. -/
def Row.Earlier (row other : Row) : Prop :=
  row.createdAt < other.createdAt ∨ row.createdAt = other.createdAt ∧ row.id ≤ other.id

/-- The columns of that order. -/
def byCreation : List (String × Bool) := [("created_at", true), ("id", true)]

/-- What the database does with a list of identifiers, and with the order of rows. -/
structure Engine.Lists (e : Engine) : Prop where
  accepts_isIn : ∀ table (ids : List Uuid),
    e.accepts table (.leaf "id" (.isIn (ids.map Value.uuid))) = true
  compare_isIn : ∀ (ids : List Uuid) (id : Uuid),
    e.compare (.isIn (ids.map Value.uuid)) (.uuid id) = some (decide (id ∈ ids))
  sorted : ∀ rows, (e.arrange byCreation rows).Pairwise Row.Earlier

section Fetch

variable {e : Engine} {es : EntitySchema} {ctx : Context} {ids : List Uuid} {rows old : List Row}
  {store : Store}

/-- The query of `getByIDs`. -/
def byIDsQuery (es : EntitySchema) (ids : List Uuid) : Select where
  table := es.tableName
  columns := scannedColumns es
  condition := some (.leaf "id" (.isIn (ids.map Value.uuid)))
  order := some ("created_at", true)
  thenBy := [("id", true)]

theorem mem_scannedColumns_of_framework {name : String} (framework : name ∈ frameworkColumns) :
    name ∈ scannedColumns es := by
  simp only [frameworkColumns, List.mem_cons, List.not_mem_nil, or_false] at framework
  unfold scannedColumns
  rcases framework with rfl | rfl | rfl | rfl <;> split_ifs <;> simp

theorem Plain.byIDsQuery (plain : Plain es) :
    (Statement.select (byIDsQuery es ids)).wellQuoted = true := by
  rw [Statement.wellQuoted, List.all_eq_true]
  intro name member
  refine plain name ?_
  rcases List.mem_cons.mp member with rfl | column
  · exact List.mem_cons_self
  · refine List.mem_cons_of_mem _ ?_
    rcases List.mem_append.mp column with scanned | ordered
    · exact scanned
    · simp only [Select.ordering, Driver.byIDsQuery, Option.toList_some, List.singleton_append,
        List.map_cons, List.map_nil, List.mem_cons, List.not_mem_nil, or_false] at ordered
      rcases ordered with rfl | rfl
      · exact mem_scannedColumns_of_framework (by decide)
      · exact mem_scannedColumns_of_framework (by decide)

theorem admits_byIDsQuery (serves : e.serves es) (lists : e.Lists) :
    e.admits (.select (byIDsQuery es ids)) = true := by
  rw [Engine.admits_iff]
  refine ⟨fun name member => ?_, lists.accepts_isIn es.tableName ids⟩
  rcases List.mem_append.mp member with column | tested
  · rcases List.mem_append.mp column with scanned | ordered
    · exact serves name scanned
    · simp only [Select.ordering, byIDsQuery, Option.toList_some, List.singleton_append,
        List.map_cons, List.map_nil, List.mem_cons, List.not_mem_nil, or_false] at ordered
      rcases ordered with rfl | rfl
      · exact List.mem_append_left _ (by decide)
      · exact List.mem_append_left _ (by decide)
  · obtain rfl : name = "id" := List.mem_singleton.mp tested
    exact List.mem_append_left _ List.mem_cons_self

/-- Of a table that ends with the rows of a batch, the identifiers of the batch select these. -/
theorem matching_byIDs (lists : e.Lists) {tables : Tables}
    (nodup : ((old ++ rows).map Row.id).Nodup)
    (stands : tables es.tableName = old ++ rows) :
    e.matching tables es.tableName (byIDsQuery es (rows.map Row.id)).condition = rows := by
  have test : ∀ row : Row, e.keeps (byIDsQuery es (rows.map Row.id)).condition row =
      decide (row.id ∈ rows.map Row.id) := by
    intro row
    have truth : Filter.truth e.compare row.value
        (.leaf "id" (.isIn ((rows.map Row.id).map Value.uuid))) =
          some (decide (row.id ∈ rows.map Row.id)) :=
      lists.compare_isIn (rows.map Row.id) row.id
    rw [Engine.keeps, byIDsQuery, Filter.keeps, Option.all_some, truth]
    simp
  rw [Engine.matching, stands, List.filter_append]
  have none : old.filter (e.keeps (byIDsQuery es (rows.map Row.id)).condition) = [] := by
    rw [List.filter_eq_nil_iff]
    intro row member
    rw [test, decide_eq_true_eq]
    intro among
    rw [List.map_append] at nodup
    exact (List.disjoint_of_nodup_append nodup) (List.mem_map_of_mem member) among
  have all : rows.filter (e.keeps (byIDsQuery es (rows.map Row.id)).condition) = rows := by
    rw [List.filter_eq_self]
    intro row member
    rw [test, decide_eq_true_eq]
    exact List.mem_map_of_mem member
  rw [none, all, List.nil_append]

/-- The records of a batch come in the order of the database. -/
theorem getByIDs_of_rows (plain : Plain es) (serves : e.serves es) (lists : e.Lists)
    (nodup : ((old ++ rows).map Row.id).Nodup) (stands : store.tables es.tableName = old ++ rows) :
    getByIDs e.database es ctx (rows.map Row.id) store =
      (.ok ((e.arrange byCreation rows).map fun row => scan es row.shown),
        store.log (.select (byIDsQuery es (rows.map Row.id)))) := by
  have runs : e.execute store.tables (.select (byIDsQuery es (rows.map Row.id))) =
      .ok ({ rows := (e.arrange byCreation rows).map Row.shown }, store.tables) := by
    have first : ¬ (byIDsQuery es (rows.map Row.id)).offset < 0 := lt_irrefl (0 : Int)
    rw [Engine.execute_eq_answer plain.byIDsQuery (admits_byIDsQuery serves lists) List.nodup_nil,
      Engine.answer, if_neg first, Engine.selected]
    have matched : e.matching store.tables (byIDsQuery es (rows.map Row.id)).table
        (byIDsQuery es (rows.map Row.id)).condition = rows := matching_byIDs lists nodup stands
    rw [matched]
    rfl
  rw [byIDsQuery] at runs
  rw [getByIDs, Stateful.bind_ok (send_of_ok runs)]
  dsimp only
  rw [List.map_map]
  have scans : (e.arrange byCreation rows).map (scan es ∘ Row.shown) =
      (e.arrange byCreation rows).map fun row => scan es row.shown := rfl
  rw [scans]
  rfl

/-- Rows of one instant come in the order of their identifiers. -/
theorem ascending_of_arrange (lists : e.Lists)
    (together : ∀ row ∈ rows, ∀ other ∈ rows, row.createdAt = other.createdAt)
    (same : (e.arrange byCreation rows).map Row.id = rows.map Row.id) :
    (rows.map Row.id).Pairwise (· ≤ ·) := by
  have perm := e.arrange_perm byCreation rows
  rw [← same, List.pairwise_map]
  refine (lists.sorted rows).imp_of_mem fun {row other} first second earlier => ?_
  rcases earlier with before | ⟨-, below⟩
  · have level := together row (perm.subset first) other (perm.subset second)
    exact absurd level (Nat.ne_of_lt before)
  · exact below

theorem arrange_of_ascending (lists : e.Lists) (nodup : (rows.map Row.id).Nodup)
    (together : ∀ row ∈ rows, ∀ other ∈ rows, row.createdAt = other.createdAt)
    (ascending : (rows.map Row.id).Pairwise (· ≤ ·)) : e.arrange byCreation rows = rows := by
  have perm := e.arrange_perm byCreation rows
  refine List.Perm.eq_of_pairwise ?_ (lists.sorted rows) ?_ perm
  · intro row other first second earlier later
    have same := together row (perm.subset first) other second
    have below : row.id ≤ other.id := (earlier.resolve_left (Nat.not_lt_of_le same.ge)).2
    have above : other.id ≤ row.id := (later.resolve_left (Nat.not_lt_of_le same.le)).2
    exact List.inj_on_of_nodup_map nodup (perm.subset first) second (Nat.le_antisymm below above)
  · rw [List.pairwise_map] at ascending
    exact ascending.imp_of_mem fun first second below => .inr ⟨together _ first _ second, below⟩

end Fetch

/-! ## The whole batch -/

/-- The identifiers that a batch draws, after its instant. -/
def batchIDs (e : Engine) (store : Store) (inputs : List CreateInput) : List Uuid :=
  (List.range' (store.drawn + 1) inputs.length).map e.uuids

/-- The inputs of a batch with their identifiers. -/
def batchEntries (e : Engine) (store : Store) (inputs : List CreateInput) :
    List (Uuid × CreateInput) := (batchIDs e store inputs).zip inputs

/-- The tables that other connections see. -/
def Store.committed (store : Store) : Tables := store.saved.getD store.tables

section Batch

variable {e : Engine} {es : EntitySchema} {ctx : Context} {tenantID : Uuid}
  {inputs : List CreateInput} {rows : List Row} {after : Tables} {store : Store}

@[simp] theorem length_batchIDs : (batchIDs e store inputs).length = inputs.length := by
  rw [batchIDs, List.length_map, List.length_range']

theorem fst_batchEntries (e : Engine) (store : Store) (inputs : List CreateInput) :
    (batchEntries e store inputs).map Prod.fst = batchIDs e store inputs :=
  List.map_fst_zip (le_of_eq length_batchIDs)

theorem snd_batchEntries (e : Engine) (store : Store) (inputs : List CreateInput) :
    (batchEntries e store inputs).map Prod.snd = inputs :=
  List.map_snd_zip (le_of_eq length_batchIDs.symm)

theorem newUUIDs_apply (n : Nat) (store : Store) : newUUIDs e.database n store =
    (.ok ((List.range' store.drawn n).map e.uuids), { store with drawn := store.drawn + n }) := by
  induction n generalizing store with
  | zero => rfl
  | succ n ih =>
    have first : e.database.newUUID store =
        (.ok (e.uuids store.drawn), { store with drawn := store.drawn + 1 }) := rfl
    rw [newUUIDs, Stateful.bind_ok first, Stateful.bind_ok (ih _)]
    simp only [List.range'_succ, List.map_cons, Nat.add_right_comm _ 1 n]
    rfl

def batchInserts (e : Engine) (es : EntitySchema) (tenantID : Uuid) (store : Store)
    (inputs : List CreateInput) : List Statement :=
  inserts es tenantID (e.clock store.drawn) (fun _ => inputs.any CreateInput.hasCustomFields)
    (batchEntries e store inputs)

/-- The inserts of the creations, for the same identifiers and the same instant. -/
def singleInserts (e : Engine) (es : EntitySchema) (tenantID : Uuid) (store : Store)
    (inputs : List CreateInput) : List Statement :=
  inserts es tenantID (e.clock store.drawn) CreateInput.hasCustomFields
    (batchEntries e store inputs)

theorem insertAll_eq (tenantID : Uuid) (inputs : List CreateInput) (store : Store) :
    insertAll e.database es ctx tenantID inputs store = (do
      sendBatch e.database es ctx (batchInserts e es tenantID store inputs)
      getByIDs e.database es ctx (batchIDs e store inputs))
        { store with drawn := store.drawn + 1 + inputs.length } := by
  have clocked : e.database.now store =
      (.ok (e.clock store.drawn), { store with drawn := store.drawn + 1 }) := rfl
  rw [insertAll, Stateful.bind_ok clocked, Stateful.bind_ok (newUUIDs_apply _ _),
    ← List.map_uncurry_zip_eq_zipWith]
  rfl

theorem insertAll_of_executeAll (plain : Plain es) (serves : e.serves es) (lists : e.Lists)
    (filled : inputs ≠ [])
    (runs : e.executeAll store.tables (batchInserts e es tenantID store inputs) = some after)
    (accepted : Accepted e es tenantID (e.clock store.drawn)
      (fun _ => inputs.any CreateInput.hasCustomFields) (batchEntries e store inputs)
      store.tables after rows) :
    ∃ last, insertAll e.database es ctx tenantID inputs store =
      (.ok ((e.arrange byCreation rows).map fun row => scan es row.shown), last) ∧
        last.tables = after := by
  obtain ⟨middle, sends, same⟩ : ∃ middle,
      sendBatch e.database es ctx (batchInserts e es tenantID store inputs)
        { store with drawn := store.drawn + 1 + inputs.length } = (.ok ⟨⟩, middle) ∧
          middle.tables = after := sendBatch_of_executeAll runs
  have stands : middle.tables es.tableName = store.tables es.tableName ++ rows := by
    rw [same, accepted.appended.table]
  have nodup : ((store.tables es.tableName ++ rows).map Row.id).Nodup := by
    rw [← accepted.appended.table]
    refine accepted.nodup fun empty => filled ?_
    rw [← snd_batchEntries e store inputs, empty, List.map_nil]
  have ids : batchIDs e store inputs = rows.map Row.id := by
    rw [ids_of_rows accepted.made, fst_batchEntries]
  rw [insertAll_eq, Stateful.bind_ok sends, ids, getByIDs_of_rows plain serves lists nodup stands]
  exact ⟨_, rfl, same⟩

theorem insertAll_of_refused
    (refused : e.executeAll store.tables (batchInserts e es tenantID store inputs) = none) :
    ∃ failure last, insertAll e.database es ctx tenantID inputs store = (.error failure, last) := by
  obtain ⟨failure, last, sends⟩ : ∃ failure last,
      sendBatch e.database es ctx (batchInserts e es tenantID store inputs)
        { store with drawn := store.drawn + 1 + inputs.length } = (.error failure, last) :=
    sendBatch_of_refused refused
  rw [insertAll_eq, Stateful.bind_error sends]
  exact ⟨failure, last, rfl⟩

theorem insertAll_savedAs (tenantID : Uuid) (inputs : List CreateInput) :
    Stateful.Moves SavedAs (insertAll e.database es ctx tenantID inputs) := by
  have moves : e.database.Along SavedAs := savedAs
  have draws : ∀ n, Stateful.Moves SavedAs (newUUIDs e.database n) := by
    intro n
    induction n with
    | zero => exact .pure _
    | succ n ih => exact moves.newUUID.bind fun id => ih.bind fun ids => .pure _
  refine moves.now.bind fun now => (draws _).bind fun ids => ?_
  refine Stateful.Moves.bind ?_ fun _ => ?_
  · exact Stateful.Moves.each (fun _ _ i => (send_along moves _ _).bind fun _ => .pure _) 0
  · exact (send_along moves _ _).bind fun _ => .pure _

/-- A batch whose inserts are accepted is stored, and read back in the order of the database. -/
theorem bulkCreate_of_executeAll (plain : Plain es) (serves : e.serves es) (lists : e.Lists)
    (tenant : ctx.tenant = some tenantID) (filled : inputs ≠ [])
    (runs : e.executeAll store.tables (batchInserts e es tenantID store inputs) = some after)
    (accepted : Accepted e es tenantID (e.clock store.drawn)
      (fun _ => inputs.any CreateInput.hasCustomFields) (batchEntries e store inputs)
      store.tables after rows) :
    ∃ last, bulkCreate e.database es ctx inputs store =
      (.ok ((e.arrange byCreation rows).map fun row => scan es row.shown), last) ∧
        last.tables = after := by
  have nonempty : ¬ inputs.isEmpty = true := by rwa [List.isEmpty_iff]
  rw [bulkCreate, if_neg nonempty, Stateful.bind_ok (tenantFromContext_apply tenant store)]
  cases joined : ctx.conn with
  | some txn =>
    rw [withTx_joined _ joined]
    exact insertAll_of_executeAll plain serves lists filled runs accepted
  | none =>
    obtain ⟨last, inside, same⟩ : ∃ last, insertAll e.database es { ctx with conn := some 0 }
        tenantID inputs (store.opened ctx) =
          (.ok ((e.arrange byCreation rows).map fun row => scan es row.shown), last) ∧
        last.tables = after :=
      insertAll_of_executeAll plain serves lists filled runs accepted
    have moves : ∀ txCtx, Stateful.Moves SavedAs
        (insertAll e.database es txCtx tenantID inputs) := fun _ => insertAll_savedAs _ _
    rw [withTx_ok joined moves inside]
    exact ⟨_, rfl, same⟩

/-- A batch one of whose inserts is refused fails, and other connections see nothing of it. -/
theorem bulkCreate_of_refused (tenant : ctx.tenant = some tenantID) (filled : inputs ≠ [])
    (opened : store.saved.isSome = ctx.conn.isSome)
    (refused : e.executeAll store.tables (batchInserts e es tenantID store inputs) = none) :
    ∃ failure last, bulkCreate e.database es ctx inputs store = (.error failure, last) ∧
      last.committed = store.committed := by
  have nonempty : ¬ inputs.isEmpty = true := by rwa [List.isEmpty_iff]
  rw [bulkCreate, if_neg nonempty, Stateful.bind_ok (tenantFromContext_apply tenant store)]
  cases joined : ctx.conn with
  | some txn =>
    rw [withTx_joined _ joined]
    obtain ⟨failure, last, fails⟩ : ∃ failure last,
        insertAll e.database es ctx tenantID inputs store = (.error failure, last) :=
      insertAll_of_refused refused
    have saved : last.saved = store.saved := (insertAll_savedAs tenantID inputs).of_run fails
    rw [joined, Option.isSome_some, Option.isSome_iff_exists] at opened
    obtain ⟨before, opened⟩ := opened
    refine ⟨failure, last, fails, ?_⟩
    rw [Store.committed, Store.committed, saved, opened]
    rfl
  | none =>
    obtain ⟨failure, last, fails⟩ : ∃ failure last, insertAll e.database es
        { ctx with conn := some 0 } tenantID inputs (store.opened ctx) = (.error failure, last) :=
      insertAll_of_refused refused
    rw [joined, Option.isSome_none, Option.isSome_eq_false_iff, Option.isNone_iff_eq_none]
      at opened
    have moves : ∀ txCtx, Stateful.Moves SavedAs
        (insertAll e.database es txCtx tenantID inputs) := fun _ => insertAll_savedAs _ _
    rw [withTx_error joined moves fails]
    refine ⟨failure, _, rfl, ?_⟩
    rw [Store.committed, Store.committed, opened]

end Batch

end ErpFinance.Driver
