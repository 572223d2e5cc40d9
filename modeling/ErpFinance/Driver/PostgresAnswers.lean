import ErpFinance.Driver.PostgresSteps

/-!
# When the operations succeed

An operation whose statement the database accepts finds the row that it has
written.  Statements in which every name ends where it should change the table
of their entity only.
-/

namespace ErpFinance.Driver

open Compiler Domain Library ErpFinance.Runtime

def insertOf (es : EntitySchema) (id tenantID : Uuid) (now : Nat) (input : CreateInput) :
    Statement :=
  .insert es.tableName
    (if es.isSystem then systemValues es id tenantID now input input.hasCustomFields
    else customValues id tenantID now input)

/-- The statement that updates a row. -/
def updateOf (es : EntitySchema) (id : Uuid) (now : Nat) (input : UpdateInput) : Statement :=
  .update es.tableName (updateParts es now input).1 (updateParts es now input).2 (byID id)

/-- The statement that deletes a row. -/
def deleteOf (es : EntitySchema) (id : Uuid) : Statement := .delete es.tableName (byID id)

section Answers

variable {e : Engine} {es : EntitySchema} {ctx : Context} {id : Uuid} {store after : Store}
  {row : Row} {tables : Tables} {result : Result}

theorem newUUID_apply (store : Store) : e.database.newUUID store =
    (.ok (e.uuids store.drawn), { store with drawn := store.drawn + 1 }) := rfl

theorem now_apply (store : Store) : e.database.now store =
    (.ok (e.clock store.drawn), { store with drawn := store.drawn + 1 }) := rfl

/-! ## Creations -/

variable {input : CreateInput} {tenantID : Uuid}

theorem create_of_execute (store : Store) (plain : Plain es) (serves : e.serves es)
    (tenant : ctx.tenant = some tenantID)
    (accepts : (e.execute store.tables (insertOf es (e.uuids store.drawn) tenantID (e.clock
      (store.drawn + 1)) input)).isOk = true) :
    ∃ (row : Row) (last : Store),
      create e.database es ctx input store = (.ok (scan es row.shown), last) := by
  obtain ⟨⟨result, tables⟩, executes⟩ := exists_of_isOk accepts
  obtain ⟨row, inserted⟩ := Engine.inserted_of_execute plain.insert executes
  have isRow : row.id = e.uuids store.drawn := inserted_id inserted.distinct inserted.written
  have reads : ∃ last, getWithDB e.database es ctx (e.uuids store.drawn)
      { { store with drawn := store.drawn + 2 }.log (insertOf es (e.uuids store.drawn) tenantID
          (e.clock (store.drawn + 1)) input) with tables := tables } =
        (.ok (scan es row.shown), last) := by
    rw [getWithDB, ← isRow]
    exact ⟨_, getRow_of_mem plain serves inserted.settled.nodup inserted.mem⟩
  obtain ⟨last, reads⟩ := reads
  refine ⟨row, last, ?_⟩
  have given : (tenantFromContext ctx : Stateful Store Error Uuid) store =
      (.ok tenantID, store) := by
    rw [tenantFromContext, tenant]
    rfl
  rw [create, Stateful.bind_ok given, Stateful.bind_ok (newUUID_apply store),
    Stateful.bind_ok (now_apply _)]
  have sends : send e.database es ctx "Create" (insertOf es (e.uuids store.drawn) tenantID
      (e.clock (store.drawn + 1)) input) { store with drawn := store.drawn + 2 } = _ :=
    send_of_ok executes
  exact (Stateful.bind_ok sends).trans reads

variable {now : Nat}

theorem columns_systemValues {custom : Bool} :
    (systemValues es id tenantID now input custom).map Prod.fst =
      frameworkColumns ++ sortedFieldNames es ++ if custom then ["custom_fields"] else [] := by
  rw [systemValues, List.map_append, List.map_append, List.map_map]
  have names : (sortedFieldNames es).map (Prod.fst ∘ fun name => (name, input.data.get name)) =
      sortedFieldNames es := List.map_id _
  rw [names]
  split_ifs <;> rfl

/-- The columns of a new row are named once when no field is named like a column of the driver. -/
theorem systemValues_nodup {custom : Bool}
    (free : ∀ f ∈ es.fields, f.name ∉ frameworkColumns ++ ["custom_fields"]) :
    ((systemValues es id tenantID now input custom).map Prod.fst).Nodup := by
  have fields : ∀ name ∈ sortedFieldNames es, name ∉ frameworkColumns ++ ["custom_fields"] := by
    intro name member
    obtain ⟨f, inFields, rfl⟩ := (mem_sortedFieldNames es).mp member
    exact free f inFields
  rw [columns_systemValues, List.nodup_append, List.nodup_append]
  refine ⟨⟨nodup_frameworkColumns, nodup_sortedFieldNames es, ?_⟩, ?_, ?_⟩
  · rintro name framework other field rfl
    exact fields name field (List.mem_append_left _ framework)
  · split_ifs
    · exact List.nodup_singleton _
    · exact List.nodup_nil
  · rintro name before other last rfl
    split_ifs at last
    · obtain rfl := List.mem_singleton.mp last
      rcases List.mem_append.mp before with framework | field
      · exact absurd framework (by decide)
      · exact fields _ field (List.mem_append_right _ List.mem_cons_self)
    · cases last

theorem Created.value {tenant : Option Uuid} {before after : Tables}
    (created : Created e es tenant input before after row) (system : es.isSystem = true)
    (free : ∀ f ∈ es.fields, f.name ∉ frameworkColumns ++ ["custom_fields"]) {name : String}
    (declared : name ∈ sortedFieldNames es) :
    e.keep es.tableName name (input.data.get name) = some (row.value name) := by
  obtain ⟨id, tenantID, now, -, written⟩ := created.written
  rw [if_pos system] at written
  refine Engine.writeAll_value_of_mem written (systemValues_nodup free) ?_
  exact List.mem_append_left _ (List.mem_append_right _ (List.mem_map_of_mem declared))

/-- A creation for a custom entity that fails leaves the tables. -/
theorem create_error_tables (custom : es.isSystem = false) (plain : Plain es) {error : Error}
    (runs : create e.database es ctx input store = (.error error, after)) :
    after.tables = store.tables := by
  cases tenant : ctx.tenant with
  | none =>
    rw [create, Stateful.bind_error (by rw [tenantFromContext, tenant]; rfl)] at runs
    cases runs
    rfl
  | some tenantID =>
    cases executes : e.execute store.tables (insertOf es (e.uuids store.drawn) tenantID
        (e.clock (store.drawn + 1)) input) with
    | error refused =>
      have given : (tenantFromContext ctx : Stateful Store Error Uuid) store =
          (.ok tenantID, store) := by
        rw [tenantFromContext, tenant]
        rfl
      have sends : send e.database es ctx "Create" (insertOf es (e.uuids store.drawn) tenantID
          (e.clock (store.drawn + 1)) input) { store with drawn := store.drawn + 2 } = _ :=
        send_of_error executes
      rw [create, Stateful.bind_ok given, Stateful.bind_ok (newUUID_apply store),
        Stateful.bind_ok (now_apply _)] at runs
      have ends := (Stateful.bind_error sends).symm.trans runs
      cases ends
      rfl
    | ok answered =>
      -- the columns that are read back are those that have been written
      have serves : e.serves es := by
        intro name member
        have known := (Engine.admits_iff.mp (Engine.execute_eq_ok plain.insert executes).1).1
        refine known name (List.mem_append_left _ ?_)
        rw [scannedColumns, if_neg (Bool.eq_false_iff.mp custom)] at member
        rw [if_neg (Bool.eq_false_iff.mp custom)]
        exact member
      have accepts : (e.execute store.tables (insertOf es (e.uuids store.drawn) tenantID
          (e.clock (store.drawn + 1)) input)).isOk = true := by
        rw [executes]
        rfl
      obtain ⟨row, last, creates⟩ := create_of_execute store plain serves tenant accepts
      rw [creates] at runs
      cases runs

/-! ## Updates -/

/-- No merge names the identifier. -/
theorem id_notMem_merges {input : UpdateInput} :
    "id" ∉ (updateParts es now input).2.map Prod.fst := by
  unfold updateParts
  split_ifs <;> simp

variable {table : String}

/-- A row that an update does not give another identifier keeps its own. -/
theorem revised_id {sets : List (String × Value)} {merges : List (String × Object)}
    {condition : Option Filter} {new : Row}
    (revises : e.revised table sets merges condition row = some new)
    (distinct : (sets.map Prod.fst).Nodup)
    (stays : ∀ value, ("id", value) ∈ sets → value = .uuid row.id)
    (absent : "id" ∉ merges.map Prod.fst) : new.id = row.id := by
  have same : new.value "id" = row.value "id" := by
    unfold Engine.revised at revises
    split_ifs at revises with keeps
    · obtain ⟨middle, written, merged⟩ := Option.bind_eq_some_iff.mp revises
      rw [Engine.mergeAll_value_of_notMem merged absent]
      by_cases member : "id" ∈ sets.map Prod.fst
      · obtain ⟨⟨name, value⟩, inSets, rfl⟩ := List.mem_map.mp member
        have kept := Engine.writeAll_value_of_mem written distinct inSets
        rw [stays value inSets, e.keep_id] at kept
        rw [Row.value_id]
        exact (Option.some.inj kept).symm
      · exact Engine.writeAll_value_of_notMem written member
    · rw [Option.some.inj revises]
  rw [Row.value_id, Row.value_id] at same
  injection same with same
  injection same

/-- The record of a system entity's row holds what the columns of its fields hold. -/
theorem lookup_scan_shown (system : es.isSystem = true) {name : String} {value : Value}
    (found : (scan es row.shown).data.lookup name = some value) :
    name ∈ sortedFieldNames es ∧ value = row.value name := by
  rw [scan_data system] at found
  have present : name ∈ objectOf (sortedFieldNames es) (nodup_sortedFieldNames es)
      row.shown.columns := by
    rw [← AList.lookup_isSome, found]
    rfl
  have member : name ∈ sortedFieldNames es := mem_objectOf.mp present
  have get : (objectOf (sortedFieldNames es) (nodup_sortedFieldNames es) row.shown.columns).get
      name = row.shown.columns name := get_objectOf member
  rw [Object.get, found, Option.getD_some] at get
  exact ⟨member, get⟩

/-- An update that the database accepts succeeds, unless it takes the identifier away. -/
theorem update_of_execute (store : Store) (plain : Plain es) (serves : e.serves es)
    (nodup : ((store.tables es.tableName).map Row.id).Nodup)
    (member : row ∈ store.tables es.tableName) {input : UpdateInput}
    (keys : es.isSystem = true → ∀ key ∈ input.data, unquoted key = true)
    (stays : es.isSystem = true → ∀ value, input.data.lookup "id" = some value →
      value = .uuid row.id)
    (accepts : nothingToUpdate es input = true ∨ (e.execute store.tables
      (updateOf es row.id (e.clock store.drawn) input)).isOk = true) :
    ∃ (read : Row) (last : Store),
      update e.database es ctx row.id input store = (.ok (scan es read.shown), last) := by
  cases nothing : nothingToUpdate es input with
  | true =>
    have reads : ∃ last, getWithDB e.database es ctx row.id
        { store with drawn := store.drawn + 1 } = (.ok (scan es row.shown), last) :=
      ⟨_, getRow_of_mem plain serves nodup member⟩
    obtain ⟨last, reads⟩ := reads
    refine ⟨row, last, ?_⟩
    rw [update, Stateful.bind_ok (now_apply store), if_pos nothing]
    exact reads
  | false =>
    obtain ⟨⟨result, tables⟩, executes⟩ := exists_of_isOk
      (accepts.resolve_left (by rw [nothing]; exact Bool.false_ne_true))
    obtain ⟨rewritten, affected⟩ :=
      Engine.rewritten_of_execute (plain.updateParts keys) executes
    have one : result.affected = 1 := by
      rw [affected, Engine.matching_byID nodup member, List.length_singleton]
    obtain ⟨new, inAfter, revises⟩ := Engine.exists_of_mem_left rewritten.each member
    have isRow : new.id = row.id := by
      refine revised_id revises (List.nodup_append.mp rewritten.distinct).1
        (fun value inSets => ?_) id_notMem_merges
      cases system : es.isSystem with
      | true =>
        rw [updateParts, if_pos system] at inSets
        rcases List.mem_cons.mp inSets with clock | inData
        · simp at clock
        · obtain ⟨⟨name, other⟩, inEntries, same⟩ := List.mem_map.mp inData
          cases same
          exact stays system other (AList.mem_lookup_iff.mpr inEntries)
      | false =>
        rw [updateParts, if_neg (Bool.eq_false_iff.mp system)] at inSets
        simp at inSets
    have reads : ∃ last, getWithDB e.database es ctx row.id
        { { store with drawn := store.drawn + 1 }.log
            (updateOf es row.id (e.clock store.drawn) input) with tables := tables } =
          (.ok (scan es new.shown), last) := by
      rw [getWithDB, ← isRow]
      exact ⟨_, getRow_of_mem plain serves rewritten.settled.nodup inAfter⟩
    obtain ⟨last, reads⟩ := reads
    refine ⟨new, last, ?_⟩
    rw [update, Stateful.bind_ok (now_apply store),
      if_neg (by rw [nothing]; exact Bool.false_ne_true)]
    have sends : send e.database es ctx "Update" (updateOf es row.id (e.clock store.drawn) input)
        { store with drawn := store.drawn + 1 } = _ := send_of_ok executes
    refine (Stateful.bind_ok sends).trans ?_
    rw [if_neg (by rw [one]; exact Nat.one_ne_zero)]
    exact reads

theorem Updated.identified {data : Object} {before after : Tables}
    (updated : Updated e es id { data := data } before after) (system : es.isSystem = true)
    (nodup : ((before es.tableName).map Row.id).Nodup) {new : Row}
    (member : new ∈ after es.tableName) :
    (new ∈ before es.tableName ∧ new.id ≠ id) ∨
      (new.id = id ∧
        ∃ old ∈ before es.tableName, old.id = id ∧ Wrote e es.tableName data old new) := by
  rcases updated.effect with ⟨nothing, same⟩ | ⟨-, now, rewritten⟩
  · have empty : data = ∅ := by
      rw [nothingToUpdate, Bool.and_eq_true, List.isEmpty_iff] at nothing
      exact AList.ext nothing.1
    rw [same] at member
    by_cases isRow : new.id = id
    · rw [empty]
      exact .inr ⟨isRow, new, member, isRow, Wrote.refl new _⟩
    · exact .inl ⟨member, isRow⟩
  · have none : (updateParts es now { data := data }).2 = [] := by
      rw [updateParts, system]
      rfl
    obtain ⟨old, inBefore, revises⟩ := Engine.exists_of_mem_right rewritten.each member
    rcases Engine.revised_byID revises with ⟨different, rfl⟩ | ⟨isOld, middle, written, merged⟩
    · exact .inl ⟨inBefore, different⟩
    · -- the row that has been read back is made of the same row as this one
      obtain ⟨found, inAfter, isFound⟩ := updated.found
      obtain ⟨source, inSource, revises'⟩ := Engine.exists_of_mem_right rewritten.each inAfter
      have isSource : source.id = id := by
        rcases Engine.revised_byID revises' with ⟨different, rfl⟩ | ⟨isSource, -⟩
        · exact absurd isFound different
        · exact isSource
      obtain rfl : source = old :=
        List.inj_on_of_nodup_map nodup inSource inBefore (isSource.trans isOld.symm)
      obtain rfl : found = new := Option.some.inj (revises'.symm.trans revises)
      rw [none] at merged
      obtain rfl := Option.some.inj merged
      exact .inr ⟨isFound, source, inSource, isSource,
        wrote_of_rewritten system rewritten written⟩

/-! ## Deletions -/

theorem Plain.deleteOf (plain : Plain es) : (deleteOf es id).wellQuoted = true := by
  rw [Statement.wellQuoted, List.all_eq_true]
  intro name member
  obtain rfl := List.mem_singleton.mp member
  exact plain _ List.mem_cons_self

theorem deleted_of_execute (plain : Plain es)
    (executes : e.execute store.tables (deleteOf es id) = .ok (result, tables)) :
    result.affected = (e.matching store.tables es.tableName (byID id)).length ∧
      tables = Function.update store.tables es.tableName
        ((store.tables es.tableName).filter fun row => !decide (row.id = id)) ∧
      e.Settled es.tableName tables := by
  obtain ⟨-, -, answers⟩ := Engine.execute_eq_ok plain.deleteOf executes
  obtain ⟨same, affected, settled⟩ := Engine.settle_eq_ok answers
  simp only [Engine.keeps_byID] at same
  exact ⟨affected, same, settled⟩

theorem delete_of_execute (store : Store) (plain : Plain es)
    (nodup : ((store.tables es.tableName).map Row.id).Nodup)
    (member : row ∈ store.tables es.tableName)
    (accepts : (e.execute store.tables (deleteOf es row.id)).isOk = true) :
    ∃ last, delete e.database es ctx row.id store = (.ok ⟨⟩, last) := by
  obtain ⟨⟨result, tables⟩, executes⟩ := exists_of_isOk accepts
  have affected := (deleted_of_execute plain executes).1
  rw [Engine.matching_byID nodup member, List.length_singleton] at affected
  refine ⟨{ store.log (deleteOf es row.id) with tables := tables },
    (Stateful.bind_ok (send_of_ok executes)).trans ?_⟩
  rw [if_neg (by rw [affected]; exact Nat.one_ne_zero)]
  rfl

variable {f : Option Filter}

theorem query_rows (plain : Plain es) {o : QueryOptions} {records : List EntityRecord}
    {info : PageInfo} (sorted : unquoted o.sortField = true)
    (runs : query e.database es ctx f o store = (.ok (records, info), after))
    {record : EntityRecord} (member : record ∈ records) :
    ∃ row ∈ store.tables es.tableName, record = scan es row.shown := by
  obtain ⟨result, middle, sends, rest⟩ := Stateful.bind_eq_ok_iff.mp runs
  obtain ⟨tables, executes, rfl⟩ := execute_of_send sends
  have quoted : (Statement.select (pageQuery es f (resolveOptions o))).wellQuoted = true := by
    rw [Statement.wellQuoted, List.all_eq_true]
    intro name named
    rcases List.mem_cons.mp named with rfl | column
    · exact plain _ List.mem_cons_self
    · rcases List.mem_append.mp column with scanned | order
      · exact plain name (List.mem_cons_of_mem _ scanned)
      · rw [ordering_pageQuery] at order
        split_ifs at order
        · cases order
        · obtain rfl := List.mem_singleton.mp order
          exact sorted
  obtain ⟨-, -, answers⟩ := Engine.execute_eq_ok quoted executes
  have selects : result.rows = e.selected store.tables (pageQuery es f (resolveOptions o)) := by
    rw [Engine.answer] at answers
    split_ifs at answers
    cases answers
    rfl
  have inRows : record ∈ result.rows.map (scan es) := by
    dsimp only at rest
    split_ifs at rest
    · cases rest
      exact List.mem_of_mem_take member
    · rw [Stateful.bind_ok (Stateful.outcome_apply _ _)] at rest
      cases counts : (count e.database es ctx f { store.log (Statement.select
          (pageQuery es f (resolveOptions o))) with tables := tables }).1 with
      | ok total =>
        rw [counts] at rest
        cases rest
        exact List.mem_of_mem_take member
      | error error =>
        rw [counts] at rest
        cases rest
        exact List.mem_of_mem_take member
  obtain ⟨row, inResult, rfl⟩ := List.mem_map.mp inRows
  rw [selects] at inResult
  obtain ⟨stored, inTable, -, rfl⟩ := Engine.mem_selected inResult
  exact ⟨stored, inTable, rfl⟩

theorem count_rows (plain : Plain es) {total : Int}
    (runs : count e.database es ctx f store = (.ok total, after)) :
    total = (e.matching store.tables es.tableName f).length := by
  obtain ⟨result, middle, sends, rest⟩ := Stateful.bind_eq_ok_iff.mp runs
  obtain ⟨tables, executes, rfl⟩ := execute_of_send sends
  have quoted : (Statement.count es.tableName f).wellQuoted = true := by
    rw [Statement.wellQuoted, List.all_eq_true]
    intro name named
    obtain rfl := List.mem_singleton.mp named
    exact plain _ List.mem_cons_self
  obtain ⟨-, -, answers⟩ := Engine.execute_eq_ok quoted executes
  cases answers
  cases rest
  rfl

/-! ## Tables that are left alone -/

/-- Nothing but one table differs. -/
def Touches (table : String) (before after : Store) : Prop :=
  ∀ other, other ≠ table → after.tables other = before.tables other

instance {table : String} : Std.Refl (Touches table) := ⟨fun _ _ _ => rfl⟩

instance {table : String} : IsTrans Store (Touches table) :=
  ⟨fun _ _ _ first second other different =>
    (second other different).trans (first other different)⟩

theorem Engine.settle_others {table other : String} {rows : List Row} {affected : Nat}
    (settles : e.settle store.tables table rows affected = .ok (result, tables))
    (different : other ≠ table) : tables other = store.tables other := by
  rw [(Engine.settle_eq_ok settles).1, Function.update_of_ne different]

variable {statement : Statement}

theorem Engine.answer_others {other : String}
    (answers : e.answer store.tables statement = .ok (result, tables))
    (different : other ≠ statement.table) : tables other = store.tables other := by
  cases statement with
  | insert table values =>
    rw [Engine.answer] at answers
    split at answers
    · exact Engine.settle_others answers different
    · cases answers
  | update table sets merges condition =>
    rw [Engine.answer] at answers
    split at answers
    · exact Engine.settle_others answers different
    · cases answers
  | delete table condition => exact Engine.settle_others answers different
  | select query =>
    rw [Engine.answer] at answers
    split_ifs at answers
    cases answers
    rfl
  | setTenantContext _ => cases answers; rfl
  | «exists» _ _ => cases answers; rfl
  | count _ _ => cases answers; rfl
  | aggregate _ _ _ => cases answers; rfl

theorem send_touches (operation : String) (quoted : statement.wellQuoted = true) :
    Stateful.Moves (Touches statement.table) (send e.database es ctx operation statement) := by
  intro store other different
  cases runs : e.execute store.tables statement with
  | error error =>
    rw [send_of_error runs]
    rfl
  | ok answered =>
    rw [send_of_ok runs]
    exact Engine.answer_others (Engine.execute_eq_ok quoted runs).2.2 different

theorem getRow_touches (plain : Plain es) (operation : String) (forUpdate : Bool) :
    Stateful.Moves (Touches es.tableName) (getRow e.database es ctx operation id forUpdate) := by
  refine (send_touches operation plain.byIDQuery).bind fun result => ?_
  cases result.rows with
  | nil => exact Stateful.Moves.fail _
  | cons row rest => exact Stateful.Moves.pure _

theorem create_touches (plain : Plain es) (input : CreateInput) :
    Stateful.Moves (Touches es.tableName) (create e.database es ctx input) := by
  have tenant : Stateful.Moves (Touches es.tableName)
      (tenantFromContext ctx : Stateful Store Error Uuid) := by
    unfold tenantFromContext
    cases ctx.tenant with
    | none => exact Stateful.Moves.fail _
    | some tenantID => exact Stateful.Moves.pure _
  have draws : Stateful.Moves (Touches es.tableName) e.database.newUUID := fun _ _ _ => rfl
  have clocks : Stateful.Moves (Touches es.tableName) e.database.now := fun _ _ _ => rfl
  refine tenant.bind fun tenantID => draws.bind fun id => clocks.bind fun now => ?_
  exact (send_touches _ plain.insert).bind fun _ => getRow_touches plain _ _

theorem update_touches (plain : Plain es) {input : UpdateInput}
    (keys : es.isSystem = true → ∀ key ∈ input.data, unquoted key = true) :
    Stateful.Moves (Touches es.tableName) (update e.database es ctx id input) := by
  have clocks : Stateful.Moves (Touches es.tableName) e.database.now := fun _ _ _ => rfl
  refine clocks.bind fun now => Stateful.Moves.ite (getRow_touches plain _ _) ?_
  exact (send_touches _ (plain.updateParts keys)).bind fun _ =>
    Stateful.Moves.ite (Stateful.Moves.fail _) (getRow_touches plain _ _)

theorem delete_touches (plain : Plain es) :
    Stateful.Moves (Touches es.tableName) (delete e.database es ctx id) :=
  (send_touches _ plain.deleteOf).bind fun _ =>
    Stateful.Moves.ite (Stateful.Moves.fail _) (Stateful.Moves.pure _)

theorem bulkUpdate_touches (plain : Plain es) {patch : Object}
    (keys : es.isSystem = true → ∀ key ∈ patch, unquoted key = true) :
    Stateful.Moves (Touches es.tableName) (bulkUpdate e.database es ctx f patch) := by
  have clocks : Stateful.Moves (Touches es.tableName) e.database.now := fun _ _ _ => rfl
  refine clocks.bind fun now => ?_
  have statement : (Statement.update es.tableName (updateParts es now { data := patch }).1
      (updateParts es now { data := patch }).2 f).wellQuoted = true := plain.updateParts keys
  exact (send_touches _ statement).bind fun _ => Stateful.Moves.pure _

/-! ## Rows that are left in a table -/

/-- Every row of a table is one that was there, as far as its identifier goes. -/
def NoNew (table : String) (before after : Store) : Prop :=
  ∀ row ∈ after.tables table, ∃ old ∈ before.tables table, old.id = row.id

instance {table : String} : Std.Refl (NoNew table) := ⟨fun _ row member => ⟨row, member, rfl⟩⟩

instance {table : String} : IsTrans Store (NoNew table) where
  trans _ _ _ first second row member := by
    obtain ⟨middle, inMiddle, same⟩ := second row member
    obtain ⟨old, inBefore, same'⟩ := first middle inMiddle
    exact ⟨old, inBefore, same'.trans same⟩

theorem Engine.settle_rows {rows : List Row} {affected : Nat}
    (settles : e.settle store.tables table rows affected = .ok (result, tables)) :
    tables table = rows := by
  rw [(Engine.settle_eq_ok settles).1, Function.update_self]

/-- A custom entity's statements write the clock and the data of rows, and delete rows. -/
inductive Rewrites (es : EntitySchema) : Statement → Prop where
  | select (query : Select) : Rewrites es (.select query)
  | update (now : Nat) (input : UpdateInput) (condition : Option Filter) :
      Rewrites es (.update es.tableName (updateParts es now input).1 (updateParts es now input).2
        condition)
  | delete (condition : Option Filter) : Rewrites es (.delete es.tableName condition)

theorem send_noNew (custom : es.isSystem = false) (operation : String)
    (quoted : statement.wellQuoted = true) (rewrites : Rewrites es statement) :
    Stateful.Moves (NoNew es.tableName) (send e.database es ctx operation statement) := by
  intro store
  cases runs : e.execute store.tables statement with
  | error error =>
    rw [send_of_error runs]
    exact fun row member => ⟨row, member, rfl⟩
  | ok answered =>
    obtain ⟨result, tables⟩ := answered
    obtain ⟨-, distinct, answers⟩ := Engine.execute_eq_ok quoted runs
    intro row member
    rw [send_of_ok runs] at member
    replace member : row ∈ tables es.tableName := member
    cases rewrites with
    | select query =>
      rw [Engine.answer] at answers
      split_ifs at answers
      cases answers
      exact ⟨row, member, rfl⟩
    | update now input condition =>
      obtain ⟨rewritten, -⟩ := Engine.rewritten_of_execute quoted runs
      obtain ⟨old, inBefore, revises⟩ := Engine.exists_of_mem_right rewritten.each member
      refine ⟨old, inBefore, (revised_id revises (List.nodup_append.mp rewritten.distinct).1
        (fun value inSets => ?_) id_notMem_merges).symm⟩
      rw [updateParts, if_neg (Bool.eq_false_iff.mp custom)] at inSets
      simp at inSets
    | delete condition =>
      rw [Engine.settle_rows answers] at member
      exact ⟨row, (List.mem_filter.mp member).1, rfl⟩

theorem getRow_noNew (custom : es.isSystem = false) (plain : Plain es) (operation : String)
    (forUpdate : Bool) :
    Stateful.Moves (NoNew es.tableName) (getRow e.database es ctx operation id forUpdate) := by
  refine (send_noNew custom operation plain.byIDQuery (.select _)).bind fun result => ?_
  cases result.rows with
  | nil => exact Stateful.Moves.fail _
  | cons row rest => exact Stateful.Moves.pure _

theorem clock_noNew : Stateful.Moves (NoNew table) e.database.now :=
  fun _ row member => ⟨row, member, rfl⟩

theorem update_noNew (custom : es.isSystem = false) (plain : Plain es) (input : UpdateInput) :
    Stateful.Moves (NoNew es.tableName) (update e.database es ctx id input) := by
  refine clock_noNew.bind fun now => Stateful.Moves.ite (getRow_noNew custom plain _ _) ?_
  have quoted : (updateOf es id now input).wellQuoted = true :=
    plain.updateParts fun system => by
      rw [custom] at system
      cases system
  exact (send_noNew custom _ quoted (.update now input _)).bind fun _ =>
    Stateful.Moves.ite (Stateful.Moves.fail _) (getRow_noNew custom plain _ _)

theorem delete_noNew (custom : es.isSystem = false) (plain : Plain es) :
    Stateful.Moves (NoNew es.tableName) (delete e.database es ctx id) :=
  (send_noNew custom _ plain.deleteOf (.delete _)).bind fun _ =>
    Stateful.Moves.ite (Stateful.Moves.fail _) (Stateful.Moves.pure _)

theorem bulkUpdate_noNew (custom : es.isSystem = false) (plain : Plain es) (f : Option Filter)
    (patch : Object) :
    Stateful.Moves (NoNew es.tableName) (bulkUpdate e.database es ctx f patch) := by
  refine clock_noNew.bind fun now => ?_
  have quoted : (Statement.update es.tableName (updateParts es now { data := patch }).1
      (updateParts es now { data := patch }).2 f).wellQuoted = true :=
    plain.updateParts fun system => by
      rw [custom] at system
      cases system
  exact (send_noNew custom _ quoted (.update now { data := patch } f)).bind fun _ =>
    Stateful.Moves.pure _

end Answers

end ErpFinance.Driver
