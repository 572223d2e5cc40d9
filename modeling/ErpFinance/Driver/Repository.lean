import ErpFinance.Compiler.Schema
import ErpFinance.Driver.Filter
import ErpFinance.Library.Stateful
import ErpFinance.Runtime.Errors
import Mathlib.Data.List.Dedup

/-!
# The repository

The operations of an entity's repository as programs over a database driver.
A statement keeps the parts its text is built from: the table, the columns by
the names that stand between the quotes, and the arguments.  A nil map is not
told from an empty object.
-/

namespace ErpFinance.Driver

open Compiler Domain Library ErpFinance.Runtime

/-! ## Statements -/

structure Select where
  table : String
  columns : List String
  condition : Option Filter := none
  /-- The column and whether the order is ascending. -/
  order : Option (String × Bool) := none
  /-- The columns that order rows alike in the first one. -/
  thenBy : List (String × Bool) := []
  limit : Option Nat := none
  offset : Int := 0
  forUpdate : Bool := false

/-- The columns of `ORDER BY`. -/
def Select.ordering (query : Select) : List (String × Bool) := query.order.toList ++ query.thenBy

inductive AggregateFn where
  | count
  | sum
  | avg
  | min
  | max
deriving DecidableEq

structure AggregateFunc where
  fn : AggregateFn
  field : String
  resultAlias : String := ""

structure AggregateSpec where
  functions : List AggregateFunc
  groupBy : String := ""

inductive Statement where
  | setTenantContext (tenantID : Uuid)
  | select (query : Select)
  | exists (table : String) (condition : Option Filter)
  | count (table : String) (condition : Option Filter)
  | aggregate (table : String) (spec : AggregateSpec) (condition : Option Filter)
  | insert (table : String) (values : List (String × Value))
  /-- Columns that are set, and JSON columns into which an object is merged. -/
  | update (table : String) (sets : List (String × Value)) (merges : List (String × Object))
      (condition : Option Filter)
  | delete (table : String) (condition : Option Filter)

namespace Statement

/-- The columns that a statement names beside those of its condition. -/
def columns : Statement → List String
  | select query => query.columns ++ query.ordering.map Prod.fst
  | insert _ values => values.map Prod.fst
  | update _ sets merges _ => sets.map Prod.fst ++ merges.map Prod.fst
  | aggregate _ spec _ =>
    (spec.functions.filter fun f => f.fn ≠ .count).map AggregateFunc.field ++
      if spec.groupBy = "" then [] else [spec.groupBy]
  | _ => []

end Statement

/-- A row of a table; the columns that every table has are typed. -/
structure Row where
  id : Uuid
  tenantID : Uuid
  createdAt : Nat
  updatedAt : Nat
  columns : String → Value

/-- What the database answers to a statement. -/
structure Result where
  rows : List Row := []
  affected : Nat := 0
  count : Nat := 0
  values : List Value := []

/-- What the repository asks of the database and of the process. -/
structure Database (σ : Type) where
  /-- Open a transaction of a number of its own. -/
  begin : Stateful σ Error Nat
  /-- Send a statement on the transaction of the context, or on a connection of the pool. -/
  send : Context → Statement → Stateful σ Error Result
  commit : Nat → Stateful σ Error Unit
  rollback : Nat → Stateful σ Error Unit
  newUUID : Stateful σ Error Uuid
  now : Stateful σ Error Nat

/-! ## Columns and records -/

def objectOf (keys : List String) (nodup : keys.Nodup) (value : String → Value) : Object where
  entries := keys.map fun key => ⟨key, value key⟩
  nodupKeys := by
    rw [List.NodupKeys, List.keys, List.map_map]
    simpa [Function.comp_def] using nodup

section ObjectOf

variable {keys : List String} {nodup : keys.Nodup} {value : String → Value} {key : String}

theorem mem_objectOf : key ∈ objectOf keys nodup value ↔ key ∈ keys := by
  rw [AList.mem_keys, AList.keys, objectOf, List.keys, List.map_map]
  simp [Function.comp_def]

theorem get_objectOf (member : key ∈ keys) : (objectOf keys nodup value).get key = value key := by
  have found : (objectOf keys nodup value).lookup key = some (value key) := by
    rw [← Option.mem_def, AList.mem_lookup_iff]
    exact List.mem_map_of_mem (f := fun key => (⟨key, value key⟩ : Sigma fun _ => Value)) member
  rw [Object.get, found, Option.getD_some]

end ObjectOf

section Schema

variable (es : EntitySchema)

/-- `FieldsByName`, by its keys in alphabetical order. -/
def sortedFieldNames : List String :=
  (es.fields.map (·.name)).dedup.insertionSort (· ≤ ·)

theorem nodup_sortedFieldNames : (sortedFieldNames es).Nodup :=
  (List.perm_insertionSort _ _).nodup_iff.mpr (List.nodup_dedup _)

theorem mem_sortedFieldNames {name : String} :
    name ∈ sortedFieldNames es ↔ ∃ f ∈ es.fields, f.name = name := by
  rw [sortedFieldNames, List.mem_insertionSort, List.mem_dedup, List.mem_map]

/-- The columns of `columnsAndScanner`. -/
def scannedColumns : List String :=
  if es.isSystem then
    ["id", "tenant_id", "created_at", "updated_at"] ++ sortedFieldNames es ++ ["custom_fields"]
  else ["id", "tenant_id", "data", "created_at", "updated_at"]

/-- The scanner of `columnsAndScanner`; the record is named after the table. -/
def scan (row : Row) : EntityRecord :=
  if es.isSystem then
    { id := row.id
      tenantID := row.tenantID
      entityName := es.tableName
      data := objectOf (sortedFieldNames es) (nodup_sortedFieldNames es) row.columns
      customFields := Object.ofValue (row.columns "custom_fields")
      createdAt := row.createdAt
      updatedAt := row.updatedAt }
  else
    { id := row.id
      tenantID := row.tenantID
      entityName := es.tableName
      data := Object.ofValue (row.columns "data")
      createdAt := row.createdAt
      updatedAt := row.updatedAt }

theorem scan_data {es : EntitySchema} (system : es.isSystem = true) (row : Row) :
    (scan es row).data =
      objectOf (sortedFieldNames es) (nodup_sortedFieldNames es) row.columns := by
  rw [scan, if_pos system]

@[simp] theorem scan_entityName (es : EntitySchema) (row : Row) :
    (scan es row).entityName = es.tableName := by
  unfold scan
  split_ifs <;> rfl

@[simp] theorem scan_actor (es : EntitySchema) (row : Row) : (scan es row).actor = none := by
  unfold scan
  split_ifs <;> rfl

@[simp] theorem scan_id (es : EntitySchema) (row : Row) : (scan es row).id = row.id := by
  unfold scan
  split_ifs <;> rfl

end Schema

/-- `WHERE "id" = $1`. -/
def byID (id : Uuid) : Option Filter := some (.eq "id" (.uuid id))

/-! ## Options -/

/-- `QueryOptions`, as far as the repository reads them. -/
structure QueryOptions where
  page : Int := 1
  pageSize : Int := 20
  sortField : String := ""
  sortAsc : Bool := false
  forUpdate : Bool := false
  skipCount : Bool := false

/-- The page size is at most 200, and 20 where it is not positive. -/
def resolveOptions (o : QueryOptions) : QueryOptions :=
  { o with pageSize :=
      if o.pageSize > 200 then 200 else if o.pageSize < 1 then 20 else o.pageSize }

structure PageInfo where
  total : Int
  hasNextPage : Bool
  hasPrevPage : Bool
  page : Int
  pageSize : Int

structure CreateInput where
  data : Object
  /-- None where the map is nil. -/
  customFields : Option Object := none

namespace CreateInput

/-- `len(input.CustomFields) > 0`. -/
def hasCustomFields (input : CreateInput) : Bool := !(input.customFields.getD ∅).entries.isEmpty

/-- `json.Marshal` of the custom fields; of a nil map it is `null`. -/
def customFieldsJSON (input : CreateInput) : Value := input.customFields.elim .null Object.toValue

end CreateInput

structure UpdateInput where
  data : Object
  customFields : Object := ∅

section Operations

variable {σ : Type} (d : Database σ) (es : EntitySchema) (ctx : Context)

/-- `dberr.Parse` knows no error of this driver and wraps it. -/
def send (operation : String) (statement : Statement) : Stateful σ Error Result :=
  (d.send ctx statement).mapError (.wrapped (es.tableName ++ "." ++ operation))

def notFound (id : Uuid) : Error := .notFound es.tableName id.string

/-- The single row of a query by identifier. -/
def getRow (operation : String) (id : Uuid) (forUpdate : Bool) : Stateful σ Error EntityRecord := do
  let result ← send d es ctx operation
    (.select { table := es.tableName, columns := scannedColumns es, condition := byID id
               limit := some 1, forUpdate := forUpdate })
  match result.rows with
  | [] => Stateful.fail (notFound es id)
  | row :: _ => pure (scan es row)

def get (id : Uuid) (o : QueryOptions := {}) : Stateful σ Error EntityRecord :=
  getRow d es ctx "Get" id o.forUpdate

def getWithDB (id : Uuid) : Stateful σ Error EntityRecord := getRow d es ctx "get" id false

/-- `Exists`. -/
def exists' (f : Option Filter) : Stateful σ Error Bool := do
  let result ← send d es ctx "Exists" (.exists es.tableName f)
  pure (decide (result.count ≠ 0))

def count (f : Option Filter) : Stateful σ Error Int := do
  let result ← send d es ctx "Count" (.count es.tableName f)
  pure result.count

/-- The query of a page, one row longer than the page. -/
def pageQuery (f : Option Filter) (qo : QueryOptions) : Select where
  table := es.tableName
  columns := scannedColumns es
  condition := f
  order := if qo.sortField = "" then none else some (qo.sortField, qo.sortAsc)
  limit := some (qo.pageSize.toNat + 1)
  offset := if 1 < qo.page then int64 ((qo.page - 1) * qo.pageSize) else 0

theorem ordering_pageQuery (f : Option Filter) (qo : QueryOptions) :
    (pageQuery es f qo).ordering =
      if qo.sortField = "" then [] else [(qo.sortField, qo.sortAsc)] := by
  rw [Select.ordering, pageQuery]
  split_ifs <;> rfl

/-- `Query`; the total is left at minus one when the count fails. -/
def query (f : Option Filter) (o : QueryOptions) :
    Stateful σ Error (List EntityRecord × PageInfo) := do
  let qo := resolveOptions o
  let pageSize := qo.pageSize.toNat
  let result ← send d es ctx "Query" (.select (pageQuery es f qo))
  let records := result.rows.map (scan es)
  let info : PageInfo :=
    { total := -1
      hasNextPage := pageSize < records.length
      hasPrevPage := 1 < qo.page
      page := qo.page
      pageSize := qo.pageSize }
  if qo.skipCount then pure (records.take pageSize, info)
  else
    match ← (count d es ctx f).outcome with
    | .ok total => pure (records.take pageSize, { info with total := total })
    | .error _ => pure (records.take pageSize, info)

/-- A page holds the records of the rows that the query has returned. -/
theorem query_of_send {f : Option Filter} {o : QueryOptions} {result : Result} {store middle : σ}
    (sends : send d es ctx "Query" (.select (pageQuery es f (resolveOptions o))) store =
      (.ok result, middle)) :
    ∃ info after, query d es ctx f o store =
      (.ok ((result.rows.map (scan es)).take (resolveOptions o).pageSize.toNat, info), after) := by
  rw [query]
  dsimp only
  rw [Stateful.bind_ok sends]
  split_ifs
  · exact ⟨_, _, rfl⟩
  · rw [Stateful.bind_ok (Stateful.outcome_apply _ _)]
    cases (count d es ctx f middle).1 with
    | ok total => exact ⟨_, _, rfl⟩
    | error error => exact ⟨_, _, rfl⟩

/-- The key under which an aggregate is returned. -/
def AggregateFunc.key (f : AggregateFunc) : String :=
  if f.resultAlias = "" then
    (match f.fn with
      | .count => "count"
      | .sum => "sum"
      | .avg => "avg"
      | .min => "min"
      | .max => "max") ++ "_" ++ f.field
  else f.resultAlias

/-- `Aggregate`; of several groups only the first row is read. -/
def aggregate (f : Option Filter) (spec : AggregateSpec) : Stateful σ Error Object := do
  let result ← send d es ctx "Aggregate" (.aggregate es.tableName spec f)
  pure ((spec.functions.zip result.values).foldl (fun o (fn, value) => o.insert fn.key value) ∅)

/-- The values of the columns of a new row of a system entity. -/
def systemValues (id tenantID : Uuid) (now : Nat) (input : CreateInput) (custom : Bool) :
    List (String × Value) :=
  [("id", .uuid id), ("tenant_id", .uuid tenantID), ("created_at", .time now),
    ("updated_at", .time now)] ++
    (sortedFieldNames es).map (fun name => (name, input.data.get name)) ++
    if custom then [("custom_fields", input.customFieldsJSON)] else []

/-- The values of the columns of a new row of a custom entity. -/
def customValues (id tenantID : Uuid) (now : Nat) (input : CreateInput) : List (String × Value) :=
  [("id", .uuid id), ("tenant_id", .uuid tenantID), ("data", input.data.toValue),
    ("created_at", .time now), ("updated_at", .time now)]

/-- The tenant of the context; without one the process panics. -/
def tenantFromContext : Stateful σ Error Uuid :=
  match ctx.tenant with
  | some tenantID => pure tenantID
  | none => Stateful.fail (.other "TenantContext not found in context")

def create (input : CreateInput) : Stateful σ Error EntityRecord := do
  let tenantID ← tenantFromContext ctx
  let id ← d.newUUID
  let now ← d.now
  let values :=
    if es.isSystem then systemValues es id tenantID now input input.hasCustomFields
    else customValues id tenantID now input
  let _ ← send d es ctx "Create" (.insert es.tableName values)
  getWithDB d es ctx id

/-- A map of custom fields that is empty counts as none. -/
theorem create_of_not_hasCustomFields {input : CreateInput}
    (absent : input.hasCustomFields = false) :
    create d es ctx input = create d es ctx { data := input.data } := by
  unfold create
  rw [absent]
  rfl

/-- What `UPDATE` sets and merges. -/
def updateParts (now : Nat) (input : UpdateInput) :
    List (String × Value) × List (String × Object) :=
  if es.isSystem then
    (("updated_at", .time now) :: input.data.entries.map (fun entry => (entry.1, entry.2)),
      if input.customFields.entries.isEmpty then [] else [("custom_fields", input.customFields)])
  else ([("updated_at", .time now)], [("data", input.data)])

/-- Nothing to update: of a custom entity the custom fields do not count. -/
def nothingToUpdate (input : UpdateInput) : Bool :=
  input.data.entries.isEmpty && (!es.isSystem || input.customFields.entries.isEmpty)

def update (id : Uuid) (input : UpdateInput) : Stateful σ Error EntityRecord := do
  let now ← d.now
  if nothingToUpdate es input then getWithDB d es ctx id
  else
    let parts := updateParts es now input
    let result ← send d es ctx "Update" (.update es.tableName parts.1 parts.2 (byID id))
    if result.affected = 0 then Stateful.fail (notFound es id) else getWithDB d es ctx id

def delete (id : Uuid) : Stateful σ Error Unit := do
  let result ← send d es ctx "Delete" (.delete es.tableName (byID id))
  if result.affected = 0 then Stateful.fail (notFound es id) else pure ⟨⟩

def bulkUpdate (f : Option Filter) (patch : Object) : Stateful σ Error Nat := do
  let now ← d.now
  let parts := updateParts es now { data := patch }
  let result ← send d es ctx "BulkUpdate" (.update es.tableName parts.1 parts.2 f)
  pure result.affected

def openTx : Stateful σ Error Nat := do
  let txn ← d.begin.mapError (.wrapped "begin transaction")
  match ctx.tenant with
  | none => pure txn
  | some tenantID =>
    match ← (d.send { ctx with conn := some txn } (.setTenantContext tenantID)).outcome with
    | .ok _ => pure txn
    | .error error =>
      let _ ← (d.rollback txn).outcome
      Stateful.fail (.wrapped "set_tenant_context" error)

/-- Commit what the program has done, or roll it back. -/
def closeTx {α : Type} (txn : Nat) (program : Stateful σ Error α) : Stateful σ Error α := do
  match ← program.outcome with
  | .ok value =>
    d.commit txn
    pure value
  | .error error =>
    let _ ← (d.rollback txn).outcome
    Stateful.fail error

/-- `WithTx`; inside a transaction the program joins it. -/
def withTx {α : Type} (program : Context → Stateful σ Error α) : Stateful σ Error α :=
  match ctx.conn with
  | some _ => program ctx
  | none => do
      let txn ← openTx d ctx
      closeTx d txn (program { ctx with conn := some txn })

theorem withTx_joined {α : Type} {ctx : Context} {txn : Nat} (joined : ctx.conn = some txn)
    (program : Context → Stateful σ Error α) : withTx d ctx program = program ctx := by
  rw [withTx, joined]

/-- Identifiers, drawn one after another. -/
def newUUIDs : Nat → Stateful σ Error (List Uuid)
  | 0 => pure []
  | n + 1 => do
      let id ← d.newUUID
      let ids ← newUUIDs n
      pure (id :: ids)

def insertValues (tenantID : Uuid) (now : Nat) (custom : Bool) (id : Uuid) (input : CreateInput) :
    List (String × Value) :=
  if es.isSystem then systemValues es id tenantID now input custom
  else customValues id tenantID now input

/-- The statement that a batch has for an input; its columns are those of the whole batch. -/
def batchInsert (tenantID : Uuid) (now : Nat) (custom : Bool) (id : Uuid) (input : CreateInput) :
    Statement :=
  .insert es.tableName (insertValues es tenantID now custom id input)

/-- The result of one statement of a batch. -/
def execQueued (i : Nat) (statement : Statement) : Stateful σ Error Unit := do
  let _ ← send d es ctx ("BulkCreate[" ++ toString i ++ "]") statement
  pure ⟨⟩

/-- `sendBatch`: the results are read in order, up to the first error; closing them does not
fail. -/
def sendBatch (batch : List Statement) : Stateful σ Error Unit :=
  Stateful.each (execQueued d es ctx) 0 batch

def getByIDs (ids : List Uuid) : Stateful σ Error (List EntityRecord) := do
  let result ← send d es ctx "BulkCreate.fetch"
    (.select { table := es.tableName, columns := scannedColumns es
               condition := some (.leaf "id" (.isIn (ids.map Value.uuid)))
               order := some ("created_at", true), thenBy := [("id", true)] })
  pure (result.rows.map (scan es))

/-- `bulkCreateSystem` and `bulkCreateCustom`. -/
def insertAll (tenantID : Uuid) (inputs : List CreateInput) :
    Stateful σ Error (List EntityRecord) := do
  let now ← d.now
  let ids ← newUUIDs d inputs.length
  let custom := inputs.any CreateInput.hasCustomFields
  sendBatch d es ctx (ids.zipWith (batchInsert es tenantID now custom) inputs)
  getByIDs d es ctx ids

def bulkCreate (inputs : List CreateInput) : Stateful σ Error (List EntityRecord) :=
  if inputs.isEmpty then pure []
  else do
    let tenantID ← tenantFromContext ctx
    withTx d ctx fun txCtx => insertAll d es txCtx tenantID inputs

end Operations

/-! ## Records that are read back -/

section Scans

variable {σ : Type} {d : Database σ} {es : EntitySchema} {ctx : Context} {id : Uuid}
  {record : EntityRecord} {state after : σ}

theorem getRow_scan {operation : String} {forUpdate : Bool}
    (runs : getRow d es ctx operation id forUpdate state = (.ok record, after)) :
    ∃ row, record = scan es row := by
  obtain ⟨result, middle, -, rest⟩ := Stateful.bind_eq_ok_iff.mp runs
  cases rows : result.rows with
  | nil =>
    rw [rows] at rest
    cases rest
  | cons row others =>
    rw [rows] at rest
    cases rest
    exact ⟨row, rfl⟩

theorem create_scan {input : CreateInput}
    (runs : create d es ctx input state = (.ok record, after)) : ∃ row, record = scan es row := by
  obtain ⟨tenantID, _, -, runs⟩ := Stateful.bind_eq_ok_iff.mp runs
  obtain ⟨id, _, -, runs⟩ := Stateful.bind_eq_ok_iff.mp runs
  obtain ⟨now, _, -, runs⟩ := Stateful.bind_eq_ok_iff.mp runs
  obtain ⟨_, _, -, runs⟩ := Stateful.bind_eq_ok_iff.mp runs
  exact getRow_scan runs

theorem update_scan {input : UpdateInput}
    (runs : update d es ctx id input state = (.ok record, after)) :
    ∃ row, record = scan es row := by
  obtain ⟨now, _, -, runs⟩ := Stateful.bind_eq_ok_iff.mp runs
  split_ifs at runs with nothing
  · exact getRow_scan runs
  · obtain ⟨result, _, -, runs⟩ := Stateful.bind_eq_ok_iff.mp runs
    split_ifs at runs with absent
    · cases runs
    · exact getRow_scan runs

end Scans

/-! ## Moves of the state -/

/-- What the operations of a database do to its state goes along a relation. -/
structure Database.Along {σ : Type} (d : Database σ) (along : σ → σ → Prop) : Prop where
  send : ∀ ctx statement, Stateful.Moves along (d.send ctx statement)
  newUUID : Stateful.Moves along d.newUUID
  now : Stateful.Moves along d.now

section Along

variable {σ : Type} {d : Database σ} {along : σ → σ → Prop} {es : EntitySchema} {ctx : Context}
  {id : Uuid}

theorem send_along (moves : d.Along along) (operation : String) (statement : Statement) :
    Stateful.Moves along (send d es ctx operation statement) :=
  (moves.send ctx statement).mapError _

variable [Std.Refl along] [IsTrans σ along]

theorem getRow_along (moves : d.Along along) (operation : String) (forUpdate : Bool) :
    Stateful.Moves along (getRow d es ctx operation id forUpdate) := by
  refine (send_along moves operation _).bind fun result => ?_
  cases result.rows with
  | nil => exact Stateful.Moves.fail _
  | cons row rest => exact Stateful.Moves.pure _

theorem create_along (moves : d.Along along) (input : CreateInput) :
    Stateful.Moves along (create d es ctx input) := by
  have tenant : Stateful.Moves along (tenantFromContext ctx : Stateful σ Error Uuid) := by
    unfold tenantFromContext
    cases ctx.tenant with
    | none => exact Stateful.Moves.fail _
    | some tenantID => exact Stateful.Moves.pure _
  refine tenant.bind fun tenantID => moves.newUUID.bind fun id => moves.now.bind fun now => ?_
  exact (send_along moves _ _).bind fun _ => getRow_along moves _ _

theorem update_along (moves : d.Along along) (input : UpdateInput) :
    Stateful.Moves along (update d es ctx id input) := by
  refine moves.now.bind fun now => Stateful.Moves.ite (getRow_along moves _ _) ?_
  refine (send_along moves _ _).bind fun result => ?_
  exact Stateful.Moves.ite (Stateful.Moves.fail _) (getRow_along moves _ _)

theorem delete_along (moves : d.Along along) : Stateful.Moves along (delete d es ctx id) :=
  (send_along moves _ _).bind fun _ =>
    Stateful.Moves.ite (Stateful.Moves.fail _) (Stateful.Moves.pure _)

end Along

end ErpFinance.Driver
