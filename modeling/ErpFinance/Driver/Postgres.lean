import ErpFinance.Driver.Repository

/-!
# The database of the driver

Tables of rows and the statements that the repository sends.  What the types
and the constraints of the tables make of values is a parameter: which columns
there are, what a column keeps of a value, which contents are permitted.  A
name with a quote in it ends the quotes around it, so that the statement is
another one than the repository has meant; nothing is known of such a one.
-/

namespace ErpFinance.Driver

open Domain Library ErpFinance.Runtime

/-! ## Rows -/

/-- The columns of every table. -/
def frameworkColumns : List String := ["id", "tenant_id", "created_at", "updated_at"]

theorem nodup_frameworkColumns : frameworkColumns.Nodup := by decide

namespace Row

def value (row : Row) (column : String) : Value :=
  if column = "id" then .uuid row.id
  else if column = "tenant_id" then .uuid row.tenantID
  else if column = "created_at" then .time row.createdAt
  else if column = "updated_at" then .time row.updatedAt
  else row.columns column

/-- Let a column hold a value of its type. -/
def assign (row : Row) (column : String) (value : Value) : Option Row :=
  if column = "id" then value.asUuid.map fun id => { row with id := id }
  else if column = "tenant_id" then value.asUuid.map fun id => { row with tenantID := id }
  else if column = "created_at" then value.asTime.map fun time => { row with createdAt := time }
  else if column = "updated_at" then value.asTime.map fun time => { row with updatedAt := time }
  else some { row with columns := Function.update row.columns column value }

/-- The row as a query returns it. -/
def shown (row : Row) : Row := { row with columns := row.value }

variable {row after : Row} {column other : String} {value : Value}

theorem value_id (row : Row) : row.value "id" = .uuid row.id := rfl

theorem value_tenantID (row : Row) : row.value "tenant_id" = .uuid row.tenantID := rfl

theorem value_createdAt (row : Row) : row.value "created_at" = .time row.createdAt := rfl

theorem value_of_plain (plain : column ∉ frameworkColumns) :
    row.value column = row.columns column := by
  simp only [frameworkColumns, List.mem_cons, List.not_mem_nil, or_false, not_or] at plain
  obtain ⟨id, tenantID, createdAt, updatedAt⟩ := plain
  rw [Row.value, if_neg id, if_neg tenantID, if_neg createdAt, if_neg updatedAt]

theorem assign_of_plain (plain : column ∉ frameworkColumns) : row.assign column value =
    some { row with columns := Function.update row.columns column value } := by
  simp only [frameworkColumns, List.mem_cons, List.not_mem_nil, or_false, not_or] at plain
  obtain ⟨id, tenantID, createdAt, updatedAt⟩ := plain
  rw [Row.assign, if_neg id, if_neg tenantID, if_neg createdAt, if_neg updatedAt]

theorem eq_uuid_of_asUuid {id : Uuid} (read : value.asUuid = some id) : value = .uuid id := by
  unfold Value.asUuid at read
  split at read
  · rw [Option.some.inj read]
    rfl
  · cases read

theorem eq_time_of_asTime {time : Nat} (read : value.asTime = some time) : value = .time time := by
  unfold Value.asTime at read
  split at read
  · rw [Option.some.inj read]
    rfl
  · cases read

/-- The column holds the value, and the others what they held. -/
theorem value_assign (assigned : row.assign column value = some after) :
    after.value = Function.update row.value column value := by
  funext name
  unfold assign at assigned
  split_ifs at assigned with isID isTenant isCreated isUpdated
  · obtain ⟨id, read, rfl⟩ := Option.map_eq_some_iff.mp assigned
    rw [eq_uuid_of_asUuid read, isID]
    simp only [Function.update_apply, Row.value]
    grind
  · obtain ⟨id, read, rfl⟩ := Option.map_eq_some_iff.mp assigned
    rw [eq_uuid_of_asUuid read, isTenant]
    simp only [Function.update_apply, Row.value]
    grind
  · obtain ⟨time, read, rfl⟩ := Option.map_eq_some_iff.mp assigned
    rw [eq_time_of_asTime read, isCreated]
    simp only [Function.update_apply, Row.value]
    grind
  · obtain ⟨time, read, rfl⟩ := Option.map_eq_some_iff.mp assigned
    rw [eq_time_of_asTime read, isUpdated]
    simp only [Function.update_apply, Row.value]
    grind
  · obtain rfl := Option.some.inj assigned
    simp only [Function.update_apply, Row.value]
    grind

end Row

/-! ## Tables -/

/-- The rows of the tables that a connection sees. -/
abbrev Tables := String → List Row

namespace Statement

def table : Statement → String
  | setTenantContext _ => ""
  | select query => query.table
  | .exists table _ => table
  | count table _ => table
  | aggregate table _ _ => table
  | insert table _ => table
  | update table _ _ _ => table
  | delete table _ => table

def condition : Statement → Option Filter
  | setTenantContext _ => none
  | select query => query.condition
  | .exists _ condition => condition
  | count _ condition => condition
  | aggregate _ _ condition => condition
  | insert _ _ => none
  | update _ _ _ condition => condition
  | delete _ condition => condition

def written : Statement → List String
  | insert table values => columns (insert table values)
  | update table sets merges condition => columns (update table sets merges condition)
  | _ => []

end Statement

/-- No quote ends a name early. -/
def unquoted (name : String) : Bool := '"' ∉ name.toList

/-- A statement in which every name ends where it should; the names of a condition are escaped. -/
def Statement.wellQuoted (statement : Statement) : Bool :=
  (statement.table :: statement.columns).all unquoted

/-- A database with its types, its constraints and the streams of identifiers and instants. -/
structure Engine where
  /-- The columns of a table beside those of every table. -/
  columns : String → List String
  /-- What a column of a new row holds when the row names no value for it. -/
  initial : String → String → Value
  /-- What a column keeps of a value that it accepts. -/
  keep : String → String → Value → Option Value
  /-- Whether the arguments of a condition are of the types of the columns. -/
  accepts : String → Filter → Bool
  compare : Test → Value → Option Bool
  /-- The order in which rows are returned. -/
  arrange : List (String × Bool) → List Row → List Row
  /-- The constraints, beside those of the primary keys. -/
  permits : Tables → Bool
  summary : AggregateSpec → List Row → List Value
  malformed : Statement → Tables → Except Error (Result × Tables)
  uuids : Nat → Uuid
  clock : Nat → Nat
  keep_keep {table column : String} {value kept : Value} :
    keep table column value = some kept → keep table column kept = some kept
  keep_id (table : String) (id : Uuid) : keep table "id" (.uuid id) = some (.uuid id)
  accepts_id (table : String) (id : Uuid) : accepts table (.eq "id" (.uuid id)) = true
  compare_uuid (id other : Uuid) :
    compare (.eq (.uuid id)) (.uuid other) = some (decide (other = id))
  arrange_perm (order : List (String × Bool)) (rows : List Row) : (arrange order rows).Perm rows

/-- `||` of a JSON column and an object. -/
def concat (stored : Value) (patch : Object) : Option Value :=
  match stored with
  | .object members => some ((Object.ofValue (.object members)).merge patch).toValue
  | .null => some .null
  | _ => none

namespace Engine

variable (e : Engine) (tables : Tables)

def known (table : String) : List String := frameworkColumns ++ e.columns table

def admits (statement : Statement) : Bool :=
  (statement.columns ++ statement.condition.toList.flatMap Filter.columns).all
      (· ∈ e.known statement.table) &&
    statement.condition.all (e.accepts statement.table)

def keeps (condition : Option Filter) (row : Row) : Bool :=
  Filter.keeps e.compare row.value condition

def matching (table : String) (condition : Option Filter) : List Row :=
  (tables table).filter (e.keeps condition)

/-! ### Writing -/

def write (table : String) (row : Row) (entry : String × Value) : Option Row :=
  (e.keep table entry.1 entry.2).bind (row.assign entry.1)

def writeAll (table : String) (sets : List (String × Value)) (row : Row) : Option Row :=
  sets.foldlM (e.write table) row

def mergeAll (table : String) (merges : List (String × Object)) (row : Row) : Option Row :=
  merges.foldlM
    (fun row (column, patch) =>
      (concat (row.value column) patch).bind fun value => e.write table row (column, value))
    row

/-- A row before its values are written. -/
def blank (table : String) : Row where
  id := Uuid.Nil
  tenantID := Uuid.Nil
  createdAt := 0
  updatedAt := 0
  columns := e.initial table

/-- The new rows of a table take effect when no constraint forbids them. -/
def settle (table : String) (rows : List Row) (affected : Nat) : Except Error (Result × Tables) :=
  if (rows.map Row.id).Nodup && e.permits (Function.update tables table rows) then
    .ok ({ affected := affected }, Function.update tables table rows)
  else .error (.other "constraint violation")

/-- What an update makes of a row. -/
def revised (table : String) (sets : List (String × Value)) (merges : List (String × Object))
    (condition : Option Filter) (row : Row) : Option Row :=
  if e.keeps condition row then (e.writeAll table sets row).bind (e.mergeAll table merges)
  else some row

/-! ### Statements -/

def selected (query : Select) : List Row :=
  let rows := (e.arrange query.ordering (e.matching tables query.table query.condition)).drop
    query.offset.toNat
  (query.limit.elim rows rows.take).map Row.shown

def answer : Statement → Except Error (Result × Tables)
  | .setTenantContext _ => .ok ({}, tables)
  | .select query =>
    if query.offset < 0 then .error (.other "OFFSET must not be negative")
    else .ok ({ rows := e.selected tables query }, tables)
  | .exists table condition =>
    .ok ({ count := if (e.matching tables table condition).isEmpty then 0 else 1 }, tables)
  | .count table condition =>
    .ok ({ count := (e.matching tables table condition).length }, tables)
  | .aggregate table spec condition =>
    .ok ({ values := e.summary spec (e.matching tables table condition) }, tables)
  | .insert table values =>
    match e.writeAll table values (e.blank table) with
    | some row => e.settle tables table (tables table ++ [row]) 1
    | none => .error (.other "invalid value")
  | .update table sets merges condition =>
    match (tables table).mapM (e.revised table sets merges condition) with
    | some rows => e.settle tables table rows (e.matching tables table condition).length
    | none => .error (.other "invalid value")
  | .delete table condition =>
    e.settle tables table ((tables table).filter fun row => !e.keeps condition row)
      (e.matching tables table condition).length

def execute (statement : Statement) : Except Error (Result × Tables) :=
  if !statement.wellQuoted then e.malformed statement tables
  else if !e.admits statement then .error (.other "column does not exist")
  else if !decide statement.written.Nodup then .error (.other "column specified more than once")
  else e.answer tables statement

end Engine

/-! ## The connection -/

/-- The tables, what they were when the open transaction began, how many identifiers and instants
have been drawn, and the statements that have been sent. -/
structure Store where
  tables : Tables
  saved : Option Tables := none
  drawn : Nat := 0
  sent : List Statement := []

/-- The store after a statement that has left the tables. -/
def Store.log (store : Store) (statement : Statement) : Store :=
  { store with sent := statement :: store.sent }

/-- A database at which one transaction is open at a time. -/
def Engine.database (e : Engine) : Database Store where
  begin store := (.ok 0, { store with saved := some store.tables })
  send _ statement store :=
    match e.execute store.tables statement with
    | .ok (result, tables) =>
      (.ok result, { store.log statement with tables := tables })
    | .error error => (.error error, store.log statement)
  commit _ store := (.ok ⟨⟩, { store with saved := none })
  rollback _ store :=
    (.ok ⟨⟩, { store with tables := store.saved.getD store.tables, saved := none })
  newUUID store := (.ok (e.uuids store.drawn), { store with drawn := store.drawn + 1 })
  now store := (.ok (e.clock store.drawn), { store with drawn := store.drawn + 1 })

/-- Equality of texts and of identifiers. -/
def equals : Test → Value → Option Bool
  | .eq (.string text), .string other => some (decide (other = text))
  | .eq (.number (.uuid id)), .number (.uuid other) => some (decide (other = id))
  | .eq .null, _ => none
  | .eq _, .null => none
  | .eq _, _ => some false
  | .isNull, value => some value.isNull
  | .isNotNull, value => some !value.isNull
  | _, _ => none

/-- A database whose columns keep every value and whose rows keep their order. -/
def untyped (columns : String → List String) (permits : Tables → Bool) : Engine where
  columns := columns
  initial _ _ := .null
  keep _ _ value := some value
  accepts _ _ := true
  compare := equals
  arrange _ rows := rows
  permits := permits
  summary _ _ := []
  malformed statement tables :=
    match statement with
    | .select query => .ok ({ rows := (tables query.table).map Row.shown }, tables)
    | _ => .error (.other "syntax error")
  uuids drawn := drawn + 1
  clock drawn := drawn
  keep_keep _ := rfl
  keep_id _ _ := rfl
  accepts_id _ _ := rfl
  compare_uuid _ _ := rfl
  arrange_perm _ rows := List.Perm.refl rows

end ErpFinance.Driver
