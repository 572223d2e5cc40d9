import ErpFinance.Driver.Repository

/-!
# SQL texts

What a filter and the statements of a page are sent as: the clause with a place
for every argument, and the text around it.  The names in a clause are escaped,
the column of the order is not.
-/

namespace ErpFinance.Driver

open Compiler Library ErpFinance.Runtime

def quoteIdent (name : String) : String := "\"" ++ replaceAll name '"' "\"\"" ++ "\""

def escapeLike (s : String) : String :=
  replaceAll (replaceAll (replaceAll s '\\' "\\\\") '%' "\\%") '_' "\\_"

def escapeSingleQuote (s : String) : String := replaceAll s '\'' "''"

/-! ## Clauses -/

/-- A clause, and all arguments that are bound once it is written. -/
abbrev Clause := String × List Value

section Build

-- what `%v` prints, and how many parameters are bound before the clause
variable (sprint : Value → String) (offset : Nat)

def nextParam (v : Value) (args : List Value) : Clause :=
  ("$" ++ toString (offset + (args.length + 1)), args ++ [v])

/-- The parameters of a list. -/
def nextParams : List Value → List Value → List String × List Value
  | [], args => ([], args)
  | v :: rest, args =>
    let place := nextParam offset v args
    let places := nextParams rest place.2
    (place.1 :: places.1, places.2)

/-- A text and the parameter after it. -/
def bound (text : String) (v : Value) (args : List Value) : Clause :=
  let place := nextParam offset v args
  (text ++ place.1, place.2)

/-- A text and the parameters of an array after it; of no elements there is a truth value. -/
def boundArray (empty text : String) (vs args : List Value) : Clause :=
  if vs.isEmpty then (empty, args)
  else
    let places := nextParams offset vs args
    (text ++ "(ARRAY[" ++ ",".intercalate places.1 ++ "])", places.2)

/-- The kinds of leaf predicates, on a column. -/
def leafExpr (column : String) (test : Test) (args : List Value) : Clause :=
  match test with
  | .eq v =>
    if v.isNull then (column ++ " IS NULL", args) else bound offset (column ++ " = ") v args
  | .neq v =>
    if v.isNull then (column ++ " IS NOT NULL", args)
    else bound offset (column ++ " != ") v args
  | .gt v => bound offset (column ++ " > ") v args
  | .gte v => bound offset (column ++ " >= ") v args
  | .lt v => bound offset (column ++ " < ") v args
  | .lte v => bound offset (column ++ " <= ") v args
  | .between low high =>
    let lo := nextParam offset low args
    let hi := nextParam offset high lo.2
    (column ++ " BETWEEN " ++ lo.1 ++ " AND " ++ hi.1, hi.2)
  | .isIn vs => boundArray offset "FALSE" (column ++ " = ANY") vs args
  | .notIn vs => boundArray offset "TRUE" (column ++ " != ALL") vs args
  | .isNull => (column ++ " IS NULL", args)
  | .isNotNull => (column ++ " IS NOT NULL", args)
  | .contains text =>
    bound offset (column ++ " ILIKE ") (.string ("%" ++ escapeLike text ++ "%")) args
  | .startsWith text => bound offset (column ++ " ILIKE ") (.string (escapeLike text ++ "%")) args
  | .endsWith text => bound offset (column ++ " ILIKE ") (.string ("%" ++ escapeLike text)) args

/-- The kinds of predicates on a key of the `data` column; there are none for other tests. -/
def customExpr (field : String) (test : Test) (args : List Value) : Option Clause :=
  let key := "data->>'" ++ escapeSingleQuote field ++ "'"
  match test with
  | .eq v => some (bound offset (key ++ " = ") (.string (sprint v)) args)
  | .gt v => some (bound offset ("(" ++ key ++ ")::numeric > ") v args)
  | .lt v => some (bound offset ("(" ++ key ++ ")::numeric < ") v args)
  | .isIn vs =>
    some (boundArray offset "FALSE" (key ++ " = ANY") (vs.map fun v => .string (sprint v)) args)
  | .isNull => some (key ++ " IS NULL", args)
  | .isNotNull => some (key ++ " IS NOT NULL", args)
  | _ => none

def combineLogical (op empty : String) (parts : List String) : String :=
  if parts.isEmpty then empty
  else (" " ++ op ++ " ").intercalate (parts.map fun part => "(" ++ part ++ ")")

mutual

def expr : Filter → List Value → Option Clause
  | .leaf field test, args => some (leafExpr offset (quoteIdent field) test args)
  | .custom field test, args => customExpr sprint offset field test args
  | .and subs, args =>
    (exprs subs args).map fun parts => (combineLogical "AND" "TRUE" parts.1, parts.2)
  | .or subs, args =>
    (exprs subs args).map fun parts => (combineLogical "OR" "FALSE" parts.1, parts.2)
  | .not sub, args => (expr sub args).map fun inner => ("NOT (" ++ inner.1 ++ ")", inner.2)

def exprs : List Filter → List Value → Option (List String × List Value)
  | [], args => some ([], args)
  | first :: rest, args =>
    (expr first args).bind fun part =>
      (exprs rest part.2).map fun parts => (part.1 :: parts.1, parts.2)

end

/-- `Build`; none where a kind is not supported. -/
def build (f : Option Filter) : Option Clause :=
  match f with
  | none => some ("", [])
  | some f => expr sprint offset f []

end Build

/-! ## Statements of a page -/

/-- The condition of a statement. -/
def whereText (clause : String) : String := if clause = "" then "" else " WHERE " ++ clause

/-- The columns of `columnsAndScanner`. -/
def columnsText (table : String) (columns : List String) : String :=
  ", ".intercalate (columns.map fun column => "\"" ++ table ++ "\".\"" ++ column ++ "\"")

/-- `ORDER BY`, where there is a column to sort by. -/
def orderText : Option (String × Bool) → String
  | none => ""
  | some (column, ascending) =>
    " ORDER BY \"" ++ column ++ "\" " ++ if ascending then "ASC" else "DESC"

section Texts

variable (sprint : Value → String)

/-- The text that `Query` sends, with its arguments. -/
def queryText (q : Select) : Option (String × List Value) :=
  (build sprint 0 q.condition).map fun clause =>
    ("SELECT " ++ columnsText q.table q.columns ++ " FROM \"" ++ q.table ++ "\"" ++
        whereText clause.1 ++ orderText q.order ++
        q.limit.elim "" (fun limit => " LIMIT " ++ toString limit) ++
        " OFFSET " ++ toString q.offset,
      clause.2)

/-- The text that `Count` sends, with its arguments. -/
def countText (table : String) (f : Option Filter) : Option (String × List Value) :=
  (build sprint 0 f).map fun clause =>
    ("SELECT COUNT(*) FROM \"" ++ table ++ "\"" ++ whereText clause.1, clause.2)

/-- The texts of the statements that read a page. -/
def Statement.text : Statement → Option (String × List Value)
  | .select query => queryText sprint query
  | .count table f => countText sprint table f
  | _ => none

end Texts

/-! ## Allowed columns -/

structure Allowlist where
  entityName : String
  allowed : List String

/-- `NewAllowlist`: the standard columns and the declared fields. -/
def newAllowlist (es : EntitySchema) : Allowlist where
  entityName := es.qualifiedName
  allowed := ["id", "tenant_id", "created_at", "updated_at", "deleted_at"] ++
    es.fields.map (·.name)

namespace Allowlist

variable (al : Allowlist)

def allow (field : String) : Bool := field ∈ al.allowed

end Allowlist

end ErpFinance.Driver
