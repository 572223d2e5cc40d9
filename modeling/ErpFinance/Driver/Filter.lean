import ErpFinance.Runtime.Record

/-!
# Filters

Predicate trees over the columns of a row, and what SQL makes of them: a
predicate is true, false or unknown.  How a column's value compares with an
argument is the database's business.
-/

namespace ErpFinance.Driver

open Library ErpFinance.Runtime

/-- The test of a leaf predicate. -/
inductive Test where
  | eq (value : Value)
  | neq (value : Value)
  | gt (value : Value)
  | gte (value : Value)
  | lt (value : Value)
  | lte (value : Value)
  | isIn (values : List Value)
  | notIn (values : List Value)
  | isNull
  | isNotNull
  | contains (text : String)
  | startsWith (text : String)
  | endsWith (text : String)
  | between (low high : Value)

/-- `Filter`, as its constructor functions build it. -/
inductive Filter where
  | leaf (field : String) (test : Test)
  /-- A predicate on a key of the `data` column. -/
  | custom (field : String) (test : Test)
  | and (subs : List Filter)
  | or (subs : List Filter)
  | not (sub : Filter)

namespace Filter

/-- `Eq`; equal to nil is `IsNull`. -/
def eq (field : String) (value : Value) : Filter :=
  .leaf field (if value.isNull then .isNull else .eq value)

/-- `And` of filters none of which is nil. -/
def conjoin : List Filter → Option Filter
  | [] => none
  | [single] => some single
  | subs => some (.and subs)

mutual

def columns : Filter → List String
  | .leaf field _ => [field]
  | .custom _ _ => ["data"]
  | .and subs => columnsOf subs
  | .or subs => columnsOf subs
  | .not sub => columns sub

def columnsOf : List Filter → List String
  | [] => []
  | first :: rest => columns first ++ columnsOf rest

end

/-- `AND` of truth values, where none is unknown. -/
def both : Option Bool → Option Bool → Option Bool
  | some false, _ => some false
  | _, some false => some false
  | some true, some true => some true
  | _, _ => none

/-- `OR` of truth values. -/
def either : Option Bool → Option Bool → Option Bool
  | some true, _ => some true
  | _, some true => some true
  | some false, some false => some false
  | _, _ => none

section Truth

variable (compare : Test → Value → Option Bool) (row : String → Value)

mutual

def truth : Filter → Option Bool
  | .leaf field test => compare test (row field)
  | .custom field test => compare test ((Object.ofValue (row "data")).get field)
  | .and subs => truthAll subs
  | .or subs => truthAny subs
  | .not sub => (truth sub).map (!·)

def truthAll : List Filter → Option Bool
  | [] => some true
  | first :: rest => both (truth first) (truthAll rest)

def truthAny : List Filter → Option Bool
  | [] => some false
  | first :: rest => either (truth first) (truthAny rest)

end

/-- `WHERE` keeps the rows on which the filter is true; a nil filter keeps all. -/
def keeps (filter : Option Filter) : Bool := filter.all fun f => truth compare row f = some true

end Truth

end Filter

end ErpFinance.Driver
