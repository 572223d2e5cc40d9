import ErpFinance.Library.Json

/-!
# Condition trees

The values of `pkg/condition`: what a Go `any` can hold there, and the groups,
rules and expressions that conditions are built from.  A string enumeration
outside the declared constants is `other`, which carries the proof that its
code is not one of them.
-/

namespace ErpFinance.Condition

open Library (Json)

/-! ## Enumerations -/

def operatorCodes : List String :=
  ["equal", "not_equal", "less", "less_or_equal", "greater", "greater_or_equal", "between",
    "not_between", "is_empty", "is_not_empty", "contains", "not_contains", "starts_with",
    "ends_with", "select_any_in", "select_not_any_in", "match_regexp"]

inductive OperatorType where
  | equal | notEqual | less | lessOrEqual | greater | greaterOrEqual | between | notBetween
  | isEmpty | isNotEmpty | contains | notContains | startsWith | endsWith | in | notIn
  | matchRegexp
  | other (code : String) (unknown : code ∉ operatorCodes)
deriving DecidableEq

namespace OperatorType

def string : OperatorType → String
  | equal => "equal"
  | notEqual => "not_equal"
  | less => "less"
  | lessOrEqual => "less_or_equal"
  | greater => "greater"
  | greaterOrEqual => "greater_or_equal"
  | between => "between"
  | notBetween => "not_between"
  | isEmpty => "is_empty"
  | isNotEmpty => "is_not_empty"
  | contains => "contains"
  | notContains => "not_contains"
  | startsWith => "starts_with"
  | endsWith => "ends_with"
  | .in => "select_any_in"
  | notIn => "select_not_any_in"
  | matchRegexp => "match_regexp"
  | other code _ => code

def declared : List OperatorType :=
  [equal, notEqual, less, lessOrEqual, greater, greaterOrEqual, between, notBetween, isEmpty,
    isNotEmpty, contains, notContains, startsWith, endsWith, .in, notIn, matchRegexp]

def ofString (code : String) : OperatorType :=
  if unknown : code ∉ operatorCodes then other code unknown
  else (declared.find? (·.string == code)).getD equal

theorem ofString_string (op : OperatorType) : ofString op.string = op := by
  cases op with
  | other code unknown => exact dif_pos unknown
  | _ => decide

/-- `isUnaryOperator`. -/
def isUnary : OperatorType → Bool
  | isEmpty => true
  | isNotEmpty => true
  | _ => false

end OperatorType

def conjunctionCodes : List String := ["and", "or"]

inductive Conjunction where
  | and | or
  | other (code : String) (unknown : code ∉ conjunctionCodes)
deriving DecidableEq

namespace Conjunction

def string : Conjunction → String
  | .and => "and"
  | .or => "or"
  | other code _ => code

def ofString (code : String) : Conjunction :=
  if unknown : code ∉ conjunctionCodes then other code unknown
  else if code = "and" then .and
  else .or

theorem ofString_string (conjunction : Conjunction) :
    ofString conjunction.string = conjunction := by
  cases conjunction with
  | other code unknown => exact dif_pos unknown
  | _ => decide

end Conjunction

def valueTypeCodes : List String := ["value", "field", "func"]

inductive ValueType where
  | value | field | func
  | other (code : String) (unknown : code ∉ valueTypeCodes)
deriving DecidableEq

namespace ValueType

def string : ValueType → String
  | value => "value"
  | field => "field"
  | func => "func"
  | other code _ => code

def ofString (code : String) : ValueType :=
  if unknown : code ∉ valueTypeCodes then other code unknown
  else if code = "value" then value
  else if code = "field" then field
  else func

theorem ofString_string (type : ValueType) : ofString type.string = type := by
  cases type with
  | other code unknown => exact dif_pos unknown
  | _ => decide

end ValueType

/-! ## Values -/

/-- The types the language leaves abstract here: floating-point numbers, instants, and the
values of types that the evaluator reaches by reflection only. -/
structure GoTypes where
  Float64 : Type
  /-- Neither infinite nor not a number. -/
  finite : Float64 → Bool
  /-- `float64(n)` of an integer. -/
  ofInt : Int → Float64
  finite_ofInt : ∀ n, finite (ofInt n) = true
  Time : Type
  Other : Type

namespace GoTypes

/-- The numbers a JSON text can hold. -/
def Finite (G : GoTypes) : Type := { f : G.Float64 // G.finite f = true }

end GoTypes

abbrev JsonTree (G : GoTypes) : Type := Json G.Finite

mutual

/-- A Go `any`.  A rule or a group stands for the struct or a pointer to it, which the
evaluator treats alike; the entries of a map are in the order of its keys. -/
inductive Value (G : GoTypes) : Type
  | nil
  | bool (b : Bool)
  | string (s : String)
  /-- Any of the integer types. -/
  | int (n : Int)
  | float (f : G.Float64)
  | time (t : G.Time)
  /-- `[]any`. -/
  | list (items : List (Value G))
  /-- A slice or an array with another element type, bytes excepted. -/
  | slice (items : List (Value G))
  /-- `map[string]any`. -/
  | object (entries : List (String × Value G))
  | expression (e : Expression G)
  | rule (r : ConditionRule G)
  | group (g : ConditionGroup G)
  | other (o : G.Other)

structure FuncCall (G : GoTypes) : Type where
  type : String
  args : List (Value G)

structure Expression (G : GoTypes) : Type where
  type : ValueType
  value : Value G
  field : String
  func : Option (FuncCall G)

/-- A rule; `formula` is its `If`. -/
structure ConditionRule (G : GoTypes) : Type where
  id : String
  left : Expression G
  op : OperatorType
  right : Value G
  formula : String

/-- A group; `formula` is its `If`. -/
structure ConditionGroup (G : GoTypes) : Type where
  id : String
  conjunction : Conjunction
  not : Bool
  children : List (Value G)
  formula : String

end

namespace Value

variable {G : GoTypes}

def isNil : Value G → Bool
  | nil => true
  | _ => false

/-- The dynamic type is `[]any`. -/
def isList : Value G → Bool
  | list _ => true
  | _ => false

end Value

/-- What the evaluator calls of the language's library on the types left abstract. -/
structure GoLibrary (G : GoTypes) where
  /-- `<` on floating-point numbers. -/
  less : G.Float64 → G.Float64 → Bool
  /-- `%v` of a floating-point number. -/
  formatFloat : G.Float64 → String
  /-- `time.Parse` of a layout and a text. -/
  parse : String → String → Option G.Time
  before : G.Time → G.Time → Bool
  /-- `%v` of an instant. -/
  formatTime : G.Time → String
  marshalTime : G.Time → Option String
  /-- `%v` of a struct, a pointer to one, or a value of another type. -/
  formatStruct : Value G → String
  /-- `%T`. -/
  formatType : Value G → String
  /-- The number a `float32` is. -/
  float32 : G.Other → Option G.Float64
  /-- A text, array, slice or map without content, or a nil pointer. -/
  isEmptyOther : G.Other → Bool
  /-- The items of an array or slice. -/
  itemsOther : G.Other → Option (List (Value G))
  marshalOther : G.Other → Option (JsonTree G)
  /-- The fields of a struct or of a pointer to one. -/
  structField : Value G → Option (String → Option (Value G))

/-! ## An instance to run -/

/-- Whole numbers for the floating-point ones, and counted seconds for instants. -/
def wholeTypes : GoTypes where
  Float64 := Int
  finite _ := true
  ofInt n := n
  finite_ofInt _ := rfl
  Time := Nat
  Other := Empty

def wholeLibrary : GoLibrary wholeTypes where
  less := fun (left right : Int) => decide (left < right)
  formatFloat := fun (f : Int) => toString f
  parse _ _ := none
  before := fun (left right : Nat) => decide (left < right)
  formatTime := fun (t : Nat) => toString t
  marshalTime _ := none
  formatStruct _ := "{}"
  formatType _ := "any"
  float32 := nofun
  isEmptyOther := nofun
  itemsOther := nofun
  marshalOther := nofun
  structField _ := none

end ErpFinance.Condition
