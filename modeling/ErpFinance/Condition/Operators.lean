import ErpFinance.Condition.Value
import ErpFinance.Library.Text

/-!
# Comparison of values

The helper functions of the evaluator: how a value prints, when it is empty,
and how two values compare.  A comparison is negative, zero or positive.
-/

namespace ErpFinance.Condition

open Library (contains hasPrefix hasSuffix)

variable {G : GoTypes} (go : GoLibrary G)

mutual

/-- `fmt.Sprintf("%v")`. -/
def sprint : Value G → String
  | .nil => "<nil>"
  | .bool b => if b then "true" else "false"
  | .string s => s
  | .int n => toString n
  | .float f => go.formatFloat f
  | .time t => go.formatTime t
  | .list items => "[" ++ " ".intercalate (sprintItems items) ++ "]"
  | .slice items => "[" ++ " ".intercalate (sprintItems items) ++ "]"
  | .object entries => "map[" ++ " ".intercalate (sprintEntries entries) ++ "]"
  | value => go.formatStruct value

def sprintItems : List (Value G) → List String
  | [] => []
  | item :: rest => sprint item :: sprintItems rest

def sprintEntries : List (String × Value G) → List String
  | [] => []
  | (name, value) :: rest => (name ++ ":" ++ sprint value) :: sprintEntries rest

end

/-- `isEmpty`: the kinds of value that reflection knows a length of, and nil. -/
def isEmpty : Value G → Bool
  | .nil => true
  | .string s => s == ""
  | .list items => items.isEmpty
  | .slice items => items.isEmpty
  | .object entries => entries.isEmpty
  | .other o => go.isEmptyOther o
  | _ => false

def toFloat64 : Value G → Option G.Float64
  | .int n => some (G.ofInt n)
  | .float f => some f
  | .other o => go.float32 o
  | _ => none

/-- The layouts of `toTime`, in the order in which they are tried. -/
def timeFormats : List String :=
  ["2006-01-02T15:04:05Z07:00", "2006-01-02T15:04:05.999999999Z07:00", "2006-01-02T15:04:05",
    "2006-01-02", "15:04:05", "2006-01-02 15:04:05"]

def toTime : Value G → Option G.Time
  | .time t => some t
  | .string s => timeFormats.findSome? (go.parse · s)
  | _ => none

/-- The type assertion `.(bool)`. -/
def toBool : Value G → Option Bool
  | .bool b => some b
  | _ => none

def compareFloats (left right : G.Float64) : Int :=
  if go.less left right then -1 else if go.less right left then 1 else 0

def compareTimes (left right : G.Time) : Int :=
  if go.before left right then -1 else if go.before right left then 1 else 0

def compareBools (left right : Bool) : Int :=
  if left = right then 0 else if !left && right then -1 else 1

/-- `strings.Compare`. -/
def compareStrings (left right : String) : Int :=
  if left = right then 0 else if left < right then -1 else 1

def compare (left right : Value G) : Int :=
  if left.isNil && right.isNil then 0
  else if left.isNil then -1
  else if right.isNil then 1
  else match toFloat64 go left, toFloat64 go right with
    | some leftNum, some rightNum => compareFloats go leftNum rightNum
    | _, _ => match toTime go left, toTime go right with
      | some leftTime, some rightTime => compareTimes go leftTime rightTime
      | _, _ => match toBool left, toBool right with
        | some leftBool, some rightBool => compareBools leftBool rightBool
        | _, _ => compareStrings (sprint go left) (sprint go right)

/-- The items that reflection finds in a slice or an array. -/
def reflectItems : Value G → Option (List (Value G))
  | .list items => some items
  | .slice items => some items
  | .other o => go.itemsOther o
  | _ => none

/-- `contains`. -/
def containsValue (haystack needle : Value G) : Bool :=
  if haystack.isNil || needle.isNil then false
  else match reflectItems go haystack with
    | some items => items.any fun item => contains (sprint go item) (sprint go needle)
    | none => contains (sprint go haystack) (sprint go needle)

def startsWith (str start : Value G) : Bool :=
  if str.isNil || start.isNil then false
  else hasPrefix (sprint go str) (sprint go start)

def endsWith (str ending : Value G) : Bool :=
  if str.isNil || ending.isNil then false
  else hasSuffix (sprint go str) (sprint go ending)

/-- `in`. -/
def inValues (needle : Value G) (haystack : List (Value G)) : Bool :=
  haystack.any fun item => compare go needle item == 0

/-! ## What the helpers read of a value -/

/-- Two values are read alike when no helper function can tell them apart: the same number,
instant and boolean, the same texts, and both or neither nil, empty or a slice. -/
structure ReadAlike (value other : Value G) : Prop where
  null : value.isNil = other.isNil
  empty : isEmpty go value = isEmpty go other
  float : toFloat64 go value = toFloat64 go other
  time : toTime go value = toTime go other
  bool : toBool value = toBool other
  text : sprint go value = sprint go other
  items : (reflectItems go value).map (·.map (sprint go)) =
    (reflectItems go other).map (·.map (sprint go))

variable {go}

namespace ReadAlike

theorem refl (value : Value G) : ReadAlike go value value := ⟨rfl, rfl, rfl, rfl, rfl, rfl, rfl⟩

variable {left left' right right' : Value G}

theorem compare_eq (first : ReadAlike go left left') (second : ReadAlike go right right') :
    compare go left right = compare go left' right' := by
  simp only [compare, first.null, first.float, first.time, first.bool, first.text,
    second.null, second.float, second.time, second.bool, second.text]

theorem startsWith_eq (first : ReadAlike go left left') (second : ReadAlike go right right') :
    startsWith go left right = startsWith go left' right' := by
  simp only [startsWith, first.null, first.text, second.null, second.text]

theorem endsWith_eq (first : ReadAlike go left left') (second : ReadAlike go right right') :
    endsWith go left right = endsWith go left' right' := by
  simp only [endsWith, first.null, first.text, second.null, second.text]

theorem containsValue_eq (first : ReadAlike go left left') (second : ReadAlike go right right') :
    containsValue go left right = containsValue go left' right' := by
  have items := first.items
  simp only [containsValue, first.null, first.text, second.null, second.text]
  congr 1
  cases found : reflectItems go left with
  | none =>
    rw [found, Option.map_none] at items
    rw [Option.map_eq_none_iff.mp items.symm]
  | some leftItems =>
    rw [found, Option.map_some] at items
    obtain ⟨others, found', same⟩ := Option.map_eq_some_iff.mp items.symm
    have texts (list : List (Value G)) :
        (list.any fun item => contains (sprint go item) (sprint go right')) =
          (list.map (sprint go)).any (contains · (sprint go right')) := by
      rw [List.any_map]
      rfl
    rw [found']
    simp only [texts, same]

theorem inValues_eq (needle : ReadAlike go left left') {haystack haystack' : List (Value G)}
    (each : List.Forall₂ (ReadAlike go) haystack haystack') :
    inValues go left haystack = inValues go left' haystack' := by
  induction each with
  | nil => rfl
  | cons head tail ih =>
    have rest := ih
    simp only [inValues] at rest
    simp only [inValues, List.any_cons, needle.compare_eq head, rest]

end ReadAlike

end ErpFinance.Condition
