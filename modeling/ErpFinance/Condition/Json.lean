import ErpFinance.Condition.Value
import ErpFinance.Library.Text

/-!
# JSON of conditions

`json.Marshal` and `json.Unmarshal` on the values of a condition, and
`mapToStruct`.  A text is taken as the tree it denotes.  Decoding a struct goes
through the members of an object in their order, as the library does: a name
that occurs twice is decoded twice.
-/

namespace ErpFinance.Condition

open Library (Json equalFold)

variable {G : GoTypes}

/-! ## Encoding -/

section Marshal

variable (go : GoLibrary G)

mutual

/-- `json.Marshal`; no tree is its error. -/
def marshal : Value G → Option (JsonTree G)
  | .nil => some .null
  | .bool b => some (.bool b)
  | .string s => some (.string s)
  | .int n => some (.number ⟨G.ofInt n, G.finite_ofInt n⟩)
  | .float f => if finite : G.finite f = true then some (.number ⟨f, finite⟩) else none
  | .time t => (go.marshalTime t).map .string
  | .list items => (marshalItems items).map .array
  | .slice items => (marshalItems items).map .array
  | .object entries => (marshalEntries entries).map .object
  | .expression e => marshalExpression e
  | .rule r => marshalRule r
  | .group g => marshalGroup g
  | .other o => go.marshalOther o

def marshalItems : List (Value G) → Option (List (JsonTree G))
  | [] => some []
  | item :: rest => do
      let first ← marshal item
      let others ← marshalItems rest
      return first :: others

def marshalEntries : List (String × Value G) → Option (List (String × JsonTree G))
  | [] => some []
  | (name, value) :: rest => do
      let first ← marshal value
      let others ← marshalEntries rest
      return (name, first) :: others

def marshalFunc : Option (FuncCall G) → Option (JsonTree G)
  | none => some .null
  | some ⟨type, args⟩ => do
      let args ← marshalItems args
      return .object [("type", .string type), ("args", .array args)]

def marshalExpression : Expression G → Option (JsonTree G)
  | ⟨type, value, field, func⟩ => do
      let valueTree ← marshal value
      let funcTree ← marshalFunc func
      return .object ([("type", .string type.string)]
        ++ Json.omitEmpty value.isNil "value" valueTree
        ++ Json.omitEmpty (field == "") "field" (.string field)
        ++ Json.omitEmpty func.isNone "func" funcTree)

def marshalRule : ConditionRule G → Option (JsonTree G)
  | ⟨id, left, op, right, formula⟩ => do
      let leftTree ← marshalExpression left
      let rightTree ← marshal right
      return .object ([("id", .string id), ("left", leftTree), ("op", .string op.string)]
        ++ Json.omitEmpty right.isNil "right" rightTree
        ++ Json.omitEmpty (formula == "") "if" (.string formula))

def marshalGroup : ConditionGroup G → Option (JsonTree G)
  | ⟨id, conjunction, not, children, formula⟩ => do
      let childTrees ← marshalItems children
      return .object ([("id", .string id), ("conjunction", .string conjunction.string)]
        ++ Json.omitEmpty (!not) "not" (.bool not)
        ++ [("children", .array childTrees)]
        ++ Json.omitEmpty (formula == "") "if" (.string formula))

end

end Marshal

/-! ## Decoding -/

mutual

/-- `json.Unmarshal` into an `any`. -/
def unmarshalAny : JsonTree G → Value G
  | .null => .nil
  | .bool b => .bool b
  | .number n => .float n.val
  | .string s => .string s
  | .array items => .list (unmarshalItems items)
  | .object members => .object (unmarshalMembers members)

def unmarshalItems : List (JsonTree G) → List (Value G)
  | [] => []
  | item :: rest => unmarshalAny item :: unmarshalItems rest

def unmarshalMembers : List (String × JsonTree G) → List (String × Value G)
  | [] => []
  | (name, value) :: rest => (name, unmarshalAny value) :: unmarshalMembers rest

end

/-- A string field keeps its content at a null. -/
def unmarshalString (old : String) : JsonTree G → Option String
  | .null => some old
  | .string s => some s
  | _ => none

def unmarshalBool (old : Bool) : JsonTree G → Option Bool
  | .null => some old
  | .bool b => some b
  | _ => none

/-- A field of type `[]any`. -/
def unmarshalSlice : JsonTree G → Option (List (Value G))
  | .null => some []
  | .array items => some (unmarshalItems items)
  | _ => none

/-- Decode the members of an object into a struct, one after the other; null leaves it. -/
def unmarshalStruct {α : Type} (member : α → String → JsonTree G → Option α) (old : α) :
    JsonTree G → Option α
  | .null => some old
  | .object members => members.foldlM (fun target entry => member target entry.1 entry.2) old
  | _ => none

def FuncCall.empty : FuncCall G := ⟨"", []⟩

/-- Decode one member of an object into the field it names. -/
def FuncCall.setMember (call : FuncCall G) (name : String) (tree : JsonTree G) :
    Option (FuncCall G) :=
  if equalFold name "type" then (unmarshalString call.type tree).map fun type => { call with type }
  else if equalFold name "args" then (unmarshalSlice tree).map fun args => { call with args }
  else some call

/-- A pointer to a function call is nil at a null. -/
def unmarshalFunc (old : Option (FuncCall G)) : JsonTree G → Option (Option (FuncCall G))
  | .null => some none
  | tree => (unmarshalStruct FuncCall.setMember (old.getD FuncCall.empty) tree).map some

theorem empty_notMem_valueTypeCodes : "" ∉ valueTypeCodes := by decide

theorem empty_notMem_operatorCodes : "" ∉ operatorCodes := by decide

theorem empty_notMem_conjunctionCodes : "" ∉ conjunctionCodes := by decide

def Expression.empty : Expression G :=
  ⟨.other "" empty_notMem_valueTypeCodes, .nil, "", none⟩

def Expression.setMember (e : Expression G) (name : String) (tree : JsonTree G) :
    Option (Expression G) :=
  if equalFold name "type" then
    (unmarshalString e.type.string tree).map fun code => { e with type := .ofString code }
  else if equalFold name "value" then some { e with value := unmarshalAny tree }
  else if equalFold name "field" then
    (unmarshalString e.field tree).map fun field => { e with field }
  else if equalFold name "func" then (unmarshalFunc e.func tree).map fun func => { e with func }
  else some e

def unmarshalExpression : Expression G → JsonTree G → Option (Expression G) :=
  unmarshalStruct Expression.setMember

def ConditionRule.empty : ConditionRule G :=
  ⟨"", Expression.empty, .other "" empty_notMem_operatorCodes, .nil, ""⟩

def ConditionRule.setMember (r : ConditionRule G) (name : String) (tree : JsonTree G) :
    Option (ConditionRule G) :=
  if equalFold name "id" then (unmarshalString r.id tree).map fun id => { r with id }
  else if equalFold name "left" then
    (unmarshalExpression r.left tree).map fun left => { r with left }
  else if equalFold name "op" then
    (unmarshalString r.op.string tree).map fun code => { r with op := .ofString code }
  else if equalFold name "right" then some { r with right := unmarshalAny tree }
  else if equalFold name "if" then
    (unmarshalString r.formula tree).map fun formula => { r with formula }
  else some r

def unmarshalRule : ConditionRule G → JsonTree G → Option (ConditionRule G) :=
  unmarshalStruct ConditionRule.setMember

def ConditionGroup.empty : ConditionGroup G :=
  ⟨"", .other "" empty_notMem_conjunctionCodes, false, [], ""⟩

def ConditionGroup.setMember (g : ConditionGroup G) (name : String) (tree : JsonTree G) :
    Option (ConditionGroup G) :=
  if equalFold name "id" then (unmarshalString g.id tree).map fun id => { g with id }
  else if equalFold name "conjunction" then
    (unmarshalString g.conjunction.string tree).map fun code =>
      { g with conjunction := .ofString code }
  else if equalFold name "not" then (unmarshalBool g.not tree).map fun not => { g with not }
  else if equalFold name "children" then
    (unmarshalSlice tree).map fun children => { g with children }
  else if equalFold name "if" then
    (unmarshalString g.formula tree).map fun formula => { g with formula }
  else some g

def unmarshalGroup : ConditionGroup G → JsonTree G → Option (ConditionGroup G) :=
  unmarshalStruct ConditionGroup.setMember

/-- `mapToStruct`: the JSON of a map, decoded into a zero struct. -/
def mapToStruct {α : Type} (go : GoLibrary G) (unmarshal : α → JsonTree G → Option α) (zero : α)
    (entries : List (String × Value G)) : Except String α :=
  match marshal go (.object entries) with
  | none => .error "marshal error"
  | some tree =>
    match unmarshal zero tree with
    | none => .error "unmarshal error"
    | some target => .ok target

section RoundTrip

variable {go : GoLibrary G}

theorem unmarshalItems_eq_map (items : List (JsonTree G)) :
    unmarshalItems items = items.map unmarshalAny := by
  induction items with
  | nil => rfl
  | cons item rest ih => rw [unmarshalItems, ih, List.map_cons]

theorem unmarshalMembers_eq_map (members : List (String × JsonTree G)) :
    unmarshalMembers members = members.map fun member => (member.1, unmarshalAny member.2) := by
  induction members with
  | nil => rfl
  | cons member rest ih => rw [unmarshalMembers, ih, List.map_cons]

theorem marshalItems_map {items : List (JsonTree G)}
    (each : ∀ item ∈ items, marshal go (unmarshalAny item) = some item) :
    marshalItems go (items.map unmarshalAny) = some items := by
  induction items with
  | nil => rfl
  | cons item rest ih =>
    obtain ⟨first, others⟩ := List.forall_mem_cons.mp each
    simp only [List.map_cons, marshalItems, first, ih others, Option.bind_eq_bind,
      Option.bind_some, Option.pure_def]

theorem marshalEntries_map {members : List (String × JsonTree G)}
    (each : ∀ member ∈ members, marshal go (unmarshalAny member.2) = some member.2) :
    marshalEntries go (members.map fun member => (member.1, unmarshalAny member.2)) =
      some members := by
  induction members with
  | nil => rfl
  | cons member rest ih =>
    obtain ⟨first, others⟩ := List.forall_mem_cons.mp each
    simp only [List.map_cons, marshalEntries, first, ih others, Option.bind_eq_bind,
      Option.bind_some, Option.pure_def]

/-- A tree decoded into generic values encodes to itself. -/
theorem marshal_unmarshalAny (tree : JsonTree G) : marshal go (unmarshalAny tree) = some tree := by
  induction tree using Json.induction with
  | null => rfl
  | bool b => rfl
  | number n => exact dif_pos n.property
  | string s => rfl
  | array items ih =>
    rw [unmarshalAny, unmarshalItems_eq_map, marshal, marshalItems_map ih, Option.map_some]
  | object members ih =>
    rw [unmarshalAny, unmarshalMembers_eq_map, marshal, marshalEntries_map ih, Option.map_some]

end RoundTrip

end ErpFinance.Condition
