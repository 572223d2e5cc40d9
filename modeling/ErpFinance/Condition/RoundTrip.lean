import ErpFinance.Condition.Json

/-!
# Structs and their JSON

Groups, rules and expressions decode from their own JSON to themselves, up to
what JSON does to the values, the arguments and the children in them.
-/

namespace ErpFinance.Condition

open Library (Json)

variable {G : GoTypes} {go : GoLibrary G}

section Structs

variable {α : Type} {member : α → String → JsonTree G → Option α} {target middle result : α}
  {name : String} {tree : JsonTree G}

def setMembers (member : α → String → JsonTree G → Option α) (target : α)
    (members : List (String × JsonTree G)) : Option α :=
  members.foldlM (fun old entry => member old entry.1 entry.2) target

theorem setMembers_append {first rest : List (String × JsonTree G)}
    (before : setMembers member target first = some middle)
    (after : setMembers member middle rest = some result) :
    setMembers member target (first ++ rest) = some result := by
  unfold setMembers at before after ⊢
  rw [List.foldlM_append, before]
  exact after

theorem setMembers_single (sets : member target name tree = some result) :
    setMembers member target [(name, tree)] = some result := by
  unfold setMembers
  rw [List.foldlM_cons, sets]
  rfl

theorem setMembers_cons {rest : List (String × JsonTree G)}
    (sets : member target name tree = some middle)
    (after : setMembers member middle rest = some result) :
    setMembers member target ((name, tree) :: rest) = some result :=
  setMembers_append (setMembers_single sets) after

/-- A member that may be left out: what it would set is already there when it is. -/
theorem setMembers_omitEmpty {empty : Bool} (absent : empty = true → target = result)
    (present : empty = false → member target name tree = some result) :
    setMembers member target (Json.omitEmpty empty name tree) = some result := by
  cases empty with
  | true =>
    rw [Json.omitEmpty, if_pos rfl, absent rfl]
    rfl
  | false =>
    rw [Json.omitEmpty, if_neg Bool.false_ne_true]
    exact setMembers_single (present rfl)

end Structs

/-- Nil encodes to null, which decodes to nil. -/
theorem unmarshalAny_of_isNil {value : Value G} {tree : JsonTree G} (isNil : value.isNil = true)
    (encoded : marshal go value = some tree) : unmarshalAny tree = .nil := by
  cases value with
  | nil =>
    obtain rfl := Option.some.inj encoded
    rfl
  | _ => nomatch isNil

/-- A function call whose arguments went through JSON. -/
def DecodedFunc (go : GoLibrary G) (func decoded : Option (FuncCall G)) : Prop :=
  match func with
  | none => decoded = none
  | some call => ∃ args, marshalItems go call.args = some args ∧
      decoded = some ⟨call.type, unmarshalItems args⟩

/-- An expression whose value and arguments went through JSON. -/
structure DecodedExpression (go : GoLibrary G) (e decoded : Expression G) : Prop where
  type : decoded.type = e.type
  value : ∃ tree, marshal go e.value = some tree ∧ decoded.value = unmarshalAny tree
  field : decoded.field = e.field
  func : DecodedFunc go e.func decoded.func

theorem unmarshalFunc_marshalFunc {func : Option (FuncCall G)} {tree : JsonTree G}
    (encoded : marshalFunc go func = some tree) :
    ∃ decoded, unmarshalFunc none tree = some decoded ∧ DecodedFunc go func decoded := by
  cases func with
  | none =>
    obtain rfl := Option.some.inj encoded
    exact ⟨none, rfl, rfl⟩
  | some call =>
    obtain ⟨type, args⟩ := call
    obtain ⟨argTrees, encodedArgs, same⟩ := Option.bind_eq_some_iff.mp encoded
    obtain rfl := Option.some.inj same
    have typeSet : FuncCall.empty.setMember "type" (.string type) =
        some (⟨type, []⟩ : FuncCall G) := rfl
    have sets : unmarshalStruct FuncCall.setMember FuncCall.empty
        (.object [("type", .string type), ("args", .array argTrees)]) =
        some ⟨type, unmarshalItems argTrees⟩ :=
      setMembers_cons typeSet (setMembers_single rfl)
    exact ⟨some ⟨type, unmarshalItems argTrees⟩, congrArg (Option.map some) sets, argTrees,
      encodedArgs, rfl⟩

theorem unmarshalExpression_marshalExpression {e : Expression G} {tree : JsonTree G}
    (encoded : marshalExpression go e = some tree) :
    ∃ members decoded, tree = .object members ∧
      unmarshalExpression Expression.empty tree = some decoded ∧
      DecodedExpression go e decoded := by
  obtain ⟨type, value, field, func⟩ := e
  obtain ⟨valueTree, encodedValue, encodedRest⟩ := Option.bind_eq_some_iff.mp encoded
  obtain ⟨funcTree, encodedFunc, same⟩ := Option.bind_eq_some_iff.mp encodedRest
  obtain rfl := Option.some.inj same
  obtain ⟨func', decodes, agrees⟩ := unmarshalFunc_marshalFunc encodedFunc
  have typeSet : Expression.empty.setMember "type" (.string type.string) =
      some (⟨type, .nil, "", none⟩ : Expression G) :=
    congrArg (fun type => some (⟨type, .nil, "", none⟩ : Expression G))
      (ValueType.ofString_string type)
  have funcSet : Expression.setMember ⟨type, unmarshalAny valueTree, field, none⟩ "func" funcTree =
      some ⟨type, unmarshalAny valueTree, field, func'⟩ :=
    congrArg (Option.map fun func => (⟨type, unmarshalAny valueTree, field, func⟩ : Expression G))
      decodes
  refine ⟨_, ⟨type, unmarshalAny valueTree, field, func'⟩, rfl, ?_,
    ⟨rfl, ⟨valueTree, encodedValue, rfl⟩, rfl, agrees⟩⟩
  refine setMembers_append (setMembers_append (setMembers_append (setMembers_single typeSet)
    (setMembers_omitEmpty (fun isNil => ?_) fun _ => rfl))
    (setMembers_omitEmpty (fun isEmpty => ?_) fun _ => rfl))
    (setMembers_omitEmpty (fun isNone => ?_) fun _ => funcSet)
  · rw [unmarshalAny_of_isNil isNil encodedValue]
  · rw [beq_iff_eq.mp isEmpty]
  · obtain rfl := Option.isNone_iff_eq_none.mp isNone
    rw [show func' = none from agrees]

/-- A rule whose operands went through JSON. -/
structure DecodedRule (go : GoLibrary G) (r decoded : ConditionRule G) : Prop where
  id : decoded.id = r.id
  left : DecodedExpression go r.left decoded.left
  op : decoded.op = r.op
  right : ∃ tree, marshal go r.right = some tree ∧ decoded.right = unmarshalAny tree
  formula : decoded.formula = r.formula

theorem unmarshalRule_marshalRule {r : ConditionRule G} {tree : JsonTree G}
    (encoded : marshalRule go r = some tree) :
    ∃ members decoded, tree = .object members ∧ members.lookup "conjunction" = none ∧
      unmarshalRule ConditionRule.empty tree = some decoded ∧ DecodedRule go r decoded := by
  obtain ⟨id, left, op, right, formula⟩ := r
  obtain ⟨leftTree, encodedLeft, encodedRest⟩ := Option.bind_eq_some_iff.mp encoded
  obtain ⟨rightTree, encodedRight, same⟩ := Option.bind_eq_some_iff.mp encodedRest
  obtain rfl := Option.some.inj same
  obtain ⟨-, left', -, decodes, agrees⟩ := unmarshalExpression_marshalExpression encodedLeft
  let started (left : Expression G) (op : OperatorType) : ConditionRule G :=
    ⟨id, left, op, .nil, ""⟩
  have idSet : ConditionRule.empty.setMember "id" (.string id) =
      some (started Expression.empty (.other "" empty_notMem_operatorCodes)) := rfl
  have leftSet : (started Expression.empty (.other "" empty_notMem_operatorCodes)).setMember
      "left" leftTree = some (started left' (.other "" empty_notMem_operatorCodes)) :=
    congrArg (Option.map fun left => started left (.other "" empty_notMem_operatorCodes)) decodes
  have opSet : (started left' (.other "" empty_notMem_operatorCodes)).setMember "op"
      (.string op.string) = some (started left' op) :=
    congrArg (fun op => some (started left' op)) (OperatorType.ofString_string op)
  refine ⟨_, ⟨id, left', op, unmarshalAny rightTree, formula⟩, rfl, ?_, ?_,
    ⟨rfl, agrees, rfl, ⟨rightTree, encodedRight, rfl⟩, rfl⟩⟩
  · cases right.isNil <;> cases formula == "" <;> rfl
  · refine setMembers_append (setMembers_append
      (setMembers_cons idSet (setMembers_cons leftSet (setMembers_single opSet)))
      (setMembers_omitEmpty (fun isNil => ?_) fun _ => rfl))
      (setMembers_omitEmpty (fun isEmpty => ?_) fun _ => rfl)
    · rw [unmarshalAny_of_isNil isNil encodedRight]
    · rw [beq_iff_eq.mp isEmpty]

theorem unmarshalGroup_marshalGroup {g : ConditionGroup G} {tree : JsonTree G}
    (encoded : marshalGroup go g = some tree) :
    ∃ members children, tree = .object members ∧ (members.lookup "conjunction").isSome = true ∧
      marshalItems go g.children = some children ∧
      unmarshalGroup ConditionGroup.empty tree =
        some { g with children := unmarshalItems children } := by
  obtain ⟨id, conjunction, not, children, formula⟩ := g
  obtain ⟨childTrees, encodedChildren, same⟩ := Option.bind_eq_some_iff.mp encoded
  obtain rfl := Option.some.inj same
  have idSet : ConditionGroup.empty.setMember "id" (.string id) =
      some { (ConditionGroup.empty : ConditionGroup G) with id } := rfl
  have conjunctionSet : ConditionGroup.setMember { ConditionGroup.empty with id } "conjunction"
      (.string conjunction.string) = some (⟨id, conjunction, false, [], ""⟩ : ConditionGroup G) :=
    congrArg (fun conjunction => some (⟨id, conjunction, false, [], ""⟩ : ConditionGroup G))
      (Conjunction.ofString_string conjunction)
  have childrenSet : ConditionGroup.setMember ⟨id, conjunction, not, [], ""⟩ "children"
      (.array childTrees) =
      some (⟨id, conjunction, not, unmarshalItems childTrees, ""⟩ : ConditionGroup G) := rfl
  refine ⟨_, childTrees, rfl, ?_, encodedChildren, ?_⟩
  · rfl
  · refine setMembers_append (setMembers_append (setMembers_append
      (setMembers_cons idSet (setMembers_single conjunctionSet))
      (setMembers_omitEmpty (fun isFalse => ?_) fun _ => rfl))
      (setMembers_single childrenSet)) (setMembers_omitEmpty (fun isEmpty => ?_) fun _ => rfl)
    · rw [(Bool.not_eq_true' not).mp isFalse]
    · rw [beq_iff_eq.mp isEmpty]

end ErpFinance.Condition
