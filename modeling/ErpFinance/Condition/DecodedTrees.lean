import ErpFinance.Condition.Caches
import ErpFinance.Condition.RoundTrip
import ErpFinance.Condition.Simulation

/-!
# Typed trees and decoded trees

A tree of typed groups and rules, beside the tree of generic maps that its JSON
decodes to.  The evaluator has a path of its own for the maps, and tells the
operands of a rule apart by their Go types, which JSON does not keep.  The two
trees have the same result where JSON keeps what the operators read of the
operands.
-/

namespace ErpFinance.Condition

open Library (Json Stateful)
open Library.Stateful (Agree Keeps Relating Simulates)

variable {G : GoTypes} {σ : Type} {scope : Scope G}

/-! ## Operands that JSON keeps -/

section Portable

variable (go : GoLibrary G)

/-- The operators read the value like what its JSON decodes to. -/
def ReadsBack (value : Value G) : Prop :=
  ∀ tree, marshal go value = some tree → ReadAlike go value (unmarshalAny tree)

/-- JSON does not write the value as an object. -/
def NoObject (value : Value G) : Prop :=
  ∀ tree, marshal go value = some tree → tree.isObject = false

/-- A literal reads back; the arguments of a function call are what they decode to. -/
def Expression.Portable (e : Expression G) : Prop :=
  match e.type with
  | .value => ReadsBack go e.value
  | .func => ∀ call, e.func = some call →
      ∀ trees, marshalItems go call.args = some trees → unmarshalItems trees = call.args
  | _ => True

def PortableItem : Value G → Prop
  | .expression e => e.Portable go
  | .object _ => True
  | value => ReadsBack go value ∧ NoObject go value

/-- The right operand of a rule.  A literal that JSON writes as a list or an object would
decode to a list of operands or to an expression. -/
def PortableRight : Value G → Prop
  | .nil => True
  | .expression e => e.Portable go
  | .object _ => True
  | .list items =>
    if (items.headD .nil).isOperand then ∀ item ∈ items, PortableItem go item
    else (∀ item ∈ items, ReadsBack go item) ∧ NoObject go (items.headD .nil)
  | value => ReadsBack go value ∧
      ∀ tree, marshal go value = some tree → tree.isObject = false ∧ tree.isArray = false

/-- A tree whose operands JSON keeps, wherever a formula does not stand for them. -/
inductive PortableTree : Value G → Prop where
  | group (g : ConditionGroup G)
      (children : g.formula = "" → ∀ child ∈ g.children, PortableTree child) :
      PortableTree (.group g)
  | rule (r : ConditionRule G) (left : r.formula = "" → r.left.Portable go)
      (right : r.formula = "" → r.op.isUnary = false → PortableRight go r.right) :
      PortableTree (.rule r)
  | object (entries : List (String × Value G)) : PortableTree (.object entries)

end Portable

variable {go : GoLibrary G}

/-- A value that JSON decodes to reads back: nil, texts, booleans, finite numbers, and lists and
maps of these. -/
theorem readsBack_unmarshalAny (tree : JsonTree G) : ReadsBack go (unmarshalAny tree) := by
  intro other encoded
  rw [marshal_unmarshalAny] at encoded
  obtain rfl := Option.some.inj encoded
  exact .refl _

/-! ## Expressions -/

/-- Both fail, or both have values that read alike. -/
abbrev AgreeAlike (go : GoLibrary G) :
    Except EvalError (Value G) → Except EvalError (Value G) → Prop :=
  Agree (fun _ _ => True) (ReadAlike go)

theorem agreeAlike_refl (outcome : Except EvalError (Value G)) : AgreeAlike go outcome outcome := by
  cases outcome with
  | ok value => exact .ok (.refl value)
  | error error => exact .error trivial

theorem DecodedExpression.validate_eq {e decoded : Expression G}
    (decodes : DecodedExpression go e decoded) : decoded.validate = e.validate := by
  have func := decodes.func
  unfold Expression.validate
  rw [decodes.type, decodes.field]
  cases found : e.func with
  | none =>
    rw [found] at func
    rw [show decoded.func = none from func]
  | some call =>
    rw [found] at func
    obtain ⟨args, -, same⟩ := func
    rw [same]
    rfl

theorem evaluateExpression_agree {e decoded : Expression G} (portable : e.Portable go)
    (decodes : DecodedExpression go e decoded) :
    AgreeAlike go (evaluateExpression go scope e) (evaluateExpression go scope decoded) := by
  unfold evaluateExpression
  rw [decodes.validate_eq, decodes.type, decodes.field]
  refine Agree.bind (.refl (fun _ => trivial) _) fun _ _ _ => ?_
  unfold Expression.Portable at portable
  cases type : e.type with
  | value =>
    rw [type] at portable
    obtain ⟨tree, encoded, same⟩ := decodes.value
    rw [same]
    exact .ok (portable tree encoded)
  | field => exact agreeAlike_refl _
  | func =>
    rw [type] at portable
    have func := decodes.func
    cases found : e.func with
    | none =>
      rw [found] at func
      rw [show decoded.func = none from func]
      exact agreeAlike_refl _
    | some call =>
      rw [found] at func
      obtain ⟨args, encoded, same⟩ := func
      rw [same, portable call found args encoded]
      exact agreeAlike_refl _
  | other code unknown => exact agreeAlike_refl _

/-! ## Operands -/

theorem isOperand_unmarshalAny (tree : JsonTree G) :
    (unmarshalAny tree).isOperand = tree.isObject := by
  cases tree <;> rfl

theorem isList_unmarshalAny (tree : JsonTree G) : (unmarshalAny tree).isList = tree.isArray := by
  cases tree <;> rfl

theorem object_unmarshalMembers (members : List (String × JsonTree G)) :
    Value.object (unmarshalMembers members) = unmarshalAny (.object members) := rfl

variable {members : List (String × JsonTree G)} {entries : List (String × Value G)} {α : Type}

theorem mapToStruct_unmarshalMembers (unmarshal : α → JsonTree G → Option α) (zero : α)
    (encoded : marshal go (.object entries) = some (.object members)) :
    mapToStruct go unmarshal zero (unmarshalMembers members) =
      mapToStruct go unmarshal zero entries := by
  unfold mapToStruct
  rw [encoded, object_unmarshalMembers, marshal_unmarshalAny]

theorem mapToStruct_of_decodes {unmarshal : α → JsonTree G → Option α} {zero target : α}
    (decodes : unmarshal zero (.object members) = some target) :
    mapToStruct go unmarshal zero (unmarshalMembers members) = .ok target := by
  unfold mapToStruct
  rw [object_unmarshalMembers, marshal_unmarshalAny]
  dsimp only
  rw [decodes]

variable {tree : JsonTree G}

theorem marshal_object (encoded : marshal go (.object entries) = some tree) :
    ∃ members, tree = .object members := by
  obtain ⟨members, -, same⟩ := Option.map_eq_some_iff.mp encoded
  exact ⟨members, same.symm⟩

variable {value : Value G}

theorem isObject_of_isOperand (operand : value.isOperand = true)
    (encoded : marshal go value = some tree) :
    tree.isObject = true := by
  cases value with
  | expression e =>
    obtain ⟨members, -, rfl, -⟩ := unmarshalExpression_marshalExpression encoded
    rfl
  | object entries =>
    obtain ⟨members, rfl⟩ := marshal_object encoded
    rfl
  | _ => nomatch operand

variable {items : List (Value G)} {trees : List (JsonTree G)}

theorem forall₂_marshalItems (encoded : marshalItems go items = some trees) :
    List.Forall₂ (fun item tree => marshal go item = some tree) items trees := by
  induction items generalizing trees with
  | nil =>
    obtain rfl := Option.some.inj encoded
    exact .nil
  | cons item rest ih =>
    obtain ⟨first, encodedFirst, encodedRest⟩ := Option.bind_eq_some_iff.mp encoded
    obtain ⟨others, encodedOthers, same⟩ := Option.bind_eq_some_iff.mp encodedRest
    obtain rfl := Option.some.inj same
    exact .cons encodedFirst (ih encodedOthers)

theorem evaluateOperand_of_not_operand (literal : value.isOperand = false) :
    evaluateOperand go scope value = .ok value := by
  cases value with
  | expression e => nomatch literal
  | object entries => nomatch literal
  | _ => rfl

theorem evaluateOperand_literal (literal : value.isOperand = false) (reads : ReadsBack go value)
    (noObject : NoObject go value) (encoded : marshal go value = some tree) :
    AgreeAlike go (evaluateOperand go scope value)
      (evaluateOperand go scope (unmarshalAny tree)) := by
  rw [evaluateOperand_of_not_operand literal, evaluateOperand_of_not_operand
    ((isOperand_unmarshalAny tree).trans (noObject tree encoded))]
  exact .ok (reads tree encoded)

theorem evaluateOperand_agree {item : Value G} (portable : PortableItem go item)
    (encoded : marshal go item = some tree) :
    AgreeAlike go (evaluateOperand go scope item)
      (evaluateOperand go scope (unmarshalAny tree)) := by
  cases item with
  | expression e =>
    obtain ⟨members, decoded, rfl, decodes, agrees⟩ :=
      unmarshalExpression_marshalExpression encoded
    have found : toExpression go (.object (unmarshalMembers members)) = .ok decoded :=
      congrArg (Except.mapError _) (mapToStruct_of_decodes decodes)
    have operand : evaluateOperand go scope (.object (unmarshalMembers members)) =
        evaluateExpression go scope decoded := by
      rw [evaluateOperand, found]
      rfl
    exact operand ▸ evaluateExpression_agree portable agrees
  | object entries =>
    obtain ⟨members, rfl⟩ := marshal_object encoded
    have same : evaluateOperand go scope (unmarshalAny (.object members)) =
        evaluateOperand go scope (.object entries) :=
      congrArg (fun outcome => (outcome.mapError fun message =>
        EvalError.new ("invalid expression: " ++ message)) >>= evaluateExpression go scope)
        (mapToStruct_unmarshalMembers unmarshalExpression Expression.empty encoded)
    exact same ▸ agreeAlike_refl _
  | _ => exact evaluateOperand_literal rfl portable.1 portable.2 encoded

theorem evaluateRightExpression_literal (present : value.isNil = false)
    (noList : value.isList = false) (literal : value.isOperand = false) :
    evaluateRightExpression go scope value = .ok [value] := by
  cases value with
  | nil => nomatch present
  | list items => nomatch noList
  | expression e => nomatch literal
  | object entries => nomatch literal
  | _ => rfl

theorem marshal_list (encoded : marshal go (.list items) = some tree) :
    ∃ trees, tree = .array trees ∧
      List.Forall₂ (fun item tree => marshal go item = some tree) items trees := by
  obtain ⟨trees, encodedItems, same⟩ := Option.map_eq_some_iff.mp encoded
  exact ⟨trees, same.symm, forall₂_marshalItems encodedItems⟩

theorem marshal_headD
    (each : List.Forall₂ (fun item tree => marshal go item = some tree) items trees) :
    marshal go (items.headD .nil) = some (trees.headD .null) := by
  cases each with
  | nil => rfl
  | cons head tail => exact head

theorem evaluateOperands_agree (portable : ∀ item ∈ items, PortableItem go item)
    (each : List.Forall₂ (fun item tree => marshal go item = some tree) items trees) :
    Agree (fun _ _ => True) (List.Forall₂ (ReadAlike go))
      (items.zipIdx.mapM fun entry =>
        (evaluateOperand go scope entry.1).mapError (EvalError.wrap ("item " ++ toString entry.2)))
      ((unmarshalItems trees).zipIdx.mapM fun entry =>
        (evaluateOperand go scope entry.1).mapError
          (EvalError.wrap ("item " ++ toString entry.2))) := by
  have operands : List.Forall₂ (fun item decoded =>
      AgreeAlike go (evaluateOperand go scope item) (evaluateOperand go scope decoded))
      items (unmarshalItems trees) := by
    rw [unmarshalItems_eq_map, List.forall₂_map_right_iff]
    exact ((List.forall₂_and_left items trees).mpr ⟨portable, each⟩).imp
      fun _ _ both => evaluateOperand_agree both.1 both.2
  refine .mapM ((Simulates.forall₂_zipIdx operands 0).imp fun entry entry' related => ?_)
  exact related.1.mapError fun _ _ _ => trivial

theorem evaluateRightExpression_agree {right : Value G} (portable : PortableRight go right)
    (encoded : marshal go right = some tree) :
    Agree (fun _ _ => True) (List.Forall₂ (ReadAlike go)) (evaluateRightExpression go scope right)
      (evaluateRightExpression go scope (unmarshalAny tree)) := by
  have single {item : Value G} {itemTree : JsonTree G} (one : PortableItem go item)
      (encodes : marshal go item = some itemTree) :
      Agree (fun _ _ => True) (List.Forall₂ (ReadAlike go))
        (do let value ← evaluateOperand go scope item; return [value])
        (do let value ← evaluateOperand go scope (unmarshalAny itemTree); return [value]) :=
    (evaluateOperand_agree one encodes).bind fun _ _ alike => .ok (.cons alike .nil)
  cases right with
  | nil =>
    obtain rfl := Option.some.inj encoded
    exact .error trivial
  | expression e =>
    obtain ⟨members, -, rfl, -, -⟩ := unmarshalExpression_marshalExpression encoded
    exact @single (.expression e) _ portable encoded
  | object entries =>
    obtain ⟨members, rfl⟩ := marshal_object encoded
    exact @single (.object entries) _ trivial encoded
  | list items =>
    obtain ⟨trees, rfl, each⟩ := marshal_list encoded
    have head := marshal_headD each
    have decodedHead : (unmarshalItems trees).headD .nil = unmarshalAny (trees.headD .null) := by
      cases trees <;> rfl
    unfold PortableRight at portable
    unfold unmarshalAny evaluateRightExpression
    dsimp only at portable ⊢
    rw [decodedHead, isOperand_unmarshalAny]
    by_cases operand : (items.headD .nil).isOperand = true
    · rw [if_pos operand] at portable ⊢
      rw [if_pos (isObject_of_isOperand operand head)]
      exact evaluateOperands_agree portable each
    · rw [if_neg operand] at portable ⊢
      rw [if_neg (Bool.eq_false_iff.mp (portable.2 _ head))]
      refine .ok ?_
      rw [unmarshalItems_eq_map, List.forall₂_map_right_iff]
      exact ((List.forall₂_and_left items trees).mpr ⟨portable.1, each⟩).imp
        fun _ tree both => both.1 tree both.2
  | _ =>
    obtain ⟨reads, scalar⟩ := portable
    obtain ⟨noObject, noArray⟩ := scalar tree encoded
    rw [evaluateRightExpression_literal rfl rfl rfl, evaluateRightExpression_literal
      (reads tree encoded).null.symm ((isList_unmarshalAny tree).trans noArray)
      ((isOperand_unmarshalAny tree).trans noObject)]
    exact .ok (.cons (reads tree encoded) .nil)

/-! ## Rules and groups -/

theorem isNil_decoded {right : Value G} (portable : PortableRight go right)
    (encoded : marshal go right = some tree) : (unmarshalAny tree).isNil = right.isNil := by
  cases right with
  | nil =>
    obtain rfl := Option.some.inj encoded
    rfl
  | expression e =>
    obtain ⟨members, -, rfl, -⟩ := unmarshalExpression_marshalExpression encoded
    rfl
  | object entries =>
    obtain ⟨members, rfl⟩ := marshal_object encoded
    rfl
  | list items =>
    obtain ⟨trees, rfl, -⟩ := marshal_list encoded
    rfl
  | _ => exact (portable.1 tree encoded).null.symm

/-- A rule whose operands JSON keeps is evaluated like the rule its JSON decodes to. -/
theorem ruleAlike_decoded {r decoded : ConditionRule G}
    (left : r.formula = "" → r.left.Portable go)
    (right : r.formula = "" → r.op.isUnary = false → PortableRight go r.right)
    (decodes : DecodedRule go r decoded) : RuleAlike go scope (fun _ _ => True) r decoded where
  validate := by
    have same : decoded.validate = r.validate := by
      obtain ⟨tree, encoded, value⟩ := decodes.right
      unfold ConditionRule.validate
      rw [decodes.id, decodes.formula, decodes.left.validate_eq, decodes.op, value]
      by_cases plain : r.formula = ""
      · cases unary : r.op.isUnary with
        | true => rfl
        | false => rw [isNil_decoded (right plain unary) encoded]
      · rw [if_pos plain, if_pos plain]
    exact same ▸ .refl (fun _ => trivial) _
  formula := decodes.formula.symm
  op := decodes.op.symm
  left plain := evaluateExpression_agree (left plain) decodes.left
  right plain binary := by
    obtain ⟨tree, encoded, value⟩ := decodes.right
    exact value ▸ evaluateRightExpression_agree (right plain binary) encoded

theorem isEmpty_unmarshalItems
    (each : List.Forall₂ (fun item tree => marshal go item = some tree) items trees) :
    (unmarshalItems trees).isEmpty = items.isEmpty := by
  cases each <;> rfl

theorem groupAlike_decoded (g : ConditionGroup G) {children : List (JsonTree G)}
    (encoded : marshalItems go g.children = some children) :
    GroupAlike (fun _ _ => True) g { g with children := unmarshalItems children } where
  validate := by
    have same : ConditionGroup.validate { g with children := unmarshalItems children } =
        g.validate := by
      unfold ConditionGroup.validate
      rw [isEmpty_unmarshalItems (forall₂_marshalItems encoded)]
    exact same ▸ .refl (fun _ => trivial) _
  formula := rfl
  conjunction := rfl
  not := rfl

/-! ## Nodes -/

/-- Two evaluations in the same state: the same result, or an error on both sides. -/
def sameState (σ : Type) : Relating σ σ EvalError EvalError :=
  ⟨Eq, fun _ => True, fun _ _ => True⟩

theorem simulates_self (program : Stateful σ EvalError α) :
    Simulates (sameState σ) Eq program program := by
  rintro state _ rfl -
  exact ⟨.refl (fun _ => trivial) _, rfl⟩

theorem effects_self (fx : Effects G σ) : Effects.Simulated (sameState σ) fx fx where
  visit := simulates_self _
  formula _ := simulates_self _
  pattern _ _ := simulates_self _
  keep := .of_true
  refl _ := trivial
  wrap _ _ _ _ _ _ := trivial

variable {fx : Effects G σ} {evaluate : Value G → Stateful σ EvalError Bool}

theorem lookup_unmarshalMembers_isSome (members : List (String × JsonTree G)) (name : String) :
    ((unmarshalMembers members).lookup name).isSome = (members.lookup name).isSome := by
  induction members with
  | nil => rfl
  | cons member rest ih =>
    obtain ⟨key, tree⟩ := member
    unfold unmarshalMembers
    rw [List.lookup_cons, List.lookup_cons]
    cases name == key with
    | true => rfl
    | false => exact ih

theorem marshalEntries_lookup_isSome (encoded : marshalEntries go entries = some members)
    (name : String) : (members.lookup name).isSome = (entries.lookup name).isSome := by
  induction entries generalizing members with
  | nil =>
    obtain rfl := Option.some.inj encoded
    rfl
  | cons entry rest ih =>
    obtain ⟨key, value⟩ := entry
    obtain ⟨first, -, encodedRest⟩ := Option.bind_eq_some_iff.mp encoded
    obtain ⟨others, encodedOthers, same⟩ := Option.bind_eq_some_iff.mp encodedRest
    obtain rfl := Option.some.inj same
    rw [List.lookup_cons, List.lookup_cons]
    cases name == key with
    | true => rfl
    | false => exact ih encodedOthers

theorem evaluateNode_decoded {node : Value G} (portable : PortableTree go node)
    (encoded : marshal go node = some tree)
    (each : ∀ child childTree, PortableTree go child → marshal go child = some childTree → Simulates
      (sameState σ) Eq (evaluate child) (evaluate (unmarshalAny childTree))) :
    Simulates (sameState σ) Eq (evaluateNode go fx scope evaluate node)
      (evaluateNode go fx scope evaluate (unmarshalAny tree)) := by
  have simulated := effects_self fx
  have keeps (node : Value G) : Keeps (sameState σ).within (evaluate node) := .of_true _
  cases portable with
  | group g children =>
    obtain ⟨members, childTrees, rfl, conjunction, encodedChildren, decodes⟩ :=
      unmarshalGroup_marshalGroup encoded
    have found : evaluateNode go fx scope evaluate (unmarshalAny (.object members)) =
        checkGroup go fx evaluate (mapNodeId (unmarshalMembers members))
          { g with children := unmarshalItems childTrees } := by
      unfold unmarshalAny evaluateNode evaluateMapNode
      dsimp only
      rw [lookup_unmarshalMembers_isSome, if_pos conjunction, mapToStruct_of_decodes decodes]
    rw [found]
    refine checkGroup_simulates simulated keeps (groupAlike_decoded g encodedChildren)
      (fun _ _ _ => trivial) fun plain => ?_
    rw [unmarshalItems_eq_map, List.forall₂_map_right_iff]
    exact ((List.forall₂_and_left g.children childTrees).mpr
      ⟨children plain, forall₂_marshalItems encodedChildren⟩).imp
      fun child childTree both => each child childTree both.1 both.2
  | rule r left right =>
    obtain ⟨members, decoded, rfl, conjunction, decodes, agrees⟩ :=
      unmarshalRule_marshalRule encoded
    have found : evaluateNode go fx scope evaluate (unmarshalAny (.object members)) =
        checkRule go fx scope (mapNodeId (unmarshalMembers members)) decoded := by
      unfold unmarshalAny evaluateNode evaluateMapNode
      dsimp only
      rw [lookup_unmarshalMembers_isSome, conjunction, Option.isSome_none,
        if_neg Bool.false_ne_true, mapToStruct_of_decodes decodes]
    rw [found]
    exact checkRule_simulates simulated (ruleAlike_decoded left right agrees)
      fun _ _ _ => trivial
  | object entries =>
    obtain ⟨members, encodedEntries, same⟩ := Option.map_eq_some_iff.mp encoded
    subst same
    unfold unmarshalAny evaluateNode evaluateMapNode
    dsimp only
    rw [lookup_unmarshalMembers_isSome, marshalEntries_lookup_isSome encodedEntries,
      mapToStruct_unmarshalMembers unmarshalGroup ConditionGroup.empty encoded,
      mapToStruct_unmarshalMembers unmarshalRule ConditionRule.empty encoded]
    split
    · split
      · exact .fail trivial
      · rename_i group decodes
        exact checkGroup_simulates simulated keeps (.refl (fun _ => trivial) group)
          (fun _ _ _ => trivial)
          fun _ => List.forall₂_same.mpr fun child _ => simulates_self (evaluate child)
    · split
      · exact .fail trivial
      · rename_i rule decodes
        exact checkRule_simulates simulated (.refl (fun _ => trivial) rule) fun _ _ _ => trivial

theorem evaluateWithDepth_decoded (maxDepth : Int) (room : Nat) {node : Value G}
    (portable : PortableTree go node) (encoded : marshal go node = some tree) :
    Simulates (sameState σ) Eq (evaluateWithDepth go fx scope maxDepth room node)
      (evaluateWithDepth go fx scope maxDepth room (unmarshalAny tree)) := by
  induction room generalizing node tree with
  | zero => exact .fail trivial
  | succ room ih =>
    exact .bind (simulates_self fx.visit) (fun _ => .of_true _) fun _ _ _ =>
      evaluateNode_decoded portable encoded fun _ _ => ih

theorem isNil_tree {root : Value G} (portable : PortableTree go root)
    (encoded : marshal go root = some tree) :
    root.isNil = false ∧ (unmarshalAny tree).isNil = false := by
  cases portable with
  | group g children =>
    obtain ⟨members, -, rfl, -⟩ := unmarshalGroup_marshalGroup encoded
    exact ⟨rfl, rfl⟩
  | rule r left right =>
    obtain ⟨members, -, rfl, -⟩ := unmarshalRule_marshalRule encoded
    exact ⟨rfl, rfl⟩
  | object entries =>
    obtain ⟨members, rfl⟩ := marshal_object encoded
    exact ⟨rfl, rfl⟩

/-- A tree whose operands JSON keeps and the maps that its JSON decodes to have the same
result, or both fail, and leave the same caches and the same count. -/
theorem Evaluator.evaluate_decoded {E : Engines G} (ambient : Ambient E) (evaluator : Evaluator E)
    (evalCtx : EvalContext G) {root : Value G} {tree : JsonTree G}
    (portable : PortableTree go root) (encoded : marshal go root = some tree) :
    (evaluator.evaluate go ambient root evalCtx).1.toOption =
        (evaluator.evaluate go ambient (unmarshalAny tree) evalCtx).1.toOption ∧
      (evaluator.evaluate go ambient root evalCtx).2 =
        (evaluator.evaluate go ambient (unmarshalAny tree) evalCtx).2 := by
  obtain ⟨present, present'⟩ := isNil_tree portable encoded
  have simulates : Simulates (sameState (EvalState E)) Eq
      (Condition.evaluate go (cachedEffects E ambient evalCtx.scope evalCtx.maxConditions)
        evalCtx.scope evaluator.maxDepth root)
      (Condition.evaluate go (cachedEffects E ambient evalCtx.scope evalCtx.maxConditions)
        evalCtx.scope evaluator.maxDepth (unmarshalAny tree)) := by
    unfold Condition.evaluate
    rw [present, present', if_neg Bool.false_ne_true]
    exact evaluateWithDepth_decoded evaluator.maxDepth _ portable encoded
  obtain ⟨agree, same⟩ := simulates ⟨evaluator.caches, evalCtx.conditionCount⟩ _ rfl trivial
  unfold Evaluator.evaluate
  dsimp only
  rw [same]
  exact ⟨agree.toOption_eq, rfl⟩

/-! ## Two trees -/

/-- A rule whose right operand is a `[]string`. -/
def sliceRule : ConditionRule wholeTypes :=
  ⟨"country", .literal (.string "US"), .in, .slice [.string "US", .string "CA"], ""⟩

def emptyContext : EvalContext wholeTypes := newEvalContext [] ⟨0, 1000⟩ (0 : Nat)

def plainEvaluator : Evaluator nameEngines := newEvaluator nameEngines none ⟨0, 1000⟩

theorem typed_slice_decodes_to_another_operand :
    ((plainEvaluator.evaluate wholeLibrary stillAmbient (.rule sliceRule) emptyContext).1.toOption,
      (marshal wholeLibrary (.rule sliceRule)).map fun tree =>
        (plainEvaluator.evaluate wholeLibrary stillAmbient (unmarshalAny tree)
          emptyContext).1.toOption) =
      (some false, some (some true)) := by
  decide +kernel

def listRule : ConditionRule wholeTypes :=
  ⟨"country", .literal (.string "US"), .in, .list [.string "US", .string "CA"], ""⟩

def listGroup : ConditionGroup wholeTypes := ⟨"all", .and, true, [.rule listRule], ""⟩

def listGroupJson : JsonTree wholeTypes :=
  .object [("id", .string "all"), ("conjunction", .string "and"), ("not", .bool true),
    ("children", .array [.object [("id", .string "country"),
      ("left", .object [("type", .string "value"), ("value", .string "US")]),
      ("op", .string "select_any_in"), ("right", .array [.string "US", .string "CA"])]])]

theorem list_group_decodes_alike :
    (plainEvaluator.evaluate wholeLibrary stillAmbient (.group listGroup) emptyContext).1.toOption =
        (plainEvaluator.evaluate wholeLibrary stillAmbient (unmarshalAny listGroupJson)
          emptyContext).1.toOption ∧
      (plainEvaluator.evaluate wholeLibrary stillAmbient (.group listGroup) emptyContext).2 =
        (plainEvaluator.evaluate wholeLibrary stillAmbient (unmarshalAny listGroupJson)
          emptyContext).2 := by
  have text (s : String) : ReadsBack wholeLibrary (.string s : Value wholeTypes) :=
    readsBack_unmarshalAny (.string s)
  have noObject : NoObject wholeLibrary (.string "US" : Value wholeTypes) := by
    intro tree encoded
    obtain rfl := Option.some.inj encoded
    rfl
  have rule : PortableTree wholeLibrary (.rule listRule) := by
    refine .rule listRule (fun _ => text "US") fun _ _ => ?_
    exact ⟨List.forall_mem_cons.mpr ⟨text _, List.forall_mem_singleton.mpr (text _)⟩, noObject⟩
  refine Evaluator.evaluate_decoded stillAmbient plainEvaluator emptyContext
    (.group listGroup fun _ child member => ?_) rfl
  obtain rfl := List.mem_singleton.mp member
  exact rule

end ErpFinance.Condition
