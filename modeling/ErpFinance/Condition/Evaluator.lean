import ErpFinance.Condition.Json
import ErpFinance.Condition.Operators
import ErpFinance.Library.Stateful

/-!
# The condition evaluator

`evaluateWithDepth` and what it calls, over the three operations that reach the
shared state: counting a node, evaluating a formula and matching a pattern.
The evaluator's own versions of these are in `Condition.Caches`.  The depth of
a node is given by the room it leaves below the depth limit.
-/

namespace ErpFinance.Condition

open Library (Stateful split)

variable {G : GoTypes} {σ : Type}

/-! ## Errors -/

inductive Sentinel where
  | fieldNotFound | functionNotFound | invalidOperator | invalidExpression | maxDepthExceeded
  | resourceLimitExceeded | validation | regexComplexity | formulaComplexity
deriving DecidableEq

def Sentinel.text : Sentinel → String
  | fieldNotFound => "field not found"
  | functionNotFound => "function not found"
  | invalidOperator => "invalid operator"
  | invalidExpression => "invalid expression"
  | maxDepthExceeded => "maximum nesting depth exceeded"
  | resourceLimitExceeded => "resource limit exceeded"
  | validation => "validation error"
  | regexComplexity => "regex pattern too complex"
  | formulaComplexity => "formula too complex"

/-- An error: its text, and the sentinel that `errors.Is` finds in it. -/
structure EvalError where
  sentinel : Option Sentinel
  message : String
deriving DecidableEq

namespace EvalError

def new (message : String) : EvalError := ⟨none, message⟩

/-- `fmt.Errorf("…: %w", err)`. -/
def wrap (label : String) (error : EvalError) : EvalError :=
  ⟨error.sentinel, label ++ ": " ++ error.message⟩

end EvalError

/-- `fmt.Errorf("%w: …", sentinel)`. -/
def Sentinel.error (sentinel : Sentinel) (detail : String) : EvalError :=
  ⟨some sentinel, sentinel.text ++ ": " ++ detail⟩

/-! ## Validation -/

def maxFormulaLength : Nat := 10000

def formulaTooLong (formula : String) : EvalError :=
  Sentinel.formulaComplexity.error ("formula length " ++ toString formula.utf8ByteSize ++
    " exceeds limit " ++ toString maxFormulaLength)

def FuncCall.validate (call : FuncCall G) : Except EvalError Unit :=
  if call.type = "" then .error (Sentinel.validation.error "function type is required")
  else .ok ⟨⟩

def Expression.validate (e : Expression G) : Except EvalError Unit :=
  match e.type with
  | .value => .ok ⟨⟩
  | .field =>
    if e.field = "" then
      .error (Sentinel.validation.error "field name is required for field expression")
    else .ok ⟨⟩
  | .func =>
    match e.func with
    | none => .error (Sentinel.validation.error "function call is required for func expression")
    | some call => call.validate.mapError (EvalError.wrap "function call")
  | .other code _ =>
    if code = "" then .error (Sentinel.validation.error "expression type is required")
    else .error (Sentinel.validation.error ("unknown expression type " ++ code))

def validateOperator : OperatorType → Except EvalError Unit
  | .other code _ =>
    if code = "" then .error (Sentinel.validation.error "operator is required")
    else .error (Sentinel.invalidOperator.error ("unknown operator " ++ code))
  | _ => .ok ⟨⟩

def ConditionRule.validate (r : ConditionRule G) : Except EvalError Unit :=
  if r.id = "" then .error (Sentinel.validation.error "rule ID is required")
  else if r.formula ≠ "" then
    if r.formula.utf8ByteSize > maxFormulaLength then .error (formulaTooLong r.formula)
    else .ok ⟨⟩
  else do
    r.left.validate.mapError (EvalError.wrap "left expression")
    validateOperator r.op
    if !r.op.isUnary && r.right.isNil then
      .error (Sentinel.validation.error
        ("right value is required for operator " ++ r.op.string))
    else .ok ⟨⟩

def ConditionGroup.validate (g : ConditionGroup G) : Except EvalError Unit :=
  if g.id = "" then .error (Sentinel.validation.error "group ID is required")
  else match g.conjunction with
    | .other code _ => .error (Sentinel.validation.error ("invalid conjunction " ++ code))
    | _ =>
      if g.children.isEmpty && g.formula = "" then
        .error (Sentinel.validation.error "group must have at least one child or a formula")
      else if g.formula.utf8ByteSize > maxFormulaLength then .error (formulaTooLong g.formula)
      else .ok ⟨⟩

/-! ## Operands -/

/-- What an evaluation reads of its context.  A registered function sees its arguments, the
data and the time. -/
structure Scope (G : GoTypes) where
  data : List (String × Value G)
  functions : String →
    Option (List (Value G) → List (String × Value G) → G.Time → Except EvalError (Value G))
  now : G.Time

section Operands

variable (go : GoLibrary G) (scope : Scope G)

def getPart (path : String) (before : List String) (current : Value G) (part : String) :
    Except EvalError (Value G) :=
  match current with
  | .nil => .error (Sentinel.fieldNotFound.error ("nil value at " ++ ".".intercalate before))
  | .object entries =>
    match entries.lookup part with
    | none => .error (Sentinel.fieldNotFound.error path)
    | some value => .ok value
  | value =>
    match go.structField value with
    | none => .error (.new ("cannot access field " ++ part ++ " on non-map/struct type"))
    | some fields =>
      match fields part with
      | none => .error (Sentinel.fieldNotFound.error path)
      | some field => .ok field

def getParts (path : String) : List String → Value G → List String → Except EvalError (Value G)
  | _, current, [] => .ok current
  | before, current, part :: rest => do
      let next ← getPart go path before current part
      getParts path (before ++ [part]) next rest

def getValue (path : String) : Except EvalError (Value G) :=
  if path = "" then .error (Sentinel.fieldNotFound.error "empty path")
  else getParts go path [] (.object scope.data) (split path '.')

def evaluateExpression (e : Expression G) : Except EvalError (Value G) := do
  e.validate
  match e.type with
  | .value => .ok e.value
  | .field => getValue go scope e.field
  | .func =>
    match e.func with
    | none => .error (.new "function call is nil")
    | some call =>
      match scope.functions call.type with
      | none => .error (Sentinel.functionNotFound.error call.type)
      | some handler => handler call.args scope.data scope.now
  | .other code _ => .error (Sentinel.invalidExpression.error ("unknown type " ++ code))

def Expression.literal (value : Value G) : Expression G := ⟨.value, value, "", none⟩

def toExpression : Value G → Except EvalError (Expression G)
  | .nil => .ok (Expression.literal .nil)
  | .expression e => .ok e
  | .object entries =>
    (mapToStruct go unmarshalExpression Expression.empty entries).mapError
      fun message => .new ("invalid expression: " ++ message)
  | value => .ok (Expression.literal value)

/-- `toExpression` and then `evaluateExpression`. -/
def evaluateOperand (value : Value G) : Except EvalError (Value G) := do
  let e ← toExpression go value
  evaluateExpression go scope e

/-- Whether the first item of a list makes it a list of expressions. -/
def Value.isOperand : Value G → Bool
  | .expression _ => true
  | .object _ => true
  | _ => false

def evaluateRightExpression : Value G → Except EvalError (List (Value G))
  | .nil => .error (.new "right expression is nil")
  | .list items =>
    if (items.headD .nil).isOperand then
      items.zipIdx.mapM fun (item, i) =>
        (evaluateOperand go scope item).mapError (EvalError.wrap ("item " ++ toString i))
    else .ok items
  | .expression e => do
      let value ← evaluateExpression go scope e
      return [value]
  | .object entries => do
      let value ← evaluateOperand go scope (.object entries)
      return [value]
  | value => .ok [value]

end Operands

/-! ## Operators -/

/-- The operations of the evaluator that reach the state it shares between evaluations. -/
structure Effects (G : GoTypes) (σ : Type) where
  /-- Count a node against the condition limit. -/
  visit : Stateful σ EvalError Unit
  evaluateFormula : String → Stateful σ EvalError (Value G)
  /-- Match a text against a pattern. -/
  matchString : String → String → Stateful σ EvalError Bool

def maxRegexPatternLength : Nat := 1000

section Evaluation

variable (go : GoLibrary G) (fx : Effects G σ) (scope : Scope G)

def applyUnaryOperator (op : OperatorType) (left : Value G) : Except EvalError Bool :=
  match op with
  | .isEmpty => .ok (isEmpty go left)
  | .isNotEmpty => .ok (!isEmpty go left)
  | op => .error (Sentinel.invalidOperator.error (op.string ++ " is not a unary operator"))

/-- The operand counts that `applyOperator` asks for. -/
def requireOperands (op : OperatorType) (count : Nat) : Except EvalError Unit :=
  match op with
  | .between | .notBetween =>
    if count ≠ 2 then
      .error (.new (op.string ++ " requires exactly 2 values, got " ++ toString count))
    else .ok ⟨⟩
  | .in | .notIn =>
    if count = 0 then .error (.new (op.string ++ " requires at least one value")) else .ok ⟨⟩
  | _ => if count = 0 then .error (.new (op.string ++ " requires a right value")) else .ok ⟨⟩

def matchRegexp (str pattern : Value G) : Stateful σ EvalError Bool :=
  if str.isNil || pattern.isNil then pure false
  else if (sprint go pattern).utf8ByteSize > maxRegexPatternLength then
    .fail (Sentinel.regexComplexity.error ("pattern length " ++
      toString (sprint go pattern).utf8ByteSize ++ " exceeds limit " ++
      toString maxRegexPatternLength))
  else fx.matchString (sprint go pattern) (sprint go str)

/-- The second switch of `applyOperator`, on the right operands that the first let pass. -/
def applyTo (op : OperatorType) (left : Value G) (right : List (Value G)) :
    Stateful σ EvalError Bool :=
  let first := right.getD 0 .nil
  let second := right.getD 1 .nil
  match op with
  | .equal => pure (compare go left first == 0)
  | .notEqual => pure (compare go left first != 0)
  | .less => pure (compare go left first < 0)
  | .lessOrEqual => pure (compare go left first ≤ 0)
  | .greater => pure (compare go left first > 0)
  | .greaterOrEqual => pure (compare go left first ≥ 0)
  | .between => pure (compare go left first ≥ 0 && compare go left second ≤ 0)
  | .notBetween => pure (compare go left first < 0 || compare go left second > 0)
  | .contains => pure (containsValue go left first)
  | .notContains => pure (!containsValue go left first)
  | .startsWith => pure (startsWith go left first)
  | .endsWith => pure (endsWith go left first)
  | .in => pure (inValues go left right)
  | .notIn => pure (!inValues go left right)
  | .matchRegexp => matchRegexp go fx left first
  | op => .fail (Sentinel.invalidOperator.error op.string)

def applyOperator (op : OperatorType) (left : Value G) (right : List (Value G)) :
    Stateful σ EvalError Bool := do
  .lift (requireOperands op right.length)
  applyTo go fx op left right

/-! ## Nodes -/

/-- The result of a formula, which has to be a boolean. -/
def requireBool (what : String) : Value G → Except EvalError Bool
  | .bool b => .ok b
  | value => .error (.new (what ++ " must return boolean, got " ++ go.formatType value))

def evaluateRule (r : ConditionRule G) : Stateful σ EvalError Bool :=
  if r.formula ≠ "" then do
    let result ← (fx.evaluateFormula r.formula).mapError
      (EvalError.wrap "rule formula evaluation failed")
    .lift (requireBool go "rule formula" result)
  else do
    let left ← Stateful.lift
      ((evaluateExpression go scope r.left).mapError (EvalError.wrap "left expression"))
    if r.op.isUnary then .lift (applyUnaryOperator go r.op left)
    else do
      let right ← Stateful.lift
        ((evaluateRightExpression go scope r.right).mapError (EvalError.wrap "right expression"))
      applyOperator go fx r.op left right

/-- The children of a group, each with its position, in a short-circuit loop. -/
def evaluateChildren (evaluate : Value G → Stateful σ EvalError Bool) (g : ConditionGroup G) :
    Stateful σ EvalError Bool :=
  let child (entry : Value G × Nat) : Stateful σ EvalError Bool :=
    (evaluate entry.1).mapError (EvalError.wrap ("child " ++ toString entry.2))
  if g.conjunction = .and then g.children.zipIdx.allM child else g.children.zipIdx.anyM child

/-- The formula of a group takes precedence over its children. -/
def evaluateContent (evaluate : Value G → Stateful σ EvalError Bool) (g : ConditionGroup G) :
    Stateful σ EvalError Bool :=
  if g.formula ≠ "" then do
    let result ← (fx.evaluateFormula g.formula).mapError
      (EvalError.wrap "formula evaluation failed")
    .lift (requireBool go "formula" result)
  else evaluateChildren evaluate g

/-- `evaluateGroup`; `evaluate` is `evaluateWithDepth` one level further down. -/
def evaluateGroup (evaluate : Value G → Stateful σ EvalError Bool) (g : ConditionGroup G) :
    Stateful σ EvalError Bool := do
  let result ← evaluateContent go fx evaluate g
  return if g.not then !result else result

/-- A group that is validated before it is evaluated. -/
def checkGroup (evaluate : Value G → Stateful σ EvalError Bool) (id : String)
    (g : ConditionGroup G) : Stateful σ EvalError Bool :=
  Stateful.mapError (EvalError.wrap ("group " ++ id)) do
    .lift g.validate
    evaluateGroup go fx evaluate g

/-- A rule that is validated before it is evaluated. -/
def checkRule (id : String) (r : ConditionRule G) : Stateful σ EvalError Bool :=
  Stateful.mapError (EvalError.wrap ("rule " ++ id)) do
    .lift r.validate
    evaluateRule go fx scope r

def mapNodeId (entries : List (String × Value G)) : String :=
  match entries.lookup "id" with
  | some (.string id) => if id = "" then "unknown" else id
  | _ => "unknown"

def evaluateMapNode (evaluate : Value G → Stateful σ EvalError Bool)
    (entries : List (String × Value G)) : Stateful σ EvalError Bool :=
  let id := mapNodeId entries
  if (entries.lookup "conjunction").isSome then
    match mapToStruct go unmarshalGroup ConditionGroup.empty entries with
    | .error message => .fail (.new ("group " ++ id ++ ": invalid structure: " ++ message))
    | .ok group => checkGroup go fx evaluate id group
  else
    match mapToStruct go unmarshalRule ConditionRule.empty entries with
    | .error message => .fail (.new ("rule " ++ id ++ ": invalid structure: " ++ message))
    | .ok rule => checkRule go fx scope id rule

/-- The depth at which the limit is first passed. -/
def depthExceeded (maxDepth : Int) : EvalError :=
  Sentinel.maxDepthExceeded.error ("depth " ++ toString (max (maxDepth + 1) 0) ++
    " exceeds limit " ++ toString maxDepth)

/-- The type switch of `evaluateWithDepth`. -/
def evaluateNode (evaluate : Value G → Stateful σ EvalError Bool) :
    Value G → Stateful σ EvalError Bool
  | .group g => checkGroup go fx evaluate g.id g
  | .rule r => checkRule go fx scope r.id r
  | .object entries => evaluateMapNode go fx scope evaluate entries
  | node => .fail (Sentinel.invalidExpression.error ("unknown node type " ++ go.formatType node))

/-- `evaluateWithDepth`, at the depth that leaves the given room below the limit. -/
def evaluateWithDepth (maxDepth : Int) : Nat → Value G → Stateful σ EvalError Bool
  | 0, _ => .fail (depthExceeded maxDepth)
  | room + 1, node => do
      fx.visit
      evaluateNode go fx scope (evaluateWithDepth maxDepth room) node

/-- `Evaluate`, on an evaluation context that is not nil. -/
def evaluate (maxDepth : Int) (root : Value G) : Stateful σ EvalError Bool :=
  if root.isNil then .fail (Sentinel.invalidExpression.error "nil root condition")
  else evaluateWithDepth go fx scope maxDepth (maxDepth + 1).toNat root

end Evaluation

end ErpFinance.Condition
