import ErpFinance.Library.Except
import ErpFinance.Sdui.JavaScriptParser

/-!
# Conditions of widgets

Expression trees and the JavaScript text that the AMIS serializer writes for
them.  The text is read back as the tree when field names are identifiers,
string literals need no escape but that of quotes, and what stands beside an
operator without parentheses binds tighter than it.
-/

namespace ErpFinance.Sdui.Expression

open Library Library.JavaScript JavaScript

/-! ## Expressions -/

inductive CompareOp where
  | eq
  | neq
  | gt
  | gte
  | lt
  | lte
  | other (name : List Char)

inductive LogicalOp where
  | and
  | or
  | other (name : List Char)

/-- A number as it is printed. -/
structure Number where
  negative : Bool
  numeral : Numeral
  valid : numeral.isValid = true

/-- The value of a literal of one of Go's own types; a named string type, which is printed
otherwise, is none. -/
inductive Value where
  | string (s : List Char)
  | bool (b : Bool)
  | nil
  | number (n : Number)

inductive ExpressionNode where
  | fieldRef (field : List Char)
  | literal (value : Value)
  | compare (left right : ExpressionNode) (op : CompareOp)
  | logical (left right : ExpressionNode) (op : LogicalOp)
  | not (expr : ExpressionNode)
  | isIn (field : List Char) (values : List Value)
  | rawExpression (raw : List Char)
  /-- What is none of the node types: nil or a pointer to a node. -/
  | other (isNil : Bool)

inductive SerializeError where
  | nilExpression
  | unknownType
  | unknownCompareOp (op : CompareOp)
  | unknownLogicalOp (op : LogicalOp)

/-! ## The serializer -/

def compareOpToJS : CompareOp → Except SerializeError (List Char)
  | .eq => .ok "===".toList
  | .neq => .ok "!==".toList
  | .gt => .ok ">".toList
  | .gte => .ok ">=".toList
  | .lt => .ok "<".toList
  | .lte => .ok "<=".toList
  | op => .error (.unknownCompareOp op)

def logicalOpToJS : LogicalOp → Except SerializeError (List Char)
  | .and => .ok "&&".toList
  | .or => .ok "||".toList
  | op => .error (.unknownLogicalOp op)

def Number.text (n : Number) : List Char :=
  if n.negative then '-' :: n.numeral.text else n.numeral.text

def litToJS : Value → List Char
  | .string s => quoted s
  | .bool true => "true".toList
  | .bool false => "false".toList
  | .nil => "null".toList
  | .number n => n.text

/-- Two operands with an operator between them. -/
def joinText (left op right : List Char) : List Char := left ++ ' ' :: (op ++ ' ' :: right)

def fieldText (field : List Char) : List Char := "data.".toList ++ field

def serialize : ExpressionNode → Except SerializeError (List Char)
  | .fieldRef field => .ok (fieldText field)
  | .literal value => .ok (litToJS value)
  | .compare left right op => do
      let left ← serialize left
      let right ← serialize right
      let op ← compareOpToJS op
      return joinText left op right
  | .logical left right op => do
      let left ← serialize left
      let right ← serialize right
      let op ← logicalOpToJS op
      return '(' :: (joinText left op right ++ [')'])
  | .not expr => do
      let inner ← serialize expr
      return "!(".toList ++ (inner ++ [')'])
  | .isIn field values =>
    .ok ('[' :: ([','].intercalate (values.map litToJS) ++
      ("].includes(".toList ++ (fieldText field ++ [')']))))
  | .rawExpression raw => .ok raw
  | .other _ => .error .unknownType

/-- `AMISSerializer.Serialize`. -/
def Serialize : ExpressionNode → Except SerializeError (List Char)
  | .other true => .error .nilExpression
  | expr => serialize expr

/-! ## What expressions mean -/

def CompareOp.operator : CompareOp → Option Operator
  | .eq => some .eq
  | .neq => some .neq
  | .gt => some .gt
  | .gte => some .gte
  | .lt => some .lt
  | .lte => some .lte
  | .other _ => none

def LogicalOp.operator : LogicalOp → Option Operator
  | .and => some .and
  | .or => some .or
  | .other _ => none

def Value.constant : Value → Constant
  | .string s => .string (units s)
  | .bool b => .bool b
  | .nil => .null
  | .number n => .number n.negative n.numeral

/-- The tree that an expression is; a raw expression is what its text is read as. -/
def ExpressionNode.tree (letters : Letters) : ExpressionNode → Option Tree
  | .fieldRef field => some (.field field)
  | .literal value => some (.constant value.constant)
  | .compare left right op => do
      return .binary (← op.operator) (← left.tree letters) (← right.tree letters)
  | .logical left right op => do
      return .binary (← op.operator) (← left.tree letters) (← right.tree letters)
  | .not expr => do return .not (← expr.tree letters)
  | .isIn field values => some (.includes (values.map Value.constant) field)
  | .rawExpression raw => parse letters raw
  | .other _ => none

/-! ## Which expressions are read back -/

/-- The names of the fields. -/
def ExpressionNode.names : ExpressionNode → List (List Char)
  | .fieldRef field => [field]
  | .compare left right _ | .logical left right _ => left.names ++ right.names
  | .not expr => expr.names
  | .isIn field _ => [field]
  | _ => []

def Value.strings : Value → List (List Char)
  | .string s => [s]
  | _ => []

/-- The string literals. -/
def ExpressionNode.strings : ExpressionNode → List (List Char)
  | .literal value => value.strings
  | .compare left right _ | .logical left right _ => left.strings ++ right.strings
  | .not expr => expr.strings
  | .isIn _ values => values.flatMap Value.strings
  | _ => []

section Letters

variable (letters : Letters)

/-- The operator that is outermost in the text, outside all parentheses. -/
def ExpressionNode.root : ExpressionNode → Option Operator
  | .compare _ _ op => op.operator
  | .rawExpression raw => (parseSpine letters raw).bind Spine.root
  | _ => none

/-- What stands without parentheses beside an operator binds tighter, on the left at least as
tight. -/
def Joins (left right : ExpressionNode) (op : Option Operator) : Prop :=
  ∀ o ∈ op, (∀ q ∈ left.root letters, precedence o ≤ precedence q) ∧
    ∀ q ∈ right.root letters, precedence o < precedence q

def ExpressionNode.Grouped : ExpressionNode → Prop
  | .compare left right op =>
    left.Grouped ∧ right.Grouped ∧ Joins letters left right op.operator
  | .logical left right op =>
    left.Grouped ∧ right.Grouped ∧ Joins letters left right op.operator
  | .not expr => expr.Grouped
  | _ => True

/-- What the text of an expression has to be read back. -/
structure Fits (e : ExpressionNode) : Prop where
  names : ∀ name ∈ e.names, isIdentifier letters name = true
  strings : ∀ s ∈ e.strings, Clean s
  grouped : e.Grouped letters

/-! ## What is written -/

def operatorText : Operator → List Char
  | .eq => ['=', '=', '=']
  | .neq => ['!', '=', '=']
  | .gt => ['>']
  | .gte => ['>', '=']
  | .lt => ['<']
  | .lte => ['<', '=']
  | .and => ['&', '&']
  | .or => ['|', '|']

/-- The text of constants and the bracket behind them. -/
def listText : List Value → List Char
  | [] => [']']
  | [v] => litToJS v ++ [']']
  | v :: w :: values => litToJS v ++ ',' :: listText (w :: values)

/-- An expression, its text, its tree with the outermost operators open, and the operands and
operators of the text as they are read. -/
inductive Written : ExpressionNode → List Char → Spine Operator Tree → Tree →
    List (Operator × Tree) → Prop where
  | fieldRef (field : List Char) : Written (.fieldRef field) (fieldText field)
      (.leaf (.field field)) (.field field) []
  | literal (value : Value) : Written (.literal value) (litToJS value)
      (.leaf (.constant value.constant)) (.constant value.constant) []
  | compare {left right : ExpressionNode} {leftText rightText : List Char}
      {leftSpine rightSpine : Spine Operator Tree} {x y : Tree}
      {pairs others : List (Operator × Tree)} {op : CompareOp} {o : Operator}
      (known : op.operator = some o)
      (first : Written left leftText leftSpine x pairs)
      (second : Written right rightText rightSpine y others) :
      Written (.compare left right op) (joinText leftText (operatorText o) rightText)
        (.node o leftSpine rightSpine) x (pairs ++ (o, y) :: others)
  | logical {left right : ExpressionNode} {leftText rightText : List Char}
      {leftSpine rightSpine : Spine Operator Tree} {x y : Tree}
      {pairs others : List (Operator × Tree)} {op : LogicalOp} {o : Operator}
      (known : op.operator = some o)
      (first : Written left leftText leftSpine x pairs)
      (second : Written right rightText rightSpine y others) :
      Written (.logical left right op)
        ('(' :: (joinText leftText (operatorText o) rightText ++ [')']))
        (.leaf ((Spine.node o leftSpine rightSpine).close .binary))
        (group x (pairs ++ (o, y) :: others)) []
  | not {expr : ExpressionNode} {text : List Char} {spine : Spine Operator Tree} {x : Tree}
      {pairs : List (Operator × Tree)} (inner : Written expr text spine x pairs) :
      Written (.not expr) ('!' :: '(' :: (text ++ [')'])) (.leaf (.not (spine.close .binary)))
        (.not (group x pairs)) []
  | isIn (field : List Char) (values : List Value) :
      Written (.isIn field values)
        ('[' :: (listText values ++ (".includes(".toList ++ (fieldText field ++ [')']))))
        (.leaf (.includes (values.map Value.constant) field))
        (.includes (values.map Value.constant) field) []
  | rawExpression {raw : List Char} {tokens : List Token} {x : Tree}
      {pairs : List (Operator × Tree)} (lexes : Lexes letters raw tokens)
      (chain : Chain tokens x pairs) :
      Written (.rawExpression raw) raw (Spine.regroup precedence x pairs) x pairs

variable {letters} {e : ExpressionNode} {text : List Char} {spine : Spine Operator Tree}
  {x y : Tree} {pairs others : List (Operator × Tree)} {t : Tree}

theorem intercalate_listText (values : List Value) (behind : List Char) :
    [','].intercalate (values.map litToJS) ++ ']' :: behind = listText values ++ behind := by
  induction values with
  | nil => rfl
  | cons v values ih =>
    cases values with
    | nil =>
      rw [List.map_singleton, List.intercalate_singleton, listText, List.append_assoc]
      rfl
    | cons w values =>
      rw [List.map_cons] at ih
      rw [listText, List.map_cons, List.map_cons, List.intercalate_cons_cons,
        List.append_assoc, List.append_assoc, ih, List.append_assoc]
      rfl

theorem compareOpToJS_eq_ok {op : CompareOp} (named : compareOpToJS op = .ok text) :
    ∃ o, op.operator = some o ∧ text = operatorText o := by
  cases op with
  | eq => exact ⟨.eq, rfl, (Except.ok.inj named).symm⟩
  | neq => exact ⟨.neq, rfl, (Except.ok.inj named).symm⟩
  | gt => exact ⟨.gt, rfl, (Except.ok.inj named).symm⟩
  | gte => exact ⟨.gte, rfl, (Except.ok.inj named).symm⟩
  | lt => exact ⟨.lt, rfl, (Except.ok.inj named).symm⟩
  | lte => exact ⟨.lte, rfl, (Except.ok.inj named).symm⟩
  | other name => cases named

theorem logicalOpToJS_eq_ok {op : LogicalOp} (named : logicalOpToJS op = .ok text) :
    ∃ o, op.operator = some o ∧ text = operatorText o := by
  cases op with
  | and => exact ⟨.and, rfl, (Except.ok.inj named).symm⟩
  | or => exact ⟨.or, rfl, (Except.ok.inj named).symm⟩
  | other name => cases named

theorem tree_join {op : Option Operator} {o : Operator} {left right : Option Tree}
    (known : op = some o)
    (means : (do return Tree.binary (← op) (← left) (← right) : Option Tree) = some t) :
    ∃ t₁ t₂, left = some t₁ ∧ right = some t₂ ∧ Tree.binary o t₁ t₂ = t := by
  obtain ⟨o', known', means⟩ := Option.bind_eq_some_iff.mp means
  obtain rfl := Option.some.inj (known.symm.trans known')
  obtain ⟨t₁, meansLeft, means⟩ := Option.bind_eq_some_iff.mp means
  obtain ⟨t₂, meansRight, same⟩ := Option.bind_eq_some_iff.mp means
  exact ⟨t₁, t₂, meansLeft, meansRight, Option.some.inj same⟩

theorem written_of_serialize (serialized : serialize e = .ok text)
    (means : e.tree letters = some t) :
    ∃ spine x pairs, Written letters e text spine x pairs ∧ spine.close .binary = t := by
  induction e generalizing text t with
  | fieldRef field =>
    obtain rfl := Except.ok.inj serialized
    obtain rfl := Option.some.inj means
    exact ⟨_, _, _, .fieldRef field, rfl⟩
  | literal value =>
    obtain rfl := Except.ok.inj serialized
    obtain rfl := Option.some.inj means
    exact ⟨_, _, _, .literal value, rfl⟩
  | compare left right op ihLeft ihRight =>
    obtain ⟨leftText, first, serialized⟩ := bind_eq_ok_iff.mp serialized
    obtain ⟨rightText, second, serialized⟩ := bind_eq_ok_iff.mp serialized
    obtain ⟨opText, named, same⟩ := bind_eq_ok_iff.mp serialized
    obtain rfl := Except.ok.inj same
    obtain ⟨o, known, rfl⟩ := compareOpToJS_eq_ok named
    obtain ⟨t₁, t₂, meansLeft, meansRight, rfl⟩ := tree_join known means
    obtain ⟨spine, x, pairs, written, rfl⟩ := ihLeft first meansLeft
    obtain ⟨spine', y, others, written', rfl⟩ := ihRight second meansRight
    exact ⟨_, _, _, .compare known written written', rfl⟩
  | logical left right op ihLeft ihRight =>
    obtain ⟨leftText, first, serialized⟩ := bind_eq_ok_iff.mp serialized
    obtain ⟨rightText, second, serialized⟩ := bind_eq_ok_iff.mp serialized
    obtain ⟨opText, named, same⟩ := bind_eq_ok_iff.mp serialized
    obtain rfl := Except.ok.inj same
    obtain ⟨o, known, rfl⟩ := logicalOpToJS_eq_ok named
    obtain ⟨t₁, t₂, meansLeft, meansRight, rfl⟩ := tree_join known means
    obtain ⟨spine, x, pairs, written, rfl⟩ := ihLeft first meansLeft
    obtain ⟨spine', y, others, written', rfl⟩ := ihRight second meansRight
    exact ⟨_, _, _, .logical known written written', rfl⟩
  | not expr ih =>
    obtain ⟨innerText, inner, same⟩ := bind_eq_ok_iff.mp serialized
    obtain rfl := Except.ok.inj same
    obtain ⟨t, meansInner, same⟩ := Option.bind_eq_some_iff.mp means
    obtain rfl := Option.some.inj same
    obtain ⟨spine, x, pairs, written, rfl⟩ := ih inner meansInner
    exact ⟨_, _, _, .not written, rfl⟩
  | isIn field values =>
    obtain rfl := Except.ok.inj serialized
    obtain rfl := Option.some.inj means
    refine ⟨.leaf (.includes (values.map Value.constant) field),
      .includes (values.map Value.constant) field, [], ?_, rfl⟩
    have bracket : "].includes(".toList = ']' :: ".includes(".toList := rfl
    rw [bracket, List.cons_append, intercalate_listText]
    exact .isIn field values
  | rawExpression raw =>
    obtain rfl := Except.ok.inj serialized
    obtain ⟨spine, read, rfl⟩ := Option.map_eq_some_iff.mp means
    obtain ⟨tokens, lexed, chained⟩ := Option.bind_eq_some_iff.mp read
    obtain ⟨⟨x, pairs⟩, chain, rfl⟩ := Option.map_eq_some_iff.mp chained
    exact ⟨_, x, pairs, .rawExpression (lexes_iff.mpr lexed) (parseChain_iff.mp chain), rfl⟩
  | other isNil => cases serialized

/-! ## The tokens of the text -/

variable {c : Char}

theorem lexes_mark (isMark : c ∈ ['(', ')', '[', ']', ',', '.', '-']) {tokens : List Token}
    (behind : Lexes letters text tokens) :
    Lexes letters (c :: text) (.mark c :: tokens) := by
  simp only [List.mem_cons, List.not_mem_nil, or_false] at isMark
  rcases isMark with rfl | rfl | rfl | rfl | rfl | rfl | rfl <;>
    exact .cons Bool.false_ne_true rfl behind

theorem lexes_fieldText {field : List Char} (identifier : isIdentifier letters field = true) :
    Lexes letters (fieldText field) (fieldTokens field) :=
  .cons Bool.false_ne_true rfl (.cons Bool.false_ne_true rfl (lexes_word identifier))

theorem lexes_litToJS {value : Value} (clean : ∀ s ∈ value.strings, Clean s) :
    Lexes letters (litToJS value) value.constant.tokens := by
  cases value with
  | string s =>
    have read : token letters (quoted s) = some (.string (units s), []) := by
      rw [← List.append_nil (quoted s)]
      exact token_quoted (clean s (List.mem_singleton_self s)) []
    exact .cons Bool.false_ne_true read .nil
  | bool b => cases b <;> exact lexes_word rfl
  | nil => exact lexes_word rfl
  | number n =>
    have digits : Lexes letters n.numeral.text [.number n.numeral] := lexes_number n.valid
    unfold litToJS Number.text Value.constant
    dsimp only
    cases n.negative with
    | true => exact .cons Bool.false_ne_true rfl digits
    | false => exact digits

theorem delimited_cons (isDelimiter : c ∈ delimiters) (behind : List Char) :
    Delimited (c :: behind) := isDelimiter

theorem lexes_listText {values : List Value} {after : List Token}
    (clean : ∀ s ∈ values.flatMap Value.strings, Clean s) (behind : Lexes letters text after) :
    Lexes letters (listText values ++ text) (listTokens (values.map Value.constant) ++ after) := by
  have bracket : Lexes letters (']' :: text) (.mark ']' :: after) := lexes_mark (by decide) behind
  induction values with
  | nil => exact bracket
  | cons v values ih =>
    obtain ⟨cleanHere, cleanLater⟩ := List.forall_mem_append.mp (List.flatMap_cons ▸ clean)
    have here : Lexes letters (litToJS v) v.constant.tokens := lexes_litToJS cleanHere
    cases values with
    | nil =>
      rw [listText, List.append_assoc]
      change Lexes letters _ ((v.constant.tokens ++ [.mark ']']) ++ after)
      rw [List.append_assoc]
      exact here.append (delimited_cons (by decide) _) bracket
    | cons w values =>
      rw [listText, List.append_assoc]
      change Lexes letters _ ((v.constant.tokens ++ .mark ',' :: listTokens _) ++ after)
      rw [List.append_assoc]
      exact here.append (delimited_cons (by decide) _) (lexes_mark (by decide) (ih cleanLater))

theorem lexes_operatorText (o : Operator) {tokens : List Token}
    (behind : Lexes letters text tokens) :
    Lexes letters (' ' :: (operatorText o ++ ' ' :: text)) (.operator o :: tokens) := by
  have blank : Lexes letters (' ' :: text) tokens := behind.blank rfl
  cases o <;> exact .blank rfl (.cons Bool.false_ne_true rfl blank)

theorem of_lexes_operatorText {o : Operator} {tokens : List Token}
    (whole : Lexes letters (' ' :: (operatorText o ++ ' ' :: text)) tokens) :
    ∃ others, tokens = .operator o :: others ∧ Lexes letters text others := by
  have next : ∃ others, tokens = .operator o :: others ∧ Lexes letters (' ' :: text) others := by
    have operator := whole.of_blank rfl
    cases o <;> exact operator.tail Bool.false_ne_true rfl
  obtain ⟨others, same, behind⟩ := next
  exact ⟨others, same, behind.of_blank rfl⟩

theorem lexes_joinText {left right : List Char} {front back : List Token} (o : Operator)
    (first : Lexes letters left front) (second : Lexes letters right back) :
    Lexes letters (joinText left (operatorText o) right) (front ++ .operator o :: back) :=
  first.append (delimited_cons (by decide) _) (lexes_operatorText o second)

theorem lexes_parentheses {tokens : List Token} (inner : Lexes letters text tokens) :
    Lexes letters ('(' :: (text ++ [')'])) (.mark '(' :: (tokens ++ [.mark ')'])) := by
  have bracket : Lexes letters [')'] [.mark ')'] := .cons Bool.false_ne_true rfl .nil
  exact lexes_mark (by decide) (inner.append (delimited_cons (by decide) _) bracket)

namespace Written

theorem lexes (written : Written letters e text spine x pairs)
    (names : ∀ name ∈ e.names, isIdentifier letters name = true)
    (strings : ∀ s ∈ e.strings, Clean s) :
    ∃ tokens, Lexes letters text tokens ∧ Chain tokens x pairs := by
  induction written with
  | fieldRef field =>
    exact ⟨_, lexes_fieldText (names field (List.mem_singleton_self field)),
      (Operand.field field).chain⟩
  | literal value => exact ⟨_, lexes_litToJS strings, (Operand.constant value.constant).chain⟩
  | @compare left right _ _ _ _ _ _ _ _ op o known first second ihLeft ihRight =>
    obtain ⟨namesLeft, namesRight⟩ := List.forall_mem_append.mp names
    obtain ⟨stringsLeft, stringsRight⟩ := List.forall_mem_append.mp strings
    obtain ⟨front, lexesLeft, chainLeft⟩ := ihLeft namesLeft stringsLeft
    obtain ⟨back, lexesRight, chainRight⟩ := ihRight namesRight stringsRight
    exact ⟨_, lexes_joinText o lexesLeft lexesRight, chainLeft.join o chainRight⟩
  | @logical left right _ _ _ _ _ _ _ _ op o known first second ihLeft ihRight =>
    obtain ⟨namesLeft, namesRight⟩ := List.forall_mem_append.mp names
    obtain ⟨stringsLeft, stringsRight⟩ := List.forall_mem_append.mp strings
    obtain ⟨front, lexesLeft, chainLeft⟩ := ihLeft namesLeft stringsLeft
    obtain ⟨back, lexesRight, chainRight⟩ := ihRight namesRight stringsRight
    exact ⟨_, lexes_parentheses (lexes_joinText o lexesLeft lexesRight),
      (Operand.group (chainLeft.join o chainRight)).chain⟩
  | not inner ih =>
    obtain ⟨tokens, lexesInner, chain⟩ := ih names strings
    exact ⟨_, .cons Bool.false_ne_true rfl (lexes_parentheses lexesInner),
      (Operand.group chain).not.chain⟩
  | isIn field values =>
    have named := lexes_fieldText (names field (List.mem_singleton_self field))
    have bracket : Lexes letters [')'] [.mark ')'] := .cons Bool.false_ne_true rfl .nil
    have argument : Lexes letters (".includes(".toList ++ (fieldText field ++ [')']))
        (.mark '.' :: .word "includes".toList :: .mark '(' ::
          (fieldTokens field ++ [.mark ')'])) :=
      .cons Bool.false_ne_true rfl (.cons Bool.false_ne_true rfl
        (lexes_mark (by decide) (named.append (delimited_cons (by decide) _) bracket)))
    exact ⟨_, lexes_mark (by decide) (lexes_listText strings argument),
      (Operand.includes (values.map Value.constant) field).chain⟩
  | rawExpression lexes chain => exact ⟨_, lexes, chain⟩

/-- The text is read with the string literals of the expression. -/
theorem strings (written : Written letters e text spine x pairs) :
    (group x pairs).strings = (spine.close .binary).strings := by
  have join (x y : Tree) (pairs others : List (Operator × Tree)) (o : Operator) :
      (group x (pairs ++ (o, y) :: others)).strings =
        (group x pairs).strings ++ (group y others).strings := by
    rw [strings_group, strings_group, strings_group, List.flatMap_append, List.flatMap_cons,
      List.append_assoc]
  induction written with
  | fieldRef field => rfl
  | literal value => rfl
  | compare known first second ihLeft ihRight => rw [join, ihLeft, ihRight]; rfl
  | logical known first second ihLeft ihRight =>
    rw [group_nil, join, ihLeft, ihRight]
    rfl
  | not inner ih => exact ih
  | isIn field values => rfl
  | rawExpression lexes chain => rfl

/-- What is behind a text has the other string literals. -/
theorem split (written : Written letters e text spine x pairs)
    (names : ∀ name ∈ e.names, isIdentifier letters name = true)
    (clean : ∀ s ∈ e.strings, Clean s) {behind : List Char} {tokens : List Token}
    {more : List (List Nat)} (delimited : Delimited behind)
    (whole : Lexes letters (text ++ behind) tokens)
    (same : tokenStrings tokens = (spine.close .binary).strings ++ more) :
    ∃ after, Lexes letters behind after ∧ tokenStrings after = more := by
  obtain ⟨front, lexes, chain⟩ := written.lexes names clean
  obtain ⟨after, rfl, back⟩ := whole.split lexes delimited
  rw [tokenStrings_append, chain.strings, written.strings] at same
  exact ⟨after, back, List.append_cancel_left same⟩

end Written

/-! ## What is read back stands as it is -/

theorem of_lexes_mark (isMark : c ∈ ['(', ')', '[', ']', ',', '.', '-']) {tokens : List Token}
    (whole : Lexes letters (c :: text) tokens) :
    ∃ others, tokens = .mark c :: others ∧ Lexes letters text others := by
  simp only [List.mem_cons, List.not_mem_nil, or_false] at isMark
  rcases isMark with rfl | rfl | rfl | rfl | rfl | rfl | rfl <;>
    exact whole.tail Bool.false_ne_true rfl

section Scan

variable {behind : List Char} {tokens : List Token} {more : List (List Nat)}

theorem clean_of_lexes_litToJS {value : Value}
    (whole : Lexes letters (litToJS value ++ behind) tokens)
    (same : tokenStrings tokens = value.constant.strings ++ more) :
    ∀ s ∈ value.strings, Clean s := by
  cases value with
  | string s =>
    intro s' inStrings
    obtain rfl := List.mem_singleton.mp inStrings
    rcases Lexes.cases whole with ⟨blank, -⟩ | ⟨-, found, rest, others, first, rfl, -⟩
    · cases blank
    · have read := first
      rw [token, if_pos (.inl rfl)] at read
      obtain ⟨⟨value, last⟩, -, isString⟩ := Option.map_eq_some_iff.mp read
      obtain ⟨rfl, rfl⟩ := Prod.mk.inj isString
      obtain rfl : value = units s' := (List.cons.inj same).1
      exact clean_of_token first
  | _ => exact fun s inNil => absurd inNil List.not_mem_nil

theorem split_litToJS {value : Value} (delimited : Delimited behind)
    (whole : Lexes letters (litToJS value ++ behind) tokens)
    (same : tokenStrings tokens = value.constant.strings ++ more) :
    ∃ after, Lexes letters behind after ∧ tokenStrings after = more := by
  have lexes : Lexes letters _ _ := lexes_litToJS (clean_of_lexes_litToJS whole same)
  obtain ⟨after, rfl, back⟩ := whole.split lexes delimited
  rw [tokenStrings_append, Constant.strings_tokens] at same
  exact ⟨after, back, List.append_cancel_left same⟩

theorem clean_of_lexes_listText {values : List Value}
    (whole : Lexes letters (listText values ++ behind) tokens)
    (same : tokenStrings tokens =
      (values.map Value.constant).flatMap Constant.strings ++ more) :
    ∀ s ∈ values.flatMap Value.strings, Clean s := by
  induction values generalizing tokens with
  | nil => exact fun s inNil => absurd inNil List.not_mem_nil
  | cons v values ih =>
    rw [List.map_cons, List.flatMap_cons, List.append_assoc] at same
    rw [List.flatMap_cons]
    cases values with
    | nil =>
      rw [listText, List.append_assoc] at whole
      exact List.forall_mem_append.mpr ⟨clean_of_lexes_litToJS whole same,
        fun s inNil => absurd inNil List.not_mem_nil⟩
    | cons w values =>
      rw [listText, List.append_assoc] at whole
      refine List.forall_mem_append.mpr ⟨clean_of_lexes_litToJS whole same, ?_⟩
      obtain ⟨after, back, others⟩ :=
        split_litToJS (delimited_cons (by decide) _) whole same
      obtain ⟨last, rfl, list⟩ := of_lexes_mark (by decide) back
      exact ih list others

/-- From the tokens of a text in front of others it shows that no string needs an escape. -/
def Scans (letters : Letters) (e : ExpressionNode) (text : List Char)
    (spine : Spine Operator Tree) : Prop :=
  ∀ {behind tokens more}, Delimited behind → Lexes letters (text ++ behind) tokens →
    tokenStrings tokens = (spine.close .binary).strings ++ more → ∀ s ∈ e.strings, Clean s

theorem clean_of_lexes_joinText {left right : ExpressionNode} {leftText rightText : List Char}
    {leftSpine rightSpine : Spine Operator Tree} {o : Operator}
    (first : Written letters left leftText leftSpine x pairs)
    (names : ∀ name ∈ left.names, isIdentifier letters name = true)
    (scansLeft : Scans letters left leftText leftSpine)
    (scansRight : Scans letters right rightText rightSpine) (delimited : Delimited behind)
    (whole : Lexes letters (joinText leftText (operatorText o) rightText ++ behind) tokens)
    (same : tokenStrings tokens =
      ((Spine.node o leftSpine rightSpine).close .binary).strings ++ more) :
    ∀ s ∈ left.strings ++ right.strings, Clean s := by
  have joined : ((Spine.node o leftSpine rightSpine).close .binary).strings =
      (leftSpine.close .binary).strings ++ (rightSpine.close .binary).strings := rfl
  have blank := delimited_cons (by decide : ' ' ∈ delimiters)
    (operatorText o ++ ' ' :: (rightText ++ behind))
  rw [joined, List.append_assoc] at same
  rw [joinText, List.append_assoc, List.cons_append, List.append_assoc, List.cons_append] at whole
  have clean := scansLeft blank whole same
  obtain ⟨after, back, others⟩ := first.split names clean blank whole same
  obtain ⟨last, rfl, operand⟩ := of_lexes_operatorText back
  exact List.forall_mem_append.mpr ⟨clean, scansRight delimited operand others⟩

end Scan

theorem Written.scans (written : Written letters e text spine x pairs)
    (names : ∀ name ∈ e.names, isIdentifier letters name = true) :
    Scans letters e text spine := by
  induction written with
  | fieldRef field => exact fun _ _ _ s inNil => absurd inNil List.not_mem_nil
  | literal value => exact fun _ whole same => clean_of_lexes_litToJS whole same
  | compare known first second ihLeft ihRight =>
    obtain ⟨namesLeft, namesRight⟩ := List.forall_mem_append.mp names
    exact fun delimited whole same => clean_of_lexes_joinText first namesLeft (ihLeft namesLeft)
      (ihRight namesRight) delimited whole same
  | logical known first second ihLeft ihRight =>
    obtain ⟨namesLeft, namesRight⟩ := List.forall_mem_append.mp names
    intro behind tokens more _ whole same
    rw [List.cons_append, List.append_assoc] at whole
    obtain ⟨others, rfl, inner⟩ := of_lexes_mark (by decide) whole
    exact clean_of_lexes_joinText first namesLeft (ihLeft namesLeft) (ihRight namesRight)
      (delimited_cons (by decide) _) inner same
  | not inner ih =>
    intro behind tokens more _ whole same
    rw [List.cons_append, List.cons_append, List.append_assoc] at whole
    obtain ⟨others, rfl, parentheses⟩ := Lexes.tail whole Bool.false_ne_true rfl
    obtain ⟨others, rfl, inner⟩ := of_lexes_mark (by decide) parentheses
    exact ih names (delimited_cons (by decide) _) inner same
  | isIn field values =>
    intro behind tokens more _ whole same
    rw [List.cons_append, List.append_assoc] at whole
    obtain ⟨others, rfl, list⟩ := of_lexes_mark (by decide) whole
    exact clean_of_lexes_listText list same
  | rawExpression lexes chain => exact fun _ _ _ s inNil => absurd inNil List.not_mem_nil

/-! ## Grouping -/

/-- Operands as large as those of a tree, with its operators. -/
def Sized (x : Tree) (pairs : List (Operator × Tree)) (spine : Spine Operator Tree) : Prop :=
  Tree.size x = Tree.size spine.first ∧
    (pairs.map fun pair => (pair.1, Tree.size pair.2)) = spine.sizes Tree.size

theorem Sized.size_group (sized : Sized x pairs spine) :
    Tree.size (group x pairs) = Tree.size (spine.close .binary) := by
  obtain ⟨first, rest⟩ := sized
  have sums := congrArg (fun sizes => (sizes.map fun pair : Operator × Nat => pair.2 + 1).sum) rest
  rw [Spine.sizes, List.map_map, List.map_map] at sums
  rw [group, Spine.size_close size_binary, Spine.size_close size_binary, Spine.first_regroup,
    Spine.rest_regroup, first]
  exact congrArg (Tree.size spine.first + ·) sums

theorem Sized.join {leftSpine rightSpine : Spine Operator Tree} (left : Sized x pairs leftSpine)
    (right : Sized y others rightSpine) (o : Operator) :
    Sized x (pairs ++ (o, y) :: others) (.node o leftSpine rightSpine) := by
  refine ⟨left.1, ?_⟩
  rw [Spine.sizes, Spine.rest, List.map_append, List.map_cons, List.map_append, List.map_cons,
    left.2, right.2, right.1]
  rfl

/-- Two chains with an operator between them are grouped as they were exactly when each is and
neither has a looser operator. -/
theorem group_join_iff {leftSpine rightSpine : Spine Operator Tree}
    (left : Sized x pairs leftSpine) (right : Sized y others rightSpine) (o : Operator) :
    group x (pairs ++ (o, y) :: others) = (Spine.node o leftSpine rightSpine).close .binary ↔
      group x pairs = leftSpine.close .binary ∧ group y others = rightSpine.close .binary ∧
        (∀ q ∈ leftSpine.root, precedence o ≤ precedence q) ∧
          ∀ q ∈ rightSpine.root, precedence o < precedence q := by
  obtain ⟨first, rest⟩ := left.join right o
  rw [group, group, group, Spine.close_regroup_eq_iff size_binary binary_injective first rest,
    Spine.close_regroup_eq_iff size_binary binary_injective left.1 left.2,
    Spine.close_regroup_eq_iff size_binary binary_injective right.1 right.2]
  constructor
  · rintro ⟨⟨groupedLeft, groupedRight, bindsLeft, bindsRight⟩, isFirst, isRest⟩
    have lengths := congrArg List.length left.2
    rw [Spine.sizes, List.length_map, List.length_map] at lengths
    obtain ⟨pairsLeft, behind⟩ := List.append_inj isRest lengths
    obtain ⟨pair, pairsRight⟩ := List.cons.inj behind
    exact ⟨⟨groupedLeft, isFirst, pairsLeft⟩, ⟨groupedRight, (Prod.mk.inj pair).2, pairsRight⟩,
      Spine.binds_iff.mp bindsLeft, Spine.binds_iff.mp bindsRight⟩
  · rintro ⟨⟨groupedLeft, rfl, rfl⟩, ⟨groupedRight, rfl, rfl⟩, bindsLeft, bindsRight⟩
    exact ⟨⟨groupedLeft, groupedRight, Spine.binds_iff.mpr bindsLeft,
      Spine.binds_iff.mpr bindsRight⟩, rfl, rfl⟩

namespace Written

theorem sized (written : Written letters e text spine x pairs) : Sized x pairs spine := by
  induction written with
  | fieldRef field => exact ⟨rfl, rfl⟩
  | literal value => exact ⟨rfl, rfl⟩
  | compare known first second ihLeft ihRight => exact ihLeft.join ihRight _
  | logical known first second ihLeft ihRight => exact ⟨(ihLeft.join ihRight _).size_group, rfl⟩
  | not inner ih => exact ⟨rfl, rfl⟩
  | isIn field values => exact ⟨rfl, rfl⟩
  | rawExpression lexes chain =>
    refine ⟨?_, ?_⟩
    · rw [Spine.first_regroup]
    · rw [Spine.sizes, Spine.rest_regroup]

theorem root_eq (written : Written letters e text spine x pairs) :
    e.root letters = spine.root := by
  cases written with
  | compare known first second => exact known
  | rawExpression lexes chain =>
    rw [ExpressionNode.root, parseSpine, lexes_iff.mp lexes, Option.bind_some,
      parseChain_iff.mpr chain]
    rfl
  | _ => rfl

theorem joins_iff {left right : ExpressionNode} {leftText rightText : List Char}
    {leftSpine rightSpine : Spine Operator Tree} {op : Option Operator} {o : Operator}
    (known : op = some o) (first : Written letters left leftText leftSpine x pairs)
    (second : Written letters right rightText rightSpine y others) :
    Joins letters left right op ↔ (∀ q ∈ leftSpine.root, precedence o ≤ precedence q) ∧
      ∀ q ∈ rightSpine.root, precedence o < precedence q := by
  rw [Joins, first.root_eq, second.root_eq]
  constructor
  · exact fun joins => joins o known
  · intro binds o' isOp
    obtain rfl := Option.some.inj (known.symm.trans isOp)
    exact binds

/-- The text keeps its grouping exactly when no operand needs parentheses. -/
theorem group_eq_iff (written : Written letters e text spine x pairs) :
    group x pairs = spine.close .binary ↔ e.Grouped letters := by
  induction written with
  | fieldRef field => exact ⟨fun _ => trivial, fun _ => rfl⟩
  | literal value => exact ⟨fun _ => trivial, fun _ => rfl⟩
  | compare known first second ihLeft ihRight =>
    rw [group_join_iff first.sized second.sized, ihLeft, ihRight, ExpressionNode.Grouped,
      joins_iff known first second]
  | logical known first second ihLeft ihRight =>
    rw [group_nil, Spine.close, group_join_iff first.sized second.sized, ihLeft, ihRight,
      ExpressionNode.Grouped, joins_iff known first second]
  | not inner ih => exact ⟨fun same => ih.mp (Tree.not.inj same), fun grouped =>
    congrArg Tree.not (ih.mpr grouped)⟩
  | isIn field values => exact ⟨fun _ => trivial, fun _ => rfl⟩
  | rawExpression lexes chain => exact ⟨fun _ => trivial, fun _ => rfl⟩

/-- The names of the fields are names of the tree. -/
theorem names_subset (written : Written letters e text spine x pairs) :
    ∀ name ∈ e.names, name ∈ (spine.close .binary).names := by
  induction written with
  | fieldRef field => exact fun _ inNames => inNames
  | literal value => exact fun _ inNil => absurd inNil List.not_mem_nil
  | compare known first second ihLeft ihRight | logical known first second ihLeft ihRight =>
    intro name inNames
    rcases List.mem_append.mp inNames with inLeft | inRight
    · exact List.mem_append_left _ (ihLeft name inLeft)
    · exact List.mem_append_right _ (ihRight name inRight)
  | not inner ih => exact ih
  | isIn field values => exact fun _ inNames => inNames
  | rawExpression lexes chain => exact fun _ inNil => absurd inNil List.not_mem_nil

end Written

/-- A text is read back as its tree exactly when it fits. -/
theorem Written.parse_eq_iff (written : Written letters e text spine x pairs) :
    parse letters text = some (spine.close .binary) ↔ Fits letters e := by
  constructor
  · intro parsed
    obtain ⟨tokens, y, others, lexes, chain, same⟩ := parse_eq_some_iff.mp parsed
    have names : ∀ name ∈ e.names, isIdentifier letters name = true := by
      intro name inNames
      have inTree := written.names_subset name inNames
      rw [same] at inTree
      exact lexes.isIdentifier name (chain.names name inTree)
    have strings : ∀ s ∈ e.strings, Clean s := by
      have nothing : Delimited [] := trivial
      have whole : Lexes letters (text ++ []) tokens := by
        rw [List.append_nil]
        exact lexes
      have literals : tokenStrings tokens = (spine.close .binary).strings ++ [] := by
        rw [chain.strings, ← same, List.append_nil]
      exact written.scans names nothing whole literals
    obtain ⟨tokens', lexes', chain'⟩ := written.lexes names strings
    obtain rfl := lexes.unique lexes'
    obtain ⟨rfl, rfl⟩ := Prod.mk.inj (Option.some.inj
      ((parseChain_iff.mpr chain).symm.trans (parseChain_iff.mpr chain')))
    exact ⟨names, strings, written.group_eq_iff.mp same.symm⟩
  · rintro ⟨names, strings, grouped⟩
    obtain ⟨tokens, lexes, chain⟩ := written.lexes names strings
    exact parse_eq_some_iff.mpr ⟨tokens, x, pairs, lexes, chain,
      (written.group_eq_iff.mpr grouped).symm⟩

/-! ## What the text means -/

/-- The text is read as a tree that has the value of `t`, whatever the operators and the data
object are. -/
def ReadBack (letters : Letters) (text : List Char) (t : Tree) : Prop :=
  ∃ read, parse letters text = some read ∧
    ∀ (V : Type) (meaning : Meaning V), read.value meaning = t.value meaning

theorem readBack_iff : ReadBack letters text t ↔ parse letters text = some t := by
  constructor
  · rintro ⟨read, parsed, same⟩
    have equal := same Tree free
    rw [value_free, value_free] at equal
    rw [parsed, equal]
  · exact fun parsed => ⟨t, parsed, fun _ _ => rfl⟩

theorem serialize_of_Serialize (serialized : Serialize e = .ok text) : serialize e = .ok text := by
  rw [Serialize.eq_def] at serialized
  split at serialized
  · cases serialized
  · exact serialized

/-- The text of an expression is read back with the value of the expression exactly when its names
are identifiers, no string literal has a backslash or a line end, and every operand without
parentheses binds tighter than the operator beside it. -/
theorem readBack_serialize_iff (serialized : Serialize e = .ok text)
    (means : e.tree letters = some t) : ReadBack letters text t ↔ Fits letters e := by
  obtain ⟨spine, x, pairs, written, rfl⟩ :=
    written_of_serialize (serialize_of_Serialize serialized) means
  rw [readBack_iff, written.parse_eq_iff]

end Letters

def ascii : Letters where
  start _ := false
  part _ := false
  start_not_blank := fun _ => nofun

def quoteExample : ExpressionNode :=
  .compare (.fieldRef "status".toList) (.literal (.string "it's".toList)) .eq

theorem quoteExample_fits : Fits ascii quoteExample where
  names := by decide
  strings := by decide
  grouped := ⟨trivial, trivial, fun _ _ => ⟨nofun, nofun⟩⟩

theorem readBack_quoteExample : ReadBack ascii "data.status === 'it\\'s'".toList
    (.binary .eq (.field "status".toList) (.constant (.string (units "it's".toList)))) :=
  (readBack_serialize_iff (e := quoteExample) rfl rfl).mpr quoteExample_fits

/-- Constants with strict equality, over a data object. -/
def strict (data : List Char → Constant) : Meaning Constant where
  field := data
  constant c := c
  includes values c := .bool (decide (c ∈ values))
  not c := .bool (decide (c = .bool false))
  binary _ x y := .bool (decide (x = y))

/-- A comparison on the right of a comparison. -/
def nested : ExpressionNode :=
  .compare (.fieldRef ['a']) (.compare (.fieldRef ['b']) (.fieldRef ['c']) .eq) .eq

def nestedTree : Tree := .binary .eq (.field ['a']) (.binary .eq (.field ['b']) (.field ['c']))

def regroupedTree : Tree := .binary .eq (.binary .eq (.field ['a']) (.field ['b'])) (.field ['c'])

def sampleData (name : List Char) : Constant := if name = ['c'] then .bool true else .null

/-- The nested comparison is read from the left, and a backslash is read as an escape. -/
theorem nested_regrouped :
    (Serialize nested = .ok "data.a === data.b === data.c".toList ∧
      nested.tree ascii = some nestedTree ∧
      parse ascii "data.a === data.b === data.c".toList = some regroupedTree ∧
      regroupedTree.value (strict sampleData) ≠ nestedTree.value (strict sampleData)) ∧
    Serialize (.literal (.string ['a', '\\', 'b'])) = .ok ['\'', 'a', '\\', 'b', '\''] ∧
      parse ascii ['\'', 'a', '\\', 'b', '\''] = some (.constant (.string [97, 8])) ∧
      [97, 8] ≠ units ['a', '\\', 'b'] :=
  ⟨⟨rfl, rfl, by decide, by decide⟩, rfl, by decide, by decide⟩

end ErpFinance.Sdui.Expression
