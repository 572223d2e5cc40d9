import ErpFinance.Library.Precedence
import ErpFinance.Sdui.JavaScriptTokens

/-!
# Reading JavaScript expressions

Comparisons and logical operators over fields of the data object and
constants, read with JavaScript's operator precedence.  Two descriptions of
one reading are kept: the parser, and what a list of tokens is read as
whatever follows it.
-/

namespace ErpFinance.Sdui.JavaScript

open Library

/-! ## Expressions -/

inductive Constant where
  | string (units : List Nat)
  | bool (b : Bool)
  | null
  | number (negative : Bool) (n : Numeral)
deriving DecidableEq

inductive Tree where
  | field (name : List Char)
  | constant (c : Constant)
  | includes (values : List Constant) (name : List Char)
  | not (inner : Tree)
  | binary (op : Operator) (left right : Tree)
deriving DecidableEq

def precedence : Operator → Nat
  | .or => 3
  | .and => 4
  | .eq | .neq => 8
  | .gt | .gte | .lt | .lte => 9

/-- The expression that operands with operators between them are. -/
def group (x : Tree) (pairs : List (Operator × Tree)) : Tree :=
  (Spine.regroup precedence x pairs).close .binary

/-- What the operators, the constants and the fields of a data object are. -/
structure Meaning (V : Type) where
  field : List Char → V
  constant : Constant → V
  includes : List Constant → V → V
  not : V → V
  binary : Operator → V → V → V

def Tree.value {V : Type} (meaning : Meaning V) : Tree → V
  | .field name => meaning.field name
  | .constant c => meaning.constant c
  | .includes values name => meaning.includes values (meaning.field name)
  | .not inner => meaning.not (inner.value meaning)
  | .binary op left right => meaning.binary op (left.value meaning) (right.value meaning)

/-! ## The parser -/

def parseConstant : List Token → Option (Constant × List Token)
  | .string units :: rest => some (.string units, rest)
  | .number n :: rest => some (.number false n, rest)
  | .mark '-' :: .number n :: rest => some (.number true n, rest)
  | .word name :: rest =>
    if name = "true".toList then some (.bool true, rest)
    else if name = "false".toList then some (.bool false, rest)
    else if name = "null".toList then some (.null, rest)
    else none
  | _ => none

/-- Constants up to the end of their list. -/
def parseConstants : Nat → List Token → Option (List Constant × List Token)
  | 0, _ => none
  | fuel + 1, tokens =>
    (parseConstant tokens).bind fun c =>
      match c.2 with
      | .mark ',' :: rest => (parseConstants fuel rest).map fun cs => (c.1 :: cs.1, cs.2)
      | .mark ']' :: rest => some ([c.1], rest)
      | _ => none

def parseList : List Token → Option (List Constant × List Token)
  | .mark ']' :: rest => some ([], rest)
  | tokens => parseConstants (tokens.length + 1) tokens

def parseField : List Token → Option (List Char × List Token)
  | .word object :: .mark '.' :: .word name :: rest =>
    if object = "data".toList then some (name, rest) else none
  | _ => none

def parseIncludes (values : List Constant) : List Token → Option (Tree × List Token)
  | .mark '.' :: .word method :: .mark '(' :: rest =>
    if method = "includes".toList then
      (parseField rest).bind fun field =>
        match field.2 with
        | .mark ')' :: rest => some (.includes values field.1, rest)
        | _ => none
    else none
  | _ => none

def parsePairs (operand : List Token → Option (Tree × List Token)) :
    Nat → List Token → Option (List (Operator × Tree) × List Token)
  | fuel + 1, .operator op :: rest =>
    (operand rest).bind fun x =>
      (parsePairs operand fuel x.2).map fun pairs => ((op, x.1) :: pairs.1, pairs.2)
  | _, tokens => some ([], tokens)

def parseOperand : Nat → List Token → Option (Tree × List Token)
  | 0, _ => none
  | fuel + 1, .mark '!' :: rest => (parseOperand fuel rest).map fun x => (.not x.1, x.2)
  | fuel + 1, .mark '(' :: rest =>
    (parseOperand fuel rest).bind fun x =>
      (parsePairs (parseOperand fuel) fuel x.2).bind fun pairs =>
        match pairs.2 with
        | .mark ')' :: rest => some (group x.1 pairs.1, rest)
        | _ => none
  | _ + 1, .mark '[' :: rest =>
    (parseList rest).bind fun values => parseIncludes values.1 values.2
  | _ + 1, tokens =>
    match parseField tokens with
    | some field => some (.field field.1, field.2)
    | none => (parseConstant tokens).map fun c => (.constant c.1, c.2)

/-- The operands of a whole text and the operators between them. -/
def parseChain (tokens : List Token) : Option (Tree × List (Operator × Tree)) :=
  (parseOperand tokens.length tokens).bind fun x =>
    (parsePairs (parseOperand tokens.length) tokens.length x.2).bind fun pairs =>
      match pairs.2 with
      | [] => some (x.1, pairs.1)
      | _ => none

/-- A text with its outermost operators open. -/
def parseSpine (letters : Letters) (text : List Char) : Option (Spine Operator Tree) :=
  (lex letters (text.length + 1) text).bind fun tokens =>
    (parseChain tokens).map fun chain => Spine.regroup precedence chain.1 chain.2

def parse (letters : Letters) (text : List Char) : Option Tree :=
  (parseSpine letters text).map (Spine.close .binary)

/-! ## Constants and their tokens -/

def Constant.tokens : Constant → List Token
  | .string units => [.string units]
  | .bool true => [.word "true".toList]
  | .bool false => [.word "false".toList]
  | .null => [.word "null".toList]
  | .number false n => [.number n]
  | .number true n => [.mark '-', .number n]

/-- A list's constants and its closing bracket. -/
def listTokens : List Constant → List Token
  | [] => [.mark ']']
  | [c] => c.tokens ++ [.mark ']']
  | c :: d :: cs => c.tokens ++ .mark ',' :: listTokens (d :: cs)

def fieldTokens (name : List Char) : List Token :=
  [.word "data".toList, .mark '.', .word name]

def includesTokens (cs : List Constant) (name : List Char) : List Token :=
  .mark '[' :: (listTokens cs ++
    (.mark '.' :: .word "includes".toList :: .mark '(' :: (fieldTokens name ++ [.mark ')'])))

variable {tokens rest others : List Token} {fuel : Nat} {x : Tree} {pairs : List (Operator × Tree)}
  {op : Operator} {c : Constant} {cs : List Constant} {name : List Char}

theorem parseConstant_tokens (c : Constant) (rest : List Token) :
    parseConstant (c.tokens ++ rest) = some (c, rest) := by
  rcases c with units | b | _ | ⟨negative, n⟩
  · rfl
  · cases b <;> rfl
  · rfl
  · cases negative <;> rfl

theorem tokens_of_parseConstant (read : parseConstant tokens = some (c, rest)) :
    tokens = c.tokens ++ rest := by
  rw [parseConstant.eq_def] at read
  split at read
  · obtain ⟨rfl, rfl⟩ := Prod.mk.inj (Option.some.inj read)
    rfl
  · obtain ⟨rfl, rfl⟩ := Prod.mk.inj (Option.some.inj read)
    rfl
  · obtain ⟨rfl, rfl⟩ := Prod.mk.inj (Option.some.inj read)
    rfl
  · rename_i word behind
    split at read
    · rename_i isTrue
      obtain ⟨rfl, rfl⟩ := Prod.mk.inj (Option.some.inj read)
      rw [isTrue]
      rfl
    split at read
    · rename_i isFalse
      obtain ⟨rfl, rfl⟩ := Prod.mk.inj (Option.some.inj read)
      rw [isFalse]
      rfl
    split at read
    · rename_i isNull
      obtain ⟨rfl, rfl⟩ := Prod.mk.inj (Option.some.inj read)
      rw [isNull]
      rfl
    · cases read
  · cases read

theorem parseConstants_tokens (c : Constant) (cs : List Constant) (rest : List Token)
    (enough : cs.length < fuel) :
    parseConstants fuel (listTokens (c :: cs) ++ rest) = some (c :: cs, rest) := by
  induction cs generalizing c fuel with
  | nil =>
    obtain ⟨fuel, rfl⟩ : ∃ more, fuel = more + 1 := ⟨fuel - 1, by omega⟩
    rw [listTokens, List.append_assoc, parseConstants, parseConstant_tokens]
    rfl
  | cons d cs ih =>
    rw [List.length_cons] at enough
    obtain ⟨fuel, rfl⟩ : ∃ more, fuel = more + 1 := ⟨fuel - 1, by omega⟩
    rw [listTokens, List.append_assoc, parseConstants, parseConstant_tokens, Option.bind_some,
      List.cons_append]
    have behind : parseConstants fuel _ = _ := ih d (by omega)
    change (parseConstants fuel _).map _ = _
    rw [behind]
    rfl

theorem tokens_of_parseConstants (read : parseConstants fuel tokens = some (cs, rest)) :
    tokens = listTokens cs ++ rest ∧ cs ≠ [] := by
  induction fuel generalizing tokens cs with
  | zero => cases read
  | succ fuel ih =>
    obtain ⟨⟨c, behind⟩, first, listed⟩ := Option.bind_eq_some_iff.mp read
    obtain rfl := tokens_of_parseConstant first
    dsimp only at listed
    split at listed
    · obtain ⟨⟨more, last⟩, later, same⟩ := Option.map_eq_some_iff.mp listed
      obtain ⟨rfl, rfl⟩ := Prod.mk.inj same
      obtain ⟨rfl, nonempty⟩ := ih later
      refine ⟨?_, List.cons_ne_nil _ _⟩
      cases more with
      | nil => exact absurd rfl nonempty
      | cons d more =>
        rw [listTokens, List.append_assoc]
        rfl
    · obtain ⟨rfl, rfl⟩ := Prod.mk.inj (Option.some.inj listed)
      refine ⟨?_, List.cons_ne_nil _ _⟩
      rw [listTokens, List.append_assoc]
      rfl
    · cases listed

theorem Constant.length_tokens (c : Constant) : 0 < c.tokens.length := by
  rcases c with units | b | _ | ⟨negative, n⟩
  · exact Nat.zero_lt_one
  · cases b <;> exact Nat.zero_lt_one
  · exact Nat.zero_lt_one
  · cases negative <;> exact Nat.succ_pos _

theorem length_listTokens (cs : List Constant) : cs.length < (listTokens cs).length := by
  induction cs with
  | nil => exact Nat.zero_lt_one
  | cons c cs ih =>
    have positive := c.length_tokens
    cases cs with
    | nil =>
      rw [listTokens, List.length_append, List.length_singleton, List.length_singleton]
      omega
    | cons d cs =>
      have here : (listTokens (c :: d :: cs)).length =
          c.tokens.length + ((listTokens (d :: cs)).length + 1) := List.length_append
      have all : (c :: d :: cs).length = (d :: cs).length + 1 := rfl
      omega

theorem parseList_tokens (cs : List Constant) (rest : List Token) :
    parseList (listTokens cs ++ rest) = some (cs, rest) := by
  cases cs with
  | nil => rfl
  | cons c cs =>
    have longer := length_listTokens (c :: cs)
    rw [parseList.eq_def]
    split
    · rename_i others isBracket
      have constant := parseConstants_tokens c cs rest (Nat.lt_succ_self cs.length)
      rw [isBracket] at constant
      cases constant
    · refine parseConstants_tokens c cs rest ?_
      rw [List.length_append]
      rw [List.length_cons] at longer
      omega

theorem tokens_of_parseList (read : parseList tokens = some (cs, rest)) :
    tokens = listTokens cs ++ rest := by
  rw [parseList.eq_def] at read
  split at read
  · obtain ⟨rfl, rfl⟩ := Prod.mk.inj (Option.some.inj read)
    rfl
  · exact (tokens_of_parseConstants read).1

theorem tokens_of_parseField (read : parseField tokens = some (name, rest)) :
    tokens = fieldTokens name ++ rest := by
  rw [parseField.eq_def] at read
  split at read
  · split at read
    · rename_i isData
      obtain ⟨rfl, rfl⟩ := Prod.mk.inj (Option.some.inj read)
      rw [isData]
      rfl
    · cases read
  · cases read

theorem tokens_of_parseIncludes (read : parseIncludes cs tokens = some (x, rest)) :
    ∃ name, x = .includes cs name ∧
      .mark '[' :: (listTokens cs ++ tokens) = includesTokens cs name ++ rest := by
  rw [parseIncludes.eq_def] at read
  split at read
  · split at read
    · rename_i isIncludes
      obtain ⟨⟨name, behind⟩, field, closed⟩ := Option.bind_eq_some_iff.mp read
      obtain rfl := tokens_of_parseField field
      dsimp only at closed
      split at closed
      · obtain ⟨rfl, rfl⟩ := Prod.mk.inj (Option.some.inj closed)
        refine ⟨name, rfl, ?_⟩
        rw [isIncludes, includesTokens, List.cons_append, List.append_assoc]
        rfl
      · cases closed
    · cases read
  · cases read

/-! ## What expressions hold -/

/-- The string literals among tokens. -/
def tokenStrings (tokens : List Token) : List (List Nat) :=
  tokens.filterMap fun
    | .string units => some units
    | _ => none

def Constant.strings : Constant → List (List Nat)
  | .string units => [units]
  | _ => []

def Tree.strings : Tree → List (List Nat)
  | .field _ => []
  | .constant c => c.strings
  | .includes values _ => values.flatMap Constant.strings
  | .not inner => inner.strings
  | .binary _ left right => left.strings ++ right.strings

/-- The names of the fields. -/
def Tree.names : Tree → List (List Char)
  | .field name => [name]
  | .constant _ => []
  | .includes _ name => [name]
  | .not inner => inner.names
  | .binary _ left right => left.names ++ right.names

/-- The operators in an expression. -/
def Tree.size : Tree → Nat
  | .binary _ left right => left.size + (right.size + 1)
  | _ => 0

theorem group_nil (x : Tree) : group x [] = x := rfl

theorem strings_group (x : Tree) (pairs : List (Operator × Tree)) :
    (group x pairs).strings = x.strings ++ pairs.flatMap fun pair => pair.2.strings := by
  rw [group, Spine.flatMap_close Tree.strings (fun _ _ _ => rfl), Spine.first_regroup,
    Spine.rest_regroup]

theorem names_group (x : Tree) (pairs : List (Operator × Tree)) :
    (group x pairs).names = x.names ++ pairs.flatMap fun pair => pair.2.names := by
  rw [group, Spine.flatMap_close Tree.names (fun _ _ _ => rfl), Spine.first_regroup,
    Spine.rest_regroup]

theorem tokenStrings_append (tokens more : List Token) :
    tokenStrings (tokens ++ more) = tokenStrings tokens ++ tokenStrings more :=
  List.filterMap_append

theorem Constant.strings_tokens (c : Constant) : tokenStrings c.tokens = c.strings := by
  rcases c with units | b | _ | ⟨negative, n⟩
  · rfl
  · cases b <;> rfl
  · rfl
  · cases negative <;> rfl

theorem strings_listTokens (cs : List Constant) :
    tokenStrings (listTokens cs) = cs.flatMap Constant.strings := by
  induction cs with
  | nil => rfl
  | cons c cs ih =>
    rw [List.flatMap_cons, ← ih]
    cases cs with
    | nil =>
      change tokenStrings (c.tokens ++ [.mark ']']) = _
      rw [tokenStrings_append, c.strings_tokens]
      rfl
    | cons d cs =>
      change tokenStrings (c.tokens ++ .mark ',' :: listTokens (d :: cs)) = _
      rw [tokenStrings_append, c.strings_tokens]
      rfl

/-! ## What tokens are read as -/

/-- Tokens that are an operand whatever follows them. -/
structure Operand (tokens : List Token) (x : Tree) : Prop where
  parses : ∀ fuel rest, tokens.length ≤ fuel → parseOperand fuel (tokens ++ rest) = some (x, rest)
  strings : tokenStrings tokens = x.strings
  names : ∀ name ∈ x.names, Token.word name ∈ tokens

/-- Tokens that are operators, each with an operand behind it. -/
inductive Pairs : List Token → List (Operator × Tree) → Prop where
  | nil : Pairs [] []
  | cons {op : Operator} {front back : List Token} {x : Tree} {pairs : List (Operator × Tree)}
      (operand : Operand front x) (behind : Pairs back pairs) :
      Pairs (.operator op :: (front ++ back)) ((op, x) :: pairs)

/-- Tokens that are operands with operators between them. -/
def Chain (tokens : List Token) (x : Tree) (pairs : List (Operator × Tree)) : Prop :=
  ∃ front back, tokens = front ++ back ∧ Operand front x ∧ Pairs back pairs

def Closed (rest : List Token) : Prop := ∀ op others, rest ≠ .operator op :: others

namespace Pairs

theorem append {front back : List Token} {others : List (Operator × Tree)}
    (first : Pairs front pairs) (second : Pairs back others) :
    Pairs (front ++ back) (pairs ++ others) := by
  induction first with
  | nil => exact second
  | cons operand _ ih =>
    rw [List.cons_append, List.append_assoc]
    exact .cons operand ih

theorem strings (read : Pairs tokens pairs) :
    tokenStrings tokens = pairs.flatMap fun pair => pair.2.strings := by
  induction read with
  | nil => rfl
  | cons operand behind ih =>
    rw [List.flatMap_cons, ← ih, ← operand.strings, ← tokenStrings_append]
    rfl

theorem names (read : Pairs tokens pairs) :
    ∀ name ∈ pairs.flatMap fun pair => pair.2.names, Token.word name ∈ tokens := by
  induction read with
  | nil => exact fun name inNil => absurd inNil List.not_mem_nil
  | cons operand behind ih =>
    intro name inNames
    rw [List.flatMap_cons] at inNames
    refine List.mem_cons_of_mem _ ?_
    rcases List.mem_append.mp inNames with here | later
    · exact List.mem_append_left _ (operand.names name here)
    · exact List.mem_append_right _ (ih name later)

theorem parses (read : Pairs tokens pairs) (closed : Closed rest) {more : Nat}
    (enough : tokens.length ≤ fuel) (rounds : tokens.length ≤ more) :
    parsePairs (parseOperand fuel) more (tokens ++ rest) = some (pairs, rest) := by
  induction read generalizing more with
  | nil =>
    rw [List.nil_append, parsePairs.eq_def]
    split
    · exact absurd rfl (closed _ _)
    · rfl
  | @cons op front back x pairs operand behind ih =>
    rw [List.length_cons, List.length_append] at enough rounds
    obtain ⟨more, rfl⟩ : ∃ others, more = others + 1 := ⟨more - 1, by omega⟩
    rw [List.cons_append, List.append_assoc, parsePairs,
      operand.parses fuel _ (by omega), Option.bind_some, ih (by omega) (by omega)]
    rfl

end Pairs

namespace Chain

theorem strings (read : Chain tokens x pairs) : tokenStrings tokens = (group x pairs).strings := by
  obtain ⟨front, back, rfl, operand, behind⟩ := read
  rw [tokenStrings_append, operand.strings, behind.strings, strings_group]

theorem names (read : Chain tokens x pairs) :
    ∀ name ∈ (group x pairs).names, Token.word name ∈ tokens := by
  obtain ⟨front, back, rfl, operand, behind⟩ := read
  intro name inNames
  rw [names_group] at inNames
  rcases List.mem_append.mp inNames with here | later
  · exact List.mem_append_left _ (operand.names name here)
  · exact List.mem_append_right _ (behind.names name later)

theorem join {front back : List Token} {y : Tree} {others : List (Operator × Tree)}
    (left : Chain front x pairs) (op : Operator) (right : Chain back y others) :
    Chain (front ++ .operator op :: back) x (pairs ++ (op, y) :: others) := by
  obtain ⟨first, later, rfl, operand, behind⟩ := left
  obtain ⟨first', later', rfl, operand', behind'⟩ := right
  exact ⟨first, later ++ .operator op :: (first' ++ later'), List.append_assoc _ _ _, operand,
    behind.append (.cons operand' behind')⟩

theorem parseChain (read : Chain tokens x pairs) :
    parseChain tokens = some (x, pairs) := by
  obtain ⟨front, back, rfl, operand, behind⟩ := read
  have inside : front.length ≤ (front ++ back).length := by
    rw [List.length_append]
    omega
  have outside : back.length ≤ (front ++ back).length := by
    rw [List.length_append]
    omega
  have nothing : Closed [] := fun _ _ => nofun
  have pairsRead := behind.parses nothing outside outside
  rw [List.append_nil] at pairsRead
  rw [JavaScript.parseChain, operand.parses _ _ inside, Option.bind_some, pairsRead]
  rfl

end Chain

namespace Operand

theorem chain (operand : Operand tokens x) : Chain tokens x [] :=
  ⟨tokens, [], (List.append_nil _).symm, operand, .nil⟩

theorem parseField_of_ne (different : name ≠ "data".toList) (rest : List Token) :
    parseField (.word name :: rest) = none := by
  rw [parseField.eq_def]
  split
  · rename_i same
    rw [(Token.word.inj (List.cons.inj same).1)] at different
    exact if_neg different
  · rfl

theorem parseOperand_constant (c : Constant) (rest : List Token) :
    parseOperand (fuel + 1) (c.tokens ++ rest) =
      (parseConstant (c.tokens ++ rest)).map fun c => (.constant c.1, c.2) := by
  have word {name : List Char} (different : name ≠ "data".toList) :
      parseOperand (fuel + 1) (.word name :: rest) =
        (parseConstant (.word name :: rest)).map fun c => (.constant c.1, c.2) := by
    rw [parseOperand, parseField_of_ne different]
    · exact nofun
    · exact nofun
    · exact nofun
  rcases c with units | b | _ | ⟨negative, n⟩
  · rfl
  · cases b
    · exact word (by decide)
    · exact word (by decide)
  · exact word (by decide)
  · cases negative <;> rfl

theorem field (name : List Char) : Operand (fieldTokens name) (.field name) where
  parses := by
    intro fuel rest enough
    obtain ⟨fuel, rfl⟩ : ∃ more, fuel = more + 1 := ⟨fuel - 1, (Nat.sub_add_cancel
      (Nat.le_trans (Nat.succ_pos _) enough)).symm⟩
    rfl
  strings := rfl
  names := by
    intro inner inNames
    obtain rfl := List.mem_singleton.mp inNames
    exact List.mem_of_mem_getLast? rfl

theorem constant (c : Constant) : Operand c.tokens (.constant c) where
  parses := by
    intro fuel rest enough
    have longer := c.length_tokens
    obtain ⟨fuel, rfl⟩ : ∃ more, fuel = more + 1 := ⟨fuel - 1, by omega⟩
    rw [parseOperand_constant, parseConstant_tokens]
    rfl
  strings := c.strings_tokens
  names := fun _ inNil => absurd inNil List.not_mem_nil

theorem includes (cs : List Constant) (name : List Char) :
    Operand (includesTokens cs name) (.includes cs name) where
  parses := by
    intro fuel rest enough
    obtain ⟨fuel, rfl⟩ : ∃ more, fuel = more + 1 := ⟨fuel - 1, (Nat.sub_add_cancel
      (Nat.le_trans (Nat.succ_pos _) enough)).symm⟩
    rw [includesTokens, List.cons_append, List.append_assoc, parseOperand, parseList_tokens]
    rfl
  strings := by
    change tokenStrings (listTokens cs ++ _) = _
    rw [tokenStrings_append, strings_listTokens]
    exact List.append_nil _
  names := by
    intro inner inNames
    obtain rfl := List.mem_singleton.mp inNames
    refine List.mem_cons_of_mem _ (List.mem_append_right _ ?_)
    simp [fieldTokens]

theorem not (operand : Operand tokens x) : Operand (.mark '!' :: tokens) (.not x) where
  parses := by
    intro fuel rest enough
    rw [List.length_cons] at enough
    obtain ⟨fuel, rfl⟩ : ∃ more, fuel = more + 1 := ⟨fuel - 1, by omega⟩
    rw [List.cons_append, parseOperand, operand.parses fuel rest (by omega)]
    rfl
  strings := operand.strings
  names := fun name inNames => List.mem_cons_of_mem _ (operand.names name inNames)

theorem group (inner : Chain tokens x pairs) :
    Operand (.mark '(' :: (tokens ++ [.mark ')'])) (group x pairs) where
  parses := by
    obtain ⟨front, back, rfl, operand, behind⟩ := inner
    intro fuel rest enough
    simp only [List.length_cons, List.length_append, List.length_nil] at enough
    obtain ⟨fuel, rfl⟩ : ∃ more, fuel = more + 1 := ⟨fuel - 1, by omega⟩
    have closed : Closed (.mark ')' :: rest) := fun _ _ => nofun
    rw [List.cons_append, List.append_assoc, List.append_assoc, parseOperand,
      operand.parses fuel _ (by omega), Option.bind_some, List.singleton_append,
      behind.parses closed (by omega) (by omega)]
    rfl
  strings := by
    rw [← inner.strings]
    change tokenStrings (tokens ++ [.mark ')']) = _
    rw [tokenStrings_append]
    exact List.append_nil _
  names := fun name inNames =>
    List.mem_cons_of_mem _ (List.mem_append_left _ (inner.names name inNames))

end Operand

/-- What the parser reads is read whatever follows. -/
theorem pairs_of_parsePairs {operand : List Token → Option (Tree × List Token)}
    (sound : ∀ tokens x rest, operand tokens = some (x, rest) →
      ∃ front, tokens = front ++ rest ∧ Operand front x) {more : Nat}
    (read : parsePairs operand more tokens = some (pairs, rest)) :
    ∃ front, tokens = front ++ rest ∧ Pairs front pairs := by
  induction more generalizing tokens pairs with
  | zero =>
    obtain ⟨rfl, rfl⟩ := Prod.mk.inj (Option.some.inj read)
    exact ⟨[], rfl, .nil⟩
  | succ more ih =>
    rw [parsePairs.eq_def] at read
    split at read
    · rename_i behind isSucc
      obtain rfl := Nat.succ.inj isSucc
      obtain ⟨⟨x, later⟩, first, read⟩ := Option.bind_eq_some_iff.mp read
      obtain ⟨⟨others, last⟩, next, same⟩ := Option.map_eq_some_iff.mp read
      obtain ⟨rfl, rfl⟩ := Prod.mk.inj same
      obtain ⟨front, rfl, here⟩ := sound _ _ _ first
      obtain ⟨back, rfl, there⟩ := ih next
      exact ⟨.operator _ :: (front ++ back), by rw [List.cons_append, List.append_assoc],
        .cons here there⟩
    · obtain ⟨rfl, rfl⟩ := Prod.mk.inj (Option.some.inj read)
      exact ⟨[], rfl, .nil⟩

theorem operand_of_parseOperand (read : parseOperand fuel tokens = some (x, rest)) :
    ∃ front, tokens = front ++ rest ∧ Operand front x := by
  induction fuel generalizing tokens x rest with
  | zero => cases read
  | succ fuel ih =>
    rw [parseOperand.eq_def] at read
    split at read
    · cases ‹fuel + 1 = 0›
    · rename_i behind isSucc
      obtain rfl := Nat.succ.inj isSucc
      obtain ⟨⟨inner, last⟩, first, same⟩ := Option.map_eq_some_iff.mp read
      obtain ⟨rfl, rfl⟩ := Prod.mk.inj same
      obtain ⟨front, rfl, operand⟩ := ih first
      exact ⟨_, rfl, operand.not⟩
    · rename_i behind isSucc
      obtain rfl := Nat.succ.inj isSucc
      obtain ⟨⟨first, later⟩, operandRead, read⟩ := Option.bind_eq_some_iff.mp read
      obtain ⟨⟨pairs, last⟩, pairsRead, closed⟩ := Option.bind_eq_some_iff.mp read
      obtain ⟨front, rfl, operand⟩ := ih operandRead
      obtain ⟨back, rfl, behind⟩ := pairs_of_parsePairs (fun _ _ _ => ih) pairsRead
      dsimp only at closed
      split at closed
      · obtain ⟨rfl, rfl⟩ := Prod.mk.inj (Option.some.inj closed)
        refine ⟨.mark '(' :: ((front ++ back) ++ [.mark ')']), ?_,
          .group ⟨front, back, rfl, operand, behind⟩⟩
        rw [List.cons_append, List.append_assoc, List.append_assoc]
        rfl
      · cases closed
    · obtain ⟨⟨values, later⟩, list, asked⟩ := Option.bind_eq_some_iff.mp read
      obtain rfl := tokens_of_parseList list
      obtain ⟨name, rfl, all⟩ := tokens_of_parseIncludes asked
      exact ⟨_, all, .includes values name⟩
    · split at read
      · rename_i found field
        obtain ⟨rfl, rfl⟩ := Prod.mk.inj (Option.some.inj read)
        exact ⟨_, tokens_of_parseField field, .field _⟩
      · obtain ⟨⟨c, last⟩, constant, same⟩ := Option.map_eq_some_iff.mp read
        obtain ⟨rfl, rfl⟩ := Prod.mk.inj same
        exact ⟨_, tokens_of_parseConstant constant, .constant c⟩

/-- The parser reads exactly the chains. -/
theorem parseChain_iff : parseChain tokens = some (x, pairs) ↔ Chain tokens x pairs := by
  refine ⟨fun read => ?_, Chain.parseChain⟩
  obtain ⟨⟨first, later⟩, operandRead, read⟩ := Option.bind_eq_some_iff.mp read
  obtain ⟨⟨others, last⟩, pairsRead, closed⟩ := Option.bind_eq_some_iff.mp read
  obtain ⟨front, rfl, operand⟩ := operand_of_parseOperand operandRead
  obtain ⟨back, rfl, behind⟩ :=
    pairs_of_parsePairs (fun _ _ _ => operand_of_parseOperand) pairsRead
  dsimp only at closed
  split at closed
  · obtain ⟨rfl, rfl⟩ := Prod.mk.inj (Option.some.inj closed)
    exact ⟨front, back, by rw [List.append_nil], operand, behind⟩
  · cases closed

theorem parse_eq_some_iff {letters : Letters} {text : List Char} {t : Tree} :
    parse letters text = some t ↔
      ∃ tokens x pairs, Lexes letters text tokens ∧ Chain tokens x pairs ∧ t = group x pairs := by
  constructor
  · intro parsed
    obtain ⟨spine, read, rfl⟩ := Option.map_eq_some_iff.mp parsed
    obtain ⟨tokens, lexed, chained⟩ := Option.bind_eq_some_iff.mp read
    obtain ⟨⟨x, pairs⟩, chain, rfl⟩ := Option.map_eq_some_iff.mp chained
    exact ⟨tokens, x, pairs, lexes_iff.mpr lexed, parseChain_iff.mp chain, rfl⟩
  · rintro ⟨tokens, x, pairs, lexes, chain, rfl⟩
    rw [parse, parseSpine, lexes_iff.mp lexes, Option.bind_some, parseChain_iff.mpr chain]
    rfl

/-! ## Sizes and values -/

theorem size_binary (o : Operator) (x y : Tree) :
    Tree.size (.binary o x y) = Tree.size x + (Tree.size y + 1) := rfl

theorem binary_injective {o o' : Operator} {x x' y y' : Tree}
    (same : Tree.binary o x y = Tree.binary o' x' y') : o = o' ∧ x = x' ∧ y = y' :=
  Tree.binary.inj same

/-- Every tree as its own value. -/
def free : Meaning Tree where
  field := .field
  constant := .constant
  includes values
    | .field name => .includes values name
    | other => other
  not := .not
  binary := .binary

theorem value_free (t : Tree) : t.value free = t := by
  induction t with
  | field name => rfl
  | constant c => rfl
  | includes values name => rfl
  | not inner ih => exact congrArg Tree.not ih
  | binary op left right ihLeft ihRight => exact congrArg₂ (Tree.binary op) ihLeft ihRight

end ErpFinance.Sdui.JavaScript
