import ErpFinance.Library.StringLiterals
import Mathlib.Data.List.Find
import Mathlib.Tactic.IntervalCases

/-!
# Tokens of JavaScript expressions

The tokens of comparisons, logical operators and literals, and how a text is
cut into them.  Which characters beyond ASCII are letters is a parameter.
-/

namespace ErpFinance.Sdui.JavaScript

open Library.JavaScript

/-! ## Tokens -/

/-- The binary operators. -/
inductive Operator where
  | eq
  | neq
  | gt
  | gte
  | lt
  | lte
  | and
  | or
deriving DecidableEq

/-- A decimal number without a sign. -/
structure Numeral where
  whole : List Char
  fraction : Option (List Char) := none
  exponent : Option (Char × List Char) := none
deriving DecidableEq

inductive Token where
  | word (name : List Char)
  | string (units : List Nat)
  | number (n : Numeral)
  | mark (c : Char)
  | operator (op : Operator)

def isBlank (c : Char) : Bool :=
  c ∈ [' ', '\t', '\n', '\r', '\u000b', '\u000c', '\u00a0', '\ufeff', '\u2028', '\u2029']

/-- The letters of identifiers beyond ASCII, at their start and further on. -/
structure Letters where
  start : Char → Bool
  part : Char → Bool
  start_not_blank : ∀ c, start c = true → isBlank c = false

variable (letters : Letters)

def isIdStart (c : Char) : Bool :=
  if c.toNat < 128 then c.isAlpha || c = '_' || c = '$' else letters.start c

def isIdPart (c : Char) : Bool :=
  if c.toNat < 128 then c.isAlphanum || c = '_' || c = '$' else letters.start c || letters.part c

def isIdentifier : List Char → Bool
  | [] => false
  | c :: rest => isIdStart letters c && rest.all (isIdPart letters)

/-! ## Numbers -/

/-- Decimal digits; a leading zero stands alone. -/
def isWhole (digits : List Char) : Bool :=
  digits ≠ [] && (digits.head? ≠ some '0' || digits.length = 1)

def fractionText : Option (List Char) → List Char
  | none => []
  | some digits => '.' :: digits

def exponentText : Option (Char × List Char) → List Char
  | none => []
  | some (sign, digits) => 'e' :: sign :: digits

def Numeral.text (n : Numeral) : List Char :=
  n.whole ++ (fractionText n.fraction ++ exponentText n.exponent)

def isDigits (digits : List Char) : Bool := digits ≠ [] && digits.all Char.isDigit

/-- The parts of a numeral are digits, and no needless zero is in front. -/
def Numeral.isValid (n : Numeral) : Bool :=
  isWhole n.whole && n.whole.all Char.isDigit && n.fraction.all isDigits &&
    n.exponent.all fun e => (e.1 = '+' || e.1 = '-') && isDigits e.2

def scanFraction : List Char → Option (Option (List Char) × List Char)
  | '.' :: rest =>
    if rest.takeWhile Char.isDigit = [] then none
    else some (some (rest.takeWhile Char.isDigit), rest.dropWhile Char.isDigit)
  | rest => some (none, rest)

def scanExponent : List Char → Option (Option (Char × List Char) × List Char)
  | ['e'] => none
  | 'e' :: sign :: rest =>
    if (sign = '+' ∨ sign = '-') ∧ rest.takeWhile Char.isDigit ≠ [] then
      some (some (sign, rest.takeWhile Char.isDigit), rest.dropWhile Char.isDigit)
    else none
  | rest => some (none, rest)

/-- Neither a name nor a dot may follow a number. -/
def endsNumber : List Char → Bool
  | [] => true
  | c :: _ => !(isIdPart letters c || c = '.')

def scanNumeral (text : List Char) : Option (Numeral × List Char) :=
  let whole := text.takeWhile Char.isDigit
  if isWhole whole then
    (scanFraction (text.dropWhile Char.isDigit)).bind fun fraction =>
      (scanExponent fraction.2).bind fun exponent =>
        if endsNumber letters exponent.2 then some (⟨whole, fraction.1, exponent.1⟩, exponent.2)
        else none
  else none

/-! ## The text -/

/-- The characters that are tokens of their own. -/
def marks : List Char := ['(', ')', '[', ']', ',', '.', '!', '-']

/-- The texts of the operators; one comes before those that it begins with. -/
def operators : List (List Char × Operator) :=
  [(['=', '=', '='], .eq), (['!', '=', '='], .neq), (['>', '='], .gte), (['<', '='], .lte),
    (['>'], .gt), (['<'], .lt), (['&', '&'], .and), (['|', '|'], .or)]

def punctuator (text : List Char) : Option (Token × List Char) :=
  match operators.find? fun op => op.1.isPrefixOf text with
  | some op => some (.operator op.2, text.drop op.1.length)
  | none =>
    match text with
    | [] => none
    | c :: rest => if c ∈ marks then some (.mark c, rest) else none

/-- The first token of a text without blanks in front of it. -/
def token : List Char → Option (Token × List Char)
  | [] => none
  | c :: rest =>
    if c = '\'' ∨ c = '"' then
      (readString c (rest.length + 1) rest).map fun read => (.string read.1, read.2)
    else if isIdStart letters c then
      some (.word ((c :: rest).takeWhile (isIdPart letters)),
        (c :: rest).dropWhile (isIdPart letters))
    else if c.isDigit then
      (scanNumeral letters (c :: rest)).map fun read => (.number read.1, read.2)
    else punctuator (c :: rest)

/-- The tokens of a text, where it has ended after so many steps. -/
def lex : Nat → List Char → Option (List Token)
  | 0, _ => none
  | _ + 1, [] => some []
  | fuel + 1, c :: rest =>
    if isBlank c then lex fuel rest
    else (token letters (c :: rest)).bind fun read => (lex fuel read.2).map (read.1 :: ·)

variable {letters} {text rest behind others : List Char} {n : Numeral} {found : Token}

def Lexes (letters : Letters) (text : List Char) (tokens : List Token) : Prop :=
  ∃ fuel, lex letters fuel text = some tokens

theorem Lexes.blank {tokens : List Token} {c : Char} (isBlank : isBlank c = true)
    (behind : Lexes letters text tokens) : Lexes letters (c :: text) tokens := by
  obtain ⟨fuel, read⟩ := behind
  refine ⟨fuel + 1, ?_⟩
  rw [lex, if_pos isBlank, read]

/-! ## Tokens in front of other text -/

/-- The characters that may follow an expression. -/
def delimiters : List Char := [' ', ')', ',', ']']

/-- What is behind an expression. -/
def Delimited : List Char → Prop
  | [] => True
  | c :: _ => c ∈ delimiters

/-- What does not apply to a delimiter. -/
theorem Delimited.cases (delimited : Delimited behind) {p : Char → Prop}
    (excluded : ∀ c ∈ delimiters, ¬ p c) : ∀ c others, behind = c :: others → ¬ p c := by
  rintro c others rfl
  exact excluded c delimited

variable (letters) in
theorem delimiters_not_part : ∀ c ∈ delimiters, isIdPart letters c = false := by
  intro c inDelimiters
  simp only [delimiters, List.mem_cons, List.not_mem_nil, or_false] at inDelimiters
  rcases inDelimiters with rfl | rfl | rfl | rfl <;> rfl

theorem isIdPart_of_start {c : Char} (start : isIdStart letters c = true) :
    isIdPart letters c = true := by
  rw [isIdStart] at start
  rw [isIdPart]
  split
  · rw [if_pos ‹_›] at start
    simp only [Bool.or_eq_true, Char.isAlphanum] at start ⊢
    rcases start with (start | start) | start
    · exact .inl (.inl (.inl start))
    · exact .inl (.inr start)
    · exact .inr start
  · rw [if_neg ‹_›] at start
    rw [start, Bool.true_or]

/-- A run of characters that ends in front of a delimiter is the same alone. -/
theorem takeWhile_append_of_delimited {p : Char → Bool} (delimited : Delimited behind)
    (excluded : ∀ c ∈ delimiters, p c = false) (text : List Char) :
    (text ++ behind).takeWhile p = text.takeWhile p ∧
      (text ++ behind).dropWhile p = text.dropWhile p ++ behind := by
  have none : behind.takeWhile p = [] ∧ behind.dropWhile p = behind := by
    cases behind with
    | nil => exact ⟨rfl, rfl⟩
    | cons c others =>
      have stops := excluded c delimited
      exact ⟨List.takeWhile_cons_of_neg (by rw [stops]; exact Bool.false_ne_true),
        List.dropWhile_cons_of_neg (by rw [stops]; exact Bool.false_ne_true)⟩
  induction text with
  | nil => exact none
  | cons c text ih =>
    rw [List.cons_append, List.takeWhile_cons, List.takeWhile_cons, List.dropWhile_cons,
      List.dropWhile_cons, ih.1, ih.2]
    cases p c <;> exact ⟨rfl, rfl⟩

theorem delimiters_not_digit : ∀ c ∈ delimiters, c.isDigit = false := by
  simp [delimiters]

theorem scanFraction_append {fraction : Option (List Char)}
    (scanned : scanFraction text = some (fraction, rest)) (delimited : Delimited behind) :
    scanFraction (text ++ behind) = some (fraction, rest ++ behind) := by
  rw [scanFraction.eq_def] at scanned
  split at scanned
  · rename_i digits
    obtain ⟨taken, dropped⟩ :=
      takeWhile_append_of_delimited delimited delimiters_not_digit digits
    split at scanned
    · cases scanned
    · rename_i some
      obtain ⟨rfl, rfl⟩ := Prod.mk.inj (Option.some.inj scanned)
      rw [List.cons_append, scanFraction, taken, dropped, if_neg some]
  · rename_i noDot
    obtain ⟨rfl, rfl⟩ := Prod.mk.inj (Option.some.inj scanned)
    rw [scanFraction.eq_def]
    split
    · rename_i digits isDot
      cases text with
      | nil => exact absurd rfl (delimited.cases (p := (· = '.')) (by simp [delimiters]) _ _ isDot)
      | cons c text =>
        obtain ⟨rfl, -⟩ := List.cons.inj isDot
        exact absurd rfl (noDot text)
    · rfl

theorem scanExponent_append {exponent : Option (Char × List Char)}
    (scanned : scanExponent text = some (exponent, rest)) (delimited : Delimited behind) :
    scanExponent (text ++ behind) = some (exponent, rest ++ behind) := by
  rw [scanExponent.eq_def] at scanned
  split at scanned
  · cases scanned
  · rename_i sign digits
    obtain ⟨taken, dropped⟩ :=
      takeWhile_append_of_delimited delimited delimiters_not_digit digits
    split at scanned
    · rename_i valid
      obtain ⟨rfl, rfl⟩ := Prod.mk.inj (Option.some.inj scanned)
      rw [List.cons_append, List.cons_append, scanExponent, taken, dropped, if_pos valid]
    · cases scanned
  · rename_i alone more
    obtain ⟨rfl, rfl⟩ := Prod.mk.inj (Option.some.inj scanned)
    cases text with
    | nil =>
      rw [List.nil_append]
      cases behind with
      | nil => rfl
      | cons c others =>
        rw [scanExponent.eq_def]
        split
        · rename_i isE
          exact absurd rfl (delimited.cases (p := (· = 'e')) (by simp [delimiters]) _ _ isE)
        · rename_i isE
          exact absurd rfl (delimited.cases (p := (· = 'e')) (by simp [delimiters]) _ _ isE)
        · rfl
    | cons c text =>
      rw [scanExponent.eq_def]
      split
      · rename_i isE
        obtain ⟨rfl, empty⟩ := List.cons.inj isE
        rw [(List.append_eq_nil_iff.mp empty).1] at alone
        exact absurd rfl alone
      · rename_i sign digits isE
        obtain ⟨rfl, others⟩ := List.cons.inj isE
        cases text with
        | nil => exact absurd rfl alone
        | cons d text => exact absurd rfl (more d text)
      · rfl

theorem endsNumber_append (ends : endsNumber letters text = true)
    (delimited : Delimited behind) : endsNumber letters (text ++ behind) = true := by
  cases text with
  | nil =>
    cases behind with
    | nil => rfl
    | cons c others =>
      have dot : ¬ c = '.' := delimited.cases (p := (· = '.')) (by simp [delimiters]) c others rfl
      rw [List.nil_append, endsNumber, delimiters_not_part letters c delimited, decide_eq_false dot]
      rfl
  | cons c text => exact ends

theorem scanNumeral_append (scanned : scanNumeral letters text = some (n, rest))
    (delimited : Delimited behind) :
    scanNumeral letters (text ++ behind) = some (n, rest ++ behind) := by
  obtain ⟨taken, dropped⟩ := takeWhile_append_of_delimited delimited delimiters_not_digit text
  rw [scanNumeral] at scanned ⊢
  rw [taken, dropped]
  split at scanned
  · rename_i whole
    obtain ⟨⟨fraction, middle⟩, fractionRead, scanned⟩ := Option.bind_eq_some_iff.mp scanned
    obtain ⟨⟨exponent, last⟩, exponentRead, scanned⟩ := Option.bind_eq_some_iff.mp scanned
    dsimp only at scanned exponentRead
    split at scanned
    · rename_i ends
      obtain ⟨rfl, rfl⟩ := Prod.mk.inj (Option.some.inj scanned)
      rw [if_pos whole, scanFraction_append fractionRead delimited, Option.bind_some,
        scanExponent_append exponentRead delimited, Option.bind_some,
        if_pos (endsNumber_append ends delimited)]
    · cases scanned
  · cases scanned

/-- An operator is not made longer by a delimiter. -/
theorem isPrefixOf_append {op : List Char} (free : ∀ c ∈ op, c ∉ delimiters)
    (delimited : Delimited behind) : op.isPrefixOf (text ++ behind) = op.isPrefixOf text := by
  rw [Bool.eq_iff_iff, List.isPrefixOf_iff_prefix, List.isPrefixOf_iff_prefix]
  refine ⟨fun before => ?_, fun before => before.trans (List.prefix_append _ _)⟩
  rcases List.prefix_or_prefix_of_prefix before (List.prefix_append text behind) with
    inside | ⟨more, rfl⟩
  · exact inside
  · cases more with
    | nil => simp
    | cons c more =>
      obtain ⟨others, rfl⟩ := (List.prefix_append_right_inj text).mp before
      exact absurd delimited (free c (List.mem_append_right _ List.mem_cons_self))

theorem operators_free : ∀ op ∈ operators, ∀ c ∈ op.1, c ∉ delimiters := by
  simp [operators, delimiters]

theorem punctuator_append (read : punctuator text = some (found, rest))
    (delimited : Delimited behind) :
    punctuator (text ++ behind) = some (found, rest ++ behind) := by
  have same : (operators.find? fun op => op.1.isPrefixOf (text ++ behind)) =
      operators.find? fun op => op.1.isPrefixOf text :=
    List.find?_congr fun op inOperators =>
      isPrefixOf_append (operators_free op inOperators) delimited
  unfold punctuator at read ⊢
  rw [same]
  cases matched : operators.find? fun op => op.1.isPrefixOf text with
  | some op =>
    rw [matched] at read
    obtain ⟨rfl, rfl⟩ := Prod.mk.inj (Option.some.inj read)
    have isPrefix : op.1.isPrefixOf text = true := by simpa using List.find?_some matched
    have before := List.isPrefixOf_iff_prefix.mp isPrefix
    dsimp only
    rw [List.drop_append_of_le_length before.length_le]
  | none =>
    rw [matched] at read
    dsimp only at read ⊢
    cases text with
    | nil => cases read
    | cons c text =>
      rw [List.cons_append]
      dsimp only at read ⊢
      split at read
      · rename_i isMark
        obtain ⟨rfl, rfl⟩ := Prod.mk.inj (Option.some.inj read)
        exact if_pos isMark
      · cases read

theorem token_append (read : token letters text = some (found, rest))
    (delimited : Delimited behind) :
    token letters (text ++ behind) = some (found, rest ++ behind) := by
  cases text with
  | nil => cases read
  | cons c text =>
    rw [token] at read
    rw [List.cons_append, token]
    by_cases quote : c = '\'' ∨ c = '"'
    · rw [if_pos quote] at read ⊢
      obtain ⟨⟨units, others⟩, string, same⟩ := Option.map_eq_some_iff.mp read
      obtain ⟨rfl, rfl⟩ := Prod.mk.inj same
      rw [readString_append string (by rw [List.length_append]; omega)]
      rfl
    rw [if_neg quote] at read ⊢
    by_cases start : isIdStart letters c = true
    · rw [if_pos start] at read ⊢
      obtain ⟨rfl, rfl⟩ := Prod.mk.inj (Option.some.inj read)
      obtain ⟨taken, dropped⟩ :=
        takeWhile_append_of_delimited delimited (delimiters_not_part letters)
          (c :: text)
      rw [← List.cons_append, taken, dropped]
    rw [if_neg start] at read ⊢
    by_cases digit : c.isDigit = true
    · rw [if_pos digit] at read ⊢
      obtain ⟨⟨n, others⟩, number, same⟩ := Option.map_eq_some_iff.mp read
      obtain ⟨rfl, rfl⟩ := Prod.mk.inj same
      rw [← List.cons_append, scanNumeral_append number delimited]
      rfl
    · rw [if_neg digit] at read ⊢
      exact punctuator_append read delimited

theorem length_scanFraction {fraction : Option (List Char)}
    (scanned : scanFraction text = some (fraction, rest)) : rest.length ≤ text.length := by
  rw [scanFraction.eq_def] at scanned
  split at scanned
  · split at scanned
    · cases scanned
    · obtain ⟨rfl, rfl⟩ := Prod.mk.inj (Option.some.inj scanned)
      exact Nat.le_succ_of_le (List.dropWhile_sublist _).length_le
  · obtain ⟨rfl, rfl⟩ := Prod.mk.inj (Option.some.inj scanned)
    exact Nat.le_refl _

theorem length_scanExponent {exponent : Option (Char × List Char)}
    (scanned : scanExponent text = some (exponent, rest)) : rest.length ≤ text.length := by
  rw [scanExponent.eq_def] at scanned
  split at scanned
  · cases scanned
  · split at scanned
    · obtain ⟨rfl, rfl⟩ := Prod.mk.inj (Option.some.inj scanned)
      exact Nat.le_succ_of_le (Nat.le_succ_of_le (List.dropWhile_sublist _).length_le)
    · cases scanned
  · obtain ⟨rfl, rfl⟩ := Prod.mk.inj (Option.some.inj scanned)
    exact Nat.le_refl _

theorem scanNumeral_shorter (scanned : scanNumeral letters text = some (n, rest)) :
    rest.length < text.length := by
  rw [scanNumeral] at scanned
  split at scanned
  · rename_i whole
    obtain ⟨⟨fraction, middle⟩, fractionRead, scanned⟩ := Option.bind_eq_some_iff.mp scanned
    obtain ⟨⟨exponent, last⟩, exponentRead, scanned⟩ := Option.bind_eq_some_iff.mp scanned
    dsimp only at scanned exponentRead
    split at scanned
    · obtain ⟨rfl, rfl⟩ := Prod.mk.inj (Option.some.inj scanned)
      have digits : text.takeWhile Char.isDigit ≠ [] := by
        intro empty
        rw [empty] at whole
        cases whole
      have split := congrArg List.length
        (List.takeWhile_append_dropWhile (p := Char.isDigit) (l := text))
      rw [List.length_append] at split
      have positive := List.length_pos_iff.mpr digits
      have shorter := length_scanFraction fractionRead
      have further := length_scanExponent exponentRead
      omega
    · cases scanned
  · cases scanned

theorem operators_nonempty : ∀ op ∈ operators, op.1 ≠ [] := by decide

theorem punctuator_shorter (read : punctuator text = some (found, rest)) :
    rest.length < text.length := by
  unfold punctuator at read
  split at read
  · rename_i op matched
    obtain ⟨rfl, rfl⟩ := Prod.mk.inj (Option.some.inj read)
    have isPrefix : op.1.isPrefixOf text = true := by simpa using List.find?_some matched
    have before := List.isPrefixOf_iff_prefix.mp isPrefix
    have positive := List.length_pos_iff.mpr
      (operators_nonempty op (List.mem_of_find?_eq_some matched))
    have inside := before.length_le
    rw [List.length_drop]
    omega
  · cases text with
    | nil => cases read
    | cons c text =>
      dsimp only at read
      split at read
      · obtain ⟨rfl, rfl⟩ := Prod.mk.inj (Option.some.inj read)
        exact Nat.lt_succ_self _
      · cases read

theorem token_shorter (read : token letters text = some (found, rest)) :
    rest.length < text.length := by
  cases text with
  | nil => cases read
  | cons c text =>
    rw [token] at read
    split at read
    · obtain ⟨⟨units, others⟩, string, same⟩ := Option.map_eq_some_iff.mp read
      obtain ⟨rfl, rfl⟩ := Prod.mk.inj same
      exact Nat.lt_succ_of_lt (readString_shorter string)
    split at read
    · rename_i start
      obtain ⟨rfl, rfl⟩ := Prod.mk.inj (Option.some.inj read)
      rw [List.dropWhile_cons_of_pos (isIdPart_of_start start), List.length_cons]
      exact Nat.lt_succ_of_le (List.dropWhile_sublist _).length_le
    split at read
    · obtain ⟨⟨n, others⟩, number, same⟩ := Option.map_eq_some_iff.mp read
      obtain ⟨rfl, rfl⟩ := Prod.mk.inj same
      exact scanNumeral_shorter number
    · exact punctuator_shorter read

/-! ## The text as a sequence of tokens -/

theorem lex_of_enough {tokens : List Token} {fuel more : Nat}
    (read : lex letters fuel text = some tokens) (enough : text.length < more) :
    lex letters more text = some tokens := by
  induction fuel generalizing more text tokens with
  | zero => cases read
  | succ fuel ih =>
    obtain ⟨more, rfl⟩ : ∃ others, more = others + 1 := ⟨more - 1, by omega⟩
    cases text with
    | nil => exact read
    | cons c text =>
      rw [List.length_cons] at enough
      rw [lex] at read ⊢
      split at read
      · rename_i blank
        rw [if_pos blank]
        exact ih read (by omega)
      · rename_i blank
        obtain ⟨⟨found, rest⟩, first, read⟩ := Option.bind_eq_some_iff.mp read
        obtain ⟨others, later, rfl⟩ := Option.map_eq_some_iff.mp read
        have shorter := token_shorter first
        rw [List.length_cons] at shorter
        rw [if_neg blank, first, Option.bind_some, ih later (by dsimp only; omega)]
        rfl

namespace Lexes

variable {tokens before after : List Token} {c : Char}

theorem nil : Lexes letters [] [] := ⟨1, rfl⟩

theorem cons (noBlank : ¬ isBlank c = true) (first : token letters (c :: text) = some (found, rest))
    (behind : Lexes letters rest tokens) : Lexes letters (c :: text) (found :: tokens) := by
  obtain ⟨fuel, read⟩ := behind
  refine ⟨fuel + 1, ?_⟩
  rw [lex, if_neg noBlank, first, Option.bind_some, read]
  rfl

/-- How the tokens of a text begin. -/
theorem cases (whole : Lexes letters (c :: text) tokens) :
    (isBlank c = true ∧ Lexes letters text tokens) ∨
      (¬ isBlank c = true ∧ ∃ found rest others, token letters (c :: text) = some (found, rest) ∧
        tokens = found :: others ∧ Lexes letters rest others) := by
  obtain ⟨fuel, read⟩ := whole
  cases fuel with
  | zero => cases read
  | succ fuel =>
    rw [lex] at read
    split at read
    · rename_i blank
      exact .inl ⟨blank, fuel, read⟩
    · rename_i blank
      obtain ⟨⟨found, rest⟩, first, read⟩ := Option.bind_eq_some_iff.mp read
      obtain ⟨others, later, rfl⟩ := Option.map_eq_some_iff.mp read
      exact .inr ⟨blank, found, rest, others, first, rfl, fuel, later⟩

theorem of_nil (whole : Lexes letters [] tokens) : tokens = [] := by
  obtain ⟨fuel, read⟩ := whole
  cases fuel with
  | zero => cases read
  | succ fuel => exact (Option.some.inj read).symm

/-- A text that ends in front of a delimiter has its tokens whatever follows. -/
theorem append (front : Lexes letters text before) (delimited : Delimited behind)
    (back : Lexes letters behind after) : Lexes letters (text ++ behind) (before ++ after) := by
  obtain ⟨fuel, read⟩ := front
  induction fuel generalizing text before with
  | zero => cases read
  | succ fuel ih =>
    cases text with
    | nil =>
      obtain rfl := Option.some.inj read
      exact back
    | cons c text =>
      rw [lex] at read
      split at read
      · rename_i blank
        exact (ih read).blank blank
      · rename_i blank
        obtain ⟨⟨found, rest⟩, first, read⟩ := Option.bind_eq_some_iff.mp read
        obtain ⟨others, later, rfl⟩ := Option.map_eq_some_iff.mp read
        exact cons blank (token_append first delimited) (ih later)

/-- The tokens of a text that is followed by others begin with its own. -/
theorem split (whole : Lexes letters (text ++ behind) tokens) (front : Lexes letters text before)
    (delimited : Delimited behind) :
    ∃ after, tokens = before ++ after ∧ Lexes letters behind after := by
  obtain ⟨fuel, read⟩ := front
  induction fuel generalizing text before tokens with
  | zero => cases read
  | succ fuel ih =>
    cases text with
    | nil =>
      obtain rfl := Option.some.inj read
      exact ⟨tokens, rfl, whole⟩
    | cons c text =>
      rw [lex] at read
      rcases whole.cases with ⟨blank, whole⟩ | ⟨noBlank, found, rest, others, first, rfl, whole⟩
      · rw [if_pos blank] at read
        exact ih whole read
      · rw [if_neg noBlank] at read
        obtain ⟨⟨found', rest'⟩, first', read⟩ := Option.bind_eq_some_iff.mp read
        obtain ⟨others', later, rfl⟩ := Option.map_eq_some_iff.mp read
        have same := first.symm.trans (token_append first' delimited)
        obtain ⟨rfl, rfl⟩ := Prod.mk.inj (Option.some.inj same)
        obtain ⟨after, rfl, back⟩ := ih whole later
        exact ⟨after, rfl, back⟩

theorem unique (first : Lexes letters text before) (second : Lexes letters text after) :
    before = after := by
  rw [← List.append_nil text] at second
  obtain ⟨others, rfl, none⟩ := second.split first trivial
  rw [none.of_nil, List.append_nil]

theorem of_blank (whole : Lexes letters (c :: text) tokens) (blank : isBlank c = true) :
    Lexes letters text tokens := by
  rcases whole.cases with ⟨-, behind⟩ | ⟨noBlank, -⟩
  · exact behind
  · exact absurd blank noBlank

/-- What a token at the front leaves has the other tokens. -/
theorem tail (whole : Lexes letters (c :: text) tokens) (noBlank : ¬ isBlank c = true)
    (first : token letters (c :: text) = some (found, rest)) :
    ∃ others, tokens = found :: others ∧ Lexes letters rest others := by
  rcases whole.cases with ⟨blank, -⟩ | ⟨-, found', rest', others, first', rfl, whole⟩
  · exact absurd blank noBlank
  · obtain ⟨rfl, rfl⟩ := Prod.mk.inj (Option.some.inj (first.symm.trans first'))
    exact ⟨others, rfl, whole⟩

end Lexes

theorem lexes_iff {tokens : List Token} :
    Lexes letters text tokens ↔ lex letters (text.length + 1) text = some tokens :=
  ⟨fun ⟨_, read⟩ => lex_of_enough read (Nat.lt_succ_self _), fun read => ⟨_, read⟩⟩

section Texts

theorem takeWhile_digits {digits : List Char} (all : digits.all Char.isDigit = true)
    (ends : ∀ c others, rest = c :: others → c.isDigit = false) :
    (digits ++ rest).takeWhile Char.isDigit = digits ∧
      (digits ++ rest).dropWhile Char.isDigit = rest := by
  have each := List.all_eq_true.mp all
  refine ⟨?_, ?_⟩
  · rw [List.takeWhile_append_of_pos each]
    cases rest with
    | nil => rw [List.takeWhile_nil, List.append_nil]
    | cons c others =>
      rw [List.takeWhile_cons_of_neg (by rw [ends c others rfl]; exact Bool.false_ne_true),
        List.append_nil]
  · rw [List.dropWhile_append_of_pos each]
    cases rest with
    | nil => rfl
    | cons c others =>
      exact List.dropWhile_cons_of_neg (by rw [ends c others rfl]; exact Bool.false_ne_true)

/-- An exponent begins with a letter, so the digits in front end there. -/
theorem exponentText_ends (exponent : Option (Char × List Char)) :
    ∀ c others, exponentText exponent = c :: others → c.isDigit = false := by
  intro c others isText
  cases exponent with
  | none => cases isText
  | some parts =>
    obtain ⟨rfl, -⟩ := List.cons.inj isText
    rfl

theorem fractionText_ends (fraction : Option (List Char)) (exponent : Option (Char × List Char)) :
    ∀ c others, fractionText fraction ++ exponentText exponent = c :: others →
      c.isDigit = false := by
  cases fraction with
  | none => exact exponentText_ends exponent
  | some digits =>
    intro c others isText
    obtain ⟨rfl, -⟩ := List.cons.inj isText
    rfl

theorem scanFraction_text {fraction : Option (List Char)}
    (valid : fraction.all isDigits = true) (exponent : Option (Char × List Char)) :
    scanFraction (fractionText fraction ++ exponentText exponent) =
      some (fraction, exponentText exponent) := by
  cases fraction with
  | none =>
    rw [fractionText, List.nil_append]
    cases exponent with
    | none => rfl
    | some parts => rfl
  | some digits =>
    obtain ⟨nonempty, all⟩ := Bool.and_eq_true_iff.mp (show isDigits digits = true from valid)
    obtain ⟨taken, dropped⟩ := takeWhile_digits all (exponentText_ends exponent)
    rw [fractionText, List.cons_append, scanFraction, taken, dropped,
      if_neg (of_decide_eq_true nonempty)]

theorem scanExponent_text {exponent : Option (Char × List Char)}
    (valid : exponent.all (fun e => (e.1 = '+' || e.1 = '-') && isDigits e.2) = true) :
    scanExponent (exponentText exponent) = some (exponent, []) := by
  cases exponent with
  | none => rfl
  | some parts =>
    obtain ⟨sign, digits⟩ := parts
    obtain ⟨isSign, isDigits⟩ := Bool.and_eq_true_iff.mp
      (show ((sign = '+' || sign = '-') && isDigits digits) = true from valid)
    obtain ⟨nonempty, all⟩ := Bool.and_eq_true_iff.mp isDigits
    have ends : ∀ (c : Char) (others : List Char), [] = c :: others → c.isDigit = false :=
      fun _ _ => nofun
    obtain ⟨taken, dropped⟩ := takeWhile_digits all ends
    rw [List.append_nil] at taken dropped
    have signed : sign = '+' ∨ sign = '-' := by simpa using isSign
    rw [exponentText, scanExponent, taken, dropped,
      if_pos ⟨signed, of_decide_eq_true nonempty⟩]

theorem scanNumeral_text (valid : n.isValid = true) :
    scanNumeral letters n.text = some (n, []) := by
  obtain ⟨⟨⟨whole, all⟩, fraction⟩, exponent⟩ :
      ((isWhole n.whole = true ∧ n.whole.all Char.isDigit = true) ∧
        n.fraction.all isDigits = true) ∧ _ := by
    simpa only [Numeral.isValid, Bool.and_eq_true] using valid
  obtain ⟨taken, dropped⟩ := takeWhile_digits all (fractionText_ends n.fraction n.exponent)
  rw [scanNumeral, Numeral.text, taken, dropped, if_pos whole, scanFraction_text fraction,
    Option.bind_some, scanExponent_text exponent, Option.bind_some]
  rfl

variable (letters text) in
theorem token_of_digit {c : Char} (digit : c.isDigit = true) :
    isBlank c = false ∧ token letters (c :: text) =
      (scanNumeral letters (c :: text)).map fun read => (.number read.1, read.2) := by
  have digits : c ∈ ['0', '1', '2', '3', '4', '5', '6', '7', '8', '9'] := by
    have range : 48 ≤ c.toNat ∧ c.toNat ≤ 57 := by
      simpa [Char.isDigit, UInt32.le_iff_toNat_le] using digit
    have same : Char.ofNat c.toNat = c := Char.ofNat_toNat c
    obtain ⟨least, most⟩ := range
    interval_cases c.toNat <;> simp [← same]
  simp only [List.mem_cons, List.not_mem_nil, or_false] at digits
  rcases digits with rfl | rfl | rfl | rfl | rfl | rfl | rfl | rfl | rfl | rfl <;>
    exact ⟨rfl, rfl⟩

theorem lexes_number (valid : n.isValid = true) : Lexes letters n.text [.number n] := by
  have scanned : scanNumeral letters _ = _ := scanNumeral_text valid
  cases whole : n.text with
  | nil =>
    rw [whole] at scanned
    cases scanned
  | cons c others =>
    rw [whole] at scanned
    have digit : c.isDigit = true := by
      by_contra notDigit
      rw [scanNumeral, List.takeWhile_cons_of_neg notDigit] at scanned
      cases scanned
    obtain ⟨noBlank, number⟩ := token_of_digit letters others digit
    rw [scanned] at number
    exact .cons (by rw [noBlank]; exact Bool.false_ne_true) number .nil

theorem isIdStart_not_blank {c : Char} (start : isIdStart letters c = true) :
    isBlank c = false := by
  rw [isIdStart] at start
  split at start
  · cases blank : isBlank c with
    | false => rfl
    | true =>
      rw [isBlank, decide_eq_true_eq] at blank
      simp only [List.mem_cons, List.not_mem_nil, or_false] at blank
      rcases blank with rfl | rfl | rfl | rfl | rfl | rfl | rfl | rfl | rfl | rfl <;>
        cases start
  · exact letters.start_not_blank c start

theorem isIdStart_not_quote {c : Char} (start : isIdStart letters c = true) :
    ¬ (c = '\'' ∨ c = '"') := by
  rintro (rfl | rfl) <;> cases start

theorem lexes_word {name : List Char} (identifier : isIdentifier letters name = true) :
    Lexes letters name [.word name] := by
  cases name with
  | nil => cases identifier
  | cons c others =>
    obtain ⟨start, parts⟩ := Bool.and_eq_true_iff.mp identifier
    have all : ∀ d ∈ c :: others, isIdPart letters d = true :=
      List.forall_mem_cons.mpr ⟨isIdPart_of_start start, List.all_eq_true.mp parts⟩
    have whole : token letters (c :: others) = some (.word (c :: others), []) := by
      rw [token, if_neg (isIdStart_not_quote start), if_pos start,
        List.takeWhile_eq_self_iff.mpr all, List.dropWhile_eq_nil_iff.mpr all]
    exact .cons (by rw [isIdStart_not_blank start]; exact Bool.false_ne_true) whole .nil

theorem isIdentifier_of_token {name : List Char}
    (read : token letters text = some (.word name, rest)) : isIdentifier letters name = true := by
  cases text with
  | nil => cases read
  | cons c text =>
    rw [token] at read
    split at read
    · obtain ⟨string, -, same⟩ := Option.map_eq_some_iff.mp read
      cases same
    split at read
    · rename_i start
      obtain ⟨isWord, -⟩ := Prod.mk.inj (Option.some.inj read)
      obtain rfl := Token.word.inj isWord
      rw [List.takeWhile_cons_of_pos (isIdPart_of_start start)]
      exact Bool.and_eq_true_iff.mpr ⟨start, List.all_takeWhile⟩
    split at read
    · obtain ⟨number, -, same⟩ := Option.map_eq_some_iff.mp read
      cases same
    · unfold punctuator at read
      split at read
      · cases read
      · dsimp only at read
        split at read <;> cases read

theorem Lexes.isIdentifier {tokens : List Token} (whole : Lexes letters text tokens) :
    ∀ name, .word name ∈ tokens → isIdentifier letters name = true := by
  obtain ⟨fuel, read⟩ := whole
  induction fuel generalizing text tokens with
  | zero => cases read
  | succ fuel ih =>
    cases text with
    | nil =>
      obtain rfl := Option.some.inj read
      exact fun name inNil => absurd inNil List.not_mem_nil
    | cons c text =>
      rw [lex] at read
      split at read
      · exact ih read
      · obtain ⟨⟨found, rest⟩, first, read⟩ := Option.bind_eq_some_iff.mp read
        obtain ⟨others, later, rfl⟩ := Option.map_eq_some_iff.mp read
        intro name inTokens
        rcases List.mem_cons.mp inTokens with here | behind
        · exact isIdentifier_of_token (first.trans (by rw [here]))
        · exact ih later name behind

/-- A literal between quotes. -/
def quoted (s : List Char) : List Char := '\'' :: (quoteEscaped s ++ ['\''])

theorem token_quoted {s : List Char} (clean : Clean s) (behind : List Char) :
    token letters (quoted s ++ behind) = some (.string (units s), behind) := by
  have enough : (quoteEscaped s).length < (quoteEscaped s ++ '\'' :: behind).length + 1 := by
    rw [List.length_append]
    omega
  rw [quoted, List.cons_append, List.append_assoc, List.singleton_append, token, if_pos (.inl rfl),
    readString_of_clean clean behind _ enough]
  rfl

/-- What is read back from its literal has nothing in it that needs an escape but quotes. -/
theorem clean_of_token {s behind : List Char}
    (read : token letters (quoted s ++ behind) = some (.string (units s), rest)) : Clean s := by
  rw [quoted, List.cons_append, List.append_assoc, List.singleton_append, token,
    if_pos (.inl rfl)] at read
  obtain ⟨⟨string, others⟩, returned, same⟩ := Option.map_eq_some_iff.mp read
  obtain ⟨isString, -⟩ := Prod.mk.inj same
  obtain rfl := Token.string.inj isString
  exact clean_of_readString returned

end Texts

end ErpFinance.Sdui.JavaScript
