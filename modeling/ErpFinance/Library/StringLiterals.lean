import Mathlib.Data.List.Basic
import Mathlib.Data.List.TakeWhile

/-!
# String literals of JavaScript

The characters of a literal between quotes, and the code units that they
denote.  A text whose quotes alone are escaped is read back from its literal
exactly when it has no backslash, line feed or carriage return.
-/

namespace ErpFinance.Library.JavaScript

/-! ## Reading a literal -/

/-- The code units of a code point in UTF-16. -/
def codeUnits (n : Nat) : List Nat :=
  if n < 0x10000 then [n] else [0xD800 + (n - 0x10000) / 0x400, 0xDC00 + (n - 0x10000) % 0x400]

def units (text : List Char) : List Nat := text.flatMap fun c => codeUnits c.toNat

def hexValue (c : Char) : Option Nat :=
  if '0' ≤ c ∧ c ≤ '9' then some (c.toNat - '0'.toNat)
  else if 'a' ≤ c ∧ c ≤ 'f' then some (c.toNat - 'a'.toNat + 10)
  else if 'A' ≤ c ∧ c ≤ 'F' then some (c.toNat - 'A'.toNat + 10)
  else none

/-- A number of so many hexadecimal digits. -/
def hexDigits : Nat → Nat → List Char → Option (Nat × List Char)
  | 0, n, rest => some (n, rest)
  | _ + 1, _, [] => none
  | count + 1, n, c :: rest => (hexValue c).bind fun d => hexDigits count (16 * n + d) rest

def isOctal (c : Char) : Bool := '0' ≤ c && c ≤ '7'

/-- A number of at most so many octal digits. -/
def octalDigits : Nat → Nat → List Char → Nat × List Char
  | 0, n, rest => (n, rest)
  | _ + 1, n, [] => (n, [])
  | count + 1, n, c :: rest =>
    if isOctal c then octalDigits count (8 * n + (c.toNat - '0'.toNat)) rest else (n, c :: rest)

def isHex (c : Char) : Bool := (hexValue c).isSome

/-- What follows `\u`. -/
def unicodeEscape : List Char → Option (List Nat × List Char)
  | '{' :: rest =>
    match rest.dropWhile isHex with
    | '}' :: others =>
      let value := (rest.takeWhile isHex).foldl (fun n c => 16 * n + (hexValue c).getD 0) 0
      if rest.takeWhile isHex ≠ [] ∧ value ≤ 0x10FFFF then some (codeUnits value, others)
      else none
    | _ => none
  | rest => (hexDigits 4 0 rest).map fun read => ([read.1], read.2)

/-- The code units of an escaped character that is none of the others. -/
def singleEscape : Char → List Nat
  | 'b' => [8]
  | 't' => [9]
  | 'n' => [10]
  | 'v' => [11]
  | 'f' => [12]
  | 'r' => [13]
  | c => codeUnits c.toNat

/-- What follows a backslash: the code units that it denotes, none for a line that goes on, and the
text behind. -/
def escape : List Char → Option (List Nat × List Char)
  | [] => none
  | c :: rest =>
    if c = '\r' then some ([], if rest.head? = some '\n' then rest.tail else rest)
    else if c = '\n' ∨ c = '\u2028' ∨ c = '\u2029' then some ([], rest)
    else if c = 'x' then (hexDigits 2 0 rest).map fun read => ([read.1], read.2)
    else if c = 'u' then unicodeEscape rest
    else if isOctal c then
      let read := octalDigits (if c ≤ '3' then 2 else 1) (c.toNat - '0'.toNat) rest
      some ([read.1], read.2)
    else some (singleEscape c, rest)

/-- The code units up to the closing quote, and the text behind it. -/
def readString (quote : Char) : Nat → List Char → Option (List Nat × List Char)
  | 0, _ => none
  | _ + 1, [] => none
  | fuel + 1, c :: rest =>
    if c = quote then some ([], rest)
    else if c = '\\' then
      (escape rest).bind fun read =>
        (readString quote fuel read.2).map fun others => (read.1 ++ others.1, others.2)
    else if c = '\n' ∨ c = '\r' then none
    else (readString quote fuel rest).map fun others => (codeUnits c.toNat ++ others.1, others.2)

/-! ## Texts whose quotes are escaped -/

/-- A text with a backslash before each single quote. -/
def quoteEscaped (text : List Char) : List Char :=
  text.flatMap fun c => if c = '\'' then ['\\', '\''] else [c]

/-- The texts that are read back. -/
def Clean (text : List Char) : Prop := ∀ c ∈ text, c ≠ '\\' ∧ c ≠ '\n' ∧ c ≠ '\r'

instance (text : List Char) : Decidable (Clean text) :=
  List.decidableBAll (fun c => c ≠ '\\' ∧ c ≠ '\n' ∧ c ≠ '\r') text

theorem quoteEscaped_cons (c : Char) (text : List Char) :
    quoteEscaped (c :: text) =
      (if c = '\'' then ['\\', '\''] else [c]) ++ quoteEscaped text := List.flatMap_cons

theorem units_cons (c : Char) (text : List Char) :
    units (c :: text) = codeUnits c.toNat ++ units text := List.flatMap_cons

theorem units_append (text more : List Char) : units (text ++ more) = units text ++ units more :=
  List.flatMap_append

/-- A text without backslashes and line ends is read back. -/
theorem readString_of_clean {text : List Char} (clean : Clean text) (rest : List Char) (fuel : Nat)
    (enough : (quoteEscaped text).length < fuel) :
    readString '\'' fuel (quoteEscaped text ++ '\'' :: rest) = some (units text, rest) := by
  induction text generalizing fuel with
  | nil =>
    obtain ⟨fuel, rfl⟩ : ∃ more, fuel = more + 1 := ⟨fuel - 1, by omega⟩
    exact if_pos rfl
  | cons c text ih =>
    obtain ⟨⟨noBackslash, noFeed, noReturn⟩, others⟩ := List.forall_mem_cons.mp clean
    obtain ⟨fuel, rfl⟩ : ∃ more, fuel = more + 1 := ⟨fuel - 1, by omega⟩
    rw [quoteEscaped_cons, List.length_append] at enough
    rw [quoteEscaped_cons, units_cons]
    by_cases quote : c = '\''
    · subst quote
      have read : escape ('\'' :: (quoteEscaped text ++ '\'' :: rest)) =
          some ([39], quoteEscaped text ++ '\'' :: rest) := rfl
      rw [if_pos rfl] at enough ⊢
      rw [List.cons_append, List.cons_append, List.singleton_append, List.cons_append, readString,
        if_neg (by decide), if_pos rfl, read, Option.bind_some,
        ih others fuel (by simp at enough; omega)]
      rfl
    · rw [if_neg quote] at enough ⊢
      rw [List.singleton_append, List.cons_append, readString, if_neg quote, if_neg noBackslash,
        if_neg (by simp [noFeed, noReturn]),
        ih others fuel (by rw [List.length_singleton] at enough; omega)]
      rfl

/-! ## What a literal is read from

Every quote among the characters that are read was escaped and is among the
code units, and every escape is longer than what it denotes. -/

/-- The characters, besides the quote, that a literal has only in escapes. -/
def isMark (c : Char) : Bool := c = '\\' || c = '\n' || c = '\r'

/-- The characters from which code units are read. -/
structure ReadFrom (consumed : List Char) (read : List Nat) : Prop where
  shorter : 2 * read.length + consumed.countP isMark + consumed.count '\'' ≤
    2 * (units consumed).length
  quotes : consumed.count '\'' ≤ read.count '\''.toNat

theorem ReadFrom.append {consumed more : List Char} {read others : List Nat}
    (first : ReadFrom consumed read) (later : ReadFrom more others) :
    ReadFrom (consumed ++ more) (read ++ others) := by
  obtain ⟨shorter, quotes⟩ := first
  obtain ⟨shorter', quotes'⟩ := later
  refine ⟨?_, ?_⟩
  · rw [List.length_append, List.countP_append, List.count_append, units_append, List.length_append]
    omega
  · rw [List.count_append, List.count_append]
    omega

theorem length_codeUnits (n : Nat) : 1 ≤ (codeUnits n).length ∧ (codeUnits n).length ≤ 2 := by
  rw [codeUnits]
  split <;> simp

/-- A character that stands for itself. -/
def IsPlain (c : Char) : Prop := isMark c = false ∧ c ≠ '\''

instance (c : Char) : Decidable (IsPlain c) := inferInstanceAs (Decidable (_ ∧ _))

variable {c : Char}

theorem IsPlain.counts (plain : IsPlain c) :
    [c].countP isMark = 0 ∧ [c].count '\'' = 0 := by
  obtain ⟨unmarked, noQuote⟩ := plain
  refine ⟨?_, List.count_eq_zero.mpr fun inChar => noQuote (List.mem_singleton.mp inChar).symm⟩
  rw [List.countP_singleton, unmarked]
  rfl

theorem readFrom_self (plain : IsPlain c) : ReadFrom [c] (codeUnits c.toNat) := by
  obtain ⟨unmarked, noQuote⟩ := plain.counts
  refine ⟨?_, ?_⟩
  · rw [unmarked, noQuote, units_cons, List.length_append]
    omega
  · rw [noQuote]
    exact Nat.zero_le _

/-- The characters of escapes other than the character that is escaped. -/
def Digits (text : List Char) : Prop := ∀ c ∈ text, IsPlain c

theorem digits_nil : Digits [] := fun _ inNil => absurd inNil List.not_mem_nil

theorem Digits.counts {text : List Char} (digits : Digits text) :
    text.countP isMark = 0 ∧ text.count '\'' = 0 ∧ text.length ≤ (units text).length := by
  induction text with
  | nil => exact ⟨rfl, rfl, Nat.le_refl 0⟩
  | cons c text ih =>
    obtain ⟨plain, digits⟩ := List.forall_mem_cons.mp digits
    obtain ⟨unmarked, noQuote⟩ := plain.counts
    obtain ⟨marks, quotes, length⟩ := ih digits
    have long := length_codeUnits c.toNat
    refine ⟨?_, ?_, ?_⟩
    · rw [← List.singleton_append, List.countP_append, unmarked, marks]
    · rw [← List.singleton_append, List.count_append, noQuote, quotes]
    · rw [units_cons, List.length_append, List.length_cons]
      omega

theorem readFrom_escape {text : List Char} {read : List Nat} (digits : Digits text)
    (long : read.length ≤ text.length) (some : text ≠ []) : ReadFrom ('\\' :: text) read := by
  obtain ⟨noMark, noQuote, units⟩ := digits.counts
  have positive := List.length_pos_iff.mpr some
  refine ⟨?_, ?_⟩
  · rw [List.countP_cons_of_pos rfl, List.count_cons_of_ne (by decide), noMark, noQuote,
      units_cons, List.length_append]
    have one : (codeUnits '\\'.toNat).length = 1 := rfl
    omega
  · rw [List.count_cons_of_ne (by decide), noQuote]
    exact Nat.zero_le _

theorem isPlain_of_range {p : Char → Bool} (excluded : ∀ c ∈ ['\\', '\n', '\r', '\''], p c = false)
    (matched : p c = true) :
    IsPlain c := by
  have other : ∀ mark ∈ ['\\', '\n', '\r', '\''], c ≠ mark := by
    rintro mark inMarks rfl
    rw [excluded c inMarks] at matched
    cases matched
  refine ⟨?_, other '\'' (by decide)⟩
  rw [isMark, decide_eq_false (other '\\' (by decide)), decide_eq_false (other '\n' (by decide)),
    decide_eq_false (other '\r' (by decide))]
  rfl

theorem isHex_digit (hex : isHex c = true) : IsPlain c :=
  isPlain_of_range (by simp [isHex, hexValue]) hex

theorem isOctal_digit (octal : isOctal c = true) : IsPlain c :=
  isPlain_of_range (by simp [isOctal]) octal

theorem hexDigits_cases {count n value : Nat} {text rest : List Char}
    (read : hexDigits count n text = some (value, rest)) :
    ∃ digits, text = digits ++ rest ∧ Digits digits ∧ digits.length = count := by
  induction count generalizing n text with
  | zero =>
    obtain ⟨-, rfl⟩ := Prod.mk.inj (Option.some.inj read)
    exact ⟨[], rfl, digits_nil, rfl⟩
  | succ count ih =>
    cases text with
    | nil => cases read
    | cons c text =>
      obtain ⟨d, digit, read⟩ := Option.bind_eq_some_iff.mp read
      obtain ⟨digits, rfl, plain, length⟩ := ih read
      have hex : isHex c = true := by rw [isHex, digit]; rfl
      exact ⟨c :: digits, rfl, List.forall_mem_cons.mpr ⟨isHex_digit hex, plain⟩,
        congrArg Nat.succ length⟩

theorem octalDigits_cases (count n : Nat) (text : List Char) :
    ∃ digits, text = digits ++ (octalDigits count n text).2 ∧ Digits digits := by
  induction count generalizing n text with
  | zero => exact ⟨[], rfl, digits_nil⟩
  | succ count ih =>
    cases text with
    | nil => exact ⟨[], rfl, digits_nil⟩
    | cons c text =>
      rw [octalDigits]
      split
      · rename_i octal
        obtain ⟨digits, split, plain⟩ := ih (8 * n + (c.toNat - '0'.toNat)) text
        exact ⟨c :: digits, congrArg (c :: ·) split,
          List.forall_mem_cons.mpr ⟨isOctal_digit octal, plain⟩⟩
      · exact ⟨[], rfl, digits_nil⟩

theorem unicodeEscape_cases {text rest : List Char} {read : List Nat}
    (escaped : unicodeEscape text = some (read, rest)) :
    ∃ digits, text = digits ++ rest ∧ Digits digits ∧ read.length ≤ digits.length := by
  rw [unicodeEscape.eq_def] at escaped
  split at escaped
  · rename_i inner
    split at escaped
    · rename_i others closed
      dsimp only at escaped
      split at escaped
      · rename_i valid
        obtain ⟨rfl, rfl⟩ := Prod.mk.inj (Option.some.inj escaped)
        refine ⟨'{' :: (inner.takeWhile isHex ++ ['}']), ?_, ?_, ?_⟩
        · rw [List.cons_append, List.append_assoc, List.singleton_append, ← closed,
            List.takeWhile_append_dropWhile]
        · refine List.forall_mem_cons.mpr ⟨by decide, fun c inDigits => ?_⟩
          rcases List.mem_append.mp inDigits with inHex | inBrace
          · exact isHex_digit (List.mem_takeWhile_imp inHex)
          · rw [List.mem_singleton.mp inBrace]
            decide
        · have most := (length_codeUnits ((inner.takeWhile isHex).foldl
            (fun n c => 16 * n + (hexValue c).getD 0) 0)).2
          rw [List.length_cons, List.length_append, List.length_singleton]
          omega
      · cases escaped
    · cases escaped
  · obtain ⟨value, read, same⟩ := Option.map_eq_some_iff.mp escaped
    obtain ⟨rfl, rfl⟩ := Prod.mk.inj same
    obtain ⟨digits, rfl, plain, length⟩ := hexDigits_cases read
    exact ⟨digits, rfl, plain, length ▸ by simp⟩

theorem length_singleEscape (c : Char) :
    (singleEscape c).length ≤ (codeUnits c.toNat).length := by
  have long := (length_codeUnits c.toNat).1
  rw [singleEscape.eq_def]
  split
  · exact long
  · exact long
  · exact long
  · exact long
  · exact long
  · exact long
  · exact Nat.le_refl _

theorem readFrom_singleEscape (noFeed : c ≠ '\n') (noReturn : c ≠ '\r') :
    ReadFrom ['\\', c] (singleEscape c) := by
  by_cases quote : c = '\''
  · subst quote
    exact ⟨by decide, by decide⟩
  · by_cases backslash : c = '\\'
    · subst backslash
      exact ⟨by decide, by decide⟩
    · have plain : IsPlain c := ⟨by simp [isMark, backslash, noFeed, noReturn], quote⟩
      obtain ⟨unmarked, noQuote⟩ := plain.counts
      have long := length_singleEscape c
      refine ⟨?_, ?_⟩
      · rw [List.countP_cons_of_pos rfl, List.count_cons_of_ne (by decide), unmarked, noQuote,
          units_cons, units_cons, List.length_append, List.length_append]
        have one : (codeUnits '\\'.toNat).length = 1 := rfl
        omega
      · rw [List.count_cons_of_ne (by decide), noQuote]
        exact Nat.zero_le _

theorem escape_cases {text rest : List Char} {read : List Nat}
    (escaped : escape text = some (read, rest)) :
    ∃ consumed, text = consumed ++ rest ∧ ReadFrom ('\\' :: consumed) read := by
  cases text with
  | nil => cases escaped
  | cons c text =>
    rw [escape] at escaped
    split at escaped
    · rename_i isReturn
      obtain ⟨rfl, same⟩ := Prod.mk.inj (Option.some.inj escaped)
      subst isReturn
      split at same
      · rename_i feed
        subst same
        refine ⟨['\r', '\n'], ?_, ⟨by decide, by decide⟩⟩
        exact congrArg ('\r' :: ·) (List.cons_head?_tail feed).symm
      · subst same
        exact ⟨['\r'], rfl, ⟨by decide, by decide⟩⟩
    split at escaped
    · rename_i lineEnd
      obtain ⟨rfl, rfl⟩ := Prod.mk.inj (Option.some.inj escaped)
      refine ⟨[c], rfl, ?_⟩
      rcases lineEnd with rfl | rfl | rfl <;> exact ⟨by decide, by decide⟩
    split at escaped
    · rename_i isX
      obtain ⟨value, digits, same⟩ := Option.map_eq_some_iff.mp escaped
      obtain ⟨rfl, rfl⟩ := Prod.mk.inj same
      obtain ⟨consumed, rfl, plain, length⟩ := hexDigits_cases digits
      refine ⟨c :: consumed, rfl, readFrom_escape ?_ (by simp) (List.cons_ne_nil _ _)⟩
      exact List.forall_mem_cons.mpr ⟨by rw [isX]; decide, plain⟩
    split at escaped
    · rename_i isU
      obtain ⟨consumed, rfl, plain, long⟩ := unicodeEscape_cases escaped
      refine ⟨c :: consumed, rfl, readFrom_escape ?_ (by rw [List.length_cons]; omega)
        (List.cons_ne_nil _ _)⟩
      exact List.forall_mem_cons.mpr ⟨by rw [isU]; decide, plain⟩
    split at escaped
    · rename_i octal
      obtain ⟨rfl, rfl⟩ := Prod.mk.inj (Option.some.inj escaped)
      obtain ⟨consumed, split, plain⟩ :=
        octalDigits_cases (if c ≤ '3' then 2 else 1) (c.toNat - '0'.toNat) text
      refine ⟨c :: consumed, congrArg (c :: ·) split,
        readFrom_escape ?_ (by simp) (List.cons_ne_nil _ _)⟩
      exact List.forall_mem_cons.mpr ⟨isOctal_digit octal, plain⟩
    · rename_i noReturn lineGoesOn _ _ _
      obtain ⟨rfl, rfl⟩ := Prod.mk.inj (Option.some.inj escaped)
      exact ⟨[c], rfl, readFrom_singleEscape (fun feed => lineGoesOn (.inl feed)) noReturn⟩

/-- What a literal is read from: the characters up to a quote. -/
theorem readString_cases {fuel : Nat} {text rest : List Char} {read : List Nat}
    (returned : readString '\'' fuel text = some (read, rest)) :
    ∃ consumed, text = consumed ++ '\'' :: rest ∧ ReadFrom consumed read := by
  induction fuel generalizing text read with
  | zero => cases returned
  | succ fuel ih =>
    cases text with
    | nil => cases returned
    | cons c text =>
      rw [readString] at returned
      split at returned
      · rename_i quote
        obtain ⟨rfl, rfl⟩ := Prod.mk.inj (Option.some.inj returned)
        exact ⟨[], by rw [quote]; rfl, ⟨Nat.le_refl 0, Nat.le_refl 0⟩⟩
      split at returned
      · rename_i backslash
        obtain ⟨⟨first, behind⟩, escaped, returned⟩ := Option.bind_eq_some_iff.mp returned
        obtain ⟨⟨others, after⟩, more, same⟩ := Option.map_eq_some_iff.mp returned
        obtain ⟨rfl, rfl⟩ := Prod.mk.inj same
        obtain ⟨consumed, rfl, front⟩ := escape_cases escaped
        obtain ⟨back, split, behind⟩ := ih more
        refine ⟨'\\' :: consumed ++ back, ?_, front.append behind⟩
        rw [backslash, List.cons_append, List.cons_append, List.append_assoc, ← split]
      split at returned
      · cases returned
      · rename_i quote backslash lineEnds
        have plain : IsPlain c := by
          rw [not_or] at lineEnds
          exact ⟨by simp [isMark, backslash, lineEnds.1, lineEnds.2], quote⟩
        obtain ⟨⟨others, after⟩, more, same⟩ := Option.map_eq_some_iff.mp returned
        obtain ⟨rfl, rfl⟩ := Prod.mk.inj same
        obtain ⟨back, split, behind⟩ := ih more
        exact ⟨c :: back, congrArg (c :: ·) split,
          (readFrom_self plain).append behind⟩

/-! ## Texts that are read back -/

/-- A quote is longer by its backslash. -/
theorem counts_quoteEscaped_singleton (c : Char) :
    (quoteEscaped [c]).count '\'' = [c].count '\'' ∧
      (quoteEscaped [c]).countP isMark = [c].countP isMark + [c].count '\'' ∧
      (units (quoteEscaped [c])).length = (units [c]).length + [c].count '\'' := by
  by_cases quote : c = '\''
  · subst quote
    decide
  · have same : quoteEscaped [c] = [c] := by
      rw [quoteEscaped_cons, if_neg quote]
      rfl
    have noQuote : [c].count '\'' = 0 :=
      List.count_eq_zero.mpr fun inChar => quote (List.mem_singleton.mp inChar).symm
    rw [same, noQuote]
    exact ⟨rfl, rfl, rfl⟩

theorem quoteEscaped_append (text more : List Char) :
    quoteEscaped (text ++ more) = quoteEscaped text ++ quoteEscaped more := List.flatMap_append

theorem counts_quoteEscaped (text : List Char) :
    (quoteEscaped text).count '\'' = text.count '\'' ∧
      (quoteEscaped text).countP isMark = text.countP isMark + text.count '\'' ∧
      (units (quoteEscaped text)).length = (units text).length + text.count '\'' := by
  induction text with
  | nil => exact ⟨rfl, rfl, rfl⟩
  | cons c text ih =>
    obtain ⟨quotes, marks, lengths⟩ := ih
    obtain ⟨quote, mark, length⟩ := counts_quoteEscaped_singleton c
    have split : c :: text = [c] ++ text := rfl
    rw [split, quoteEscaped_append, units_append, units_append, List.count_append,
      List.count_append, List.countP_append, List.countP_append, List.length_append,
      List.length_append]
    omega

theorem count_codeUnits (c : Char) : (codeUnits c.toNat).count '\''.toNat = [c].count '\'' := by
  by_cases quote : c = '\''
  · subst quote
    rfl
  · have noQuote : [c].count '\'' = 0 :=
      List.count_eq_zero.mpr fun inChar => quote (List.mem_singleton.mp inChar).symm
    rw [noQuote]
    refine List.count_eq_zero.mpr fun inUnits => ?_
    rw [codeUnits] at inUnits
    split at inUnits
    · exact quote (Char.toNat_inj.mp (List.mem_singleton.mp inUnits).symm)
    · have value : '\''.toNat = 39 := rfl
      simp only [List.mem_cons, List.not_mem_nil, or_false, value] at inUnits
      omega

theorem count_units (text : List Char) : (units text).count '\''.toNat = text.count '\'' := by
  induction text with
  | nil => rfl
  | cons c text ih =>
    rw [units_cons, List.count_append, ih, count_codeUnits, ← List.count_append,
      List.singleton_append]

theorem quoteEscaped_split {text consumed rest : List Char}
    (split : quoteEscaped text = consumed ++ '\'' :: rest) :
    ∃ before after, text = before ++ '\'' :: after ∧
      consumed = quoteEscaped before ++ ['\\'] := by
  induction text generalizing consumed with
  | nil => exact absurd split.symm (List.append_ne_nil_of_right_ne_nil _ (List.cons_ne_nil _ _))
  | cons c text ih =>
    rw [quoteEscaped_cons] at split
    by_cases quote : c = '\''
    · subst quote
      rw [if_pos rfl] at split
      cases consumed with
      | nil => cases split
      | cons first consumed =>
        obtain ⟨rfl, behind⟩ := List.cons.inj split
        cases consumed with
        | nil => exact ⟨[], text, rfl, rfl⟩
        | cons second consumed =>
          obtain ⟨isQuote, behind⟩ := List.cons.inj behind
          obtain ⟨before, after, rfl, rfl⟩ := ih behind
          exact ⟨'\'' :: before, after, rfl, by rw [← isQuote]; rfl⟩
    · rw [if_neg quote] at split
      cases consumed with
      | nil => exact absurd (List.cons.inj split).1 quote
      | cons first consumed =>
        obtain ⟨rfl, behind⟩ := List.cons.inj split
        obtain ⟨before, after, rfl, rfl⟩ := ih behind
        refine ⟨c :: before, after, rfl, ?_⟩
        rw [quoteEscaped_cons, if_neg quote]
        rfl

theorem clean_of_countP {text : List Char} (unmarked : text.countP isMark = 0) : Clean text := by
  intro c inText
  have mark := List.countP_eq_zero.mp unmarked c inText
  simpa [isMark, and_assoc] using mark

/-- What is read back from its literal has no backslash and no line end. -/
theorem clean_of_readString {fuel : Nat} {text behind rest : List Char}
    (returned : readString '\'' fuel (quoteEscaped text ++ '\'' :: behind) =
      some (units text, rest)) : Clean text := by
  obtain ⟨consumed, split, shorter, quotes⟩ := readString_cases returned
  obtain ⟨escapedQuotes, escapedMarks, escapedLength⟩ := counts_quoteEscaped text
  rw [count_units] at quotes
  rcases List.append_eq_append_iff.mp split with ⟨more, longer, others⟩ | ⟨more, longer, others⟩
  · cases more with
    | nil =>
      rw [List.append_nil] at longer
      subst longer
      exact clean_of_countP (by omega)
    | cons c more =>
      obtain ⟨rfl, -⟩ := List.cons.inj others
      rw [longer, List.count_append, List.count_cons_self] at quotes
      omega
  · cases more with
    | nil =>
      rw [List.append_nil] at longer
      subst longer
      exact clean_of_countP (by omega)
    | cons c more =>
      obtain ⟨rfl, -⟩ := List.cons.inj others
      obtain ⟨before, after, rfl, rfl⟩ := quoteEscaped_split longer
      obtain ⟨beforeQuotes, beforeMarks, beforeLength⟩ := counts_quoteEscaped before
      have one : (units ['\\']).length = 1 := rfl
      have mark : ['\\'].countP isMark = 1 := rfl
      rw [units_append, units_cons, List.length_append, List.length_append, List.countP_append,
        List.count_append, units_append, List.length_append] at shorter
      have quote : (codeUnits '\''.toNat).length = 1 := rfl
      omega

/-! ## Literals in front of other text -/

section Append

variable {count n value fuel more : Nat} {text rest : List Char} {read : List Nat} {quote : Char}

theorem hexDigits_append (returned : hexDigits count n text = some (value, rest))
    (behind : List Char) : hexDigits count n (text ++ behind) = some (value, rest ++ behind) := by
  induction count generalizing n text with
  | zero =>
    obtain ⟨rfl, rfl⟩ := Prod.mk.inj (Option.some.inj returned)
    rfl
  | succ count ih =>
    cases text with
    | nil => cases returned
    | cons c text =>
      obtain ⟨d, digit, returned⟩ := Option.bind_eq_some_iff.mp returned
      rw [List.cons_append, hexDigits, digit]
      exact ih returned

theorem octalDigits_append (left : (octalDigits count n text).2 ≠ []) (behind : List Char) :
    octalDigits count n (text ++ behind) =
      ((octalDigits count n text).1, (octalDigits count n text).2 ++ behind) := by
  induction count generalizing n text with
  | zero => rfl
  | succ count ih =>
    cases text with
    | nil => exact absurd rfl left
    | cons c text =>
      rw [octalDigits] at left ⊢
      rw [List.cons_append, octalDigits]
      split
      · rename_i octal
        rw [if_pos octal] at left
        exact ih left
      · rfl

theorem takeWhile_append_of_drop {p : Char → Bool} {c : Char} {inner others : List Char}
    (dropped : inner.dropWhile p = c :: others) (behind : List Char) :
    (inner ++ behind).takeWhile p = inner.takeWhile p ∧
      (inner ++ behind).dropWhile p = c :: others ++ behind := by
  refine ⟨?_, ?_⟩
  · rw [List.takeWhile_append, if_neg]
    intro whole
    have lengths := congrArg List.length (List.takeWhile_append_dropWhile (p := p) (l := inner))
    rw [List.length_append, dropped, List.length_cons] at lengths
    omega
  · rw [List.dropWhile_append, dropped]
    rfl

theorem unicodeEscape_append (returned : unicodeEscape text = some (read, rest))
    (behind : List Char) : unicodeEscape (text ++ behind) = some (read, rest ++ behind) := by
  rw [unicodeEscape.eq_def] at returned
  split at returned
  · rename_i inner
    split at returned
    · rename_i others closed
      obtain ⟨taken, dropped⟩ := takeWhile_append_of_drop closed behind
      rw [List.cons_append, unicodeEscape, dropped, List.cons_append]
      dsimp only at returned ⊢
      rw [taken]
      split at returned
      · rename_i valid
        obtain ⟨rfl, rfl⟩ := Prod.mk.inj (Option.some.inj returned)
        exact if_pos valid
      · cases returned
    · cases returned
  · rename_i noBrace
    obtain ⟨value, digits, same⟩ := Option.map_eq_some_iff.mp returned
    obtain ⟨rfl, rfl⟩ := Prod.mk.inj same
    cases text with
    | nil => cases digits
    | cons c text =>
      rw [List.cons_append, unicodeEscape.eq_def]
      split
      · rename_i isBrace
        exact absurd (congrArg (· :: text) (List.cons.inj isBrace).1) (noBrace text)
      · rw [← List.cons_append, hexDigits_append digits]
        rfl

/-- An escape with something behind it does not reach further. -/
theorem escape_append (returned : escape text = some (read, rest)) (left : rest ≠ [])
    (behind : List Char) : escape (text ++ behind) = some (read, rest ++ behind) := by
  cases text with
  | nil => cases returned
  | cons c text =>
    rw [escape] at returned
    rw [List.cons_append, escape]
    by_cases isReturn : c = '\r'
    · rw [if_pos isReturn] at returned ⊢
      obtain ⟨rfl, rfl⟩ := Prod.mk.inj (Option.some.inj returned)
      cases text with
      | nil => exact absurd rfl left
      | cons d text =>
        rw [List.cons_append, List.head?_cons, List.head?_cons, List.tail_cons, List.tail_cons]
        split <;> rfl
    rw [if_neg isReturn] at returned ⊢
    by_cases lineEnd : c = '\n' ∨ c = '\u2028' ∨ c = '\u2029'
    · rw [if_pos lineEnd] at returned ⊢
      obtain ⟨rfl, rfl⟩ := Prod.mk.inj (Option.some.inj returned)
      rfl
    rw [if_neg lineEnd] at returned ⊢
    by_cases isX : c = 'x'
    · rw [if_pos isX] at returned ⊢
      obtain ⟨value, digits, same⟩ := Option.map_eq_some_iff.mp returned
      obtain ⟨rfl, rfl⟩ := Prod.mk.inj same
      rw [hexDigits_append digits]
      rfl
    rw [if_neg isX] at returned ⊢
    by_cases isU : c = 'u'
    · rw [if_pos isU] at returned ⊢
      exact unicodeEscape_append returned behind
    rw [if_neg isU] at returned ⊢
    by_cases octal : isOctal c = true
    · rw [if_pos octal] at returned ⊢
      obtain ⟨rfl, rfl⟩ := Prod.mk.inj (Option.some.inj returned)
      rw [octalDigits_append left]
    · rw [if_neg octal] at returned ⊢
      obtain ⟨rfl, rfl⟩ := Prod.mk.inj (Option.some.inj returned)
      rfl

theorem readString_append (returned : readString quote fuel text = some (read, rest))
    (enough : fuel ≤ more) (behind : List Char) :
    readString quote more (text ++ behind) = some (read, rest ++ behind) := by
  induction fuel generalizing more text read with
  | zero => cases returned
  | succ fuel ih =>
    obtain ⟨more, rfl⟩ : ∃ others, more = others + 1 := ⟨more - 1, by omega⟩
    cases text with
    | nil => cases returned
    | cons c text =>
      rw [readString] at returned
      rw [List.cons_append, readString]
      by_cases closes : c = quote
      · rw [if_pos closes] at returned ⊢
        obtain ⟨rfl, rfl⟩ := Prod.mk.inj (Option.some.inj returned)
        rfl
      rw [if_neg closes] at returned ⊢
      by_cases backslash : c = '\\'
      · rw [if_pos backslash] at returned ⊢
        obtain ⟨⟨first, middle⟩, escaped, returned⟩ := Option.bind_eq_some_iff.mp returned
        obtain ⟨⟨others, after⟩, next, same⟩ := Option.map_eq_some_iff.mp returned
        obtain ⟨rfl, rfl⟩ := Prod.mk.inj same
        have left : middle ≠ [] := by
          rintro rfl
          cases fuel <;> cases next
        rw [escape_append escaped left, Option.bind_some, ih next (by omega)]
        rfl
      rw [if_neg backslash] at returned ⊢
      by_cases lineEnds : c = '\n' ∨ c = '\r'
      · rw [if_pos lineEnds] at returned
        cases returned
      · rw [if_neg lineEnds] at returned ⊢
        obtain ⟨⟨others, after⟩, next, same⟩ := Option.map_eq_some_iff.mp returned
        obtain ⟨rfl, rfl⟩ := Prod.mk.inj same
        rw [ih next (by omega)]
        rfl

theorem readString_shorter (returned : readString quote fuel text = some (read, rest)) :
    rest.length < text.length := by
  induction fuel generalizing text read with
  | zero => cases returned
  | succ fuel ih =>
    cases text with
    | nil => cases returned
    | cons c text =>
      rw [readString] at returned
      rw [List.length_cons]
      split at returned
      · obtain ⟨rfl, rfl⟩ := Prod.mk.inj (Option.some.inj returned)
        exact Nat.lt_succ_self _
      split at returned
      · obtain ⟨⟨first, middle⟩, escaped, returned⟩ := Option.bind_eq_some_iff.mp returned
        obtain ⟨⟨others, after⟩, next, same⟩ := Option.map_eq_some_iff.mp returned
        obtain ⟨rfl, rfl⟩ := Prod.mk.inj same
        obtain ⟨consumed, rfl, -⟩ := escape_cases escaped
        have shorter := ih next
        rw [List.length_append]
        dsimp only at shorter ⊢
        omega
      split at returned
      · cases returned
      · obtain ⟨⟨others, after⟩, next, same⟩ := Option.map_eq_some_iff.mp returned
        obtain ⟨rfl, rfl⟩ := Prod.mk.inj same
        exact Nat.lt_succ_of_lt (ih next)

end Append

end ErpFinance.Library.JavaScript
