import ErpFinance.Library.Except
import ErpFinance.Library.Separated
import ErpFinance.Naming.Uniqueness

/-!
# The grammar of naming patterns

The documented patterns: literal text and placeholders, a sequence written with
its width or with as many digits.  The parser reads exactly these, except that
it refuses the digits that end in a one and lets some widths pass that are out
of range.
-/

namespace ErpFinance.Naming

open Domain Library

/-- A piece of a pattern, as it is written. -/
inductive Piece where
  | literal (text : List Char)
  | placeholder (inside : List Char)

/-- A pattern cut at its braces; literal text extends as far as it can. -/
inductive Split : List Char → List Piece → Prop where
  | nil : Split [] []
  | literal {text rest : List Char} {pieces : List Piece} (some : text ≠ [])
      (plain : '\x7b' ∉ text) (stops : ∀ c ∈ rest.head?, c = '\x7b') (tail : Split rest pieces) :
      Split (text ++ rest) (.literal text :: pieces)
  | placeholder {inside rest : List Char} {pieces : List Piece} (closes : '\x7d' ∉ inside)
      (tail : Split rest pieces) :
      Split ('\x7b' :: inside ++ '\x7d' :: rest) (.placeholder inside :: pieces)

/-! ## Documented placeholders -/

/-- The number that decimal digits stand for. -/
abbrev decimal (digits : List Char) : Nat := Nat.ofDigitChars 10 digits 0

/-- The placeholders of the documentation and what they stand for; `SEQ:N` has the width `N`, and
zeros, of which the last may be a one, have the width of all of them. -/
inductive Denotes : List Char → Token → Prop where
  | yyyy : Denotes "YYYY".toList .yyyy
  | yy : Denotes "YY".toList .yy
  | mm : Denotes "MM".toList .mm
  | dd : Denotes "DD".toList .dd
  | yyyymm : Denotes "YYYYMM".toList .yyyymm
  | fy : Denotes "FY".toList .fy
  | org : Denotes "ORG".toList .org
  | seq {digits : List Char} (some : digits ≠ []) (each : ∀ c ∈ digits, c.isDigit = true)
      (positive : 1 ≤ decimal digits) (bounded : decimal digits ≤ 20) :
      Denotes ("SEQ:".toList ++ digits) (.seq (decimal digits))
  | zeros {width : Nat} (positive : 1 ≤ width) (bounded : width ≤ 20) :
      Denotes (List.replicate width '0') (.seq width)
  | zerosOne {count : Nat} (positive : 1 ≤ count) (bounded : count + 1 ≤ 20) :
      Denotes (List.replicate count '0' ++ ['1']) (.seq (count + 1))

/-- What a piece is to be read as. -/
def Piece.Reads : Piece → Token → Prop
  | .literal text, token => token = .literal (String.ofList text)
  | .placeholder inside, token => Denotes inside token

/-- The pattern is literal text and documented placeholders, which stand for the tokens. -/
def Documented (pattern : String) (tokens : List Token) : Prop :=
  ∃ pieces, Split pattern.toList pieces ∧ List.Forall₂ Piece.Reads pieces tokens

/-- The parser accepts the documented patterns with their tokens and no others, and what it
accepts renders different numbers differently. -/
structure ParsesAsDocumented (pattern : String) : Prop where
  accepts : ∀ tokens, parsePattern pattern = .ok tokens ↔ Documented pattern tokens
  distinct : ∀ tokens, parsePattern pattern = .ok tokens → hasSEQ tokens = true →
    ∀ (vars : PatternVars) (n m : Int), n ≠ m →
      render tokens { vars with sequence := n } ≠ render tokens { vars with sequence := m }

/-! ## Where the parser departs from it -/

/-- Zeros and a final one. -/
def EndsInOne (inside : List Char) : Prop :=
  ∃ count, 1 ≤ count ∧ inside = List.replicate count '0' ++ ['1']

/-- More than twenty zeros, or a width of which 64 bits keep a number from 1 to 20. -/
inductive Overwide : List Char → Nat → Prop where
  | zeros {width : Nat} (beyond : 20 < width) : Overwide (List.replicate width '0') width
  | seq {digits : List Char} (each : ∀ c ∈ digits, c.isDigit = true)
      (beyond : 2 ^ 64 ≤ decimal digits) (positive : 1 ≤ decimal digits % 2 ^ 64)
      (bounded : decimal digits % 2 ^ 64 ≤ 20) :
      Overwide ("SEQ:".toList ++ digits) (decimal digits % 2 ^ 64)

/-- What the parser reads a placeholder as. -/
def Accepts (inside : List Char) (token : Token) : Prop :=
  (Denotes inside token ∧ ¬EndsInOne inside) ∨ ∃ width, Overwide inside width ∧ token = .seq width

def placeholders (pieces : List Piece) : List (List Char) :=
  pieces.filterMap fun
    | .literal _ => none
    | .placeholder inside => some inside

/-- A pattern of documented placeholders has no final one in them, and one of placeholders that
the parser accepts no width out of range. -/
structure Regular (pattern : String) : Prop where
  ones : ∀ pieces, Split pattern.toList pieces →
    (∀ inside ∈ placeholders pieces, ∃ token, Denotes inside token) →
      ∀ inside ∈ placeholders pieces, ¬EndsInOne inside
  widths : ∀ pieces, Split pattern.toList pieces →
    (∀ inside ∈ placeholders pieces, ∃ token, Accepts inside token) →
      ∀ inside ∈ placeholders pieces, ∀ width, ¬Overwide inside width

/-! ## Cutting a pattern -/

section Pieces

/-- Texts without a brace, each up to the next brace, are equal. -/
theorem append_at_brace {text other rest after : List Char} (plain : '\x7b' ∉ text)
    (plain' : '\x7b' ∉ other) (stops : ∀ c ∈ rest.head?, c = '\x7b')
    (stops' : ∀ c ∈ after.head?, c = '\x7b') (same : text ++ rest = other ++ after) :
    text = other ∧ rest = after := by
  have cut {before behind : List Char} (plain : '\x7b' ∉ before)
      (stops : ∀ c ∈ behind.head?, c = '\x7b') :
      (before ++ behind).takeWhile (· != '\x7b') = before := by
    rw [List.takeWhile_append_of_pos (all_ne plain)]
    cases behind with
    | nil => simp
    | cons c rest => simp [stops c rfl]
  have front : text = other := by rw [← cut plain stops, same, cut plain' stops']
  subst front
  exact ⟨rfl, List.append_cancel_left same⟩

variable {text inside rest : List Char} {pieces others : List Piece}

theorem split_nil (cut : Split [] pieces) : pieces = [] := by
  generalize empty : ([] : List Char) = whole at cut
  cases cut with
  | nil => rfl
  | literal some plain stops tail => exact absurd (List.append_eq_nil_iff.mp empty.symm).1 some
  | placeholder closes tail => cases empty

theorem split_brace (cut : Split ('\x7b' :: rest) pieces) :
    ∃ inside after more, rest = inside ++ '\x7d' :: after ∧ '\x7d' ∉ inside ∧ Split after more ∧
      pieces = .placeholder inside :: more := by
  generalize opened : '\x7b' :: rest = whole at cut
  cases cut with
  | nil => cases opened
  | @literal text _ _ some plain stops tail =>
    cases text with
    | nil => exact absurd rfl some
    | cons c text =>
      obtain ⟨rfl, -⟩ := List.cons.inj opened
      exact absurd List.mem_cons_self plain
  | placeholder closes tail => exact ⟨_, _, _, (List.cons.inj opened).2, closes, tail, rfl⟩

theorem split_text (some : text ≠ []) (plain : '\x7b' ∉ text)
    (stops : ∀ c ∈ rest.head?, c = '\x7b') (cut : Split (text ++ rest) pieces) :
    ∃ more, Split rest more ∧ pieces = .literal text :: more := by
  generalize whole : text ++ rest = chars at cut
  cases cut with
  | nil => exact absurd (List.append_eq_nil_iff.mp whole).1 some
  | @literal other after more some' plain' stops' tail =>
    obtain ⟨rfl, rfl⟩ := append_at_brace plain plain' stops stops' whole
    exact ⟨more, tail, rfl⟩
  | placeholder closes tail =>
    cases text with
    | nil => exact absurd rfl some
    | cons c text =>
      obtain ⟨rfl, -⟩ := List.cons.inj whole
      exact absurd List.mem_cons_self plain

/-- There is one way to cut a pattern. -/
theorem split_unique {chars : List Char} (first : Split chars pieces)
    (second : Split chars others) : pieces = others := by
  induction first generalizing others with
  | nil => exact (split_nil second).symm
  | literal some plain stops tail ih =>
    obtain ⟨more, cut, rfl⟩ := split_text some plain stops second
    rw [ih cut]
  | placeholder closes tail ih =>
    obtain ⟨inside, after, more, same, closes', cut, rfl⟩ := split_brace second
    obtain ⟨rfl, rfl⟩ := eq_of_append_first closes closes' same
    rw [ih cut]

end Pieces

section Widths

variable {s digits inside : List Char} {width : Nat} {token : Token}

theorem notDigit_eq (c : Char) : (decide (c < '0') || decide ('9' < c)) = !c.isDigit := by
  have below : c < '0' ↔ ¬ '0'.val ≤ c.val := UInt32.not_le.symm
  have above : '9' < c ↔ ¬c.val ≤ '9'.val := UInt32.not_le.symm
  rw [Bool.eq_iff_iff, Char.isDigit]
  simp only [below, above, Bool.or_eq_true, decide_eq_true_eq, Bool.not_eq_true',
    Bool.and_eq_false_iff, decide_eq_false_iff_not, ge_iff_le]

/-- Reducing to 64 bits can wait until the end. -/
theorem int64_step (w d : Nat) : int64 (int64 w * 10 + d) = int64 ((10 * w + d : Nat) : Int) := by
  unfold int64
  omega

/-- The numbers from 1 to 20 that 64 bits make of a number. -/
theorem int64_natCast_iff (n width : Nat) :
    (1 ≤ int64 n ∧ int64 n ≤ 20 ∧ width = (int64 n).toNat) ↔
      (1 ≤ n ∧ n ≤ 20 ∧ width = n) ∨
        (2 ^ 64 ≤ n ∧ 1 ≤ n % 2 ^ 64 ∧ n % 2 ^ 64 ≤ 20 ∧ width = n % 2 ^ 64) := by
  unfold int64
  omega

/-- The accumulator is the number in 64 bits. -/
theorem int64_fold (digits : List Char) (start : Nat) :
    digits.foldl (fun w c => int64 (w * 10 + (c.toNat - '0'.toNat : Nat))) (int64 start) =
      int64 (Nat.ofDigitChars 10 digits start) := by
  induction digits generalizing start with
  | nil => rw [List.foldl_nil, Nat.ofDigitChars_nil]
  | cons c rest ih => rw [List.foldl_cons, Nat.ofDigitChars_cons, ← ih, int64_step]

/-- A width that passes the check is one from 1 to 20, or its number leaves 64 bits. -/
theorem parseWidth_eq_ok_iff : parseWidth s = .ok width ↔
    s ≠ [] ∧ (∀ c ∈ s, c.isDigit = true) ∧
      ((1 ≤ decimal s ∧ decimal s ≤ 20 ∧ width = decimal s) ∨
        (2 ^ 64 ≤ decimal s ∧ 1 ≤ decimal s % 2 ^ 64 ∧ decimal s % 2 ^ 64 ≤ 20 ∧
          width = decimal s % 2 ^ 64)) := by
  have digits : s.any (fun c => decide (c < '0') || decide ('9' < c)) = true ↔
      ¬∀ c ∈ s, c.isDigit = true := by
    simp only [notDigit_eq, List.any_eq_true, Bool.not_eq_true', not_forall, exists_prop,
      Bool.not_eq_true]
  have fold : s.foldl (fun w c => int64 (w * 10 + (c.toNat - '0'.toNat : Nat))) 0 =
      int64 (decimal s) := int64_fold s 0
  unfold parseWidth
  simp only [fold]
  split_ifs with empty nondigit range
  · rw [List.isEmpty_iff] at empty
    simp [empty]
  · simp [digits.mp nondigit]
  · refine iff_of_false nofun fun ⟨_, _, bounds⟩ => ?_
    have inRange := (int64_natCast_iff (decimal s) width).mpr bounds
    omega
  · rw [digits, not_not] at nondigit
    have some : s ≠ [] := fun none => empty (List.isEmpty_iff.mpr none)
    rw [← int64_natCast_iff, Except.ok.injEq, eq_comm]
    refine ⟨fun same => ⟨some, nondigit, ?_⟩, fun ⟨_, _, _, _, same⟩ => same⟩
    exact ⟨by omega, by omega, same⟩

theorem mapError_map_ok {f : String → String} {outcome : Except String Nat} :
    ((outcome.map Token.seq).mapError f = .ok token) ↔
      ∃ width, outcome = .ok width ∧ token = .seq width := by
  cases outcome with
  | error err => simp [Except.map, Except.mapError]
  | ok width => simp [Except.map, Except.mapError, eq_comm]

theorem isAllZeros_iff :
    isAllZeros s = true ↔ ∃ width, 1 ≤ width ∧ s = List.replicate width '0' := by
  simp only [isAllZeros, Bool.and_eq_true, Bool.not_eq_true', List.isEmpty_eq_false_iff,
    List.all_eq_true, beq_iff_eq]
  constructor
  · rintro ⟨some, zeros⟩
    exact ⟨s.length, List.length_pos_iff.mpr some, List.eq_replicate_of_mem zeros⟩
  · rintro ⟨width, positive, rfl⟩
    exact ⟨by simp; omega, fun c member => (List.mem_replicate.mp member).2⟩

end Widths

section Placeholders

variable {inside : List Char} {token : Token}

/-- Zeros with or without a final one are none of the names. -/
theorem parsePlaceholder_zero (rest : List Char) :
    parsePlaceholder ('0' :: rest) = if isAllZeros ('0' :: rest) then .ok (.seq (rest.length + 1))
      else .error ("unknown placeholder \x7b" ++ String.ofList ('0' :: rest) ++ "\x7d") := by
  simp [parsePlaceholder]

theorem parsePlaceholder_seq (digits : List Char) :
    parsePlaceholder ("SEQ:".toList ++ digits) = ((parseWidth digits).map .seq).mapError fun err =>
      "invalid SEQ width \"" ++ String.ofList digits ++ "\": " ++ err := by
  simp [parsePlaceholder]

theorem parsePlaceholder_zeros {width : Nat} (positive : 1 ≤ width) :
    parsePlaceholder (List.replicate width '0') = .ok (.seq width) := by
  obtain ⟨count, rfl⟩ : ∃ count, width = count + 1 := ⟨width - 1, by omega⟩
  have zeros : isAllZeros (List.replicate (count + 1) '0') = true :=
    isAllZeros_iff.mpr ⟨_, positive, rfl⟩
  rw [List.replicate_succ] at zeros ⊢
  rw [parsePlaceholder_zero, if_pos zeros, List.length_replicate]

theorem EndsInOne.head (one : EndsInOne inside) : inside.head? = some '0' := by
  obtain ⟨count, positive, rfl⟩ := one
  obtain ⟨less, rfl⟩ : ∃ less, count = less + 1 := ⟨count - 1, by omega⟩
  rfl

theorem not_endsInOne_zeros (width : Nat) : ¬EndsInOne (List.replicate width '0') := by
  rintro ⟨count, positive, same⟩
  have last : '1' ∈ List.replicate width '0' := by
    rw [same]
    exact List.mem_append_right _ List.mem_cons_self
  exact absurd (List.mem_replicate.mp last).2 (by decide)

/-- What the parser makes of a placeholder. -/
theorem parsePlaceholder_eq_ok_iff :
    parsePlaceholder inside = .ok token ↔ Accepts inside token := by
  constructor
  · intro parsed
    have named {name : List Char} {kind : Token} (denotes : Denotes name kind)
        (start : name.head? ≠ some '0') (same : Except.ok (ε := String) kind = .ok token) :
        Accepts name token :=
      .inl ⟨Except.ok.inj same ▸ denotes, fun one => start one.head⟩
    unfold parsePlaceholder at parsed
    split_ifs at parsed with yyyy yy mm dd yyyymm fy org seq zeros
    · exact yyyy ▸ named .yyyy (by decide) parsed
    · exact yy ▸ named .yy (by decide) parsed
    · exact mm ▸ named .mm (by decide) parsed
    · exact dd ▸ named .dd (by decide) parsed
    · exact yyyymm ▸ named .yyyymm (by decide) parsed
    · exact fy ▸ named .fy (by decide) parsed
    · exact org ▸ named .org (by decide) parsed
    · obtain ⟨digits, rfl⟩ := List.isPrefixOf_iff_prefix.mp seq
      obtain ⟨width, counted, rfl⟩ := mapError_map_ok.mp parsed
      obtain ⟨some, each, bounds⟩ := parseWidth_eq_ok_iff.mp counted
      rcases bounds with ⟨positive, bounded, rfl⟩ | ⟨beyond, positive, bounded, rfl⟩
      · exact .inl ⟨.seq some each positive bounded, fun one => by simpa using one.head⟩
      · exact .inr ⟨_, .seq each beyond positive bounded, rfl⟩
    · obtain ⟨width, positive, rfl⟩ := isAllZeros_iff.mp zeros
      rw [List.length_replicate] at parsed
      obtain rfl := Except.ok.inj parsed
      by_cases bounded : width ≤ 20
      · exact .inl ⟨.zeros positive bounded, not_endsInOne_zeros width⟩
      · exact .inr ⟨width, .zeros (Nat.lt_of_not_le bounded), rfl⟩
  · rintro (⟨denotes, plain⟩ | ⟨width, wide, rfl⟩)
    · cases denotes with
      | seq some each positive bounded =>
        rw [parsePlaceholder_seq]
        exact mapError_map_ok.mpr
          ⟨_, parseWidth_eq_ok_iff.mpr ⟨some, each, .inl ⟨positive, bounded, rfl⟩⟩, rfl⟩
      | zeros positive bounded => exact parsePlaceholder_zeros positive
      | zerosOne positive bounded => exact absurd ⟨_, positive, rfl⟩ plain
      | _ => rfl
    · cases wide with
      | zeros beyond => exact parsePlaceholder_zeros (by omega)
      | @seq digits each beyond positive bounded =>
        have some : digits ≠ [] := by
          rintro rfl
          exact absurd beyond (by decide)
        rw [parsePlaceholder_seq]
        exact mapError_map_ok.mpr
          ⟨_, parseWidth_eq_ok_iff.mpr ⟨some, each, .inr ⟨beyond, positive, bounded, rfl⟩⟩, rfl⟩

/-- Documented digits are at most twenty. -/
theorem Denotes.length_le (denotes : Denotes inside token) (zero : inside.head? = some '0') :
    inside.length ≤ 20 := by
  cases denotes with
  | zeros positive bounded => rwa [List.length_replicate]
  | zerosOne positive bounded =>
    rwa [List.length_append, List.length_replicate, List.length_singleton]
  | seq some each positive bounded => simp at zero
  | _ => exact absurd zero (by decide)

/-- A documented `SEQ:N` has an `N` of at most twenty. -/
theorem Denotes.decimal_le {digits : List Char}
    (denotes : Denotes ("SEQ:".toList ++ digits) token) : decimal digits ≤ 20 := by
  generalize written : "SEQ:".toList ++ digits = inside at denotes
  have start : inside.head? = some 'S' := by rw [← written]; rfl
  cases denotes with
  | seq some each positive bounded => rwa [List.append_cancel_left written]
  | @zeros width positive bounded =>
    cases width with
    | zero => cases start
    | succ count => simp [List.replicate_succ] at start
  | @zerosOne count positive bounded =>
    cases count with
    | zero => simp at start
    | succ count => simp [List.replicate_succ] at start
  | _ => exact absurd start (by decide)

/-- A documented placeholder has its width in range. -/
theorem Denotes.not_overwide (denotes : Denotes inside token) (width : Nat) :
    ¬Overwide inside width := by
  intro wide
  cases wide with
  | zeros beyond =>
    obtain ⟨count, rfl⟩ : ∃ count, width = count + 1 := ⟨width - 1, by omega⟩
    have short := denotes.length_le rfl
    rw [List.length_replicate] at short
    omega
  | seq each beyond positive bounded =>
    have small := denotes.decimal_le
    omega

end Placeholders

/-! ## The parser -/

/-- What the parser reads a piece as. -/
def Piece.ReadAs : Piece → Token → Prop
  | .literal text, token => token = .literal (String.ofList text)
  | .placeholder inside, token => Accepts inside token

section Parser

variable {pattern : String} {lead inside rest remaining : List Char} {pieces : List Piece}
  {tokens : List Token}

theorem split_front_iff (plain : '\x7b' ∉ lead) (closes : '\x7d' ∉ inside) :
    Split (lead ++ '\x7b' :: inside ++ '\x7d' :: rest) pieces ↔ ∃ more, Split rest more ∧
      pieces = (if lead.isEmpty then [] else [.literal lead]) ++ .placeholder inside :: more := by
  constructor
  · intro cut
    obtain ⟨later, braced, rfl⟩ : ∃ later, Split ('\x7b' :: inside ++ '\x7d' :: rest) later ∧
        pieces = (if lead.isEmpty then [] else [.literal lead]) ++ later := by
      cases lead with
      | nil => exact ⟨pieces, cut, rfl⟩
      | cons c text =>
        rw [List.append_assoc] at cut
        obtain ⟨more, braced, rfl⟩ := split_text (List.cons_ne_nil c text) plain (by simp) cut
        exact ⟨more, braced, rfl⟩
    obtain ⟨other, after, more, same, closes', behind, rfl⟩ := split_brace braced
    obtain ⟨rfl, rfl⟩ := eq_of_append_first closes closes' same
    exact ⟨more, behind, rfl⟩
  · rintro ⟨more, cut, rfl⟩
    have placed := Split.placeholder closes cut
    cases lead with
    | nil => exact placed
    | cons c text =>
      rw [List.append_assoc]
      exact .literal (List.cons_ne_nil c text) plain (by simp) placed

/-- Text without a brace is a literal. -/
theorem split_plain_iff (some : lead ≠ []) (plain : '\x7b' ∉ lead) :
    Split lead pieces ↔ pieces = [.literal lead] := by
  constructor
  · intro cut
    rw [← List.append_nil lead] at cut
    obtain ⟨more, none, rfl⟩ := split_text some plain (by simp) cut
    rw [split_nil none]
  · rintro rfl
    have cut := Split.literal some plain (by simp) .nil
    rwa [List.append_nil] at cut

/-- A brace that is never closed cannot be cut. -/
theorem not_split_unclosed (plain : '\x7b' ∉ lead) (unclosed : '\x7d' ∉ inside) :
    ¬Split (lead ++ '\x7b' :: inside) pieces := by
  intro cut
  obtain ⟨later, braced⟩ : ∃ later, Split ('\x7b' :: inside) later := by
    cases lead with
    | nil => exact ⟨pieces, cut⟩
    | cons c text =>
      obtain ⟨more, braced, -⟩ := split_text (List.cons_ne_nil c text) plain (by simp) cut
      exact ⟨more, braced⟩
  obtain ⟨other, after, more, rfl, -⟩ := split_brace braced
  exact unclosed (List.mem_append_right _ List.mem_cons_self)

theorem parseTokens_text (some : lead ≠ []) (plain : '\x7b' ∉ lead) (fuel : Nat) :
    parseTokens pattern (fuel + 1) lead = .ok [.literal (String.ofList lead)] := by
  rw [parseTokens, List.dropWhile_eq_nil_iff.mpr (all_ne plain)]
  exact some

theorem parseTokens_unclosed (plain : '\x7b' ∉ lead) (unclosed : '\x7d' ∉ inside) (fuel : Nat) :
    parseTokens pattern (fuel + 1) (lead ++ '\x7b' :: inside) =
      .error ("naming: unclosed '\x7b' in pattern \"" ++ pattern ++ "\"") := by
  rw [parseTokens, dropWhile_ne plain]
  · dsimp only
    rw [List.dropWhile_eq_nil_iff.mpr (all_ne unclosed)]
  · simp

/-- One round of the parser. -/
theorem parseTokens_front (plain : '\x7b' ∉ lead) (closes : '\x7d' ∉ inside) (fuel : Nat) :
    parseTokens pattern (fuel + 1) (lead ++ '\x7b' :: inside ++ '\x7d' :: rest) = .ok tokens ↔
      ∃ token, Accepts inside token ∧ ∃ others, parseTokens pattern fuel rest = .ok others ∧
        (if lead.isEmpty then [] else [.literal (String.ofList lead)]) ++
          token :: others = tokens := by
  rw [List.append_assoc, parseTokens, List.cons_append, dropWhile_ne plain, takeWhile_ne plain]
  · dsimp only
    rw [dropWhile_ne closes, takeWhile_ne closes]
    simp only [bind_eq_ok_iff, mapError_eq_ok_iff, parsePlaceholder_eq_ok_iff, pure, Except.pure,
      Except.ok.injEq]
  · simp

theorem parse_nil_iff : Except.ok (ε := String) [] = .ok tokens ↔
    ∃ pieces, Split [] pieces ∧ List.Forall₂ Piece.ReadAs pieces tokens := by
  constructor
  · intro same
    rw [← Except.ok.inj same]
    exact ⟨[], .nil, .nil⟩
  · rintro ⟨pieces, cut, reads⟩
    rw [split_nil cut] at reads
    rw [List.forall₂_nil_left_iff.mp reads]

theorem forall₂_front {more : List Piece} :
    List.Forall₂ Piece.ReadAs ((if lead.isEmpty then [] else [.literal lead]) ++
        .placeholder inside :: more) tokens ↔
      ∃ token, Accepts inside token ∧ ∃ others, List.Forall₂ Piece.ReadAs more others ∧
        (if lead.isEmpty then [] else [.literal (String.ofList lead)]) ++
          token :: others = tokens := by
  cases lead with
  | nil =>
    simp only [List.isEmpty_nil, if_true, List.nil_append, List.forall₂_cons_left_iff,
      Piece.ReadAs]
    constructor
    · rintro ⟨token, others, accepts, rest, rfl⟩
      exact ⟨token, accepts, others, rest, rfl⟩
    · rintro ⟨token, accepts, others, rest, rfl⟩
      exact ⟨token, others, accepts, rest, rfl⟩
  | cons c text =>
    simp only [List.isEmpty_cons, Bool.false_eq_true, if_false, List.cons_append,
      List.nil_append, List.forall₂_cons_left_iff, Piece.ReadAs]
    constructor
    · rintro ⟨_, _, rfl, ⟨token, others, accepts, rest, rfl⟩, rfl⟩
      exact ⟨token, accepts, others, rest, rfl⟩
    · rintro ⟨token, accepts, others, rest, rfl⟩
      exact ⟨_, _, rfl, ⟨token, others, accepts, rest, rfl⟩, rfl⟩

/-- The parser reads the pieces of a pattern one after the other. -/
theorem parseTokens_eq_ok_iff {fuel : Nat} (enough : remaining.length ≤ fuel) :
    parseTokens pattern fuel remaining = .ok tokens ↔
      ∃ pieces, Split remaining pieces ∧ List.Forall₂ Piece.ReadAs pieces tokens := by
  induction fuel generalizing remaining tokens with
  | zero =>
    rw [List.length_eq_zero_iff.mp (Nat.le_zero.mp enough)]
    exact parse_nil_iff
  | succ fuel ih =>
    by_cases empty : remaining = []
    · rw [empty]
      exact parse_nil_iff
    rcases exists_first '\x7b' remaining with plain | ⟨lead, inside, rfl, plain⟩
    · rw [parseTokens_text empty plain]
      simp only [split_plain_iff empty plain, exists_eq_left, List.forall₂_cons_left_iff,
        List.forall₂_nil_left_iff, Piece.ReadAs, Except.ok.injEq]
      exact ⟨fun same => ⟨_, _, rfl, rfl, same.symm⟩, fun ⟨_, _, first, rest, same⟩ => by
        rw [same, first, rest]⟩
    rcases exists_first '\x7d' inside with unclosed | ⟨name, rest, rfl, closes⟩
    · rw [parseTokens_unclosed plain unclosed]
      exact iff_of_false nofun fun ⟨pieces, cut, _⟩ => not_split_unclosed plain unclosed cut
    · rw [← List.cons_append, ← List.append_assoc] at enough ⊢
      have shorter : rest.length ≤ fuel := by
        simp only [List.length_append, List.length_cons] at enough
        omega
      rw [parseTokens_front plain closes]
      constructor
      · rintro ⟨token, accepts, others, parsed, same⟩
        obtain ⟨more, cut, reads⟩ := (ih shorter).mp parsed
        exact ⟨_, (split_front_iff plain closes).mpr ⟨more, cut, rfl⟩,
          forall₂_front.mpr ⟨token, accepts, others, reads, same⟩⟩
      · rintro ⟨pieces, cut, reads⟩
        obtain ⟨more, behind, rfl⟩ := (split_front_iff plain closes).mp cut
        obtain ⟨token, accepts, others, rest, same⟩ := forall₂_front.mp reads
        exact ⟨token, accepts, others, (ih shorter).mpr ⟨more, behind, rest⟩, same⟩

theorem parsePattern_eq_ok_iff : parsePattern pattern = .ok tokens ↔
    ∃ pieces, Split pattern.toList pieces ∧ List.Forall₂ Piece.ReadAs pieces tokens :=
  parseTokens_eq_ok_iff (le_refl _)

end Parser

/-! ## When the parser follows the documentation -/

section Regular

variable {pattern : String} {pieces : List Piece} {tokens : List Token}

theorem mem_placeholders {inside : List Char} :
    inside ∈ placeholders pieces ↔ .placeholder inside ∈ pieces := by
  rw [placeholders, List.mem_filterMap]
  constructor
  · rintro ⟨piece, member, same⟩
    cases piece with
    | literal text => cases same
    | placeholder other => exact Option.some.inj same ▸ member
  · exact fun member => ⟨_, member, rfl⟩

theorem forall₂_of_placeholders {reads others : Piece → Token → Prop}
    (each : List.Forall₂ reads pieces tokens)
    (literal : ∀ text token, reads (.literal text) token → others (.literal text) token)
    (placeholder : ∀ inside ∈ placeholders pieces, ∀ token,
      reads (.placeholder inside) token → others (.placeholder inside) token) :
    List.Forall₂ others pieces tokens := by
  refine (List.forall₂_and_left _ _ |>.mpr ⟨fun piece member => member, each⟩).imp ?_
  rintro piece token ⟨member, read⟩
  cases piece with
  | literal text => exact literal text token read
  | placeholder inside => exact placeholder inside (mem_placeholders.mpr member) token read

theorem exists_forall₂ {reads : Piece → Token → Prop}
    (literal : ∀ text, ∃ token, reads (.literal text) token)
    (each : ∀ inside ∈ placeholders pieces, ∃ token, reads (.placeholder inside) token) :
    ∃ tokens, List.Forall₂ reads pieces tokens := by
  induction pieces with
  | nil => exact ⟨[], .nil⟩
  | cons piece rest ih =>
    obtain ⟨tokens, others⟩ := ih fun inside member =>
      each inside (mem_placeholders.mpr (List.mem_cons_of_mem _ (mem_placeholders.mp member)))
    obtain ⟨token, first⟩ : ∃ token, reads piece token := by
      cases piece with
      | literal text => exact literal text
      | placeholder inside => exact each inside (mem_placeholders.mpr List.mem_cons_self)
    exact ⟨token :: tokens, .cons first others⟩

theorem exists_of_forall₂ {reads : Piece → Token → Prop} (each : List.Forall₂ reads pieces tokens) :
    ∀ inside ∈ placeholders pieces, ∃ token, reads (.placeholder inside) token := by
  intro inside member
  induction each with
  | nil => cases member
  | @cons piece token rest tokens first others ih =>
    rcases List.mem_cons.mp (mem_placeholders.mp member) with here | there
    · exact ⟨token, here ▸ first⟩
    · exact ih (mem_placeholders.mpr there)

theorem render_ne (sequenced : hasSEQ tokens = true) (vars : PatternVars) {n m : Int}
    (different : n ≠ m) :
    render tokens { vars with sequence := n } ≠ render tokens { vars with sequence := m } :=
  fun same => different (sequence_of_render sequenced (fun _ _ _ => rfl) same)

end Regular

/-- The parser follows the documentation exactly for the regular patterns. -/
theorem parsesAsDocumented_iff (pattern : String) :
    ParsesAsDocumented pattern ↔ Regular pattern := by
  constructor
  · intro documented
    refine ⟨fun pieces cut each inside member one => ?_,
      fun pieces cut each inside member width wide => ?_⟩
    · obtain ⟨tokens, reads⟩ : ∃ tokens, List.Forall₂ Piece.Reads pieces tokens :=
        exists_forall₂ (fun text => ⟨_, rfl⟩) each
      obtain ⟨others, cut', readAs⟩ := parsePattern_eq_ok_iff.mp
        ((documented.accepts tokens).mpr ⟨pieces, cut, reads⟩)
      rw [split_unique cut' cut] at readAs
      obtain ⟨token, ⟨-, plain⟩ | ⟨width, wide, -⟩⟩ := exists_of_forall₂ readAs inside member
      · exact plain one
      · obtain ⟨token, denotes⟩ := each inside member
        exact denotes.not_overwide width wide
    · obtain ⟨tokens, readAs⟩ : ∃ tokens, List.Forall₂ Piece.ReadAs pieces tokens :=
        exists_forall₂ (fun text => ⟨_, rfl⟩) each
      obtain ⟨others, cut', reads⟩ := (documented.accepts tokens).mp
        (parsePattern_eq_ok_iff.mpr ⟨pieces, cut, readAs⟩)
      rw [split_unique cut' cut] at reads
      obtain ⟨token, denotes⟩ := exists_of_forall₂ reads inside member
      exact denotes.not_overwide width wide
  · intro regular
    refine ⟨fun tokens => ?_, fun tokens _ sequenced vars n m different =>
      render_ne sequenced vars different⟩
    rw [parsePattern_eq_ok_iff]
    constructor
    · rintro ⟨pieces, cut, readAs⟩
      have narrow := regular.widths pieces cut (exists_of_forall₂ readAs)
      refine ⟨pieces, cut, forall₂_of_placeholders readAs (fun _ _ same => same) ?_⟩
      rintro inside member token (⟨denotes, -⟩ | ⟨width, wide, -⟩)
      · exact denotes
      · exact absurd wide (narrow inside member width)
    · rintro ⟨pieces, cut, reads⟩
      have plain := regular.ones pieces cut (exists_of_forall₂ reads)
      refine ⟨pieces, cut, forall₂_of_placeholders reads (fun _ _ same => same) ?_⟩
      exact fun inside member token denotes => .inl ⟨denotes, plain inside member⟩

def paymentPattern : String := "PAY-\x7bYYYYMM\x7d-\x7b000001\x7d"

theorem documented_paymentPattern :
    Documented paymentPattern [.literal "PAY-", .yyyymm, .literal "-", .seq 6] := by
  refine ⟨[.literal "PAY-".toList, .placeholder "YYYYMM".toList, .literal "-".toList,
    .placeholder "000001".toList], ?_, .cons rfl (.cons .yyyymm (.cons rfl (.cons ?_ .nil)))⟩
  · have number := Split.placeholder (show '\x7d' ∉ "000001".toList by decide) .nil
    have dash := Split.literal (show "-".toList ≠ [] by decide) (by decide) (by simp) number
    have month := Split.placeholder (show '\x7d' ∉ "YYYYMM".toList by decide) dash
    have whole := Split.literal (show "PAY-".toList ≠ [] by decide) (by decide) (by simp) month
    exact whole
  · exact .zerosOne (show 1 ≤ 5 by decide) (by decide)

/-- The parser refuses it. -/
theorem paymentPattern_refused :
    (parsePattern paymentPattern).isOk = false ∧ ¬ParsesAsDocumented paymentPattern := by
  have refused : (parsePattern paymentPattern).isOk = false := by decide +kernel
  refine ⟨refused, fun documented => ?_⟩
  rw [(documented.accepts _).mpr documented_paymentPattern] at refused
  cases refused

example : parsePattern "\x7bSEQ:18446744073709551617\x7d" = .ok [.seq 1] := by decide +kernel

end ErpFinance.Naming
