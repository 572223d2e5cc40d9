import ErpFinance.Library.Csv
import Mathlib.Data.Prod.Lex
import Mathlib.Data.Set.Finite.List
import Mathlib.Data.Set.Finite.Lemmas

/-!
# Fields that are joined without quotes

Fields that are joined with a comma and a blank, and read as a record: those
without commas, quotes and line feeds that do not begin with a space are read
back, if no carriage return ends the text.  Any others are lost or make fewer
quotes, or a lighter record.  So reading maps no set of records onto itself but
where it reads back each of them.
-/

namespace ErpFinance.Library.Csv

/-- Fields behind a first one, each after a comma and a blank. -/
def appended (fields : List Field) : List Char := fields.flatMap fun field => ',' :: ' ' :: field

/-- The reader leaves the field as it is. -/
def Bare (field : Field) : Prop :=
  (∀ c ∈ field, c ≠ ',' ∧ c ≠ '"' ∧ c ≠ '\n') ∧ ∀ c ∈ field.head?, isSpace c = false

instance (field : Field) : Decidable (Bare field) :=
  @instDecidableAnd _ _ (List.decidableBAll _ field) field.head?.decidableForallMem

/-- The fields can be joined and read back. -/
def Joinable (fields : List Field) : Prop :=
  (∀ field ∈ fields, Bare field) ∧ ∀ field ∈ fields.getLast?, field.getLast? ≠ some '\r'

instance (fields : List Field) : Decidable (Joinable fields) :=
  inferInstanceAs (Decidable (_ ∧ _))

def quotes (fields : List Field) : Nat := fields.flatten.count '"'

def weight (fields : List Field) : Nat := 2 * fields.flatten.length + fields.length

/-- Records by their quotes, and then by their weight. -/
def size (fields : List Field) : ℕ ×ₗ ℕ := toLex (quotes fields, weight fields)

/-- What a text without quotes adds to the weight of a record, from inside a field or from the
start of one. -/
def growth : Bool → List Char → Nat
  | _, [] => 0
  | inside, c :: rest =>
    if c = ',' then 1 + growth false rest
    else if c = '\n' then growth inside rest
    else if !inside && isSpace c then growth false rest
    else 2 + growth true rest

section Sums

variable {fields others : List Field} {field : Field}

theorem appended_cons : appended (field :: fields) = ',' :: ' ' :: (field ++ appended fields) := by
  rw [appended, List.flatMap_cons]
  rfl

theorem appended_append : appended (fields ++ others) = appended fields ++ appended others :=
  List.flatMap_append

theorem quotes_nil : quotes [] = 0 := rfl

theorem weight_nil : weight [] = 0 := rfl

theorem quotes_cons : quotes (field :: fields) = field.count '"' + quotes fields := by
  rw [quotes, List.flatten_cons, List.count_append]
  rfl

theorem quotes_snoc : quotes (fields ++ [field]) = quotes fields + field.count '"' := by
  rw [quotes, List.flatten_concat, List.count_append]
  rfl

theorem weight_cons : weight (field :: fields) = 2 * field.length + 1 + weight fields := by
  rw [weight, weight, List.flatten_cons, List.length_append, List.length_cons]
  omega

theorem weight_snoc : weight (fields ++ [field]) = weight fields + (2 * field.length + 1) := by
  rw [weight, weight, List.flatten_concat, List.length_append, List.length_append,
    List.length_singleton]
  omega

/-- The quotes of a text that was joined are those of its fields. -/
theorem count_appended : (appended fields).count '"' = quotes fields := by
  induction fields with
  | nil => rfl
  | cons field fields ih =>
    rw [appended_cons, List.count_cons_of_ne (by decide), List.count_cons_of_ne (by decide),
      List.count_append, ih, quotes_cons]

end Sums

section Reader

variable {mode : Mode} {fields result : List Field} {field : Field} {text rest : List Char}

theorem prefix_of_readFields (read : readFields mode field fields text = (.ok result, rest)) :
    ∃ more, result = fields ++ more := by
  fun_induction readFields mode field fields text
  all_goals first
    | (cases read; exact ⟨_, rfl⟩)
    | cases read
    | skip
  all_goals
    rename_i ih
    obtain ⟨more, rfl⟩ := ih read
    first
      | exact ⟨more, rfl⟩
      | exact ⟨_, List.append_assoc _ _ _⟩

variable {c : Char}

theorem readFields_start_cases
    (read : readFields .start field fields (c :: text) = (.ok result, rest)) :
    (c = '\n' ∧ result = fields ++ [[]]) ∨
      (c ≠ '\n' ∧ isSpace c = true ∧ readFields .start [] fields text = (.ok result, rest)) ∨
      (c = '"' ∧ readFields .quoted [] fields text = (.ok result, rest)) ∨
      (c = ',' ∧ readFields .start [] (fields ++ [[]]) text = (.ok result, rest)) ∨
      (c ≠ '\n' ∧ isSpace c = false ∧ c ≠ '"' ∧ c ≠ ',' ∧
        readFields .plain [c] fields text = (.ok result, rest)) := by
  rw [readFields] at read
  split at read
  · rename_i feed
    cases read
    exact .inl ⟨feed, rfl⟩
  · rename_i feed
    split at read
    · rename_i space
      exact .inr (.inl ⟨feed, space, read⟩)
    · rename_i space
      split at read
      · rename_i quote
        exact .inr (.inr (.inl ⟨quote, read⟩))
      · rename_i quote
        split at read
        · rename_i comma
          exact .inr (.inr (.inr (.inl ⟨comma, read⟩)))
        · rename_i comma
          exact .inr (.inr (.inr (.inr
            ⟨feed, Bool.eq_false_of_not_eq_true space, quote, comma, read⟩)))

/-- What it does with one inside a field without quotes. -/
theorem readFields_plain_cases
    (read : readFields .plain field fields (c :: text) = (.ok result, rest)) :
    (c = '\n' ∧ result = fields ++ [field]) ∨
      (c = ',' ∧ readFields .start [] (fields ++ [field]) text = (.ok result, rest)) ∨
      (c ≠ '\n' ∧ c ≠ ',' ∧ c ≠ '"' ∧
        readFields .plain (field ++ [c]) fields text = (.ok result, rest)) := by
  rw [readFields] at read
  split at read
  · rename_i feed
    cases read
    exact .inl ⟨feed, rfl⟩
  · rename_i feed
    split at read
    · rename_i comma
      exact .inr (.inl ⟨comma, read⟩)
    · rename_i comma
      split at read
      · cases read
      · rename_i quote
        exact .inr (.inr ⟨feed, comma, quote, read⟩)

theorem readFields_closed_cases
    (read : readFields .closed field fields (c :: text) = (.ok result, rest)) :
    (c = '"' ∧ readFields .quoted (field ++ ['"']) fields text = (.ok result, rest)) ∨
      (c = ',' ∧ readFields .start [] (fields ++ [field]) text = (.ok result, rest)) ∨
      (c = '\n' ∧ result = fields ++ [field]) := by
  rw [readFields] at read
  split at read
  · rename_i quote
    exact .inl ⟨quote, read⟩
  · split at read
    · rename_i comma
      exact .inr (.inl ⟨comma, read⟩)
    · split at read
      · rename_i feed
        cases read
        exact .inr (.inr ⟨feed, rfl⟩)
      · cases read

/-- The reader adds no quotes. -/
theorem quotes_readFields_le (read : readFields mode field fields text = (.ok result, rest)) :
    quotes result ≤ quotes fields + field.count '"' + text.count '"' := by
  induction text generalizing mode field fields with
  | nil =>
    cases mode with
    | start =>
      cases read
      rw [quotes_snoc, List.count_nil]
      omega
    | plain | closed =>
      cases read
      rw [quotes_snoc]
      exact Nat.le_refl _
    | quoted => cases read
  | cons c text ih =>
    have more : text.count '"' ≤ (c :: text).count '"' := List.count_le_count_cons
    cases mode with
    | start =>
      rcases readFields_start_cases read with ⟨-, rfl⟩ | ⟨-, -, next⟩ | ⟨-, next⟩ | ⟨-, next⟩ |
        ⟨-, -, quote, -, next⟩
      · rw [quotes_snoc, List.count_nil]
        omega
      · have bound := ih next
        rw [List.count_nil] at bound
        omega
      · have bound := ih next
        rw [List.count_nil] at bound
        omega
      · have bound := ih next
        rw [quotes_snoc, List.count_nil] at bound
        omega
      · have bound := ih next
        rw [List.count_singleton, if_neg (by simpa using quote)] at bound
        omega
    | plain =>
      rcases readFields_plain_cases read with ⟨-, rfl⟩ | ⟨-, next⟩ | ⟨-, -, -, next⟩
      · rw [quotes_snoc]
        omega
      · have bound := ih next
        rw [quotes_snoc, List.count_nil] at bound
        omega
      · have bound := ih next
        rw [List.count_append, List.count_singleton] at bound
        rw [List.count_cons]
        omega
    | quoted =>
      rw [readFields] at read
      split at read
      · have bound := ih read
        omega
      · have bound := ih read
        rw [List.count_append, List.count_singleton] at bound
        rw [List.count_cons]
        omega
    | closed =>
      rcases readFields_closed_cases read with ⟨rfl, next⟩ | ⟨-, next⟩ | ⟨-, rfl⟩
      · have bound := ih next
        rw [List.count_append, List.count_singleton_self] at bound
        rw [List.count_cons_self]
        omega
      · have bound := ih next
        rw [quotes_snoc, List.count_nil] at bound
        omega
      · rw [quotes_snoc]
        omega

theorem quotes_readFields_lt (outside : mode = .start ∨ mode = .plain) (quoted : '"' ∈ text)
    (read : readFields mode field fields text = (.ok result, rest)) :
    quotes result < quotes fields + field.count '"' + text.count '"' := by
  induction text generalizing mode field fields with
  | nil => cases quoted
  | cons c text ih =>
    have among : 0 < (c :: text).count '"' := List.count_pos_iff.mpr quoted
    have more : text.count '"' ≤ (c :: text).count '"' := List.count_le_count_cons
    have later : c ≠ '"' → '"' ∈ text := fun other =>
      (List.mem_cons.mp quoted).resolve_left (Ne.symm other)
    rcases outside with rfl | rfl
    · rcases readFields_start_cases read with ⟨-, rfl⟩ | ⟨-, space, next⟩ | ⟨rfl, next⟩ |
        ⟨rfl, next⟩ | ⟨-, -, quote, -, next⟩
      · rw [quotes_snoc, List.count_nil]
        omega
      · have other : c ≠ '"' := by
          rintro rfl
          exact absurd space (by decide)
        have bound := ih (.inl rfl) (later other) next
        rw [List.count_nil] at bound
        omega
      · have bound := quotes_readFields_le next
        rw [List.count_nil] at bound
        rw [List.count_cons_self]
        omega
      · have bound := ih (.inl rfl) (later (by decide)) next
        rw [quotes_snoc, List.count_nil] at bound
        omega
      · have bound := ih (.inr rfl) (later quote) next
        rw [List.count_singleton, if_neg (by simpa using quote)] at bound
        omega
    · rcases readFields_plain_cases read with ⟨-, rfl⟩ | ⟨rfl, next⟩ | ⟨-, -, quote, next⟩
      · rw [quotes_snoc]
        omega
      · have bound := ih (.inl rfl) (later (by decide)) next
        rw [quotes_snoc, List.count_nil] at bound
        omega
      · have bound := ih (.inr rfl) (later quote) next
        rw [List.count_append, List.count_singleton] at bound
        rw [List.count_cons]
        omega

/-- Without quotes a record is no heavier than what the text adds. -/
theorem weight_readFields_le (free : '"' ∉ text) :
    (readFields .start field fields text = (.ok result, rest) →
      weight result ≤ weight fields + 1 + growth false text) ∧
    (readFields .plain field fields text = (.ok result, rest) →
      weight result ≤ weight fields + (2 * field.length + 1) + growth true text) := by
  induction text generalizing field fields with
  | nil =>
    constructor
    · rintro ⟨⟩
      rw [weight_snoc, List.length_nil]
      omega
    · rintro ⟨⟩
      rw [weight_snoc]
      omega
  | cons c text ih =>
    rw [List.mem_cons, not_or] at free
    constructor
    · intro read
      rcases readFields_start_cases read with ⟨-, rfl⟩ | ⟨feed, space, next⟩ | ⟨quote, -⟩ |
        ⟨comma, next⟩ | ⟨feed, space, -, comma, next⟩
      · rw [weight_snoc, List.length_nil]
        omega
      · have comma : c ≠ ',' := by
          rintro rfl
          exact absurd space (by decide)
        have bound := (ih free.2).1 next
        rw [growth, if_neg comma, if_neg feed, space]
        exact bound
      · exact absurd quote.symm free.1
      · have bound := (ih free.2).1 next
        rw [weight_snoc, List.length_nil] at bound
        rw [growth, if_pos comma]
        omega
      · have bound := (ih free.2).2 next
        rw [List.length_singleton] at bound
        rw [growth, if_neg comma, if_neg feed, space]
        change _ ≤ weight fields + 1 + (2 + growth true text)
        omega
    · intro read
      rcases readFields_plain_cases read with ⟨-, rfl⟩ | ⟨comma, next⟩ | ⟨feed, comma, -, next⟩
      · rw [weight_snoc]
        omega
      · have bound := (ih free.2).1 next
        rw [weight_snoc] at bound
        rw [growth, if_pos comma]
        omega
      · have bound := (ih free.2).2 next
        rw [List.length_append, List.length_singleton] at bound
        rw [growth, if_neg comma, if_neg feed]
        change _ ≤ weight fields + (2 * field.length + 1) + (2 + growth true text)
        omega

end Reader

/-! ## What a text adds -/

section Growth

variable {fields : List Field} {field : Field} (inside : Bool)

theorem growth_le (field : Field) : growth inside field ≤ 2 * field.length := by
  induction field generalizing inside with
  | nil => exact Nat.le_refl 0
  | cons c field ih =>
    have starts := ih false
    have goes := ih true
    have stays := ih inside
    rw [growth, List.length_cons]
    split
    · omega
    · split
      · omega
      · split <;> omega

/-- A field with a separator in it adds less than it has. -/
theorem growth_lt_of_mem {c : Char} (separator : c = ',' ∨ c = '\n') (member : c ∈ field) :
    growth inside field < 2 * field.length := by
  induction field generalizing inside with
  | nil => cases member
  | cons d field ih =>
    have starts := growth_le false field
    have stays := growth_le inside field
    rw [growth, List.length_cons]
    split
    · omega
    · split
      · omega
      · rename_i comma feed
        have later : c ∈ field := by
          rcases List.mem_cons.mp member with rfl | later
          · exact (separator.elim comma feed).elim
          · exact later
        have starts := ih false later
        have goes := ih true later
        split <;> omega

/-- A field that is not read back adds less than it has. -/
theorem growth_lt_of_not_bare (free : '"' ∉ field) (lost : ¬Bare field) :
    growth false field < 2 * field.length := by
  by_cases separated : ',' ∈ field ∨ '\n' ∈ field
  · rcases separated with comma | feed
    · exact growth_lt_of_mem false (.inl rfl) comma
    · exact growth_lt_of_mem false (.inr rfl) feed
  · rw [not_or] at separated
    have spaced : ∃ c ∈ field.head?, isSpace c = true := by
      by_contra none
      push Not at none
      refine lost ⟨fun c member => ⟨?_, ?_, ?_⟩, fun c first =>
        Bool.eq_false_of_not_eq_true (none c first)⟩
      · rintro rfl
        exact separated.1 member
      · rintro rfl
        exact free member
      · rintro rfl
        exact separated.2 member
    obtain ⟨c, first, space⟩ := spaced
    cases field with
    | nil => cases first
    | cons d field =>
      cases first
      have starts := growth_le false field
      rw [List.mem_cons, not_or, List.mem_cons, not_or] at separated
      rw [growth, if_neg (Ne.symm separated.1.1), if_neg (Ne.symm separated.2.1), space,
        List.length_cons]
      change growth false field < _
      omega

theorem growth_appended (fields : List Field) :
    growth inside (appended fields) = growth true (appended fields) := by
  cases fields with
  | nil => rfl
  | cons field fields =>
    rw [appended_cons]
    rfl

/-- What follows a field starts at a comma, if anything follows. -/
theorem growth_append (field : Field) :
    growth inside (field ++ appended fields) =
      growth inside field + growth true (appended fields) := by
  induction field generalizing inside with
  | nil => exact (growth_appended inside fields).trans (Nat.zero_add _).symm
  | cons c field ih =>
    have starts := ih false
    have goes := ih true
    have stays := ih inside
    rw [List.cons_append, growth, growth]
    split
    · omega
    · split
      · omega
      · split <;> omega

theorem growth_appended_cons :
    growth true (appended (field :: fields)) =
      1 + growth false field + growth true (appended fields) := by
  rw [appended_cons]
  change 1 + growth false (field ++ appended fields) = _
  rw [growth_append, Nat.add_assoc]

theorem growth_appended_le (fields : List Field) :
    growth true (appended fields) ≤ weight fields := by
  induction fields with
  | nil => exact Nat.le_refl 0
  | cons field fields ih =>
    have bound := growth_le false field
    rw [growth_appended_cons, weight_cons]
    omega

theorem growth_appended_lt (free : ∀ field ∈ fields, '"' ∉ field)
    (lost : ∃ field ∈ fields, ¬Bare field) : growth true (appended fields) < weight fields := by
  induction fields with
  | nil =>
    obtain ⟨_, member, -⟩ := lost
    cases member
  | cons field fields ih =>
    rw [List.forall_mem_cons] at free
    rw [growth_appended_cons, weight_cons]
    by_cases bare : Bare field
    · obtain ⟨other, member, changed⟩ := lost
      have later : other ∈ fields := by
        rcases List.mem_cons.mp member with rfl | later
        · exact absurd bare changed
        · exact later
      have first := growth_le false field
      have behind := ih free.2 ⟨other, later, changed⟩
      omega
    · have first := growth_lt_of_not_bare free.1 bare
      have behind := growth_appended_le fields
      omega

/-- Carriage returns only add. -/
theorem growth_unreturned_le (text : List Char) :
    growth inside (unreturned text) ≤ growth inside text := by
  induction text generalizing inside with
  | nil => exact Nat.le_refl _
  | cons c text ih =>
    have starts := ih false
    have goes := ih true
    have stays := ih inside
    rw [unreturned]
    split
    · rename_i returned
      obtain ⟨rfl, -⟩ := returned
      have space : isSpace '\r' = true := by decide
      rw [growth, if_neg (by decide), if_neg (by decide), space, Bool.and_true]
      cases inside with
      | false => exact stays
      | true => exact Nat.le_trans stays (Nat.le_add_left _ _)
    · rw [growth, growth]
      split
      · omega
      · split
        · omega
        · split <;> omega

theorem growth_dropLast_le (text : List Char) :
    growth inside text.dropLast ≤ growth inside text := by
  induction text generalizing inside with
  | nil => exact Nat.le_refl _
  | cons c text ih =>
    cases text with
    | nil => exact Nat.zero_le _
    | cons d text =>
      have starts := ih false
      have goes := ih true
      have stays := ih inside
      rw [List.dropLast_cons_cons, growth, growth]
      split
      · omega
      · split
        · omega
        · split <;> omega

theorem growth_readLines_le (text : List Char) :
    growth inside (readLines text) ≤ growth inside text := by
  rw [readLines]
  refine Nat.le_trans (growth_unreturned_le _ _) ?_
  split
  · exact growth_dropLast_le inside text
  · exact Nat.le_refl _

theorem growth_readLines_lt (returned : ∃ field ∈ fields.getLast?, field.getLast? = some '\r') :
    growth true (readLines (appended fields)) < weight fields := by
  obtain ⟨field, last, ends⟩ := returned
  obtain ⟨others, rfl⟩ := List.getLast?_eq_some_iff.mp last
  obtain ⟨kept, rfl⟩ := List.getLast?_eq_some_iff.mp ends
  have shown : appended (others ++ [kept ++ ['\r']]) =
      appended (others ++ [kept]) ++ ['\r'] := by
    rw [appended_append, appended_append, appended_cons, appended_cons]
    simp [appended]
  have bound := growth_appended_le (others ++ [kept])
  rw [shown, readLines, List.getLast?_concat, if_pos rfl, List.dropLast_concat]
  refine Nat.lt_of_le_of_lt (growth_unreturned_le _ _) ?_
  rw [weight_snoc] at bound ⊢
  rw [List.length_append, List.length_singleton]
  omega

end Growth

section Joined

variable {t : Char} {fields : List Field} {field : Field}

theorem readFields_appended (bare : ∀ field ∈ fields, Bare field) (read : List Field) :
    readFields .plain field read (appended fields) = (.ok (read ++ field :: fields), []) := by
  induction fields generalizing field read with
  | nil => rfl
  | cons next fields ih =>
    rw [List.forall_mem_cons] at bare
    have gathered : read ++ field :: next :: fields = read ++ [field] ++ next :: fields := by
      simp
    rw [gathered, ← ih bare.2 (read ++ [field]), appended_cons]
    change readFields .start [] (read ++ [field]) (next ++ appended fields) = _
    cases next with
    | nil =>
      cases fields with
      | nil => rfl
      | cons later fields =>
        rw [appended_cons]
        rfl
    | cons c next =>
      obtain ⟨marks, first⟩ := bare.1
      obtain ⟨comma, quote, feed⟩ := marks c List.mem_cons_self
      rw [List.cons_append, readFields, if_neg feed, first c rfl, if_neg Bool.false_ne_true,
        if_neg quote, if_neg comma,
        readFields_bare fun d member => marks d (List.mem_cons_of_mem _ member)]
      rfl

theorem feed_notMem_appended (bare : ∀ field ∈ fields, Bare field) : '\n' ∉ appended fields := by
  intro member
  obtain ⟨field, among, feed⟩ := List.mem_flatMap.mp member
  rcases List.mem_cons.mp feed with same | feed
  · exact absurd same (by decide)
  · rcases List.mem_cons.mp feed with same | feed
    · exact absurd same (by decide)
    · exact ((bare field among).1 '\n' feed).2.2 rfl

theorem unreturned_of_feed_notMem {text : List Char} (free : '\n' ∉ text) :
    unreturned text = text := by
  induction text with
  | nil => rfl
  | cons c text ih =>
    rw [List.mem_cons, not_or] at free
    have followed : text.head? ≠ some '\n' := fun first =>
      free.2 (List.mem_of_mem_head? first)
    rw [unreturned_cons (.inr followed), ih free.2]

theorem getLast?_appended
    (kept : ∀ field ∈ fields.getLast?, field.getLast? ≠ some '\r') :
    (appended fields).getLast? ≠ some '\r' := by
  cases last : fields.getLast? with
  | none =>
    rw [List.getLast?_eq_none_iff.mp last]
    exact nofun
  | some field =>
    obtain ⟨others, rfl⟩ := List.getLast?_eq_some_iff.mp last
    have ends := kept field last
    rw [appended_append, appended_cons, List.getLast?_append, List.getLast?_cons,
      List.getLast?_cons]
    change some ((field ++ appended []).getLast?.getD ' ') ≠ some '\r'
    rw [appended, List.flatMap_nil, List.append_nil]
    cases behind : field.getLast? with
    | none => decide
    | some c => exact fun same => ends (behind.trans same)

/-- The reader sees the first character as it is. -/
theorem readLines_cons {text : List Char} (other : t ≠ '\r') (more : text ≠ []) :
    readLines (t :: text) = t :: readLines text := by
  have last : (t :: text).getLast? = text.getLast? := by
    obtain ⟨d, text, rfl⟩ := List.exists_cons_of_ne_nil more
    exact List.getLast?_cons_cons
  have dropped : (t :: text).dropLast = t :: text.dropLast := List.dropLast_cons_of_ne_nil more
  rw [readLines, readLines, last, dropped]
  split
  · exact unreturned_cons (.inl other)
  · exact unreturned_cons (.inl other)

/-- The record that begins with a character and the fields behind it. -/
theorem readRecord_cons (bare : Bare [t]) (text : List Char) :
    readRecord (t :: text) = some (readFields .plain [t] [] text) := by
  obtain ⟨marks, first⟩ := bare
  obtain ⟨comma, quote, feed⟩ := marks t List.mem_cons_self
  rw [readRecord, List.dropWhile_cons_of_neg (by simpa using feed)]
  change some (readFields .start [] [] (t :: text)) = _
  rw [readFields, if_neg feed, first t rfl, if_neg Bool.false_ne_true, if_neg quote, if_neg comma]

theorem appended_ne_nil (some : fields ≠ []) : appended fields ≠ [] := by
  obtain ⟨field, others, rfl⟩ := List.exists_cons_of_ne_nil some
  rw [appended_cons]
  exact List.cons_ne_nil _ _

theorem ne_return_of_bare (bare : Bare [t]) : t ≠ '\r' := by
  rintro rfl
  exact absurd (bare.2 '\r' rfl) (by decide)

/-- Fields that can be joined are read back. -/
theorem readRecord_appended (bare : Bare [t]) (some : fields ≠ []) (joinable : Joinable fields) :
    readRecord (readLines (t :: appended fields)) = .some (.ok ([t] :: fields), []) := by
  have lines : readLines (appended fields) = appended fields := by
    rw [readLines, if_neg (getLast?_appended joinable.2),
      unreturned_of_feed_notMem (feed_notMem_appended joinable.1)]
  rw [readLines_cons (ne_return_of_bare bare) (appended_ne_nil some), lines, readRecord_cons bare,
    readFields_appended joinable.1]
  rfl

theorem exists_readLines_appended (some : fields ≠ []) :
    ∃ text, readLines (appended fields) = ',' :: text := by
  obtain ⟨field, others, rfl⟩ := List.exists_cons_of_ne_nil some
  rw [appended_cons, readLines_cons (by decide) (List.cons_ne_nil _ _)]
  exact ⟨_, rfl⟩

theorem exists_eq_cons {read : List Field} {rest : List Char} (bare : Bare [t])
    (some : fields ≠ [])
    (result : readRecord (readLines (t :: appended fields)) = .some (.ok read, rest)) :
    ∃ others, read = [t] :: others ∧
      readFields .plain [t] [] (readLines (appended fields)) = (.ok ([t] :: others), rest) := by
  rw [readLines_cons (ne_return_of_bare bare) (appended_ne_nil some),
    readRecord_cons bare] at result
  have record := Option.some.inj result
  obtain ⟨text, starts⟩ := exists_readLines_appended some
  have behind : readFields .start [] [[t]] text = (.ok read, rest) := by
    rw [← record, starts]
    rfl
  obtain ⟨others, rfl⟩ := prefix_of_readFields behind
  exact ⟨others, rfl, record⟩

theorem quote_mem_readLines {text : List Char} (quoted : '"' ∈ text) : '"' ∈ readLines text := by
  rw [readLines, mem_unreturned (by decide)]
  split
  · rename_i returned
    obtain ⟨kept, rfl⟩ := List.getLast?_eq_some_iff.mp returned
    rw [List.dropLast_concat]
    exact (List.mem_append.mp quoted).resolve_right (by decide)
  · exact quoted

theorem readLines_sublist (text : List Char) : (readLines text).Sublist text := by
  rw [readLines]
  split
  · exact unreturned_sublist.trans (List.dropLast_sublist text)
  · exact unreturned_sublist

/-- Fields that cannot be joined are lost or make a smaller record. -/
theorem size_lt_of_not_joinable {read : List Field} {rest : List Char} (bare : Bare [t])
    (some : fields ≠ []) (lost : ¬Joinable fields)
    (result : readRecord (readLines (t :: appended fields)) = .some (.ok read, rest)) :
    ∃ others, read = [t] :: others ∧ size others < size fields := by
  obtain ⟨others, rfl, record⟩ := exists_eq_cons bare some result
  refine ⟨others, rfl, Prod.Lex.toLex_lt_toLex.mpr ?_⟩
  have unquoted : ([t] : Field).count '"' = 0 := by
    rw [List.count_singleton, if_neg]
    simpa using (bare.1 t List.mem_cons_self).2.1
  have fewer : (readLines (appended fields)).count '"' ≤ quotes fields :=
    (readLines_sublist _).count_le '"' |>.trans_eq count_appended
  by_cases quoted : '"' ∈ appended fields
  · have bound := quotes_readFields_lt (.inr rfl) (quote_mem_readLines quoted) record
    rw [quotes_cons, quotes_nil, unquoted] at bound
    exact .inl (by omega)
  · have none : quotes fields = 0 := by
      rw [← count_appended]
      exact List.count_eq_zero_of_not_mem quoted
    have bound := quotes_readFields_le record
    rw [quotes_cons, quotes_nil, unquoted] at bound
    have same : quotes others = quotes fields := by omega
    have free : '"' ∉ readLines (appended fields) := fun member =>
      quoted ((readLines_sublist _).subset member)
    have heavy := (weight_readFields_le free).2 record
    rw [weight_cons, weight_nil, List.length_singleton] at heavy
    refine .inr ⟨same, ?_⟩
    have lighter : growth true (readLines (appended fields)) < weight fields := by
      by_cases spoiled : ∃ field ∈ fields, ¬Bare field
      · have each : ∀ field ∈ fields, '"' ∉ field := fun field member inField =>
          quoted (List.mem_flatMap.mpr
            ⟨field, member, List.mem_cons_of_mem _ (List.mem_cons_of_mem _ inField)⟩)
        exact Nat.lt_of_le_of_lt (growth_readLines_le _ _) (growth_appended_lt each spoiled)
      · push Not at spoiled
        refine growth_readLines_lt ?_
        by_contra kept
        push Not at kept
        exact lost ⟨spoiled, kept⟩
    omega

end Joined

/-- Where everything is left as it is, lost or made smaller, a finite set that is reached from
itself is left as it is. -/
theorem fixed_of_onto {α β : Type*} [LinearOrder β] {change : α → Option α} {measure : α → β}
    {members : List α} (onto : ∀ a ∈ members, ∃ b ∈ members, change b = some a)
    (shrinks : ∀ a ∈ members, ∀ b, change a = some b → b = a ∨ measure b < measure a) :
    ∀ a ∈ members, change a = some a := by
  by_contra moved
  push Not at moved
  have finite : {a | a ∈ members ∧ change a ≠ some a}.Finite :=
    (List.finite_toSet members).subset fun _ member => member.1
  obtain ⟨a, ⟨member, changed⟩, largest⟩ :=
    Set.exists_max_image _ measure finite moved
  obtain ⟨b, among, reached⟩ := onto a member
  have different : a ≠ b := by
    rintro rfl
    exact changed reached
  have larger := (shrinks b among a reached).resolve_left different
  have moves : change b ≠ some b := fun stays =>
    different (Option.some.inj (reached.symm.trans stays))
  exact absurd larger (not_lt_of_ge (largest b ⟨among, moves⟩))

end ErpFinance.Library.Csv
