import ErpFinance.Ioport.Importer

/-!
# Cells

What becomes of one value that is written and read again, in a CSV file and in
a JSON document, and exactly which values come back as they were.
-/

namespace ErpFinance.Ioport

open Def (FieldType)
open Library

variable {F O : Type}

/-! ## Trimmed texts -/

theorem trimSpace_eq_empty_iff {text : String} :
    trimSpace text = "" ↔ ∀ c ∈ text.toList, isSpace c = true := by
  rw [trimSpace, ← String.toList_inj, String.toList_ofList, String.toList_empty]
  constructor
  · intro trimmed c inText
    rw [List.rdropWhile_eq_nil_iff] at trimmed
    by_contra visible
    have kept := List.dropWhile_eq_nil_iff.not.mpr
      (fun blank : ∀ d ∈ text.toList, isSpace d = true => visible (blank c inText))
    have first := List.head_dropWhile_not isSpace kept
    have blank := trimmed _ (List.head_mem kept)
    rw [first] at blank
    exact absurd blank (by decide)
  · intro blank
    have none : text.toList.dropWhile isSpace = [] := List.dropWhile_eq_nil_iff.mpr blank
    rw [none]
    rfl

theorem length_trimSpace_le (text : String) :
    (trimSpace text).toList.length ≤ text.toList.length := by
  rw [trimSpace, String.toList_ofList]
  exact ((List.rdropWhile_prefix _ _).length_le).trans (List.dropWhile_suffix _).length_le

/-- A text without white space is trimmed. -/
theorem trimSpace_of_visible {text : String} (visible : ∀ c ∈ text.toList, isSpace c = false) :
    trimSpace text = text := by
  have front : text.toList.dropWhile isSpace = text.toList := by
    rw [List.dropWhile_eq_self_iff]
    intro nonempty
    rw [visible _ (List.getElem_mem nonempty)]
    decide
  have back : text.toList.rdropWhile isSpace = text.toList := by
    rw [List.rdropWhile_eq_self_iff]
    intro nonempty
    rw [visible _ (List.getLast_mem nonempty)]
    decide
  rw [trimSpace, front, back, String.ofList_toList]

/-! ## Printed integers -/

theorem all_isDigit_toDigits (n : Nat) : (Nat.toDigits 10 n).all Char.isDigit = true :=
  List.all_eq_true.mpr fun _ inDigits =>
    Nat.isDigit_of_mem_toDigits (by decide) (by decide) inDigits

theorem paddedDigits_zero (n : Nat) : paddedDigits 0 n = Nat.toDigits 10 n := by
  simp [paddedDigits]

/-- A kind of ASCII characters that none of the spaces is of. -/
theorem isSpace_eq_false (kind : Char → Bool) {c : Char}
    (noSpace : ['\t', '\n', '\x0b', '\x0c', '\r', ' ', '\u0085', '\u00a0', '\u1680',
      '\u2028', '\u2029', '\u202f', '\u205f', '\u3000'].all (fun d => !kind d) = true)
    (matched : kind c = true) (small : c.toNat ≤ 127) : isSpace c = false := by
  rw [isSpace, Bool.or_eq_false_iff]
  constructor
  · rw [decide_eq_false_iff_not]
    intro listed
    have other := List.all_eq_true.mp noSpace c listed
    rw [matched] at other
    cases other
  · have high : ¬ '\u2000' ≤ c := fun above => by
      have numbers : ('\u2000').toNat ≤ c.toNat := above
      exact absurd (numbers.trans small) (by decide)
    rw [decide_eq_false high, Bool.false_and]

theorem isSpace_of_isDigit {c : Char} (digit : c.isDigit = true) : isSpace c = false := by
  refine isSpace_eq_false Char.isDigit (by decide) digit ?_
  simp only [Char.isDigit, Bool.and_eq_true, decide_eq_true_eq] at digit
  exact Nat.le_trans digit.2 (by decide)

theorem visible_paddedInt (n : Int) : ∀ c ∈ paddedInt 0 n, isSpace c = false := by
  cases n with
  | ofNat n => exact fun c inDigits => isSpace_of_isDigit (isDigit_of_mem_paddedDigits inDigits)
  | negSucc n =>
    intro c inDigits
    rcases List.mem_cons.mp inDigits with rfl | rest
    · decide
    · exact isSpace_of_isDigit (isDigit_of_mem_paddedDigits rest)

theorem parseInt_negative {chars : List Char} (some : chars ≠ [])
    (digits : chars.all Char.isDigit = true) :
    parseInt (String.ofList ('-' :: chars)) =
      (Option.some (-(Nat.ofDigitChars 10 chars 0 : Int))).filter fun n => IsInt64 n := by
  simp [parseInt, some, digits]

theorem parseInt_digits {chars : List Char} (some : chars ≠ [])
    (digits : chars.all Char.isDigit = true) :
    parseInt (String.ofList chars) =
      (Option.some (Nat.ofDigitChars 10 chars 0 : Int)).filter fun n => IsInt64 n := by
  obtain ⟨first, rest, rfl⟩ := List.exists_cons_of_ne_nil some
  have digit : first.isDigit = true := by
    rw [List.all_cons, Bool.and_eq_true] at digits
    exact digits.1
  have noMinus : first ≠ '-' := by
    rintro rfl
    exact absurd digit (by decide)
  have noPlus : first ≠ '+' := by
    rintro rfl
    exact absurd digit (by decide)
  rw [parseInt]
  simp only [String.toList_ofList]
  split
  · simp_all
  · simp_all
  · simp [digits]

/-- A printed integer is read back. -/
theorem parseInt_paddedInt {n : Int} (fits : IsInt64 n) :
    parseInt (String.ofList (paddedInt 0 n)) = some n := by
  cases n with
  | ofNat n =>
    rw [paddedInt, paddedDigits_zero,
      parseInt_digits Nat.toDigits_ne_nil (all_isDigit_toDigits n)]
    have value : Nat.ofDigitChars 10 (Nat.toDigits 10 n) 0 = n := by simp
    rw [value]
    simpa [Option.filter] using fits
  | negSucc n =>
    rw [paddedInt, Nat.zero_sub, paddedDigits_zero,
      parseInt_negative Nat.toDigits_ne_nil (all_isDigit_toDigits _)]
    have value : Nat.ofDigitChars 10 (Nat.toDigits 10 (n + 1)) 0 = n + 1 := by simp
    rw [value]
    simpa [Option.filter, Int.negSucc_eq] using fits

section Cells

variable (go : Language F O) (repo : Repository F O)

/-- The text of a cell as the import sees it. -/
def cellText (text : String) : String :=
  trimSpace (String.ofList (Csv.unreturned text.toList))

/-- What a value of a field is read as from a CSV file, where it is read at all; a blank cell is
missing. -/
def csvImported (f : FieldDef) (v : Value F O) : Option (Option (Value F O)) :=
  let text := cellText (sprint go v)
  if text = "" then some none else (coerceCSVValue go f.type text).toOption.map some

def jsonImported (f : FieldDef) (v : Value F O) : Option (Option (Value F O)) :=
  (marshal go v).map fun encoded => some (coerceJSONValue go f.type (unmarshal go encoded))

/-- What the repository makes of a cell. -/
def stored (f : FieldDef) : Option (Value F O) → Option (Value F O)
  | some v => repo.accept f v
  | none => repo.absent f

/-- The values of a field that come back from a CSV file. -/
def SurvivesCSV (f : FieldDef) : Value F O → Prop
  | .nil => IsOther f.type ∧ repo.accept f (.string "<nil>") = some .nil
  | .string s =>
    if trimSpace s = "" then repo.absent f = some (.string s)
    else trimSpace s = s ∧ ¬ ['\r', '\n'] <:+: s.toList
  | .int _ => True
  | .float _ => True
  | .bool _ => True
  | .other o =>
    let text := cellText (go.sprintOther o)
    (if text = "" then repo.absent f else repo.accept f (.string text)) = some (.other o)

/-- The values of a field that come back from a JSON document. -/
def SurvivesJSON (f : FieldDef) : Value F O → Prop
  | .nil => True
  | .string _ => True
  | .int n => Float64.Exact n ∨ (¬ IsInt64 (Float64.nearest n) ∧ go.overflow = n)
  | .float x => go.finite x = true
  | .bool _ => True
  | .other o => ∃ encoded, go.marshalOther o = some encoded ∧
      repo.accept f (unmarshal go encoded) = some (.other o)

variable {go} {repo} {f : FieldDef} {v : Value F O}

variable {text : String}

/-- A text without white space is read as it is. -/
theorem cellText_of_visible (visible : ∀ c ∈ text.toList, isSpace c = false) :
    cellText text = text := by
  have noReturn : '\r' ∉ text.toList := fun inText => by
    have blank := visible '\r' inText
    exact absurd blank (by decide)
  rw [cellText, Csv.unreturned_eq_self noReturn, String.ofList_toList,
    trimSpace_of_visible visible]

theorem cellText_of_all (visible : text.toList.all (fun c => !isSpace c) = true) :
    cellText text = text := by
  refine cellText_of_visible fun c inText => ?_
  have shown := List.all_eq_true.mp visible c inText
  rwa [Bool.not_eq_true'] at shown

theorem cellText_eq_empty_iff : cellText text = "" ↔ trimSpace text = "" := by
  rw [cellText, trimSpace_eq_empty_iff, trimSpace_eq_empty_iff, String.toList_ofList]
  constructor
  · intro blank c inText
    by_cases isReturn : c = '\r'
    · rw [isReturn]
      decide
    · exact blank c ((Csv.mem_unreturned isReturn).mpr inText)
  · intro blank c inLines
    by_cases isReturn : c = '\r'
    · rw [isReturn]
      decide
    · exact blank c ((Csv.mem_unreturned isReturn).mp inLines)

/-- A text comes back when nothing is trimmed and no carriage return goes. -/
theorem cellText_eq_self_iff :
    cellText text = text ↔ trimSpace text = text ∧ ¬ ['\r', '\n'] <:+: text.toList := by
  rw [← Csv.unreturned_eq_self_iff]
  constructor
  · intro same
    have lines : Csv.unreturned text.toList = text.toList := by
      have shorter := length_trimSpace_le (String.ofList (Csv.unreturned text.toList))
      have kept : (trimSpace (String.ofList (Csv.unreturned text.toList))).toList.length =
          text.toList.length := congrArg (·.toList.length) same
      rw [String.toList_ofList, kept] at shorter
      exact Csv.unreturned_sublist.eq_of_length_le shorter
    rw [cellText, lines, String.ofList_toList] at same
    exact ⟨same, lines⟩
  · rintro ⟨trimmed, lines⟩
    rw [cellText, lines, String.ofList_toList, trimmed]

/-- A type has strings, integers, floats or booleans for its values, or others. -/
theorem type_cases (type : FieldType) :
    isText type = true ∨ type = .int ∨ type = .float ∨ type = .bool ∨ IsOther type := by
  cases type <;> simp [isText, IsOther]

variable {type : FieldType}

theorem coerceCSVValue_string (noInt : type ≠ .int) (noFloat : type ≠ .float)
    (noBool : type ≠ .bool) (s : String) : coerceCSVValue go type s = .ok (.string s) := by
  cases type <;> first | rfl | contradiction

theorem coerceCSVValue_text (isText : isText type = true) (s : String) :
    coerceCSVValue go type s = .ok (.string s) := by
  refine coerceCSVValue_string ?_ ?_ ?_ s <;>
  · rintro rfl
    cases isText

theorem coerceCSVValue_other (other : IsOther type) (s : String) :
    coerceCSVValue go type s = .ok (.string s) :=
  coerceCSVValue_string other.2.1 other.2.2.1 other.2.2.2 s

/-- A cell that is not blank is what its text is coerced to. -/
theorem csvImported_visible (shown : cellText (sprint go v) = text) (some : text ≠ "") :
    csvImported go f v = (coerceCSVValue go f.type text).toOption.map Option.some := by
  rw [csvImported, shown]
  exact if_neg some

theorem csvImported_blank (blank : cellText (sprint go v) = "") :
    csvImported go f v = some none := by
  rw [csvImported, blank]
  exact if_pos rfl

theorem accept_own_iff {w : Value F O} (own : Own f.type v) (kept : repo.accept f w = some w) :
    repo.accept f v = some w ↔ v = w := by
  constructor
  · exact fun accepted => (repo.accept_own f v w own accepted).symm
  · rintro rfl
    exact kept

theorem conforms_string {s : String} (conforms : Conforms repo f (.string s)) :
    isText f.type = true := by
  rcases conforms.1 with none | own | ⟨-, o, other⟩
  · cases none
  · exact own
  · cases other

variable {n : Int}

theorem conforms_int (conforms : Conforms repo f (.int n)) :
    f.type = .int ∧ IsInt64 n := by
  rcases conforms.1 with none | own | ⟨-, o, other⟩
  · cases none
  · exact own
  · cases other

theorem conforms_float {x : F} (conforms : Conforms repo f (.float x)) : f.type = .float := by
  rcases conforms.1 with none | own | ⟨-, o, other⟩
  · cases none
  · exact own
  · cases other

theorem conforms_bool {b : Bool} (conforms : Conforms repo f (.bool b)) : f.type = .bool := by
  rcases conforms.1 with none | own | ⟨-, o, other⟩
  · cases none
  · exact own
  · cases other

theorem conforms_other {o : O} (conforms : Conforms repo f (.other o)) : IsOther f.type := by
  rcases conforms.1 with none | own | ⟨other, -⟩
  · cases none
  · cases own
  · exact other

/-- Of a cell that is read, it matters what is made of it. -/
theorem exists_cell_iff {imported : Option (Option (Value F O))} {cell : Option (Value F O)}
    (read : imported = some cell) :
    (∃ found, imported = some found ∧ stored repo f found = some v) ↔
      stored repo f cell = some v := by
  constructor
  · rintro ⟨found, again, accepted⟩
    rw [Option.some.inj (read.symm.trans again)]
    exact accepted
  · exact fun accepted => ⟨cell, read, accepted⟩

theorem not_exists_cell {imported : Option (Option (Value F O))} (unread : imported = none) :
    ¬ ∃ found, imported = some found ∧ stored repo f found = some v := by
  rintro ⟨found, read, -⟩
  rw [unread] at read
  cases read

theorem survivesCSV_nil_iff :
    SurvivesCSV go repo f .nil ↔ ∃ cell, csvImported go f .nil = some cell ∧
      stored repo f cell = some .nil := by
  have shown : cellText (sprint go .nil) = "<nil>" := by
    rw [sprint]
    exact cellText_of_all (by decide)
  have read := csvImported_visible (f := f) shown (by decide)
  rw [SurvivesCSV]
  rcases type_cases f.type with text | int | float | bool | other
  · rw [coerceCSVValue_text text] at read
    rw [exists_cell_iff read]
    refine iff_of_false (fun survives => ?_) (fun accepted => ?_)
    · exact absurd (survives.1.1.symm.trans text) (by decide)
    · have own : Own f.type (.string "<nil>" : Value F O) := text
      cases repo.accept_own f _ _ own accepted
  · have unread : parseInt "<nil>" = none := by decide
    rw [int, coerceCSVValue, unread] at read
    exact iff_of_false (fun survives => survives.1.2.1 int) (not_exists_cell read)
  · rw [float, coerceCSVValue, go.parseFloat_nil] at read
    exact iff_of_false (fun survives => survives.1.2.2.1 float) (not_exists_cell read)
  · have unread : parseBool "<nil>" = none := by decide
    rw [bool, coerceCSVValue, unread] at read
    exact iff_of_false (fun survives => survives.1.2.2.2 bool) (not_exists_cell read)
  · rw [coerceCSVValue_other other] at read
    rw [exists_cell_iff read]
    exact and_iff_right other

/-- A value of a field comes back from a CSV file exactly when it survives. -/
theorem survivesCSV_iff (conforms : Conforms repo f v) :
    SurvivesCSV go repo f v ↔ ∃ cell, csvImported go f v = some cell ∧
      stored repo f cell = some v := by
  cases v with
  | nil => exact survivesCSV_nil_iff
  | string s =>
    have text := conforms_string conforms
    rw [SurvivesCSV]
    by_cases empty : trimSpace s = ""
    · have blank : cellText (sprint go (.string s)) = "" := by
        rw [sprint, cellText_eq_empty_iff, empty]
      rw [if_pos empty, exists_cell_iff (csvImported_blank blank), stored]
    · have own : Own f.type (.string (cellText s) : Value F O) := text
      have shown : cellText (sprint go (.string s)) = cellText s := by rw [sprint]
      have read := csvImported_visible (f := f) shown (mt cellText_eq_empty_iff.mp empty)
      have same : repo.accept f (.string (cellText s)) = some (.string s) ↔ cellText s = s := by
        rw [accept_own_iff own conforms.2, Value.string.injEq]
      rw [coerceCSVValue_text text] at read
      rw [if_neg empty, ← cellText_eq_self_iff, exists_cell_iff read, ← same, stored]
  | int n =>
    obtain ⟨type, fits⟩ := conforms_int conforms
    have shown : cellText (sprint go (.int n)) = String.ofList (paddedInt 0 n) := by
      rw [sprint]
      refine cellText_of_visible ?_
      rw [String.toList_ofList]
      exact visible_paddedInt n
    have visible : String.ofList (paddedInt 0 n) ≠ "" := fun empty => by
      have read := parseInt_paddedInt fits
      have unread : parseInt "" = none := by decide
      rw [empty, unread] at read
      cases read
    have read := csvImported_visible (f := f) shown visible
    rw [type, coerceCSVValue, parseInt_paddedInt fits] at read
    exact iff_of_true trivial ((exists_cell_iff read).mpr conforms.2)
  | float x =>
    have type := conforms_float conforms
    obtain ⟨visible, chars⟩ := go.formatFloat_visible x
    have shown : cellText (sprint go (.float x)) = go.formatFloat x := by
      rw [sprint]
      exact cellText_of_visible chars
    have read := csvImported_visible (f := f) shown visible
    rw [type, coerceCSVValue, go.parseFloat_formatFloat] at read
    exact iff_of_true trivial ((exists_cell_iff read).mpr conforms.2)
  | bool b =>
    have type := conforms_bool conforms
    have shown : cellText (sprint go (.bool b)) = if b then "true" else "false" := by
      rw [sprint]
      exact cellText_of_all (by cases b <;> decide)
    have back : parseBool (if b then "true" else "false") = some b := by cases b <;> decide
    have visible : (if b then "true" else "false") ≠ "" := by cases b <;> decide
    have read := csvImported_visible (f := f) shown visible
    rw [type, coerceCSVValue, back] at read
    exact iff_of_true trivial ((exists_cell_iff read).mpr conforms.2)
  | other o =>
    have type := conforms_other conforms
    have shown : cellText (sprint go (.other o)) = cellText (go.sprintOther o) := rfl
    simp only [SurvivesCSV]
    by_cases empty : cellText (go.sprintOther o) = ""
    · rw [if_pos empty, exists_cell_iff (csvImported_blank (shown.trans empty))]
      rfl
    · have read := csvImported_visible (f := f) shown empty
      rw [coerceCSVValue_other type] at read
      rw [if_neg empty, exists_cell_iff read]
      rfl

theorem coerceJSONValue_of_ne (noInt : type ≠ .int) (w : Value F O) :
    coerceJSONValue go type w = w := by
  cases type <;> first | rfl | contradiction

/-- An integer that has been a float is the same again when the float is exact, or when the
platform makes it of one that is out of range. -/
theorem toInt_ofInt_eq_iff (fits : IsInt64 n) :
    go.toInt (go.ofInt n) = n ↔
      Float64.Exact n ∨ (¬ IsInt64 (Float64.nearest n) ∧ go.overflow = n) := by
  rw [go.toInt_ofInt n fits, ← Float64.nearest_eq_self_iff]
  by_cases inRange : IsInt64 (Float64.nearest n)
  · rw [if_pos inRange]
    simp [inRange]
  · rw [if_neg inRange]
    have inexact : Float64.nearest n ≠ n := fun same => inRange (same.symm ▸ fits)
    simp [inRange, inexact]

theorem isInt64_toInt_ofInt (fits : IsInt64 n) : IsInt64 (go.toInt (go.ofInt n)) := by
  rw [go.toInt_ofInt n fits]
  split
  · assumption
  · exact go.isInt64_overflow

/-- What is read of a value that no number is coerced to an integer of. -/
theorem jsonImported_eq {encoded : Encoded F O} (written : marshal go v = some encoded)
    (noInt : f.type ≠ .int) : jsonImported go f v = some (some (unmarshal go encoded)) := by
  rw [jsonImported, written, Option.map_some, coerceJSONValue_of_ne noInt]

theorem jsonImported_none (unwritten : marshal go v = none) : jsonImported go f v = none := by
  rw [jsonImported, unwritten]
  rfl

/-- A value of a field comes back from a JSON document exactly when it survives. -/
theorem survivesJSON_iff (conforms : Conforms repo f v) :
    SurvivesJSON go repo f v ↔ ∃ cell, jsonImported go f v = some cell ∧
      stored repo f cell = some v := by
  cases v with
  | nil =>
    have unchanged : ∀ type, coerceJSONValue go type .nil = .nil := fun type => by
      cases type <;> rfl
    have read : jsonImported go f .nil = some (some .nil) := by
      rw [jsonImported, marshal, Option.map_some, unmarshal, unchanged]
    exact iff_of_true trivial ((exists_cell_iff read).mpr conforms.2)
  | string s =>
    have noInt : f.type ≠ .int := by
      intro int
      have text := conforms_string conforms
      rw [int] at text
      cases text
    have written : marshal go (.string s : Value F O) = some (.string s) := rfl
    exact iff_of_true trivial ((exists_cell_iff (jsonImported_eq written noInt)).mpr conforms.2)
  | int n =>
    obtain ⟨type, fits⟩ := conforms_int conforms
    have own : Own f.type (.int (go.toInt (go.ofInt n)) : Value F O) :=
      ⟨type, isInt64_toInt_ofInt fits⟩
    have same := (accept_own_iff own conforms.2).trans (by rw [Value.int.injEq])
    have read : jsonImported go f (.int n) =
        some (some (.int (go.toInt (go.ofInt n)))) := by
      rw [jsonImported, type]
      rfl
    rw [SurvivesJSON, ← toInt_ofInt_eq_iff fits, ← same, exists_cell_iff read]
    rfl
  | float x =>
    have noInt : f.type ≠ .int := by
      rw [conforms_float conforms]
      decide
    rw [SurvivesJSON]
    by_cases written : go.finite x = true
    · have encoded : marshal go (.float x : Value F O) = some (.float x) := if_pos written
      exact iff_of_true written
        ((exists_cell_iff (jsonImported_eq encoded noInt)).mpr conforms.2)
    · have refused : marshal go (.float x : Value F O) = none := if_neg written
      exact iff_of_false written (not_exists_cell (jsonImported_none refused))
  | bool b =>
    have noInt : f.type ≠ .int := by
      rw [conforms_bool conforms]
      decide
    have written : marshal go (.bool b : Value F O) = some (.bool b) := rfl
    exact iff_of_true trivial ((exists_cell_iff (jsonImported_eq written noInt)).mpr conforms.2)
  | other o =>
    have noInt := (conforms_other conforms).2.1
    rw [SurvivesJSON]
    have marshalled : marshal go (.other o) = go.marshalOther o := rfl
    cases written : go.marshalOther o with
    | none =>
      refine iff_of_false ?_ (not_exists_cell (jsonImported_none (marshalled.trans written)))
      rintro ⟨encoded, same, -⟩
      cases same
    | some encoded =>
      rw [exists_cell_iff (jsonImported_eq (marshalled.trans written) noInt)]
      constructor
      · rintro ⟨_, same, accepted⟩
        rw [Option.some.inj same]
        exact accepted
      · exact fun accepted => ⟨encoded, rfl, accepted⟩

end Cells

end ErpFinance.Ioport
