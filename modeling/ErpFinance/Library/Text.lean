import Mathlib.Data.List.DropRight
import Mathlib.Data.List.Infix
import Mathlib.Data.List.Sort

/-!
# Texts

The string functions of the source's standard library that the models use,
on the characters of a text.  Texts are compared character by character, which
for UTF-8 is the order of their bytes.
-/

namespace ErpFinance.Library

/-- `sort.Strings`. -/
def sortStrings (names : List String) : List String := names.insertionSort (· ≤ ·)

/-- `strings.HasPrefix`. -/
def hasPrefix (text start : String) : Bool := start.toList.isPrefixOf text.toList

/-- `strings.TrimPrefix`. -/
def trimPrefix (text start : String) : String :=
  if hasPrefix text start then String.ofList (text.toList.drop start.toList.length) else text

/-- `strings.HasSuffix`. -/
def hasSuffix (text ending : String) : Bool := ending.toList.isSuffixOf text.toList

/-- `strings.Contains`. -/
def contains (text part : String) : Bool := text.toList.tails.any (part.toList.isPrefixOf ·)

/-- `strings.ToLower`, as far as its result is searched for ASCII letters. -/
def toLower (text : String) : String :=
  text.map fun c => if c = '\u0130' then 'i' else if c = '\u212a' then 'k' else c.toLower

/-- Whether a JSON key names a field: equality up to the case of ASCII letters, with the two
letters outside ASCII that fold to one. -/
def equalFold (key name : String) : Bool :=
  let fold (text : String) : List Char :=
    text.toList.map fun c => if c = '\u017f' then 's' else if c = '\u212a' then 'k' else c.toLower
  fold key == fold name

/-- The parts of a text between the occurrences of a character. -/
def splitChars (separator : Char) : List Char → List (List Char)
  | [] => [[]]
  | c :: rest =>
    if c = separator then [] :: splitChars separator rest
    else match splitChars separator rest with
      | [] => [[c]]
      | part :: parts => (c :: part) :: parts

/-- `strings.Split` at a character. -/
def split (text : String) (separator : Char) : List String :=
  (splitChars separator text.toList).map String.ofList

/-- `unicode.IsSpace`. -/
def isSpace (c : Char) : Bool :=
  c ∈ ['\t', '\n', '\x0b', '\x0c', '\r', ' ', '\u0085', '\u00a0', '\u1680', '\u2028', '\u2029',
    '\u202f', '\u205f', '\u3000'] || '\u2000' ≤ c && c ≤ '\u200a'

/-- `strings.TrimSpace`. -/
def trimSpace (text : String) : String :=
  String.ofList ((text.toList.dropWhile isSpace).rdropWhile isSpace)

/-- `strings.Trim` of one character. -/
def trim (text : String) (cut : Char) : String :=
  String.ofList ((text.toList.dropWhile (· = cut)).rdropWhile (· = cut))

/-- `strings.ReplaceAll` of a character. -/
def replaceAll (text : String) (old : Char) (new : String) : String :=
  String.ofList (text.toList.flatMap fun c => if c = old then new.toList else [c])

/-- `strconv.Quote` of a text that needs no escapes, as `%q` prints it. -/
def quoted (text : String) : String := "\"" ++ text ++ "\""

theorem splitChars_eq_splitOn (separator : Char) (chars : List Char) :
    splitChars separator chars = chars.splitOn separator := by
  induction chars with
  | nil => rfl
  | cons c rest ih =>
    rw [splitChars, List.splitOn_cons_eq_if_modifyHead, ih]
    cases parts : rest.splitOn separator with
    | nil => exact absurd parts (List.splitOn_ne_nil _ _)
    | cons part others => simp

theorem sortStrings_perm (names : List String) : (sortStrings names).Perm names :=
  List.perm_insertionSort _ names

@[simp] theorem mem_sortStrings {names : List String} {name : String} :
    name ∈ sortStrings names ↔ name ∈ names := List.mem_insertionSort _

theorem sortStrings_congr {names others : List String} (perm : names.Perm others) :
    sortStrings names = sortStrings others :=
  ((sortStrings_perm names).trans (perm.trans (sortStrings_perm others).symm)).eq_of_pairwise'
    (List.pairwise_insertionSort _ names) (List.pairwise_insertionSort _ others)

section Prefixes

variable {text start : String}

theorem hasPrefix_iff : hasPrefix text start = true ↔ ∃ rest, text = start ++ rest := by
  unfold hasPrefix
  rw [List.isPrefixOf_iff_prefix]
  constructor
  · rintro ⟨rest, split⟩
    refine ⟨String.ofList rest, ?_⟩
    rw [← String.toList_inj, String.toList_append, String.toList_ofList]
    exact split.symm
  · rintro ⟨rest, rfl⟩
    exact ⟨rest.toList, by rw [String.toList_append]⟩

theorem trimPrefix_append (start rest : String) : trimPrefix (start ++ rest) start = rest := by
  have starts : hasPrefix (start ++ rest) start = true := hasPrefix_iff.mpr ⟨rest, rfl⟩
  rw [trimPrefix, if_pos starts, ← String.toList_inj, String.toList_ofList, String.toList_append,
    List.drop_left]

end Prefixes

theorem trimSpace_trimSpace (text : String) : trimSpace (trimSpace text) = trimSpace text := by
  have front : ((text.toList.dropWhile isSpace).rdropWhile isSpace).dropWhile isSpace =
      (text.toList.dropWhile isSpace).rdropWhile isSpace := by
    cases kept : (text.toList.dropWhile isSpace).rdropWhile isSpace with
    | nil => rfl
    | cons c rest =>
      -- what the trimmed text starts with is what was left after trimming the front
      obtain ⟨tail, whole⟩ := List.rdropWhile_prefix isSpace (text.toList.dropWhile isSpace)
      rw [kept] at whole
      have first := List.head?_dropWhile_not isSpace text.toList
      rw [← whole] at first
      have visible : isSpace c = false := by simpa using first
      exact List.dropWhile_cons_of_neg (by rw [visible]; decide)
  rw [trimSpace, trimSpace, String.toList_ofList, front, List.rdropWhile_idempotent]

theorem contains_append (before part after : String) :
    contains (before ++ part ++ after) part = true := by
  rw [contains, List.any_eq_true]
  refine ⟨part.toList ++ after.toList, ?_, ?_⟩
  · rw [List.mem_tails]
    exact ⟨before.toList, by simp⟩
  · rw [List.isPrefixOf_iff_prefix]
    exact List.prefix_append _ _

theorem contains_iff {text part : String} :
    contains text part = true ↔
      ∃ before after, text.toList = before ++ part.toList ++ after := by
  simp only [contains, List.any_eq_true, List.mem_tails, List.isPrefixOf_iff_prefix]
  constructor
  · rintro ⟨tail, ⟨before, whole⟩, after, starts⟩
    exact ⟨before, after, by rw [← whole, ← starts, List.append_assoc]⟩
  · rintro ⟨before, after, whole⟩
    exact ⟨part.toList ++ after, ⟨before, by rw [whole, List.append_assoc]⟩, after, rfl⟩

theorem hasSuffix_iff {text ending : String} :
    hasSuffix text ending = true ↔ ∃ before, text = before ++ ending := by
  unfold hasSuffix
  rw [List.isSuffixOf_iff_suffix]
  constructor
  · rintro ⟨before, split⟩
    refine ⟨String.ofList before, ?_⟩
    rw [← String.toList_inj, String.toList_append, String.toList_ofList]
    exact split.symm
  · rintro ⟨before, rfl⟩
    exact ⟨before.toList, by rw [String.toList_append]⟩

end ErpFinance.Library
