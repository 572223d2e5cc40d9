import ErpFinance.Domain.Basics
import ErpFinance.Library.Except
import ErpFinance.Library.Separated
import ErpFinance.Library.Text

/-!
# Materialised paths

An ancestor chain as a slash-delimited text of identifiers.  Five functions read
the same text by searching, trimming and splitting; where the text is written as
the type documents it, they agree.  The identifier parser is a parameter.
-/

namespace ErpFinance.Domain

open Library

/-- `""` is the root sentinel: no ancestors. -/
abbrev MaterialisedPath := String

namespace MaterialisedPath

def pathSep : String := "/"

def newMaterialisedPath (segments : List Uuid) : MaterialisedPath :=
  if segments = [] then ""
  else segments.foldl (fun b id => b ++ id.string ++ pathSep) pathSep

def append (p : MaterialisedPath) (nodeID : Uuid) : MaterialisedPath :=
  if p = "" then pathSep ++ nodeID.string ++ pathSep else p ++ nodeID.string ++ pathSep

def containsAncestor (p : MaterialisedPath) (ancestorID : Uuid) : Bool :=
  if p = "" then false else contains p (pathSep ++ ancestorID.string ++ pathSep)

def isRoot (p : MaterialisedPath) : Bool := p = ""

/-- What stands between the separators, with those at the ends trimmed. -/
def rawSegments (p : MaterialisedPath) : List String := split (trim p '/') '/'

def depth (p : MaterialisedPath) : Nat := if p = "" then 0 else (rawSegments p).length

section Reading

variable (parse : String → Except String Uuid)

/-- The loop body of `Segments`. -/
def segment (s : String) : Except String Uuid :=
  (parse s).mapError fun err =>
    "materialised path contains invalid UUID segment " ++ quoted s ++ ": " ++ err

def segments (p : MaterialisedPath) : Except String (List Uuid) :=
  if p = "" then .ok [] else (rawSegments p).mapM (segment parse)

/-- `uuid.Nil, false` is `none`. -/
def immediateParentID (p : MaterialisedPath) : Option Uuid :=
  match segments parse p with
  | .error _ => none
  | .ok segs => segs.getLast?

def validate (p : MaterialisedPath) : Except String Unit :=
  if isRoot p then .ok ()
  else if !hasPrefix p pathSep || !hasSuffix p pathSep then
    .error ("materialised path " ++ quoted p ++ " must start and end with " ++ quoted pathSep)
  else (segments parse p).map fun _ => ()

end Reading

/-- What is relied on of the identifier parser: it reads the canonical text of every
identifier and refuses the empty text. -/
structure Parses (parse : String → Except String Uuid) : Prop where
  canonical : ∀ id < 2 ^ 128, parse (Uuid.string id) = .ok id
  nonempty : ∀ id, parse "" ≠ .ok id

/-- Every segment is the canonical text of an identifier. -/
def Canonical (p : MaterialisedPath) : Prop :=
  p ≠ "" → ∀ s ∈ rawSegments p, ∃ id < 2 ^ 128, s = Uuid.string id

/-- There is one separator at either end. -/
def SingleEnds (p : MaterialisedPath) : Prop :=
  p ≠ "" → p = pathSep ++ trim p '/' ++ pathSep

/-! ## Texts of identifiers -/

theorem slash_notMem_string (id : Uuid) : '/' ∉ id.string.toList := fun member =>
  absurd (Uuid.mem_string member) (by decide)

theorem toList_string_ne_nil (id : Uuid) : id.string.toList ≠ [] := fun empty => by
  have length := id.length_string
  rw [empty] at length
  cases length

theorem string_ne_empty (id : Uuid) : id.string ≠ "" := fun empty =>
  toList_string_ne_nil id (congrArg String.toList empty)

/-- Trimming an identifier at the end leaves it whole. -/
theorem rdropWhile_string (front : List Char) (id : Uuid) :
    (front ++ id.string.toList ++ ['/']).rdropWhile (· = '/') = front ++ id.string.toList := by
  rw [List.rdropWhile_concat_pos _ _ _ (by simp), List.rdropWhile_eq_self_iff]
  intro nonempty isSlash
  rw [List.getLast_append_of_ne_nil _ (toList_string_ne_nil id)] at isSlash
  have last := of_decide_eq_true isSlash
  exact slash_notMem_string id (last ▸ List.getLast_mem _)

theorem dropWhile_string (id : Uuid) (rest : List Char) :
    ('/' :: (id.string.toList ++ rest)).dropWhile (· = '/') = id.string.toList ++ rest := by
  rw [List.dropWhile_cons_of_pos (by simp)]
  cases chars : id.string.toList with
  | nil => exact absurd chars (toList_string_ne_nil id)
  | cons c others =>
    refine List.dropWhile_cons_of_neg ?_
    simpa using fun first : c = '/' => slash_notMem_string id (by simp [chars, first])

/-! ## Segments -/

variable {parse : String → Except String Uuid} {p : MaterialisedPath} {segs : List Uuid}

/-- The characters of the segments. -/
def rawChars (p : MaterialisedPath) : List (List Char) :=
  ((p.toList.dropWhile (· = '/')).rdropWhile (· = '/')).splitOn '/'

theorem rawSegments_eq (p : MaterialisedPath) : rawSegments p = (rawChars p).map String.ofList := by
  rw [rawSegments, split, splitChars_eq_splitOn, trim, String.toList_ofList, rawChars]

theorem segments_eq_ok_iff (nonroot : p ≠ "") : segments parse p = .ok segs ↔
    List.Forall₂ (fun s id => parse s = .ok id) (rawSegments p) segs := by
  rw [segments, if_neg nonroot, mapM_eq_ok_iff]
  simp only [segment, mapError_eq_ok_iff]

theorem depth_eq_length (read : segments parse p = .ok segs) : depth p = segs.length := by
  by_cases root : p = ""
  · rw [segments, if_pos root] at read
    rw [depth, if_pos root, ← Except.ok.inj read, List.length_nil]
  · rw [depth, if_neg root]
    exact ((segments_eq_ok_iff root).mp read).length_eq

/-- A path other than the root is valid when it has the outer separators and can be read. -/
theorem validate_eq_ok_iff (nonroot : p ≠ "") : validate parse p = .ok () ↔
    (∃ rest, p.toList = '/' :: rest) ∧ (∃ front, p.toList = front ++ ['/']) ∧
      ∃ segs, segments parse p = .ok segs := by
  have starts : hasPrefix p pathSep = true ↔ ∃ rest, p.toList = '/' :: rest := by
    rw [hasPrefix, List.isPrefixOf_iff_prefix]
    exact ⟨fun ⟨rest, whole⟩ => ⟨rest, whole.symm⟩, fun ⟨rest, whole⟩ => ⟨rest, whole.symm⟩⟩
  have ends : hasSuffix p pathSep = true ↔ ∃ front, p.toList = front ++ ['/'] := by
    rw [hasSuffix, List.isSuffixOf_iff_suffix]
    exact ⟨fun ⟨front, whole⟩ => ⟨front, whole.symm⟩, fun ⟨front, whole⟩ => ⟨front, whole.symm⟩⟩
  rw [← starts, ← ends, validate, if_neg (by simpa [isRoot] using nonroot)]
  cases first : hasPrefix p pathSep <;> cases last : hasSuffix p pathSep <;>
    cases read : segments parse p <;> simp [Except.map]

/-- The segments of a path without the doubled separator at its end, and with one more. -/
theorem rawSegments_append (id : Uuid) {front : List Char} (ends : p.toList = front ++ ['/'])
    (single : hasSuffix p "//" = false) :
    rawSegments p = [""] ∨ rawSegments (append p id) = rawSegments p ++ [id.string] := by
  have nonroot : p ≠ "" := by
    rintro rfl
    simp at ends
  cases front using List.reverseRecOn with
  | nil =>
    refine .inl ?_
    rw [rawSegments_eq, rawChars, ends]
    rfl
  | append_singleton front last =>
    have other : last ≠ '/' := by
      rintro rfl
      have doubled : hasSuffix p "//" = true := hasSuffix_iff.mpr
        ⟨String.ofList front, by simp [← String.toList_inj, ends]⟩
      rw [single] at doubled
      cases doubled
    obtain ⟨kept, trims⟩ := exists_dropWhile_append other front
    have before : rawChars p = (kept ++ [last]).splitOn '/' := by
      rw [rawChars, ends, trims, List.rdropWhile_concat_pos _ _ _ (by simp),
        List.rdropWhile_concat_neg _ _ _ (by simpa using other)]
    have after : rawChars (append p id) = (kept ++ [last]).splitOn '/' ++ [id.string.toList] := by
      have chars : (append p id).toList =
          front ++ [last] ++ ('/' :: id.string.toList ++ ['/']) := by
        simp [append, nonroot, ends, pathSep]
      have trimmed := rdropWhile_string (kept ++ [last] ++ ['/']) id
      simp only [List.append_assoc, List.cons_append, List.nil_append] at trimmed
      rw [rawChars, chars, trims, ← splitOn_concat _ (slash_notMem_string id)]
      simp only [List.append_assoc, List.cons_append, List.nil_append, trimmed]
    refine .inr ?_
    rw [rawSegments_eq, rawSegments_eq, before, after, List.map_append, List.map_singleton,
      String.ofList_toList]

theorem rawSegments_single (id : Uuid) :
    rawSegments (pathSep ++ id.string ++ pathSep) = [id.string] := by
  have chars : (pathSep ++ id.string ++ pathSep).toList =
      '/' :: (id.string.toList ++ ['/']) := by
    simp [pathSep]
  have trimmed := rdropWhile_string [] id
  rw [List.nil_append] at trimmed
  rw [rawSegments_eq, rawChars, chars, dropWhile_string, trimmed,
    List.splitOn_eq_singleton (slash_notMem_string id), List.map_singleton, String.ofList_toList]

/-- An identifier is found in a path exactly when its canonical text is a segment. -/
theorem containsAncestor_iff (starts : ∃ rest, p.toList = '/' :: rest)
    (ends : ∃ front, p.toList = front ++ ['/']) (id : Uuid) :
    containsAncestor p id = true ↔ id.string ∈ rawSegments p := by
  have nonroot : p ≠ "" := by
    rintro rfl
    simp at starts
  have segment : id.string ∈ rawSegments p ↔ id.string.toList ∈ p.toList.splitOn '/' := by
    rw [← mem_splitOn_dropWhile (toList_string_ne_nil id),
      ← mem_splitOn_rdropWhile (toList_string_ne_nil id), rawSegments_eq, ← rawChars,
      List.mem_map]
    constructor
    · rintro ⟨chars, member, same⟩
      rw [← same, String.toList_ofList]
      exact member
    · exact fun member => ⟨_, member, String.ofList_toList⟩
  rw [segment, ← exists_between_iff (toList_string_ne_nil id) (slash_notMem_string id) starts ends,
    containsAncestor, if_neg nonroot, contains_iff]
  simp [pathSep]

theorem append_ne_empty (p : MaterialisedPath) (id : Uuid) : append p id ≠ "" := by
  intro empty
  have length := congrArg (fun text : String => text.toList.length) empty
  by_cases root : p = "" <;> simp [append, root, pathSep] at length

/-- Appending to a valid path whose last separator is not doubled adds a segment. -/
theorem append_valid (parses : Parses parse) (read : segments parse p = .ok segs)
    (valid : validate parse p = .ok ()) (single : hasSuffix p "//" = false) {id : Uuid}
    (fits : id < 2 ^ 128) : segments parse (append p id) = .ok (segs ++ [id]) ∧
      validate parse (append p id) = .ok () := by
  have ends : ∃ front, (append p id).toList = front ++ ['/'] := by
    by_cases root : p = "" <;>
      exact ⟨p.toList ++ (if p = "" then ['/'] else []) ++ id.string.toList, by
        simp [append, root, pathSep]⟩
  have raw : rawSegments (append p id) = (if p = "" then [] else rawSegments p) ++ [id.string] ∧
      ∃ rest, (append p id).toList = '/' :: rest := by
    by_cases root : p = ""
    · subst root
      exact ⟨rawSegments_single id, id.string.toList ++ ['/'], by simp [append, pathSep]⟩
    · rw [if_neg root]
      obtain ⟨⟨rest, starts⟩, ⟨front, last⟩, -⟩ := (validate_eq_ok_iff root).mp valid
      refine ⟨?_, rest ++ id.string.toList ++ ['/'], by simp [append, root, pathSep, starts]⟩
      refine (rawSegments_append id last single).resolve_left fun blank => ?_
      have all := (segments_eq_ok_iff root).mp read
      rw [blank] at all
      cases all with
      | cons first _ => exact parses.nonempty _ first
  have reads : segments parse (append p id) = .ok (segs ++ [id]) := by
    rw [segments_eq_ok_iff (append_ne_empty p id), raw.1]
    refine List.rel_append ?_ (.cons (parses.canonical id fits) .nil)
    by_cases root : p = ""
    · rw [segments, if_pos root] at read
      rw [if_pos root, ← Except.ok.inj read]
      exact .nil
    · rw [if_neg root]
      exact (segments_eq_ok_iff root).mp read
  exact ⟨reads, (validate_eq_ok_iff (append_ne_empty p id)).mpr ⟨raw.2, ends, _, reads⟩⟩

/-! ## Rebuilding -/

theorem rawSegments_of_canonical (parses : Parses parse) (nonroot : p ≠ "")
    (canonical : Canonical p) (read : segments parse p = .ok segs) :
    rawSegments p = segs.map Uuid.string ∧ ∀ id ∈ segs, id < 2 ^ 128 := by
  have all := (segments_eq_ok_iff nonroot).mp read
  have spelled := canonical nonroot
  clear read
  generalize rawSegments p = raw at all spelled ⊢
  induction all with
  | nil => exact ⟨rfl, by simp⟩
  | @cons s id raw segs here _ ih =>
    rw [List.forall_mem_cons] at spelled
    obtain ⟨⟨own, fits, rfl⟩, others⟩ := spelled
    have same := Except.ok.inj ((parses.canonical own fits).symm.trans here)
    obtain ⟨rest, bounds⟩ := ih others
    rw [List.map_cons, ← rest, ← same]
    exact ⟨rfl, List.forall_mem_cons.mpr ⟨fits, bounds⟩⟩

theorem toList_newMaterialisedPath (nonempty : segs ≠ []) :
    (newMaterialisedPath segs).toList =
      '/' :: (['/'].intercalate (segs.map fun id => id.string.toList) ++ ['/']) := by
  have written (text : String) (ids : List Uuid) :
      (ids.foldl (fun b id => b ++ id.string ++ pathSep) text).toList =
        text.toList ++ (ids.map fun id => id.string.toList).flatMap (· ++ ['/']) := by
    induction ids generalizing text with
    | nil => simp
    | cons id rest ih =>
      rw [List.foldl_cons, ih]
      simp [pathSep]
  rw [newMaterialisedPath, if_neg nonempty, written, intercalate_concat (by simpa using nonempty)]
  rfl

/-- Appending the identifiers one after the other writes the same text. -/
theorem foldl_append_eq (segs : List Uuid) : segs.foldl append "" = newMaterialisedPath segs := by
  have appends (text : String) (nonroot : text ≠ "") (ids : List Uuid) :
      ids.foldl append text = ids.foldl (fun b id => b ++ id.string ++ pathSep) text := by
    induction ids generalizing text with
    | nil => rfl
    | cons id rest ih =>
      have step : append text id = text ++ id.string ++ pathSep := if_neg nonroot
      rw [List.foldl_cons, List.foldl_cons, step, ih _ (step ▸ append_ne_empty text id)]
  cases segs with
  | nil => rfl
  | cons id rest =>
    have first : append "" id = pathSep ++ id.string ++ pathSep := if_pos rfl
    rw [List.foldl_cons, appends _ (append_ne_empty "" id), first, newMaterialisedPath,
      if_neg (List.cons_ne_nil id rest), List.foldl_cons]

theorem newMaterialisedPath_segments (parses : Parses parse) (canonical : Canonical p)
    (single : SingleEnds p) (read : segments parse p = .ok segs) :
    newMaterialisedPath segs = p := by
  by_cases root : p = ""
  · rw [segments, if_pos root] at read
    rw [root, ← Except.ok.inj read]
    rfl
  · have texts := (rawSegments_of_canonical parses root canonical read).1
    have chars : rawChars p = segs.map fun id => id.string.toList := by
      rw [rawSegments_eq] at texts
      have same := congrArg (List.map String.toList) texts
      simpa [Function.comp_def] using same
    have nonempty : segs ≠ [] := by
      rintro rfl
      exact List.splitOn_ne_nil _ _ chars
    rw [← String.toList_inj, toList_newMaterialisedPath nonempty, ← chars, rawChars,
      List.intercalate_splitOn]
    conv_rhs => rw [single root]
    simp [trim, pathSep]

/-! ## Paths the program builds -/

theorem newMaterialisedPath_concat (ids : List Uuid) (id : Uuid) :
    newMaterialisedPath (ids ++ [id]) = append (newMaterialisedPath ids) id := by
  rw [← foldl_append_eq, ← foldl_append_eq, List.foldl_append, List.foldl_cons, List.foldl_nil]

theorem ends_newMaterialisedPath (ids : List Uuid) :
    hasSuffix (newMaterialisedPath ids) "//" = false := by
  induction ids using List.reverseRecOn with
  | nil => decide
  | append_singleton ids id _ =>
    rw [newMaterialisedPath_concat, ← Bool.not_eq_true, hasSuffix_iff]
    rintro ⟨before, whole⟩
    have chars : (newMaterialisedPath ids).toList ++
        (if newMaterialisedPath ids = "" then ['/'] else []) ++ id.string.toList ++ ['/'] =
          before.toList ++ ['/'] ++ ['/'] := by
      have same := congrArg String.toList whole
      by_cases root : newMaterialisedPath ids = "" <;> simpa [append, root, pathSep] using same
    have ends := List.append_inj_left' chars rfl
    have last := congrArg List.getLast? ends
    rw [List.getLast?_append_of_ne_nil _ (toList_string_ne_nil id), List.getLast?_concat] at last
    exact slash_notMem_string id (List.mem_of_getLast? last)

theorem rawSegments_newMaterialisedPath {ids : List Uuid} (nonempty : ids ≠ []) :
    rawSegments (newMaterialisedPath ids) = ids.map Uuid.string := by
  induction ids using List.reverseRecOn with
  | nil => exact absurd rfl nonempty
  | append_singleton ids id ih =>
    rw [newMaterialisedPath_concat, List.map_append]
    by_cases first : ids = []
    · subst first
      exact rawSegments_single id
    · rw [← ih first]
      have ends : (newMaterialisedPath ids).toList =
          ('/' :: ['/'].intercalate (ids.map fun id => id.string.toList)) ++ ['/'] :=
        toList_newMaterialisedPath first
      refine (rawSegments_append id ends (ends_newMaterialisedPath ids)).resolve_left ?_
      rw [ih first]
      obtain ⟨head, rest, rfl⟩ := List.exists_cons_of_ne_nil first
      exact fun blank => string_ne_empty head (List.cons.inj blank).1

/-- A path built of identifiers is valid, is spelled canonically and reads back as them. -/
theorem newMaterialisedPath_meets (parses : Parses parse) {ids : List Uuid}
    (fit : ∀ id ∈ ids, id < 2 ^ 128) :
    validate parse (newMaterialisedPath ids) = .ok () ∧
      segments parse (newMaterialisedPath ids) = .ok ids ∧
      Canonical (newMaterialisedPath ids) ∧ SingleEnds (newMaterialisedPath ids) := by
  have reads : segments parse (newMaterialisedPath ids) = .ok ids ∧
      validate parse (newMaterialisedPath ids) = .ok () := by
    induction ids using List.reverseRecOn with
    | nil => exact ⟨rfl, rfl⟩
    | append_singleton ids id ih =>
      obtain ⟨read, valid⟩ := ih fun own member => fit own (List.mem_append_left _ member)
      rw [newMaterialisedPath_concat]
      exact append_valid parses read valid (ends_newMaterialisedPath ids)
        (fit id (List.mem_append_right _ (List.mem_singleton_self id)))
  refine ⟨reads.2, reads.1, fun nonroot s member => ?_, fun nonroot => ?_⟩
  all_goals have nonempty : ids ≠ [] := fun none => nonroot (by rw [none]; rfl)
  · rw [rawSegments_newMaterialisedPath nonempty, List.mem_map] at member
    obtain ⟨id, inIds, rfl⟩ := member
    exact ⟨id, fit id inIds, rfl⟩
  · have texts := rawSegments_newMaterialisedPath nonempty
    rw [rawSegments_eq] at texts
    have chars : rawChars (newMaterialisedPath ids) = ids.map fun id => id.string.toList := by
      simpa [Function.comp_def] using congrArg (List.map String.toList) texts
    have whole : ['/'].intercalate (rawChars (newMaterialisedPath ids)) =
        ((newMaterialisedPath ids).toList.dropWhile (· = '/')).rdropWhile (· = '/') :=
      List.intercalate_splitOn '/'
    rw [chars] at whole
    rw [← String.toList_inj, toList_newMaterialisedPath nonempty, whole]
    simp [trim, pathSep]

/-! ## What holds of a valid path -/

/-- A valid path is read whole, whatever its spelling.  Where the last separator is not doubled,
appending adds a segment; where the segments are spelled canonically, the search finds exactly
them; and where the outer separators are single too, the path can be rebuilt. -/
theorem valid_path_meets (parses : Parses parse) (valid : validate parse p = .ok ()) :
    ∃ segs, segments parse p = .ok segs ∧ depth p = segs.length ∧
      immediateParentID parse p = segs.getLast? ∧
      (hasSuffix p "//" = false → ∀ id < 2 ^ 128,
        segments parse (append p id) = .ok (segs ++ [id]) ∧
          validate parse (append p id) = .ok ()) ∧
      (Canonical p → ∀ id < 2 ^ 128, containsAncestor p id = true ↔ id ∈ segs) ∧
      (Canonical p → SingleEnds p →
        newMaterialisedPath segs = p ∧ segs.foldl append "" = p) := by
  have read : ∃ segs, segments parse p = .ok segs := by
    by_cases root : p = ""
    · exact ⟨[], if_pos root⟩
    · exact ((validate_eq_ok_iff root).mp valid).2.2
  obtain ⟨segs, read⟩ := read
  refine ⟨segs, read, depth_eq_length read, by rw [immediateParentID, read],
    fun single id fits => append_valid parses read valid single fits, ?_, ?_⟩
  · intro canonical id fits
    by_cases root : p = ""
    · rw [segments, if_pos root] at read
      simp [containsAncestor, root, ← Except.ok.inj read]
    · obtain ⟨starts, ends, -⟩ := (validate_eq_ok_iff root).mp valid
      obtain ⟨texts, bounds⟩ := rawSegments_of_canonical parses root canonical read
      rw [containsAncestor_iff starts ends, texts, List.mem_map]
      constructor
      · rintro ⟨own, member, same⟩
        rw [← (Uuid.string_inj (bounds own member) fits).mp same]
        exact member
      · exact fun member => ⟨id, member, rfl⟩
  · intro canonical single
    have rebuilt := newMaterialisedPath_segments parses canonical single read
    exact ⟨rebuilt, (foldl_append_eq segs).trans rebuilt⟩

/-- A parser of dashed texts with digits of either case. -/
def readDashed (text : String) : Except String Uuid :=
  if Uuid.ofText text < 2 ^ 128 ∧
      (Uuid.ofText text).string = String.ofList (text.toList.map Char.toLower) then
    .ok (Uuid.ofText text)
  else .error "invalid UUID format"

theorem parses_readDashed : Parses readDashed where
  canonical id fits := by
    have lower (c : Char) (member : c ∈ id.string.toList) : c.toLower = c := by
      have all : (Uuid.alphabet.all fun c => c.toLower = c) = true := by decide
      exact of_decide_eq_true (List.all_eq_true.mp all c (Uuid.mem_string member))
    have same : String.ofList (id.string.toList.map Char.toLower) = id.string := by
      rw [List.map_congr_left lower, List.map_id', String.ofList_toList]
    rw [readDashed, Uuid.ofText_string fits, same, if_pos ⟨fits, rfl⟩]
  nonempty id read := by
    have refused : readDashed "" = .error "invalid UUID format" := by decide +kernel
    rw [refused] at read
    cases read

theorem valid_path_meets_two : ∃ segs, segments readDashed (newMaterialisedPath [1, 2]) = .ok segs ∧
    depth (newMaterialisedPath [1, 2]) = segs.length ∧
    immediateParentID readDashed (newMaterialisedPath [1, 2]) = segs.getLast? ∧
    (hasSuffix (newMaterialisedPath [1, 2]) "//" = false → ∀ id < 2 ^ 128,
      segments readDashed (append (newMaterialisedPath [1, 2]) id) = .ok (segs ++ [id]) ∧
        validate readDashed (append (newMaterialisedPath [1, 2]) id) = .ok ()) ∧
    (Canonical (newMaterialisedPath [1, 2]) → ∀ id < 2 ^ 128,
      containsAncestor (newMaterialisedPath [1, 2]) id = true ↔ id ∈ segs) ∧
    (Canonical (newMaterialisedPath [1, 2]) → SingleEnds (newMaterialisedPath [1, 2]) →
      newMaterialisedPath segs = newMaterialisedPath [1, 2] ∧
        segs.foldl append "" = newMaterialisedPath [1, 2]) :=
  valid_path_meets parses_readDashed
    (newMaterialisedPath_meets parses_readDashed (by decide)).1

/-- The immediate parent is the last of two segments; a segment in capitals is not found and not
rebuilt; a path whose last separator is doubled takes no further segment. -/
theorem immediateParent_is_last_segment :
    (segments readDashed (newMaterialisedPath [1, 2]) = .ok [1, 2] ∧
      immediateParentID readDashed (newMaterialisedPath [1, 2]) = some 2) ∧
    (validate readDashed "/0000000A-0000-0000-0000-000000000000/" = .ok () ∧
      segments readDashed "/0000000A-0000-0000-0000-000000000000/" = .ok [10 * 2 ^ 96] ∧
      containsAncestor "/0000000A-0000-0000-0000-000000000000/" (10 * 2 ^ 96) = false ∧
      newMaterialisedPath [10 * 2 ^ 96] ≠ "/0000000A-0000-0000-0000-000000000000/") ∧
    (validate readDashed (newMaterialisedPath [1] ++ pathSep) = .ok () ∧
      validate readDashed (append (newMaterialisedPath [1] ++ pathSep) 2) ≠ .ok ()) := by
  decide +kernel

end MaterialisedPath

end ErpFinance.Domain
