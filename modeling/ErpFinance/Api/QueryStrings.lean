import ErpFinance.Api.ListRequests

/-!
# Filters in query strings

`ParseQueryString` cuts a query string itself and reads the pieces as they are
written; `FromQuery` reads what the HTTP library has cut and decoded.  Neither
reports a parameter that it cannot read.  They agree, and on every parameter,
exactly where each filter parameter is readable and reads the same decoded as
written.
-/

namespace ErpFinance.Api.Crud

open Driver Library

/-! ## The source -/

/-- The predicate of a parameter. -/
def predicate (param : String × String) : Option Filter :=
  (filterKey param.1).bind fun (field, op) => buildFilter field op param.2

theorem fromQuery_eq (params : List (String × String)) :
    fromQuery params = Filter.conjoin (params.filterMap predicate) := rfl

/-- The name and the value of a piece that has an equals sign, as they are written. -/
def cut (part : String) : Option (String × String) :=
  match part.toList.dropWhile (· ≠ '=') with
  | [] => none
  | _ :: value => some (String.ofList (part.toList.takeWhile (· ≠ '=')), String.ofList value)

/-- What `ParseQueryString` makes of a piece. -/
def partPredicate (part : String) : Option Filter :=
  if part = "" then none else (cut part).bind predicate

def parseQueryString (qs : String) : Except String (Option Filter) :=
  .ok (Filter.conjoin ((split qs '&').filterMap partPredicate))

/-- The decoded parameter that a piece is; without an equals sign it is a name. -/
def decodedParam (decode : String → String) (part : String) : String × String :=
  let (name, value) := (cut part).getD (part, "")
  (decode name, decode value)

/-- The arguments of a query as the HTTP library reads them: URL decoding leaves a text without
percent and plus signs alone, and pieces without name and value are left out. -/
structure QueryArgs where
  decode : String → String
  decode_empty : decode "" = ""
  decode_plain : ∀ plain rest : String, (∀ c ∈ plain.toList, c ≠ '%' ∧ c ≠ '+') →
    decode (plain ++ rest) = plain ++ decode rest
  visitAll : String → List (String × String)
  visits : ∀ qs,
    visitAll qs = ((split qs '&').map (decodedParam decode)).filter (· ≠ ("", ""))

variable (args : QueryArgs)

def QueryArgs.param (part : String) : String × String := decodedParam args.decode part

/-! ## What the reading is to be -/

/-- The decoded name of a piece begins as a filter's. -/
def QueryArgs.names (part : String) : Bool := hasPrefix (args.param part).1 "filter["

/-- The decoded parameters with such names. -/
def QueryArgs.filterParams (qs : String) : List (String × String) :=
  ((split qs '&').filter args.names).map args.param

/-- What the decoded piece says. -/
def QueryArgs.reads (part : String) : Option Filter := predicate (args.param part)

/-- Either an error, or the conjunction of one predicate for each filter parameter, which
`FromQuery` returns as well. -/
def ReadsAll (qs : String) : Prop :=
  (∃ err, parseQueryString qs = .error err) ∨
    ∃ predicates, List.Forall₂ (fun param f => predicate param = some f) (args.filterParams qs)
        predicates ∧
      parseQueryString qs = .ok (Filter.conjoin predicates) ∧
      fromQuery (args.visitAll qs) = Filter.conjoin predicates

/-- A filter parameter is written with an equals sign, it names a field and an operator and gives
the operands, and decoding changes nothing of what is read. -/
def ReadablePart (part : String) : Prop :=
  args.names part = true → ∃ f, args.reads part = some f ∧ (cut part).bind predicate = some f

/-! ## Readable parameters -/

section Lists

variable {α β : Type} {f g : α → Option β} {items : List α}

theorem length_filterMap_le (covers : ∀ x ∈ items, (f x).isSome = true → (g x).isSome = true) :
    (items.filterMap f).length ≤ (items.filterMap g).length := by
  induction items with
  | nil => exact Nat.le_refl _
  | cons x rest ih =>
    obtain ⟨head, tail⟩ := List.forall_mem_cons.mp covers
    have shorter := ih tail
    cases fx : f x with
    | none =>
      rw [List.filterMap_cons_none fx]
      exact shorter.trans ((List.sublist_cons_self x rest).filterMap g).length_le
    | some y =>
      obtain ⟨z, gx⟩ := Option.isSome_iff_exists.mp (head (by rw [fx]; rfl))
      rw [List.filterMap_cons_some fx, List.filterMap_cons_some gx]
      exact Nat.succ_le_succ shorter

/-- Where the second keeps all that the first keeps, equal results come from equal functions. -/
theorem eq_of_filterMap_eq (covers : ∀ x ∈ items, (f x).isSome = true → (g x).isSome = true)
    (same : items.filterMap f = items.filterMap g) : ∀ x ∈ items, f x = g x := by
  induction items with
  | nil => exact nofun
  | cons x rest ih =>
    obtain ⟨head, tail⟩ := List.forall_mem_cons.mp covers
    cases fx : f x with
    | none =>
      cases gx : g x with
      | none =>
        rw [List.filterMap_cons_none fx, List.filterMap_cons_none gx] at same
        exact List.forall_mem_cons.mpr ⟨fx.trans gx.symm, ih tail same⟩
      | some z =>
        have shorter := length_filterMap_le tail
        rw [List.filterMap_cons_none fx, List.filterMap_cons_some gx] at same
        rw [same, List.length_cons] at shorter
        omega
    | some y =>
      obtain ⟨z, gx⟩ := Option.isSome_iff_exists.mp (head (by rw [fx]; rfl))
      rw [List.filterMap_cons_some fx, List.filterMap_cons_some gx] at same
      obtain ⟨heads, rests⟩ := List.cons.inj same
      exact List.forall_mem_cons.mpr ⟨by rw [fx, gx, heads], ih tail rests⟩

/-- Every item that has to be kept is, and these are the results. -/
theorem forall₂_filter_iff {needed : α → Bool} {results : List β}
    (only : ∀ x, (g x).isSome = true → needed x = true) :
    List.Forall₂ (fun x y => g x = some y) (items.filter needed) results ↔
      (∀ x ∈ items, needed x = true → (g x).isSome = true) ∧ items.filterMap g = results := by
  induction items generalizing results with
  | nil =>
    rw [List.filter_nil, List.filterMap_nil, List.forall₂_nil_left_iff, eq_comm]
    exact ⟨fun same => ⟨nofun, same⟩, fun both => both.2⟩
  | cons x rest ih =>
    cases need : needed x with
    | true =>
      rw [List.filter_cons_of_pos need, List.forall₂_cons_left_iff]
      constructor
      · rintro ⟨y, others, gx, each, rfl⟩
        obtain ⟨kept, rfl⟩ := ih.mp each
        rw [List.filterMap_cons_some gx]
        exact ⟨List.forall_mem_cons.mpr ⟨fun _ => by rw [gx]; rfl, kept⟩, rfl⟩
      · rintro ⟨kept, rfl⟩
        obtain ⟨head, tail⟩ := List.forall_mem_cons.mp kept
        obtain ⟨y, gx⟩ := Option.isSome_iff_exists.mp (head need)
        exact ⟨y, _, gx, ih.mpr ⟨tail, rfl⟩, by rw [List.filterMap_cons_some gx]⟩
    | false =>
      have gx : g x = none := by
        by_contra kept
        rw [only x (Option.isSome_iff_ne_none.mpr kept)] at need
        cases need
      rw [List.filter_cons_of_neg (by simp [need]), List.filterMap_cons_none gx, ih,
        List.forall_mem_cons, need]
      simp

end Lists

section Parts

variable {args} {part qs : String} {param : String × String} {f : Filter}

theorem hasPrefix_of_predicate (reads : predicate param = some f) :
    hasPrefix param.1 "filter[" = true := by
  obtain ⟨key, named, -⟩ := Option.bind_eq_some_iff.mp reads
  unfold filterKey at named
  split at named
  · assumption
  · cases named

theorem exists_leaf_of_predicate (reads : predicate param = some f) :
    ∃ field test, f = .leaf field test := by
  obtain ⟨⟨field, op⟩, -, builds⟩ := Option.bind_eq_some_iff.mp reads
  obtain ⟨test, same⟩ := isLeaf_buildFilter field op param.2 f builds
  exact ⟨field, test, same⟩

theorem partPredicate_eq (part : String) : partPredicate part = (cut part).bind predicate := by
  unfold partPredicate
  split
  · rename_i empty
    rw [empty]
    rfl
  · rfl

/-- Decoding keeps the beginning of a filter's name. -/
theorem hasPrefix_decode {name : String} (named : hasPrefix name "filter[" = true) :
    hasPrefix (args.decode name) "filter[" = true := by
  obtain ⟨rest, chars⟩ := List.isPrefixOf_iff_prefix.mp named
  have split : name = "filter[" ++ String.ofList rest := by
    apply String.ext
    rw [String.toList_append, String.toList_ofList]
    simpa using chars.symm
  rw [split, args.decode_plain _ _ (by simp)]
  exact List.isPrefixOf_iff_prefix.mpr ⟨_, (String.toList_append ..).symm⟩

theorem names_of_partPredicate (reads : partPredicate part = some f) :
    args.names part = true := by
  rw [partPredicate_eq] at reads
  obtain ⟨written, isCut, reads⟩ := Option.bind_eq_some_iff.mp reads
  rw [QueryArgs.names, QueryArgs.param, decodedParam, isCut]
  exact hasPrefix_decode (hasPrefix_of_predicate reads)

theorem fromQuery_visitAll (args : QueryArgs) (qs : String) :
    fromQuery (args.visitAll qs) =
      Filter.conjoin ((split qs '&').filterMap args.reads) := by
  have nameless : predicate ("", "") = none := rfl
  have skipped : (fun param : String × String =>
      if decide (param ≠ ("", "")) = true then predicate param else none) = predicate := by
    funext param
    by_cases empty : param = ("", "")
    · simp [empty, nameless]
    · simp [empty]
  rw [fromQuery_eq, args.visits, List.filterMap_filter, skipped, List.filterMap_map]
  rfl

theorem conjoin_injective {first second : List Filter}
    (leaves : ∀ f ∈ first, ∃ field test, f = .leaf field test)
    (others : ∀ f ∈ second, ∃ field test, f = .leaf field test)
    (same : Filter.conjoin first = Filter.conjoin second) : first = second := by
  rcases first with _ | ⟨a, _ | ⟨b, more⟩⟩ <;> rcases second with _ | ⟨c, _ | ⟨d, rest⟩⟩
  all_goals first
    | rfl
    | cases same; done
    | skip
  · obtain rfl : a = c := Option.some.inj same
    rfl
  · obtain ⟨field, test, rfl⟩ := leaves a List.mem_cons_self
    cases same
  · obtain ⟨field, test, rfl⟩ := others c List.mem_cons_self
    cases same
  · exact Filter.and.inj (Option.some.inj same)

theorem names_of_reads (isSome : (args.reads part).isSome = true) : args.names part = true := by
  obtain ⟨f, reads⟩ := Option.isSome_iff_exists.mp isSome
  exact hasPrefix_of_predicate reads

theorem forall₂_filterParams_iff {predicates : List Filter} :
    List.Forall₂ (fun param f => predicate param = some f) (args.filterParams qs) predicates ↔
      (∀ part ∈ split qs '&', args.names part = true → (args.reads part).isSome = true) ∧
        (split qs '&').filterMap args.reads = predicates := by
  rw [QueryArgs.filterParams, List.forall₂_map_left_iff]
  exact forall₂_filter_iff fun part => names_of_reads

/-- A readable piece is read alike as it is written and decoded. -/
theorem ReadablePart.partPredicate_eq (readable : ReadablePart args part) :
    partPredicate part = args.reads part := by
  by_cases named : args.names part = true
  · obtain ⟨f, reads, written⟩ := readable named
    rw [Crud.partPredicate_eq, written, reads]
  · have unread : args.reads part = none := by
      by_contra kept
      exact named (names_of_reads (Option.isSome_iff_ne_none.mpr kept))
    cases written : partPredicate part with
    | none => exact unread.symm
    | some f => exact absurd (names_of_partPredicate written) named

theorem leaves_of_reads {read : String → Option Filter}
    (leaf : ∀ part f, read part = some f → ∃ field test, f = .leaf field test) :
    ∀ f ∈ (split qs '&').filterMap read, ∃ field test, f = .leaf field test := by
  intro f member
  obtain ⟨part, -, reads⟩ := List.mem_filterMap.mp member
  exact leaf part f reads

end Parts

/-- Both functions read every filter parameter, and read it alike, exactly where each of them is
readable. -/
theorem readsAll_iff (args : QueryArgs) (qs : String) :
    ReadsAll args qs ↔ ∀ part ∈ split qs '&', ReadablePart args part := by
  constructor
  · rintro (⟨err, fails⟩ | ⟨predicates, each, parsed, -⟩)
    · cases fails
    obtain ⟨kept, rfl⟩ := forall₂_filterParams_iff.mp each
    have lists : (split qs '&').filterMap partPredicate = (split qs '&').filterMap args.reads := by
      refine conjoin_injective (leaves_of_reads fun part f reads => ?_)
        (leaves_of_reads fun part f => exists_leaf_of_predicate) (Except.ok.inj parsed)
      rw [partPredicate_eq] at reads
      obtain ⟨written, -, reads⟩ := Option.bind_eq_some_iff.mp reads
      exact exists_leaf_of_predicate reads
    have alike := eq_of_filterMap_eq (fun part member isSome => by
      obtain ⟨f, reads⟩ := Option.isSome_iff_exists.mp isSome
      exact kept part member (names_of_partPredicate reads)) lists
    intro part member named
    obtain ⟨f, reads⟩ := Option.isSome_iff_exists.mp (kept part member named)
    exact ⟨f, reads, by rw [← partPredicate_eq, alike part member, reads]⟩
  · intro readable
    refine .inr ⟨_, forall₂_filterParams_iff.mpr ⟨?_, rfl⟩, ?_, fromQuery_visitAll args qs⟩
    · intro part member named
      obtain ⟨f, reads, -⟩ := readable part member named
      rw [reads]
      rfl
    · rw [parseQueryString, List.filterMap_congr fun part member =>
        (readable part member).partPredicate_eq]

namespace Example

def hexValue (c : Char) : Option Nat :=
  if c.isDigit then some (c.toNat - '0'.toNat)
  else if 'a' ≤ c ∧ c ≤ 'f' then some (c.toNat - 'a'.toNat + 10)
  else if 'A' ≤ c ∧ c ≤ 'F' then some (c.toNat - 'A'.toNat + 10)
  else none

/-- URL decoding, as it is on texts that encode ASCII characters. -/
def decodeChars : List Char → List Char
  | '%' :: high :: low :: rest =>
    match hexValue high, hexValue low with
    | some h, some l => Char.ofNat (16 * h + l) :: decodeChars rest
    | _, _ => '%' :: decodeChars (high :: low :: rest)
  | '+' :: rest => ' ' :: decodeChars rest
  | c :: rest => c :: decodeChars rest
  | [] => []

def decode (text : String) : String := String.ofList (decodeChars text.toList)

theorem decodeChars_append {plain : List Char} (rest : List Char)
    (each : ∀ c ∈ plain, c ≠ '%' ∧ c ≠ '+') :
    decodeChars (plain ++ rest) = plain ++ decodeChars rest := by
  induction plain with
  | nil => rfl
  | cons c others ih =>
    obtain ⟨⟨percent, plus⟩, tail⟩ := List.forall_mem_cons.mp each
    rw [List.cons_append, decodeChars, ih tail, List.cons_append]
    · rintro _ _ _ rfl
      exact absurd rfl percent
    · exact plus

def ascii : QueryArgs where
  decode := decode
  decode_empty := by decide
  decode_plain := by
    intro plain rest each
    rw [decode, decode, String.toList_append, decodeChars_append _ each, String.ofList_append,
      String.ofList_toList]
  visitAll qs := ((split qs '&').map (decodedParam decode)).filter (· ≠ ("", ""))
  visits := fun _ => rfl

end Example

open Example in
/-- An encoded filter, one without an equals sign and one with an unknown operator are dropped. -/
theorem filters_dropped :
    ¬ReadsAll ascii "filter%5Bstatus%5D%5Beq%5D=paid" ∧
      ¬ReadsAll ascii "filter[paid_at][is_null]" ∧
      ¬ReadsAll ascii "filter[status][like]=paid" := by
  have dropped (qs : String) (parsed : parseQueryString qs = .ok none)
      (named : ascii.filterParams qs ≠ []) : ¬ReadsAll ascii qs := by
    rintro (⟨err, fails⟩ | ⟨predicates, each, reads, -⟩)
    · cases fails
    · rw [parsed] at reads
      match predicates with
      | [] => exact named (List.forall₂_nil_right_iff.mp each)
      | [single] => cases reads
      | first :: second :: rest => cases reads
  exact ⟨dropped _ (by rfl) (by decide), dropped _ (by rfl) (by decide),
    dropped _ (by rfl) (by decide)⟩

end ErpFinance.Api.Crud
