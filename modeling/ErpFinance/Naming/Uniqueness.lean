import ErpFinance.Naming.Service

/-!
# Distinct identifiers

When the identifiers of one tenant and one pattern are distinct whatever fresh
numbers the counter gives.  The counter is keyed by the calendar month even
where the pattern prints no month, and the texts of a pattern are written next
to the number without a separator of their own.
-/

namespace ErpFinance.Naming

open Domain Library

/-- A number that an incremented 64-bit counter can answer. -/
def Issued (n : Int) : Prop := 1 ≤ n ∧ n < 2 ^ 63

/-- The counter gives every key a new number on each call that it serves. -/
structure Fresh (tokens : List Token) (calls : List Call) : Prop where
  issued : ∀ call ∈ calls, ∀ n, call.answer tokens = some n → Issued n
  fresh : calls.Pairwise fun x y => x.key tokens = y.key tokens →
    ∀ n m, x.answer tokens = some n → y.answer tokens = some m → n ≠ m

section Pairs

variable (tenant : Uuid) (tokens : List Token) (x y : PatternVars)

/-- Every token but the sequence is written alike. -/
def SameTexts : Prop := ∀ token ∈ tokens, token.isSEQ = false → token.write x = token.write y

/-- Every token but the sequence is written with as many characters. -/
def SameLengths : Prop :=
  ∀ token ∈ tokens, token.isSEQ = false → (token.write x).length = (token.write y).length

/-- Texts of other lengths and the digits between them can run together to one identifier. -/
def RunTogether : Prop :=
  ∃ n m, Issued n ∧ Issued m ∧
    (counterKey tenant tokens x = counterKey tenant tokens y → n ≠ m) ∧
    render tokens { x with sequence := n } = render tokens { y with sequence := m }

structure Separate : Prop where
  month : SameTexts tokens x y → x.now.year = y.now.year ∧ x.now.month = y.now.month
  boundary : ¬SameLengths tokens x y → ¬RunTogether tenant tokens x y

end Pairs

section Rendering

variable {tenant : Uuid} {tokens : List Token} {x y : PatternVars} {n m : Int}

private theorem eq_of_render_of_le (lengths : SameLengths tokens x y)
    (shorter : (paddedInt 0 n).length ≤ (paddedInt 0 m).length)
    (same : render tokens { x with sequence := n } = render tokens { y with sequence := m }) :
    ∀ token ∈ tokens,
      token.write { x with sequence := n } = token.write { y with sequence := m } := by
  refine eq_of_flatMap_eq ?_ (String.ofList_inj.mp same)
  intro token member
  cases kind : token.isSEQ with
  | true =>
    cases token with
    | seq width => exact formatSequence_length_le shorter _
    | _ => simp [Token.isSEQ] at kind
  | false =>
    rw [Token.write_sequence kind x, Token.write_sequence kind y, lengths token member kind]

/-- Where no boundary moves, an identifier can be read back token by token. -/
theorem eq_of_render (lengths : SameLengths tokens x y)
    (same : render tokens { x with sequence := n } = render tokens { y with sequence := m }) :
    ∀ token ∈ tokens,
      token.write { x with sequence := n } = token.write { y with sequence := m } := by
  rcases Nat.le_total (paddedInt 0 n).length (paddedInt 0 m).length with shorter | shorter
  · exact eq_of_render_of_le lengths shorter same
  · have back : SameLengths tokens y x := fun token member kind =>
      (lengths token member kind).symm
    exact fun token member => (eq_of_render_of_le back shorter same.symm token member).symm

theorem texts_of_render (lengths : SameLengths tokens x y)
    (same : render tokens { x with sequence := n } = render tokens { y with sequence := m }) :
    SameTexts tokens x y := by
  intro token member kind
  have alike := eq_of_render lengths same token member
  rwa [Token.write_sequence kind x, Token.write_sequence kind y] at alike

theorem sequence_of_render (hasSEQ : hasSEQ tokens = true) (lengths : SameLengths tokens x y)
    (same : render tokens { x with sequence := n } = render tokens { y with sequence := m }) :
    n = m := by
  obtain ⟨token, member, kind⟩ := List.any_eq_true.mp hasSEQ
  have alike := eq_of_render lengths same token member
  cases token with
  | seq width => exact formatSequence_injective alike
  | _ => simp [Token.isSEQ] at kind

theorem render_congr (texts : SameTexts tokens x y) :
    render tokens { x with sequence := n } = render tokens { y with sequence := n } := by
  refine congrArg String.ofList (List.flatMap_congr ?_)
  intro token member
  cases kind : token.isSEQ with
  | true =>
    cases token with
    | seq width => rfl
    | _ => simp [Token.isSEQ] at kind
  | false =>
    exact (Token.write_sequence kind x n).trans
      ((texts token member kind).trans (Token.write_sequence kind y n).symm)

theorem Separate.render_ne (separate : Separate tenant tokens x y)
    (hasSEQ : hasSEQ tokens = true) (first : Issued n) (second : Issued m)
    (fresh : counterKey tenant tokens x = counterKey tenant tokens y → n ≠ m) :
    render tokens { x with sequence := n } ≠ render tokens { y with sequence := m } := by
  intro same
  by_cases lengths : SameLengths tokens x y
  · have texts := texts_of_render lengths same
    -- alike texts of one month share the counter, whose numbers differ
    have key : counterKey tenant tokens x = counterKey tenant tokens y :=
      counterKey_congr (renderWithoutSEQ_congr texts) (separate.month texts)
    exact fresh key (sequence_of_render hasSEQ lengths same)
  · exact separate.boundary lengths ⟨n, m, first, second, fresh, same⟩

/-- Requests that are not separate render alike with some numbers a counter may give them. -/
theorem runTogether_of_not_separate (together : ¬Separate tenant tokens x y) :
    RunTogether tenant tokens x y := by
  by_contra apart
  refine together ⟨fun texts => ?_, fun _ => apart⟩
  by_contra months
  have keys : counterKey tenant tokens x ≠ counterKey tenant tokens y := fun same =>
    months (month_of_counterKey (renderWithoutSEQ_congr texts) same)
  have one : Issued 1 := ⟨by decide, by decide⟩
  exact apart ⟨1, 1, one, one, fun same => absurd same keys, render_congr texts⟩

end Rendering

section Separator

variable {tenant : Uuid} {before : List Token} {lead : List Char} {mark : Char} {width : Nat}
  {x y : PatternVars} {n m : Int}

/-- A pattern whose number comes last, behind a literal that ends in a given character. -/
def endsInNumber (before : List Token) (lead : List Char) (mark : Char) (width : Nat) :
    List Token :=
  before ++ [.literal (String.ofList (lead ++ [mark])), .seq width]

theorem render_endsInNumber (fixed : ∀ token ∈ before, token.isSEQ = false) (x : PatternVars)
    (n : Int) : render (endsInNumber before lead mark width) { x with sequence := n } =
      String.ofList ((before.flatMap (Token.write x) ++ lead) ++
        mark :: formatSequence (if width < 1 then 6 else width) n) := by
  have unnumbered : before.flatMap (Token.write { x with sequence := n }) =
      before.flatMap (Token.write x) :=
    List.flatMap_congr (fun token member => Token.write_sequence (fixed token member) x n)
  simp [render, endsInNumber, Token.write, unnumbered]

theorem renderWithoutSEQ_endsInNumber (fixed : ∀ token ∈ before, token.isSEQ = false)
    (x : PatternVars) : renderWithoutSEQ (endsInNumber before lead mark width) x =
      (before.flatMap (Token.write x) ++ lead) ++ [mark] := by
  have kept : before.map (fun token => if token.isSEQ then Token.literal "" else token) =
      before := by
    rw [List.map_congr_left (fun token member => if_neg (by simp [fixed token member]))]
    exact List.map_id' before
  have unnumbered : before.flatMap (Token.write { x with sequence := 0 }) =
      before.flatMap (Token.write x) :=
    List.flatMap_congr (fun token member => Token.write_sequence (fixed token member) x 0)
  simp [renderWithoutSEQ, endsInNumber, kept, unnumbered, Token.write]

/-- A number of few digits is written in digits only. -/
theorem notMem_formatSequence (nondigit : mark.isDigit = false) (fits : width ≤ 1000000)
    (nonneg : 0 ≤ n) : mark ∉ formatSequence width n := by
  rw [formatSequence, if_neg (by omega)]
  intro member
  obtain ⟨k, rfl⟩ := Int.eq_ofNat_of_zero_le nonneg
  have digit := isDigit_of_mem_paddedDigits member
  simp [nondigit] at digit

/-- The number and the text before it can be read back from the identifier. -/
theorem prefix_of_render (fixed : ∀ token ∈ before, token.isSEQ = false)
    (nondigit : mark.isDigit = false) (fits : width ≤ 1000000) (first : Issued n)
    (second : Issued m)
    (same : render (endsInNumber before lead mark width) { x with sequence := n } =
      render (endsInNumber before lead mark width) { y with sequence := m }) :
    renderWithoutSEQ (endsInNumber before lead mark width) x =
      renderWithoutSEQ (endsInNumber before lead mark width) y ∧ n = m := by
  rw [render_endsInNumber fixed, render_endsInNumber fixed, String.ofList_inj] at same
  have digits (k : Int) (issued : Issued k) :
      mark ∉ formatSequence (if width < 1 then 6 else width) k :=
    notMem_formatSequence nondigit (by split <;> omega) (le_trans (by decide) issued.1)
  obtain ⟨prefixes, numbers⟩ := eq_of_append_last (digits n first) (digits m second) same
  rw [renderWithoutSEQ_endsInNumber fixed, renderWithoutSEQ_endsInNumber fixed, prefixes]
  exact ⟨rfl, formatSequence_injective numbers⟩

/-- Behind a separator the month is all that matters: one prefix has to mean one month. -/
theorem separate_endsInNumber_iff (fixed : ∀ token ∈ before, token.isSEQ = false)
    (nondigit : mark.isDigit = false) (fits : width ≤ 1000000) :
    Separate tenant (endsInNumber before lead mark width) x y ↔
      (renderWithoutSEQ (endsInNumber before lead mark width) x =
          renderWithoutSEQ (endsInNumber before lead mark width) y →
        x.now.year = y.now.year ∧ x.now.month = y.now.month) := by
  constructor
  · intro separate prefixes
    by_contra months
    have one : Issued 1 := ⟨by decide, by decide⟩
    refine separate.render_ne (by simp [hasSEQ, endsInNumber]) one one ?_ ?_
    · exact fun same => absurd (month_of_counterKey prefixes same) months
    · rw [renderWithoutSEQ_endsInNumber fixed, renderWithoutSEQ_endsInNumber fixed] at prefixes
      rw [render_endsInNumber fixed, render_endsInNumber fixed,
        List.append_cancel_right prefixes]
  · intro months
    refine ⟨fun texts => months (renderWithoutSEQ_congr texts), ?_⟩
    rintro - ⟨n, m, first, second, fresh, same⟩
    obtain ⟨prefixes, numbers⟩ := prefix_of_render fixed nondigit fits first second same
    exact fresh (counterKey_congr prefixes (months prefixes)) numbers

end Separator

section Runs

variable {tenant : Uuid} {tokens : List Token} {calls picked : List Call} {requests : List Request}

def Request.unserved (request : Request) : Call :=
  ⟨request, fun _ _ => .error "counter unavailable"⟩

@[simp] theorem Request.answer_unserved (request : Request) :
    request.unserved.answer tokens = none := rfl

theorem Fresh.unserved_cons (fresh : Fresh tokens calls) (request : Request) :
    Fresh tokens (request.unserved :: calls) where
  issued := List.forall_mem_cons.mpr ⟨by simp, fresh.issued⟩
  fresh := List.pairwise_cons.mpr ⟨by simp, fresh.fresh⟩

/-- The counter may serve some of the requests and no others. -/
theorem Fresh.extend (fresh : Fresh tokens picked)
    (sub : (picked.map Call.request).Sublist requests) :
    ∃ calls, calls.map Call.request = requests ∧ picked.Sublist calls ∧ Fresh tokens calls ∧
      ∀ call ∈ calls, call ∈ picked ∨ call.answer tokens = none := by
  induction requests generalizing picked with
  | nil =>
    obtain rfl : picked = [] := by simpa using sub
    exact ⟨[], rfl, List.Sublist.refl _, fresh, by simp⟩
  | cons request rest ih =>
    rcases List.sublist_cons_iff.mp sub with skipped | ⟨served, split, within⟩
    · obtain ⟨calls, rfl, inside, inner, silent⟩ := ih fresh skipped
      exact ⟨request.unserved :: calls, rfl, inside.cons _, inner.unserved_cons request,
        List.forall_mem_cons.mpr ⟨by simp, silent⟩⟩
    · obtain ⟨call, others, rfl, rfl, rfl⟩ := List.map_eq_cons_iff.mp split
      obtain ⟨headIssued, othersIssued⟩ := List.forall_mem_cons.mp fresh.issued
      obtain ⟨headFresh, othersFresh⟩ := List.pairwise_cons.mp fresh.fresh
      obtain ⟨calls, rfl, inside, inner, silent⟩ := ih ⟨othersIssued, othersFresh⟩ within
      refine ⟨call :: calls, rfl, inside.cons_cons _, ⟨?_, ?_⟩, ?_⟩
      · exact List.forall_mem_cons.mpr ⟨headIssued, inner.issued⟩
      · refine List.pairwise_cons.mpr ⟨?_, inner.fresh⟩
        intro later member same n m first second
        rcases silent later member with inPicked | unanswered
        · exact headFresh later inPicked same n m first second
        · simp [unanswered] at second
      · refine List.forall_mem_cons.mpr ⟨.inl List.mem_cons_self, ?_⟩
        exact fun later member => (silent later member).imp_left (List.mem_cons_of_mem _)

/-- The call that the counter answers with a number whatever the key. -/
def Request.served (request : Request) (n : Int) : Call := ⟨request, fun _ _ => .ok n⟩

/-- Two requests of a run can be served alone, with any two numbers fresh for their keys. -/
theorem Fresh.pair {first second : Request} {n m : Int} (issuedFirst : Issued n)
    (issuedSecond : Issued m)
    (different : (first.served n).key tokens = (second.served m).key tokens → n ≠ m) :
    Fresh tokens [first.served n, second.served m] where
  issued := by
    intro call member k answered
    simp only [List.mem_cons, List.not_mem_nil, or_false] at member
    rcases member with rfl | rfl
    · rwa [← Option.some.inj answered]
    · rwa [← Option.some.inj answered]
  fresh := by
    refine List.pairwise_pair.mpr ?_
    intro same k l answered answered'
    rw [← Option.some.inj answered, ← Option.some.inj answered']
    exact different same

section OnePattern

variable {pattern : String} (parsed : parsePattern pattern = .ok tokens)
  (one : ∀ request ∈ requests, request.input.tenantID = tenant ∧ request.input.pattern = pattern)

include parsed one

theorem identifiers_pairwise (service : NamingSeriesService)
    (served : calls.map Call.request = requests) :
    (identifiers service calls).Nodup ↔ calls.Pairwise fun x y =>
      ∀ first, x.identifier tokens = some first →
        ∀ second, y.identifier tokens = some second → first ≠ second := by
  have patterns : ∀ call ∈ calls, call.request.input.pattern = pattern := fun call member =>
    (one _ (served ▸ List.mem_map_of_mem member)).2
  rw [identifiers_eq parsed patterns, List.Nodup, List.pairwise_filterMap]

theorem separate_of_distinct {service : NamingSeriesService} {first second : Request}
    (distinct : ∀ calls : List Call, calls.map Call.request = requests → Fresh tokens calls →
      (identifiers service calls).Nodup)
    (sub : [first, second].Sublist requests) : Separate tenant tokens first.vars second.vars := by
  by_contra together
  obtain ⟨n, m, issuedFirst, issuedSecond, fresh, same⟩ := runTogether_of_not_separate together
  have firstTenant := (one first (sub.subset (by simp))).1
  have secondTenant := (one second (sub.subset (by simp))).1
  have different : (first.served n).key tokens = (second.served m).key tokens → n ≠ m := by
    simpa only [Call.key, Request.served, firstTenant, secondTenant] using fresh
  obtain ⟨calls, served, inside, freshCalls, -⟩ :=
    (Fresh.pair issuedFirst issuedSecond different).extend sub
  have pairwise := (identifiers_pairwise parsed one service served).mp
    (distinct calls served freshCalls)
  exact List.pairwise_pair.mp (pairwise.sublist inside) _ rfl _ rfl same

end OnePattern

/--
Calls of one tenant with one pattern return distinct identifiers for every
fresh counter exactly when their requests are pairwise separate.
-/
theorem identifiers_nodup_iff (tenant : Uuid) (pattern : String) (tokens : List Token)
    (parsed : parsePattern pattern = .ok tokens) (sequenced : hasSEQ tokens = true)
    (service : NamingSeriesService) (requests : List Request)
    (one : ∀ request ∈ requests,
      request.input.tenantID = tenant ∧ request.input.pattern = pattern) :
    (∀ calls : List Call, calls.map Call.request = requests → Fresh tokens calls →
        (identifiers service calls).Nodup) ↔
      requests.Pairwise fun x y => Separate tenant tokens x.vars y.vars := by
  constructor
  · intro distinct
    rw [List.pairwise_iff_forall_sublist]
    exact fun sub => separate_of_distinct parsed one distinct sub
  · rintro separate calls served fresh
    rw [identifiers_pairwise parsed one service served]
    rw [← served, List.pairwise_map] at separate
    refine (separate.and fresh.fresh).imp_of_mem ?_
    rintro x y xMember yMember ⟨apart, freshPair⟩ first xAnswer second yAnswer
    obtain ⟨n, xIssued, rfl⟩ := Option.map_eq_some_iff.mp xAnswer
    obtain ⟨m, yIssued, rfl⟩ := Option.map_eq_some_iff.mp yAnswer
    have xTenant := (one _ (served ▸ List.mem_map_of_mem xMember)).1
    have yTenant := (one _ (served ▸ List.mem_map_of_mem yMember)).1
    refine apart.render_ne sequenced (fresh.issued x xMember n xIssued)
      (fresh.issued y yMember m yIssued) ?_
    intro same
    refine freshPair ?_ n m xIssued yIssued
    rw [Call.key, Call.key, xTenant, yTenant, same]

/-- A request of one tenant for an invoice number that prints its month. -/
def monthlyInvoice (now : Time) : Request :=
  ⟨⟨1, "INV-\x7bYYYY\x7d-\x7bMM\x7d-\x7bSEQ:6\x7d", "", "", now⟩, now⟩

/-- The first invoices of two months are distinct where the pattern prints the month. -/
theorem distinct_identifiers_in_two_months :
    (identifiers newNamingSeriesService
      [(monthlyInvoice ⟨2026, 1, 31, 0, by decide⟩).served 1,
        (monthlyInvoice ⟨2026, 2, 1, 0, by decide⟩).served 1]).Nodup := by
  have separate : Separate 1
      (endsInNumber [.literal "INV-", .yyyy, .literal "-", .mm] [] '-' 6)
      (monthlyInvoice ⟨2026, 1, 31, 0, by decide⟩).vars
      (monthlyInvoice ⟨2026, 2, 1, 0, by decide⟩).vars :=
    (separate_endsInNumber_iff (by decide) (by decide) (by decide)).mpr
      fun prefixes => absurd prefixes (by decide +kernel)
  refine (identifiers_nodup_iff 1 (monthlyInvoice ⟨2026, 1, 31, 0, by decide⟩).input.pattern _
    (by decide +kernel) rfl newNamingSeriesService _ (by decide +kernel)).mpr
      (List.pairwise_pair.mpr separate) _ rfl ?_
  exact Fresh.pair ⟨by decide, by decide⟩ ⟨by decide, by decide⟩ (by decide +kernel)

/-- One invoice in January and one in February, each the first of its month. -/
def firstOfMonths : List Call :=
  [Request.served ⟨⟨1, "INV-\x7bYYYY\x7d-\x7bSEQ:6\x7d", "", "",
      ⟨2026, 1, 31, 0, by decide⟩⟩, ⟨2026, 1, 31, 0, by decide⟩⟩ 1,
    Request.served ⟨⟨1, "INV-\x7bYYYY\x7d-\x7bSEQ:6\x7d", "", "",
      ⟨2026, 2, 1, 0, by decide⟩⟩, ⟨2026, 2, 1, 0, by decide⟩⟩ 1]

/-- The counters of two months both start at one, and the pattern prints only the year. -/
theorem same_identifier_in_two_months :
    parsePattern "INV-\x7bYYYY\x7d-\x7bSEQ:6\x7d" =
        .ok [.literal "INV-", .yyyy, .literal "-", .seq 6] ∧
      hasSEQ [.literal "INV-", .yyyy, .literal "-", .seq 6] = true ∧
      Fresh [.literal "INV-", .yyyy, .literal "-", .seq 6] firstOfMonths ∧
      identifiers newNamingSeriesService firstOfMonths = ["INV-2026-000001", "INV-2026-000001"] :=
  ⟨by decide +kernel, rfl,
    Fresh.pair ⟨by decide, by decide⟩ ⟨by decide, by decide⟩ (by decide +kernel),
    by decide +kernel⟩

end Runs

end ErpFinance.Naming
