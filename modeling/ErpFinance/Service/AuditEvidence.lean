import ErpFinance.Service.AuditChain

/-!
# What a healthy chain proves

A scan of the chain is read as a statement about the entries present: they
follow each other from the start of the range on, each is sealed by its own
hash and names its predecessor's.  A healthy range whose last entries still
carry the hash they were appended with has the same bytes as the range that
was appended; that the hash seals a concatenation of fields, that nothing
anchors the newest hash, and that the scan does not look for missing entries at
the end of the range are the limits of the mechanism.
-/

namespace ErpFinance.Service

open Domain Library

namespace AuditChain

section Listings

variable {chain : Chain} {tenantID : Uuid} {low high : Int} {e : AuditChainEntry}

theorem mem_listChainRange :
    e ∈ listChainRange chain tenantID low high ↔
      e ∈ chain.rows ∧ e.tenantID = tenantID ∧ low ≤ e.sequence ∧ e.sequence ≤ high := by
  simp [listChainRange]

theorem mem_entriesOf : e ∈ entriesOf chain tenantID ↔ e ∈ chain.rows ∧ e.tenantID = tenantID := by
  simp [entriesOf]

theorem ascending_listChainRange (chain : Chain) (tenantID : Uuid) (low high : Int) :
    Ascending AuditChainEntry.sequence (listChainRange chain tenantID low high) := by
  apply ascending_ordered
  · exact (List.Nodup.of_map _ chain.nodup).filter _
  · intro a memberA b memberB same
    simp only [List.mem_filter, decide_eq_true_eq] at memberA memberB
    apply Table.eq_of_key_eq memberA.1 memberB.1
    simp [memberA.2.1, memberB.2.1, same]

/-- Two pages that meet list what one page over both lists. -/
theorem listChainRange_append {cut : Int} (lower : low ≤ cut + 1) (upper : cut ≤ high) :
    listChainRange chain tenantID low cut ++ listChainRange chain tenantID (cut + 1) high =
      listChainRange chain tenantID low high := by
  have pages : Ascending AuditChainEntry.sequence
      (listChainRange chain tenantID low cut ++ listChainRange chain tenantID (cut + 1) high) := by
    apply (ascending_listChainRange chain tenantID low cut).append
      (ascending_listChainRange chain tenantID (cut + 1) high)
    intro a memberA b memberB
    have below := (mem_listChainRange.mp memberA).2.2.2
    have above := (mem_listChainRange.mp memberB).2.2.1
    omega
  apply pages.eq_of_mem_iff (ascending_listChainRange chain tenantID low high)
  intro x
  rw [List.mem_append, mem_listChainRange, mem_listChainRange, mem_listChainRange]
  constructor
  · rintro (⟨stored, tenant, above, below⟩ | ⟨stored, tenant, above, below⟩)
    · exact ⟨stored, tenant, above, by omega⟩
    · exact ⟨stored, tenant, by omega, below⟩
  · rintro ⟨stored, tenant, above, below⟩
    by_cases first : x.sequence ≤ cut
    · exact Or.inl ⟨stored, tenant, above, first⟩
    · exact Or.inr ⟨stored, tenant, by omega, below⟩

theorem listChainRange_empty (empty : high < low) :
    listChainRange chain tenantID low high = [] := by
  apply List.eq_nil_iff_forall_not_mem.mpr
  intro x member
  have bounds := (mem_listChainRange.mp member).2.2
  omega

end Listings

/-! ## Intact ranges -/

def AuditChainEntry.bytes (e : AuditChainEntry) : Bytes :=
  hashedBytes e.prevHash e.eventType e.payload e.createdAt

def AuditChainEntry.Sealed (e : AuditChainEntry) : Prop := e.chainHash = sha256Hex e.bytes

def AuditChainEntry.Follows (e before : AuditChainEntry) : Prop :=
  before.sequence + 1 = e.sequence ∧ e.prevHash = before.chainHash

def Intact (fromSeq : Int) (entries : List AuditChainEntry) : Prop :=
  ∀ e ∈ entries, e.Sealed ∧
    (e.sequence = fromSeq ∨ ∃ before ∈ entries, e.Follows before)

/-- What the scan asks of the entries, one after the other. -/
def Passes (fromSeq : Int) : Bytes → Int → List AuditChainEntry → Prop
  | _, _, [] => True
  | prevHash, expected, e :: rest =>
    e.sequence = expected ∧ (fromSeq < e.sequence → e.prevHash = prevHash) ∧ e.Sealed ∧
      Passes fromSeq e.chainHash (e.sequence + 1) rest

variable {entries : List AuditChainEntry}

/-- A scan finds no violation exactly when the entries pass. -/
theorem violations_eq_nil_iff {fromSeq : Int} {scan : Scan}
    (bounded : ∀ e ∈ entries, -2 ^ 63 ≤ e.sequence ∧ e.sequence < 2 ^ 63 - 1) :
    (entries.foldl (checkEntry fromSeq) scan).violations = [] ↔
      scan.violations = [] ∧ Passes fromSeq scan.prevHash scan.expectedSeq entries := by
  induction entries generalizing scan with
  | nil => simp [Passes]
  | cons e rest ih =>
    have bounds := bounded e (by simp)
    have next : int64 (e.sequence + 1) = e.sequence + 1 := by
      unfold int64
      omega
    rw [List.foldl_cons, ih (fun other member => bounded other (by simp [member]))]
    have clean : (checkEntry fromSeq scan e).violations = [] ↔
        scan.violations = [] ∧ e.sequence = scan.expectedSeq ∧
          (fromSeq < e.sequence → e.prevHash = scan.prevHash) ∧ e.Sealed := by
      simp only [checkEntry, List.append_eq_nil_iff, AuditChainEntry.Sealed, computeChainHash,
        AuditChainEntry.bytes]
      constructor
      · rintro ⟨before, ⟨gap, link⟩, hash⟩
        refine ⟨before, by simpa using gap, by simpa using link, ?_⟩
        by_contra differs
        simp [Ne.symm differs] at hash
      · rintro ⟨before, gap, link, hash⟩
        exact ⟨before, ⟨by simpa using gap, by simpa using link⟩, by simp [hash]⟩
    rw [clean]
    simp only [Passes, checkEntry, next]
    tauto

/-- The first of ascending entries follows none of them. -/
theorem not_follows_head {head : AuditChainEntry} {rest : List AuditChainEntry}
    (ascending : Ascending AuditChainEntry.sequence (head :: rest)) :
    ∀ before ∈ head :: rest, ¬ head.Follows before := by
  rintro before member ⟨after, _⟩
  rcases List.mem_cons.mp member with rfl | inRest
  · omega
  · have below := (List.pairwise_cons.mp ascending).1 before inRest
    omega

/--
In ascending order, entries pass from a scanned one on exactly when each is the
first of the range, follows the scanned one, or follows another of them.
-/
theorem passes_iff {fromSeq : Int} {prevHash : Bytes} {expected : Int}
    (ascending : Ascending AuditChainEntry.sequence entries) (start : fromSeq ≤ expected)
    (above : ∀ e ∈ entries, expected ≤ e.sequence) :
    Passes fromSeq prevHash expected entries ↔ ∀ e ∈ entries, e.Sealed ∧
      (e.sequence = fromSeq ∨ (e.sequence = expected ∧ e.prevHash = prevHash) ∨
        ∃ before ∈ entries, e.Follows before) := by
  induction entries generalizing prevHash expected with
  | nil => simp [Passes]
  | cons head rest ih =>
    obtain ⟨headBelow, restAscending⟩ := List.pairwise_cons.mp ascending
    have headAbove := above head (by simp)
    have noneBefore := not_follows_head ascending
    have rest_iff := @ih head.chainHash (head.sequence + 1) restAscending (by omega)
      (fun e member => headBelow e member)
    unfold Passes
    rw [rest_iff]
    constructor
    · rintro ⟨atExpected, link, isSealed, others⟩ e member
      rcases List.mem_cons.mp member with rfl | inRest
      · refine ⟨isSealed, ?_⟩
        by_cases first : e.sequence = fromSeq
        · exact Or.inl first
        · exact Or.inr (Or.inl ⟨atExpected, link (by omega)⟩)
      · obtain ⟨restSealed, first | ⟨after, names⟩ | ⟨before, inList, follows⟩⟩ :=
          others e inRest
        · exact ⟨restSealed, Or.inl first⟩
        · exact ⟨restSealed, Or.inr (Or.inr ⟨head, by simp, by omega, names⟩)⟩
        · exact ⟨restSealed, Or.inr (Or.inr ⟨before, by simp [inList], follows⟩)⟩
    · intro all
      obtain ⟨isSealed, place⟩ := all head (by simp)
      refine ⟨?_, ?_, isSealed, ?_⟩
      · rcases place with first | ⟨atExpected, _⟩ | ⟨before, member, follows⟩
        · omega
        · exact atExpected
        · exact absurd follows (noneBefore before member)
      · intro later
        rcases place with first | ⟨_, names⟩ | ⟨before, member, follows⟩
        · omega
        · exact names
        · exact absurd follows (noneBefore before member)
      · intro e inRest
        have below := headBelow e inRest
        obtain ⟨restSealed, first | ⟨atExpected, _⟩ | ⟨before, member, follows⟩⟩ :=
          all e (by simp [inRest])
        · exact ⟨restSealed, Or.inl first⟩
        · omega
        · refine ⟨restSealed, Or.inr ?_⟩
          rcases List.mem_cons.mp member with rfl | inList
          · exact Or.inl ⟨follows.1.symm, follows.2⟩
          · exact Or.inr ⟨before, inList, follows⟩

/-- In ascending order, the entries from a start on pass exactly when they are intact. -/
theorem passes_iff_intact {fromSeq : Int} (ascending : Ascending AuditChainEntry.sequence entries)
    (above : ∀ e ∈ entries, fromSeq ≤ e.sequence) (prevHash : Bytes) :
    Passes fromSeq prevHash fromSeq entries ↔ Intact fromSeq entries := by
  rw [passes_iff ascending (Int.le_refl _) above]
  constructor
  · intro all e member
    obtain ⟨isSealed, first | ⟨first, _⟩ | follows⟩ := all e member
    · exact ⟨isSealed, Or.inl first⟩
    · exact ⟨isSealed, Or.inl first⟩
    · exact ⟨isSealed, Or.inr follows⟩
  · intro all e member
    obtain ⟨isSealed, first | follows⟩ := all e member
    · exact ⟨isSealed, Or.inl first⟩
    · exact ⟨isSealed, Or.inr (Or.inr follows)⟩

/-- The sequences of an intact range have no gap above its start. -/
theorem Intact.contiguous {fromSeq : Int} (intact : Intact fromSeq entries) {e : AuditChainEntry}
    (member : e ∈ entries) {m : Int} (start : fromSeq ≤ m) (below : m ≤ e.sequence) :
    ∃ x ∈ entries, x.sequence = m := by
  obtain ⟨distance, reach⟩ : ∃ k : Nat, e.sequence = m + k :=
    ⟨(e.sequence - m).toNat, by omega⟩
  induction distance generalizing e with
  | zero => exact ⟨e, member, by omega⟩
  | succ k ih =>
    obtain ⟨-, first | ⟨before, inList, after, -⟩⟩ := intact e member
    · omega
    · exact ih inList (by omega) (by omega)

/-! ## The scan -/

section Scanning

variable {chain : Chain} {tenantID : Uuid} {fromSeq toSeq pageSize : Int}

theorem page_append {start : Int} (page : 1 ≤ pageSize) (low : 1 ≤ start)
    (inRange : start ≤ toSeq) (fits : toSeq + pageSize < 2 ^ 63) :
    int64 (start + pageSize) = start + pageSize ∧
      listChainRange chain tenantID start
          (if toSeq < int64 (start + pageSize - 1) then toSeq else int64 (start + pageSize - 1)) ++
        listChainRange chain tenantID (start + pageSize) toSeq =
          listChainRange chain tenantID start toSeq := by
  have next : int64 (start + pageSize) = start + pageSize := by
    unfold int64
    omega
  have last : int64 (start + pageSize - 1) = start + pageSize - 1 := by
    unfold int64
    omega
  refine ⟨next, ?_⟩
  rw [last]
  split
  · rw [listChainRange_empty (by omega : toSeq < start + pageSize), List.append_nil]
  · have meets := @listChainRange_append chain tenantID start toSeq (start + pageSize - 1)
      (by omega) (by omega)
    rwa [Int.sub_add_cancel] at meets

/-- What the pages found is what one page over the range would have found. -/
theorem scanPages_eq {fuel : Nat} {start : Int} {fails : List Bool} {scan final : Scan}
    (page : 1 ≤ pageSize) (low : 1 ≤ start) (fits : toSeq + pageSize < 2 ^ 63)
    (ends : scanPages chain tenantID fromSeq toSeq pageSize fuel start fails scan =
      some (.ok final)) :
    final = (listChainRange chain tenantID start toSeq).foldl (checkEntry fromSeq) scan := by
  induction fuel generalizing start fails scan with
  | zero => simp [scanPages] at ends
  | succ fuel ih =>
    unfold scanPages at ends
    split at ends
    · rename_i past
      rw [listChainRange_empty past]
      simpa using ends.symm
    · rename_i inRange
      obtain ⟨next, pages⟩ := @page_append chain tenantID toSeq pageSize start page low
        (by omega) fits
      simp only [next] at ends
      split at ends
      · simp at ends
      · rw [ih (by omega) ends, ← List.foldl_append, pages]

theorem scanPages_ends {fuel : Nat} {start : Int} {fails : List Bool} {scan : Scan}
    (page : 1 ≤ pageSize) (low : 1 ≤ start) (fits : toSeq + pageSize < 2 ^ 63)
    (reads : ∀ failed ∈ fails, failed = false) (enough : (toSeq + 1 - start).toNat < fuel) :
    ∃ final, scanPages chain tenantID fromSeq toSeq pageSize fuel start fails scan =
      some (.ok final) := by
  induction fuel generalizing start fails scan with
  | zero => omega
  | succ fuel ih =>
    unfold scanPages
    split
    · exact ⟨scan, rfl⟩
    · have first : fails.headD false = false := by
        cases fails with
        | nil => rfl
        | cons failed rest => exact reads failed (by simp)
      have next := (@page_append chain tenantID toSeq pageSize start page low
        (by omega) fits).1
      simp only [next, first, Bool.false_eq_true, if_false]
      exact ih (by omega) (fun failed member => reads failed (List.mem_of_mem_tail member))
        (by omega)

theorem healthy_iff_intact {fuel : Nat} {env : VerifyEnv} {report : ChainVerificationReport}
    (start : 1 ≤ fromSeq) (page : 1 ≤ pageSize) (fits : toSeq + pageSize < 2 ^ 63)
    (reported : verifyChain fuel env chain tenantID fromSeq toSeq pageSize = some (.ok report)) :
    report.healthy = true ↔ Intact fromSeq (listChainRange chain tenantID fromSeq toSeq) := by
  unfold verifyChain at reported
  split at reported
  · simp at reported
  · obtain ⟨scanned, ends, made⟩ := Option.map_eq_some_iff.mp reported
    cases scanned with
    | error failure => simp [Except.map] at made
    | ok final =>
      have found := scanPages_eq page start fits ends
      have bounded : ∀ e ∈ listChainRange chain tenantID fromSeq toSeq,
          -2 ^ 63 ≤ e.sequence ∧ e.sequence < 2 ^ 63 - 1 := by
        intro e member
        have bounds := (mem_listChainRange.mp member).2.2
        omega
      have verdict : report.healthy = final.violations.isEmpty := by
        rw [← Except.ok.inj made]
      rw [verdict, List.isEmpty_iff, found, violations_eq_nil_iff bounded]
      rw [passes_iff_intact (ascending_listChainRange chain tenantID fromSeq toSeq)
        (fun e member => (mem_listChainRange.mp member).2.2.1)]
      simp

/-- A verification whose reads succeed makes a report. -/
theorem verifyChain_reports {fuel : Nat} {env : VerifyEnv}
    (start : 1 ≤ fromSeq) (page : 1 ≤ pageSize) (fits : toSeq + pageSize < 2 ^ 63)
    (reads : ∀ failed ∈ env.fails, failed = false) (enough : (toSeq + 1 - fromSeq).toNat < fuel) :
    ∃ report, verifyChain fuel env chain tenantID fromSeq toSeq pageSize = some (.ok report) := by
  have first : env.fails.headD false = false := by
    cases calls : env.fails with
    | nil => rfl
    | cons failed rest => exact reads failed (by simp [calls])
  obtain ⟨final, ends⟩ := @scanPages_ends chain tenantID fromSeq toSeq pageSize fuel fromSeq
    env.fails.tail { expectedSeq := fromSeq } page start fits
    (fun failed member => reads failed (List.mem_of_mem_tail member)) enough
  rw [verifyChain, if_neg (by rw [first]; simp), ends]
  exact ⟨_, rfl⟩

end Scanning

/-! ## Appended chains -/

/-- No entry yet. -/
def noEntries : Chain := ⟨[], List.nodup_nil⟩

/-- What the writer establishes. -/
structure WellChained (chain : Chain) : Prop where
  bounded : ∀ e ∈ chain.rows, e.sequence < 2 ^ 63
  linked : ∀ e ∈ chain.rows, 1 ≤ e.sequence → e.Sealed ∧ (e.sequence = 1 ∨
    ∃ before ∈ chain.rows, before.tenantID = e.tenantID ∧ 1 ≤ before.sequence ∧ e.Follows before)
  /-- the sequences of a tenant start above zero, even where they wrapped around -/
  started : ∀ e ∈ chain.rows, ∃ first ∈ chain.rows,
    first.tenantID = e.tenantID ∧ 1 ≤ first.sequence

theorem wellChained_noEntries : WellChained noEntries where
  bounded := by simp [noEntries]
  linked := by simp [noEntries]
  started := by simp [noEntries]

/-- The repository gives the payload and the time of a delivery back as it was handed them. -/
def AuditChainRepository.Lossless (repo : AuditChainRepository) (d : Delivery) : Prop :=
  repo.payload d.payload = d.payload ∧ repo.createdAt d.deliveredAt = d.deliveredAt

variable {repo : AuditChainRepository}

theorem appendChainEntry_cases {chain after : Chain} {entry : AuditChainEntry}
    (payload : repo.payload entry.payload = entry.payload)
    (createdAt : repo.createdAt entry.createdAt = entry.createdAt)
    (stored : appendChainEntry repo chain entry = .ok after) :
    after = chain ∨ after.rows = chain.rows ++ [entry] := by
  unfold appendChainEntry at stored
  rw [payload, createdAt] at stored
  split at stored
  · exact Or.inl (Except.ok.inj stored).symm
  · split at stored
    · simp at stored
    · rename_i free
      rw [← Except.ok.inj stored]
      exact Or.inr (Table.rows_insert (Option.not_isSome_iff_eq_none.mp free))

theorem appendDelivered_cases {d : Delivery} (lossless : repo.Lossless d) (chain : Chain) :
    appendDelivered repo chain d = chain ∨
      (appendDelivered repo chain d).rows =
        chain.rows ++ [nextEntry (getLastChainEntry chain d.tenantID) d] := by
  unfold appendDelivered
  split
  · exact Or.inl rfl
  · simp only []
    split
    · exact Or.inl rfl
    · split
      · exact Or.inl rfl
      · rename_i stored
        exact appendChainEntry_cases lossless.1 lossless.2 stored

theorem nextEntry_linked {chain : Chain} (well : WellChained chain) (d : Delivery)
    (new : AuditChainEntry) (isNext : new = nextEntry (getLastChainEntry chain d.tenantID) d) :
    new.tenantID = d.tenantID ∧ new.sequence < 2 ^ 63 ∧ new.Sealed ∧
      (new.sequence = 1 ∨ ∃ last ∈ chain.rows, last.tenantID = d.tenantID ∧ 1 ≤ last.sequence ∧
        (1 ≤ new.sequence → new.Follows last)) := by
  have isSealed : new.Sealed := by
    rw [isNext]
    rfl
  cases lookup : getLastChainEntry chain d.tenantID with
  | none =>
    rw [lookup] at isNext
    subst isNext
    exact ⟨rfl, (by decide : (1 : Int) < 2 ^ 63), isSealed, Or.inl rfl⟩
  | some last =>
    rw [lookup] at isNext
    have atLast : new.sequence = int64 (last.sequence + 1) := by rw [isNext]; rfl
    have names : new.prevHash = last.chainHash := by rw [isNext]; rfl
    obtain ⟨stored, tenant⟩ := mem_entriesOf.mp (List.mem_of_getLast? lookup)
    -- the last entry lies above an entry above zero
    obtain ⟨first, inChain, sameTenant, positive⟩ := well.started last stored
    have greatest := le_getLast_of_ordered (x := first) lookup
      (by simp [inChain, sameTenant, tenant])
    have bounded := well.bounded last stored
    refine ⟨by rw [isNext]; rfl, ?_, isSealed, Or.inr ⟨last, stored, tenant, by omega, ?_⟩⟩
    · rw [atLast]
      unfold int64
      omega
    · intro above
      refine ⟨?_, names⟩
      rw [atLast] at above ⊢
      unfold int64 at above ⊢
      omega

theorem appendDelivered_keeps {chain : Chain} {d : Delivery} (lossless : repo.Lossless d)
    (well : WellChained chain) : WellChained (appendDelivered repo chain d) := by
  rcases appendDelivered_cases lossless chain with same | added
  · rwa [same]
  · generalize isNext : nextEntry (getLastChainEntry chain d.tenantID) d = new at added
    obtain ⟨tenant, below, isSealed, place⟩ := nextEntry_linked well d new isNext.symm
    have old : ∀ e ∈ chain.rows, e ∈ (appendDelivered repo chain d).rows := by
      intro e member
      simp [added, member]
    have cases_of_mem : ∀ e ∈ (appendDelivered repo chain d).rows, e ∈ chain.rows ∨ e = new := by
      intro e member
      simpa [added] using member
    constructor
    · intro e member
      rcases cases_of_mem e member with stored | rfl
      · exact well.bounded e stored
      · exact below
    · intro e member above
      rcases cases_of_mem e member with stored | rfl
      · obtain ⟨oldSealed, first | ⟨before, inChain, follows⟩⟩ := well.linked e stored above
        · exact ⟨oldSealed, Or.inl first⟩
        · exact ⟨oldSealed, Or.inr ⟨before, old before inChain, follows⟩⟩
      · rcases place with first | ⟨last, stored, sameTenant, positive, follows⟩
        · exact ⟨isSealed, Or.inl first⟩
        · exact ⟨isSealed, Or.inr ⟨last, old last stored, by rw [sameTenant, tenant], positive,
            follows above⟩⟩
    · intro e member
      rcases cases_of_mem e member with stored | rfl
      · obtain ⟨first, inChain, sameTenant, positive⟩ := well.started e stored
        exact ⟨first, old first inChain, sameTenant, positive⟩
      · rcases place with first | ⟨last, stored, sameTenant, positive, -⟩
        · exact ⟨e, member, rfl, by omega⟩
        · exact ⟨last, old last stored, by rw [sameTenant, tenant], positive⟩

/-- The chain the writer made in a history of deliveries. -/
def appended (repo : AuditChainRepository) (deliveries : List Delivery) : Chain :=
  deliveries.foldl (appendDelivered repo) noEntries

theorem wellChained_appended {deliveries : List Delivery}
    (lossless : ∀ d ∈ deliveries, repo.Lossless d) : WellChained (appended repo deliveries) := by
  apply List.foldlRecOn deliveries _ wellChained_noEntries
  intro chain well d member
  exact appendDelivered_keeps (lossless d member) well

theorem WellChained.intact {chain : Chain} (well : WellChained chain) {tenantID : Uuid}
    {fromSeq toSeq : Int} (start : 1 ≤ fromSeq) :
    Intact fromSeq (listChainRange chain tenantID fromSeq toSeq) := by
  intro e member
  obtain ⟨stored, tenant, above, below⟩ := mem_listChainRange.mp member
  obtain ⟨isSealed, first | ⟨before, inChain, sameTenant, positive, follows⟩⟩ :=
    well.linked e stored (by omega)
  · exact ⟨isSealed, Or.inl (by omega)⟩
  · refine ⟨isSealed, ?_⟩
    by_cases atStart : e.sequence = fromSeq
    · exact Or.inl atStart
    · have after := follows.1
      exact Or.inr ⟨before, mem_listChainRange.mpr
        ⟨inChain, sameTenant.trans tenant, by omega, by omega⟩, follows⟩

/-! ## Evidence -/

def AuditChainEntry.printedTime (e : AuditChainEntry) : Bytes :=
  asciiBytes (rfc3339Nano e.createdAt)

theorem AuditChainEntry.Sealed.length {e : AuditChainEntry} (isSealed : e.Sealed) :
    e.chainHash.length = 64 := by
  rw [isSealed]
  exact length_sha256Hex _

/-- Entries with one text between them have the same fields where these have the same lengths. -/
theorem AuditChainEntry.fields_eq {e a : AuditChainEntry} (same : e.bytes = a.bytes)
    (prevHash : e.prevHash.length = a.prevHash.length)
    (eventType : e.eventType.length = a.eventType.length)
    (payload : e.payload.length = a.payload.length) :
    e.prevHash = a.prevHash ∧ e.eventType = a.eventType ∧ e.payload = a.payload ∧
      e.printedTime = a.printedTime := by
  obtain ⟨samePrev, rest⟩ := List.append_inj same prevHash
  obtain ⟨front, sameTime⟩ := List.append_inj rest (by simp [eventType, payload])
  obtain ⟨sameEvent, samePayload⟩ := List.append_inj front eventType
  exact ⟨samePrev, sameEvent, samePayload, sameTime⟩

/-- Behind sealed entries, the same bytes name the same predecessor hash. -/
theorem AuditChainEntry.Follows.prevHash_eq {e before a origin : AuditChainEntry}
    (follows : e.Follows before) (originally : a.Follows origin) (isSealed : before.Sealed)
    (originSealed : origin.Sealed) (same : e.bytes = a.bytes) : e.prevHash = a.prevHash := by
  apply (List.append_inj same _).1
  rw [follows.2, originally.2, isSealed.length, originSealed.length]

/-- No two different texts of a stored and an appended entry have one hash. -/
def NoCollision (stored appended : Chain) : Prop :=
  ∀ e ∈ stored.rows, ∀ a ∈ appended.rows, sha256Hex e.bytes = sha256Hex a.bytes →
    e.bytes = a.bytes

def Original (appended : Chain) (e a : AuditChainEntry) : Prop :=
  a ∈ appended.rows ∧ a.tenantID = e.tenantID ∧ a.sequence = e.sequence ∧
    e.chainHash = a.chainHash ∧ e.bytes = a.bytes

section Anchors

variable {stored appended : Chain} {tenantID : Uuid} {fromSeq toSeq : Int}

theorem original_of_hash {e a : AuditChainEntry} (well : WellChained appended)
    (distinct : NoCollision stored appended) (member : e ∈ stored.rows) (isSealed : e.Sealed)
    (inAppended : a ∈ appended.rows) (tenant : a.tenantID = e.tenantID)
    (sequence : a.sequence = e.sequence) (positive : 1 ≤ e.sequence)
    (hash : e.chainHash = a.chainHash) : Original appended e a := by
  have appendedSealed := (well.linked a inAppended (by omega)).1
  refine ⟨inAppended, tenant, sequence, hash, ?_⟩
  apply distinct e member a inAppended
  rw [← isSealed, ← appendedSealed, hash]

theorem original_before {e x a : AuditChainEntry} (well : WellChained appended)
    (distinct : NoCollision stored appended) (start : 1 ≤ fromSeq)
    (intact : Intact fromSeq (listChainRange stored tenantID fromSeq toSeq))
    (member : e ∈ listChainRange stored tenantID fromSeq toSeq)
    (next : x ∈ listChainRange stored tenantID fromSeq toSeq) (follows : x.Follows e)
    (original : Original appended x a) :
    x.prevHash = a.prevHash ∧ ∃ origin, Original appended e origin := by
  obtain ⟨inStored, tenant, above, -⟩ := mem_listChainRange.mp member
  obtain ⟨-, nextTenant, -, -⟩ := mem_listChainRange.mp next
  obtain ⟨inAppended, sameTenant, sequence, -, bytes⟩ := original
  have after := follows.1
  -- the appended entry is not the first one, for there is an entry below the stored one
  obtain ⟨-, first | ⟨origin, inChain, originTenant, positive, originally⟩⟩ :=
    well.linked a inAppended (by omega)
  · omega
  · have isSealed := (intact e member).1
    have originSealed := (well.linked origin inChain positive).1
    have names := follows.prevHash_eq originally isSealed originSealed bytes
    have originAfter := originally.1
    refine ⟨names, origin, ?_⟩
    apply original_of_hash well distinct inStored isSealed inChain _ (by omega) (by omega)
    · rw [← follows.2, names, originally.2]
    · rw [originTenant, sameTenant, nextTenant, tenant]

theorem original_below {anchor a e : AuditChainEntry} (well : WellChained appended)
    (distinct : NoCollision stored appended) (start : 1 ≤ fromSeq)
    (intact : Intact fromSeq (listChainRange stored tenantID fromSeq toSeq))
    (anchored : anchor ∈ listChainRange stored tenantID fromSeq toSeq)
    (original : Original appended anchor a)
    (member : e ∈ listChainRange stored tenantID fromSeq toSeq)
    (below : e.sequence ≤ anchor.sequence) :
    ∃ origin, Original appended e origin ∧
      (fromSeq < e.sequence → e.prevHash = origin.prevHash) := by
  obtain ⟨inStored, tenant, above, -⟩ := mem_listChainRange.mp member
  have known : ∃ origin, Original appended e origin := by
    -- downwards from the anchor, one link at a time
    obtain ⟨distance, reach⟩ : ∃ k : Nat, anchor.sequence = e.sequence + k :=
      ⟨(anchor.sequence - e.sequence).toNat, by omega⟩
    induction distance generalizing e with
    | zero =>
      obtain ⟨anchorStored, anchorTenant, -, -⟩ := mem_listChainRange.mp anchored
      have same : e = anchor := by
        apply Table.eq_of_key_eq inStored anchorStored
        simp only [AuditChainEntry.key_eq, Prod.mk.injEq]
        exact ⟨tenant.trans anchorTenant.symm, by omega⟩
      exact ⟨a, same ▸ original⟩
    | succ k ih =>
      obtain ⟨x, next, above'⟩ := intact.contiguous anchored (m := e.sequence + 1) (by omega)
        (by omega)
      obtain ⟨nextStored, nextTenant, -, -⟩ := mem_listChainRange.mp next
      obtain ⟨origin, nextOriginal⟩ :=
        ih next (by omega) nextStored nextTenant (by omega) (by omega)
      obtain ⟨-, first | ⟨before, inRange, follows⟩⟩ := intact x next
      · omega
      · obtain ⟨beforeStored, beforeTenant, -, -⟩ := mem_listChainRange.mp inRange
        have same : before = e := by
          apply Table.eq_of_key_eq beforeStored inStored
          have after := follows.1
          simp only [AuditChainEntry.key_eq, Prod.mk.injEq]
          exact ⟨beforeTenant.trans tenant.symm, by omega⟩
        exact (original_before well distinct start intact member next (same ▸ follows)
          nextOriginal).2
  obtain ⟨origin, isOriginal⟩ := known
  refine ⟨origin, isOriginal, ?_⟩
  intro inside
  obtain ⟨-, first | ⟨before, inRange, follows⟩⟩ := intact e member
  · omega
  · exact (original_before well distinct start intact inRange member follows isOriginal).1

end Anchors

/-- What a healthy report says about the stored entries of the range. -/
structure Evidence (appended stored : Chain) (tenantID : Uuid) (fromSeq toSeq : Int) : Prop where
  /-- each entry is sealed by its hash, and linked to its predecessor in the range -/
  intact : Intact fromSeq (listChainRange stored tenantID fromSeq toSeq)
  /-- exactly the sequences from the start up to the last entry are present -/
  present : ∀ e ∈ listChainRange stored tenantID fromSeq toSeq, ∀ m, fromSeq ≤ m →
    m ≤ e.sequence → ∃ x ∈ listChainRange stored tenantID fromSeq toSeq, x.sequence = m
  /-- up to an entry with the hash it was appended with, each carries what was appended -/
  original : ∀ anchor ∈ listChainRange stored tenantID fromSeq toSeq,
    (∃ a ∈ appended.rows, a.tenantID = tenantID ∧ a.sequence = anchor.sequence ∧
      anchor.chainHash = a.chainHash) →
    ∀ e ∈ listChainRange stored tenantID fromSeq toSeq, e.sequence ≤ anchor.sequence →
      ∃ a, Original appended e a ∧ (fromSeq < e.sequence → e.prevHash = a.prevHash) ∧
        (e.prevHash.length = a.prevHash.length → e.eventType.length = a.eventType.length →
          e.payload.length = a.payload.length →
          e.eventType = a.eventType ∧ e.payload = a.payload ∧ e.printedTime = a.printedTime)

theorem evidence_of_intact {appended stored : Chain} {tenantID : Uuid} {fromSeq toSeq : Int}
    (well : WellChained appended) (distinct : NoCollision stored appended) (start : 1 ≤ fromSeq)
    (intact : Intact fromSeq (listChainRange stored tenantID fromSeq toSeq)) :
    Evidence appended stored tenantID fromSeq toSeq where
  intact := intact
  present := fun _ member _ low high => intact.contiguous member low high
  original := by
    rintro anchor anchored ⟨a, inAppended, tenant, sequence, hash⟩ e member below
    obtain ⟨anchorStored, anchorTenant, above, -⟩ := mem_listChainRange.mp anchored
    have original := original_of_hash well distinct anchorStored (intact anchor anchored).1
      inAppended (tenant.trans anchorTenant.symm) sequence (by omega) hash
    obtain ⟨origin, isOriginal, names⟩ :=
      original_below well distinct start intact anchored original member below
    refine ⟨origin, isOriginal, names, ?_⟩
    intro prevHash eventType payload
    exact (AuditChainEntry.fields_eq isOriginal.2.2.2.2 prevHash eventType payload).2

/-- A healthy report is evidence, and an unaltered chain gets one for every range and page size. -/
theorem verifyChain_evidence {deliveries : List Delivery} {stored : Chain} {tenantID : Uuid}
    {fromSeq toSeq pageSize : Int} (lossless : ∀ d ∈ deliveries, repo.Lossless d)
    (distinct : NoCollision stored (appended repo deliveries)) (start : 1 ≤ fromSeq)
    (page : 1 ≤ pageSize) (fits : toSeq + pageSize < 2 ^ 63) :
    (∀ fuel env report,
      verifyChain fuel env stored tenantID fromSeq toSeq pageSize = some (.ok report) →
      report.healthy = true →
      Evidence (appended repo deliveries) stored tenantID fromSeq toSeq) ∧
    (∀ fuel env, (∀ failed ∈ env.fails, failed = false) → (toSeq + 1 - fromSeq).toNat < fuel →
      ∃ report, verifyChain fuel env (appended repo deliveries) tenantID fromSeq toSeq pageSize =
        some (.ok report) ∧ report.healthy = true) := by
  have well := wellChained_appended lossless
  constructor
  · intro fuel env report reported healthy
    have intact := (healthy_iff_intact start page fits reported).mp healthy
    exact evidence_of_intact well distinct start intact
  · intro fuel env reads enough
    obtain ⟨report, reported⟩ :=
      @verifyChain_reports (appended repo deliveries) tenantID fromSeq toSeq pageSize fuel env
        start page fits reads enough
    have healthy := (healthy_iff_intact start page fits reported).mpr (well.intact start)
    exact ⟨report, reported, healthy⟩

/-! ## Samples -/

def sampleTime : Time := ⟨2025, 3, 1, 0, by decide⟩

def sampleDelivery (outboxID : Uuid) (payload : List Char) : Delivery where
  tenantID := 1
  outboxID := outboxID
  eventType := asciiBytes ['P', 'O', 'S', 'T']
  payload := asciiBytes payload
  deliveredAt := sampleTime

/-- Payloads as they are, times to the microsecond. -/
def sampleRepository : AuditChainRepository where
  payload := id
  createdAt := fun t =>
    ⟨t.year, t.month, t.day, t.nanos / 1000 * 1000, t.valid.1, t.valid.2.1, by
      have below := t.valid.2.2
      omega⟩

def sampleDeliveries : List Delivery := [sampleDelivery 1 ['7'], sampleDelivery 2 ['9']]

def sampleChain : Chain := appended sampleRepository sampleDeliveries

/-- The sample chain, read back page by page, is evidence of itself. -/
theorem verifyChain_evidence_sample :
    Evidence sampleChain sampleChain 1 1 2 ∧
      ∃ report, verifyChain 3 { now := sampleTime } sampleChain 1 1 2 1 = some (.ok report) ∧
        report.healthy = true := by
  have distinct : NoCollision sampleChain sampleChain := by
    unfold NoCollision
    decide +kernel
  have theorems := @verifyChain_evidence sampleRepository sampleDeliveries sampleChain 1 1 2 1
    (by unfold AuditChainRepository.Lossless; decide) distinct (by decide) (by decide) (by decide)
  obtain ⟨report, reported, healthy⟩ :=
    theorems.2 3 { now := sampleTime } (by decide) (by decide)
  exact ⟨theorems.1 3 _ report reported healthy, report, reported, healthy⟩

def oneDelivery : Chain := appended sampleRepository [sampleDelivery 1 ['7']]

def shifted : Chain :=
  oneDelivery.mapRows (fun e =>
    { e with eventType := asciiBytes ['P', 'O', 'S'], payload := asciiBytes ['T', '7'] })
    (fun _ => rfl)

/-- The delivery with another payload and the hash of that. -/
def rewritten : Chain := appended sampleRepository [sampleDelivery 1 ['8']]

def verdict (outcome : Option (Except String ChainVerificationReport)) : Option Bool :=
  outcome.bind (fun result => (result.toOption).map ChainVerificationReport.healthy)

/-- Healthy are a chain whose bytes moved between two fields, one rewritten with its hash and
one without its last entry; a page size beyond the end of the numbers, or a start below the
first sequence, finds fault with an unaltered chain. -/
theorem alterations_stay_healthy :
    (NoCollision shifted oneDelivery ∧
      shifted.rows.map (·.payload) ≠ oneDelivery.rows.map (·.payload) ∧
      verdict (verifyChain 2 { now := sampleTime } shifted 1 1 1 10) = some true) ∧
    (NoCollision rewritten oneDelivery ∧
      rewritten.rows.map (·.payload) ≠ oneDelivery.rows.map (·.payload) ∧
      verdict (verifyChain 2 { now := sampleTime } rewritten 1 1 1 10) = some true) ∧
    (NoCollision oneDelivery sampleChain ∧ oneDelivery.rows.length ≠ sampleChain.rows.length ∧
      verdict (verifyChain 2 { now := sampleTime } oneDelivery 1 1 2 10) = some true) ∧
    verdict (verifyChain 9 { now := sampleTime } sampleChain 1 2 2 (2 ^ 63 - 1)) = some false ∧
    verdict (verifyChain 9 { now := sampleTime } sampleChain 1 0 2 10) = some false := by
  unfold NoCollision
  decide +kernel

end AuditChain

end ErpFinance.Service
