import ErpFinance.Iam.RoleAssignments
import ErpFinance.Library.Except

/-!
# Enforcement in a batch

Requests that are answered together.  Those of platform subjects are answered
at once and the rest by the enforcer, whose answers are written back to their
places.  Unlike a single request, a batch revokes no expired roles first.
-/

namespace ErpFinance.Iam.RoleAssignments

open Domain Library

/-! ## The batch -/

/-- What the loop over the requests has collected. -/
structure Split where
  results : List Bool
  casbinIdx : List Nat
  batch : List Request

/-- The loop over the requests; the index is that of the next one. -/
def collect : Nat → List Request → Split → Except AuthzError Split
  | _, [], s => .ok s
  | i, r :: rest, s =>
    match settled r with
    | some (.error err) => .error err
    | some (.ok allowed) => collect (i + 1) rest { s with results := s.results.set i allowed }
    | none =>
      collect (i + 1) rest
        { s with casbinIdx := s.casbinIdx ++ [i], batch := s.batch ++ [r] }

/-- The loop that writes the enforcer's answers back. -/
def writeBack : List Nat → List Bool → List Bool → List Bool
  | idx :: rest, allowed :: answers, results => writeBack rest answers (results.set idx allowed)
  | _, _, results => results

def enforceBatch (batchEnforce : Finset Grouping → List Request → Option (List Bool))
    (reqs : List Request) (stores : Stores) : Except AuthzError (List Bool) :=
  if reqs.isEmpty then .ok []
  else
    match collect 0 reqs ⟨.replicate reqs.length false, [], []⟩ with
    | .error err => .error err
    | .ok s =>
      if s.batch.isEmpty then .ok s.results
      else
        match batchEnforce stores.groupings s.batch with
        | none => .error .enforceFailed
        | some answers => .ok (writeBack s.casbinIdx answers s.results)

/-! ## What a batch answers -/

/-- The service refuses the request. -/
def Invalid (r : Request) : Prop := settled r = some (.error .invalidRequest)

/-- The service leaves the request to the enforcer. -/
def unsettled (r : Request) : Bool := (settled r).isNone

/-- What stands at the place of a request before the enforcer is asked. -/
def direct (r : Request) : Bool := settled r matches some (.ok true)

/-- The places of the requests that the enforcer answers. -/
def places : Nat → List Request → List Nat
  | _, [] => []
  | i, r :: rest => if unsettled r then i :: places (i + 1) rest else places (i + 1) rest

section Loops

variable {reqs : List Request}

theorem settled_cases (r : Request) :
    settled r = none ∨ settled r = some (.ok true) ∨ Invalid r := by
  unfold Invalid settled
  split
  · exact .inr (.inr rfl)
  · split
    · exact .inr (.inl rfl)
    · exact .inl rfl

/-- A request without a subject, a domain, an object or an action fails the loop. -/
theorem collect_invalid (invalid : ∃ r ∈ reqs, Invalid r) (i : Nat) (s : Split) :
    collect i reqs s = .error .invalidRequest := by
  induction reqs generalizing i s with
  | nil => simp at invalid
  | cons r rest ih =>
    rcases settled_cases r with left | platform | refused
    · rw [collect, left]
      refine ih ?_ _ _
      simpa [Invalid, left] using invalid
    · rw [collect, platform]
      refine ih ?_ _ _
      simpa [Invalid, platform] using invalid
    · rw [collect, refused]

/-- Without one, every place is settled or handed to the enforcer. -/
theorem collect_valid (valid : ∀ r ∈ reqs, ¬ Invalid r) (done : List Bool) (idx : List Nat)
    (batch : List Request) :
    collect done.length reqs ⟨done ++ .replicate reqs.length false, idx, batch⟩ =
      .ok ⟨done ++ reqs.map direct, idx ++ places done.length reqs,
        batch ++ reqs.filter unsettled⟩ := by
  induction reqs generalizing done idx batch with
  | nil => simp [collect, places]
  | cons r rest ih =>
    obtain ⟨ok, others⟩ := List.forall_mem_cons.mp valid
    rcases settled_cases r with left | platform | refused
    · have asked : unsettled r = true := by rw [unsettled, left]; rfl
      have before : direct r = false := by rw [direct, left]
      have next := ih others (done ++ [false]) (idx ++ [done.length]) (batch ++ [r])
      rw [List.length_append, List.length_singleton, List.append_assoc] at next
      rw [collect, left]
      simpa [asked, before, places, List.replicate_succ] using next
    · have asked : unsettled r = false := by rw [unsettled, platform]; rfl
      have before : direct r = true := by rw [direct, platform]
      have next := ih others (done ++ [true]) idx batch
      rw [List.length_append, List.length_singleton, List.append_assoc] at next
      rw [collect, platform]
      simpa [asked, before, places, List.replicate_succ] using next
    · exact absurd refused ok

def answer (enforcer : Request → Option Bool) (r : Request) : Option Bool :=
  if unsettled r then enforcer r else some (direct r)

theorem writeBack_places (enforcer : Request → Option Bool) {answers : List Bool}
    (answered : (reqs.filter unsettled).mapM enforcer = some answers) :
    ∃ results, reqs.mapM (answer enforcer) = some results ∧ ∀ done,
      writeBack (places done.length reqs) answers (done ++ reqs.map direct) = done ++ results := by
  induction reqs generalizing answers with
  | nil => exact ⟨[], rfl, fun done => by simp [places, writeBack]⟩
  | cons r rest ih =>
    cases asked : unsettled r with
    | true =>
      rw [List.filter_cons_of_pos asked, List.mapM_cons] at answered
      cases first : enforcer r with
      | none => simp [first] at answered
      | some allowed =>
        cases others : (rest.filter unsettled).mapM enforcer with
        | none => simp [first, others] at answered
        | some tail =>
          obtain ⟨results, merged, written⟩ := ih others
          obtain rfl : allowed :: tail = answers := by
            simpa [first, others] using answered
          refine ⟨allowed :: results, by simp [answer, asked, first, merged],
            fun done => ?_⟩
          have next := written (done ++ [allowed])
          rw [List.length_append, List.length_singleton, List.append_assoc] at next
          simpa [places, asked, writeBack] using next
    | false =>
      rw [List.filter_cons_of_neg (by simp [asked])] at answered
      obtain ⟨results, merged, written⟩ := ih answered
      refine ⟨direct r :: results, by simp [answer, asked, merged], fun done => ?_⟩
      have next := written (done ++ [direct r])
      rw [List.length_append, List.length_singleton, List.append_assoc] at next
      simpa [places, asked] using next

theorem mapM_answer_eq_none (enforcer : Request → Option Bool)
    (failed : (reqs.filter unsettled).mapM enforcer = none) :
    reqs.mapM (answer enforcer) = none := by
  obtain ⟨r, member, none⟩ := mapM_eq_none_iff.mp failed
  obtain ⟨inReqs, asked⟩ := List.mem_filter.mp member
  exact mapM_eq_none_iff.mpr ⟨r, inReqs, by rw [answer, if_pos asked, none]⟩

end Loops

section Batch

variable {enforcer : Finset Grouping → Request → Option Bool}
  {batchEnforce : Finset Grouping → List Request → Option (List Bool)} {reqs : List Request}
  {stores : Stores}

theorem enforceBatch_valid
    (batched : ∀ groupings reqs, batchEnforce groupings reqs = reqs.mapM (enforcer groupings))
    (valid : ∀ r ∈ reqs, ¬ Invalid r) : enforceBatch batchEnforce reqs stores =
      match reqs.mapM (answer (enforcer stores.groupings)) with
      | none => .error .enforceFailed
      | some results => .ok results := by
  have collected := collect_valid valid [] [] []
  simp only [List.nil_append, List.length_nil] at collected
  rw [enforceBatch, collected]
  cases answered : (reqs.filter unsettled).mapM (enforcer stores.groupings) with
  | none =>
    rw [mapM_answer_eq_none _ answered]
    have some : reqs.filter unsettled ≠ [] := by
      intro empty
      rw [empty] at answered
      simp at answered
    have nonempty : reqs ≠ [] := by
      rintro rfl
      exact some rfl
    simp [nonempty, some, batched, answered]
  | some answers =>
    obtain ⟨results, merged, written⟩ := writeBack_places _ answered
    have written := written []
    simp only [List.nil_append, List.length_nil] at written
    rw [merged]
    cases reqs with
    | nil =>
      obtain rfl : [] = results := by simpa using merged
      rfl
    | cons r rest =>
      by_cases empty : (r :: rest).filter unsettled = []
      · rw [empty] at answered
        obtain rfl : [] = answers := by simpa using answered
        have places_nil : writeBack (places 0 (r :: rest)) [] ((r :: rest).map direct) =
            (r :: rest).map direct := by
          cases places 0 (r :: rest) <;> rfl
        rw [places_nil] at written
        simp [empty, written]
      · rw [List.map_cons] at written
        simp [empty, batched, answered, written]

theorem enforceBatch_invalid (invalid : ∃ r ∈ reqs, Invalid r) :
    enforceBatch batchEnforce reqs stores = .error .invalidRequest := by
  have nonempty : reqs ≠ [] := by
    rintro rfl
    simp at invalid
  rw [enforceBatch, collect_invalid invalid]
  simp [nonempty]

end Batch

/-! ## Single requests in the same state -/

/-- What single requests meet, each in the same state: the clock, the caller and deactivations that
fail. -/
structure Moment where
  caller : Caller
  now : Nat
  fails : Request → String → Bool

/-- `Enforce` of one request; the expired roles are listed. -/
def single (enforcer : Finset Grouping → Request → Option Bool) (at_ : Moment) (stores : Stores)
    (r : Request) : Except AuthzError Bool :=
  (enforce enforcer at_.caller false (at_.fails r) at_.now r stores).1

def current (at_ : Moment) (stores : Stores) (r : Request) : Finset Grouping :=
  withoutRoles r.subject r.domain
    (listExpiredActiveRoleNames at_.caller at_.now r.subject r.domain stores.rows)
    stores.groupings

/-- A batch fails when one of its requests alone would, and else answers each as it would be. -/
structure Agrees (alone : Request → Except AuthzError Bool) (reqs : List Request)
    (batch : Except AuthzError (List Bool)) : Prop where
  error : (∃ err, batch = .error err) ↔ ∃ r ∈ reqs, ∃ err, alone r = .error err
  answers : ∀ results, batch = .ok results →
    List.Forall₂ (fun r allowed => alone r = .ok allowed) reqs results

/-- The enforcer answers each request that is left to it with the expired roles of its subject as
without them; or some request is invalid, or the enforcer fails either way. -/
def Unaffected (enforcer : Finset Grouping → Request → Option Bool) (at_ : Moment)
    (stores : Stores) (reqs : List Request) : Prop :=
  (∃ r ∈ reqs, Invalid r) ∨
    ((∃ r ∈ reqs, unsettled r = true ∧ enforcer stores.groupings r = none) ∧
      ∃ r ∈ reqs, unsettled r = true ∧ enforcer (current at_ stores r) r = none) ∨
    ∀ r ∈ reqs, unsettled r = true →
      enforcer stores.groupings r = enforcer (current at_ stores r) r

section Single

variable {enforcer : Finset Grouping → Request → Option Bool} {at_ : Moment} {stores : Stores}
  {r : Request} {reqs : List Request}

theorem single_invalid (invalid : Invalid r) :
    single enforcer at_ stores r = .error .invalidRequest := by
  rw [single, enforce, show settled r = _ from invalid]

theorem single_valid (valid : ¬ Invalid r) : single enforcer at_ stores r =
    match answer (enforcer (current at_ stores r)) r with
    | none => .error .enforceFailed
    | some allowed => .ok allowed := by
  rcases settled_cases r with left | platform | refused
  · have asked : unsettled r = true := by rw [unsettled, left]; rfl
    rw [single, enforce, left, answer, if_pos asked]
    simp only [revokeExpiredRoles, Bool.false_eq_true, if_false, groupings_revokeNames, current]
    cases enforcer (withoutRoles r.subject r.domain
      (listExpiredActiveRoleNames at_.caller at_.now r.subject r.domain stores.rows)
      stores.groupings) r <;> rfl
  · have asked : unsettled r = false := by rw [unsettled, platform]; rfl
    rw [single, enforce, platform, answer, asked, direct, platform]
    rfl
  · exact absurd refused valid

theorem single_error_iff (valid : ¬ Invalid r) :
    (∃ err, single enforcer at_ stores r = .error err) ↔
      unsettled r = true ∧ enforcer (current at_ stores r) r = none := by
  rw [single_valid valid, answer]
  cases asked : unsettled r with
  | false => simp
  | true => cases enforcer (current at_ stores r) r <;> simp

theorem single_ok_iff (valid : ¬ Invalid r) {allowed : Bool} :
    single enforcer at_ stores r = .ok allowed ↔
      answer (enforcer (current at_ stores r)) r = some allowed := by
  rw [single_valid valid]
  cases answer (enforcer (current at_ stores r)) r <;> simp

theorem answer_eq_none_iff {enforcer : Request → Option Bool} :
    answer enforcer r = none ↔ unsettled r = true ∧ enforcer r = none := by
  rw [answer]
  cases unsettled r <;> simp

end Single

/--
A batch agrees with its requests made alone in the same state if and only if
the enforcer answers each request that it is asked with the expired roles of
its subject as without them, or some request is invalid, or the enforcer fails
on some request either way.
-/
theorem enforceBatch_agrees_iff (enforcer : Finset Grouping → Request → Option Bool)
    (batchEnforce : Finset Grouping → List Request → Option (List Bool)) (at_ : Moment)
    (stores : Stores) (reqs : List Request)
    (batched : ∀ groupings reqs, batchEnforce groupings reqs = reqs.mapM (enforcer groupings)) :
    Agrees (single enforcer at_ stores) reqs (enforceBatch batchEnforce reqs stores) ↔
      Unaffected enforcer at_ stores reqs := by
  by_cases invalid : ∃ r ∈ reqs, Invalid r
  · refine iff_of_true ?_ (.inl invalid)
    rw [enforceBatch_invalid invalid]
    obtain ⟨r, member, refused⟩ := invalid
    exact ⟨iff_of_true ⟨_, rfl⟩ ⟨r, member, _, single_invalid refused⟩, by simp⟩
  · have valid : ∀ r ∈ reqs, ¬ Invalid r := fun r member refused => invalid ⟨r, member, refused⟩
    have aloneFails : (∃ r ∈ reqs, ∃ err, single enforcer at_ stores r = .error err) ↔
        ∃ r ∈ reqs, unsettled r = true ∧ enforcer (current at_ stores r) r = none :=
      exists_congr fun r => and_congr_right fun member => single_error_iff (valid r member)
    rw [enforceBatch_valid batched valid, Unaffected, or_iff_right invalid]
    cases answered : reqs.mapM (answer (enforcer stores.groupings)) with
    | none =>
      -- the batch fails, and has to fail alone too
      obtain ⟨r, member, failed⟩ := mapM_eq_none_iff.mp answered
      have failing := answer_eq_none_iff.mp failed
      constructor
      · intro agrees
        exact .inl ⟨⟨r, member, failing⟩, aloneFails.mp (agrees.error.mp ⟨_, rfl⟩)⟩
      · intro unaffected
        refine ⟨iff_of_true ⟨_, rfl⟩ (aloneFails.mpr ?_), by simp⟩
        rcases unaffected with ⟨-, fails⟩ | same
        · exact fails
        · exact ⟨r, member, failing.1, same r member failing.1 ▸ failing.2⟩
    | some results =>
      have succeeds : ¬ ∃ r ∈ reqs, unsettled r = true ∧ enforcer stores.groupings r = none := by
        rintro ⟨r, member, failing⟩
        have failed := mapM_eq_none_iff.mpr ⟨r, member, answer_eq_none_iff.mpr failing⟩
        rw [answered] at failed
        cases failed
      rw [or_iff_right fun both => succeeds both.1]
      have answers := mapM_eq_some_iff.mp answered
      constructor
      · intro agrees r member asked
        obtain ⟨allowed, now, alone⟩ :=
          exists_of_forall₂ answers (agrees.answers results rfl) r member
        rw [single_ok_iff (valid r member), answer, if_pos asked] at alone
        rw [answer, if_pos asked] at now
        rw [now, alone]
      · intro same
        have alike : ∀ r ∈ reqs, answer (enforcer stores.groupings) r =
            answer (enforcer (current at_ stores r)) r := by
          intro r member
          cases asked : unsettled r with
          | false => rw [answer, answer, asked]; rfl
          | true => rw [answer, answer, if_pos asked, if_pos asked, same r member asked]
        refine ⟨iff_of_false (by simp) ?_, ?_⟩
        · rw [aloneFails]
          rintro ⟨r, member, asked, failed⟩
          exact succeeds ⟨r, member, asked, (same r member asked).trans failed⟩
        · intro others eq
          obtain rfl := Except.ok.inj eq
          exact forall₂_imp_of_mem answers fun r member allowed now =>
            (single_ok_iff (valid r member)).mpr ((alike r member).symm.trans now)

/-! ## An expired role -/

/-- The role expired at 5. -/
def expired : Stores where
  groupings := {accountant}
  rows := ⟨[{ granted with expiresAt := some 5 }], by simp⟩

/-- A request at 10 whose connection sees every row. -/
def later : Moment := ⟨⟨true, none⟩, 10, fun _ _ => false⟩

def posting : Request := ⟨"tenant:u-1", "t-7", "finance_journal_entry", "create"⟩

/-- The batch still grants what the expired role granted, and a single request does not. -/
theorem expired_role_in_batch :
    enforceBatch (fun groupings reqs => reqs.mapM (libraries.enforcer groupings)) [posting]
      expired = .ok [true] ∧
    single libraries.enforcer later expired posting = .ok false ∧
    ¬ Agrees (single libraries.enforcer later expired) [posting]
      (enforceBatch (fun groupings reqs => reqs.mapM (libraries.enforcer groupings)) [posting]
        expired) := by
  have batch : enforceBatch (fun groupings reqs => reqs.mapM (libraries.enforcer groupings))
      [posting] expired = .ok [true] := by decide +kernel
  have alone : single libraries.enforcer later expired posting = .ok false := by decide +kernel
  refine ⟨batch, alone, fun agrees => ?_⟩
  have answered := agrees.answers [true] batch
  rw [List.forall₂_cons, alone] at answered
  simp at answered

/-- Without an expired role they agree. -/
theorem held_role_in_batch :
    Agrees (single libraries.enforcer later held) [posting]
      (enforceBatch (fun groupings reqs => reqs.mapM (libraries.enforcer groupings)) [posting]
        held) := by
  refine (enforceBatch_agrees_iff libraries.enforcer _ later held [posting]
    (fun _ _ => rfl)).mpr (.inr (.inr fun r member _ => ?_))
  obtain rfl := List.mem_singleton.mp member
  decide +kernel

end ErpFinance.Iam.RoleAssignments
