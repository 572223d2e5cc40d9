import ErpFinance.Library.Stateful
import ErpFinance.Library.Text
import ErpFinance.Service.Reconciliation

/-!
# Reconciliation of journal entries

`ReconcileEntries` and `UnreconcileEntries` of the transaction-entry service over
the reconciliation columns.  The statement that marks an entry selects it only
under a posted transaction and reports no error when it selects nothing; the
statement that would clear a mark does not exist.  A batch runs in one
transaction only in a service that has been given a runner.
-/

namespace ErpFinance.Service

open Domain Library
open Repository (Caller Error)

namespace EntryReconciliation

/-! ## The store -/

/-- A live row of `finance_transaction_entries`. -/
structure EntryRow extends Reconciliation.EntryReconciliation where
  tenantID : Uuid
  transactionID : Uuid

instance : Keyed EntryRow Uuid := ⟨fun row => row.id⟩

@[simp] theorem EntryRow.key_eq (row : EntryRow) : Keyed.key row = row.id := rfl

structure Store where
  entries : Table EntryRow
  /-- The headers, deleted ones too: the marking statement does not leave them out. -/
  transactions : Table Transaction

def EntryRow.markReconciled (entry : EntryRow) (now : Time) (reconciliationRef : String) :
    EntryRow :=
  { entry with
    reconciled := true
    reconciledDate := some now
    reconciliationReference := some reconciliationRef }

def Store.posted (s : Store) (row : EntryRow) : Bool :=
  (s.transactions.get? row.transactionID).any (fun t => t.transactionStatus = .posted)

/-- The row with the columns `MarkEntriesReconciled` sets. -/
def EntryRow.stamped (row : EntryRow) (reconciledDate : Time)
    (reconciliationReference : Option String) : EntryRow :=
  { row with
    reconciled := true
    reconciledDate := Repository.Database.dateColumn (some reconciledDate)
    reconciliationReference := reconciliationReference }

/-- What `MarkEntriesReconciled` makes of a row. -/
def Store.markRow (s : Store) (tenant : Uuid) (reconciledDate : Time)
    (reconciliationReference : Option String) (entryIDs : List Uuid) (row : EntryRow) : EntryRow :=
  if row.id ∈ entryIDs ∧ row.tenantID = tenant ∧ s.posted row then
    row.stamped reconciledDate reconciliationReference
  else row

def Store.markEntriesReconciled (s : Store) (tenant : Uuid) (reconciledDate : Time)
    (reconciliationReference : Option String) (entryIDs : List Uuid) : Store :=
  { s with
    entries := s.entries.mapRows
      (s.markRow tenant reconciledDate reconciliationReference entryIDs) (by
        intro row
        unfold markRow
        split
        all_goals rfl) }

/-! ## The repository -/

/-- `TxRunner`: commit on success, rollback on any error; beginning or committing may fail. -/
structure TxRunner where
  fails : Option Error := none

/-- One call of the service: its caller, the runner of the service if it has one, and for
the entry at each position the clock and whether its repository calls fail. -/
structure Call where
  caller : Caller
  txRunner : Option TxRunner := none
  now : Nat → Time
  getFails : Nat → Bool := fun _ => false
  updateFails : Nat → Bool := fun _ => false

variable (call : Call)

/-- The entry a statement of the call finds under an identifier. -/
def Call.entry? (s : Store) (entryID : Uuid) : Option EntryRow :=
  call.caller.getTenantID.bind fun tenant =>
    (s.entries.get? entryID).filter (·.tenantID = tenant)

def getEntryByID (position : Nat) (s : Store) (entryID : Uuid) : Except Error EntryRow :=
  match call.caller.getTenantID with
  | none => .error .tenantMissing
  | some _ =>
    if call.getFails position then .error .databaseFailure
    else match call.entry? s entryID with
      | none => .error .transactionNotFound
      | some entry => .ok entry

def updateReconciliationStatus (position : Nat) (entryID : Uuid) (reconciled : Bool)
    (reconciledDate : Option Time) (reconciliationRef : Option String) :
    Stateful Store Error Unit := fun s =>
  if !reconciled then (.error (.plain "unreconcile not yet implemented (TASK-029)"), s)
  else match call.caller.getTenantID with
    | none => (.error .tenantMissing, s)
    | some tenant =>
      if call.updateFails position then (.error .databaseFailure, s)
      else (.ok (), s.markEntriesReconciled tenant
        (reconciledDate.getD (call.now position)) reconciliationRef [entryID])

/-! ## The service -/

/-- One round of the loop of `ReconcileEntries`. -/
def reconcileEntry (reconciliationRef : String) (position : Nat) (entryID : Uuid) :
    Stateful Store Error Unit := fun s =>
  match getEntryByID call position s entryID with
  | .error err =>
    (.error (.wrapped ("reconciliation aborted: entry " ++ entryID.string ++ " not found") err), s)
  | .ok entry =>
    if entry.reconciled then
      match entry.reconciliationReference with
      | some existing =>
        if existing ≠ reconciliationRef then
          (.error (.plain ("reconciliation ref mismatch for entry " ++ entryID.string ++
            ": already reconciled under " ++ quoted existing ++ ", incoming " ++
            quoted reconciliationRef)), s)
        else (.ok (), s)
      | none => (.ok (), s)
    else
      let marked := entry.markReconciled (call.now position) reconciliationRef
      match updateReconciliationStatus call position entryID true marked.reconciledDate
          (some reconciliationRef) s with
      | (.error err, s) =>
        (.error (.wrapped ("failed to reconcile entry " ++ entryID.string) err), s)
      | (.ok _, s) => (.ok (), s)

section Statements

variable {call} {s : Store} {tenant entryID other : Uuid} {row : EntryRow} {date : Time}
  {ref : Option String} {position : Nat} {entryIDs : List Uuid}

theorem Call.entry?_eq_some_iff :
    call.entry? s entryID = some row ↔
      call.caller.getTenantID = some row.tenantID ∧ s.entries.get? entryID = some row := by
  simp only [Call.entry?, Option.bind_eq_some_iff, Option.filter_eq_some_iff, decide_eq_true_eq]
  constructor
  · rintro ⟨_, tenantEq, found, rfl⟩
    exact ⟨tenantEq, found⟩
  · rintro ⟨tenantEq, found⟩
    exact ⟨_, tenantEq, found, rfl⟩

theorem get?_markEntriesReconciled :
    (s.markEntriesReconciled tenant date ref entryIDs).entries.get? entryID =
      (s.entries.get? entryID).map (s.markRow tenant date ref entryIDs) := by
  rw [Store.markEntriesReconciled, Table.get?_mapRows]

theorem entry?_mark_of_ne (different : entryID ≠ other) :
    call.entry? (s.markEntriesReconciled tenant date ref [other]) entryID =
      call.entry? s entryID := by
  have same : (s.markEntriesReconciled tenant date ref [other]).entries.get? entryID =
      s.entries.get? entryID := by
    rw [get?_markEntriesReconciled]
    cases found : s.entries.get? entryID with
    | none => rfl
    | some row =>
      have rowID : row.id = entryID := Table.key_of_get? found
      simp [Store.markRow, rowID, different]
  rw [Call.entry?, Call.entry?, same]

theorem entry?_mark_self (found : call.entry? s entryID = some row) (posted : s.posted row = true)
    (caller : call.caller.getTenantID = some tenant) :
    call.entry? (s.markEntriesReconciled tenant date ref [entryID]) entryID =
      some (row.stamped date ref) := by
  obtain ⟨owner, stored⟩ := Call.entry?_eq_some_iff.mp found
  have tenantEq : row.tenantID = tenant := Option.some.inj (owner.symm.trans caller)
  have rowID : row.id = entryID := Table.key_of_get? stored
  apply Call.entry?_eq_some_iff.mpr
  refine ⟨owner, ?_⟩
  rw [get?_markEntriesReconciled, stored]
  simp [Store.markRow, rowID, tenantEq, posted]

/-- Under a transaction that is not posted the statement selects nothing. -/
theorem mark_eq_self (found : call.entry? s entryID = some row) (posted : s.posted row = false) :
    s.markEntriesReconciled tenant date ref [entryID] = s := by
  obtain ⟨-, stored⟩ := Call.entry?_eq_some_iff.mp found
  have unchanged : ∀ held ∈ s.entries.rows, s.markRow tenant date ref [entryID] held = held := by
    intro held member
    apply if_neg
    rintro ⟨listed, -, heldPosted⟩
    have heldID : held.id = entryID := List.mem_singleton.mp listed
    rw [Table.eq_of_get? stored member heldID, posted] at heldPosted
    cases heldPosted
  have entries : (s.markEntriesReconciled tenant date ref [entryID]).entries = s.entries :=
    Table.ext_rows ((List.map_congr_left unchanged).trans (List.map_id' _))
  cases s
  exact congrArg (fun entries => Store.mk entries _) entries

/-! ## The rounds of the two loops -/

theorem getEntryByID_eq_ok_iff :
    getEntryByID call position s entryID = .ok row ↔
      call.getFails position = false ∧ call.entry? s entryID = some row := by
  cases tenantEq : call.caller.getTenantID with
  | none => simp [getEntryByID, Call.entry?, tenantEq]
  | some tenant =>
    cases fails : call.getFails position with
    | true => simp [getEntryByID, tenantEq, fails]
    | false =>
      cases found : call.entry? s entryID with
      | none => simp [getEntryByID, tenantEq, fails, found]
      | some entry => simp [getEntryByID, tenantEq, fails, found]

end Statements

/-! ## The rounds of `ReconcileEntries` -/

def Blocked (reconciliationRef : String) (position : Nat) (entryID : Uuid) (s : Store) : Prop :=
  call.getFails position = true ∨ call.entry? s entryID = none ∨
    ∃ row, call.entry? s entryID = some row ∧
      (row.reconciled = true ∧
          (∃ existing, row.reconciliationReference = some existing ∧
            existing ≠ reconciliationRef) ∨
        row.reconciled = false ∧ call.updateFails position = true)

section Rounds

variable {call} {s : Store} {entryID tenant : Uuid} {row : EntryRow} {ref : String}
  {position : Nat}

theorem exists_entry_of_not_blocked (passes : ¬Blocked call ref position entryID s) :
    ∃ row, call.entry? s entryID = some row ∧
      getEntryByID call position s entryID = .ok row := by
  have found : call.entry? s entryID ≠ none := fun missing => passes (.inr (.inl missing))
  obtain ⟨row, found⟩ := Option.ne_none_iff_exists'.mp found
  have runs : call.getFails position = false :=
    Bool.eq_false_iff.mpr fun fails => passes (.inl fails)
  exact ⟨row, found, getEntryByID_eq_ok_iff.mpr ⟨runs, found⟩⟩

theorem reconcileEntry_passes (passes : ¬Blocked call ref position entryID s) :
    ∃ row, call.entry? s entryID = some row ∧
      (row.reconciled = true ∧
          reconcileEntry call ref position entryID s = (.ok (), s) ∨
        row.reconciled = false ∧ call.caller.getTenantID = some row.tenantID ∧
          reconcileEntry call ref position entryID s =
            (.ok (), s.markEntriesReconciled row.tenantID (call.now position) (some ref)
              [entryID])) := by
  obtain ⟨row, found, reads⟩ := exists_entry_of_not_blocked passes
  refine ⟨row, found, ?_⟩
  cases reconciled : row.reconciled with
  | true =>
    refine .inl ⟨rfl, ?_⟩
    cases reference : row.reconciliationReference with
    | none => simp [reconcileEntry, reads, reconciled, reference]
    | some existing =>
      have same : existing = ref := by
        by_contra different
        exact passes (.inr (.inr ⟨row, found, .inl ⟨reconciled, existing, reference,
          different⟩⟩))
      simp [reconcileEntry, reads, reconciled, reference, same]
  | false =>
    obtain ⟨caller, -⟩ := Call.entry?_eq_some_iff.mp found
    have runs : call.updateFails position = false :=
      Bool.eq_false_iff.mpr fun fails =>
        passes (.inr (.inr ⟨row, found, .inr ⟨reconciled, fails⟩⟩))
    refine .inr ⟨rfl, caller, ?_⟩
    simp [reconcileEntry, reads, reconciled, updateReconciliationStatus, caller, runs,
      EntryRow.markReconciled]

end Rounds

/-! ## The loop of `ReconcileEntries` -/

/-- The entry is open and the marking statement selects it. -/
def Call.Markable (s : Store) (entryID : Uuid) : Prop :=
  ∃ row, call.entry? s entryID = some row ∧ row.reconciled = false ∧ s.posted row = true

/-- What the rounds over the entries done so far have made of a store. -/
structure Advanced (reconciliationRef : String) (done : List Uuid) (before after : Store) :
    Prop where
  transactions : after.transactions = before.transactions
  marked : ∀ entryID ∈ done, ∀ row, call.entry? before entryID = some row →
    row.reconciled = false → before.posted row = true →
      ∃ date, call.entry? after entryID = some (row.stamped date (some reconciliationRef))
  kept : ∀ entryID, ¬(entryID ∈ done ∧ call.Markable before entryID) →
    call.entry? after entryID = call.entry? before entryID
  unchanged : (∀ entryID ∈ done, ¬call.Markable before entryID) → after = before

section Loop

variable {call} {s s' : Store} {entryID : Uuid} {row : EntryRow} {ref : String}
  {position : Nat} {done entryIDs : List Uuid}

theorem Advanced.start (s : Store) : Advanced call ref [] s s where
  transactions := rfl
  marked := fun _ member => absurd member List.not_mem_nil
  kept := fun _ _ => rfl
  unchanged := fun _ => rfl

theorem Advanced.posted_eq (advanced : Advanced call ref done s s') (row : EntryRow) :
    s'.posted row = s.posted row := by
  rw [Store.posted, Store.posted, advanced.transactions]

/-- An entry that is open after some rounds has not been touched by them. -/
theorem Advanced.untouched (advanced : Advanced call ref done s s')
    (found : call.entry? s' entryID = some row) (pending : row.reconciled = false) :
    ¬(entryID ∈ done ∧ call.Markable s entryID) := by
  rintro ⟨member, old, foundOld, openOld, posted⟩
  obtain ⟨date, stamped⟩ := advanced.marked entryID member old foundOld openOld posted
  have same : old.stamped date (some ref) = row := Option.some.inj (stamped.symm.trans found)
  rw [← same] at pending
  cases pending

/-- A round that leaves the store alone, because there is nothing left to mark. -/
theorem Advanced.skip (advanced : Advanced call ref done s s')
    (nothing : call.Markable s entryID → entryID ∈ done) :
    Advanced call ref (done ++ [entryID]) s s' where
  transactions := advanced.transactions
  marked := by
    intro other member row found pending posted
    apply advanced.marked other _ row found pending posted
    rcases List.mem_append.mp member with earlier | this
    · exact earlier
    · rw [List.mem_singleton.mp this] at found ⊢
      exact nothing ⟨row, found, pending, posted⟩
  kept := by
    intro other outside
    apply advanced.kept
    rintro ⟨member, markable⟩
    exact outside ⟨List.mem_append_left _ member, markable⟩
  unchanged := fun none =>
    advanced.unchanged fun other member => none other (List.mem_append_left _ member)

/-- A round that marks an open entry of a posted transaction. -/
theorem Advanced.mark (advanced : Advanced call ref done s s')
    (found : call.entry? s' entryID = some row) (pending : row.reconciled = false)
    (posted : s'.posted row = true) (date : Time) :
    Advanced call ref (done ++ [entryID]) s
      (s'.markEntriesReconciled row.tenantID date (some ref) [entryID]) := by
  obtain ⟨caller, -⟩ := Call.entry?_eq_some_iff.mp found
  have foundBefore : call.entry? s entryID = some row :=
    (advanced.kept entryID (advanced.untouched found pending)).symm.trans found
  have markable : call.Markable s entryID :=
    ⟨row, foundBefore, pending, by rw [← advanced.posted_eq, posted]⟩
  have listed : entryID ∈ done ++ [entryID] := by simp
  refine ⟨advanced.transactions, ?_, ?_, ?_⟩
  · intro other member old foundOld openOld postedOld
    by_cases same : other = entryID
    · subst same
      obtain rfl : row = old := Option.some.inj (foundBefore.symm.trans foundOld)
      exact ⟨date, entry?_mark_self found posted caller⟩
    · have earlier : other ∈ done := by simpa [same] using member
      rw [entry?_mark_of_ne same]
      exact advanced.marked other earlier old foundOld openOld postedOld
  · intro other outside
    have different : other ≠ entryID := by
      rintro rfl
      exact outside ⟨listed, markable⟩
    rw [entry?_mark_of_ne different]
    apply advanced.kept
    rintro ⟨member, markableOther⟩
    exact outside ⟨List.mem_append_left _ member, markableOther⟩
  · intro none
    exact absurd markable (none entryID listed)

/-- A round that passes goes on from what the rounds before it have made. -/
theorem Advanced.round (advanced : Advanced call ref done s s')
    (passes : ¬Blocked call ref position entryID s') :
    ∃ next, reconcileEntry call ref position entryID s' = (.ok (), next) ∧
      Advanced call ref (done ++ [entryID]) s next := by
  obtain ⟨row, found, ⟨reconciled, runs⟩ | ⟨pending, caller, runs⟩⟩ :=
    reconcileEntry_passes passes
  · refine ⟨s', runs, advanced.skip ?_⟩
    intro markable
    by_contra fresh
    obtain ⟨old, foundOld, openOld, -⟩ := markable
    have same := advanced.kept entryID fun both => fresh both.1
    rw [found, foundOld] at same
    obtain rfl : row = old := Option.some.inj same
    rw [reconciled] at openOld
    cases openOld
  · refine ⟨_, runs, ?_⟩
    cases posted : s'.posted row with
    | true => exact advanced.mark found pending posted _
    | false =>
      rw [mark_eq_self found posted]
      apply advanced.skip
      rintro ⟨old, foundOld, -, postedOld⟩
      have same := advanced.kept entryID (advanced.untouched found pending)
      rw [found, foundOld] at same
      obtain rfl : row = old := Option.some.inj same
      rw [← advanced.posted_eq, posted] at postedOld
      cases postedOld

end Loop

/-! ## All or nothing -/

section Batches

variable {call} {s : Store} {ref : String} {entryIDs : List Uuid} {n : Nat}

end Batches

section Outcomes

variable {call} {undo : Call} {s after : Store} {ref : String} {entryIDs done : List Uuid}

end Outcomes

namespace Example

def tenant : Uuid := 1

/-- One posted transaction with one open entry, number 10. -/
def store : Store where
  entries := ⟨[{ id := 10, tenantID := tenant, transactionID := 100 }], by decide⟩
  transactions := ⟨[{ id := 100, tenantID := tenant, transactionStatus := .posted }], by decide⟩

/-- The service as `NewService` wires it: without a runner. -/
def wired : Call where
  caller := { tenantID := some tenant }
  now := fun _ => Time.zero

end Example

end EntryReconciliation

end ErpFinance.Service
