import ErpFinance.Service.Reconciliation
import Mathlib.Algebra.Order.BigOperators.Group.List

/-!
# Control of reconciliations

The counts of a statement against its lines, the entries that lines are matched
to, and what a closed statement keeps.  Nothing in the store ties a line to the
statement an operation names or an entry to one line, and the counts are kept
by updates of their own; the conditions on the operations are what is left to
the caller.
-/

namespace ErpFinance.Service

open Domain Library

namespace Reconciliation

/-! ## Consistent stores -/

def BankStatement.Closed (stmt : BankStatement) : Prop :=
  stmt.status = .completed ∨ stmt.status = .voided

instance (stmt : BankStatement) : Decidable stmt.Closed :=
  inferInstanceAs (Decidable (_ ∨ _))

/-- One for a line of the statement in the given state. -/
def tally (statementID : Uuid) (reconciled : Bool) (line : BankStatementLine) : Int :=
  if line.statementID = statementID ∧ line.isReconciled = reconciled then 1 else 0

def linesIn (s : Store) (statementID : Uuid) (reconciled : Bool) : Int :=
  s.lines.sum (tally statementID reconciled)

/-- The count a statement carries of such lines. -/
def BankStatement.count (stmt : BankStatement) (reconciled : Bool) : Int :=
  if reconciled then stmt.matchedCount else stmt.unmatchedCount

structure Consistent (s : Store) : Prop where
  counted : ∀ stmt ∈ s.statements.rows, ∀ reconciled,
    stmt.count reconciled = linesIn s stmt.id reconciled
  exclusive : ∀ line ∈ s.lines.rows, ∀ other ∈ s.lines.rows, ∀ entry,
    line.matchedEntryID = some entry → other.matchedEntryID = some entry → line = other
  /-- a line is reconciled when it names an entry -/
  flagged : ∀ line ∈ s.lines.rows, line.isReconciled = line.matchedEntryID.isSome
  /-- a line belongs to a stored statement of its tenant -/
  owned : ∀ line ∈ s.lines.rows, ∃ stmt, s.statements.get? line.statementID = some stmt ∧
    stmt.tenantID = line.tenantID

def ClosedKept (s after : Store) : Prop :=
  ∀ stmt ∈ s.statements.rows, stmt.Closed → stmt ∈ after.statements.rows ∧
    ∀ line, line.statementID = stmt.id → (line ∈ after.lines.rows ↔ line ∈ s.lines.rows)

theorem ClosedKept.trans {s middle after : Store} (first : ClosedKept s middle)
    (second : ClosedKept middle after) : ClosedKept s after := by
  intro stmt stored closed
  obtain ⟨kept, lines⟩ := first stmt stored closed
  obtain ⟨keptAgain, linesAgain⟩ := second stmt kept closed
  refine ⟨keptAgain, ?_⟩
  intro line belongs
  rw [linesAgain line belongs, lines line belongs]

/-! ## The conditions of a step -/

/-- An import stores no lines: it has none, or one of its calls refuses them. -/
def ImportGuard (env : ReconEnv) (s : Store) (stmt : BankStatement)
    (lines : List BankStatementLine) : Prop :=
  lines = [] ∨ ∀ tenant created filled, env.caller.getTenantID = some tenant →
    (preparedStatement tenant stmt lines).validate = [] →
    createStatement env s (preparedStatement tenant stmt lines) = .ok created →
    createLines env created.1 (preparedLines tenant created.2.id lines) ≠ .ok filled

/--
A line that is matched belongs to the named statement, its entry is matched to
no line yet, and the counter update succeeds.
-/
def MatchGuard (env : ReconEnv) (s : Store) (statementID lineID entryID byUserID : Uuid) : Prop :=
  ∀ stmt after, getStatementByID env s statementID = .ok stmt → ¬ stmt.Closed →
    storeMatch env s lineID entryID byUserID = .ok after →
    (∃ line ∈ s.lines.rows, line.id = lineID ∧ line.statementID = statementID) ∧
      (∀ other ∈ s.lines.rows, other.matchedEntryID ≠ some entryID) ∧
      env.fails .updateStatement = false

/--
A line that is unmatched is a matched line of the named statement, which is not
voided, and the counter update succeeds.
-/
def UnmatchGuard (env : ReconEnv) (s : Store) (statementID lineID : Uuid) : Prop :=
  ∀ stmt after, getStatementByID env s statementID = .ok stmt → stmt.status ≠ .completed →
    storeUnmatch env s lineID = .ok after →
    stmt.status ≠ .voided ∧
      (∃ line ∈ s.lines.rows, line.id = lineID ∧ line.statementID = statementID ∧
        line.isReconciled = true) ∧
      env.fails .updateStatement = false

/-- Only an open statement is voided. -/
def VoidGuard (env : ReconEnv) (s : Store) (statementID : Uuid) : Prop :=
  ∀ stmt, getStatementByID env s statementID = .ok stmt →
    env.fails .updateStatement = false → ¬ stmt.Closed

def Guard (s : Store) : Operation → Prop
  | .importStatement env stmt lines => ImportGuard env s stmt lines
  | .matchLine env statementID lineID entryID byUserID =>
    MatchGuard env s statementID lineID entryID byUserID
  | .unmatchLine env statementID lineID => UnmatchGuard env s statementID lineID
  | .completeReconciliation .. => True
  | .voidStatement env statementID => VoidGuard env s statementID

/-! ## What a step does -/

/-- What a guarded operation through a statement does to the store. -/
inductive Effect (s : Store) (target : Option Uuid) : Store → Prop where
  | nothing : Effect s target s
  | opened {row : BankStatement} (fresh : s.statements.get? row.id = none)
      (zero : ∀ reconciled, row.count reconciled = 0) :
      Effect s target { s with statements := s.statements.insert row }
  | restated {row new : BankStatement} (entries : List EntryReconciliation)
      (found : s.statements.get? new.id = some row) (isOpen : ¬ row.Closed)
      (tenant : new.tenantID = row.tenantID)
      (same : ∀ reconciled, new.count reconciled = row.count reconciled) :
      Effect s target { s with statements := s.statements.put new, entries := entries }
  | flipped {row new : BankStatement} {line changed : BankStatementLine}
      (found : s.statements.get? new.id = some row) (isOpen : ¬ row.Closed)
      (tenant : new.tenantID = row.tenantID)
      (foundLine : s.lines.get? changed.id = some line)
      (belongs : line.statementID = new.id) (through : target = some new.id)
      (sameStatement : changed.statementID = line.statementID)
      (sameTenant : changed.tenantID = line.tenantID)
      (flag : changed.isReconciled = changed.matchedEntryID.isSome)
      (free : ∀ entry, changed.matchedEntryID = some entry →
        ∀ other ∈ s.lines.rows, other.matchedEntryID ≠ some entry)
      (moves : ∀ reconciled, new.count reconciled = row.count reconciled +
        (tally new.id reconciled changed - tally new.id reconciled line)) :
      Effect s target
        { s with statements := s.statements.put new, lines := s.lines.put changed }

section Effects

variable {s after : Store} {target : Option Uuid}

variable {line : BankStatementLine}

theorem owned_put (consistent : Consistent s) {row new : BankStatement}
    (found : s.statements.get? new.id = some row) (tenant : new.tenantID = row.tenantID)
    (member : line ∈ s.lines.rows) :
    ∃ stmt, (s.statements.put new).get? line.statementID = some stmt ∧
      stmt.tenantID = line.tenantID := by
  obtain ⟨owner, stored, same⟩ := consistent.owned line member
  by_cases here : line.statementID = new.id
  · rw [here, found] at stored
    cases stored
    refine ⟨new, ?_, tenant.trans same⟩
    rw [here]
    exact Table.get?_put_self found
  · exact ⟨owner, by rw [Table.get?_put_of_ne here, stored], same⟩

theorem linesIn_put {changed line : BankStatementLine} {statements : Table BankStatement}
    {entries : List EntryReconciliation} (found : s.lines.get? changed.id = some line)
    (id : Uuid) (reconciled : Bool) :
    linesIn ⟨statements, s.lines.put changed, entries⟩ id reconciled =
      linesIn s id reconciled + (tally id reconciled changed - tally id reconciled line) :=
  Table.sum_put _ found

theorem linesIn_eq_zero (consistent : Consistent s) {id : Uuid}
    (absent : s.statements.get? id = none) (reconciled : Bool) : linesIn s id reconciled = 0 := by
  apply Table.sum_eq_zero
  intro line member
  obtain ⟨owner, stored, -⟩ := consistent.owned line member
  have other : line.statementID ≠ id := by
    intro same
    rw [same, absent] at stored
    cases stored
  simp [tally, other]

theorem Effect.consistent (effect : Effect s target after) (consistent : Consistent s) :
    Consistent after := by
  cases effect with
  | nothing => exact consistent
  | @opened row fresh zero =>
    have cases_of_mem : ∀ stmt ∈ (s.statements.insert row).rows,
        stmt ∈ s.statements.rows ∨ stmt = row := by
      intro stmt member
      rw [Table.rows_insert fresh] at member
      simpa using member
    constructor
    · intro stmt member reconciled
      rcases cases_of_mem stmt member with stored | rfl
      · exact consistent.counted stmt stored reconciled
      · rw [zero]
        exact (linesIn_eq_zero consistent fresh reconciled).symm
    · exact consistent.exclusive
    · exact consistent.flagged
    · intro line member
      obtain ⟨owner, stored, same⟩ := consistent.owned line member
      refine ⟨owner, ?_, same⟩
      show (s.statements.insert row).get? _ = _
      rw [Table.get?_insert fresh, if_neg ?_, stored]
      intro isNew
      rw [isNew] at stored
      exact absurd (stored.symm.trans fresh) (by simp)
  | @restated row new entries found isOpen tenant same =>
    have stored := Table.mem_of_get? found
    have sameID : row.id = new.id := Table.key_of_get? found
    constructor
    · intro stmt member reconciled
      rcases Table.mem_put member with rfl | ⟨old, _⟩
      · rw [same, consistent.counted row stored, sameID]
        rfl
      · exact consistent.counted stmt old reconciled
    · exact consistent.exclusive
    · exact consistent.flagged
    · intro line member
      exact owned_put consistent found tenant member
  | @flipped row new line changed found isOpen tenant foundLine belongs through sameStatement
      sameTenant flag free moves =>
      have stored := Table.mem_of_get? found
      have sameID : row.id = new.id := Table.key_of_get? found
      have storedLine := Table.mem_of_get? foundLine
      -- the line counts for its own statement alone
      have elsewhere : ∀ id reconciled, id ≠ new.id →
          tally id reconciled changed - tally id reconciled line = 0 := by
        intro id reconciled other
        simp [tally, sameStatement, belongs, Ne.symm other]
      constructor
      · intro stmt member reconciled
        show _ = linesIn _ _ _
        rw [linesIn_put foundLine]
        rcases Table.mem_put member with rfl | ⟨old, different⟩
        · rw [moves, consistent.counted row stored, sameID]
        · rw [elsewhere stmt.id reconciled different, add_zero]
          exact consistent.counted stmt old reconciled
      · intro first memberFirst second memberSecond entry namesFirst namesSecond
        rcases Table.mem_put memberFirst with rfl | ⟨oldFirst, _⟩
        · rcases Table.mem_put memberSecond with rfl | ⟨oldSecond, _⟩
          · rfl
          · exact absurd namesSecond (free entry namesFirst second oldSecond)
        · rcases Table.mem_put memberSecond with rfl | ⟨oldSecond, _⟩
          · exact absurd namesFirst (free entry namesSecond first oldFirst)
          · exact consistent.exclusive first oldFirst second oldSecond entry namesFirst namesSecond
      · intro other member
        rcases Table.mem_put member with rfl | ⟨old, _⟩
        · exact flag
        · exact consistent.flagged other old
      · intro other member
        rcases Table.mem_put member with rfl | ⟨old, _⟩
        · obtain ⟨owner, isOwner, same⟩ := owned_put consistent found tenant storedLine
          rw [sameStatement, sameTenant]
          exact ⟨owner, isOwner, same⟩
        · exact owned_put consistent found tenant old

end Effects

section Steps

variable {env : ReconEnv} {s : Store} {statementID : Uuid}

variable {stmt : BankStatement}

end Steps

section Runs

variable {start s : Store}

end Runs

/-! ## A sample store -/

def bankClerk : ReconEnv :=
  { caller := { tenantID := some 7 }, now := ⟨2025, 3, 31, 0, by decide⟩, statementID := 3,
    lineID := fun index => 13 + index }

/-- Two lines of one statement, and another statement without lines. -/
def bankStore : Store where
  statements := ⟨[
    { id := 1, tenantID := 7, accountID := 9, statementReference := "MAR", currencyCode := "USD",
      unmatchedCount := 2 },
    { id := 2, tenantID := 7, accountID := 9, statementReference := "APR", currencyCode := "USD" }],
    by decide⟩
  lines := ⟨[{ id := 11, statementID := 1, tenantID := 7 },
    { id := 12, statementID := 1, tenantID := 7 }], by decide⟩
  entries := [{ id := 5 }]

def matchFirst : Operation := .matchLine bankClerk 1 11 5 31

def completed : Store :=
  step (step bankStore matchFirst) (.completeReconciliation bankClerk 1 31)

/-- A statement with one line. -/
def imported : Store :=
  step bankStore (.importStatement bankClerk
    { accountID := 9, statementReference := "MAY", statementDate := ⟨2025, 5, 31, 0, by decide⟩,
      currencyCode := "USD" } [{ description := "Deposit" }])

def voided : Store := step (step bankStore matchFirst) (.voidStatement bankClerk 1)

end Reconciliation

end ErpFinance.Service
