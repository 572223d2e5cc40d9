import ErpFinance.Domain.Basics
import ErpFinance.Library.Stateful

/-!
# Sequences of an entity

A row holds the next number of one kind of document in one fiscal year.  The
statement that gives the next number reads the row and does not count it up,
and the one that resets a sequence writes all rows of the entity's year.
-/

namespace ErpFinance.Entities.Sequences

open Domain Library

/-! ## The table -/

/-- A row of `entitystate`. -/
structure EntityState where
  tenantID : Uuid
  entityID : Uuid
  fiscalYear : Option Int
  key : String
  sequence : Int
  deleted : Bool
  /-- `VARCHAR(10)`. -/
  short : key.length ≤ 10
  positive_sequence : 0 < sequence

/-- `unique_tenant_entity_key_fy`; rows without a year are never equal. -/
def EntityState.Distinct (a b : EntityState) : Prop :=
  a.tenantID = b.tenantID → a.entityID = b.entityID → a.key = b.key →
    a.fiscalYear = b.fiscalYear → a.fiscalYear = none

structure Database where
  rows : List EntityState
  unique : rows.Pairwise EntityState.Distinct

/-- A cast to `VARCHAR(10)` cuts the text. -/
def varchar10 (text : String) : String := String.ofList (text.toList.take 10)

/-! ## Requests -/

/-- `EntitySequenceRequest`, with the tenant of the connection. -/
structure Request where
  tenant : Option Uuid
  entityID : Uuid
  key : String
  fiscalYear : Int
deriving DecidableEq

inductive ConvertError where
  | overflow
  | underflow

def intToInt16 (v : Int) : Except ConvertError Int :=
  if v > 32767 then .error .overflow else if v < -32768 then .error .underflow else .ok v

inductive SequenceError where
  | invalidFiscalYear (err : ConvertError)
  | failedToGetNext

/-! ## Statements -/

/-- The `WHERE` of `GetNextSequenceNumber`. -/
def EntityState.selected (tenant : Option Uuid) (entityID : Uuid) (key : String)
    (fiscalYear : Option Int) (row : EntityState) : Bool :=
  row.entityID = entityID ∧ row.key = varchar10 key ∧ tenant = some row.tenantID ∧
    row.deleted = false ∧ (fiscalYear = none ∨ row.fiscalYear = fiscalYear)

/-- The first row of the answer; `FOR UPDATE` locks it for this statement alone. -/
def getNextSequenceNumber (db : Database) (tenant : Option Uuid) (entityID : Uuid) (key : String)
    (fiscalYear : Option Int) : Option Int :=
  (db.rows.find? (EntityState.selected tenant entityID key fiscalYear)).map EntityState.sequence

/-- The row after the reset of an entity's year. -/
def EntityState.reset (tenant : Option Uuid) (entityID : Uuid) (fiscalYear : Int)
    (row : EntityState) : EntityState :=
  if row.entityID = entityID ∧ row.fiscalYear = some fiscalYear ∧ tenant = some row.tenantID then
    { row with sequence := 1, positive_sequence := Int.one_pos }
  else row

theorem EntityState.reset_same (tenant : Option Uuid) (entityID : Uuid) (fiscalYear : Int)
    (row : EntityState) :
    (row.reset tenant entityID fiscalYear).tenantID = row.tenantID ∧
      (row.reset tenant entityID fiscalYear).entityID = row.entityID ∧
      (row.reset tenant entityID fiscalYear).fiscalYear = row.fiscalYear ∧
      (row.reset tenant entityID fiscalYear).key = row.key ∧
      (row.reset tenant entityID fiscalYear).deleted = row.deleted := by
  rw [reset]
  split <;> exact ⟨rfl, rfl, rfl, rfl, rfl⟩

def resetAllEntitySequences (db : Database) (tenant : Option Uuid) (entityID : Uuid)
    (fiscalYear : Int) : Database where
  rows := db.rows.map (EntityState.reset tenant entityID fiscalYear)
  unique := by
    refine List.pairwise_map.mpr (db.unique.imp fun {a b} distinct => ?_)
    obtain ⟨tenantA, entityA, yearA, keyA, -⟩ := a.reset_same tenant entityID fiscalYear
    obtain ⟨tenantB, entityB, yearB, keyB, -⟩ := b.reset_same tenant entityID fiscalYear
    rw [EntityState.Distinct, tenantA, tenantB, entityA, entityB, yearA, yearB, keyA, keyB]
    exact distinct

/-! ## Calls -/

def getNextSequence (r : Request) : Stateful Database SequenceError Int := fun db =>
  match intToInt16 r.fiscalYear with
  | .error err => (.error (.invalidFiscalYear err), db)
  | .ok year =>
    match getNextSequenceNumber db r.tenant r.entityID r.key (some year) with
    | none => (.error .failedToGetNext, db)
    | some sequence => (.ok sequence, db)

def resetSequence (r : Request) : Stateful Database SequenceError Unit := fun db =>
  match intToInt16 r.fiscalYear with
  | .error err => (.error (.invalidFiscalYear err), db)
  | .ok year => (.ok ⟨⟩, resetAllEntitySequences db r.tenant r.entityID year)

/-- A call is one statement, so that any interleaving is a list of calls. -/
inductive Call where
  | next (r : Request)
  | reset (r : Request)

def Call.step (db : Database) : Call → Database
  | .next r => (getNextSequence r db).2
  | .reset r => (resetSequence r db).2

/-- The database before the call at a place. -/
def before (db : Database) (calls : List Call) (place : Nat) : Database :=
  (calls.take place).foldl Call.step db

/-- The number that a request is given. -/
def number (db : Database) (r : Request) : Option Int := (getNextSequence r db).1.toOption

/-- The numbers of a sequence increase between its resets, and no reset changes another's. -/
structure Kept (db : Database) (calls : List Call) : Prop where
  increasing : ∀ i j r, i < j → calls[i]? = some (.next r) → calls[j]? = some (.next r) →
    (∀ k, i < k → k < j → calls[k]? ≠ some (.reset r)) →
    ∀ n m, number (before db calls i) r = some n → number (before db calls j) r = some m → n < m
  contained : ∀ i r, calls[i]? = some (.reset r) → ∀ other, other ≠ r →
    number ((Call.reset r).step (before db calls i)) other = number (before db calls i) other

/-! ## The row of a request -/

/-- The row is of the entity and the year. -/
def EntityState.Of (row : EntityState) (r : Request) : Prop :=
  intToInt16 r.fiscalYear = .ok r.fiscalYear ∧ row.entityID = r.entityID ∧
    row.fiscalYear = some r.fiscalYear ∧ r.tenant = some row.tenantID

/-- The row from which a request is answered. -/
def EntityState.Serves (row : EntityState) (r : Request) : Prop :=
  row.Of r ∧ row.key = varchar10 r.key ∧ row.deleted = false

/-- The other sequences that a reset covers stand at one already. -/
def Alone (db : Database) (r : Request) : Prop :=
  ∀ row ∈ db.rows, row.Of r → row.deleted = false →
    row.sequence = 1 ∨ (row.key = r.key ∧ r.key.length < 10)

/-- Between two requests for one number that exists the sequence is reset, and each reset finds the
other sequences that it covers at one. -/
structure Fits (db : Database) (calls : List Call) : Prop where
  renewed : ∀ (i j : Nat) (r : Request), i < j → calls[i]? = some (.next r) →
    calls[j]? = some (.next r) → (∃ row ∈ db.rows, row.Serves r) →
      ∃ k, i < k ∧ k < j ∧ calls[k]? = some (.reset r)
  alone : ∀ (i : Nat) (r : Request), calls[i]? = some (.reset r) → Alone (before db calls i) r

section Rows

variable {db : Database} {r other : Request} {row : EntityState} {n m : Int} {calls : List Call}

end Rows

def invoices : Request := ⟨some 1, 10, "invoice", 2025⟩

def orders : Request := ⟨some 1, 10, "po", 2025⟩

end ErpFinance.Entities.Sequences
