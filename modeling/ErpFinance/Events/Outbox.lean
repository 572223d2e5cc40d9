import ErpFinance.Domain.Basics
import ErpFinance.Library.Sha256
import Mathlib.Data.List.Sort

/-!
# The outbox of events

The table of events, the transactions that publish to it and the relays that poll it, as one
system that takes a step at a time.  An event is inserted on a connection of its own, so that
nothing ties it to the transaction that publishes it.
-/

namespace ErpFinance.Events

open Domain Library

/-- `DomainEvent`; instants are in nanoseconds and 0 is the zero time, and a payload that is nil
is none. -/
structure DomainEvent where
  id : Uuid
  tenantID : Uuid := 0
  type : String
  entityName : String
  recordID : Uuid
  actorID : Uuid := 0
  actionName : String := ""
  payload : Option Bytes := none
  occurredAt : Nat := 0
deriving DecidableEq

/-! ## Payloads -/

/-- The character of the standard alphabet for six bits. -/
def base64Char (n : Nat) : UInt8 :=
  UInt8.ofNat (if n < 26 then n + 65 else if n < 52 then n + 71 else if n < 62 then n - 4
    else if n = 62 then 43 else 47)

/-- The standard encoding with padding. -/
def base64 : Bytes → Bytes
  | [] => []
  | [a] => [base64Char (a.toNat / 4), base64Char (a.toNat % 4 * 16), 61, 61]
  | [a, b] =>
    [base64Char (a.toNat / 4), base64Char (a.toNat % 4 * 16 + b.toNat / 16),
      base64Char (b.toNat % 16 * 4), 61]
  | a :: b :: c :: rest =>
    base64Char (a.toNat / 4) :: base64Char (a.toNat % 4 * 16 + b.toNat / 16) ::
      base64Char (b.toNat % 16 * 4 + c.toNat / 64) :: base64Char (c.toNat % 64) :: base64 rest

/-- `json.Marshal` of a slice of bytes: a string of their encoding, and `null` for nil. -/
def marshalPayload : Option Bytes → Bytes
  | none => [110, 117, 108, 108]
  | some bytes => 34 :: (base64 bytes ++ [34])

theorem length_le_base64 (bytes : Bytes) : bytes.length ≤ (base64 bytes).length := by
  fun_induction base64 bytes with
  | case1 => exact Nat.le_refl 0
  | case2 a => exact Nat.le_add_left 1 3
  | case3 a b => exact Nat.le_add_left 2 2
  | case4 a b c rest ih =>
    simp only [List.length_cons]
    omega

/-- No payload is its own encoding. -/
theorem marshalPayload_ne (payload : Option Bytes) : some (marshalPayload payload) ≠ payload := by
  cases payload with
  | none => exact Option.some_ne_none _
  | some bytes =>
    intro same
    have lengths := congrArg List.length (Option.some.inj same)
    have longer := length_le_base64 bytes
    simp only [marshalPayload, List.length_cons, List.length_append, List.length_nil] at lengths
    omega

/-! ## The table -/

/-- A row of `events_outbox`, with its place in the order of the insertions. -/
structure OutboxRow where
  number : Nat
  id : Uuid
  tenantID : Uuid
  type : String
  entityName : String
  recordID : Uuid
  actorID : Uuid
  actionName : Option String
  payload : Bytes
  occurredAt : Nat
  deliveredAt : Option Nat := none
  attempts : Nat := 0
  lastError : Option String := none

def nilIfEmpty (s : String) : Option String := if s = "" then none else some s

/-- What the database keeps of an instant. -/
def microseconds (instant : Nat) : Nat := instant / 1000 * 1000

/-- The event as `Publish` completes it. -/
def completed (e : DomainEvent) (newID : Uuid) (now : Nat) : DomainEvent :=
  { e with
    id := if e.id = 0 then newID else e.id
    occurredAt := if e.occurredAt = 0 then now else e.occurredAt }

/-- The row that `Publish` inserts. -/
def insertedRow (number : Nat) (e : DomainEvent) : OutboxRow where
  number := number
  id := e.id
  tenantID := e.tenantID
  type := e.type
  entityName := e.entityName
  recordID := e.recordID
  actorID := e.actorID
  actionName := nilIfEmpty e.actionName
  payload := marshalPayload e.payload
  occurredAt := microseconds e.occurredAt

/-- The event that `poll` scans. -/
def scannedEvent (row : OutboxRow) : DomainEvent where
  id := row.id
  tenantID := row.tenantID
  type := row.type
  entityName := row.entityName
  recordID := row.recordID
  actorID := row.actorID
  actionName := row.actionName.getD ""
  payload := some row.payload
  occurredAt := row.occurredAt

/-- What comes back of an event that is inserted. -/
def relayed (e : DomainEvent) : DomainEvent :=
  { e with
    payload := some (marshalPayload e.payload)
    occurredAt := microseconds e.occurredAt }

theorem scannedEvent_insertedRow (number : Nat) (e : DomainEvent) :
    scannedEvent (insertedRow number e) = relayed e := by
  have name : (nilIfEmpty e.actionName).getD "" = e.actionName := by
    rw [nilIfEmpty]
    split_ifs with empty
    · exact empty.symm
    · rfl
  rw [scannedEvent, insertedRow, relayed, name]

/-- An event never comes back as it was published. -/
theorem relayed_ne (e : DomainEvent) : relayed e ≠ e := fun same =>
  marshalPayload_ne e.payload (congrArg DomainEvent.payload same)

def maxAttempts : Nat := 5

/-- The rows of a poll round, with their places. -/
def pollRows (rows : List OutboxRow) : List (Nat × DomainEvent) :=
  (((rows.filter fun row => row.deliveredAt.isNone && row.attempts < maxAttempts).insertionSort
    fun row other => row.occurredAt ≤ other.occurredAt).take 50).map fun row =>
      (row.number, scannedEvent row)

/-- The update after a failed delivery. -/
def markFailed (error : String) (id : Uuid) (rows : List OutboxRow) : List OutboxRow :=
  rows.map fun row =>
    if row.id = id then { row with attempts := row.attempts + 1, lastError := some error } else row

/-- The update after a delivery. -/
def markDelivered (now : Nat) (id : Uuid) (rows : List OutboxRow) : List OutboxRow :=
  rows.map fun row =>
    if row.id = id then { row with deliveredAt := some now, attempts := row.attempts + 1 } else row

/-! ## The system -/

inductive TxStatus where
  | running
  | committed
  | rolledBack
deriving DecidableEq

/-- An event that was published, as completed, and the transaction that published it. -/
structure Publication where
  tx : Nat
  event : DomainEvent
deriving DecidableEq

/-- A call of `HandleEvent` for the event of a row. -/
structure Handed where
  number : Nat
  event : DomainEvent
  subscriber : Nat
  failure : Option String
deriving DecidableEq

/-- Where a relay stands, with its connection. -/
inductive Stage where
  | idle
  | locked (connection : Nat)
  | delivering (connection : Nat) (queue : List (Nat × DomainEvent))
  | handling (connection : Nat) (current : Nat × DomainEvent) (left : List Nat)
      (queue : List (Nat × DomainEvent))
  | marking (connection : Nat) (current : Nat × DomainEvent) (failure : Option String)
      (queue : List (Nat × DomainEvent))
  | unlocking (connection : Nat)

/-- The advisory lock: the relay and the connection that hold it, and how often they took it. -/
structure AdvisoryLock where
  relay : Nat
  connection : Nat
  depth : Nat

structure World where
  transactions : List TxStatus := []
  publications : List Publication := []
  rows : List OutboxRow := []
  deadLetters : List OutboxRow := []
  lock : Option AdvisoryLock := none
  relays : List Stage
  handed : List Handed := []

/-- What happens next.  A turn of a relay brings the connection that its pool gives out, the
failure of its statement or of the subscriber, if it fails, and the time. -/
inductive Input where
  | begin
  | publish (tx : Nat) (e : DomainEvent) (newID : Uuid) (now : Nat) (fails : Bool)
  | commit (tx : Nat)
  | rollback (tx : Nat)
  | relay (index connection : Nat) (failure : Option String) (now : Nat)
  | crash (index : Nat)

section Steps

variable (subscribers : String → List Nat) (w : World)

/-- The subscribers of a type before those of all types. -/
def recipients (type : String) : List Nat := subscribers type ++ subscribers ""

/-- `Publish`, on a connection that is not that of the transaction. -/
def World.publish (tx : Nat) (e : DomainEvent) : World :=
  if w.rows.any fun row => row.id = e.id then w
  else
    { w with
      publications := w.publications ++ [{ tx := tx, event := e }]
      rows := w.rows ++ [insertedRow w.publications.length e] }

def World.finish (tx : Nat) (status : TxStatus) : World :=
  if w.transactions[tx]? = some .running then
    { w with transactions := w.transactions.set tx status }
  else w

/-- The lock after an attempt to take it, if it is granted. -/
def tryLock (lock : Option AdvisoryLock) (relay connection : Nat) : Option AdvisoryLock :=
  match lock with
  | none => some { relay := relay, connection := connection, depth := 1 }
  | some held =>
    if held.relay = relay ∧ held.connection = connection then
      some { held with depth := held.depth + 1 }
    else none

/-- The lock after it is released once by the connection that holds it. -/
def unlock (lock : Option AdvisoryLock) (relay connection : Nat) : Option AdvisoryLock :=
  lock.bind fun held =>
    if held.relay = relay ∧ held.connection = connection then
      if held.depth ≤ 1 then none else some { held with depth := held.depth - 1 }
    else some held

/-- The next step of a poll round: its stage after it, and the world. -/
def World.poll (index connection : Nat) (failure : Option String) (now : Nat) :
    Stage → World × Stage
  | .idle =>
    match failure, tryLock w.lock index connection with
    | none, some held => ({ w with lock := some held }, .locked connection)
    | _, _ => (w, .idle)
  | .locked conn =>
    match failure with
    | none => (w, .delivering conn (pollRows w.rows))
    | some _ => (w, .unlocking conn)
  | .delivering conn [] => (w, .unlocking conn)
  | .delivering conn (current :: queue) =>
    (w, .handling conn current (recipients subscribers current.2.type) queue)
  | .handling conn current [] queue => (w, .marking conn current none queue)
  | .handling conn current (subscriber :: left) queue =>
    ({ w with handed := w.handed ++ [⟨current.1, current.2, subscriber, failure⟩] },
      match failure with
      | none => .handling conn current left queue
      | some error => .marking conn current (some error) queue)
  | .marking conn current result queue =>
    (match failure, result with
      | some _, _ => w
      | none, none => { w with rows := markDelivered now current.2.id w.rows }
      | none, some error => { w with rows := markFailed error current.2.id w.rows },
      .delivering conn queue)
  | .unlocking conn =>
    match failure with
    | none => ({ w with lock := unlock w.lock index conn }, .idle)
    | some _ => (w, .idle)

def World.step : Input → World
  | .begin => { w with transactions := w.transactions ++ [.running] }
  | .publish tx e newID now fails =>
    if w.transactions[tx]? = some .running ∧ ¬ fails then w.publish tx (completed e newID now)
    else w
  | .commit tx => w.finish tx .committed
  | .rollback tx => w.finish tx .rolledBack
  | .relay index connection failure now =>
    match w.relays[index]? with
    | none => w
    | some stage =>
      let next := w.poll subscribers index connection failure now stage
      { next.1 with relays := next.1.relays.set index next.2 }
  | .crash index =>
    { w with
      lock := w.lock.filter (·.relay ≠ index)
      relays := w.relays.set index .idle }

/-- The world after the first inputs, from an empty outbox and relays that are idle. -/
def world (instances : Nat) (inputs : Nat → Input) : Nat → World
  | 0 => { relays := List.replicate instances .idle }
  | n + 1 => (world instances inputs n).step subscribers (inputs n)

end Steps

/-! ## What is asked of a run -/

def World.Committed (w : World) (number : Nat) : Prop :=
  ∃ p, w.publications[number]? = some p ∧ w.transactions[p.tx]? = some .committed

def World.DeliveredToAll (subscribers : String → List Nat) (w : World) (number : Nat)
    (p : Publication) : Prop :=
  ∀ subscriber ∈ recipients subscribers p.event.type, ∃ h ∈ w.handed,
    h.number = number ∧ h.subscriber = subscriber ∧ h.failure = none

/-- What is delivered was committed and is what was published, and what is committed is in the end
delivered to all or among the dead letters. -/
structure Reliable (subscribers : String → List Nat) (run : Nat → World) : Prop where
  committed : ∀ k, ∀ h ∈ (run k).handed, (run k).Committed h.number
  same : ∀ k, ∀ h ∈ (run k).handed, ∃ p, (run k).publications[h.number]? = some p ∧
    h.event = p.event
  arrives : ∀ k number p, (run k).publications[number]? = some p → (run k).Committed number →
    ∃ later, (run later).DeliveredToAll subscribers number p ∨
      ∃ row ∈ (run later).deadLetters, row.number = number

/-- A relay is about to hand an event to a subscriber. -/
def Hands (w : World) (input : Input) : Prop :=
  ∃ index connection failure now conn current subscriber left queue,
    input = .relay index connection failure now ∧
      w.relays[index]? = some (.handling conn current (subscriber :: left) queue)

end ErpFinance.Events
