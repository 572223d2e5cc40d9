import ErpFinance.Domain.Basics
import ErpFinance.Library.Ordered
import ErpFinance.Library.Sha256
import ErpFinance.Library.Table

/-!
# The audit chain

The hash chain of delivered audit events: the writer, which appends one entry
per delivery, and the verifier, which scans a range of the chain page by page.
The repository is taken at its interface, over the table of the migration with
its two unique constraints; what its columns keep of a payload and of a time is
a parameter.  Numbers are 64-bit where the source computes.
-/

namespace ErpFinance.Service

open Domain Library

namespace AuditChain

/-! ## Entries -/

structure AuditChainEntry where
  tenantID : Uuid
  outboxID : Uuid
  sequence : Int
  eventType : Bytes
  payload : Bytes
  prevHash : Bytes
  chainHash : Bytes
  createdAt : Time
deriving DecidableEq

/-- The unique constraint on the tenant and the sequence. -/
instance : Keyed AuditChainEntry (Uuid × Int) := ⟨fun e => (e.tenantID, e.sequence)⟩

@[simp] theorem AuditChainEntry.key_eq (e : AuditChainEntry) :
    Keyed.key e = (e.tenantID, e.sequence) := rfl

abbrev Chain := Table AuditChainEntry

/-! ## Hashes -/

def asciiBytes (text : List Char) : Bytes := text.map (fun c => UInt8.ofNat c.toNat)

/-- The fraction of a second in nanoseconds, without the zeros at its end. -/
def fractionDigits (nanos : Nat) : List Char :=
  if nanos = 0 then []
  else '.' :: ((paddedDigits 9 nanos).reverse.dropWhile (· = '0')).reverse

/-- `createdAt.UTC().Format(time.RFC3339Nano)`. -/
def rfc3339Nano (t : Time) : List Char :=
  let seconds := t.nanos / 1000000000
  (if t.year < 0 then ['-'] else []) ++ paddedDigits 4 t.year.natAbs ++
    '-' :: paddedDigits 2 t.month ++ '-' :: paddedDigits 2 t.day ++
    'T' :: paddedDigits 2 (seconds / 3600) ++ ':' :: paddedDigits 2 (seconds / 60 % 60) ++
    ':' :: paddedDigits 2 (seconds % 60) ++ fractionDigits (t.nanos % 1000000000) ++ ['Z']

/-- The bytes the hash of an entry is taken of. -/
def hashedBytes (prevHash eventType payload : Bytes) (createdAt : Time) : Bytes :=
  prevHash ++ (eventType ++ payload ++ asciiBytes (rfc3339Nano createdAt))

def computeChainHash (prevHash eventType payload : Bytes) (createdAt : Time) : Bytes :=
  sha256Hex (hashedBytes prevHash eventType payload createdAt)

/-! ## The repository -/

def entriesOf (chain : Chain) (tenantID : Uuid) : List AuditChainEntry :=
  ordered AuditChainEntry.sequence (chain.rows.filter (fun e => e.tenantID = tenantID))

def getLastChainEntry (chain : Chain) (tenantID : Uuid) : Option AuditChainEntry :=
  (entriesOf chain tenantID).getLast?

def listChainRange (chain : Chain) (tenantID : Uuid) (fromSeq toSeq : Int) :
    List AuditChainEntry :=
  ordered AuditChainEntry.sequence (chain.rows.filter (fun e =>
    e.tenantID = tenantID ∧ fromSeq ≤ e.sequence ∧ e.sequence ≤ toSeq))

/-- What the repository gives back of the payload and of the time it was handed. -/
structure AuditChainRepository where
  payload : Bytes → Bytes
  createdAt : Time → Time

/-- `AppendChainEntry`: nothing happens for a known delivery; a taken sequence is refused. -/
def appendChainEntry (repo : AuditChainRepository) (chain : Chain) (entry : AuditChainEntry) :
    Except String Chain :=
  if chain.rows.any (fun e => e.outboxID = entry.outboxID) then .ok chain
  else if (chain.get? (Keyed.key entry)).isSome then .error "duplicate sequence"
  else .ok (chain.insert { entry with
    payload := repo.payload entry.payload
    createdAt := repo.createdAt entry.createdAt })

/-! ## The writer -/

structure Delivery where
  tenantID : Uuid
  outboxID : Uuid
  eventType : Bytes
  payload : Bytes
  deliveredAt : Time
  getLastFails : Bool := false
  appendFails : Bool := false

def nextEntry (last : Option AuditChainEntry) (d : Delivery) : AuditChainEntry :=
  let prevHash := (last.map AuditChainEntry.chainHash).getD []
  { tenantID := d.tenantID
    outboxID := d.outboxID
    sequence := (last.map (fun e => int64 (e.sequence + 1))).getD 1
    eventType := d.eventType
    payload := d.payload
    prevHash := prevHash
    chainHash := computeChainHash prevHash d.eventType d.payload d.deliveredAt
    createdAt := d.deliveredAt }

/-- `AppendDelivered`: a failing call is logged and leaves the chain as it is. -/
def appendDelivered (repo : AuditChainRepository) (chain : Chain) (d : Delivery) : Chain :=
  if d.getLastFails then chain
  else
    let entry := nextEntry (getLastChainEntry chain d.tenantID) d
    if d.appendFails then chain
    else match appendChainEntry repo chain entry with
      | .error _ => chain
      | .ok after => after

/-! ## The verifier -/

/-- A violation with the values its detail text prints. -/
inductive ChainViolation where
  | sequenceGap (expected got : Int)
  | prevHashMismatch (sequence : Int) (prevHash expected : Bytes)
  | hashMismatch (sequence : Int) (stored recomputed : Bytes)
deriving DecidableEq

structure ChainVerificationReport where
  tenantID : Uuid
  totalEntries : Nat
  violations : List ChainViolation
  healthy : Bool
  verifiedAt : Time
deriving DecidableEq

/-- What the scan carries from entry to entry. -/
structure Scan where
  violations : List ChainViolation := []
  prevHash : Bytes := []
  expectedSeq : Int

/-- One turn of the inner loop. -/
def checkEntry (fromSeq : Int) (scan : Scan) (e : AuditChainEntry) : Scan :=
  let recomputed := computeChainHash e.prevHash e.eventType e.payload e.createdAt
  { violations := scan.violations ++
      ((if e.sequence ≠ scan.expectedSeq then
        [.sequenceGap scan.expectedSeq e.sequence] else []) ++
      (if fromSeq < e.sequence ∧ e.prevHash ≠ scan.prevHash then
        [.prevHashMismatch e.sequence e.prevHash scan.prevHash] else []) ++
      (if recomputed ≠ e.chainHash then
        [.hashMismatch e.sequence e.chainHash recomputed] else []))
    prevHash := e.chainHash
    expectedSeq := int64 (e.sequence + 1) }

/-- The pages from a start on; the loop need not end when its counter wraps around. -/
def scanPages (chain : Chain) (tenantID : Uuid) (fromSeq toSeq pageSize : Int) :
    Nat → Int → List Bool → Scan → Option (Except String Scan)
  | 0, _, _, _ => none
  | fuel + 1, start, fails, scan =>
    if toSeq < start then some (.ok scan)
    else
      let last := int64 (start + pageSize - 1)
      let pageEnd := if toSeq < last then toSeq else last
      if fails.headD false then
        some (.error ("audit chain: list range [" ++ toString start ++ "," ++
          toString pageEnd ++ "]: repository failure"))
      else
        scanPages chain tenantID fromSeq toSeq pageSize fuel (int64 (start + pageSize))
          fails.tail
          ((listChainRange chain tenantID start pageEnd).foldl (checkEntry fromSeq) scan)

/-- What a verification meets: the clock, and which repository calls fail, in order. -/
structure VerifyEnv where
  now : Time
  fails : List Bool := []

def verifyChain (fuel : Nat) (env : VerifyEnv) (chain : Chain) (tenantID : Uuid)
    (fromSeq toSeq pageSize : Int) : Option (Except String ChainVerificationReport) :=
  if env.fails.headD false then some (.error "audit chain: get stats: repository failure")
  else
    (scanPages chain tenantID fromSeq toSeq pageSize fuel fromSeq env.fails.tail
      { expectedSeq := fromSeq }).map (fun scanned => scanned.map (fun scan =>
        { tenantID := tenantID
          totalEntries := (entriesOf chain tenantID).length
          violations := scan.violations
          healthy := scan.violations.isEmpty
          verifiedAt := env.now }))

end AuditChain

end ErpFinance.Service
