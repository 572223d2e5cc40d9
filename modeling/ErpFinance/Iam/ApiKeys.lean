import ErpFinance.Iam.ResolvedSession
import ErpFinance.Library.Interleaving
import ErpFinance.Library.Sha256
import Mathlib.Data.List.Nodup

/-!
# API keys

A key is validated against its row once, and for five minutes after that
against a cached session.  A revocation marks the row and then evicts the
session, which it finds through a second cache entry under the key's identifier.
Validations and revocations act in atomic steps on the row and on each of the
two entries, at any times.
-/

namespace ErpFinance.Iam.ApiKeys

open Domain Library

/-! ## Rows -/

/-- A row of `api_keys`, apart from the column `revoked_at`, the only one that a step writes. -/
structure APIKey where
  id : Uuid
  tenantID : Uuid
  name : String
  keyHash : Bytes
  scopes : List String
  createdBy : Uuid
  expiresAt : Option Nat

/-- The rows, with the primary key and `UNIQUE (key_hash)`. -/
structure KeyTable where
  rows : List APIKey
  ids : (rows.map APIKey.id).Nodup
  hashes : (rows.map APIKey.keyHash).Nodup

def hashToken (rawToken : String) : Bytes := sha256Hex rawToken.toUTF8.data.toList

/-- `buildAPIKeySession`.  The map of scopes that it fills is not part of the session. -/
def buildAPIKeySession (key : APIKey) : ResolvedSession where
  userID := key.createdBy
  userType := "API"
  tenantID := key.tenantID
  displayName := key.name
  entityScope := { type := .all }

/-! ## Steps -/

def apiKeyCacheTTL : Nat := 5 * 60 * 10 ^ 9

structure Shared where
  clock : Nat
  /-- The column `revoked_at` of each key. -/
  revokedAt : Uuid → Option Nat
  /-- `apikey:{hash}`, with the instant at which the entry lapses. -/
  sessions : Bytes → Option (ResolvedSession × Nat)
  /-- `apikey:id:{id}`, which holds the hash of the first entry's key. -/
  index : Uuid → Option (Bytes × Nat)
  /-- The keys that a revocation has found evicted. -/
  evicted : List Uuid
  /-- The keys whose revocation has returned success. -/
  returned : List Uuid

/-- The instant of a validation's start, and the keys whose revocation had returned by then. -/
structure Start where
  time : Nat
  revoked : List Uuid

inductive Client
  -- `ValidateAPIKey`
  | validate (keyHash : Bytes)
  | getSession (keyHash : Bytes) (start : Start)
  | getByHash (keyHash : Bytes) (start : Start)
  | setSession (key : APIKey) (start : Start)
  | setIndex (key : APIKey) (start : Start)
  | accepted (keyHash : Bytes) (session : ResolvedSession) (start : Start)
  -- `RevokeAPIKey`, in the context of a tenant
  | revoke (tenantID keyID : Uuid)
  | getIndex (keyID : Uuid)
  | deleteSession (keyID : Uuid) (keyHash : Bytes)
  | deleteIndex (keyID : Uuid)
  | finished

/-- The time that passes before a step, and whether its query fails. -/
structure Input where
  elapsed : Nat := 0
  fails : Bool := false

namespace Shared

variable (sh : Shared)

def tick (elapsed : Nat) : Shared := { sh with clock := sh.clock + elapsed }

/-- A cache entry that has not lapsed. -/
def live {α : Type} (sh : Shared) (entry : Option (α × Nat)) : Option α :=
  entry.bind fun e => if sh.clock < e.2 then some e.1 else none

def getAPIKeyByHash (keys : KeyTable) (keyHash : Bytes) : Option APIKey :=
  keys.rows.find? fun key => key.keyHash = keyHash ∧ sh.revokedAt key.id = none ∧
    ∀ v ∈ key.expiresAt, sh.clock < v

def setSession (key : APIKey) : Shared :=
  { sh with sessions := fun keyHash =>
      if keyHash = key.keyHash then some (buildAPIKeySession key, sh.clock + apiKeyCacheTTL)
      else sh.sessions keyHash }

/-- Cache under a key's identifier where its session is. -/
def setIndex (key : APIKey) : Shared :=
  { sh with index := fun id =>
      if id = key.id then some (key.keyHash, sh.clock + apiKeyCacheTTL) else sh.index id }

def deleteSession (deleted : Bytes) : Shared :=
  { sh with sessions := fun keyHash => if keyHash = deleted then none else sh.sessions keyHash }

def deleteIndex (deleted : Uuid) : Shared :=
  { sh with index := fun id => if id = deleted then none else sh.index id }

/-- The search for the session of a key is over. -/
def evict (keyID : Uuid) : Shared := { sh with evicted := keyID :: sh.evicted }

/-- The revocation of a key returns success. -/
def succeed (keyID : Uuid) : Shared := { sh with returned := keyID :: sh.returned }

def revokeAPIKey (keys : KeyTable) (tenantID keyID : Uuid) : Shared :=
  { sh with revokedAt := fun id =>
      if id = keyID ∧ (∃ key ∈ keys.rows, key.id = keyID ∧ key.tenantID = tenantID) ∧
          sh.revokedAt id = none then some sh.clock
      else sh.revokedAt id }

end Shared

/-- One step of a call, at the present time. -/
def act (keys : KeyTable) (sh : Shared) (client : Client) (fails : Bool) : Shared × Client :=
  match client with
  | .validate keyHash => (sh, .getSession keyHash ⟨sh.clock, sh.returned⟩)
  | .getSession keyHash start =>
    match sh.live (sh.sessions keyHash) with
    | some session => (sh, .accepted keyHash session start)
    | none => (sh, .getByHash keyHash start)
  | .getByHash keyHash start =>
    if fails then (sh, .finished)
    else match sh.getAPIKeyByHash keys keyHash with
      | none => (sh, .finished)
      | some key => (sh, .setSession key start)
  | .setSession key start => (sh.setSession key, .setIndex key start)
  | .setIndex key start =>
    (sh.setIndex key, .accepted key.keyHash (buildAPIKeySession key) start)
  | .revoke tenantID keyID =>
    if fails then (sh, .finished)
    else (sh.revokeAPIKey keys tenantID keyID, .getIndex keyID)
  | .getIndex keyID =>
    match sh.live (sh.index keyID) with
    | some keyHash => (sh, .deleteSession keyID keyHash)
    | none => ((sh.evict keyID).succeed keyID, .finished)
  | .deleteSession keyID keyHash => ((sh.deleteSession keyHash).evict keyID, .deleteIndex keyID)
  | .deleteIndex keyID => ((sh.deleteIndex keyID).succeed keyID, .finished)
  | .accepted keyHash session start => (sh, .accepted keyHash session start)
  | .finished => (sh, .finished)

/-- One step of a call, after some time. -/
def next (keys : KeyTable) (sh : Shared) (client : Client) (i : Input) : Shared × Client :=
  act keys (sh.tick i.elapsed) client i.fails

/-! ## The rule and the condition -/

abbrev Sys := System Shared Client

/-- The call may accept the key: its revocation had not returned and it had not expired when the
call started. -/
def Rightful (key : APIKey) (start : Start) : Prop :=
  key.id ∉ start.revoked ∧ ∀ v, key.expiresAt = some v → start.time < v

/-- Every validation that has accepted a key was allowed to. -/
def Respects (keys : KeyTable) (s : Sys) : Prop :=
  ∀ keyHash session start, Client.accepted keyHash session start ∈ s.clients →
    ∀ key ∈ keys.rows, key.keyHash = keyHash → Rightful key start

/-- The permissions that a session carries; the type has no field for them. -/
def permissions (_ : ResolvedSession) : List String := []

def Separates (uuidText : Uuid → String) (keys : KeyTable) : Prop :=
  ∀ first ∈ keys.rows, ∀ second ∈ keys.rows, first.createdBy = second.createdBy →
    (¬∀ scope, scope ∈ first.scopes ↔ scope ∈ second.scopes) →
      ((buildAPIKeySession first).toPrincipal uuidText, permissions (buildAPIKeySession first)) ≠
        ((buildAPIKeySession second).toPrincipal uuidText, permissions (buildAPIKeySession second))

/-- What a step has to meet.  A session lapses before its key expires; a revocation is made in the
tenant of its key; and when it ends its search for the session, no validation has still to write
one, nor, if it found no entry, has written one whose index entry is still missing. -/
def Careful (keys : KeyTable) (sh : Shared) (clients : List Client) (fails : Bool) :
    Client → Prop
  | .setSession key _ => ∀ v, key.expiresAt = some v → sh.clock + apiKeyCacheTTL ≤ v
  | .revoke tenantID keyID =>
    fails = false → ∀ key ∈ keys.rows, key.id = keyID → key.tenantID = tenantID
  | .getIndex keyID =>
    sh.live (sh.index keyID) = none →
      (∀ key start, Client.setSession key start ∈ clients → key.id ≠ keyID) ∧
        ∀ key start, Client.setIndex key start ∈ clients → key.id = keyID →
          sh.live (sh.sessions key.keyHash) = none
  | .deleteSession keyID _ => ∀ key start, Client.setSession key start ∈ clients → key.id ≠ keyID
  | _ => True

/-- Validations and revocations arrive, and act in any order. -/
def Legal (_ : Sys) : Turn Client Input → Prop
  | .arrive client =>
    (∃ rawToken, client = .validate (hashToken rawToken)) ∨
      ∃ tenantID keyID, client = .revoke tenantID keyID
  | .act _ _ => True

/-- A turn whose step meets the condition. -/
def Guard (keys : KeyTable) (s : Sys) (turn : Turn Client Input) : Prop :=
  Legal s turn ∧ ∀ index input client, turn = .act index input →
    s.clients[index]? = some client →
      Careful keys (s.shared.tick input.elapsed) s.clients input.fails client

/-- Nothing is cached and no call is under way. -/
def initial (clock : Nat) (revokedAt : Uuid → Option Nat) : Sys where
  shared :=
    { clock := clock, revokedAt := revokedAt, sessions := fun _ => none, index := fun _ => none
      evicted := [], returned := [] }
  clients := []

section Invariant

variable {keys : KeyTable} {sh : Shared}

/-- What a call knows between two of its steps. -/
def Holds (keys : KeyTable) (sh : Shared) : Client → Prop
  | .getSession _ start | .getByHash _ start =>
    start.time ≤ sh.clock ∧ ∀ id ∈ start.revoked, id ∈ sh.returned
  | .setSession key start => key ∈ keys.rows ∧ key.id ∉ sh.evicted ∧ Rightful key start
  | .setIndex key start => key ∈ keys.rows ∧ Rightful key start
  | .accepted keyHash _ start => ∀ key ∈ keys.rows, key.keyHash = keyHash → Rightful key start
  | .getIndex keyID => ∀ key ∈ keys.rows, key.id = keyID → sh.revokedAt keyID ≠ none
  | .deleteSession keyID keyHash =>
    ∀ key ∈ keys.rows, key.id = keyID → sh.revokedAt keyID ≠ none ∧ key.keyHash = keyHash
  | .deleteIndex keyID => keyID ∈ sh.evicted
  | .validate _ | .revoke _ _ | .finished => True

/-- What the two cache entries and the marks of revocations say about each other. -/
structure Kept (keys : KeyTable) (sh : Shared) (clients : List Client) : Prop where
  lapse : ∀ key ∈ keys.rows, ∀ entry, sh.sessions key.keyHash = some entry →
    entry.2 ≤ sh.clock + apiKeyCacheTTL ∧ ∀ v, key.expiresAt = some v → entry.2 ≤ v
  indexed : ∀ key ∈ keys.rows, ∀ entry, sh.sessions key.keyHash = some entry →
    sh.clock < entry.2 →
      (∃ mark, sh.index key.id = some mark ∧ entry.2 ≤ mark.2) ∨
        ∃ start, Client.setIndex key start ∈ clients
  points : ∀ key ∈ keys.rows, ∀ mark, sh.index key.id = some mark → mark.1 = key.keyHash
  gone : ∀ key ∈ keys.rows, key.id ∈ sh.evicted → sh.revokedAt key.id ≠ none ∧
    ∀ entry, sh.sessions key.keyHash = some entry → entry.2 ≤ sh.clock
  returned : ∀ id ∈ sh.returned, id ∈ sh.evicted

structure Inv (keys : KeyTable) (s : Sys) : Prop where
  kept : Kept keys s.shared s.clients
  clients : ∀ client ∈ s.clients, Holds keys s.shared client

theorem KeyTable.eq_of_id (keys : KeyTable) {first second : APIKey} (one : first ∈ keys.rows)
    (two : second ∈ keys.rows) (same : first.id = second.id) : first = second :=
  List.inj_on_of_nodup_map keys.ids one two same

theorem KeyTable.eq_of_keyHash (keys : KeyTable) {first second : APIKey}
    (one : first ∈ keys.rows) (two : second ∈ keys.rows)
    (same : first.keyHash = second.keyHash) : first = second :=
  List.inj_on_of_nodup_map keys.hashes one two same

theorem live_eq_some {α : Type} {entry : Option (α × Nat)} {value : α} :
    sh.live entry = some value ↔ ∃ lapse, entry = some (value, lapse) ∧ sh.clock < lapse := by
  cases entry with
  | none => simp [Shared.live]
  | some e =>
    obtain ⟨stored, lapse⟩ := e
    simp only [Shared.live, Option.bind_some, Option.ite_none_right_eq_some, Option.some.injEq,
      Prod.mk.injEq]
    constructor
    · rintro ⟨inTime, rfl⟩
      exact ⟨lapse, ⟨rfl, rfl⟩, inTime⟩
    · rintro ⟨_, ⟨rfl, rfl⟩, inTime⟩
      exact ⟨inTime, rfl⟩

theorem live_eq_none {α : Type} {entry : Option (α × Nat)} :
    sh.live entry = none ↔ ∀ e, entry = some e → e.2 ≤ sh.clock := by
  cases entry with
  | none => simp [Shared.live]
  | some e => simp [Shared.live]

/-- A key that the query returns is in the table, not revoked and not expired. -/
theorem getAPIKeyByHash_eq_some {keyHash : Bytes} {key : APIKey}
    (found : sh.getAPIKeyByHash keys keyHash = some key) :
    key ∈ keys.rows ∧ sh.revokedAt key.id = none ∧ ∀ v, key.expiresAt = some v → sh.clock < v := by
  have met := List.find?_some found
  simp only [decide_eq_true_eq] at met
  exact ⟨List.mem_of_find?_eq_some found, met.2.1, fun v expires => met.2.2 v expires⟩

/-- Time passes. -/
theorem Inv.tick {s : Sys} (inv : Inv keys s) (elapsed : Nat) :
    Inv keys { s with shared := s.shared.tick elapsed } where
  kept :=
    { lapse := fun key member entry stored => by
        obtain ⟨bound, before⟩ := inv.kept.lapse key member entry stored
        refine ⟨?_, before⟩
        simp only [Shared.tick]
        omega
      indexed := fun key member entry stored lives => by
        refine inv.kept.indexed key member entry stored ?_
        simp only [Shared.tick] at lives
        omega
      points := inv.kept.points
      gone := fun key member evicted => by
        obtain ⟨revoked, lapsed⟩ := inv.kept.gone key member evicted
        refine ⟨revoked, fun entry stored => ?_⟩
        have lapsed := lapsed entry stored
        simp only [Shared.tick]
        omega
      returned := inv.kept.returned }
  clients client member := by
    have held := inv.clients client member
    cases client with
    | getSession _ start => exact ⟨Nat.le_add_right_of_le held.1, held.2⟩
    | getByHash _ start => exact ⟨Nat.le_add_right_of_le held.1, held.2⟩
    | validate | setSession | setIndex | accepted | revoke | getIndex | deleteSession | deleteIndex
    | finished => exact held

section Step

variable {s : Sys} {index : Nat} {client new : Client} {after : Shared}

/-- The rule of the acting call, and what the others know, survive the step. -/
theorem Inv.act (inv : Inv keys s) (kept : Kept keys after (s.clients.set index new))
    (own : Holds keys after new)
    (others : ∀ other ∈ s.clients, Holds keys s.shared other → Holds keys after other) :
    Inv keys (s.put index (after, new)) where
  kept := kept
  clients other member := by
    rcases List.mem_or_eq_of_mem_set member with old | rfl
    · exact others other old (inv.clients other old)
    · exact own

/-- What is missing in the index is still being written, unless the acting call wrote it. -/
theorem Inv.indexed (inv : Inv keys s) (found : s.clients[index]? = some client)
    (quiet : ∀ key start, client ≠ .setIndex key start) : ∀ key ∈ keys.rows, ∀ entry,
      s.shared.sessions key.keyHash = some entry → s.shared.clock < entry.2 →
        (∃ mark, s.shared.index key.id = some mark ∧ entry.2 ≤ mark.2) ∨
          ∃ start, Client.setIndex key start ∈ s.clients.set index new :=
  fun key member entry stored lives =>
    (inv.kept.indexed key member entry stored lives).imp_right fun ⟨start, writes⟩ =>
      ⟨start, System.mem_set_of_mem found writes (quiet key start).symm⟩

theorem Holds.evict {keyID : Uuid} (held : Holds keys sh client)
    (unwritten : ∀ key start, client = .setSession key start → key.id ≠ keyID) :
    Holds keys (sh.evict keyID) client := by
  cases client with
  | setSession key start =>
    refine ⟨held.1, fun evicted => ?_, held.2.2⟩
    rcases List.mem_cons.mp evicted with same | old
    · exact unwritten key start rfl same
    · exact held.2.1 old
  | deleteIndex id => exact List.mem_cons_of_mem _ held
  | validate | getSession | getByHash | setIndex | accepted | revoke | getIndex | deleteSession
  | finished => exact held

theorem Holds.succeed {keyID : Uuid} (held : Holds keys sh client) :
    Holds keys (sh.succeed keyID) client := by
  cases client with
  | getSession | getByHash =>
    exact ⟨held.1, fun id known => List.mem_cons_of_mem _ (held.2 id known)⟩
  | validate | setSession | setIndex | accepted | revoke | getIndex | deleteSession | deleteIndex
  | finished => exact held

/-- A step that changes nothing shared. -/
theorem Inv.silent (inv : Inv keys s) (found : s.clients[index]? = some client)
    (quiet : ∀ key start, client ≠ .setIndex key start) (own : Holds keys s.shared new) :
    Inv keys (s.put index (s.shared, new)) :=
  inv.act
    { lapse := inv.kept.lapse
      indexed := inv.indexed found quiet
      points := inv.kept.points
      gone := inv.kept.gone
      returned := inv.kept.returned }
    own fun _ _ held => held

variable {key : APIKey}

theorem Kept.returned_gone {clients : List Client} (kept : Kept keys sh clients)
    (member : key ∈ keys.rows) (returned : key.id ∈ sh.returned) :
    sh.revokedAt key.id ≠ none ∧ sh.live (sh.sessions key.keyHash) = none := by
  obtain ⟨revoked, lapsed⟩ := kept.gone key member (kept.returned _ returned)
  exact ⟨revoked, live_eq_none.mpr lapsed⟩

variable {start : Start} {keyHash : Bytes}

/-- A validation that finds a session may accept its key. -/
theorem getSession_inv {session : ResolvedSession} (inv : Inv keys s)
    (found : s.clients[index]? = some (.getSession keyHash start))
    (lives : s.shared.live (s.shared.sessions keyHash) = some session) :
    Inv keys (s.put index (s.shared, .accepted keyHash session start)) := by
  obtain ⟨before, known⟩ := inv.clients _ (List.mem_of_getElem? found)
  have own : Holds keys s.shared (.accepted keyHash session start) := by
    intro key member same
    subst same
    refine ⟨fun revoked => ?_, fun v expires => ?_⟩
    · rw [(inv.kept.returned_gone member (known _ revoked)).2] at lives
      cases lives
    · obtain ⟨lapse, stored, inTime⟩ := live_eq_some.mp lives
      have bound := (inv.kept.lapse key member _ stored).2 v expires
      exact Nat.lt_of_le_of_lt before (Nat.lt_of_lt_of_le inTime bound)
  exact inv.silent found nofun own

/-- A validation that reads the row. -/
theorem getByHash_inv (inv : Inv keys s)
    (found : s.clients[index]? = some (.getByHash keyHash start))
    (row : s.shared.getAPIKeyByHash keys keyHash = some key) :
    Inv keys (s.put index (s.shared, .setSession key start)) := by
  obtain ⟨before, known⟩ := inv.clients _ (List.mem_of_getElem? found)
  obtain ⟨member, unrevoked, unexpired⟩ := getAPIKeyByHash_eq_some row
  have stays : key.id ∉ s.shared.evicted := fun evicted =>
    (inv.kept.gone key member evicted).1 unrevoked
  have rightful : Rightful key start :=
    ⟨fun revoked => stays (inv.kept.returned _ (known _ revoked)),
      fun v expires => Nat.lt_of_le_of_lt before (unexpired v expires)⟩
  have own : Holds keys s.shared (.setSession key start) := ⟨member, stays, rightful⟩
  exact inv.silent found nofun own

theorem setSession_inv (inv : Inv keys s) (found : s.clients[index]? = some (.setSession key start))
    (inTime : ∀ v, key.expiresAt = some v → s.shared.clock + apiKeyCacheTTL ≤ v) :
    Inv keys (s.put index (s.shared.setSession key, .setIndex key start)) := by
  obtain ⟨member, stays, rightful⟩ := inv.clients _ (List.mem_of_getElem? found)
  have bound : index < s.clients.length := (List.getElem?_eq_some_iff.mp found).1
  have sessions : ∀ other ∈ keys.rows, ∀ entry,
      (s.shared.setSession key).sessions other.keyHash = some entry →
        (other = key ∧ entry.2 = s.shared.clock + apiKeyCacheTTL) ∨
          s.shared.sessions other.keyHash = some entry := by
    intro other otherMember entry stored
    rw [Shared.setSession] at stored
    by_cases same : other.keyHash = key.keyHash
    · simp only [same, if_true, Option.some.injEq] at stored
      exact .inl ⟨keys.eq_of_keyHash otherMember member same, by rw [← stored]⟩
    · exact .inr ((if_neg same).symm.trans stored)
  refine inv.act ?_ ⟨member, rightful⟩ fun other _ held => by cases other <;> exact held
  refine
    { lapse := fun other otherMember entry stored => ?_
      indexed := fun other otherMember entry stored lives => ?_
      points := inv.kept.points
      gone := fun other otherMember evicted => ?_
      returned := inv.kept.returned }
  · rcases sessions other otherMember entry stored with ⟨rfl, lapse⟩ | old
    · rw [lapse]
      exact ⟨Nat.le_refl _, inTime⟩
    · exact inv.kept.lapse other otherMember entry old
  · rcases sessions other otherMember entry stored with ⟨rfl, -⟩ | old
    · exact .inr ⟨start, List.mem_set bound _⟩
    · exact inv.indexed found nofun other otherMember entry old lives
  · obtain ⟨revoked, lapsed⟩ := inv.kept.gone other otherMember evicted
    refine ⟨revoked, fun entry stored => ?_⟩
    rcases sessions other otherMember entry stored with ⟨rfl, -⟩ | old
    · exact absurd evicted stays
    · exact lapsed entry old

theorem setIndex_inv (inv : Inv keys s) (found : s.clients[index]? = some (.setIndex key start)) :
    Inv keys
      (s.put index (s.shared.setIndex key,
        .accepted key.keyHash (buildAPIKeySession key) start)) := by
  obtain ⟨member, rightful⟩ := inv.clients _ (List.mem_of_getElem? found)
  have own : Holds keys (s.shared.setIndex key)
      (.accepted key.keyHash (buildAPIKeySession key) start) := by
    intro other otherMember same
    cases keys.eq_of_keyHash otherMember member same
    exact rightful
  refine inv.act ?_ own fun other _ held => by cases other <;> exact held
  refine
    { lapse := inv.kept.lapse
      indexed := fun other otherMember entry stored lives => ?_
      points := fun other otherMember mark stored => ?_
      gone := inv.kept.gone
      returned := inv.kept.returned }
  · by_cases same : other.id = key.id
    · cases keys.eq_of_id otherMember member same
      exact .inl ⟨_, if_pos rfl, (inv.kept.lapse key otherMember entry stored).1⟩
    · rcases inv.kept.indexed other otherMember entry stored lives with
        ⟨mark, indexed, later⟩ | ⟨begun, writes⟩
      · exact .inl ⟨mark, (if_neg same).trans indexed, later⟩
      · refine .inr ⟨begun, System.mem_set_of_mem found writes fun acts => ?_⟩
        cases acts
        exact same rfl
  · rw [Shared.setIndex] at stored
    by_cases same : other.id = key.id
    · cases keys.eq_of_id otherMember member same
      simp only [if_true, Option.some.injEq] at stored
      rw [← stored]
    · exact inv.kept.points other otherMember mark ((if_neg same).symm.trans stored)

theorem revoke_inv {tenantID keyID : Uuid} (inv : Inv keys s)
    (found : s.clients[index]? = some (.revoke tenantID keyID))
    (owned : ∀ key ∈ keys.rows, key.id = keyID → key.tenantID = tenantID) :
    Inv keys (s.put index (s.shared.revokeAPIKey keys tenantID keyID, .getIndex keyID)) := by
  have stays : ∀ id, s.shared.revokedAt id ≠ none →
      (s.shared.revokeAPIKey keys tenantID keyID).revokedAt id ≠ none := by
    intro id revoked
    simp only [Shared.revokeAPIKey, revoked, and_false, if_false]
    exact revoked
  have own : Holds keys (s.shared.revokeAPIKey keys tenantID keyID) (.getIndex keyID) := by
    intro key member same
    cases marked : s.shared.revokedAt keyID with
    | some time => exact stays keyID (by simp [marked])
    | none =>
      have row : ∃ key ∈ keys.rows, key.id = keyID ∧ key.tenantID = tenantID :=
        ⟨key, member, same, owned key member same⟩
      simp [Shared.revokeAPIKey, row, marked]
  refine inv.act ?_ own fun other _ held => ?_
  · exact
      { lapse := inv.kept.lapse
        indexed := inv.indexed found nofun
        points := inv.kept.points
        gone := fun key member evicted =>
          (inv.kept.gone key member evicted).imp_left (stays key.id)
        returned := inv.kept.returned }
  · cases other with
    | getIndex id => exact fun key member same => stays id (held key member same)
    | deleteSession id keyHash =>
      exact fun key member same => (held key member same).imp_left (stays id)
    | validate | getSession | getByHash | setSession | setIndex | accepted | revoke | deleteIndex
    | finished => exact held

variable {keyID : Uuid}

/-- A revocation that finds no index entry: there is no session of the key either. -/
theorem getIndex_inv (inv : Inv keys s) (found : s.clients[index]? = some (.getIndex keyID))
    (absent : s.shared.live (s.shared.index keyID) = none)
    (unwritten : ∀ key start, Client.setSession key start ∈ s.clients → key.id ≠ keyID)
    (unindexed : ∀ key start, Client.setIndex key start ∈ s.clients → key.id = keyID → s.shared.live
      (s.shared.sessions key.keyHash) = none) :
    Inv keys (s.put index ((s.shared.evict keyID).succeed keyID, .finished)) := by
  have revoked := inv.clients _ (List.mem_of_getElem? found)
  have lapsed : ∀ key ∈ keys.rows, key.id = keyID → ∀ entry,
      s.shared.sessions key.keyHash = some entry → entry.2 ≤ s.shared.clock := by
    intro key member same entry stored
    by_contra lives
    rw [Nat.not_le] at lives
    rcases inv.kept.indexed key member entry stored lives with
      ⟨mark, marked, later⟩ | ⟨start, writes⟩
    · rw [same] at marked
      have gone := live_eq_none.mp absent mark marked
      omega
    · have gone := live_eq_none.mp (unindexed key start writes same) entry stored
      omega
  refine inv.act ?_ trivial fun other member held => ?_
  · exact
      { lapse := inv.kept.lapse
        indexed := inv.indexed found nofun
        points := inv.kept.points
        gone := fun key member evicted => by
          rcases List.mem_cons.mp evicted with same | old
          · exact ⟨same ▸ revoked key member same, lapsed key member same⟩
          · exact inv.kept.gone key member old
        returned := fun id returned => by
          rcases List.mem_cons.mp returned with same | old
          · exact List.mem_cons.mpr (.inl same)
          · exact List.mem_cons_of_mem _ (inv.kept.returned id old) }
  · exact (held.evict fun key start same => unwritten key start (same ▸ member)).succeed

/-- A revocation that has found the session deletes it, and nobody is about to write another. -/
theorem deleteSession_inv (inv : Inv keys s)
    (found : s.clients[index]? = some (.deleteSession keyID keyHash))
    (unwritten : ∀ key start, Client.setSession key start ∈ s.clients → key.id ≠ keyID) :
    Inv keys (s.put index ((s.shared.deleteSession keyHash).evict keyID, .deleteIndex keyID)) := by
  have revoked := inv.clients _ (List.mem_of_getElem? found)
  have sessions : ∀ hash entry, (s.shared.deleteSession keyHash).sessions hash = some entry →
      hash ≠ keyHash ∧ s.shared.sessions hash = some entry := by
    intro hash entry stored
    simpa [Shared.deleteSession] using stored
  have own : Holds keys ((s.shared.deleteSession keyHash).evict keyID) (.deleteIndex keyID) :=
    List.mem_cons_self
  refine inv.act ?_ own fun other member held => ?_
  · exact
      { lapse := fun key member entry stored =>
          inv.kept.lapse key member entry (sessions _ _ stored).2
        indexed := fun key member entry stored =>
          inv.indexed found nofun key member entry (sessions _ _ stored).2
        points := inv.kept.points
        gone := fun key member evicted => by
          rcases List.mem_cons.mp evicted with same | old
          · obtain ⟨marked, points⟩ := revoked key member same
            exact ⟨same ▸ marked, fun entry stored => absurd points (sessions _ _ stored).1⟩
          · obtain ⟨marked, lapsed⟩ := inv.kept.gone key member old
            exact ⟨marked, fun entry stored => lapsed entry (sessions _ _ stored).2⟩
        returned := fun id returned => List.mem_cons_of_mem _ (inv.kept.returned id returned) }
  · exact held.evict fun key start same => unwritten key start (same ▸ member)

theorem deleteIndex_inv (inv : Inv keys s) (found : s.clients[index]? = some (.deleteIndex keyID)) :
    Inv keys (s.put index ((s.shared.deleteIndex keyID).succeed keyID, .finished)) := by
  have evicted : keyID ∈ s.shared.evicted := inv.clients _ (List.mem_of_getElem? found)
  refine inv.act ?_ trivial fun other member held => ?_
  · refine
      { lapse := inv.kept.lapse
        indexed := fun key member entry stored lives => ?_
        points := fun key member mark stored => ?_
        gone := inv.kept.gone
        returned := fun id returned => ?_ }
    · by_cases same : key.id = keyID
      · have lapsed := (inv.kept.gone key member (same ▸ evicted)).2 entry stored
        exact absurd lives (Nat.not_lt.mpr lapsed)
      · exact (inv.indexed found nofun key member entry stored lives).imp_left
          fun ⟨mark, marked, later⟩ => ⟨mark, (if_neg same).trans marked, later⟩
    · have old : key.id ≠ keyID ∧ s.shared.index key.id = some mark := by
        simpa [Shared.deleteIndex, Shared.succeed] using stored
      exact inv.kept.points key member mark old.2
    · rcases List.mem_cons.mp returned with rfl | old
      · exact evicted
      · exact inv.kept.returned id old
  · exact held.succeed

/-- Every step that meets the condition keeps the invariant. -/
theorem act_inv {fails : Bool} (inv : Inv keys s) (found : s.clients[index]? = some client)
    (careful : Careful keys s.shared s.clients fails client) :
    Inv keys (s.put index (act keys s.shared client fails)) := by
  have held := inv.clients _ (List.mem_of_getElem? found)
  cases client with
  | validate keyHash =>
    exact inv.silent found nofun ⟨Nat.le_refl _, fun _ known => known⟩
  | getSession keyHash start =>
    simp only [act]
    cases lives : s.shared.live (s.shared.sessions keyHash) with
    | none => exact inv.silent found nofun held
    | some session => exact getSession_inv inv found lives
  | getByHash keyHash start =>
    simp only [act]
    cases fails with
    | true => exact inv.silent found nofun trivial
    | false =>
      cases row : s.shared.getAPIKeyByHash keys keyHash with
      | none => exact inv.silent found nofun trivial
      | some key => exact getByHash_inv inv found row
  | setSession key start => exact setSession_inv inv found careful
  | setIndex key start => exact setIndex_inv inv found
  | accepted keyHash session start =>
    exact inv.silent found nofun held
  | revoke tenantID keyID =>
    simp only [act]
    cases fails with
    | true => exact inv.silent found nofun trivial
    | false => exact revoke_inv inv found (careful rfl)
  | getIndex keyID =>
    simp only [act]
    cases lives : s.shared.live (s.shared.index keyID) with
    | none =>
      obtain ⟨unwritten, unindexed⟩ := careful lives
      exact getIndex_inv inv found lives unwritten unindexed
    | some keyHash =>
      obtain ⟨lapse, marked, -⟩ := live_eq_some.mp lives
      have own : Holds keys s.shared (.deleteSession keyID keyHash) := by
        intro key member same
        refine ⟨held key member same, ?_⟩
        rw [← same] at marked
        exact (inv.kept.points key member _ marked).symm
      exact inv.silent found nofun own
  | deleteSession keyID keyHash => exact deleteSession_inv inv found careful
  | deleteIndex keyID => exact deleteIndex_inv inv found
  | finished => exact inv.silent found nofun trivial

end Step

end Invariant

section Runs

variable {keys : KeyTable}

theorem inv_initial (clock : Nat) (revokedAt : Uuid → Option Nat) :
    Inv keys (initial clock revokedAt) where
  kept :=
    { lapse := nofun
      indexed := nofun
      points := nofun
      gone := nofun
      returned := fun _ returned => by cases returned }
  clients _ member := by cases member

theorem step_inv {s : Sys} (turn : Turn Client Input) (guard : Guard keys s turn)
    (inv : Inv keys s) : Inv keys (s.step (next keys) turn) := by
  cases turn with
  | arrive client =>
    have own : Holds keys s.shared client := by
      rcases guard.1 with ⟨rawToken, rfl⟩ | ⟨tenantID, keyID, rfl⟩ <;> exact trivial
    refine ⟨?_, fun other member => ?_⟩
    · exact
        { lapse := inv.kept.lapse
          indexed := fun key member entry stored lives =>
            (inv.kept.indexed key member entry stored lives).imp_right fun ⟨start, writes⟩ =>
              ⟨start, List.mem_append_left _ writes⟩
          points := inv.kept.points
          gone := inv.kept.gone
          returned := inv.kept.returned }
    · rcases List.mem_append.mp member with old | new
      · exact inv.clients other old
      · rw [List.mem_singleton.mp new]
        exact own
  | act index input =>
    refine System.step_act_keeps inv fun client found => ?_
    exact act_inv (inv.tick input.elapsed) found (guard.2 index input client rfl found)

/-- Two keys have different sessions exactly when they are keys of different creators or tenants. -/
theorem separates_iff (uuidText : Uuid → String) :
    Separates uuidText keys ↔
      ∀ first ∈ keys.rows, ∀ second ∈ keys.rows, first.createdBy = second.createdBy →
        (¬∀ scope, scope ∈ first.scopes ↔ scope ∈ second.scopes) →
          uuidText first.tenantID ≠ uuidText second.tenantID := by
  have sameSession : ∀ first second : APIKey, first.createdBy = second.createdBy →
      (((buildAPIKeySession first).toPrincipal uuidText, permissions (buildAPIKeySession first)) =
        ((buildAPIKeySession second).toPrincipal uuidText,
          permissions (buildAPIKeySession second)) ↔
        uuidText first.tenantID = uuidText second.tenantID) := by
    intro first second creator
    have actor : actorTypeFromUserType "API" = .api := by decide
    simp only [ResolvedSession.toPrincipal, buildAPIKeySession, actor, permissions, creator,
      Prod.mk.injEq, Principal.mk.injEq, true_and, and_true]
    constructor
    · intro same
      exact (String.append_left_inj _).mp same
    · intro same
      rw [same]
  unfold Separates
  refine forall₂_congr fun first _ => forall₂_congr fun second _ => ?_
  refine forall₂_congr fun creator _ => ?_
  exact not_congr (sameSession first second creator)

/-- In every run whose steps meet the condition, no key is accepted by a validation that started
after its revocation had returned or after it had expired; and keys of one creator with different
scopes have different sessions exactly when they belong to different tenants. -/
theorem keys_respected_of_careful {s : Sys} {clock : Nat} {revokedAt : Uuid → Option Nat}
    (uuidText : Uuid → String)
    (run : Run (System.step (next keys)) (Guard keys) (initial clock revokedAt) s) :
    Respects keys s ∧
      (Separates uuidText keys ↔
        ∀ first ∈ keys.rows, ∀ second ∈ keys.rows, first.createdBy = second.createdBy →
          (¬∀ scope, scope ∈ first.scopes ↔ scope ∈ second.scopes) →
            uuidText first.tenantID ≠ uuidText second.tenantID) := by
  refine ⟨?_, separates_iff uuidText⟩
  have inv : Inv keys s :=
    run.invariant (inv_initial clock revokedAt) fun middle turn guard held =>
      step_inv turn guard held
  exact fun keyHash session start member => inv.clients _ member

end Runs

/-! ## A key that expires while its session is cached -/

def reader : APIKey where
  id := 1
  tenantID := 7
  name := "reader"
  keyHash := hashToken "eak_reader"
  scopes := ["finance.read"]
  createdBy := 42
  expiresAt := some (10 ^ 9)

def writer : APIKey where
  id := 2
  tenantID := 7
  name := "writer"
  keyHash := hashToken "eak_writer"
  scopes := ["finance.write"]
  createdBy := 42
  expiresAt := none

def oneKey (key : APIKey) : KeyTable where
  rows := [key]
  ids := List.nodup_singleton _
  hashes := List.nodup_singleton _

/-- A first validation, step by step, from nothing cached. -/
def firstValidation (key : APIKey) (rawToken : String) : List (Sys × Turn Client Input) :=
  let sh := (initial 0 fun _ => none).shared
  let start : Start := ⟨0, []⟩
  [(⟨sh, []⟩, .arrive (.validate (hashToken rawToken))),
    (⟨sh, [.validate (hashToken rawToken)]⟩, .act 0 {}),
    (⟨sh, [.getSession (hashToken rawToken) start]⟩, .act 0 {}),
    (⟨sh, [.getByHash (hashToken rawToken) start]⟩, .act 0 {}),
    (⟨sh, [.setSession key start]⟩, .act 0 {}),
    (⟨sh.setSession key, [.setIndex key start]⟩, .act 0 {})]

theorem run_firstValidation {guard : Sys → Turn Client Input → Prop} {key : APIKey}
    {rawToken : String} (hash : key.keyHash = hashToken rawToken)
    (unexpired : ∀ v, key.expiresAt = some v → 0 < v)
    (met : ∀ turn ∈ firstValidation key rawToken, guard turn.1 turn.2) :
    Run (System.step (next (oneKey key))) guard (initial 0 fun _ => none)
      ⟨((initial 0 fun _ => none).shared.setSession key).setIndex key,
        [.accepted key.keyHash (buildAPIKeySession key) ⟨0, []⟩]⟩ := by
  simp only [firstValidation, List.mem_cons, List.not_mem_nil, or_false, forall_eq_or_imp,
    forall_eq] at met
  obtain ⟨arrives, starts, misses, reads, stores, indexes⟩ := met
  have row : (initial 0 fun _ => none).shared.getAPIKeyByHash (oneKey key) (hashToken rawToken) =
      some key := by
    have inTime : ∀ v ∈ key.expiresAt, 0 < v := fun v expires => unexpired v expires
    refine List.find?_cons_of_pos ?_
    simpa [hash, initial] using inTime
  have first : Run (System.step (next (oneKey key))) guard (initial 0 fun _ => none)
      ⟨(initial 0 fun _ => none).shared, [.validate (hashToken rawToken)]⟩ :=
    Run.tail _ .refl arrives
  have second : Run (System.step (next (oneKey key))) guard (initial 0 fun _ => none)
      ⟨(initial 0 fun _ => none).shared, [.getSession (hashToken rawToken) ⟨0, []⟩]⟩ :=
    (Run.tail (.act 0 {}) first starts :)
  have third : Run (System.step (next (oneKey key))) guard (initial 0 fun _ => none)
      ⟨(initial 0 fun _ => none).shared, [.getByHash (hashToken rawToken) ⟨0, []⟩]⟩ :=
    (Run.tail (.act 0 {}) second misses :)
  have queried : next (oneKey key) (initial 0 fun _ => none).shared
      (.getByHash (hashToken rawToken) ⟨0, []⟩) {} =
        ((initial 0 fun _ => none).shared, .setSession key ⟨0, []⟩) := by
    change act (oneKey key) (initial 0 fun _ => none).shared _ false = _
    simp only [act, row, Bool.false_eq_true, if_false]
  have fourth : Run (System.step (next (oneKey key))) guard (initial 0 fun _ => none)
      ⟨(initial 0 fun _ => none).shared, [.setSession key ⟨0, []⟩]⟩ := by
    have asked := Run.tail (.act 0 {}) third reads
    rw [System.step_act rfl, queried] at asked
    exact asked
  have fifth : Run (System.step (next (oneKey key))) guard (initial 0 fun _ => none)
      ⟨(initial 0 fun _ => none).shared.setSession key, [.setIndex key ⟨0, []⟩]⟩ :=
    (Run.tail (.act 0 {}) fourth stores :)
  exact (Run.tail (.act 0 {}) fifth indexes :)

/-- A key of a thousand seconds. -/
def dated : APIKey := { writer with expiresAt := some (10 ^ 12) }

/-- The key is revoked, and a thousand seconds pass. -/
def revocation : List (Turn Client Input) :=
  [.arrive (.revoke dated.tenantID dated.id), .act 1 {}, .act 1 {}, .act 1 {}, .act 1 {},
    .act 1 { elapsed := 10 ^ 12 }]

/-- The state in which the key has been validated, revoked and has expired. -/
def revoked : Sys :=
  revocation.foldl (System.step (next (oneKey dated)))
    ⟨((initial 0 fun _ => none).shared.setSession dated).setIndex dated,
      [.accepted dated.keyHash (buildAPIKeySession dated) ⟨0, []⟩]⟩

/-- A validation, a revocation and the end of a key are in order. -/
theorem revocation_respected :
    dated.id ∈ revoked.shared.returned ∧ Respects (oneKey dated) revoked ∧
      (Separates toString (oneKey dated) ↔
        ∀ first ∈ (oneKey dated).rows, ∀ second ∈ (oneKey dated).rows,
          first.createdBy = second.createdBy →
            (¬∀ scope, scope ∈ first.scopes ↔ scope ∈ second.scopes) →
              toString first.tenantID ≠ toString second.tenantID) := by
  refine ⟨List.mem_singleton.mpr rfl, keys_respected_of_careful toString
    ((run_firstValidation rfl (fun v expires => ?_) ?_).trans (Run.foldl fun k bound => ?_))⟩
  · cases expires
    decide
  · simp only [firstValidation, List.mem_cons, List.not_mem_nil, or_false, forall_eq_or_imp,
      forall_eq]
    refine ⟨⟨.inl ⟨_, rfl⟩, nofun⟩, ?_⟩
    refine ⟨⟨trivial, ?_⟩, ⟨trivial, ?_⟩, ⟨trivial, ?_⟩, ⟨trivial, ?_⟩, ⟨trivial, ?_⟩⟩
    all_goals
      intro index input client same found
      cases same
      cases found
    · trivial
    · trivial
    · trivial
    · rintro _ ⟨⟩
      decide
    · trivial
  · match k, bound with
    | 0, _ => exact ⟨.inr ⟨_, _, rfl⟩, nofun⟩
    | 1, _ =>
      refine ⟨trivial, ?_⟩
      rintro _ _ _ ⟨⟩ ⟨⟩ _ key member _
      cases List.mem_singleton.mp member
      rfl
    | 2, _ =>
      refine ⟨trivial, ?_⟩
      rintro _ _ _ ⟨⟩ ⟨⟩ absent
      exact absurd (live_eq_none.mp absent _ rfl) (by decide)
    | 3, _ =>
      refine ⟨trivial, ?_⟩
      rintro _ _ _ ⟨⟩ ⟨⟩ _ _ (_ | ⟨_, _ | ⟨_, ⟨⟩⟩⟩)
    | 4, _ | 5, _ =>
      refine ⟨trivial, ?_⟩
      rintro _ _ _ ⟨⟩ ⟨⟩
      trivial

/-- A key of one second is cached for five minutes, and accepted after two seconds; and a key that
may read has the session of one that may write. -/
theorem expired_key_accepted :
    (∃ s, Run (System.step (next (oneKey reader))) Legal (initial 0 fun _ => none) s ∧
      ¬Respects (oneKey reader) s) ∧
    (reader.scopes ≠ writer.scopes ∧ reader.createdBy = writer.createdBy ∧
      ((buildAPIKeySession reader).toPrincipal toString, permissions (buildAPIKeySession reader)) =
        ((buildAPIKeySession writer).toPrincipal toString,
          permissions (buildAPIKeySession writer))) := by
  refine ⟨?_, by decide, rfl, rfl⟩
  have cached : Run (System.step (next (oneKey reader))) Legal (initial 0 fun _ => none)
      ⟨((initial 0 fun _ => none).shared.setSession reader).setIndex reader,
        [.accepted reader.keyHash (buildAPIKeySession reader) ⟨0, []⟩]⟩ := by
    refine run_firstValidation rfl (fun v expires => ?_) ?_
    · cases expires
      decide
    · simp [firstValidation, Legal]
  have turns : ∀ s index input, Legal s (.act index input) := fun _ _ _ => trivial
  have arrives : ∀ s, Legal s (.arrive (.validate (hashToken "eak_reader"))) :=
    fun _ => Or.inl ⟨_, rfl⟩
  have arrived := cached.tail _ (arrives _)
  have started := arrived.tail _ (turns _ 1 { elapsed := 2 * 10 ^ 9 })
  have hit := started.tail _ (turns _ 1 {})
  refine ⟨_, hit, fun respects => ?_⟩
  have accepted : Client.accepted (hashToken "eak_reader") (buildAPIKeySession reader)
      ⟨2 * 10 ^ 9, []⟩ ∈ (System.step (next (oneKey reader)) (System.step (next (oneKey reader))
        (System.step (next (oneKey reader))
          ⟨((initial 0 fun _ => none).shared.setSession reader).setIndex reader,
            [.accepted reader.keyHash (buildAPIKeySession reader) ⟨0, []⟩]⟩
          (.arrive (.validate (hashToken "eak_reader"))))
        (.act 1 { elapsed := 2 * 10 ^ 9 })) (.act 1 {})).clients := by
    simp [System.step, next, act, Shared.tick, Shared.live, Shared.setSession, Shared.setIndex,
      initial, reader, apiKeyCacheTTL]
  have late := (respects _ _ _ accepted reader (List.mem_singleton_self _) rfl).2 _ rfl
  exact absurd late (by decide)

end ErpFinance.Iam.ApiKeys
