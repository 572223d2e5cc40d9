import ErpFinance.Iam.ResolvedSession
import ErpFinance.Library.Interleaving
import ErpFinance.Library.Lapse
import ErpFinance.Library.Table

/-!
# The session repository

A session is a row, a cached copy under the hash of its token, and an entry in a
cached list of its user's tokens.  An invalidation marks the rows first, and
then evicts the copy of one token or those on the list of one user; those of a
tenant are left to lapse.  A validation takes the copy where there is one, and
writes one where it has to read the row.
-/

namespace ErpFinance.Iam.SessionRepository

open Domain Library

/-! ## Rows -/

/-- A row of `user_sessions`. -/
structure SessionRow where
  tokenHash : String
  userID : Uuid
  tenantID : Uuid
  userType : String
  principalID : Option Uuid
  entityScope : EntityScope
  expiresAt : Nat
  active : Bool := true

/-- `UNIQUE (session_token)`. -/
instance : Keyed SessionRow String := ⟨SessionRow.tokenHash⟩

/-- What an invalidation is about. -/
inductive Target
  | token (hash : String)
  | user (userID : Uuid)
  | tenant (tenantID : Uuid)

/-- The `WHERE` clause of the three invalidations. -/
def Target.covers (target : Target) (row : SessionRow) : Bool :=
  match target with
  | .token hash => row.tokenHash = hash
  | .user userID => row.userID = userID
  | .tenant tenantID => row.tenantID = tenantID

/-- The session that `ValidateToken` makes of a row, which has no display name. -/
def resolve (row : SessionRow) : ResolvedSession where
  userID := row.userID
  userType := row.userType
  tenantID := row.tenantID
  principalID := row.principalID
  displayName := ""
  entityScope := row.entityScope

/-! ## Steps -/

structure Shared where
  clock : Nat
  rows : Table SessionRow
  /-- `session:{hash}`. -/
  cached : Lapsing String ResolvedSession
  /-- `user_sessions:{userID}`. -/
  lists : Lapsing Uuid (List String)
  /-- The invalidations that have started. -/
  begun : List Target
  /-- The tokens whose cached copy an invalidation has deleted. -/
  deleted : List String
  /-- The tokens for whose copy an invalidation has looked for the last time. -/
  evicted : List String
  /-- The tokens that were created before an invalidation of theirs that has returned success. -/
  revoked : List String

inductive Call
  -- `Create`
  | create (row : SessionRow)
  | getList (row : SessionRow)
  | setList (row : SessionRow) (hashes : List String) (ttl : Nat)
  -- `CacheResolved`
  | cacheResolved (hash : String) (resolved : ResolvedSession) (ttl : Nat)
  -- `ValidateToken`, with the revoked tokens at its start
  | validate (hash : String)
  | getCached (hash : String) (start : List String)
  | touchAndGet (hash : String) (start : List String)
  | setCached (row : SessionRow) (start : List String)
  | accepted (hash : String) (resolved : ResolvedSession) (start : List String)
  -- the three invalidations, with the tokens that were there at their start
  | invalidate (target : Target)
  | deactivate (target : Target) (before : List String)
  | deleteCached (hash : String) (before : List String)
  | getUserList (userID : Uuid) (before : List String)
  | deleteListed (userID : Uuid) (before hashes : List String)
  | finished

/-- The time that passes before a step, whether its statement fails, and the tenants whose rows it
sees on its connection. -/
structure Input where
  elapsed : Nat := 0
  fails : Bool := false
  sees : Uuid → Bool := fun _ => true

namespace Shared

variable (sh : Shared)

def tick (elapsed : Nat) : Shared := { sh with clock := sh.clock + elapsed }

def touchAndGetSession (sees : Uuid → Bool) (hash : String) : Option SessionRow :=
  (sh.rows.get? hash).filter fun row => row.active && sh.clock < row.expiresAt && sees row.tenantID

def begin (target : Target) : Shared := { sh with begun := target :: sh.begun }

/-- `InvalidateSession`, `InvalidateSessionsByUser` and `InvalidateSessionsByTenant`. -/
def deactivate (sees : Uuid → Bool) (target : Target) : Shared :=
  { sh with rows := sh.rows.mapRows (fun row =>
      if target.covers row && sees row.tenantID then { row with active := false } else row) (by
        intro row
        split <;> rfl) }

/-- Delete the copy of a token. -/
def deleteCached (hash : String) : Shared :=
  { sh with cached := sh.cached.drop hash, deleted := hash :: sh.deleted }

/-- The last look for the copies of some tokens. -/
def evict (hashes : List String) : Shared := { sh with evicted := hashes ++ sh.evicted }

/-- An invalidation returns success. -/
def succeed (before : List String) : Shared := { sh with revoked := before ++ sh.revoked }

end Shared

/-- One step of a call, at the present time. -/
def act (sh : Shared) (call : Call) (i : Input) : Shared × Call :=
  match call with
  | .create row =>
    if i.fails ∨ (sh.rows.get? row.tokenHash).isSome then (sh, .finished)
    else ({ sh with rows := sh.rows.insert { row with active := true } }, .getList row)
  | .getList row =>
    if sh.clock < row.expiresAt then
      let hashes := (sh.lists.live sh.clock row.userID).getD []
      (sh, .setList row (hashes ++ [row.tokenHash]) (row.expiresAt - sh.clock))
    else (sh, .finished)
  | .setList row hashes ttl =>
    ({ sh with lists := sh.lists.put row.userID hashes (sh.clock + ttl) }, .finished)
  | .cacheResolved hash resolved ttl =>
    ({ sh with cached := sh.cached.put hash resolved (sh.clock + ttl) }, .finished)
  | .validate hash => (sh, .getCached hash sh.revoked)
  | .getCached hash start =>
    match sh.cached.live sh.clock hash with
    | some resolved => (sh, .accepted hash resolved start)
    | none => (sh, .touchAndGet hash start)
  | .touchAndGet hash start =>
    if i.fails then (sh, .finished)
    else match sh.touchAndGetSession i.sees hash with
      | none => (sh, .finished)
      | some row => (sh, .setCached row start)
  | .setCached row start =>
    let after := if sh.clock < row.expiresAt then
        { sh with cached := sh.cached.put row.tokenHash (resolve row) row.expiresAt }
      else sh
    (after, .accepted row.tokenHash (resolve row) start)
  | .invalidate target =>
    (sh.begin target,
      .deactivate target ((sh.rows.rows.filter target.covers).map SessionRow.tokenHash))
  | .deactivate target before =>
    if i.fails then (sh, .finished)
    else match target with
      | .token hash => (sh.deactivate i.sees target, .deleteCached hash before)
      | .user userID => (sh.deactivate i.sees target, .getUserList userID before)
      | .tenant _ => (((sh.deactivate i.sees target).evict before).succeed before, .finished)
  | .deleteCached hash before =>
    (((sh.deleteCached hash).evict before).succeed before, .finished)
  | .getUserList userID before =>
    match sh.lists.live sh.clock userID with
    | none => ((sh.evict before).succeed before, .finished)
    | some hashes =>
      (sh.evict (before.filter (· ∉ hashes)), .deleteListed userID before hashes)
  | .deleteListed userID before [] =>
    ({ sh with lists := sh.lists.drop userID }.succeed before, .finished)
  | .deleteListed userID before (hash :: hashes) =>
    ((sh.deleteCached hash).evict (before.filter (· = hash)),
      .deleteListed userID before hashes)
  | .accepted hash resolved start => (sh, .accepted hash resolved start)
  | .finished => (sh, .finished)

/-- One step of a call, after some time. -/
def next (sh : Shared) (call : Call) (i : Input) : Shared × Call :=
  act (sh.tick i.elapsed) call i

/-! ## The rule and the condition -/

abbrev Sys := System Shared Call

/-- No validation has accepted a token that was revoked when it started; and an invalidation has
only changed rows and deleted copies of tokens that it covers. -/
structure Respects (s : Sys) : Prop where
  accepted : ∀ hash resolved start, Call.accepted hash resolved start ∈ s.clients → hash ∉ start
  rows : ∀ row ∈ s.shared.rows.rows, row.active = false →
    ∃ target ∈ s.shared.begun, target.covers row = true
  copies : ∀ row ∈ s.shared.rows.rows, row.tokenHash ∈ s.shared.deleted →
    ∃ target ∈ s.shared.begun, target.covers row = true

/-- What a step has to meet.  A copy is written of no token that an invalidation has looked for the
last time.  An invalidation sees the active rows that it covers; that of a tenant finds no copy of
its tokens, and that of a user none of a token that is not on the list. -/
def Careful (sh : Shared) (i : Input) : Call → Prop
  | .cacheResolved hash _ _ => hash ∉ sh.evicted
  | .setCached row _ => sh.clock < row.expiresAt → row.tokenHash ∉ sh.evicted
  | .deactivate target before =>
    i.fails = false →
      (∀ hash ∈ before, ∀ row, sh.rows.get? hash = some row → row.active = true →
        i.sees row.tenantID = true) ∧
        ∀ tenantID, target = .tenant tenantID →
          ∀ hash ∈ before, sh.cached.live sh.clock hash = none
  | .getUserList userID before =>
    ∀ hash ∈ before, hash ∉ (sh.lists.live sh.clock userID).getD [] →
      sh.cached.live sh.clock hash = none
  | _ => True

/-- The calls arrive, and act in any order.  A copy is written of a token that has been created. -/
def Legal (s : Sys) : Turn Call Input → Prop
  | .arrive call =>
    (∃ row, call = .create row) ∨ (∃ hash, call = .validate hash) ∨
      (∃ target, call = .invalidate target) ∨
        ∃ hash resolved ttl, call = .cacheResolved hash resolved ttl ∧
          (s.shared.rows.get? hash).isSome ∧ 0 < ttl
  | .act _ _ => True

/-- A turn whose step meets the condition. -/
def Guard (s : Sys) (turn : Turn Call Input) : Prop :=
  Legal s turn ∧ ∀ index input call, turn = .act index input → s.clients[index]? = some call →
    Careful (s.shared.tick input.elapsed) input call

/-- No session and no call. -/
def initial (clock : Nat) : Sys where
  shared :=
    { clock := clock, rows := Table.empty, cached := Lapsing.empty, lists := Lapsing.empty
      begun := [], deleted := [], evicted := [], revoked := [] }
  clients := []

/-! ## What survives every step -/

/-- Rows stay, apart from their mark, and nothing that an invalidation has done is forgotten. -/
structure Later (sh after : Shared) : Prop where
  rows : ∀ hash row, sh.rows.get? hash = some row →
    ∃ active, after.rows.get? hash = some { row with active := active } ∧
      (row.active = false → active = false)
  begun : ∀ target ∈ sh.begun, target ∈ after.begun
  evicted : ∀ hash ∈ sh.evicted, hash ∈ after.evicted
  revoked : ∀ hash ∈ sh.revoked, hash ∈ after.revoked

/-- The token's row is marked. -/
def Inactive (sh : Shared) (hash : String) : Prop :=
  ∃ row, sh.rows.get? hash = some row ∧ row.active = false

/-- The token is one of the user. -/
def Owned (sh : Shared) (userID : Uuid) (hash : String) : Prop :=
  ∃ row, sh.rows.get? hash = some row ∧ row.userID = userID

/-- What a call knows between two of its steps. -/
def Holds (sh : Shared) : Call → Prop
  | .getList row => Owned sh row.userID row.tokenHash
  | .setList row hashes _ => ∀ hash ∈ hashes, Owned sh row.userID hash
  | .getCached _ start | .touchAndGet _ start => ∀ hash ∈ start, hash ∈ sh.revoked
  | .setCached row start => row.tokenHash ∉ start
  | .accepted hash _ start => hash ∉ start
  | .deactivate target before =>
    target ∈ sh.begun ∧
      ∀ hash ∈ before, ∃ row, sh.rows.get? hash = some row ∧ target.covers row = true
  | .deleteCached hash before =>
    .token hash ∈ sh.begun ∧ ∀ h ∈ before, h = hash ∧ Inactive sh h
  | .getUserList userID before => .user userID ∈ sh.begun ∧ ∀ hash ∈ before, Inactive sh hash
  | .deleteListed userID before hashes =>
    .user userID ∈ sh.begun ∧ (∀ hash ∈ hashes, Owned sh userID hash) ∧
      ∀ hash ∈ before, Inactive sh hash ∧ (hash ∈ hashes ∨ hash ∈ sh.evicted)
  | .create _ | .cacheResolved _ _ _ | .validate _ | .invalidate _ | .finished => True

structure Kept (sh : Shared) : Prop where
  gone : ∀ hash ∈ sh.evicted, Inactive sh hash ∧ sh.cached.live sh.clock hash = none
  returned : ∀ hash ∈ sh.revoked, hash ∈ sh.evicted
  rows : ∀ row ∈ sh.rows.rows, row.active = false → ∃ target ∈ sh.begun, target.covers row = true
  copies : ∀ hash ∈ sh.deleted, Target.token hash ∈ sh.begun ∨
    ∃ row, sh.rows.get? hash = some row ∧ Target.user row.userID ∈ sh.begun
  lists : ∀ userID entry, sh.lists userID = some entry → ∀ hash ∈ entry.1, Owned sh userID hash

structure Inv (s : Sys) : Prop where
  kept : Kept s.shared
  calls : ∀ call ∈ s.clients, Holds s.shared call

section Invariant

variable {sh after last : Shared} {hash : String} {userID : Uuid} {target : Target}

variable {row : SessionRow}

theorem Target.covers_active {active : Bool} :
    target.covers { row with active := active } = target.covers row := by
  cases target <;> rfl

/-! ### Later states -/

theorem Later.trans (first : Later sh after) (second : Later after last) : Later sh last where
  rows hash row found := by
    obtain ⟨active, between, keeps⟩ := first.rows hash row found
    obtain ⟨later, there, stays⟩ := second.rows hash _ between
    exact ⟨later, there, fun inactive => stays (keeps inactive)⟩
  begun target member := second.begun target (first.begun target member)
  evicted hash member := second.evicted hash (first.evicted hash member)
  revoked hash member := second.revoked hash (first.revoked hash member)

/-- A step that leaves the rows as they are. -/
theorem Later.of_rows (rows : after.rows = sh.rows)
    (begun : ∀ target ∈ sh.begun, target ∈ after.begun)
    (evicted : ∀ hash ∈ sh.evicted, hash ∈ after.evicted)
    (revoked : ∀ hash ∈ sh.revoked, hash ∈ after.revoked) : Later sh after where
  rows _ row found := ⟨row.active, rows ▸ found, fun inactive => inactive⟩
  begun := begun
  evicted := evicted
  revoked := revoked

theorem Later.refl : Later sh sh :=
  .of_rows rfl (fun _ member => member) (fun _ member => member) fun _ member => member

theorem Later.evict (hashes : List String) : Later sh (sh.evict hashes) :=
  .of_rows rfl (fun _ member => member) (fun _ member => List.mem_append_right _ member)
    fun _ member => member

theorem Later.succeed (hashes : List String) : Later sh (sh.succeed hashes) :=
  .of_rows rfl (fun _ member => member) (fun _ member => member)
    fun _ member => List.mem_append_right _ member

theorem Later.begin : Later sh (sh.begin target) :=
  .of_rows rfl (fun _ member => List.mem_cons_of_mem _ member) (fun _ member => member)
    fun _ member => member

theorem Later.deleteCached : Later sh (sh.deleteCached hash) :=
  .of_rows rfl (fun _ member => member) (fun _ member => member) fun _ member => member

variable {sees : Uuid → Bool}

theorem get?_deactivate :
    (sh.deactivate sees target).rows.get? hash = (sh.rows.get? hash).map fun row =>
      if target.covers row && sees row.tenantID then { row with active := false } else row := by
  rw [Shared.deactivate, Table.get?_mapRows]

theorem Later.deactivate : Later sh (sh.deactivate sees target) where
  rows hash row found := by
    rw [get?_deactivate, found, Option.map_some]
    split
    · exact ⟨false, rfl, fun _ => rfl⟩
    · exact ⟨row.active, rfl, fun inactive => inactive⟩
  begun _ member := member
  evicted _ member := member
  revoked _ member := member

theorem Later.insert (fresh : sh.rows.get? row.tokenHash = none) :
    Later sh { sh with rows := sh.rows.insert row } where
  rows hash old found := by
    have free : sh.rows.get? (Keyed.key row) = none := fresh
    have different : hash ≠ Keyed.key row := by
      rintro rfl
      rw [free] at found
      cases found
    refine ⟨old.active, ?_, fun inactive => inactive⟩
    change (sh.rows.insert row).get? hash = some old
    rw [Table.get?_insert free, if_neg different, found]
  begun _ member := member
  evicted _ member := member
  revoked _ member := member

theorem Inactive.later (later : Later sh after) (inactive : Inactive sh hash) :
    Inactive after hash := by
  obtain ⟨row, found, marked⟩ := inactive
  obtain ⟨active, there, keeps⟩ := later.rows hash row found
  exact ⟨_, there, keeps marked⟩

theorem Owned.later (later : Later sh after) (owned : Owned sh userID hash) :
    Owned after userID hash := by
  obtain ⟨row, found, same⟩ := owned
  obtain ⟨active, there, -⟩ := later.rows hash row found
  exact ⟨_, there, same⟩

/-- What a call knows stays true. -/
theorem Holds.later {call : Call} (later : Later sh after) (held : Holds sh call) :
    Holds after call := by
  cases call with
  | getList row => exact Owned.later later held
  | setList row hashes ttl => exact fun hash member => (held hash member).later later
  | getCached hash start => exact fun h member => later.revoked h (held h member)
  | touchAndGet hash start => exact fun h member => later.revoked h (held h member)
  | deactivate target before =>
    refine ⟨later.begun target held.1, fun hash member => ?_⟩
    obtain ⟨row, found, covers⟩ := held.2 hash member
    obtain ⟨active, there, -⟩ := later.rows hash row found
    exact ⟨_, there, Target.covers_active.trans covers⟩
  | deleteCached hash before =>
    exact ⟨later.begun _ held.1, fun h member =>
      (held.2 h member).imp_right (Inactive.later later)⟩
  | getUserList userID before =>
    exact ⟨later.begun _ held.1, fun h member => (held.2 h member).later later⟩
  | deleteListed userID before hashes =>
    refine ⟨later.begun _ held.1, fun h member => (held.2.1 h member).later later, ?_⟩
    intro h member
    exact (held.2.2 h member).imp (Inactive.later later) (Or.imp_right (later.evicted h))
  | setCached | accepted => exact held
  | create | cacheResolved | validate | invalidate | finished => trivial

/-! ### What each change keeps -/

theorem Kept.tick (kept : Kept sh) (elapsed : Nat) : Kept (sh.tick elapsed) where
  gone hash member :=
    (kept.gone hash member).imp_right
      (Lapsing.live_eq_none_of_earlier (Nat.le_add_right sh.clock elapsed))
  returned := kept.returned
  rows := kept.rows
  copies := kept.copies
  lists := kept.lists

theorem Kept.insert (kept : Kept sh) (fresh : sh.rows.get? row.tokenHash = none)
    (active : row.active = true) :
    Kept { sh with rows := sh.rows.insert row } := by
  have later := Later.insert fresh
  exact
    { gone := fun hash member => (kept.gone hash member).imp_left (Inactive.later later)
      returned := kept.returned
      rows := fun other member inactive => by
        have rows : (sh.rows.insert row).rows = sh.rows.rows ++ [row] := Table.rows_insert fresh
        rw [rows, List.mem_append, List.mem_singleton] at member
        rcases member with old | rfl
        · exact kept.rows other old inactive
        · rw [active] at inactive
          cases inactive
      copies := fun hash member => by
        refine (kept.copies hash member).imp_right fun ⟨old, found, started⟩ => ?_
        obtain ⟨mark, there, -⟩ := later.rows hash old found
        exact ⟨_, there, started⟩
      lists := fun userID entry stored hash member =>
        (kept.lists userID entry stored hash member).later later }

variable {hashes : List String}

theorem Kept.putList {lapse : Nat} (kept : Kept sh) (owned : ∀ hash ∈ hashes, Owned sh userID hash)
    :
    Kept { sh with lists := sh.lists.put userID hashes lapse } where
  gone := kept.gone
  returned := kept.returned
  rows := kept.rows
  copies := kept.copies
  lists other entry stored hash member := by
    rcases Lapsing.put_eq_some_cases sh.lists stored with ⟨rfl, rfl⟩ | ⟨-, old⟩
    · exact owned hash member
    · exact kept.lists other entry old hash member

theorem Kept.dropList (kept : Kept sh) : Kept { sh with lists := sh.lists.drop userID } where
  gone := kept.gone
  returned := kept.returned
  rows := kept.rows
  copies := kept.copies
  lists other entry stored :=
    kept.lists other entry (Lapsing.eq_some_of_drop sh.lists stored)

/-- A copy may be written of a token that no invalidation has looked for the last time. -/
theorem Kept.putCached {resolved : ResolvedSession} {lapse : Nat} (kept : Kept sh)
    (early : hash ∉ sh.evicted) :
    Kept { sh with cached := sh.cached.put hash resolved lapse } where
  gone other member := by
    have different : other ≠ hash := by
      rintro rfl
      exact early member
    refine (kept.gone other member).imp_right fun absent => ?_
    exact (Lapsing.live_put_of_ne sh.cached different).trans absent
  returned := kept.returned
  rows := kept.rows
  copies := kept.copies
  lists := kept.lists

theorem Kept.begin (kept : Kept sh) : Kept (sh.begin target) where
  gone := kept.gone
  returned := kept.returned
  rows row member inactive :=
    (kept.rows row member inactive).imp fun _ ⟨started, covers⟩ =>
      ⟨List.mem_cons_of_mem _ started, covers⟩
  copies hash member :=
    (kept.copies hash member).imp (List.mem_cons_of_mem _) fun ⟨row, found, started⟩ =>
      ⟨row, found, List.mem_cons_of_mem _ started⟩
  lists := kept.lists

theorem Kept.deactivate (kept : Kept sh) (started : target ∈ sh.begun) :
    Kept (sh.deactivate sees target) := by
  have later : Later sh (sh.deactivate sees target) := Later.deactivate
  exact
    { gone := fun hash member => (kept.gone hash member).imp_left (Inactive.later later)
      returned := kept.returned
      rows := fun row member inactive => by
        obtain ⟨old, stored, rfl⟩ := List.mem_map.mp member
        split at inactive
        · rename_i covered
          rw [Bool.and_eq_true] at covered
          rw [if_pos (by rw [covered.1, covered.2]; rfl)]
          exact ⟨target, started, Target.covers_active.trans covered.1⟩
        · rename_i spared
          rw [if_neg spared]
          exact kept.rows old stored inactive
      copies := fun hash member => by
        refine (kept.copies hash member).imp_right fun ⟨old, found, begun⟩ => ?_
        obtain ⟨mark, there, -⟩ := later.rows hash old found
        exact ⟨_, there, begun⟩
      lists := fun userID entry stored hash member =>
        (kept.lists userID entry stored hash member).later later }

theorem Kept.deleteCached (kept : Kept sh)
    (claimed : Target.token hash ∈ sh.begun ∨
      ∃ row, sh.rows.get? hash = some row ∧ Target.user row.userID ∈ sh.begun) :
    Kept (sh.deleteCached hash) where
  gone other member :=
    (kept.gone other member).imp_right (Lapsing.live_drop_eq_none sh.cached)
  returned := kept.returned
  rows := kept.rows
  copies other member := by
    rcases List.mem_cons.mp member with rfl | old
    · exact claimed
    · exact kept.copies other old
  lists := kept.lists

theorem Kept.evict (kept : Kept sh)
    (gone : ∀ hash ∈ hashes, Inactive sh hash ∧ sh.cached.live sh.clock hash = none) :
    Kept (sh.evict hashes) where
  gone hash member := (List.mem_append.mp member).elim (gone hash) (kept.gone hash)
  returned hash member := List.mem_append_right _ (kept.returned hash member)
  rows := kept.rows
  copies := kept.copies
  lists := kept.lists

theorem Kept.succeed (kept : Kept sh) (evicted : ∀ hash ∈ hashes, hash ∈ sh.evicted) :
    Kept (sh.succeed hashes) where
  gone := kept.gone
  returned hash member := (List.mem_append.mp member).elim (evicted hash) (kept.returned hash)
  rows := kept.rows
  copies := kept.copies
  lists := kept.lists

/-- Look for the last time and return. -/
theorem Kept.finish (kept : Kept sh)
    (gone : ∀ hash ∈ hashes, Inactive sh hash ∧ sh.cached.live sh.clock hash = none) :
    Kept ((sh.evict hashes).succeed hashes) :=
  (kept.evict gone).succeed fun _ member => List.mem_append_left _ member

end Invariant

section Step

variable {s : Sys} {index : Nat} {call new : Call} {after : Shared} {i : Input}

theorem Inv.act (inv : Inv s) (later : Later s.shared after) (kept : Kept after)
    (own : Holds after new) : Inv (s.put index (after, new)) where
  kept := kept
  calls other member := by
    rcases List.mem_or_eq_of_mem_set member with old | rfl
    · exact (inv.calls other old).later later
    · exact own

/-- A step that changes nothing shared. -/
theorem Inv.silent (inv : Inv s) (own : Holds s.shared new) :
    Inv (s.put index (s.shared, new)) :=
  inv.act .refl inv.kept own

theorem Inv.tick (inv : Inv s) (elapsed : Nat) :
    Inv { s with shared := s.shared.tick elapsed } where
  kept := inv.kept.tick elapsed
  calls call member :=
    (inv.calls call member).later
      (.of_rows rfl (fun _ member => member) (fun _ member => member) fun _ member => member)

theorem create_inv {row : SessionRow} (inv : Inv s)
    (fresh : s.shared.rows.get? row.tokenHash = none) :
    Inv
      (s.put index ({ s.shared with rows := s.shared.rows.insert { row with active := true } },
        .getList row)) := by
  have free : s.shared.rows.get? (SessionRow.tokenHash { row with active := true }) = none := fresh
  refine inv.act (Later.insert free) (inv.kept.insert free rfl) ?_
  refine ⟨{ row with active := true }, ?_, rfl⟩
  exact Table.get?_key_of_mem
    ((Table.rows_insert free).symm ▸ List.mem_append_right _ (List.mem_singleton_self _))

theorem getList_owned {row : SessionRow} (inv : Inv s)
    (own : Owned s.shared row.userID row.tokenHash) :
    ∀ hash ∈ (s.shared.lists.live s.shared.clock row.userID).getD [] ++ [row.tokenHash],
      Owned s.shared row.userID hash := by
  intro hash member
  rcases List.mem_append.mp member with listed | last
  · cases found : s.shared.lists.live s.shared.clock row.userID with
    | none =>
      rw [found] at listed
      cases listed
    | some hashes =>
      obtain ⟨lapse, stored, -⟩ := Lapsing.live_eq_some.mp found
      rw [found] at listed
      exact inv.kept.lists row.userID _ stored hash listed
  · rw [List.mem_singleton.mp last]
    exact own

/-- A validation that finds a copy or reads an active row may accept the token. -/
theorem not_mem_of_live {hash : String} {resolved : ResolvedSession} {start : List String}
    (inv : Inv s) (known : ∀ h ∈ start, h ∈ s.shared.revoked)
    (found : s.shared.cached.live s.shared.clock hash = some resolved) : hash ∉ start := by
  intro member
  have absent := (inv.kept.gone hash (inv.kept.returned hash (known hash member))).2
  rw [found] at absent
  cases absent

theorem not_mem_of_active {hash : String} {row : SessionRow} {start : List String} (inv : Inv s)
    (known : ∀ h ∈ start, h ∈ s.shared.revoked)
    (found : s.shared.touchAndGetSession i.sees hash = some row) : row.tokenHash ∉ start := by
  rw [Shared.touchAndGetSession, Option.filter_eq_some_iff] at found
  have key : row.tokenHash = hash := Table.key_of_get? found.1
  rw [key]
  intro member
  obtain ⟨other, there, inactive⟩ :=
    (inv.kept.gone hash (inv.kept.returned hash (known hash member))).1
  rw [found.1] at there
  cases there
  rw [inactive] at found
  cases found.2

theorem invalidate_inv {target : Target} (inv : Inv s) :
    Inv
      (s.put index (s.shared.begin target,
        .deactivate target
          ((s.shared.rows.rows.filter target.covers).map SessionRow.tokenHash))) := by
  refine inv.act .begin inv.kept.begin ⟨List.mem_cons_self, fun hash member => ?_⟩
  obtain ⟨row, covered, rfl⟩ := List.mem_map.mp member
  obtain ⟨stored, covers⟩ := List.mem_filter.mp covered
  exact ⟨row, Table.get?_key_of_mem stored, covers⟩

variable {before : List String}

theorem inactive_deactivate {target : Target} (held : Holds s.shared (.deactivate target before))
    (seen : ∀ hash ∈ before, ∀ row, s.shared.rows.get? hash = some row → row.active = true → i.sees
      row.tenantID = true) :
    ∀ hash ∈ before, Inactive (s.shared.deactivate i.sees target) hash := by
  intro hash member
  obtain ⟨row, found, covers⟩ := held.2 hash member
  cases marked : row.active with
  | false => exact Inactive.later Later.deactivate ⟨row, found, marked⟩
  | true =>
    refine ⟨{ row with active := false }, ?_, rfl⟩
    rw [get?_deactivate, found, Option.map_some, covers, seen hash member row found marked]
    rfl

theorem deactivate_inv {target : Target} (inv : Inv s)
    (found : s.clients[index]? = some (.deactivate target before)) (succeeds : i.fails = false)
    (careful : Careful s.shared i (.deactivate target before)) :
    Inv (s.put index (act s.shared (.deactivate target before) i)) := by
  have held := inv.calls _ (List.mem_of_getElem? found)
  obtain ⟨seen, unheld⟩ := careful succeeds
  have inactive := inactive_deactivate held seen
  have later : Later s.shared (s.shared.deactivate i.sees target) := Later.deactivate
  have kept : Kept (s.shared.deactivate i.sees target) := inv.kept.deactivate held.1
  simp only [ErpFinance.Iam.SessionRepository.act, succeeds, Bool.false_eq_true, if_false]
  cases target with
  | token hash =>
    refine inv.act later kept ⟨held.1, fun h member => ⟨?_, inactive h member⟩⟩
    obtain ⟨row, there, covers⟩ := held.2 h member
    have key : row.tokenHash = h := Table.key_of_get? there
    exact key.symm.trans (of_decide_eq_true covers)
  | user userID => exact inv.act later kept ⟨held.1, inactive⟩
  | tenant tenantID =>
    have gone : ∀ hash ∈ before, Inactive (s.shared.deactivate i.sees (.tenant tenantID)) hash ∧
        s.shared.cached.live s.shared.clock hash = none :=
      fun hash member => ⟨inactive hash member, unheld tenantID rfl hash member⟩
    exact inv.act ((later.trans (.evict before)).trans (.succeed before)) (kept.finish gone)
      trivial

theorem deleteCached_inv {hash : String} (inv : Inv s)
    (found : s.clients[index]? = some (.deleteCached hash before)) :
    Inv (s.put index (((s.shared.deleteCached hash).evict before).succeed before, .finished)) := by
  obtain ⟨started, inactive⟩ := inv.calls _ (List.mem_of_getElem? found)
  have later : Later s.shared (s.shared.deleteCached hash) := Later.deleteCached
  have kept : Kept (s.shared.deleteCached hash) := inv.kept.deleteCached (.inl started)
  refine inv.act ((later.trans (.evict before)).trans (.succeed before)) (kept.finish ?_) trivial
  intro h member
  obtain ⟨rfl, marked⟩ := inactive h member
  exact ⟨marked.later later, Lapsing.live_drop_self _⟩

theorem getUserList_inv {userID : Uuid} (inv : Inv s)
    (found : s.clients[index]? = some (.getUserList userID before))
    (careful : Careful s.shared i (.getUserList userID before)) :
    Inv (s.put index (act s.shared (.getUserList userID before) i)) := by
  obtain ⟨started, inactive⟩ := inv.calls _ (List.mem_of_getElem? found)
  simp only [ErpFinance.Iam.SessionRepository.act]
  cases listed : s.shared.lists.live s.shared.clock userID with
  | none =>
    have gone : ∀ hash ∈ before, Inactive s.shared hash ∧
        s.shared.cached.live s.shared.clock hash = none := by
      intro hash member
      refine ⟨inactive hash member, careful hash member ?_⟩
      rw [listed]
      exact List.not_mem_nil
    exact inv.act ((Later.evict before).trans (.succeed before)) (inv.kept.finish gone) trivial
  | some hashes =>
    obtain ⟨lapse, stored, -⟩ := Lapsing.live_eq_some.mp listed
    have gone : ∀ hash ∈ before.filter (· ∉ hashes), Inactive s.shared hash ∧
        s.shared.cached.live s.shared.clock hash = none := by
      intro hash member
      obtain ⟨among, missing⟩ := List.mem_filter.mp member
      refine ⟨inactive hash among, careful hash among ?_⟩
      rw [listed]
      exact of_decide_eq_true missing
    refine inv.act (.evict _) (inv.kept.evict gone) ⟨started, ?_, fun hash member => ?_⟩
    · exact inv.kept.lists userID _ stored
    · refine ⟨inactive hash member, ?_⟩
      by_cases among : hash ∈ hashes
      · exact .inl among
      · exact .inr (List.mem_append_left _
          (List.mem_filter.mpr ⟨member, decide_eq_true among⟩))

theorem deleteListed_inv {userID : Uuid} {before hashes : List String} {hash : String}
    (inv : Inv s)
    (found : s.clients[index]? = some (.deleteListed userID before (hash :: hashes))) :
    Inv
      (s.put index ((s.shared.deleteCached hash).evict (before.filter (· = hash)),
        .deleteListed userID before hashes)) := by
  obtain ⟨started, owned, listed⟩ := inv.calls _ (List.mem_of_getElem? found)
  have later : Later s.shared (s.shared.deleteCached hash) := Later.deleteCached
  have claimed : ∃ row, s.shared.rows.get? hash = some row ∧
      Target.user row.userID ∈ s.shared.begun := by
    obtain ⟨row, there, same⟩ := owned hash List.mem_cons_self
    exact ⟨row, there, same ▸ started⟩
  have kept : Kept (s.shared.deleteCached hash) := inv.kept.deleteCached (.inr claimed)
  have last := later.trans (.evict (before.filter (· = hash)))
  have gone : ∀ h ∈ before.filter (· = hash), Inactive (s.shared.deleteCached hash) h ∧
      (s.shared.cached.drop hash).live s.shared.clock h = none := by
    intro h member
    obtain ⟨among, same⟩ := List.mem_filter.mp member
    obtain rfl : h = hash := of_decide_eq_true same
    exact ⟨(listed h among).1.later later, Lapsing.live_drop_self _⟩
  refine inv.act last (kept.evict gone) ⟨started, ?_, fun h member => ?_⟩
  · exact fun h member => (owned h (List.mem_cons_of_mem _ member)).later last
  · refine ⟨(listed h member).1.later last, ?_⟩
    rcases (listed h member).2 with next | evicted
    · rcases List.mem_cons.mp next with rfl | rest
      · exact .inr (List.mem_append_left _ (List.mem_filter.mpr ⟨member, decide_eq_true rfl⟩))
      · exact .inl rest
    · exact .inr (List.mem_append_right _ evicted)

/-- Every step that meets the condition keeps the invariant. -/
theorem act_inv (inv : Inv s) (found : s.clients[index]? = some call)
    (careful : Careful s.shared i call) :
    Inv (s.put index (act s.shared call i)) := by
  have held := inv.calls call (List.mem_of_getElem? found)
  cases call with
  | create row =>
    simp only [act]
    split
    · exact inv.silent trivial
    · rename_i accepted
      push Not at accepted
      exact create_inv inv (Option.isNone_iff_eq_none.mp (by simpa using accepted.2))
  | getList row =>
    simp only [act]
    split
    · exact inv.silent (getList_owned inv held)
    · exact inv.silent trivial
  | setList row hashes ttl =>
    exact inv.act (.of_rows rfl (fun _ member => member) (fun _ member => member)
      fun _ member => member) (inv.kept.putList held) trivial
  | cacheResolved hash resolved ttl =>
    exact inv.act (.of_rows rfl (fun _ member => member) (fun _ member => member)
      fun _ member => member) (inv.kept.putCached careful) trivial
  | validate hash => exact inv.silent fun _ member => member
  | getCached hash start =>
    simp only [act]
    cases copy : s.shared.cached.live s.shared.clock hash with
    | none => exact inv.silent held
    | some resolved => exact inv.silent (not_mem_of_live inv held copy)
  | touchAndGet hash start =>
    simp only [act]
    split
    · exact inv.silent trivial
    · cases row : s.shared.touchAndGetSession i.sees hash with
      | none => exact inv.silent trivial
      | some read => exact inv.silent (not_mem_of_active inv held row)
  | setCached row start =>
    simp only [act]
    split
    · rename_i unexpired
      exact inv.act (.of_rows rfl (fun _ member => member) (fun _ member => member)
        fun _ member => member) (inv.kept.putCached (careful unexpired)) held
    · exact inv.silent held
  | accepted hash resolved start => exact inv.silent held
  | invalidate target => exact invalidate_inv inv
  | deactivate target before =>
    cases fails : i.fails with
    | true =>
      simp only [act, fails, if_true]
      exact inv.silent trivial
    | false => exact deactivate_inv inv found fails careful
  | deleteCached hash before => exact deleteCached_inv inv found
  | getUserList userID before => exact getUserList_inv inv found careful
  | deleteListed userID before hashes =>
    cases hashes with
    | nil =>
      have evicted : ∀ hash ∈ before, hash ∈ s.shared.evicted := fun hash member =>
        (held.2.2 hash member).2.resolve_left List.not_mem_nil
      have later : Later s.shared { s.shared with lists := s.shared.lists.drop userID } :=
        .of_rows rfl (fun _ member => member) (fun _ member => member) fun _ member => member
      exact inv.act (later.trans (.succeed before)) (inv.kept.dropList.succeed evicted) trivial
    | cons hash hashes => exact deleteListed_inv inv found
  | finished => exact inv.silent trivial

end Step

/-! ## Every run -/

theorem inv_initial (clock : Nat) : Inv (initial clock) where
  kept :=
    { gone := nofun
      returned := nofun
      rows := nofun
      copies := nofun
      lists := fun _ _ stored => by cases stored }
  calls _ member := by cases member

theorem step_inv {s : Sys} (turn : Turn Call Input) (guard : Guard s turn) (inv : Inv s) :
    Inv (s.step next turn) := by
  cases turn with
  | arrive call =>
    refine ⟨inv.kept, fun other member => ?_⟩
    rcases List.mem_append.mp member with old | new
    · exact inv.calls other old
    · rw [List.mem_singleton.mp new]
      rcases guard.1 with ⟨_, rfl⟩ | ⟨_, rfl⟩ | ⟨_, rfl⟩ | ⟨_, _, _, rfl, -⟩ <;> trivial
  | act index input =>
    refine System.step_act_keeps inv fun call found => ?_
    exact act_inv (inv.tick input.elapsed) found (guard.2 index input call rfl found)

theorem Inv.respects {s : Sys} (inv : Inv s) : Respects s where
  accepted _ _ _ member := inv.calls _ member
  rows := inv.kept.rows
  copies row member deleted := by
    rcases inv.kept.copies row.tokenHash deleted with token | ⟨other, found, user⟩
    · exact ⟨_, token, decide_eq_true rfl⟩
    · have same : other = row := (Table.eq_of_get? found member rfl).symm
      exact ⟨_, user, decide_eq_true (same ▸ rfl)⟩

/-- In every run whose steps meet the condition, no revoked token is accepted, and no other
token is affected. -/
theorem revocations_respected_of_careful {s : Sys} {clock : Nat}
    (run : Run (System.step next) Guard (initial clock) s) : Respects s := by
  have inv : Inv s :=
    run.invariant (inv_initial clock) fun _ turn guard held => step_inv turn guard held
  exact inv.respects

/-! ## One session -/

def clerk : SessionRow where
  tokenHash := "c1"
  userID := 7
  tenantID := 1
  userType := "TENANT"
  principalID := none
  entityScope := { type := .all }
  expiresAt := 3600

/-- The clerk logs in, and is logged out everywhere; then the token is validated. -/
def logoutUser : List (Turn Call Input) :=
  [.arrive (.create clerk), .act 0 {}, .act 0 {}, .act 0 {},
    .arrive (.cacheResolved "c1" (resolve clerk) 3600), .act 1 {},
    .arrive (.invalidate (.user 7)), .act 2 {}, .act 2 {}, .act 2 {}, .act 2 {}, .act 2 {},
    .arrive (.validate "c1"), .act 3 {}, .act 3 {}, .act 3 {}]

def logoutTenant : List (Turn Call Input) :=
  [.arrive (.create clerk), .act 0 {}, .act 0 {}, .act 0 {},
    .arrive (.cacheResolved "c1" (resolve clerk) 3600), .act 1 {},
    .arrive (.invalidate (.tenant 1)), .act 2 {}, .act 2 {},
    .arrive (.validate "c1"), .act 3 {}, .act 3 {}]

/-- The clerk's copy is written after a logout everywhere has looked for it. -/
def logoutBetween : List (Turn Call Input) :=
  [.arrive (.create clerk), .act 0 {}, .act 0 {}, .act 0 {},
    .arrive (.cacheResolved "c1" (resolve clerk) 3600),
    .arrive (.invalidate (.user 7)), .act 2 {}, .act 2 {}, .act 2 {}, .act 2 {}, .act 2 {},
    .act 1 {},
    .arrive (.validate "c1"), .act 3 {}, .act 3 {}]

/-- The clerk's logout everywhere is respected. -/
theorem logout_respected : Respects (logoutUser.foldl (System.step next) (initial 0)) := by
  refine revocations_respected_of_careful (Run.foldl fun k bound => ?_)
  match k, bound with
  | 0, _ => exact ⟨.inl ⟨_, rfl⟩, fun _ _ _ same => by cases same⟩
  | 4, _ =>
    exact ⟨.inr (.inr (.inr ⟨_, _, _, rfl, rfl, by decide⟩)), fun _ _ _ same => by cases same⟩
  | 6, _ => exact ⟨.inr (.inr (.inl ⟨_, rfl⟩)), fun _ _ _ same => by cases same⟩
  | 12, _ => exact ⟨.inr (.inl ⟨_, rfl⟩), fun _ _ _ same => by cases same⟩
  | 5, _ =>
    refine ⟨trivial, ?_⟩
    rintro _ _ _ ⟨⟩ ⟨⟩
    exact List.not_mem_nil
  | 8, _ =>
    refine ⟨trivial, ?_⟩
    rintro _ _ _ ⟨⟩ ⟨⟩
    exact fun _ => ⟨fun _ _ _ _ _ => rfl, nofun⟩
  | 9, _ =>
    refine ⟨trivial, ?_⟩
    rintro _ _ _ ⟨⟩ ⟨⟩
    exact fun hash member missing => absurd member missing
  | 1, _ | 2, _ | 3, _ | 7, _ | 10, _ | 11, _ | 13, _ | 14, _ | 15, _ =>
    refine ⟨trivial, ?_⟩
    rintro _ _ _ ⟨⟩ ⟨⟩
    trivial
  | k + 16, bound => exact absurd bound (by simp [logoutUser])

/-- The clerk's token is accepted after the logout of the tenant, and after one of the user that
came between the two halves of the login. -/
theorem token_accepted_after_logout :
    (∃ s, Run (System.step next) Legal (initial 0) s ∧ ¬Respects s) ∧
      Run (System.step next) Legal (initial 0)
          (logoutBetween.foldl (System.step next) (initial 0)) ∧
        ¬Respects (logoutBetween.foldl (System.step next) (initial 0)) := by
  have tenant : Run (System.step next) Legal (initial 0)
      (logoutTenant.foldl (System.step next) (initial 0)) := by
    refine Run.foldl fun k bound => ?_
    match k, bound with
    | 0, _ => exact .inl ⟨_, rfl⟩
    | 4, _ => exact .inr (.inr (.inr ⟨_, _, _, rfl, rfl, by decide⟩))
    | 6, _ => exact .inr (.inr (.inl ⟨_, rfl⟩))
    | 9, _ => exact .inr (.inl ⟨_, rfl⟩)
    | 1, _ | 2, _ | 3, _ | 5, _ | 7, _ | 8, _ | 10, _ | 11, _ => trivial
    | k + 12, bound => exact absurd bound (by simp [logoutTenant])
  have between : Run (System.step next) Legal (initial 0)
      (logoutBetween.foldl (System.step next) (initial 0)) := by
    refine Run.foldl fun k bound => ?_
    match k, bound with
    | 0, _ => exact .inl ⟨_, rfl⟩
    | 4, _ => exact .inr (.inr (.inr ⟨_, _, _, rfl, rfl, by decide⟩))
    | 5, _ => exact .inr (.inr (.inl ⟨_, rfl⟩))
    | 12, _ => exact .inr (.inl ⟨_, rfl⟩)
    | 1, _ | 2, _ | 3, _ | 6, _ | 7, _ | 8, _ | 9, _ | 10, _ | 11, _ | 13, _ | 14, _ => trivial
    | k + 15, bound => exact absurd bound (by simp [logoutBetween])
  have accepted : ∀ s : Sys, Call.accepted "c1" (resolve clerk) ["c1"] ∈ s.clients →
      ¬Respects s := fun s member respects =>
    respects.accepted _ _ _ member (List.mem_singleton_self _)
  exact ⟨⟨_, tenant, accepted _ (List.mem_of_getElem? (i := 3) rfl)⟩, between,
    accepted _ (List.mem_of_getElem? (i := 3) rfl)⟩

end ErpFinance.Iam.SessionRepository
