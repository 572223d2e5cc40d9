import ErpFinance.Library.Text
import Mathlib.Algebra.Order.Group.Int

/-!
# Locks in Redis

A lock is a key whose value is the token of its holder and which expires.  The
scripts compare the token before they touch the key, so that whoever has lost a
lock leaves the next holder alone.  How long a lock lasts is another matter:
`Extend` sends whole milliseconds.
-/

namespace ErpFinance.Lock

open Library

/-! ## The store -/

/-- The value of a key, and when it expires; instants and durations are in nanoseconds. -/
structure Entry (τ : Type) where
  token : τ
  expiresAt : Option Int := none

section Store

variable {τ : Type} [DecidableEq τ]

/-- What the key has at an instant. -/
def live (entry : Option (Entry τ)) (now : Int) : Option (Entry τ) :=
  entry.filter fun e => e.expiresAt.all (now < ·)

/-- `GET`. -/
def getToken (entry : Option (Entry τ)) (now : Int) : Option τ := (live entry now).map Entry.token

/-- `SET NX`, with the expiry of the new key. -/
def setNX (entry : Option (Entry τ)) (token : τ) (expiry : Option Int) (now : Int) :
    Bool × Option (Entry τ) :=
  match live entry now with
  | some _ => (false, entry)
  | none => (true, some { token := token, expiresAt := expiry.map (now + ·) })

/-- The script of `Release`. -/
def releaseScript (entry : Option (Entry τ)) (token : τ) (now : Int) : Nat × Option (Entry τ) :=
  if getToken entry now = some token then (1, none) else (0, entry)

/-- `PEXPIRE` of a key that exists; an expiry that is not positive deletes it. -/
def pexpire (entry : Option (Entry τ)) (milliseconds now : Int) : Nat × Option (Entry τ) :=
  if milliseconds ≤ 0 then (1, none)
  else (1, entry.map fun e => { e with expiresAt := some (now + milliseconds * 10 ^ 6) })

/-- The script of `Extend`. -/
def extendScript (entry : Option (Entry τ)) (token : τ) (milliseconds now : Int) :
    Nat × Option (Entry τ) :=
  if getToken entry now = some token then pexpire entry milliseconds now else (0, entry)

end Store

/-- `Milliseconds` of a duration, rounded towards zero. -/
def milliseconds (ttl : Int) : Int := ttl.tdiv (10 ^ 6)

/-! ## The clients -/

/-- What a call returns; an `Acquire` that found the key taken goes on. -/
inductive Reply where
  | lock (number : Nat)
  | waiting
  | done
  | failed (message : String)
deriving DecidableEq

def ErrLockNotAcquired : String := "lock: not acquired"

/-- The calls of all clients on one key.  The number of a token is that of the call that has
drawn it, and of the lock that the call returns. -/
inductive Op where
  /-- `Acquire` draws its token. -/
  | acquire (ttl : Int)
  /-- One round of the loop of an `Acquire`. -/
  | attempt (call : Nat)
  /-- The context of an `Acquire` is done. -/
  | cancel (call : Nat)
  | tryAcquire (ttl : Int)
  | release (lock : Nat)
  | extend (lock : Nat) (ttl : Int)
  | pass (duration : Nat)

structure State (τ : Type) where
  entry : Option (Entry τ) := none
  now : Int := 0
  drawn : Nat := 0
  /-- The calls of `Acquire` under way, with their TTLs. -/
  calls : List (Nat × Int) := []
  /-- The locks that have been returned. -/
  locks : List Nat := []

section Clients

-- What the client library makes of the TTL of `SetNX`: an error, a key that stays, or one that
-- expires.
variable {τ : Type} [DecidableEq τ] (token : Nat ↪ τ) (expiry : Int → Option (Option Int))
  (key : String)

def lockKey (key : String) : String := "lock:" ++ key

/-- `SetNX` of a call; an error of the store ends the call. -/
def setNXFor (operation : String) (s : State τ) (call : Nat) (ttl : Int) : Reply × State τ :=
  match expiry ttl with
  | none => (.failed ("redis.lock." ++ operation ++ " " ++ quoted key ++
      ": ERR invalid expire time"), s)
  | some expiry =>
    let (taken, entry) := setNX s.entry (token call) expiry s.now
    if taken then (.lock call, { s with entry := entry, locks := call :: s.locks })
    else (.waiting, s)

def tryAcquire (s : State τ) (ttl : Int) : Reply × State τ :=
  let (reply, after) :=
    setNXFor token expiry key "TryAcquire" { s with drawn := s.drawn + 1 } s.drawn ttl
  (if reply = .waiting then .failed ErrLockNotAcquired else reply, after)

def release (s : State τ) (lock : Nat) : Reply × State τ :=
  let (n, entry) := releaseScript s.entry (token lock) s.now
  (if n = 0 then .failed ("redis.lock.Release " ++ quoted (lockKey key) ++
      ": lock expired or was released by another owner") else .done,
    { s with entry := entry })

def extend (s : State τ) (lock : Nat) (ttl : Int) : Reply × State τ :=
  let (n, entry) := extendScript s.entry (token lock) (milliseconds ttl) s.now
  (if n = 0 then .failed ("redis.lock.Extend " ++ quoted (lockKey key) ++
      ": lock expired or owned by another") else .done,
    { s with entry := entry })

/-- One step of any client, or of time. -/
def step (s : State τ) : Op → Reply × State τ
  | .acquire ttl =>
    (.waiting, { s with drawn := s.drawn + 1, calls := (s.drawn, ttl) :: s.calls })
  | .attempt call =>
    match s.calls.find? fun c => c.1 = call with
    | none => (.waiting, s)
    | some c =>
      let (reply, after) := setNXFor token expiry key "Acquire" s c.1 c.2
      if reply = .waiting then (reply, s)
      else (reply, { after with calls := s.calls.filter fun c => c.1 ≠ call })
  | .cancel call =>
    (.failed ErrLockNotAcquired, { s with calls := s.calls.filter fun c => c.1 ≠ call })
  | .tryAcquire ttl => tryAcquire token expiry key s ttl
  | .release lock => if lock ∈ s.locks then release token key s lock else (.waiting, s)
  | .extend lock ttl => if lock ∈ s.locks then extend token key s lock ttl else (.waiting, s)
  | .pass duration => (.waiting, { s with now := s.now + duration })

def after (ops : List Op) : State τ :=
  ops.foldl (fun s op => (step token expiry key s op).2) {}

/-! ## Holders -/

/-- The key has not expired and has the token of the lock. -/
def Holds (s : State τ) (lock : Nat) : Prop :=
  lock ∈ s.locks ∧ getToken s.entry s.now = some (token lock)

/-- What a step must keep to: the lock of a holder is no business of the others, a lock that is
lost stays without effect, and an extension lasts. -/
structure LawfulStep (s : State τ) (op : Op) : Prop where
  spares : ∀ lock, Holds token s lock → op ≠ .release lock → (∀ ttl, op ≠ .extend lock ttl) →
    (step token expiry key s op).2.entry = s.entry
  lost : ∀ lock, ¬ Holds token s lock → op = .release lock ∨ (∃ ttl, op = .extend lock ttl) →
    (step token expiry key s op).1 ≠ .done ∧ (step token expiry key s op).2 = s
  lasts : ∀ lock ttl, op = .extend lock ttl → (step token expiry key s op).1 = .done →
    ∀ t, s.now ≤ t → t < s.now + ttl →
      getToken (step token expiry key s op).2.entry t = some (token lock)

/-- At most one lock is held at a time, and every step is lawful. -/
def Lawful (ops : List Op) : Prop :=
  ∀ before rest, ops = before ++ rest →
    (∀ lock other, Holds token (after token expiry key before) lock →
      Holds token (after token expiry key before) other → lock = other) ∧
    ∀ op ∈ rest.head?, LawfulStep token expiry key (after token expiry key before) op

/-- A lock that is held is extended by a number of milliseconds, if at all. -/
def Whole (s : State τ) (op : Op) : Prop :=
  ∀ lock ttl, op = .extend lock ttl → Holds token s lock → ttl ≤ 0 ∨ (10 ^ 6 : Int) ∣ ttl

variable {token expiry key} {s : State τ} {lock other : Nat}

omit [DecidableEq τ] in
/-- Two locks have different tokens, so that the key has at most one of them. -/
theorem Holds.unique (first : Holds token s lock) (second : Holds token s other) :
    lock = other :=
  token.injective (Option.some.inj (first.2.symm.trans second.2))

omit [DecidableEq τ] in
theorem setNX_taken {entry : Option (Entry τ)} {now : Int} {mine theirs : τ}
    (taken : getToken entry now = some theirs) (expires : Option Int) :
    setNX entry mine expires now = (false, entry) := by
  obtain ⟨e, alive, _⟩ := Option.map_eq_some_iff.mp taken
  rw [setNX, alive]

variable (expiry key) in
omit [DecidableEq τ] in
theorem setNXFor_taken (holds : Holds token s lock) (operation : String) (call : Nat) (ttl : Int) :
    (setNXFor token expiry key operation s call ttl).2 = s := by
  rw [setNXFor]
  cases expiry ttl with
  | none => rfl
  | some expires =>
    dsimp only
    rw [setNX_taken holds.2]
    rfl

theorem release_other (holds : Holds token s lock) (different : lock ≠ other) :
    (release token key s other).2 = s := by
  have token_ne : getToken s.entry s.now ≠ some (token other) := fun equal =>
    different (token.injective (Option.some.inj (holds.2.symm.trans equal)))
  rw [release, releaseScript, if_neg token_ne]

theorem extend_other (holds : Holds token s lock) (different : lock ≠ other) (ttl : Int) :
    (extend token key s other ttl).2 = s := by
  have token_ne : getToken s.entry s.now ≠ some (token other) := fun equal =>
    different (token.injective (Option.some.inj (holds.2.symm.trans equal)))
  rw [extend, extendScript, if_neg token_ne]

/-- While a lock is held, nobody else changes the key. -/
theorem step_spares (holds : Holds token s lock) {op : Op} (noRelease : op ≠ .release lock)
    (noExtend : ∀ ttl, op ≠ .extend lock ttl) :
    (step token expiry key s op).2.entry = s.entry := by
  cases op with
  | acquire ttl => rfl
  | attempt call =>
    rw [step]
    cases s.calls.find? fun c => c.1 = call with
    | none => rfl
    | some c =>
      dsimp only
      split_ifs
      · rfl
      · have kept := congrArg State.entry
          (setNXFor_taken expiry key holds "Acquire" c.1 c.2)
        exact kept
  | cancel call => rfl
  | tryAcquire ttl =>
    have kept : Holds token { s with drawn := s.drawn + 1 } lock := holds
    have unchanged := congrArg State.entry
      (setNXFor_taken expiry key kept "TryAcquire" s.drawn ttl)
    exact unchanged
  | release other =>
    have different : lock ≠ other := fun equal => noRelease (by rw [equal])
    rw [step]
    split_ifs
    · rw [release_other holds different]
    · rfl
  | extend other ttl =>
    have different : lock ≠ other := fun equal => noExtend ttl (by rw [equal])
    rw [step]
    split_ifs
    · rw [extend_other holds different]
    · rfl
  | pass duration => rfl

/-- Whoever has lost a lock is told so, if it had one, and changes nothing. -/
theorem step_lost (lost : ¬ Holds token s lock) {op : Op}
    (own : op = .release lock ∨ ∃ ttl, op = .extend lock ttl) :
    (step token expiry key s op).1 ≠ .done ∧ (step token expiry key s op).2 = s := by
  by_cases had : lock ∈ s.locks
  · have token_ne : getToken s.entry s.now ≠ some (token lock) := fun equal => lost ⟨had, equal⟩
    rcases own with rfl | ⟨ttl, rfl⟩
    · rw [step, if_pos had, release, releaseScript, if_neg token_ne]
      exact ⟨nofun, rfl⟩
    · rw [step, if_pos had, extend, extendScript, if_neg token_ne]
      exact ⟨nofun, rfl⟩
  · rcases own with rfl | ⟨ttl, rfl⟩
    · rw [step, if_neg had]
      exact ⟨nofun, rfl⟩
    · rw [step, if_neg had]
      exact ⟨nofun, rfl⟩

/-! ## Extensions -/

theorem milliseconds_of_nonneg {ttl : Int} (nonneg : 0 ≤ ttl) :
    milliseconds ttl = ttl / 10 ^ 6 := Int.tdiv_eq_ediv_of_nonneg nonneg

/-- The holder's extension always succeeds. -/
theorem step_extend (holds : Holds token s lock) (ttl : Int) :
    step token expiry key s (.extend lock ttl) =
      (.done, { s with entry := (pexpire s.entry (milliseconds ttl) s.now).2 }) := by
  rw [step, if_pos holds.1, extend, extendScript, if_pos holds.2, pexpire]
  split_ifs <;> rfl

omit [DecidableEq τ] in
/-- Up to when a key lasts whose expiry has been set. -/
theorem getToken_pexpire {entry : Option (Entry τ)} {now ms t : Int} {mine : τ}
    (alive : getToken entry now = some mine) (positive : 0 < ms) :
    getToken (pexpire entry ms now).2 t = some mine ↔ t < now + ms * 10 ^ 6 := by
  obtain ⟨e, found, read⟩ := Option.map_eq_some_iff.mp alive
  obtain ⟨present, _⟩ := Option.filter_eq_some_iff.mp found
  rw [pexpire, if_neg (by omega), present, getToken, live, Option.map_some, Option.filter_some]
  simp only [Option.all_some, decide_eq_true_eq]
  by_cases before : t < now + ms * 10 ^ 6
  · rw [if_pos before]
    exact iff_of_true (congrArg some read) before
  · rw [if_neg before]
    exact iff_of_false nofun before

/-- An extension lasts if and only if it is of whole milliseconds, or asks for nothing. -/
theorem lasts_iff (holds : Holds token s lock) (ttl : Int) :
    (∀ t, s.now ≤ t → t < s.now + ttl →
      getToken (step token expiry key s (.extend lock ttl)).2.entry t = some (token lock)) ↔
      ttl ≤ 0 ∨ (10 ^ 6 : Int) ∣ ttl := by
  rw [step_extend holds ttl]
  dsimp only
  by_cases none : ttl ≤ 0
  · exact iff_of_true (fun t _ early => by omega) (.inl none)
  · rw [milliseconds_of_nonneg (by omega)]
    by_cases positive : 0 < ttl / 10 ^ 6
    · constructor
      · intro lasts
        have last := (getToken_pexpire holds.2 positive).mp
          (lasts (s.now + ttl - 1) (by omega) (by omega))
        exact .inr (by omega)
      · rintro (asks | whole) t _ early
        · exact absurd asks none
        · exact (getToken_pexpire holds.2 positive).mpr (by omega)
    · have deleted : (pexpire s.entry (ttl / 10 ^ 6) s.now).2 = .none := by
        rw [pexpire, if_pos (by omega)]
      rw [deleted]
      constructor
      · intro lasts
        cases lasts s.now le_rfl (by omega)
      · rintro (asks | whole)
        · exact absurd asks none
        · omega

theorem lawfulStep_iff (op : Op) : LawfulStep token expiry key s op ↔ Whole token s op := by
  constructor
  · rintro lawful lock ttl rfl holds
    refine (lasts_iff holds ttl).mp (lawful.lasts lock ttl rfl ?_)
    rw [step_extend holds ttl]
  · intro whole
    refine ⟨fun lock holds => step_spares holds, fun lock lost => step_lost lost, ?_⟩
    rintro lock ttl rfl success
    by_cases holds : Holds token s lock
    · exact (lasts_iff holds ttl).mpr (whole lock ttl rfl holds)
    · exact absurd success (step_lost holds (.inr ⟨ttl, rfl⟩)).1

end Clients

/-- In every interleaving of calls, expiry and time, the locks keep to their law if and only if
every extension of a held lock is of whole milliseconds. -/
theorem locks_lawful_iff {τ : Type} [DecidableEq τ] (token : Nat ↪ τ)
    (expiry : Int → Option (Option Int)) (key : String) (ops : List Op) :
    Lawful token expiry key ops ↔ ∀ before op rest, ops = before ++ op :: rest →
      Whole token (after token expiry key before) op := by
  constructor
  · intro lawful before op rest split
    exact (lawfulStep_iff op).mp ((lawful before (op :: rest) split).2 op rfl)
  · intro whole before rest split
    refine ⟨fun lock other first second => first.unique second, fun op next => ?_⟩
    cases rest with
    | nil => cases next
    | cons first rest =>
      obtain rfl := Option.some.inj next
      exact (lawfulStep_iff _).mpr (whole before _ rest split)

/-- The TTL of `SetNX` as the client library documents it: at least a millisecond, none for
zero, and refused where it is negative. -/
def documentedExpiry (ttl : Int) : Option (Option Int) :=
  if ttl = 0 ∨ ttl = -1 then some none
  else if ttl < 0 then none
  else some (some (max 1 (milliseconds ttl) * 10 ^ 6))

/-- Extending a lock of a minute by half a millisecond succeeds and deletes it; the next client
has it at once. -/
def shortExtension : List Op :=
  [.tryAcquire (60 * 10 ^ 9), .extend 0 500000, .tryAcquire (60 * 10 ^ 9)]

theorem shortExtension_unlawful :
    ((step (.refl Nat) documentedExpiry "series"
        (after (.refl Nat) documentedExpiry "series" (shortExtension.take 1))
        (.extend 0 500000)).1 = .done ∧
      (after (.refl Nat) documentedExpiry "series" shortExtension).locks = [1, 0] ∧
      getToken (after (.refl Nat) documentedExpiry "series" shortExtension).entry 0 = some 1) ∧
      ¬ Lawful (.refl Nat) documentedExpiry "series" shortExtension := by
  refine ⟨by decide +kernel, fun lawful => ?_⟩
  have split : shortExtension = [.tryAcquire (60 * 10 ^ 9)] ++
      [.extend 0 500000, .tryAcquire (60 * 10 ^ 9)] := rfl
  have lasts := ((lawful _ _ split).2 (.extend 0 500000) rfl).lasts 0 500000 rfl
    (by decide +kernel) 0 (by decide +kernel) (by decide +kernel)
  exact absurd lasts (by decide +kernel)

end ErpFinance.Lock
