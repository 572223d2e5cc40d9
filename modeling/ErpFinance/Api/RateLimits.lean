import ErpFinance.Library.Run
import ErpFinance.Library.Windows
import ErpFinance.Runtime.Errors
import Mathlib.Algebra.Order.Group.Int

/-!
# Rate limits

The limiters count the requests of a key in one counter whose expiry every
request puts off.  The counter is thus the number of requests since the last
gap of a window, which bounds what passes within a window and also shuts out
clients that stay below the limit.
-/

namespace ErpFinance.Api.RateLimits

open Library Library.Windows ErpFinance.Runtime

/-! ## The counter -/

/-- A counter, and when it expires; instants and durations are in nanoseconds. -/
structure Entry where
  value : Int
  expiresAt : Option Int := none

abbrev Redis := String → Option Entry

section Counter

variable (redis : Redis) (key : String) (delta window now : Int)

/-- What is stored under a key and has not expired. -/
def live : Option Entry :=
  (redis key).filter fun entry => entry.expiresAt.all (now < ·)

/-- `INCRBY`, which keeps the expiry. -/
def incrBy : Int × Redis :=
  match live redis key now with
  | some entry =>
    (entry.value + delta,
      Function.update redis key (some { entry with value := entry.value + delta }))
  | none => (delta, Function.update redis key (some { value := delta }))

def expire : Redis :=
  match live redis key now with
  | some entry => Function.update redis key (some { entry with expiresAt := some (now + window) })
  | none => redis

def incrementWithReset : Int × Redis :=
  let (value, redis) := incrBy redis key delta now
  (value, expire redis key window now)

end Counter

/-! ## The limiters -/

structure RateLimitConfig where
  requests : Int
  window : Int

def minute : Int := 60 * 10 ^ 9

def DefaultLoginRateLimit : RateLimitConfig where
  requests := 10
  window := minute

/-- A request with the locals that earlier handlers have set. -/
structure Request where
  tenantID : String := ""
  userID : String := ""
  ip : String
  time : Int

/-- What a limiter answers: its headers, and its refusal unless the next handler is called. -/
structure Reply where
  headers : List (String × String) := []
  refusal : Option Error := none

def Reply.passes (reply : Reply) : Bool := reply.refusal.isNone

/-- A limiter: the key of a request, and the answer to a count or to the failure of the counter,
which lets requests pass that it counts within the limit. -/
structure Limiter where
  key : Request → String
  reply : RateLimitConfig → Except Error Int → Reply
  passes_reply (cfg : RateLimitConfig) (count : Int) :
    (reply cfg (.ok count)).passes = decide (count ≤ cfg.requests)

/-- A request beyond the limit is refused. -/
def refusalOf (cfg : RateLimitConfig) (count : Int) (refusal : Error) : Option Error :=
  if count > cfg.requests then some refusal else none

theorem isNone_refusalOf (cfg : RateLimitConfig) (count : Int) (refusal : Error) :
    (refusalOf cfg count refusal).isNone = decide (count ≤ cfg.requests) := by
  rw [refusalOf]
  split_ifs with beyond
  · rw [decide_eq_false (not_le.mpr beyond)]
    rfl
  · rw [decide_eq_true (not_lt.mp beyond)]
    rfl

def RateLimit : Limiter where
  key r :=
    let tenantID := if r.tenantID = "" then "anon" else r.tenantID
    let userID := if r.userID = "" then r.ip else r.userID
    "rl:" ++ tenantID ++ ":" ++ userID
  reply cfg
    | .error _ => {}
    | .ok count =>
      { headers :=
          [("X-RateLimit-Limit", toString cfg.requests),
            ("X-RateLimit-Remaining", toString (max 0 (cfg.requests - count)))]
        refusal := refusalOf cfg count
          (.business "rate_limit_exceeded" "Too many requests — please slow down" 429) }
  passes_reply cfg count := isNone_refusalOf cfg count _

def LoginRateLimit : Limiter where
  key r := "rl:login:" ++ r.ip
  reply cfg
    | .error _ => {}
    | .ok count =>
      { refusal := refusalOf cfg count
          (.business "iam.login_rate_limited"
            "Too many login attempts. Please wait before trying again." 429) }
  passes_reply cfg count := isNone_refusalOf cfg count _

/-- The handler of a limiter over a counter that does not fail. -/
def Limiter.handle (limiter : Limiter) (cfg : RateLimitConfig) (redis : Redis) (r : Request) :
    Reply × Redis :=
  let (count, redis) := incrementWithReset redis (limiter.key r) 1 cfg.window r.time
  (limiter.reply cfg (.ok count), redis)

/-! ## Requests one after the other -/

/-- A request that has been answered. -/
structure Served where
  request : Request
  passed : Bool

/-- The counters, and the requests that have been answered, the last one first. -/
structure Gate where
  redis : Redis := fun _ => none
  served : List Served := []

section Gates

variable (limiter : Limiter) (cfg : RateLimitConfig)

def Gate.serve (gate : Gate) (r : Request) : Gate :=
  let (reply, redis) := limiter.handle cfg gate.redis r
  { redis := redis, served := ⟨r, reply.passes⟩ :: gate.served }

/-- Time does not go back. -/
def InTime (gate : Gate) (r : Request) : Prop :=
  ∀ last ∈ gate.served.head?, last.request.time ≤ r.time

def Gate.log (gate : Gate) (key : String) : List Served :=
  gate.served.filter fun s => limiter.key s.request = key

def Gate.times (gate : Gate) (key : String) : List Int :=
  (gate.log limiter key).map fun s => s.request.time

/-- Of the requests of a key no window lets more than the limit pass, and one that comes with no
more than the limit within the last window passes. -/
structure Lawful (log : List Served) : Prop where
  bounded : ∀ start, ((log.filter fun s => s.passed ∧ start ≤ s.request.time ∧
    s.request.time < start + cfg.window).length : Int) ≤ max cfg.requests 0
  unlocked : ∀ s earlier, s :: earlier <:+ log →
    ((earlier.filter fun other => s.request.time - other.request.time < cfg.window).length + 1 :
      Int) ≤ cfg.requests → s.passed = true

end Gates

section Counts

variable {redis : Redis} {key : String} {window now : Int} {times : List Int}

theorem incrementWithReset_eq (redis : Redis) (key : String) (window now : Int) :
    incrementWithReset redis key 1 window now =
      ((live redis key now).elim 1 fun entry => entry.value + 1,
        Function.update redis key
          (some ⟨(live redis key now).elim 1 fun entry => entry.value + 1,
            some (now + window)⟩)) := by
  rw [incrementWithReset, incrBy]
  cases found : live redis key now with
  | none =>
    dsimp only [Option.elim]
    rw [expire, live, Function.update_self]
    dsimp only [Option.filter, Option.all]
    rw [if_pos rfl]
    dsimp only
    rw [Function.update_idem]
  | some entry =>
    have fresh := (Option.filter_eq_some_iff.mp found).2
    dsimp only [Option.elim]
    rw [expire, live, Function.update_self]
    dsimp only [Option.filter]
    rw [if_pos fresh]
    dsimp only
    rw [Function.update_idem]

/-- The entry of a key whose requests came at such instants. -/
def entryOf (window : Int) (times : List Int) : Option Entry :=
  times.head?.map fun t => ⟨burst window times, some (t + window)⟩

/-- The count of a request is that of the requests in a row. -/
theorem count_eq (holds : redis key = entryOf window times) :
    ((live redis key now).elim 1 fun entry => entry.value + 1) =
      (burst window (now :: times) : Int) := by
  rw [live, holds]
  cases times with
  | nil => rfl
  | cons t rest =>
    rw [burst, entryOf]
    dsimp only [List.head?, Option.map, Option.filter, Option.all]
    by_cases near : now - t < window
    · rw [if_pos (decide_eq_true (by omega)), if_pos near]
      rfl
    · rw [if_neg (by rw [decide_eq_true_eq]; omega), if_neg near]
      rfl

end Counts

section Runs

variable {limiter : Limiter} {cfg : RateLimitConfig} {gate : Gate} {r : Request} {key : String}
  {log : List Served}

/-- Requests that have been judged by the number of those in a row. -/
def Judged (cfg : RateLimitConfig) (log : List Served) : Prop :=
  ∀ s earlier, s :: earlier <:+ log → s.passed = decide
    ((burst cfg.window ((s :: earlier).map fun s => s.request.time) : Int) ≤ cfg.requests)

/-- The counters are those of the requests so far, and each request has been judged by its own. -/
structure Gate.Sound (limiter : Limiter) (cfg : RateLimitConfig) (gate : Gate) : Prop where
  ordered : gate.served.Pairwise fun s earlier => s.request.time ≥ earlier.request.time
  counters : ∀ key, gate.redis key = entryOf cfg.window (gate.times limiter key)
  judged : ∀ key, Judged cfg (gate.log limiter key)

variable {served : List Served} {s : Served}

theorem log_cons_of_eq {redis : Redis} (same : limiter.key s.request = key) :
    Gate.log limiter ⟨redis, s :: served⟩ key = s :: Gate.log limiter ⟨redis, served⟩ key :=
  List.filter_cons_of_pos (decide_eq_true same)

theorem log_cons_of_ne {redis : Redis} (other : limiter.key s.request ≠ key) :
    Gate.log limiter ⟨redis, s :: served⟩ key = Gate.log limiter ⟨redis, served⟩ key :=
  List.filter_cons_of_neg (by simpa using other)

theorem times_cons_of_eq {redis : Redis} (same : limiter.key s.request = key) :
    Gate.times limiter ⟨redis, s :: served⟩ key =
      s.request.time :: Gate.times limiter ⟨redis, served⟩ key := by
  rw [Gate.times, log_cons_of_eq same, List.map_cons, Gate.times]

theorem times_cons_of_ne {redis : Redis} (other : limiter.key s.request ≠ key) :
    Gate.times limiter ⟨redis, s :: served⟩ key = Gate.times limiter ⟨redis, served⟩ key := by
  rw [Gate.times, log_cons_of_ne other, Gate.times]

theorem serve_eq (sound : gate.Sound limiter cfg) :
    gate.serve limiter cfg r =
      { redis := Function.update gate.redis (limiter.key r)
          (entryOf cfg.window (r.time :: gate.times limiter (limiter.key r)))
        served := ⟨r, decide ((burst cfg.window
          (r.time :: gate.times limiter (limiter.key r)) : Int) ≤ cfg.requests)⟩ ::
            gate.served } := by
  rw [Gate.serve, Limiter.handle, incrementWithReset_eq, count_eq (sound.counters _)]
  dsimp only
  rw [limiter.passes_reply]
  rfl

theorem Gate.Sound.step (sound : gate.Sound limiter cfg) (inTime : InTime gate r) :
    (gate.serve limiter cfg r).Sound limiter cfg := by
  rw [serve_eq sound]
  refine ⟨?_, fun key => ?_, fun key s earlier among => ?_⟩
  · refine List.pairwise_cons.mpr ⟨fun s member => ?_, sound.ordered⟩
    cases served : gate.served with
    | nil =>
      rw [served] at member
      cases member
    | cons last rest =>
      have ordered := sound.ordered
      rw [served] at member ordered
      have later : last.request.time ≤ r.time := inTime last (by rw [served]; rfl)
      rcases List.mem_cons.mp member with rfl | further
      · exact later
      · exact le_trans ((List.pairwise_cons.mp ordered).1 s further) later
  · by_cases same : limiter.key r = key
    · rw [times_cons_of_eq same, ← same]
      exact Function.update_self _ _ _
    · rw [times_cons_of_ne same]
      exact (Function.update_of_ne (Ne.symm same) _ _).trans (sound.counters key)
  · by_cases same : limiter.key r = key
    · rw [log_cons_of_eq same] at among
      rcases List.suffix_cons_iff.mp among with new | old
      · obtain ⟨rfl, rfl⟩ := List.cons.inj new
        rw [← same]
        rfl
      · exact sound.judged key s earlier old
    · rw [log_cons_of_ne same] at among
      exact sound.judged key s earlier among

theorem Gate.Sound.descending (sound : gate.Sound limiter cfg) (key : String) :
    (gate.times limiter key).Pairwise (· ≥ ·) :=
  List.pairwise_map.mpr (sound.ordered.sublist List.filter_sublist)

/-- The requests that passed are those that were within the limit in a row. -/
theorem admitted_of_judged (judged : Judged cfg log) :
    ((log.filter fun s => s.passed).map fun s => s.request.time) =
      admitted cfg.window cfg.requests.toNat (log.map fun s => s.request.time) := by
  induction log with
  | nil => rfl
  | cons s earlier ih =>
    have first := judged s earlier (List.suffix_refl _)
    have others := ih fun other rest among =>
      judged other rest (among.trans (List.suffix_cons s earlier))
    have positive : 0 < burst cfg.window ((s :: earlier).map fun s => s.request.time) :=
      burst_pos
    rw [List.map_cons] at first positive
    rw [List.map_cons, admitted]
    by_cases few :
        (burst cfg.window (s.request.time :: earlier.map fun s => s.request.time) : Int) ≤
          cfg.requests
    · rw [List.filter_cons_of_pos (by rw [first]; exact decide_eq_true few), if_pos (by omega),
        List.map_cons, others]
    · rw [List.filter_cons_of_neg (by rw [first, decide_eq_true_eq]; exact few),
        if_neg (by omega), others]

theorem length_passed (judged : Judged cfg log) (start : Int) :
    (log.filter fun s => s.passed ∧ start ≤ s.request.time ∧
      s.request.time < start + cfg.window).length =
        (inside start cfg.window cfg.requests.toNat (log.map fun s => s.request.time)).length := by
  rw [inside, ← admitted_of_judged judged, List.filter_map, List.length_map, List.filter_filter]
  refine congrArg List.length (List.filter_congr fun s _ => ?_)
  simp only [Function.comp_apply, Bool.decide_and, Bool.decide_eq_true, Bool.and_comm]

theorem recent_eq (window : Int) (s : Served) (earlier : List Served) :
    (earlier.filter fun other => s.request.time - other.request.time < window).length + 1 =
      recent window ((s :: earlier).map fun s => s.request.time) := by
  rw [List.map_cons, recent, List.filter_map, List.length_map]
  rfl

theorem unlocked_iff (judged : Judged cfg log) :
    (∀ s earlier, s :: earlier <:+ log →
      ((earlier.filter fun other => s.request.time - other.request.time < cfg.window).length + 1 :
        Int) ≤ cfg.requests → s.passed = true) ↔
      ∀ t rest, t :: rest <:+ log.map (fun s => s.request.time) →
        recent cfg.window (t :: rest) ≤ cfg.requests.toNat →
          burst cfg.window (t :: rest) ≤ cfg.requests.toNat := by
  constructor
  · intro unlocked t rest among few
    obtain ⟨suffix', isSuffix, same⟩ := List.suffix_map_iff.mp among
    obtain ⟨s, earlier, rfl, rfl, rfl⟩ := List.map_eq_cons_iff.mp same.symm
    rw [← List.map_cons (f := fun s : Served => s.request.time), ← recent_eq] at few
    have passed := unlocked s earlier isSuffix (by omega)
    rw [judged s earlier isSuffix, decide_eq_true_eq, List.map_cons] at passed
    omega
  · intro suffices' s earlier among few
    have within := suffices' _ _ (among.map fun s : Served => s.request.time)
    rw [← List.map_cons (f := fun s : Served => s.request.time), ← recent_eq] at within
    have positive : 0 < burst cfg.window ((s :: earlier).map fun s => s.request.time) := burst_pos
    have inRow := within (by omega)
    rw [judged s earlier among, decide_eq_true_eq]
    omega

end Runs

/-- In every run a limiter lets no more than the limit pass in any window, and it lets every
request pass that comes with no more than the limit in the last window if and only if so many
requests in a row and one more lie within one window. -/
theorem lawful_iff_compact (limiter : Limiter) (cfg : RateLimitConfig) (gate : Gate)
    (run : Run (Gate.serve limiter cfg) InTime {} gate) (key : String) :
    Lawful cfg (gate.log limiter key) ↔
      Compact cfg.window cfg.requests.toNat (gate.times limiter key) := by
  have sound : gate.Sound limiter cfg := by
    refine run.invariant ⟨.nil, fun key => rfl, fun key s earlier among => ?_⟩ ?_
    · cases List.eq_nil_of_suffix_nil among
    · exact fun middle r inTime sound => sound.step inTime
  rw [← recent_suffices_iff (sound.descending key), Gate.times,
    ← unlocked_iff (sound.judged key)]
  refine ⟨fun lawful => lawful.unlocked, fun unlocked => ⟨fun start => ?_, unlocked⟩⟩
  rw [length_passed (sound.judged key)]
  have limited : (inside start cfg.window cfg.requests.toNat (gate.times limiter key)).length ≤
      cfg.requests.toNat := (length_inside_le (sound.descending key)).1
  rw [Gate.times] at limited
  omega

section Sample

/-- A login attempt after so many seconds. -/
def attempt (seconds : Nat) : Request where
  ip := "203.0.113.7"
  time := seconds * 10 ^ 9

def attempted (seconds : List Nat) : Gate :=
  (seconds.map attempt).foldl (Gate.serve LoginRateLimit DefaultLoginRateLimit) {}

/-- Two attempts in a minute pass. -/
theorem attempted_lawful :
    Lawful DefaultLoginRateLimit
      ((attempted [0, 30]).log LoginRateLimit "rl:login:203.0.113.7") := by
  have run : Run (Gate.serve LoginRateLimit DefaultLoginRateLimit) InTime {}
      (attempted [0, 30]) := by
    refine .tail (attempt 30) (.tail (attempt 0) .refl ?_) ?_
    · exact fun last none => by cases none
    · rintro last ⟨⟩
      decide
  refine (lawful_iff_compact _ _ _ run _).mpr fun _ group among length => ?_
  have times : (attempted [0, 30]).times LoginRateLimit "rl:login:203.0.113.7" =
      [30 * 10 ^ 9, 0] := by decide +kernel
  have short := among.length_le
  rw [times, length] at short
  exact absurd short (by decide)

/-- Of attempts every seven seconds no minute has more than nine, and the eleventh is refused. -/
theorem eleventh_refused :
    let log := (attempted ((List.range 11).map (7 * ·))).log LoginRateLimit
      "rl:login:203.0.113.7"
    log.map (fun s => s.passed) = false :: List.replicate 10 true ∧
      ¬ Lawful DefaultLoginRateLimit log := by
  intro log
  have passes : log.map (fun s => s.passed) = false :: List.replicate 10 true := by decide +kernel
  refine ⟨passes, fun lawful => ?_⟩
  cases requests : log with
  | nil =>
    rw [requests] at passes
    cases passes
  | cons s earlier =>
    rw [requests] at passes
    have few : (((log.tail.filter fun other => (log.map fun s => s.request.time).head! -
        other.request.time < DefaultLoginRateLimit.window).length + 1 : Nat) : Int) ≤
          DefaultLoginRateLimit.requests := by decide +kernel
    rw [requests] at few
    have passed := lawful.unlocked s earlier (by rw [requests]) few
    cases passed.symm.trans (List.cons.inj passes).1

end Sample

end ErpFinance.Api.RateLimits
