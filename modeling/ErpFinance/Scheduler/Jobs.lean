import ErpFinance.Library.Text

/-!
# The scheduler

Jobs are functions of a cron library that starts them at their due times.
`Cancel` marks the entry of a job, which only `Status` reads; what has been
handed to the library stays there.
-/

namespace ErpFinance.Scheduler

open Library

structure JobEntry where
  spec : String
  runCount : Int := 0
  active : Bool := true

structure JobStatus where
  id : String
  spec : String
  active : Bool
  runCount : Int
deriving DecidableEq

/-- What a step returns; a firing returns the jobs whose functions it has started. -/
inductive Reply where
  | scheduled (id : String)
  | done
  | failed (message : String)
  | started (ids : List String)
deriving DecidableEq

inductive Op where
  /-- `Schedule`, up to the answer of the cron library. -/
  | schedule (spec : String)
  /-- `Schedule` writes the entry into the map and returns. -/
  | register (id : String)
  | cancel (id : String)
  /-- The cron library starts what is due. -/
  | fire (time : Nat)

structure State (σ : Type) where
  seq : Nat := 0
  /-- The functions of the cron library, by the entry that each has captured. -/
  cron : List (String × σ) := []
  entries : String → Option JobEntry := fun _ => none
  /-- The keys of the map of jobs. -/
  jobs : List String := []

section Steps

-- The schedule of a cron expression, and when it is due.
variable {σ : Type} (parse : String → Except String σ) (due : σ → Nat → Bool)

def jobID (seq : Nat) : String := "job-" ++ toString seq

/-- `Schedule`; the function that the library gets starts the job and counts its runs. -/
def schedule (s : State σ) (spec : String) : Reply × State σ :=
  if spec = "" then (.failed "scheduler: ScheduleSpec.Cron must not be empty", s)
  else
    let seq := s.seq + 1
    let id := jobID seq
    match parse spec with
    | .error message =>
      (.failed ("scheduler: parse cron " ++ quoted spec ++ ": " ++ message),
        { s with seq := seq })
    | .ok c =>
      (.scheduled id,
        { s with
          seq := seq
          cron := s.cron ++ [(id, c)]
          entries := Function.update s.entries id (some { spec := spec }) })

def cancel (s : State σ) (id : String) : Reply × State σ :=
  if id ∈ s.jobs then
    (.done,
      { s with
        entries := Function.update s.entries id
          ((s.entries id).map fun entry => { entry with active := false }) })
  else (.failed ("scheduler: job " ++ quoted id ++ " not found"), s)

def status (s : State σ) (id : String) : Option JobStatus :=
  if id ∈ s.jobs then
    (s.entries id).map fun entry =>
      { id := id, spec := entry.spec, active := entry.active, runCount := entry.runCount }
  else none

def starting (s : State σ) (time : Nat) : List String :=
  (s.cron.filter fun job => due job.2 time).map Prod.fst

/-- The entry of a job after its functions have been started. -/
def counted (ids : List String) (id : String) (entry : JobEntry) : JobEntry :=
  { entry with runCount := entry.runCount + (ids.count id : Int) }

def step (s : State σ) : Op → Reply × State σ
  | .schedule spec => schedule parse s spec
  | .register id =>
    if (s.entries id).isSome ∧ id ∉ s.jobs then (.done, { s with jobs := id :: s.jobs })
    else (.done, s)
  | .cancel id => cancel s id
  | .fire time =>
    let ids := starting due s time
    (.started ids, { s with entries := fun id => (s.entries id).map (counted ids id) })

def after (ops : List Op) : State σ := ops.foldl (fun s op => (step parse due s op).2) {}

/-! ## The law of cancellation -/

/-- A call of `Schedule` has handed a job with this schedule to the library. -/
def Scheduled (ops : List Op) (id : String) (c : σ) : Prop :=
  ∃ before spec rest, ops = before ++ .schedule spec :: rest ∧
    (step parse due (after parse due before) (.schedule spec)).1 = .scheduled id ∧
    parse spec = .ok c

/-- A call of `Cancel` has returned successfully. -/
def Cancelled (ops : List Op) (id : String) : Prop :=
  ∃ before rest, ops = before ++ .cancel id :: rest ∧
    (step parse due (after parse due before) (.cancel id)).1 = .done

structure LawfulStep (before : List Op) (op : Op) : Prop where
  stopped : ∀ time, op = .fire time → ∀ id, Cancelled parse due before id →
    id ∉ starting due (after parse due before) time
  apart : ∀ id, op = .cancel id → ∀ other, other ≠ id →
    (after parse due (before ++ [op])).entries other = (after parse due before).entries other ∧
    ∀ time, other ∈ starting due (after parse due (before ++ [op])) time ↔
      other ∈ starting due (after parse due before) time
  started : ∀ time, op = .fire time → ∀ id c, Scheduled parse due before id c →
    ¬ Cancelled parse due before id → due c time = true →
      id ∈ starting due (after parse due before) time

/-- Every step of the run keeps to the law. -/
def Lawful (ops : List Op) : Prop :=
  ∀ before op rest, ops = before ++ op :: rest → LawfulStep parse due before op

/-- No firing comes at a due time of a job that has been cancelled. -/
def Undue (before : List Op) (op : Op) : Prop :=
  ∀ time, op = .fire time → ∀ id c, Cancelled parse due before id →
    Scheduled parse due before id c → due c time = false

/-! ## What the library has -/

variable {parse due} {s : State σ} {before : List Op} {op : Op} {id : String} {c : σ}

theorem after_concat : after parse due (before ++ [op]) =
    (step parse due (after parse due before) op).2 := List.foldl_concat ..

/-- A step hands nothing to the library but the job of a call of `Schedule`. -/
theorem mem_cron_step : (id, c) ∈ (step parse due s op).2.cron ↔ (id, c) ∈ s.cron ∨
    ∃ spec, op = .schedule spec ∧ (step parse due s op).1 = .scheduled id ∧
      parse spec = .ok c := by
  cases op with
  | schedule spec =>
    by_cases empty : spec = ""
    · rw [step, schedule, if_pos empty]
      refine ⟨.inl, ?_⟩
      rintro (member | ⟨other, _, failed, _⟩)
      · exact member
      · cases failed
    · rw [step, schedule, if_neg empty]
      cases parsed : parse spec with
      | error message =>
        refine ⟨.inl, ?_⟩
        rintro (member | ⟨other, _, failed, _⟩)
        · exact member
        · cases failed
      | ok d =>
        dsimp only
        rw [List.mem_append, List.mem_singleton, Prod.mk.injEq]
        refine or_congr_right ⟨?_, ?_⟩
        · rintro ⟨rfl, rfl⟩
          exact ⟨spec, rfl, rfl, parsed⟩
        · rintro ⟨other, same, replied, ok⟩
          obtain rfl := Op.schedule.inj same
          exact ⟨(Reply.scheduled.inj replied).symm,
            Except.ok.inj (ok.symm.trans parsed)⟩
  | register other =>
    have kept : (step parse due s (.register other)).2.cron = s.cron := by
      rw [step]
      split_ifs <;> rfl
    rw [kept]
    exact ⟨.inl, fun either => either.resolve_right fun ⟨_, same, _⟩ => nomatch same⟩
  | cancel other =>
    have kept : (step parse due s (.cancel other)).2.cron = s.cron := by
      rw [step, cancel]
      split_ifs <;> rfl
    rw [kept]
    exact ⟨.inl, fun either => either.resolve_right fun ⟨_, same, _⟩ => nomatch same⟩
  | fire time => exact ⟨.inl, fun either => either.resolve_right fun ⟨_, same, _⟩ => nomatch same⟩

theorem scheduled_concat : Scheduled parse due (before ++ [op]) id c ↔
    Scheduled parse due before id c ∨ ∃ spec, op = .schedule spec ∧
      (step parse due (after parse due before) op).1 = .scheduled id ∧ parse spec = .ok c := by
  constructor
  · rintro ⟨first, spec, rest, split, replied, parsed⟩
    rcases List.eq_nil_or_concat' rest with rfl | ⟨rest, last, rfl⟩
    · obtain ⟨rfl, same⟩ := List.append_inj' split rfl
      obtain rfl := List.singleton_inj.mp same
      exact .inr ⟨spec, rfl, replied, parsed⟩
    · rw [← List.cons_append, ← List.append_assoc] at split
      obtain ⟨rfl, _⟩ := List.append_inj' split rfl
      exact .inl ⟨first, spec, rest, rfl, replied, parsed⟩
  · rintro (⟨first, spec, rest, rfl, replied, parsed⟩ | ⟨spec, rfl, replied, parsed⟩)
    · exact ⟨first, spec, rest ++ [op], by simp, replied, parsed⟩
    · exact ⟨before, spec, [], rfl, replied, parsed⟩

/-- The library has the jobs that have been scheduled, cancelled or not. -/
theorem mem_cron_iff : (id, c) ∈ (after parse due before).cron ↔
    Scheduled parse due before id c := by
  induction before using List.reverseRecOn with
  | nil => exact iff_of_false nofun fun ⟨first, _, _, split, _⟩ => by simp at split
  | append_singleton before op ih => rw [after_concat, mem_cron_step, scheduled_concat, ih]

theorem mem_starting_iff {time : Nat} : id ∈ starting due (after parse due before) time ↔
    ∃ c, Scheduled parse due before id c ∧ due c time = true := by
  rw [starting, List.mem_map]
  constructor
  · rintro ⟨⟨other, c⟩, member, rfl⟩
    obtain ⟨present, now⟩ := List.mem_filter.mp member
    exact ⟨c, mem_cron_iff.mp present, now⟩
  · rintro ⟨c, scheduled, now⟩
    exact ⟨(id, c), List.mem_filter.mpr ⟨mem_cron_iff.mpr scheduled, now⟩, rfl⟩

theorem cancel_cron (s : State σ) (id : String) : (cancel s id).2.cron = s.cron := by
  rw [cancel]
  split_ifs <;> rfl

theorem cancel_entries {other : String} (different : other ≠ id) (s : State σ) :
    (cancel s id).2.entries other = s.entries other := by
  rw [cancel]
  split_ifs
  · exact Function.update_of_ne different _ _
  · rfl

theorem lawfulStep_iff : LawfulStep parse due before op ↔ Undue parse due before op := by
  constructor
  · rintro lawful time rfl id c cancelled scheduled
    by_contra now
    exact lawful.stopped time rfl id cancelled
      (mem_starting_iff.mpr ⟨c, scheduled, Bool.eq_true_of_not_eq_false now⟩)
  · intro undue
    refine ⟨fun time fired id cancelled member => ?_, ?_, fun time fired id c scheduled _ now => ?_⟩
    · obtain ⟨c, scheduled, now⟩ := mem_starting_iff.mp member
      exact absurd now (Bool.eq_false_iff.mp (undue time fired id c cancelled scheduled))
    · rintro id rfl other different
      rw [after_concat, step]
      refine ⟨cancel_entries different _, fun time => ?_⟩
      rw [starting, cancel_cron, ← starting]
    · exact mem_starting_iff.mpr ⟨c, scheduled, now⟩

end Steps

/-- In every order of calls and firings, the scheduler keeps to the law of cancellation if and
only if no job that has been cancelled is due again. -/
theorem jobs_lawful_iff {σ : Type} (parse : String → Except String σ) (due : σ → Nat → Bool)
    (ops : List Op) : Lawful parse due ops ↔
      ∀ before op rest, ops = before ++ op :: rest → Undue parse due before op := by
  constructor
  · exact fun lawful before op rest split => lawfulStep_iff.mp (lawful before op rest split)
  · exact fun undue before op rest split => lawfulStep_iff.mpr (undue before op rest split)

/-- A job of every minute that is cancelled between two firings. -/
def cancelledJob : List Op :=
  [.schedule "* * * * *", .register "job-1", .fire 60, .cancel "job-1", .fire 120]

/-- Every expression is due at every minute. -/
def everyMinute (_ : Unit) (time : Nat) : Bool := time % 60 = 0

theorem cancelledJob_unlawful :
    (status (after (fun _ => .ok ()) everyMinute cancelledJob) "job-1" =
        some { id := "job-1", spec := "* * * * *", active := false, runCount := 2 } ∧
      starting everyMinute (after (fun _ => .ok ()) everyMinute (cancelledJob.take 4)) 120 =
        ["job-1"]) ∧
      ¬ Lawful (fun _ => .ok ()) everyMinute cancelledJob := by
  refine ⟨by decide +kernel, fun lawful => ?_⟩
  have split : cancelledJob = cancelledJob.take 4 ++ .fire 120 :: [] := rfl
  have cancelled : Cancelled (fun _ => .ok ()) everyMinute (cancelledJob.take 4) "job-1" :=
    ⟨cancelledJob.take 3, [], rfl, by decide +kernel⟩
  exact (lawful _ _ _ split).stopped 120 rfl "job-1" cancelled (by decide +kernel)

end ErpFinance.Scheduler
