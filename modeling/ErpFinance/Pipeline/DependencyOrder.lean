import ErpFinance.Pipeline.Compensation
import ErpFinance.Pipeline.Dag

/-!
# Dependencies and the order of execution

The stages of a run that takes no branch have their turns in the order of
their priorities, and only the enabled ones have a turn.  `DependsOn` plays no
part in it, so the turns follow the dependencies exactly when the priorities
and the feature flags do.
-/

namespace ErpFinance.Pipeline

open Library

universe u

variable {V : Type u} {registry : StageRegistry}

/-! ## Turns -/

/-- The stage that the next round of the loop executes, simulates or skips. -/
def turn (p : Execution V) : List String :=
  match p.loop with
  | some ⟨s :: _, _, _⟩ => [s.name]
  | _ => []

/-- The stage whose turn it is does not branch away from the next one. -/
def StraightOn (p : Execution V) (env : Env V) : Prop :=
  ∀ loop ∈ p.loop, ∀ s ∈ loop.remaining.head?,
    jump (runStage env p.ctx s).2.1.nextStageID loop.remaining.tail = loop.remaining.tail

/-- A round of the loop, with the turns so far. -/
def round (registry : StageRegistry) (txRunner : Bool) (st : Execution V × List String)
    (env : Env V) : Execution V × List String :=
  (@step V registry txRunner st.1 (.proceed env), st.2 ++ turn st.1)

/-- The same in a live run, where a turn is a call of `Execute`. -/
def LiveStraightOn (p : Execution V) (env : Env V) : Prop :=
  StraightOn p env ∧ p.ctx.dryRun = false

/-- The turns of a call of `Run` that takes no branch, up to some round of its loop. -/
def Turns (registry : StageRegistry) (txRunner : Bool) (listing : Listing registry)
    (ctx : OperationContext V) (turns : List String) : Prop :=
  ∃ p, Run (round registry txRunner) (fun st env => StraightOn st.1 env)
    (run listing ctx, []) (p, turns)

def Needs (registry : StageRegistry) (operationKey a b : String) : Prop :=
  DependsOn registry operationKey a b ∧ ∃ s, RegisteredFor registry operationKey b s

/-- Every dependency of an enabled stage is enabled and has a lower priority. -/
def PrioritiesFollow (registry : StageRegistry) (ctx : OperationContext V) : Prop :=
  ∀ s ∈ registry.rows, s.active ctx = true → ∀ dep ∈ s.dependsOn, ∀ t,
    RegisteredFor registry ctx.operationKey dep t →
      t.active ctx = true ∧ t.priority < s.priority

/-! ## The turns of a run -/

/-- The turns so far are a front part of the stages collected, and the loop holds the rest. -/
def OnCourse (names : List String) (st : Execution V × List String) : Prop :=
  ∃ rest, st.2 ++ rest = names ∧ ∀ loop, st.1.loop = some loop →
    loop.remaining.map Stage.name = rest

variable {s : Stage} {env : Env V}

/-- A round of the loop ends the call or leaves what the stage did not branch away from. -/
theorem iterate_remaining {p : Execution V} {loop after : Loop V} {rest : List Stage}
    (straight : jump (runStage env p.ctx s).2.1.nextStageID rest = rest)
    (going : (iterate registry env p loop s rest).loop = some after) : after.remaining = rest := by
  unfold iterate at going
  rcases ran : runStage env p.ctx s with ⟨ctx, result, err⟩
  rw [ran] at going straight
  cases err with
  | some text =>
    by_cases required : s.required = true
    · simp [required] at going
    · simp only [required] at going
      obtain rfl := Option.some.inj going
      rfl
  | none =>
    simp only at going
    split at going
    · simp at going
    · obtain rfl := Option.some.inj going
      exact straight

theorem finish_loop (txRunner : Bool) (env : Env V) (p : Execution V) :
    (finish txRunner env p).loop = none := by
  unfold finish
  split <;> rfl

variable {txRunner : Bool}

theorem OnCourse.round {names : List String} {st : Execution V × List String}
    (course : OnCourse names st) (straight : StraightOn st.1 env) :
    OnCourse names (round registry txRunner st env) := by
  obtain ⟨p, turns⟩ := st
  obtain ⟨rest, split, remains⟩ := course
  unfold Pipeline.round turn step
  cases under : p.loop with
  | none => exact ⟨rest, by simpa using split, by simp [under]⟩
  | some loop =>
    obtain ⟨remaining, checkpoints, earlier⟩ := loop
    obtain rfl := remains _ under
    cases remaining with
    | nil => exact ⟨[], by simpa using split, by simp [finish_loop]⟩
    | cons s later =>
      refine ⟨later.map Stage.name, by simpa using split, fun after going => ?_⟩
      have onward := straight _ under s rfl
      exact congrArg (List.map Stage.name) (iterate_remaining onward going)

variable {ctx : OperationContext V}

theorem Turns.prefix {listing : Listing registry} {turns : List String}
    (run : Turns registry txRunner listing ctx turns) :
    ∃ rest, turns ++ rest = (collect listing ctx).map Stage.name := by
  obtain ⟨p, run⟩ := run
  have start : OnCourse ((collect listing ctx).map Stage.name) (Pipeline.run listing ctx, []) :=
    ⟨_, rfl, fun loop isLoop => by rw [← Option.some.inj isLoop]⟩
  obtain ⟨rest, split, -⟩ := run.invariant start (fun _ _ straight course => course.round straight)
  exact ⟨rest, split⟩

/-! ## A run to the end -/

/-- Stages that complete with nothing to say. -/
def plain : Env V where
  stage := fun ctx => (ctx, { status := "completed" }, none)

theorem step_plain {txRunner : Bool} {p : Execution V} {loop : Loop V} {s : Stage}
    {rest : List Stage} (live : p.ctx.dryRun = false) (going : p.ctx.suspended = false)
    (under : p.loop = some loop) (next : loop.remaining = s :: rest) :
    ∃ after, @step V registry txRunner p (.proceed plain) = after ∧ after.ctx.dryRun = false ∧
      after.ctx.suspended = false ∧ ∃ later, after.loop = some later ∧ later.remaining = rest := by
  refine ⟨_, rfl, ?_⟩
  simp [step, under, next, iterate, runStage, plain, live, going, OperationContext.write,
    OperationContext.putOutputs, jump]

theorem exists_run_to_end (txRunner : Bool) {p : Execution V} {loop : Loop V}
    (live : p.ctx.dryRun = false) (going : p.ctx.suspended = false)
    (under : p.loop = some loop) (turns : List String) :
    ∃ last, Run (round registry txRunner) (fun st env => LiveStraightOn st.1 env)
      (p, turns) (last, turns ++ loop.remaining.map Stage.name) := by
  obtain ⟨remaining, checkpoints, earlier⟩ := loop
  induction remaining generalizing p checkpoints earlier turns with
  | nil => exact ⟨p, by simpa using Run.refl⟩
  | cons s rest ih =>
    obtain ⟨after, stepped, afterLive, afterGoing, later, afterUnder, rfl⟩ :=
      @step_plain V registry txRunner p _ s rest live going under rfl
    obtain ⟨last, run⟩ := ih afterLive afterGoing (turns ++ [s.name]) later.checkpoints
      later.earlier afterUnder
    have straight : StraightOn p plain := by
      intro loop isLoop t isHead
      simp [runStage, plain, live, jump]
    have first : Run (round registry txRunner) (fun st env => LiveStraightOn st.1 env)
        (p, turns) (after, turns ++ [s.name]) := by
      have moved : round registry txRunner (p, turns) plain = (after, turns ++ [s.name]) := by
        simp [round, stepped, turn, under]
      exact moved ▸ .tail plain .refl ⟨straight, live⟩
    exact ⟨last, by simpa using first.trans run⟩

theorem turns_collect (txRunner : Bool) (listing : Listing registry) (live : ctx.dryRun = false)
    (going : ctx.suspended = false) :
    Turns registry txRunner listing ctx ((collect listing ctx).map Stage.name) := by
  obtain ⟨last, run⟩ := @exists_run_to_end V registry txRunner (run listing ctx)
    { remaining := collect listing ctx } live going rfl []
  exact ⟨last, run.mono (fun _ _ met => met.1)⟩

/-! ## Executions -/

/-- The stages whose `Execute` was called, in order. -/
def executions (trace : List Event) : List String :=
  trace.filterMap fun
    | .executed stage _ => some stage
    | _ => none

@[simp] theorem executions_append {trace more : List Event} :
    executions (trace ++ more) = executions trace ++ executions more :=
  List.filterMap_append

theorem executions_compensate (env : Env V) (checkpoints : List (StageCheckpoint V))
    (ctx : OperationContext V) :
    executions (compensate registry env checkpoints ctx).2 = [] := by
  induction checkpoints generalizing ctx with
  | nil => rfl
  | cons cp rest ih =>
    unfold compensate
    cases registry.get? cp.stageName with
    | none => exact ih ctx
    | some s =>
      by_cases can : s.compensatable = true
      · simp only [can, if_true]
        exact ih _
      · simp only [can]
        exact ih ctx

theorem executions_iterate {p : Execution V} {loop : Loop V} {rest : List Stage}
    (live : p.ctx.dryRun = false) :
    executions (iterate registry env p loop s rest).trace = executions p.trace ++ [s.name] := by
  unfold iterate
  rcases runStage env p.ctx s with ⟨ctx, result, err⟩
  cases err with
  | some text =>
    by_cases required : s.required = true
    · simp only [required, live, Bool.false_eq_true, if_true, if_false, executions_append,
        executions_compensate]
      simp [executions]
    · simp [required, live, executions]
  | none =>
    simp only [live, Bool.false_eq_true, if_false]
    split <;> simp [executions]

theorem executions_finish (txRunner : Bool) (env : Env V) (p : Execution V) :
    executions (finish txRunner env p).trace = executions p.trace := by
  unfold finish
  split
  · rfl
  · simp [executions]

theorem executions_of_live {start last : Execution V × List String}
    (run : Run (round registry txRunner) (fun st env => LiveStraightOn st.1 env) start last)
    (init : executions start.1.trace = start.2) : executions last.1.trace = last.2 := by
  have keeps := @Run.invariant _ _ _ _ _ _ (fun st => executions st.1.trace = st.2) run init
  refine keeps ?_
  rintro ⟨p, turns⟩ env ⟨-, live⟩ same
  unfold round turn step
  cases under : p.loop with
  | none => simpa [under] using same
  | some loop =>
    obtain ⟨remaining, checkpoints, earlier⟩ := loop
    cases remaining with
    | nil => simpa [executions_finish] using same
    | cons s rest =>
      simp only
      rw [executions_iterate live]
      exact congrArg (· ++ [s.name]) same

/-! ## Order and dependencies -/

theorem mem_collect {listing : Listing registry} :
    s ∈ collect listing ctx ↔ s ∈ registry.rows ∧ s.active ctx = true := by
  rw [collect, List.mem_insertionSort, List.mem_filter, listing.property.mem_iff]

theorem RegisteredFor.row {operationKey name : String}
    (entry : RegisteredFor registry operationKey name s) : s ∈ registry.rows ∧ s.name = name :=
  Table.get?_eq_some_iff.mp entry.1

theorem pairwise_priority_collect (listing : Listing registry) (ctx : OperationContext V) :
    (collect listing ctx).Pairwise (fun s t => s.priority ≤ t.priority) := by
  have total : Std.Total (fun s t : Stage => s.priority ≤ t.priority) :=
    ⟨fun s t => Int.le_total _ _⟩
  have transitive : IsTrans Stage (fun s t => s.priority ≤ t.priority) :=
    ⟨fun _ _ _ => Int.le_trans⟩
  exact List.pairwise_insertionSort _ _

theorem PrioritiesFollow.targetsFirst (follow : PrioritiesFollow registry ctx)
    (listing : Listing registry) :
    TargetsFirst (Needs registry ctx.operationKey) ((collect listing ctx).map Stage.name) := by
  intro before a after split b needs
  obtain ⟨⟨s, entry, depends⟩, t, target⟩ := needs
  obtain ⟨front, more, collected, rfl, splitMore⟩ := List.map_eq_append_iff.mp split
  obtain ⟨other, back, rfl, named, -⟩ := List.map_eq_cons_iff.mp splitMore
  have otherIn : other ∈ collect listing ctx := by simp [collected]
  have isOther : other = s := Table.eq_of_key_eq (mem_collect.mp otherIn).1 entry.row.1
    (named.trans entry.row.2.symm)
  subst isOther
  obtain ⟨active, lower⟩ :=
    follow other (mem_collect.mp otherIn).1 (mem_collect.mp otherIn).2 b depends t target
  have targetIn : t ∈ collect listing ctx := mem_collect.mpr ⟨target.row.1, active⟩
  have sorted := pairwise_priority_collect listing ctx
  rw [collected] at targetIn sorted
  have later := (List.pairwise_cons.mp (List.pairwise_append.mp sorted).2.1).1
  rcases List.mem_append.mp targetIn with earlier | rest
  · exact List.mem_map.mpr ⟨t, earlier, target.row.2⟩
  · rcases List.mem_cons.mp rest with rfl | behind
    · omega
    · have notLower := later t behind
      omega

/-- A listing with one stage in front of all others. -/
def listedFirst (registry : StageRegistry) (s : Stage) (member : s ∈ registry.rows) :
    Listing registry :=
  ⟨s :: registry.rows.erase s, (List.perm_cons_erase member).symm⟩

/-- Of two stages the first listed goes first unless its priority is higher. -/
theorem pair_sublist_collect {s t : Stage} (member : s ∈ registry.rows)
    (active : s.active ctx = true) (other : t ∈ collect (listedFirst registry s member) ctx)
    (different : t ≠ s) (notLower : s.priority ≤ t.priority) :
    [s, t].Sublist (collect (listedFirst registry s member) ctx) := by
  have total : Std.Total (fun s t : Stage => s.priority ≤ t.priority) :=
    ⟨fun s t => Int.le_total _ _⟩
  have transitive : IsTrans Stage (fun s t => s.priority ≤ t.priority) :=
    ⟨fun _ _ _ => Int.le_trans⟩
  have inOrder : [s, t].Pairwise (fun s t : Stage => s.priority ≤ t.priority) :=
    List.pairwise_pair.mpr notLower
  refine List.sublist_insertionSort inOrder ?_
  have listed := (mem_collect.mp other)
  have inRest : t ∈ (registry.rows.erase s).filter (Stage.active ctx) :=
    List.mem_filter.mpr ⟨(List.mem_erase_of_ne different).mpr listed.1, listed.2⟩
  simp only [listedFirst, List.filter_cons, active, if_true]
  exact (List.singleton_sublist.mpr inRest).cons_cons s

theorem prioritiesFollow_of_targetsFirst
    (first : ∀ listing : Listing registry, TargetsFirst (Needs registry ctx.operationKey) ((collect
      listing ctx).map Stage.name)) :
    PrioritiesFollow registry ctx := by
  intro s member active dep depends t target
  let listing := listedFirst registry s member
  have sIn : s ∈ collect listing ctx := mem_collect.mpr ⟨member, active⟩
  obtain ⟨front, back, collected⟩ := List.append_of_mem sIn
  have entry : RegisteredFor registry ctx.operationKey s.name s :=
    ⟨Table.get?_key_of_mem member, (Bool.and_eq_true_iff.mp active).1⟩
  have before := first listing (front.map Stage.name) s.name (back.map Stage.name)
    (by simp [collected]) dep ⟨⟨s, entry, depends⟩, t, target⟩
  obtain ⟨found, inFront, named⟩ := List.mem_map.mp before
  have foundIn : found ∈ collect listing ctx := by simp [collected, inFront]
  have isTarget : found = t := Table.eq_of_key_eq (mem_collect.mp foundIn).1 target.row.1
    (named.trans target.row.2.symm)
  subst isTarget
  refine ⟨(mem_collect.mp foundIn).2, ?_⟩
  by_contra notLower
  have nodup := List.Nodup.of_map Stage.name (names_nodup_collect listing ctx)
  rw [collected] at nodup
  have apart := (List.nodup_append'.mp nodup).2.2
  have different : found ≠ s := by
    rintro rfl
    exact apart inFront (by simp)
  -- in a listing with the stage in front, its dependency also comes behind it
  have sublist := pair_sublist_collect member active foundIn different (by omega)
  obtain ⟨early, late, split, fromFront, fromBack⟩ :=
    List.sublist_append_iff.mp (collected ▸ sublist)
  cases early with
  | nil =>
    rw [List.nil_append] at split
    exact apart inFront (fromBack.subset (by simp [← split]))
  | cons head more =>
    obtain ⟨rfl, -⟩ := List.cons.inj split
    exact apart (fromFront.subset List.mem_cons_self) List.mem_cons_self

theorem prioritiesFollow_congr {ctx other : OperationContext V}
    (sameKey : ctx.operationKey = other.operationKey)
    (sameFeatures : ctx.features = other.features) :
    PrioritiesFollow registry ctx ↔ PrioritiesFollow registry other := by
  have sameActive : ∀ s : Stage, s.active ctx = s.active other := by
    intro s
    simp only [Stage.active, OperationContext.featureEnabled, sameKey, sameFeatures]
  simp only [PrioritiesFollow, sameActive, sameKey]

/--
`ValidateDAG` accepts what it documents.  Whatever it says, every run of the
operation that takes no branch gives the stages their turns after everything
they depend on exactly when the priorities and the feature flags follow the
dependencies.
-/
theorem dependencies_first_iff (registry : StageRegistry) (txRunner : Bool)
    (operationKey : String) (features : List String) :
    (∀ listing : Listing registry,
      validateDAG listing operationKey = none ↔ ValidDAG registry operationKey) ∧
    ((∀ (listing : Listing registry) (ctx : OperationContext V) (turns : List String),
        ctx.operationKey = operationKey → ctx.features = features →
          Turns registry txRunner listing ctx turns →
            TargetsFirst (Needs registry operationKey) turns) ↔
      PrioritiesFollow registry
        ({ operationKey := operationKey, features := features } : OperationContext V)) := by
  refine ⟨fun listing => validateDAG_eq_none_iff listing operationKey, ?_, ?_⟩
  · intro first
    refine prioritiesFollow_of_targetsFirst fun listing => ?_
    exact first listing _ _ rfl rfl (turns_collect txRunner listing rfl rfl)
  · rintro follow listing ctx turns rfl rfl ran
    have onContext : PrioritiesFollow registry ctx := (prioritiesFollow_congr rfl rfl).mp follow
    obtain ⟨rest, split⟩ := ran.prefix
    have all := onContext.targetsFirst listing
    rw [← split] at all
    exact all.of_append

/-! ## A dependency of a later band -/

def bandRegistry : StageRegistry where
  rows :=
    [{ name := "budget.check", operations := ["ap.invoice.process"], priority := 300,
       dependsOn := ["tax.calculate"] },
     { name := "tax.calculate", operations := ["ap.invoice.process"], priority := 400 }]
  nodup := by decide

def bandListing : Listing bandRegistry := ⟨bandRegistry.rows, .refl _⟩

/-- An accepted registry whose live run executes a stage before the one it depends on. -/
theorem executes_before_its_dependency :
    validateDAG bandListing "ap.invoice.process" = none ∧
      ∃ last : Execution String × List String,
        Run (round bandRegistry false) (fun st env => LiveStraightOn st.1 env)
          (run bandListing { operationKey := "ap.invoice.process" }, []) last ∧
        executions last.1.trace = ["budget.check", "tax.calculate"] ∧
        ¬ TargetsFirst (Needs bandRegistry "ap.invoice.process") (executions last.1.trace) := by
  refine ⟨by decide +kernel, ?_⟩
  have needs : Needs bandRegistry "ap.invoice.process" "budget.check" "tax.calculate" :=
    ⟨⟨_, ⟨rfl, by decide⟩, by decide⟩, _, rfl, by decide⟩
  let ctx : OperationContext String := { operationKey := "ap.invoice.process" }
  obtain ⟨last, ran⟩ := @exists_run_to_end String bandRegistry false (run bandListing ctx)
    { remaining := collect bandListing ctx } rfl rfl rfl []
  have executed := executions_of_live ran rfl
  refine ⟨_, ran, executed, fun first => ?_⟩
  have early := first [] "budget.check" ["tax.calculate"] executed "tax.calculate" needs
  simp at early

end ErpFinance.Pipeline
