import ErpFinance.Pipeline.Builder

/-!
# Control of a pipeline run

A run is one `Run` and any number of `RunFrom`.  The checkpoints of a call hold
the stages that completed in this call only, so a run is controlled as long as
an abort never has to undo a stage that completed before the call, the hooks
fail only when there is nothing to undo, a dry run has nothing to undo either,
and a resumption starts behind every stage that completed.
-/

namespace ErpFinance.Pipeline

open Library

universe u

variable {V : Type u} {registry : StageRegistry}

def Compensates (registry : StageRegistry) (name : String) : Bool :=
  (registry.get? name).any Stage.compensatable

structure Controlled (registry : StageRegistry) (trace : List Event) : Prop where
  /-- A stage that completed is not executed again. -/
  once : trace.Pairwise (fun earlier later => ∀ stage dryRun,
    earlier = .completed stage → later ≠ .executed stage dryRun)
  distinct : (completions trace).Nodup
  /-- An abort undoes what completed, in reverse order. -/
  undone : .aborted ∈ trace →
    compensations trace = ((completions trace).filter (Compensates registry)).reverse
  untouched : .aborted ∉ trace → compensations trace = []
  executedOnly : ∀ stage ∈ compensations trace, .executed stage false ∈ trace
  dry : ∀ stage, .executed stage true ∉ trace ∧ .compensated stage true ∉ trace

/-! ## The guard of a step -/

/-- Neither the stage nor a compensator changes the mode of the context. -/
def Env.KeepsMode (env : Env V) : Prop :=
  (∀ ctx, (env.stage ctx).1.dryRun = ctx.dryRun) ∧
    ∀ s output ctx, (env.compensate s output ctx).1.dryRun = ctx.dryRun

/--
When a required stage fails, no stage that completed before the call can be
compensated, nor, in a dry run, one with a checkpoint; when the hooks fail, no
stage that completed can be.
-/
def ProceedGuard (registry : StageRegistry) (txRunner : Bool) (p : Execution V) (env : Env V)
    (loop : Loop V) : Prop :=
  match loop.remaining with
  | [] => (fireTxHooks txRunner env p.ctx).2.isSome →
      ∀ stage ∈ completions p.trace, Compensates registry stage = false
  | s :: _ => s.required = true → (runStage env p.ctx s).2.2.isSome →
      (∀ stage ∈ loop.earlier, Compensates registry stage = false) ∧
        (p.ctx.dryRun = true →
          ∀ cp ∈ loop.checkpoints, Compensates registry cp.stageName = false)

instance (registry : StageRegistry) (txRunner : Bool) (p : Execution V) (env : Env V) :
    (loop : Loop V) → Decidable (ProceedGuard registry txRunner p env loop)
  | ⟨[], _, _⟩ => inferInstanceAs (Decidable ((fireTxHooks txRunner env p.ctx).2.isSome →
      ∀ stage ∈ completions p.trace, Compensates registry stage = false))
  | ⟨s :: _, checkpoints, earlier⟩ => inferInstanceAs (Decidable (s.required = true →
      (runStage env p.ctx s).2.2.isSome →
        (∀ stage ∈ earlier, Compensates registry stage = false) ∧
          (p.ctx.dryRun = true →
            ∀ cp ∈ checkpoints, Compensates registry cp.stageName = false)))

def Guard (txRunner : Bool) (p : Execution V) : Input registry V → Prop
  | .proceed env => env.KeepsMode ∧
      ∀ loop ∈ p.loop, ProceedGuard registry txRunner p env loop
  | .change _ => True
  | .runFrom listing name => p.loop = none → .aborted ∉ p.trace ∧
      ∀ s ∈ fromStage name (collect listing p.ctx), s.name ∉ completions p.trace

section Traces

variable {trace more : List Event}

@[simp] theorem completions_append :
    completions (trace ++ more) = completions trace ++ completions more :=
  List.filterMap_append

@[simp] theorem compensations_append :
    compensations (trace ++ more) = compensations trace ++ compensations more :=
  List.filterMap_append

@[simp] theorem completions_executed (stage : String) (dryRun : Bool) :
    completions [.executed stage dryRun] = [] := rfl

@[simp] theorem completions_completed (stage : String) :
    completions [.completed stage] = [stage] := rfl

@[simp] theorem completions_aborted : completions [.aborted] = [] := rfl

@[simp] theorem compensations_executed (stage : String) (dryRun : Bool) :
    compensations [.executed stage dryRun] = [] := rfl

@[simp] theorem compensations_completed (stage : String) :
    compensations [.completed stage] = [] := rfl

@[simp] theorem compensations_aborted : compensations [.aborted] = [] := rfl

theorem mem_completions {stage : String} :
    stage ∈ completions trace ↔ .completed stage ∈ trace := by
  unfold completions
  rw [List.mem_filterMap]
  constructor
  · rintro ⟨event, member, named⟩
    cases event <;> simp at named
    rwa [← named]
  · intro member
    exact ⟨_, member, rfl⟩

/-- The compensations of an abort leave the completions alone. -/
theorem completions_undo (stages : List String) (dryRun : Bool) :
    completions (stages.map (.compensated · dryRun)) = [] := by
  induction stages with
  | nil => rfl
  | cons stage rest ih => exact ih

theorem compensations_undo (stages : List String) (dryRun : Bool) :
    compensations (stages.map (.compensated · dryRun)) = stages := by
  induction stages with
  | nil => rfl
  | cons stage rest ih => exact congrArg (stage :: ·) ih

end Traces

/-- An abort calls the compensators of the checkpoints, in their order. -/
theorem compensate_events {env : Env V} (keeps : env.KeepsMode)
    (checkpoints : List (StageCheckpoint V)) (ctx : OperationContext V) :
    (compensate registry env checkpoints ctx).2 =
      ((checkpoints.map StageCheckpoint.stageName).filter (Compensates registry)).map
        (.compensated · ctx.dryRun) := by
  induction checkpoints generalizing ctx with
  | nil => rfl
  | cons cp rest ih =>
    unfold compensate
    rw [List.map_cons]
    cases found : registry.get? cp.stageName with
    | none =>
      have passed : Compensates registry cp.stageName = false := by simp [Compensates, found]
      simp only [List.filter_cons, passed]
      exact ih ctx
    | some s =>
      by_cases can : s.compensatable = true
      · have called : Compensates registry cp.stageName = true := by
          simp [Compensates, found, can]
        simp only [can, if_true, List.filter_cons, called, List.map_cons]
        rw [ih]
        -- logging keeps the mode, and so does the compensator
        have mode := keeps.2 s cp.output ctx
        split <;> simp [OperationContext.write, mode]
      · have passed : Compensates registry cp.stageName = false := by
          simp [Compensates, found, can]
        simp only [can, List.filter_cons, passed]
        exact ih ctx

/-! ## The invariant -/

/-- What holds of a call under way. -/
structure LoopInv (p : Execution V) (loop : Loop V) : Prop where
  going : .aborted ∉ p.trace
  names : (loop.remaining.map Stage.name).Nodup
  ahead : ∀ s ∈ loop.remaining, s.name ∉ completions p.trace
  real : p.ctx.dryRun = false →
    completions p.trace = loop.earlier ++ loop.checkpoints.map StageCheckpoint.stageName
  simulated : p.ctx.dryRun = true → completions p.trace = loop.earlier

structure Inv (registry : StageRegistry) (p : Execution V) : Prop where
  controlled : Controlled registry p.trace
  executed : ∀ stage ∈ completions p.trace, .executed stage false ∈ p.trace
  loops : ∀ loop, p.loop = some loop → LoopInv p loop

theorem names_nodup_collect (listing : Listing registry) (ctx : OperationContext V) :
    ((collect listing ctx).map Stage.name).Nodup := by
  unfold collect
  have sorted := List.perm_insertionSort (fun s t : Stage => s.priority ≤ t.priority)
    (listing.val.filter (Stage.active ctx))
  rw [(sorted.map Stage.name).nodup_iff]
  have listed : (listing.val.map Stage.name).Nodup := by
    rw [(listing.property.map Stage.name).nodup_iff]
    exact registry.nodup
  exact listed.sublist (List.Sublist.map _ List.filter_sublist)

theorem fromStage_sublist (name : String) (stages : List Stage) :
    (fromStage name stages).Sublist stages := by
  unfold fromStage
  split
  · exact List.dropWhile_sublist _
  · exact List.Sublist.refl _

theorem jump_sublist (name : String) (rest : List Stage) : (jump name rest).Sublist rest := by
  unfold jump
  split
  · exact List.Sublist.refl _
  · exact fromStage_sublist name rest

section Events

variable {trace : List Event} {stage : String}

/-- A stage that has not completed may be executed. -/
theorem Controlled.execute (controlled : Controlled registry trace)
    (fresh : stage ∉ completions trace) (going : .aborted ∉ trace) :
    Controlled registry (trace ++ [.executed stage false]) where
  once := by
    rw [List.pairwise_append]
    refine ⟨controlled.once, List.pairwise_singleton _ _, ?_⟩
    rintro earlier member later isLast other dryRun rfl same
    rw [List.mem_singleton.mp isLast] at same
    cases same
    exact fresh (mem_completions.mpr member)
  distinct := by simpa using controlled.distinct
  undone := by
    intro aborted
    simp [going] at aborted
  untouched := by
    intro _
    simpa using controlled.untouched going
  executedOnly := by
    intro other member
    simp only [compensations_append, compensations_executed, List.append_nil] at member
    exact List.mem_append_left _ (controlled.executedOnly other member)
  dry := by
    intro other
    simpa using controlled.dry other

theorem Controlled.complete (controlled : Controlled registry trace)
    (fresh : stage ∉ completions trace) (going : .aborted ∉ trace) :
    Controlled registry (trace ++ [.completed stage]) where
  once := by
    rw [List.pairwise_append]
    refine ⟨controlled.once, List.pairwise_singleton _ _, ?_⟩
    rintro earlier member later isLast other dryRun rfl same
    rw [List.mem_singleton.mp isLast] at same
    cases same
  distinct := by
    rw [completions_append, completions_completed, List.nodup_append']
    exact ⟨controlled.distinct, List.nodup_singleton _, by simpa using fresh⟩
  undone := by
    intro aborted
    simp [going] at aborted
  untouched := by
    intro _
    simpa using controlled.untouched going
  executedOnly := by
    intro other member
    simp only [compensations_append, compensations_completed, List.append_nil] at member
    exact List.mem_append_left _ (controlled.executedOnly other member)
  dry := by
    intro other
    simpa using controlled.dry other

/-- An abort that undoes everything that completed leaves a controlled trace. -/
theorem Controlled.abort {stages : List String} {dryRun : Bool}
    (controlled : Controlled registry trace) (going : .aborted ∉ trace)
    (executed : ∀ stage ∈ completions trace, .executed stage false ∈ trace)
    (all : stages = ((completions trace).filter (Compensates registry)).reverse)
    (real : dryRun = true → stages = []) :
    Controlled registry (trace ++ stages.map (.compensated · dryRun) ++ [.aborted]) where
  once := by
    rw [List.append_assoc, List.pairwise_append]
    refine ⟨controlled.once, ?_, ?_⟩
    · rw [List.pairwise_append]
      refine ⟨?_, List.pairwise_singleton _ _, ?_⟩
      · rw [List.pairwise_map]
        exact List.pairwise_of_forall (by simp)
      · rintro earlier member later isLast other mode rfl
        simp at member
    · rintro earlier _ later member other mode _ rfl
      simp at member
  distinct := by simpa [completions_undo] using controlled.distinct
  undone := by
    intro _
    simp only [compensations_append, completions_append, compensations_undo, completions_undo,
      controlled.untouched going, compensations_aborted, completions_aborted, List.append_nil,
      List.nil_append]
    exact all
  untouched := by
    intro notAborted
    simp at notAborted
  executedOnly := by
    intro other member
    simp only [compensations_append, compensations_undo, controlled.untouched going,
      compensations_aborted, List.append_nil, List.nil_append] at member
    rw [all, List.mem_reverse, List.mem_filter] at member
    rw [List.append_assoc]
    exact List.mem_append_left _ (executed other member.1)
  dry := by
    intro other
    have before := controlled.dry other
    cases dryRun with
    | false => simpa using before
    | true =>
      rw [real rfl]
      simpa using before

end Events

section Steps

variable {txRunner : Bool} {p : Execution V} {loop : Loop V} {env : Env V} {s : Stage}
  {rest : List Stage}

theorem runStage_dryRun (keeps : env.KeepsMode) (ctx : OperationContext V) (s : Stage) :
    (runStage env ctx s).1.dryRun = ctx.dryRun := by
  unfold runStage
  split
  · rfl
  · exact keeps.1 ctx

def called (p : Execution V) (s : Stage) : List Event :=
  if p.ctx.dryRun then p.trace else p.trace ++ [.executed s.name p.ctx.dryRun]

def succeeded (p : Execution V) (s : Stage) : List Event :=
  if p.ctx.dryRun then called p s else called p s ++ [.completed s.name]

/-- What one round of the loop comes to. -/
inductive Round (registry : StageRegistry) (env : Env V) (p : Execution V) (loop : Loop V)
    (s : Stage) (rest : List Stage) : Execution V → Prop where
  | aborts (ctx : OperationContext V) (isRequired : s.required = true)
      (failed : (runStage env p.ctx s).2.2.isSome) :
      Round registry env p loop s rest
        { ctx := ctx, loop := none,
          trace := called p s ++ ((loop.checkpoints.reverse.map StageCheckpoint.stageName).filter
            (Compensates registry)).map (.compensated · p.ctx.dryRun) ++ [.aborted] }
  | passes {ctx : OperationContext V} (mode : ctx.dryRun = p.ctx.dryRun) :
      Round registry env p loop s rest
        { ctx := ctx, loop := some { loop with remaining := rest }, trace := called p s }
  | suspends (ctx : OperationContext V) :
      Round registry env p loop s rest { ctx := ctx, loop := none, trace := succeeded p s }
  | completes {ctx : OperationContext V} (mode : ctx.dryRun = p.ctx.dryRun)
      (output : List (String × V)) {ahead : List Stage} (within : ahead.Sublist rest) :
      Round registry env p loop s rest
        { ctx := ctx
          loop := some
            { loop with
              remaining := ahead
              checkpoints := loop.checkpoints ++ [⟨s.name, output⟩] }
          trace := succeeded p s }

theorem iterate_round (keeps : env.KeepsMode) :
    Round registry env p loop s rest (iterate registry env p loop s rest) := by
  have mode := runStage_dryRun keeps p.ctx s
  unfold iterate
  dsimp only
  cases err : (runStage env p.ctx s).2.2 with
  | some text =>
    dsimp only
    split
    · rename_i isRequired
      rw [compensate_events keeps]
      simp only [OperationContext.write, mode]
      exact .aborts _ isRequired (by simp [err])
    · exact .passes mode
  | none =>
    dsimp only
    split
    · exact .suspends _
    · refine .completes ?_ _ (jump_sublist _ _)
      exact mode

theorem completions_called : completions (called p s) = completions p.trace := by
  unfold called
  split <;> simp

theorem mem_called {event : Event} (member : event ∈ p.trace) : event ∈ called p s := by
  unfold called
  split
  · exact member
  · exact List.mem_append_left _ member

theorem aborted_notMem_called (going : .aborted ∉ p.trace) : .aborted ∉ called p s := by
  unfold called
  split
  · exact going
  · simpa using going

theorem executed_mem_called (real : p.ctx.dryRun = false) :
    .executed s.name false ∈ called p s := by
  simp [called, real]

theorem controlled_called (inv : Inv registry p) (loopInv : LoopInv p loop)
    (fresh : s.name ∉ completions p.trace) : Controlled registry (called p s) := by
  unfold called
  cases mode : p.ctx.dryRun with
  | true => exact inv.controlled
  | false => exact inv.controlled.execute fresh loopInv.going

/-- The checkpoints of an abort the guard admits are all there is to undo. -/
theorem undo_eq (loopInv : LoopInv p loop)
    (nothing : ∀ stage ∈ loop.earlier, Compensates registry stage = false)
    (simulated : p.ctx.dryRun = true →
      ∀ cp ∈ loop.checkpoints, Compensates registry cp.stageName = false) :
    (loop.checkpoints.reverse.map StageCheckpoint.stageName).filter (Compensates registry) =
        ((completions p.trace).filter (Compensates registry)).reverse ∧
      (p.ctx.dryRun = true → (loop.checkpoints.reverse.map StageCheckpoint.stageName).filter
        (Compensates registry) = []) := by
  have before : loop.earlier.filter (Compensates registry) = [] :=
    List.filter_eq_nil_iff.mpr (fun stage member => by simp [nothing stage member])
  cases mode : p.ctx.dryRun with
  | false =>
    rw [loopInv.real mode, List.filter_append, before, List.map_reverse, List.filter_reverse]
    simp
  | true =>
    have none : (loop.checkpoints.reverse.map StageCheckpoint.stageName).filter
        (Compensates registry) = [] := by
      rw [List.filter_eq_nil_iff]
      intro stage member
      obtain ⟨cp, inLoop, rfl⟩ := List.mem_map.mp member
      simp [simulated mode cp (List.mem_reverse.mp inLoop)]
    rw [loopInv.simulated mode, before]
    exact ⟨none, fun _ => none⟩

theorem completions_succeeded :
    completions (succeeded p s) =
      completions p.trace ++ if p.ctx.dryRun then [] else [s.name] := by
  unfold succeeded
  split <;> simp [completions_called]

theorem controlled_succeeded (inv : Inv registry p) (loopInv : LoopInv p loop)
    (fresh : s.name ∉ completions p.trace) :
    Controlled registry (succeeded p s) ∧ .aborted ∉ succeeded p s ∧
      ∀ stage ∈ completions (succeeded p s), .executed stage false ∈ succeeded p s := by
  have controlled := controlled_called inv loopInv fresh
  have going : .aborted ∉ called p s := aborted_notMem_called loopInv.going
  have executed : ∀ stage ∈ completions p.trace, .executed stage false ∈ called p s :=
    fun stage member => mem_called (inv.executed stage member)
  rw [completions_succeeded]
  unfold succeeded
  cases mode : p.ctx.dryRun with
  | true => exact ⟨controlled, going, by simpa using executed⟩
  | false =>
    refine ⟨controlled.complete (by rwa [completions_called]) going, by simpa using going, ?_⟩
    intro stage member
    apply List.mem_append_left
    rcases List.mem_append.mp member with old | new
    · exact executed stage old
    · rw [List.mem_singleton.mp new]
      exact executed_mem_called mode

/-- One round of the loop keeps the invariant. -/
theorem Inv.iterate (inv : Inv registry p) (underWay : p.loop = some loop)
    (next : loop.remaining = s :: rest) (keeps : env.KeepsMode)
    (guard : ProceedGuard registry txRunner p env loop) :
    Inv registry (iterate registry env p loop s rest) := by
  have loopInv := inv.loops loop underWay
  have fresh : s.name ∉ completions p.trace := loopInv.ahead s (by simp [next])
  have nodup := loopInv.names
  rw [next, List.map_cons, List.nodup_cons] at nodup
  have restAhead : ∀ t ∈ rest, t.name ∉ completions p.trace :=
    fun t member => loopInv.ahead t (by simp [next, member])
  have controlled := controlled_called inv loopInv fresh
  have going : .aborted ∉ called p s := aborted_notMem_called loopInv.going
  have executed : ∀ stage ∈ completions p.trace, .executed stage false ∈ called p s :=
    fun stage member => mem_called (inv.executed stage member)
  have success := controlled_succeeded inv loopInv fresh
  have round := @iterate_round _ registry p loop env s rest keeps
  generalize Pipeline.iterate registry env p loop s rest = after at round
  cases round with
  | aborts ctx isRequired failed =>
    unfold ProceedGuard at guard
    rw [next] at guard
    obtain ⟨nothing, simulated⟩ := guard isRequired failed
    obtain ⟨all, dry⟩ := undo_eq loopInv nothing simulated
    rw [← @completions_called _ p s] at all
    refine ⟨controlled.abort going ?_ all dry, ?_, by simp⟩
    · rw [completions_called]
      exact executed
    · intro stage member
      simp only [completions_append, completions_undo, completions_called,
        completions_aborted, List.append_nil] at member
      rw [List.append_assoc]
      exact List.mem_append_left _ (executed stage member)
  | @passes ctx mode =>
    refine ⟨controlled, by rwa [completions_called], ?_⟩
    rintro _ ⟨⟩
    refine ⟨going, nodup.2, by rwa [completions_called], ?_, ?_⟩
    · rw [completions_called, mode]
      exact loopInv.real
    · rw [completions_called, mode]
      exact loopInv.simulated
  | suspends ctx => exact ⟨success.1, success.2.2, by simp⟩
  | @completes ctx mode output ahead within =>
    refine ⟨success.1, success.2.2, ?_⟩
    rintro _ ⟨⟩
    refine ⟨success.2.1, nodup.2.sublist (within.map _), ?_, ?_, ?_⟩
    · intro t member
      rw [completions_succeeded]
      have inRest := within.subset member
      have other : t.name ≠ s.name := by
        intro same
        exact nodup.1 (List.mem_map.mpr ⟨t, inRest, same⟩)
      split
      · simpa using restAhead t inRest
      · simpa [other] using restAhead t inRest
    · intro real
      rw [mode] at real
      rw [completions_succeeded, loopInv.real real]
      simp [real]
    · intro dry
      rw [mode] at dry
      rw [completions_succeeded, loopInv.simulated dry]
      simp [dry]

/-- The end of the loop keeps the invariant. -/
theorem Inv.finish (inv : Inv registry p) (underWay : p.loop = some loop)
    (next : loop.remaining = []) (guard : ProceedGuard registry txRunner p env loop) :
    Inv registry (finish txRunner env p) := by
  have loopInv := inv.loops loop underWay
  unfold ProceedGuard at guard
  rw [next] at guard
  unfold Pipeline.finish
  split
  · exact ⟨inv.controlled, inv.executed, by simp⟩
  · rename_i ctx err fired
    have nothing := guard (by rw [fired]; rfl)
    have empty : (completions p.trace).filter (Compensates registry) = [] :=
      List.filter_eq_nil_iff.mpr (fun stage member => by simp [nothing stage member])
    have aborted : Controlled registry
        (p.trace ++ ([] : List String).map (.compensated · false) ++ [.aborted]) :=
      inv.controlled.abort loopInv.going inv.executed (by rw [empty]; rfl) (by simp)
    refine ⟨by simpa using aborted, ?_, by simp⟩
    intro stage member
    simp only [completions_append, completions_aborted, List.append_nil] at member
    exact List.mem_append_left _ (inv.executed stage member)

theorem step_keeps (inv : Inv registry p) {input : Input registry V}
    (guard : Guard txRunner p input) : Inv registry (step txRunner p input) := by
  cases input with
  | proceed env =>
    obtain ⟨keeps, proceeds⟩ := guard
    unfold step
    cases underWay : p.loop with
    | none => exact inv
    | some loop =>
      have going := proceeds loop underWay
      dsimp only
      split
      · rename_i next
        exact inv.finish underWay next going
      · rename_i s rest next
        exact inv.iterate underWay next keeps going
  | change change =>
    unfold step
    cases underWay : p.loop with
    | none => exact ⟨inv.controlled, inv.executed, by simp⟩
    | some loop => exact inv
  | runFrom listing name =>
    unfold step
    cases underWay : p.loop with
    | none =>
      obtain ⟨going, ahead⟩ := guard underWay
      refine ⟨inv.controlled, inv.executed, ?_⟩
      rintro _ ⟨⟩
      refine ⟨going, ?_, ahead, fun _ => (List.append_nil _).symm, fun _ => rfl⟩
      exact (names_nodup_collect listing p.ctx).sublist
        ((fromStage_sublist name _).map _)
    | some loop => exact inv

end Steps

theorem inv_run (listing : Listing registry) (ctx : OperationContext V) :
    Inv registry (run listing ctx) where
  controlled := ⟨List.Pairwise.nil, List.nodup_nil, by simp [run], fun _ => rfl,
    by simp [run, compensations], by simp [run]⟩
  executed := by simp [run, completions]
  loops := by
    rintro _ ⟨⟩
    exact ⟨by simp [run], names_nodup_collect listing ctx, by simp [run, completions],
      fun _ => rfl, fun _ => rfl⟩

/--
In every run whose steps meet the guard, one `Run` and any resumptions, no
completed stage is executed again, an abort undoes exactly the completed stages
that can be compensated, in reverse order, and a dry run does neither.
-/
theorem guarded_run_controlled {txRunner : Bool} (listing : Listing registry)
    (ctx : OperationContext V) {p : Execution V}
    (guarded : Run (step txRunner) (@Guard V registry txRunner) (run listing ctx) p) :
    Controlled registry p.trace :=
  (guarded.invariant (inv_run listing ctx)
    (fun _ _ guard inv => step_keeps inv guard)).controlled

/-! ## Sample pipelines -/

def invoiceStages : StageRegistry where
  rows := [
    { name := "gl.post", operations := ["ap.invoice"], priority := 100, compensatable := true },
    { name := "workflow.gate", operations := ["ap.invoice"], priority := 200 },
    { name := "audit.log", operations := ["*"], priority := 300, required := true,
      simulatable := true }]
  nodup := by decide

def asRegistered : Listing invoiceStages := ⟨invoiceStages.rows, List.Perm.refl _⟩

def invoiceContext : OperationContext Unit where
  operationKey := "ap.invoice"

/-- The stage succeeds. -/
def works : Env Unit where
  stage ctx := (ctx, { status := "completed" }, none)

/-- The stage succeeds and suspends the operation. -/
def suspends : Env Unit where
  stage ctx := ({ ctx with suspended := true }, { status := "suspended" }, none)

def fails : Env Unit where
  stage ctx := (ctx, { status := "failed" }, some "audit db down")

def registersHook : Env Unit where
  stage ctx := ({ ctx with txHooks := [⟨"outbox", 10⟩] }, { status := "completed" }, none)

/-- The transaction of the hooks cannot be committed. -/
def commitFails : Env Unit where
  stage ctx := (ctx, { status := "completed" }, none)
  commitFails := some "connection lost"

def invoiceTrace (dryRun : Bool) (inputs : List (Input invoiceStages Unit)) : List Event :=
  (inputs.foldl (step true) (run asRegistered { invoiceContext with dryRun := dryRun })).trace

/-- A run that aborts in its first call undoes the stages before the failing one. -/
theorem guarded_run_controlled_invoice :
    invoiceTrace false [.proceed works, .proceed works, .proceed fails] =
        [.executed "gl.post" false, .completed "gl.post", .executed "workflow.gate" false,
          .completed "workflow.gate", .executed "audit.log" false, .compensated "gl.post" false,
          .aborted] ∧
      Controlled invoiceStages
        (invoiceTrace false [.proceed works, .proceed works, .proceed fails]) := by
  have worksKeeps : works.KeepsMode := ⟨fun _ => rfl, fun _ _ _ => rfl⟩
  have failsKeeps : fails.KeepsMode := ⟨fun _ => rfl, fun _ _ _ => rfl⟩
  have first : Run (step true) (@Guard Unit invoiceStages true) (run asRegistered invoiceContext)
      (step true (run asRegistered invoiceContext) (.proceed works)) :=
    Run.tail (Input.proceed works) .refl ⟨worksKeeps, by decide +kernel⟩
  have second := Run.tail (Input.proceed works) first ⟨worksKeeps, by decide +kernel⟩
  have run := Run.tail (Input.proceed fails) second ⟨failsKeeps, by decide +kernel⟩
  exact ⟨by decide +kernel, guarded_run_controlled asRegistered invoiceContext run⟩

/--
A stage that completed before a suspension is not undone, an unknown stage to
resume at starts over, hooks that fail undo nothing, and a dry run compensates.
-/
theorem runs_lose_control :
    ¬ Controlled invoiceStages (invoiceTrace false
        [.proceed works, .proceed suspends, .runFrom asRegistered "audit.log", .proceed fails]) ∧
      ¬ Controlled invoiceStages (invoiceTrace false
        [.proceed works, .proceed suspends, .runFrom asRegistered "audit", .proceed works]) ∧
      ¬ Controlled invoiceStages (invoiceTrace false
        [.proceed works, .proceed works, .proceed registersHook, .proceed commitFails]) ∧
      ¬ Controlled invoiceStages (invoiceTrace true
        [.proceed works, .proceed works, .proceed fails]) := by
  refine ⟨?_, ?_, ?_, ?_⟩
  · intro controlled
    exact absurd (controlled.undone (by decide +kernel)) (by decide +kernel)
  · intro controlled
    have again := controlled.once
    rw [show invoiceTrace false [.proceed works, .proceed suspends, .runFrom asRegistered "audit",
        .proceed works] = [.executed "gl.post" false, .completed "gl.post",
          .executed "workflow.gate" false, .completed "workflow.gate",
          .executed "gl.post" false, .completed "gl.post"] by decide +kernel] at again
    simp at again
  · intro controlled
    exact absurd (controlled.undone (by decide +kernel)) (by decide +kernel)
  · intro controlled
    exact (controlled.dry "gl.post").2 (by decide +kernel)

end ErpFinance.Pipeline
