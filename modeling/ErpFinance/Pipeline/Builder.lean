import ErpFinance.Library.Run
import ErpFinance.Library.Table
import Mathlib.Data.List.Sort

/-!
# The pipeline builder

`Run` and `RunFrom` of a pipeline over a registry of stages: the stages of an
operation are collected, sorted by priority and executed one after the other,
with compensation when a required stage fails, suspension, branch jumps, dry
runs and the transaction hooks at the end.  What a stage, a compensator or a
hook does to the operation context is given from outside, step by step.

A registry lists its stages in any order.  The sort is stable here; over all
listings it yields every order an unstable sort may yield.
-/

namespace ErpFinance.Pipeline

open Library

universe u

variable {V : Type u}

/-! ## Stages -/

/-- What a stage declares, and which optional interfaces it implements. -/
structure Stage where
  name : String
  operations : List String := []
  featureFlag : String := ""
  priority : Int := 0
  required : Bool := false
  dependsOn : List String := []
  simulatable : Bool := false
  compensatable : Bool := false
deriving DecidableEq

instance : Keyed Stage String := ⟨Stage.name⟩

@[simp] theorem Stage.key_eq (s : Stage) : Keyed.key s = s.name := rfl

/-- Registration panics on a name that is taken, so names are keys. -/
abbrev StageRegistry := Table Stage

def Listing (registry : StageRegistry) := { stages : List Stage // stages.Perm registry.rows }

def matchesOperation (ops : List String) (key : String) : Bool :=
  ops.any (fun op => op = "*" || op = key)

/-! ## The operation context -/

structure StageResult (V : Type u) where
  status : String
  outputs : List (String × V) := []
  message : String := ""
  nextStageID : String := ""

structure StageLog (V : Type u) where
  stageName : String
  status : String
  message : String := ""
  output : List (String × V) := []
  error : String := ""

structure TxHook where
  name : String
  priority : Int

/-- The context a pipeline reads and writes; a nil session has no features. -/
structure OperationContext (V : Type u) where
  operationKey : String
  features : List String := []
  dryRun : Bool := false
  data : String → Option V := fun _ => none
  suspended : Bool := false
  suspendReason : String := ""
  resumePoint : String := ""
  log : List (StageLog V) := []
  txHooks : List TxHook := []

namespace OperationContext

def featureEnabled (ctx : OperationContext V) (flag : String) : Bool := flag ∈ ctx.features

def write (ctx : OperationContext V) (entry : StageLog V) : OperationContext V :=
  { ctx with log := ctx.log ++ [entry] }

/-- The outputs of a stage go into the shared data map. -/
def putOutputs (ctx : OperationContext V) (outputs : List (String × V)) : OperationContext V :=
  { ctx with
    data := outputs.foldl (fun data entry => Function.update data entry.1 (some entry.2))
      ctx.data }

end OperationContext

/-- `ForOperation` and the filter of `collect`: the stages of the operation that are enabled. -/
def Stage.active (ctx : OperationContext V) (s : Stage) : Bool :=
  matchesOperation s.operations ctx.operationKey &&
    (s.featureFlag = "" || ctx.featureEnabled s.featureFlag)

def collect {registry : StageRegistry} (listing : Listing registry) (ctx : OperationContext V) :
    List Stage :=
  (listing.val.filter (Stage.active ctx)).insertionSort (fun s t => s.priority ≤ t.priority)

structure Env (V : Type u) where
  /-- The stage's `Execute`, or its `Simulate` in a dry run. -/
  stage : OperationContext V → OperationContext V × StageResult V × Option String
  /-- `Compensate` of a stage, on the outputs of its checkpoint. -/
  compensate : Stage → List (String × V) → OperationContext V →
      OperationContext V × Option String := fun _ _ ctx => (ctx, none)
  /-- The transaction cannot be opened, or cannot be committed. -/
  beginFails : Option String := none
  commitFails : Option String := none
  hook : TxHook → OperationContext V → OperationContext V × Option String :=
    fun _ ctx => (ctx, none)

def runStage (env : Env V) (ctx : OperationContext V) (s : Stage) :
    OperationContext V × StageResult V × Option String :=
  if ctx.dryRun && !s.simulatable then
    (ctx,
      { status := "skipped"
        message := "stage \"" ++ s.name ++
          "\" does not implement Simulatable; skipped in dry-run" },
      none)
  else env.stage ctx

/-- The hooks in turn, up to the first that fails. -/
def runHooks (env : Env V) : List TxHook → OperationContext V →
    OperationContext V × Option String
  | [], ctx => (ctx, none)
  | h :: rest, ctx =>
    match env.hook h ctx with
    | (after, some err) =>
      (after.write { stageName := "tx_hook." ++ h.name, status := "failed", error := err },
        some ("pipeline: tx hook \"" ++ h.name ++ "\" failed: " ++ err))
    | (after, none) =>
      runHooks env rest
        (after.write { stageName := "tx_hook." ++ h.name, status := "completed" })

def fireTxHooks (txRunner : Bool) (env : Env V) (ctx : OperationContext V) :
    OperationContext V × Option String :=
  if ctx.txHooks.isEmpty then (ctx, none)
  else if ¬ txRunner then
    (ctx.write
      { stageName := "pipeline.tx_hooks"
        status := "skipped"
        message := toString ctx.txHooks.length ++
          " TxHook(s) registered but no TxRunner provided" },
      none)
  else
    match env.beginFails with
    | some err => (ctx, some err)
    | none =>
      match runHooks env (ctx.txHooks.insertionSort (fun h k => h.priority ≤ k.priority)) ctx with
      | (after, some err) => (after, some err)
      | (after, none) => (after, env.commitFails)

/-! ## A pipeline under way -/

structure StageCheckpoint (V : Type u) where
  stageName : String
  output : List (String × V)

/-- What happened to the stages, with the mode of the context at the time. -/
inductive Event where
  | executed (stage : String) (dryRun : Bool)
  | completed (stage : String)
  | compensated (stage : String) (dryRun : Bool)
  | aborted
deriving DecidableEq

/--
The loop of `execute`.  `earlier` is no variable of the source: it lists the
stages that had completed when the call began.
-/
structure Loop (V : Type u) where
  remaining : List Stage
  checkpoints : List (StageCheckpoint V) := []
  earlier : List String := []

/-- A context, the call under way on it, and what happened so far. -/
structure Execution (V : Type u) where
  ctx : OperationContext V
  loop : Option (Loop V) := none
  trace : List Event := []

/-- The stages that completed, in order. -/
def completions (trace : List Event) : List String :=
  trace.filterMap fun
    | .completed stage => some stage
    | _ => none

/-- The stages whose compensator was called, in order. -/
def compensations (trace : List Event) : List String :=
  trace.filterMap fun
    | .compensated stage _ => some stage
    | _ => none

/-- `compensate`: the checkpoints in reverse; its failures are logged. -/
def compensate (registry : StageRegistry) (env : Env V) :
    List (StageCheckpoint V) → OperationContext V → OperationContext V × List Event
  | [], ctx => (ctx, [])
  | cp :: rest, ctx =>
    match registry.get? cp.stageName with
    | none => compensate registry env rest ctx
    | some s =>
      if s.compensatable then
        let (after, err) := env.compensate s cp.output ctx
        let logged := match err with
          | some text => after.write
              { stageName := cp.stageName, status := "compensation_failed", error := text }
          | none => after.write { stageName := cp.stageName, status := "compensated" }
        let (final, events) := compensate registry env rest logged
        (final, .compensated cp.stageName ctx.dryRun :: events)
      else compensate registry env rest ctx

/-- The stages from the named one on; all of them when there is none of that name. -/
def fromStage (name : String) (stages : List Stage) : List Stage :=
  if stages.any (fun s => s.name = name) then stages.dropWhile (fun s => s.name ≠ name)
  else stages

/-- Where a branch jump leads: the named stage if it lies ahead, else the next one. -/
def jump (nextStageID : String) (rest : List Stage) : List Stage :=
  if nextStageID = "" then rest else fromStage nextStageID rest

/-- The body of the loop of `execute`, for one stage. -/
def iterate (registry : StageRegistry) (env : Env V) (p : Execution V) (loop : Loop V) (s : Stage)
    (rest : List Stage) : Execution V :=
  let (ctx, result, err) := runStage env p.ctx s
  let called := if p.ctx.dryRun then p.trace else p.trace ++ [.executed s.name p.ctx.dryRun]
  match err with
  | some text =>
    let failed := ctx.write
      { stageName := s.name, status := "failed", message := result.message,
        output := result.outputs, error := text }
    if s.required then
      let (undone, events) := compensate registry env loop.checkpoints.reverse failed
      { ctx := undone, loop := none, trace := called ++ events ++ [.aborted] }
    else
      { ctx := failed, loop := some { loop with remaining := rest }, trace := called }
  | none =>
    let logged := ctx.write
      { stageName := s.name, status := result.status, message := result.message,
        output := result.outputs }
    let done := if p.ctx.dryRun then called else called ++ [.completed s.name]
    let after := logged.putOutputs result.outputs
    if after.suspended then { ctx := after, loop := none, trace := done }
    else
      { ctx := after
        loop := some
          { loop with
            remaining := jump result.nextStageID rest
            checkpoints := loop.checkpoints ++ [⟨s.name, result.outputs⟩] }
        trace := done }

/-- `execute` at the end of its loop. -/
def finish (txRunner : Bool) (env : Env V) (p : Execution V) : Execution V :=
  match fireTxHooks txRunner env p.ctx with
  | (ctx, none) => { ctx := ctx, loop := none, trace := p.trace }
  | (ctx, some _) => { ctx := ctx, loop := none, trace := p.trace ++ [.aborted] }

/-! ## Calls -/

/-- `Run`: the loop over all collected stages. -/
def run {registry : StageRegistry} (listing : Listing registry) (ctx : OperationContext V) :
    Execution V where
  ctx := ctx
  loop := some { remaining := collect listing ctx }

def runFrom {registry : StageRegistry} (p : Execution V) (listing : Listing registry)
    (name : String) : Execution V where
  ctx := { p.ctx with suspended := false, suspendReason := "", resumePoint := "" }
  loop := some
    { remaining := fromStage name (collect listing p.ctx), earlier := completions p.trace }
  trace := p.trace

/--
The call under way goes on by one stage, or by the hooks when no stage is left;
between two calls the caller changes the context or resumes.
-/
inductive Input (registry : StageRegistry) (V : Type u) where
  | proceed (env : Env V)
  | change (change : OperationContext V → OperationContext V)
  | runFrom (listing : Listing registry) (name : String)

def step {registry : StageRegistry} (txRunner : Bool) (p : Execution V) :
    Input registry V → Execution V
  | .proceed env =>
    match p.loop with
    | none => p
    | some loop =>
      match loop.remaining with
      | [] => finish txRunner env p
      | s :: rest => iterate registry env p loop s rest
  | .change change =>
    match p.loop with
    | none => { p with ctx := change p.ctx }
    | some _ => p
  | .runFrom listing name =>
    match p.loop with
    | none => runFrom p listing name
    | some _ => p

end ErpFinance.Pipeline
