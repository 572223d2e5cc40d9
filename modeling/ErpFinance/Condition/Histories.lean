import ErpFinance.Condition.Caches
import ErpFinance.Condition.Simulation

/-!
# Histories of evaluations

What evaluating a tree in a context means: every formula and every pattern is
compiled where it is needed, for the context at hand, and the nodes are counted
from zero.  The log keeps what the evaluation has reached.  An evaluator with
caches, on a context that has been used, gives the same result as long as what
it carries over fits the nodes and the formulas that the evaluation reaches.

One evaluator and the evaluation contexts its callers keep, over any sequence
of calls.  An evaluation gives what it would give on a fresh evaluator and a
fresh context of the same data, as long as what the caches and the context's
count carry over fits what the evaluation reaches.
-/

namespace ErpFinance.Condition

open Library (Stateful)
open Library.Stateful (Agree Keeps Relating Simulates)

variable {G : GoTypes}

/-- The nodes and the formulas that an evaluation has reached. -/
structure Log where
  nodes : Nat
  formulas : List String

def Log.empty : Log := ⟨0, []⟩

section Direct

variable (E : Engines G) (scope : Scope G) (maxConditions : Int)

def countNode : Stateful Log EvalError Unit := fun log =>
  let count := Int32.ofNat (log.nodes + 1)
  (if count.toInt > maxConditions then .error (limitExceeded count) else .ok ⟨⟩,
    { log with nodes := log.nodes + 1 })

def compileProgram (formula : String) : Except EvalError E.Program :=
  (E.compile formula (namesOf E scope.data)).mapError fun message =>
    .new ("formula compilation failed: " ++ message)

def reachFormula (formula : String) : Stateful Log EvalError E.Program := fun log =>
  (compileProgram E scope formula, { log with formulas := formula :: log.formulas })

def compilePattern (pattern : String) : Except EvalError E.Regexp :=
  (E.compileRegexp pattern).mapError fun message => .new ("invalid regexp: " ++ message)

def directEffects : Effects G Log where
  visit := countNode maxConditions
  evaluateFormula formula := formulaWith E scope (reachFormula E scope formula) formula
  matchString pattern text := do
    let regex ← Stateful.lift (compilePattern E pattern)
    .lift (runRegexp E regex text)

/-- The result of a tree in a context, and what its evaluation reaches. -/
def meaning (go : GoLibrary G) (maxDepth : Int) (root : Value G) : Except EvalError Bool × Log :=
  evaluate go (directEffects E scope maxConditions) scope maxDepth root .empty

end Direct

/-! ## What a used evaluator and context carry over -/

section Carried

variable {E : Engines G} {ambient : Ambient E} {go : GoLibrary G} {scope : Scope G}
  {maxConditions : Int}

/-- The condition count stays within the limit for so many more nodes. -/
def CountFits (maxConditions : Int) (count : Int32) (nodes : Nat) : Prop :=
  ∀ k < nodes, (count + Int32.ofNat (k + 1)).toInt ≤ maxConditions

/-- What an evaluation reaches fits the state it starts from: the count is fresh, or stays
within the limit as a fresh one does, and each cached formula compiles for the names and
types at hand to what it was compiled to. -/
structure Fits (scope : Scope G) (maxConditions : Int) (state : EvalState E) (log : Log) :
    Prop where
  count : state.conditionCount = 0 ∨
    CountFits maxConditions state.conditionCount log.nodes ∧ CountFits maxConditions 0 log.nodes
  formulas : ∀ formula ∈ log.formulas, ∀ cached,
    state.caches.programCache formula = some cached →
      E.compile formula cached.names = E.compile formula (namesOf E scope.data)

/-- The state of an evaluation from a starting state, beside the log of one without shared
state. -/
structure Follows (scope : Scope G) (start state : EvalState E) (log : Log) : Prop where
  count : state.conditionCount = start.conditionCount + Int32.ofNat log.nodes
  programs : ∀ formula cached, state.caches.programCache formula = some cached →
    start.caches.programCache formula = some cached ∨ cached.names = namesOf E scope.data

def following (scope : Scope G) (maxConditions : Int) (start : EvalState E) :
    Relating (EvalState E) Log EvalError EvalError where
  states := Follows scope start
  within := Fits scope maxConditions start
  errors := Eq

variable {start : EvalState E}

theorem CountFits.mono {count : Int32} {nodes fewer : Nat}
    (fits : CountFits maxConditions count nodes) (le : fewer ≤ nodes) :
    CountFits maxConditions count fewer :=
  fun k below => fits k (below.trans_le le)

theorem Fits.fewerNodes {log earlier : Log} (fits : Fits scope maxConditions start log)
    (nodes : earlier.nodes ≤ log.nodes) (formulas : earlier.formulas ⊆ log.formulas) :
    Fits scope maxConditions start earlier where
  count := fits.count.imp_right fun both => ⟨both.1.mono nodes, both.2.mono nodes⟩
  formulas formula reached := fits.formulas formula (formulas reached)

theorem directEffects_keep :
    (directEffects E scope maxConditions).Keep (Fits scope maxConditions start) := by
  refine ⟨fun log fits => ?_, fun formula => ?_, fun pattern text => ?_⟩
  · exact fits.fewerNodes (Nat.le_succ _) (List.Subset.refl _)
  · unfold directEffects formulaWith
    dsimp only
    split
    · exact .fail _
    · split
      · exact .fail _
      · refine .bind (fun log fits => ?_) fun _ => .lift _
        exact fits.fewerNodes (Nat.le_refl _) (List.subset_cons_self _ _)
  · exact .bind (.lift _) fun _ => .lift _

theorem countCondition_simulates :
    Simulates (following scope maxConditions start) Eq (countCondition E maxConditions)
      (countNode maxConditions) := by
  intro state log follows fits
  have next : state.conditionCount + 1 = start.conditionCount + Int32.ofNat (log.nodes + 1) := by
    rw [follows.count, Int32.ofNat_add, Int32.add_assoc]
    rfl
  refine ⟨?_, ⟨next, follows.programs⟩⟩
  unfold countCondition countNode
  dsimp only
  rw [next]
  rcases fits.count with fresh | ⟨carried, fromZero⟩
  · rw [fresh, Int32.zero_add]
    exact .refl (fun _ => rfl) _
  · have last : log.nodes < log.nodes + 1 := Nat.lt_succ_self _
    have fresh := fromZero log.nodes last
    rw [Int32.zero_add] at fresh
    rw [if_neg (not_lt.mpr (carried log.nodes last)), if_neg (not_lt.mpr fresh)]
    exact .ok rfl

theorem programFor_simulates (formula : String) :
    Simulates (following scope maxConditions start) Eq (programFor E scope formula)
      (reachFormula E scope formula) := by
  intro state log follows fits
  unfold programFor reachFormula
  dsimp only
  split
  · rename_i cached found
    have same : E.compile formula (namesOf E scope.data) = .ok cached.program := by
      rcases follows.programs formula cached found with carried | compiledHere
      · exact (fits.formulas formula (List.mem_cons_self ..) cached carried).symm.trans
          cached.compiled
      · exact compiledHere ▸ cached.compiled
    rw [compileProgram, same]
    exact ⟨.ok rfl, follows.count, follows.programs⟩
  · split
    · rename_i message failed
      rw [compileProgram, failed]
      exact ⟨.error rfl, follows.count, follows.programs⟩
    · rename_i program compiled
      have anew : compileProgram E scope formula = .ok program := by
        rw [compileProgram, compiled]
        rfl
      rw [anew]
      refine ⟨.ok rfl, follows.count, fun other cached found => ?_⟩
      dsimp only at found
      by_cases same : other = formula
      · subst same
        rw [Function.update_self] at found
        exact .inr (Option.some.inj found ▸ rfl)
      · rw [Function.update_of_ne same] at found
        exact follows.programs other cached found

/-- A cached regular expression is what compiling its pattern gives. -/
theorem regexFor_simulates (pattern : String) :
    Simulates (following scope maxConditions start) Eq (regexFor E ambient pattern)
      (Stateful.lift (compilePattern E pattern)) := by
  intro state log follows fits
  unfold regexFor
  dsimp only [Stateful.lift]
  split
  · rename_i entry found
    have named : entry.pattern = pattern := RegexCache.pattern_of_find found
    rw [compilePattern, ← named, entry.compiled]
    exact ⟨.ok rfl, follows.count, follows.programs⟩
  · split
    · rename_i message failed
      rw [compilePattern, failed]
      exact ⟨.error rfl, follows.count, follows.programs⟩
    · rename_i regex compiled
      have anew : compilePattern E pattern = .ok regex := by
        rw [compilePattern, compiled]
        rfl
      rw [anew]
      exact ⟨.ok rfl, follows.count, follows.programs⟩

theorem cachedEffects_simulated :
    Effects.Simulated (following scope maxConditions start)
      (cachedEffects E ambient scope maxConditions) (directEffects E scope maxConditions) where
  visit := countCondition_simulates
  formula formula := by
    unfold cachedEffects directEffects formulaWith
    dsimp only
    split
    · exact .fail rfl
    · split
      · exact .fail rfl
      · refine .bind (programFor_simulates formula) (fun _ => .lift _) ?_
        rintro program _ rfl
        exact .lift (.refl (fun _ => rfl) _)
  pattern pattern text := by
    refine .bind (regexFor_simulates pattern) (fun _ => .lift _) ?_
    rintro regex _ rfl
    exact .lift (.refl (fun _ => rfl) _)
  keep := directEffects_keep
  refl _ := rfl
  wrap := by
    rintro label _ error _ rfl rfl
    rfl

/-- An evaluation gives the result of its tree, whatever the caches and the count hold, as
long as it fits them. -/
theorem evaluate_eq_meaning (maxDepth : Int) (root : Value G)
    (fits : Fits scope maxConditions start (meaning E scope maxConditions go maxDepth root).2) :
    (evaluate go (cachedEffects E ambient scope maxConditions) scope maxDepth root start).1 =
      (meaning E scope maxConditions go maxDepth root).1 := by
  have follows : Follows scope start start Log.empty :=
    ⟨(Int32.add_zero start.conditionCount).symm, fun _ _ found => .inl found⟩
  exact (evaluate_simulates cachedEffects_simulated maxDepth root start .empty follows fits).1.eq

/-- What a fresh evaluator and a fresh context carry over fits every evaluation. -/
theorem fits_fresh (scope : Scope G) (maxConditions : Int) (log : Log) :
    Fits scope maxConditions (⟨Caches.empty E, 0⟩ : EvalState E) log :=
  ⟨.inl rfl, fun _ _ _ found => nomatch found⟩

end Carried

end ErpFinance.Condition

namespace ErpFinance.Condition

variable {G : GoTypes} {E : Engines G}

/-- An evaluator, and the contexts that its callers refer to; none is a nil pointer. -/
structure Session (E : Engines G) where
  evaluator : Evaluator E
  contexts : Nat → Option (EvalContext G)

/-- What callers do: create a context, change what one holds, or evaluate a tree in one. -/
inductive Call (G : GoTypes) where
  | newEvalContext (context : Nat) (data : List (String × Value G)) (opts : EvalOptions)
      (now : G.Time)
  | assign (context : Nat) (scope : Scope G)
  | evaluate (context : Nat) (root : Value G)

namespace Session

variable (go : GoLibrary G) (ambient : Ambient E)

def evaluate (session : Session E) (context : Nat) (root : Value G) :
    Except EvalError Bool × Session E :=
  match session.contexts context with
  | none =>
    (.error (if root.isNil then Sentinel.invalidExpression.error "nil root condition"
      else Sentinel.invalidExpression.error "nil evaluation context"), session)
  | some evalCtx =>
    let (result, evaluator, left) := session.evaluator.evaluate go ambient root evalCtx
    (result, ⟨evaluator, Function.update session.contexts context (some left)⟩)

def step (session : Session E) : Call G → Session E
  | .newEvalContext context data opts now =>
    { session with
      contexts := Function.update session.contexts context (some (newEvalContext data opts now)) }
  | .assign context scope =>
    { session with
      contexts := Function.update session.contexts context
        ((session.contexts context).map fun evalCtx => { evalCtx with scope }) }
  | .evaluate context root => (session.evaluate go ambient context root).2

/-- A fresh evaluator with the same limits, and fresh contexts of the same data. -/
def renewed (session : Session E) : Session E where
  evaluator := { session.evaluator with caches := Caches.empty E }
  contexts context :=
    (session.contexts context).map fun evalCtx => { evalCtx with conditionCount := 0 }

/-- The results of the evaluations in a history. -/
def results (session : Session E) : List (Call G) → List (Except EvalError Bool)
  | [] => []
  | .evaluate context root :: rest =>
    (session.evaluate go ambient context root).1 ::
      results (session.step go ambient (.evaluate context root)) rest
  | call :: rest => results (session.step go ambient call) rest

/-- The results that the evaluations of a history would have on fresh evaluators and
contexts. -/
def freshResults (session : Session E) : List (Call G) → List (Except EvalError Bool)
  | [] => []
  | .evaluate context root :: rest =>
    (session.renewed.evaluate go ambient context root).1 ::
      freshResults (session.step go ambient (.evaluate context root)) rest
  | call :: rest => freshResults (session.step go ambient call) rest

/-- What the session carries over fits the next call. -/
def Admits (session : Session E) : Call G → Prop
  | .evaluate context root => ∀ evalCtx, session.contexts context = some evalCtx →
      Fits evalCtx.scope evalCtx.maxConditions
        ⟨session.evaluator.caches, evalCtx.conditionCount⟩
        (meaning E evalCtx.scope evalCtx.maxConditions go session.evaluator.maxDepth root).2
  | _ => True

/-- Every call of a history meets a session that fits it. -/
def AdmitsAll (session : Session E) : List (Call G) → Prop
  | [] => True
  | call :: rest =>
    session.Admits go call ∧ (session.step go ambient call).AdmitsAll rest

variable {go ambient}

theorem renewed_evaluate {session : Session E} {context : Nat} {evalCtx : EvalContext G}
    (found : session.contexts context = some evalCtx) (root : Value G) :
    (session.renewed.evaluate go ambient context root).1 =
      (meaning E evalCtx.scope evalCtx.maxConditions go session.evaluator.maxDepth root).1 := by
  have renewed : session.renewed.contexts context =
      some { evalCtx with conditionCount := 0 } := by
    simp only [Session.renewed, found, Option.map_some]
  unfold evaluate
  rw [renewed]
  exact evaluate_eq_meaning session.evaluator.maxDepth root (fits_fresh _ _ _)

/-- One evaluation whose session fits it. -/
theorem evaluate_eq_renewed {session : Session E} {context : Nat} {root : Value G}
    (admits : session.Admits go (.evaluate context root)) :
    (session.evaluate go ambient context root).1 =
      (session.renewed.evaluate go ambient context root).1 := by
  cases found : session.contexts context with
  | none =>
    have renewed : session.renewed.contexts context = none := by
      simp only [Session.renewed, found, Option.map_none]
    unfold evaluate
    rw [found, renewed]
  | some evalCtx =>
    rw [renewed_evaluate found]
    unfold evaluate
    rw [found]
    exact evaluate_eq_meaning session.evaluator.maxDepth root (admits evalCtx found)

/-- Along a history whose calls all meet a session that fits them, every evaluation gives
what it would give on a fresh evaluator and a fresh context. -/
theorem results_eq_freshResults (session : Session E) (history : List (Call G))
    (admits : session.AdmitsAll go ambient history) :
    session.results go ambient history = session.freshResults go ambient history := by
  induction history generalizing session with
  | nil => rfl
  | cons call rest ih =>
    obtain ⟨fits, others⟩ := admits
    cases call with
    | evaluate context root =>
      rw [results, freshResults, evaluate_eq_renewed fits, ih _ others]
    | newEvalContext context data opts now => exact ih _ others
    | assign context scope => exact ih _ others

end Session

/-! ## Two histories -/

/-- `true` compared with `true`. -/
def plainRule : ConditionRule wholeTypes :=
  ⟨"plain", .literal (.bool true), .equal, .expression (.literal (.bool true)), ""⟩

def plainSession (maxConditions : Int) : Session nameEngines where
  evaluator := newEvaluator nameEngines none ⟨0, maxConditions⟩
  contexts := Function.update (fun _ => none) 0
    (some (newEvalContext [] ⟨0, maxConditions⟩ (0 : Nat)))

def plainTwice : List (Call wholeTypes) :=
  [.evaluate 0 (.rule plainRule), .evaluate 0 (.rule plainRule)]

theorem second_evaluation_over_limit :
    (plainSession 1).results wholeLibrary stillAmbient plainTwice ≠
      (plainSession 1).freshResults wholeLibrary stillAmbient plainTwice := by
  decide +kernel

theorem two_evaluations_within_limit :
    (plainSession 2).results wholeLibrary stillAmbient plainTwice =
      (plainSession 2).freshResults wholeLibrary stillAmbient plainTwice := by
  refine Session.results_eq_freshResults _ _ ⟨?_, ?_, trivial⟩
  · intro evalCtx found
    obtain rfl := Option.some.inj found
    exact ⟨.inl rfl, fun _ reached => nomatch reached⟩
  · intro evalCtx found
    obtain rfl := Option.some.inj found
    exact ⟨.inr ⟨by unfold CountFits; decide +kernel, by unfold CountFits; decide +kernel⟩,
      fun _ reached => nomatch reached⟩

end ErpFinance.Condition
