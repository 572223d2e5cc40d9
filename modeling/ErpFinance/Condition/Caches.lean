import ErpFinance.Condition.Evaluator

/-!
# Evaluators and evaluation contexts

The state that evaluations share: the compiled formulas and patterns of an
evaluator, and the condition count of an evaluation context.  What a cache
holds was compiled from its key: a cached formula carries the names and types
it was compiled for.  Deadlines are left out.
-/

namespace ErpFinance.Condition

open Library (Stateful)

variable {G : GoTypes}

/-- The formula compiler and the regular expressions, which are libraries.  The compiler
sees a formula and the type of each name. -/
structure Engines (G : GoTypes) where
  Kind : Type
  typeOf : Value G → Kind
  Program : Type
  compile : String → (String → Option Kind) → Except String Program
  run : Program → (String → Option (Value G)) → Except String (Value G)
  Regexp : Type
  compileRegexp : String → Except String Regexp
  matchString : Regexp → String → Except String Bool

structure CompiledProgram (E : Engines G) (formula : String) where
  names : String → Option E.Kind
  program : E.Program
  compiled : E.compile formula names = .ok program

/-! ## The cache of patterns -/

structure LruEntry (E : Engines G) where
  pattern : String
  regex : E.Regexp
  compiled : E.compileRegexp pattern = .ok regex
  lastAccess : Int

structure RegexCache (E : Engines G) where
  entries : List (LruEntry E)
  size : Int
  max : Int

/-- The clock, reading by reading, and the order in which a concurrent map lists. -/
structure Ambient (E : Engines G) where
  clock : Nat → Int
  range : List (LruEntry E) → List (LruEntry E)

def maxRegexCacheSize : Int := 1000

def maxLRUEvictionBatch : Nat := 100

namespace RegexCache

variable {E : Engines G} (ambient : Ambient E)

/-- `newRegexCache`. -/
def new (maxSize : Int) : RegexCache E := ⟨[], 0, maxSize⟩

def find (cache : RegexCache E) (pattern : String) : Option (LruEntry E) :=
  cache.entries.find? (·.pattern == pattern)

theorem pattern_of_find {cache : RegexCache E} {pattern : String} {entry : LruEntry E}
    (found : cache.find pattern = some entry) : entry.pattern = pattern := by
  unfold find at found
  simpa using List.find?_some found

/-- What `Get` does to the entry it finds. -/
def touch (cache : RegexCache E) (pattern : String) (time : Int) : RegexCache E :=
  { cache with
    entries := cache.entries.map fun entry =>
      if entry.pattern == pattern then { entry with lastAccess := time } else entry }

/-- The patterns that a partial selection of the oldest entries finds; the entry at the
front takes the place of the one selected. -/
def oldest : Nat → List (LruEntry E) → List String
  | 0, _ => []
  | _ + 1, [] => []
  | count + 1, first :: rest =>
    let selected := rest.foldl
      (fun best entry => if entry.lastAccess < best.lastAccess then entry else best) first
    selected.pattern :: oldest count
      (rest.map fun entry => if entry.pattern == selected.pattern then first else entry)

def evictLRU (cache : RegexCache E) : RegexCache E :=
  let entries := ambient.range cache.entries
  if entries.isEmpty then cache
  else
    let toEvict := min maxLRUEvictionBatch (entries.length / 4)
    let gone := oldest (if toEvict = 0 then 1 else toEvict) entries
    { cache with
      entries := cache.entries.filter fun entry => !gone.contains entry.pattern
      size := cache.size - gone.length }

def set (cache : RegexCache E) (entry : LruEntry E) : RegexCache E :=
  if (cache.find entry.pattern).isSome then cache
  else
    let stored := { cache with entries := cache.entries ++ [entry], size := cache.size + 1 }
    if stored.size > stored.max then stored.evictLRU ambient else stored

end RegexCache

/-! ## Shared state -/

/-- The caches of an evaluator, and how often it has read the clock. -/
structure Caches (E : Engines G) where
  programCache : (formula : String) → Option (CompiledProgram E formula)
  regexCache : RegexCache E
  readings : Nat

def Caches.empty (E : Engines G) : Caches E := ⟨fun _ => none, .new maxRegexCacheSize, 0⟩

/-- What an evaluation reads and writes. -/
structure EvalState (E : Engines G) where
  caches : Caches E
  conditionCount : Int32

section Effects

variable (E : Engines G) (ambient : Ambient E) (scope : Scope G) (maxConditions : Int)

def limitExceeded (count : Int32) : EvalError :=
  Sentinel.resourceLimitExceeded.error (toString count.toInt ++ " conditions")

/-- The condition count of `evaluateWithDepth`. -/
def countCondition : Stateful (EvalState E) EvalError Unit := fun state =>
  let count := state.conditionCount + 1
  (if count.toInt > maxConditions then .error (limitExceeded count) else .ok ⟨⟩,
    { state with conditionCount := count })

/-- The names and types that a formula is compiled for. -/
def namesOf (data : List (String × Value G)) : String → Option E.Kind :=
  fun name => (data.lookup name).map E.typeOf

/-- The cached program of a formula, or else the one compiled for the context at hand,
which is then cached. -/
def programFor (formula : String) : Stateful (EvalState E) EvalError E.Program := fun state =>
  match state.caches.programCache formula with
  | some cached => (.ok cached.program, state)
  | none =>
    match compiled : E.compile formula (namesOf E scope.data) with
    | .error message => (.error (.new ("formula compilation failed: " ++ message)), state)
    | .ok program =>
      (.ok program, { state with
        caches.programCache := Function.update state.caches.programCache formula
          (some ⟨namesOf E scope.data, program, compiled⟩) })

/-- The variables a formula runs with: the data and the time. -/
def environment : String → Option (Value G) :=
  fun name => if name = "now" then some (.time scope.now) else scope.data.lookup name

def runProgram (program : E.Program) : Except EvalError (Value G) :=
  (E.run program (environment scope)).mapError fun message =>
    .new ("formula execution failed: " ++ message)

/-- `evaluateFormula`, with the way it comes by a program as a parameter. -/
def formulaWith {σ : Type} (program : Stateful σ EvalError E.Program) (formula : String) :
    Stateful σ EvalError (Value G) :=
  if formula = "" then .fail (.new "empty formula")
  else if formula.utf8ByteSize > maxFormulaLength then .fail (formulaTooLong formula)
  else do
    let compiled ← program
    .lift (runProgram E scope compiled)

/-- The cached regular expression of a pattern, or else a new one, which is then cached. -/
def regexFor (pattern : String) : Stateful (EvalState E) EvalError E.Regexp := fun state =>
  let time := ambient.clock state.caches.readings
  match state.caches.regexCache.find pattern with
  | some entry =>
    (.ok entry.regex, { state with
      caches.regexCache := state.caches.regexCache.touch pattern time
      caches.readings := state.caches.readings + 1 })
  | none =>
    match compiled : E.compileRegexp pattern with
    | .error message => (.error (.new ("invalid regexp: " ++ message)), state)
    | .ok regex =>
      (.ok regex, { state with
        caches.regexCache :=
          state.caches.regexCache.set ambient ⟨pattern, regex, compiled, time⟩
        caches.readings := state.caches.readings + 1 })

def runRegexp (regex : E.Regexp) (text : String) : Except EvalError Bool :=
  (E.matchString regex text).mapError fun message => .new ("regexp match error: " ++ message)

/-- What the evaluator does where an evaluation reaches its caches or the context's count. -/
def cachedEffects : Effects G (EvalState E) where
  visit := countCondition E maxConditions
  evaluateFormula formula := formulaWith E scope (programFor E scope formula) formula
  matchString pattern text := do
    let regex ← regexFor E ambient pattern
    .lift (runRegexp E regex text)

end Effects

/-! ## Evaluators and contexts -/

/-- The limits among `EvalOptions`. -/
structure EvalOptions where
  maxDepth : Int
  maxConditions : Int

def defaultMaxDepth : Int := 10

structure Evaluator (E : Engines G) where
  maxDepth : Int
  caches : Caches E

/-- `NewEvaluator`; the level limit of the configuration, when it has one, tightens the
depth limit. -/
def newEvaluator (E : Engines G) (maxLevel : Option Int) (opts : EvalOptions) : Evaluator E :=
  let maxDepth := if opts.maxDepth = 0 then defaultMaxDepth else opts.maxDepth
  { maxDepth := match maxLevel with
      | some level => if level > 0 && level < maxDepth then level else maxDepth
      | none => maxDepth
    caches := Caches.empty E }

structure EvalContext (G : GoTypes) where
  scope : Scope G
  maxConditions : Int
  conditionCount : Int32

def newEvalContext (data : List (String × Value G)) (opts : EvalOptions) (now : G.Time) :
    EvalContext G :=
  ⟨⟨data, fun _ => none, now⟩, opts.maxConditions, 0⟩

namespace Evaluator

variable {E : Engines G} (go : GoLibrary G) (ambient : Ambient E)

/-- `Evaluate` on a context: the result, and what it leaves of the evaluator and the context. -/
def evaluate (evaluator : Evaluator E) (root : Value G) (evalCtx : EvalContext G) :
    Except EvalError Bool × Evaluator E × EvalContext G :=
  let fx := cachedEffects E ambient evalCtx.scope evalCtx.maxConditions
  let ran := Condition.evaluate go fx evalCtx.scope evaluator.maxDepth root
    ⟨evaluator.caches, evalCtx.conditionCount⟩
  (ran.1, { evaluator with caches := ran.2.caches },
    { evalCtx with conditionCount := ran.2.conditionCount })

end Evaluator

/-! ## An instance to run -/

def nameEngines : Engines wholeTypes where
  Kind := Bool
  typeOf value := (toBool value).isSome
  Program := String
  compile formula names :=
    if names formula = some true then .ok formula else .error ("unknown name " ++ formula)
  run program env :=
    match env program with
    | some value => .ok value
    | none => .error ("unknown name " ++ program)
  Regexp := String
  compileRegexp pattern := .ok pattern
  matchString regex text := .ok (ErpFinance.Library.contains text regex)

def stillAmbient : Ambient nameEngines := ⟨fun _ => 0, id⟩

end ErpFinance.Condition
