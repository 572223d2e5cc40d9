import ErpFinance.Compiler.Schema
import ErpFinance.Library.Kahn

/-!
# The entity dependency graph

The graph of link fields and edges between entities, the search for its
cycles and the migration order, as the compiler builds them before it emits
anything.  Go ranges over a map in any order; where the order is not undone by
sorting it is a parameter.
-/

namespace ErpFinance.Compiler

open Def Library

/-! ## Diagnostics -/

inductive Severity where
  | info
  | warning
  | error
deriving DecidableEq

structure Diagnostic where
  severity : Severity
  entityName : String := ""
  fieldName : String := ""
  message : String
deriving DecidableEq

def hasErrors (ds : List Diagnostic) : Bool := ds.any (fun d => d.severity = .error)

/-! ## Building the graph -/

/-- The sets of the graph are listed without repetition. -/
structure DependencyGraph where
  nodes : List String := []
  edges : String → List String := fun _ => []
  selfRefs : List String := []
  topologicalOrder : Option (List String) := none

def EntitySchema.links (es : EntitySchema) : List (String × String) :=
  (es.fields.filter (fun f => f.type.isLink)).map (fun f =>
    (f.linkTarget, "field " ++ quoted f.name ++ ": link target " ++ quoted f.linkTarget ++
      " not found in registry")) ++
  es.edges.map (fun e =>
    (e.target, "edge " ++ quoted e.name ++ ": target entity " ++ quoted e.target ++
      " not found in registry"))

/-- The body of the loops over fields and edges. -/
def addLink (qualifiedNames : List String) (src : String)
    (st : DependencyGraph × List Diagnostic) (link : String × String) :
    DependencyGraph × List Diagnostic :=
  let (g, ds) := st
  let (target, missing) := link
  if target = "" then (g, ds)
  else if target ∉ qualifiedNames then
    (g, ds ++ [{ severity := .error, entityName := src, message := missing }])
  else if target = src then ({ g with selfRefs := g.selfRefs.insert src }, ds)
  else
    ({ g with edges := Function.update g.edges src ((g.edges src).insert target) }, ds)

def addEntity (qualifiedNames : List String) (st : DependencyGraph × List Diagnostic)
    (es : EntitySchema) : DependencyGraph × List Diagnostic :=
  let (g, ds) := st
  es.links.foldl (addLink qualifiedNames es.qualifiedName)
    ({ g with nodes := g.nodes.insert es.qualifiedName }, ds)

namespace DependencyGraph

def deps (g : DependencyGraph) (qualifiedName : String) : List String :=
  sortStrings (g.edges qualifiedName)

/-! ## Kahn's loop -/

/-- The number of entities that depend on the given one. -/
def inDegree (g : DependencyGraph) (t : String) : Int :=
  ((g.nodes.map fun src => (g.edges src).count t).sum : Nat)

/-- The queue is sorted again after each node that joins it. -/
def enqueue (queue ready : List String) : List String :=
  ready.foldl (fun queue t => sortStrings (queue ++ [t])) queue

def kahn (g : DependencyGraph) (next : String → List String) : Kahn.State String :=
  Kahn.loop next enqueue g.nodes.length
    { degree := g.inDegree, queue := sortStrings (g.nodes.filter (fun n => g.inDegree n = 0)) }

/-! ## Cycles -/

/-- The variables the search for a cycle shares between its calls. -/
structure Trace where
  path : List String := []
  cycles : List (List String) := []
  traced : List String := []

/-- The targets in turn, up to one from which a cycle was found. -/
def follow (cycleNodes : List String) (dfs : String → Trace → Bool × Trace) :
    List String → Trace → Bool × Trace
  | [], st => (false, st)
  | t :: rest, st =>
    if t ∈ cycleNodes then
      match dfs t st with
      | (true, found) => (true, found)
      | (false, after) => follow cycleNodes dfs rest after
    else follow cycleNodes dfs rest st

/-- `dfs`; the path holds each node once, which bounds its depth. -/
def dfs (g : DependencyGraph) (cycleNodes : List String) : Nat → String → Trace → Bool × Trace
  | 0, _, st => (false, st)
  | fuel + 1, n, st =>
    if n ∉ cycleNodes then (false, st)
    else if n ∈ st.path then
      (true, { st with cycles := st.cycles ++ [st.path.dropWhile (· ≠ n) ++ [n]] })
    else
      match follow cycleNodes (dfs g cycleNodes fuel) (g.deps n)
          { st with path := st.path ++ [n] } with
      | (true, found) => (true, { found with traced := n :: found.traced })
      | (false, after) => (false, { after with path := after.path.dropLast })

/-- One round of the loop over the nodes that Kahn's loop has left. -/
def traceFrom (g : DependencyGraph) (cycleNodes : List String) (st : Trace) (start : String) :
    Trace :=
  if start ∈ st.traced then st
  else
    let (_, after) := dfs g cycleNodes (cycleNodes.length + 1) start { st with path := [] }
    { after with traced := start :: after.traced }

def detectCycles (g : DependencyGraph) (starts : Ranging String)
    (targets : String → Ranging String) : List (List String) :=
  let visited := (g.kahn fun n => (targets n).order (g.edges n)).done
  let cycleNodes := g.nodes.filter (· ∉ visited)
  if cycleNodes.isEmpty then []
  else ((starts.order cycleNodes).foldl (traceFrom g cycleNodes) {}).cycles

/-! ## The migration order -/

def topologicalSort (g : DependencyGraph) : Except String (List String) :=
  let order := (g.kahn g.deps).done
  if order.length ≠ g.nodes.length then
    .error ("cycle detected: topological sort incomplete (" ++ toString order.length ++ "/" ++
      toString g.nodes.length ++ " nodes visited)")
  else .ok order.reverse

end DependencyGraph

def formatCycle (cycle : List String) : String :=
  if cycle.isEmpty then "(empty)" else " → ".intercalate cycle

def circular (cycle : List String) : Diagnostic where
  severity := .error
  message := "circular FK dependency: " ++ formatCycle cycle

/-- `buildDependencyGraph` once the edges are in. -/
def checkGraph (starts : Ranging String) (targets : String → Ranging String) (g : DependencyGraph)
    (ds : List Diagnostic) : DependencyGraph × List Diagnostic :=
  if hasErrors ds then (g, ds)
  else
    let ds := ds ++ (g.detectCycles starts targets).map circular
    if hasErrors ds then (g, ds)
    else
      match g.topologicalSort with
      | .error err => (g, ds ++ [{ severity := .error, message := "topological sort: " ++ err }])
      | .ok order => ({ g with topologicalOrder := some order }, ds)

def buildDependencyGraph (starts : Ranging String) (targets : String → Ranging String)
    (schemas : List EntitySchema) (qualifiedNames : List String) :
    DependencyGraph × List Diagnostic :=
  let (g, ds) := schemas.foldl (addEntity qualifiedNames) ({}, [])
  checkGraph starts targets g ds

/-- The dependency analysis of a compilation: the entities themselves are the known names. -/
def dependencyAnalysis (starts : Ranging String) (targets : String → Ranging String)
    (schemas : List EntitySchema) : DependencyGraph × List Diagnostic :=
  buildDependencyGraph starts targets schemas (schemas.map EntitySchema.qualifiedName)

end ErpFinance.Compiler
