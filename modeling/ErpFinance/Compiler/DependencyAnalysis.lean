import ErpFinance.Compiler.Graph

/-!
# Correctness of the dependency analysis

The analysis accepts a set of entities exactly when all links resolve and the
link graph has no cycle beyond self-references; the order it then returns is a
migration order.  When all links resolve and it still rejects, what it reports
are cycles of the link graph.
-/

namespace ErpFinance.Compiler

open Def Library

/-! ## The link graph -/

/-- The entities an entity's links and edges name. -/
def EntitySchema.references (es : EntitySchema) : List String :=
  (es.links.map Prod.fst).filter (· ≠ "")

/-- Every link and edge names an entity of the set. -/
def Resolved (schemas : List EntitySchema) : Prop :=
  ∀ es ∈ schemas, ∀ target ∈ es.references, target ∈ schemas.map EntitySchema.qualifiedName

/-- The link graph without self-references. -/
def DependsOn (schemas : List EntitySchema) (a b : String) : Prop :=
  a ≠ b ∧ ∃ es ∈ schemas, es.qualifiedName = a ∧ b ∈ es.references

/-! ## Building the graph -/

structure Built (qualifiedNames names : List String) (references : List (String × String))
    (st : DependencyGraph × List Diagnostic) : Prop where
  distinct : st.1.nodes.Nodup
  mem_nodes : ∀ n, n ∈ st.1.nodes ↔ n ∈ names
  nodup_edges : ∀ a, (st.1.edges a).Nodup
  mem_edges : ∀ a b, b ∈ st.1.edges a ↔ (a, b) ∈ references ∧ b ∈ qualifiedNames ∧ a ≠ b
  errors : ∀ d ∈ st.2, d.severity = .error
  clean : st.2 = [] ↔ ∀ r ∈ references, r.2 ∈ qualifiedNames

section Building

variable {qualifiedNames names : List String} {references : List (String × String)}
  {st : DependencyGraph × List Diagnostic}

theorem Built.nil (qualifiedNames : List String) : Built qualifiedNames [] [] ({}, []) :=
  ⟨.nil, by simp, by simp, by simp, by simp, by simp⟩

/-- The edges of a graph to which one edge has been added. -/
theorem mem_update_insert {edges : String → List String} {src target a b : String} :
    b ∈ Function.update edges src ((edges src).insert target) a ↔
      b ∈ edges a ∨ (a, b) = (src, target) := by
  by_cases same : a = src
  · subst same
    simp only [Function.update_self, List.mem_insert_iff, Prod.mk.injEq, true_and]
    tauto
  · simp [same]

theorem Built.addLink (built : Built qualifiedNames names references st) (src : String)
    (link : String × String) :
    Built qualifiedNames names
      (references ++ if link.1 = "" then [] else [(src, link.1)])
      (Compiler.addLink qualifiedNames src st link) := by
  obtain ⟨g, ds⟩ := st
  obtain ⟨target, missing⟩ := link
  obtain ⟨distinct, mem_nodes, nodup_edges, mem_edges, errors, clean⟩ := built
  unfold Compiler.addLink
  simp only
  split
  case isTrue empty => simpa using ⟨distinct, mem_nodes, nodup_edges, mem_edges, errors, clean⟩
  case isFalse named =>
    split
    case isTrue unknown =>
      refine ⟨distinct, mem_nodes, nodup_edges, fun a b => ?_, ?_, ?_⟩
      · rw [mem_edges, List.mem_append, List.mem_singleton, Prod.mk.injEq]
        constructor
        · rintro ⟨member, known, apart⟩
          exact ⟨.inl member, known, apart⟩
        · rintro ⟨member | ⟨rfl, rfl⟩, known, apart⟩
          · exact ⟨member, known, apart⟩
          · exact absurd known unknown
      · intro d member
        rcases List.mem_append.mp member with old | new
        · exact errors d old
        · rw [List.mem_singleton.mp new]
      · constructor
        · intro none
          simp at none
        · intro all
          exact absurd (all (src, target) (by simp)) unknown
    case isFalse known =>
      have resolves : target ∈ qualifiedNames := not_not.mp known
      have cleanly : ds = [] ↔ ∀ r ∈ references ++ [(src, target)], r.2 ∈ qualifiedNames := by
        rw [show ds = [] ↔ _ from clean]
        simp only [List.mem_append, List.mem_singleton]
        constructor
        · rintro all r (old | rfl)
          · exact all r old
          · exact resolves
        · exact fun all r old => all r (.inl old)
      split
      case isTrue self =>
        subst self
        refine ⟨distinct, mem_nodes, nodup_edges, fun a b => ?_, errors, cleanly⟩
        rw [mem_edges, List.mem_append, List.mem_singleton, Prod.mk.injEq]
        constructor
        · rintro ⟨member, rest⟩
          exact ⟨.inl member, rest⟩
        · rintro ⟨member | ⟨rfl, rfl⟩, known, apart⟩
          · exact ⟨member, known, apart⟩
          · exact absurd rfl apart
      case isFalse other =>
        refine ⟨distinct, mem_nodes, fun a => ?_, fun a b => ?_, errors, cleanly⟩
        · by_cases same : a = src
          · subst same
            simpa using (nodup_edges a).insert
          · simpa [Function.update_of_ne same] using nodup_edges a
        · rw [mem_update_insert, mem_edges, List.mem_append, List.mem_singleton]
          constructor
          · rintro (⟨member, rest⟩ | same)
            · exact ⟨.inl member, rest⟩
            · obtain ⟨rfl, rfl⟩ := Prod.mk.inj same
              exact ⟨.inr rfl, resolves, Ne.symm other⟩
          · rintro ⟨member | same, known, apart⟩
            · exact .inl ⟨member, known, apart⟩
            · exact .inr same

theorem Built.addLinks (built : Built qualifiedNames names references st) (src : String)
    (links : List (String × String)) :
    Built qualifiedNames names
      (references ++ ((links.map Prod.fst).filter (· ≠ "")).map (fun target => (src, target)))
      (links.foldl (Compiler.addLink qualifiedNames src) st) := by
  induction links generalizing references st with
  | nil => simpa using built
  | cons link rest ih =>
    have step := ih (built.addLink src link)
    rw [List.append_assoc] at step
    rw [List.foldl_cons, List.map_cons, List.filter_cons]
    by_cases empty : link.1 = "" <;> simpa [empty] using step

theorem Built.addEntity (built : Built qualifiedNames names references st) (es : EntitySchema) :
    Built qualifiedNames (names ++ [es.qualifiedName])
      (references ++ es.references.map (fun target => (es.qualifiedName, target)))
      (Compiler.addEntity qualifiedNames st es) := by
  obtain ⟨distinct, mem_nodes, nodup_edges, mem_edges, errors, clean⟩ := built
  have entered : Built qualifiedNames (names ++ [es.qualifiedName]) references
      ({ st.1 with nodes := st.1.nodes.insert es.qualifiedName }, st.2) := by
    refine ⟨distinct.insert, fun n => ?_, nodup_edges, mem_edges, errors, clean⟩
    simp only [List.mem_insert_iff, mem_nodes, List.mem_append, List.mem_singleton]
    tauto
  exact entered.addLinks es.qualifiedName es.links

theorem Built.addEntities (built : Built qualifiedNames names references st)
    (schemas : List EntitySchema) :
    Built qualifiedNames (names ++ schemas.map EntitySchema.qualifiedName)
      (references ++ schemas.flatMap
        (fun es => es.references.map (fun target => (es.qualifiedName, target))))
      (schemas.foldl (Compiler.addEntity qualifiedNames) st) := by
  induction schemas generalizing names references st with
  | nil => simpa using built
  | cons es rest ih => simpa using ih (built.addEntity es)

end Building

namespace DependencyGraph

/-- The edges run between the nodes. -/
structure WellFormed (g : DependencyGraph) : Prop where
  distinct : g.nodes.Nodup
  nodup : ∀ a, (g.edges a).Nodup
  source : ∀ a b, b ∈ g.edges a → a ∈ g.nodes
  target : ∀ a b, b ∈ g.edges a → b ∈ g.nodes

def Edge (g : DependencyGraph) (a b : String) : Prop := b ∈ g.edges a

/-! ## Kahn's loop -/

theorem enqueue_perm (queue ready : List String) : (enqueue queue ready).Perm (queue ++ ready) := by
  unfold enqueue
  induction ready generalizing queue with
  | nil => simp
  | cons t rest ih =>
    refine (ih _).trans ?_
    rw [List.append_cons]
    exact (sortStrings_perm _).append_right rest

section Loop

variable {g : DependencyGraph} {next : String → List String}

theorem kahn_finished (wellFormed : g.WellFormed) (perm : ∀ n, (next n).Perm (g.edges n)) :
    Kahn.Finished next g.nodes (g.kahn next) := by
  refine Kahn.finished_loop wellFormed.distinct ?_ enqueue_perm _ (.start ?_ ?_ ?_) (by simp)
  · exact fun n _ t member => wellFormed.target n t ((perm n).mem_iff.mp member)
  · intro t _
    simp [inDegree, Kahn.pending, (perm _).count_eq]
  · exact (sortStrings_perm _).nodup_iff.mpr (wellFormed.distinct.filter _)
  · intro t
    rw [mem_sortStrings, List.mem_filter, decide_eq_true_iff]

theorem kahn_edge (wellFormed : g.WellFormed) (perm : ∀ n, (next n).Perm (g.edges n)) :
    Kahn.Edge next g.nodes = g.Edge := by
  funext a b
  simp only [Kahn.Edge, Edge, (perm a).mem_iff, eq_iff_iff, and_iff_right_iff_imp]
  exact wellFormed.source a b

theorem kahn_perm_iff_acyclic (wellFormed : g.WellFormed)
    (perm : ∀ n, (next n).Perm (g.edges n)) :
    (g.kahn next).done.Perm g.nodes ↔ Acyclic g.Edge := by
  rw [← kahn_edge wellFormed perm]
  exact (kahn_finished wellFormed perm).perm_iff_acyclic wellFormed.distinct
    (fun n _ t member => wellFormed.target n t ((perm n).mem_iff.mp member))

end Loop

section Search

variable {g : DependencyGraph} {cycleNodes : List String}

/-- The edges among the nodes that Kahn's loop has left. -/
def Within (g : DependencyGraph) (cycleNodes : List String) (a b : String) : Prop :=
  b ∈ g.edges a ∧ a ∈ cycleNodes ∧ b ∈ cycleNodes

/-- What a call of the search guarantees below a path. -/
def Searches (g : DependencyGraph) (cycleNodes : List String)
    (visit : String → Trace → Bool × Trace) (path : List String) : Prop :=
  ∀ n st, st.path = path → path.Nodup →
    List.IsChain (g.Within cycleNodes) (path ++ [n]) →
    ((visit n st).1 = true → ∃ cycle, IsCycle (g.Within cycleNodes) cycle ∧
      (visit n st).2.cycles = st.cycles ++ [cycle]) ∧
    ((visit n st).1 = false → (visit n st).2 = st ∧
      Acc (fun b a => g.Within cycleNodes a b) n)

theorem follow_spec {visit : String → Trace → Bool × Trace} {path : List String}
    (searches : Searches g cycleNodes visit path) (nodup : path.Nodup) {targets : List String}
    {st : Trace} (at_path : st.path = path)
    (chains : ∀ t ∈ targets, t ∈ cycleNodes →
      List.IsChain (g.Within cycleNodes) (path ++ [t])) :
    ((follow cycleNodes visit targets st).1 = true →
      ∃ cycle, IsCycle (g.Within cycleNodes) cycle ∧
        (follow cycleNodes visit targets st).2.cycles = st.cycles ++ [cycle]) ∧
    ((follow cycleNodes visit targets st).1 = false →
      (follow cycleNodes visit targets st).2 = st ∧
        ∀ t ∈ targets, t ∈ cycleNodes → Acc (fun b a => g.Within cycleNodes a b) t) := by
  induction targets with
  | nil => simp [follow]
  | cons t rest ih =>
    have later := ih (fun t member => chains t (List.mem_cons_of_mem _ member))
    unfold follow
    by_cases inside : t ∈ cycleNodes
    · obtain ⟨finds, misses⟩ := searches t st at_path nodup (chains t (by simp) inside)
      rw [if_pos inside]
      rcases called : visit t st with ⟨found, after⟩
      rw [called] at finds misses
      cases found with
      | true => exact ⟨finds, by simp⟩
      | false =>
        obtain ⟨rfl, ends⟩ := misses rfl
        refine ⟨later.1, fun missed => ⟨(later.2 missed).1, ?_⟩⟩
        intro other member otherInside
        rcases List.mem_cons.mp member with rfl | inRest
        · exact ends
        · exact (later.2 missed).2 other inRest otherInside
    · rw [if_neg inside]
      refine ⟨later.1, fun missed => ⟨(later.2 missed).1, ?_⟩⟩
      intro other member otherInside
      rcases List.mem_cons.mp member with rfl | inRest
      · exact absurd otherInside inside
      · exact (later.2 missed).2 other inRest otherInside

theorem searches_dfs (fuel : Nat) (path : List String)
    (enough : cycleNodes.length < fuel + path.length) :
    Searches g cycleNodes (dfs g cycleNodes fuel) path := by
  induction fuel generalizing path with
  | zero =>
    rintro n st rfl nodup chain
    have inside : st.path ⊆ cycleNodes := by
      intro a member
      obtain ⟨before, after, split⟩ := List.append_of_mem member
      rw [split, List.append_assoc, List.cons_append] at chain
      have rest := chain.right_of_append
      cases after with
      | nil => exact (List.isChain_cons_cons.mp rest).1.2.1
      | cons b more => exact (List.isChain_cons_cons.mp rest).1.2.1
    have bound := (nodup.subperm inside).length_le
    omega
  | succ fuel ih =>
    rintro n st rfl nodup chain
    unfold dfs
    by_cases inside : n ∈ cycleNodes
    · rw [if_neg (not_not.mpr inside)]
      by_cases onPath : n ∈ st.path
      · rw [if_pos onPath]
        exact ⟨fun _ => ⟨_, isCycle_dropWhile chain onPath, rfl⟩, by simp⟩
      · rw [if_neg onPath]
        have entered : (st.path ++ [n]).Nodup :=
          List.nodup_append'.mpr ⟨nodup, List.nodup_singleton n, by simpa using onPath⟩
        have chains : ∀ t ∈ g.deps n, t ∈ cycleNodes →
            List.IsChain (g.Within cycleNodes) ((st.path ++ [n]) ++ [t]) := by
          intro t member targetInside
          refine List.isChain_append.mpr ⟨chain, .singleton t, ?_⟩
          simpa using ⟨mem_sortStrings.mp member, inside, targetInside⟩
        have deeper : cycleNodes.length < fuel + (st.path ++ [n]).length := by
          simp; omega
        obtain ⟨finds, misses⟩ := @follow_spec g cycleNodes _ _ (ih _ deeper) entered (g.deps n)
          { st with path := st.path ++ [n] } rfl chains
        rcases followed : follow cycleNodes (dfs g cycleNodes fuel) (g.deps n)
          { st with path := st.path ++ [n] } with ⟨found, after⟩
        rw [followed] at finds misses
        cases found with
        | true => exact ⟨fun _ => finds rfl, by simp⟩
        | false =>
          obtain ⟨rfl, ends⟩ := misses rfl
          refine ⟨by simp, fun _ => ⟨by simp, ?_⟩⟩
          constructor
          rintro t ⟨edge, -, targetInside⟩
          exact ends t (mem_sortStrings.mpr edge) targetInside
    · rw [if_pos inside]
      refine ⟨by simp, fun _ => ⟨rfl, ?_⟩⟩
      constructor
      rintro t ⟨-, sourceInside, -⟩
      exact absurd sourceInside inside

/-- What the search has found and ruled out after some of its starts. -/
structure Traced (g : DependencyGraph) (cycleNodes seen : List String) (st : Trace) : Prop where
  cycles : ∀ cycle ∈ st.cycles, IsCycle (g.Within cycleNodes) cycle
  traced : st.cycles = [] → ∀ n ∈ st.traced, Acc (fun b a => g.Within cycleNodes a b) n
  seen : st.cycles = [] → ∀ n ∈ seen, Acc (fun b a => g.Within cycleNodes a b) n

theorem Traced.traceFrom {seen : List String} {st : Trace} (traced : Traced g cycleNodes seen st)
    (start : String) :
    Traced g cycleNodes (seen ++ [start]) (traceFrom g cycleNodes st start) := by
  unfold DependencyGraph.traceFrom
  by_cases known : start ∈ st.traced
  · rw [if_pos known]
    refine ⟨traced.cycles, traced.traced, fun none n member => ?_⟩
    rcases List.mem_append.mp member with old | new
    · exact traced.seen none n old
    · rw [List.mem_singleton.mp new]
      exact traced.traced none start known
  · rw [if_neg known]
    obtain ⟨finds, misses⟩ := @searches_dfs g cycleNodes (cycleNodes.length + 1) []
      (by simp) start { st with path := [] } rfl .nil (.singleton start)
    rcases called : dfs g cycleNodes (cycleNodes.length + 1) start { st with path := [] }
      with ⟨found, after⟩
    rw [called] at finds misses
    cases found with
    | true =>
      obtain ⟨cycle, real, recorded⟩ := finds rfl
      simp only at recorded
      refine ⟨fun other member => ?_, fun none => ?_, fun none => ?_⟩
      · simp only [recorded, List.mem_append, List.mem_singleton] at member
        rcases member with old | rfl
        · exact traced.cycles other old
        · exact real
      · simp [recorded] at none
      · simp [recorded] at none
    | false =>
      obtain ⟨rfl, ends⟩ := misses rfl
      refine ⟨traced.cycles, fun none n member => ?_, fun none n member => ?_⟩
      · rcases List.mem_cons.mp member with rfl | old
        · exact ends
        · exact traced.traced none n old
      · rcases List.mem_append.mp member with old | new
        · exact traced.seen none n old
        · rw [List.mem_singleton.mp new]
          exact ends

theorem Traced.traceAll {seen : List String} {st : Trace} (traced : Traced g cycleNodes seen st)
    (starts : List String) :
    Traced g cycleNodes (seen ++ starts)
      (starts.foldl (DependencyGraph.traceFrom g cycleNodes) st) := by
  induction starts generalizing seen st with
  | nil => simpa using traced
  | cons start rest ih => simpa using ih (traced.traceFrom start)

/-- Where every node left has a predecessor left, the search finds a cycle. -/
theorem exists_traced_cycle {st : Trace} (traced : Traced g cycleNodes cycleNodes st)
    (some : cycleNodes ≠ [])
    (predecessor : ∀ n ∈ cycleNodes, ∃ a ∈ cycleNodes, n ∈ g.edges a) : st.cycles ≠ [] := by
  intro none
  have acyclic : Acyclic (g.Within cycleNodes) := by
    intro n back
    obtain ⟨b, edge, -⟩ := Relation.TransGen.head'_iff.mp back
    exact not_transGen_self_of_acc (traced.seen none n edge.2.1) back
  obtain ⟨source, inside, first⟩ := acyclic.exists_source some
  obtain ⟨a, aInside, edge⟩ := predecessor source inside
  exact first a aInside ⟨edge, aInside, inside⟩

end Search

/-! ## Cycles and order -/

section Analysis

variable {g : DependencyGraph} (starts : Ranging String) (targets : String → Ranging String)

theorem isCycle_of_mem_detectCycles {cycle : List String}
    (reported : cycle ∈ g.detectCycles starts targets) : IsCycle g.Edge cycle := by
  unfold detectCycles at reported
  simp only at reported
  split at reported
  · simp at reported
  · have empty : ∀ nodes, Traced g nodes [] {} := fun _ => ⟨by simp, by simp, by simp⟩
    obtain ⟨a, middle, closed, chain⟩ := ((empty _).traceAll _).cycles cycle reported
    exact ⟨a, middle, closed, chain.imp (fun _ _ edge => edge.1)⟩

/-- Nothing is reported exactly on an acyclic graph. -/
theorem detectCycles_eq_nil_iff (wellFormed : g.WellFormed) :
    g.detectCycles starts targets = [] ↔ Acyclic g.Edge := by
  have perm : ∀ n, ((targets n).order (g.edges n)).Perm (g.edges n) :=
    fun n => (targets n).perm (g.edges n)
  have finished := kahn_finished wellFormed perm
  constructor
  · intro none
    rw [← kahn_perm_iff_acyclic wellFormed perm,
      List.perm_ext_iff_of_nodup finished.nodup_done wellFormed.distinct]
    refine fun n => ⟨fun member => finished.subset member, fun member => ?_⟩
    by_contra left
    unfold detectCycles at none
    simp only at none
    split at none
    case isTrue empty =>
      have nobody := List.filter_eq_nil_iff.mp (List.isEmpty_iff.mp empty) n member
      exact nobody (decide_eq_true left)
    case isFalse some =>
      have init : ∀ nodes, Traced g nodes [] {} := fun _ => ⟨by simp, by simp, by simp⟩
      obtain ⟨cycles, traced, seen⟩ := (init _).traceAll (starts.order (g.nodes.filter
        (· ∉ (g.kahn fun n => (targets n).order (g.edges n)).done)))
      refine exists_traced_cycle ⟨cycles, traced, fun none n inside => ?_⟩ ?_ ?_ none
      · exact seen none n (by simpa using (starts.perm _).mem_iff.mpr inside)
      · exact fun empty => some (List.isEmpty_iff.mpr empty)
      · intro n inside
        obtain ⟨inNodes, fresh⟩ := List.mem_filter.mp inside
        obtain ⟨a, aNode, aLeft, edge⟩ :=
          finished.exists_predecessor inNodes (of_decide_eq_true fresh)
        exact ⟨a, List.mem_filter.mpr ⟨aNode, decide_eq_true aLeft⟩, (perm a).mem_iff.mp edge⟩
  · intro acyclic
    by_contra some
    obtain ⟨cycle, reported⟩ := List.exists_mem_of_ne_nil _ some
    exact (isCycle_of_mem_detectCycles starts targets reported).not_acyclic acyclic

/-- On an acyclic graph the sort returns a migration order. -/
theorem topologicalSort_eq_ok (wellFormed : g.WellFormed) (acyclic : Acyclic g.Edge) :
    ∃ order, g.topologicalSort = .ok order ∧ order.Perm g.nodes ∧ TargetsFirst g.Edge order := by
  have perm : ∀ n, (g.deps n).Perm (g.edges n) := fun n => sortStrings_perm _
  have finished := kahn_finished wellFormed perm
  have all := (kahn_perm_iff_acyclic wellFormed perm).mpr acyclic
  refine ⟨_, ?_, (List.reverse_perm _).trans all, ?_⟩
  · rw [topologicalSort, if_neg (not_not.mpr all.length_eq)]
  · have ordered := finished.ordered
    rw [kahn_edge wellFormed perm] at ordered
    exact ordered.reverse finished.nodup_done
      (fun a b edge => all.mem_iff.mpr (wellFormed.target a b edge))

end Analysis

end DependencyGraph

section Analysis

variable (starts : Ranging String) (targets : String → Ranging String) (schemas : List EntitySchema)

def linkPairs (schemas : List EntitySchema) : List (String × String) :=
  schemas.flatMap fun es => es.references.map fun target => (es.qualifiedName, target)

/-- The graph and the complaints built from a set of entities. -/
abbrev BuiltFrom (schemas : List EntitySchema) (st : DependencyGraph × List Diagnostic) : Prop :=
  Built (schemas.map EntitySchema.qualifiedName) (schemas.map EntitySchema.qualifiedName)
    (linkPairs schemas) st

theorem builtFrom : BuiltFrom schemas
    (schemas.foldl (addEntity (schemas.map EntitySchema.qualifiedName)) ({}, [])) := by
  have built := (Built.nil (schemas.map EntitySchema.qualifiedName)).addEntities schemas
  rwa [List.nil_append, List.nil_append] at built

theorem mem_linkPairs {a b : String} : (a, b) ∈ linkPairs schemas ↔
    ∃ es ∈ schemas, es.qualifiedName = a ∧ b ∈ es.references := by
  simp only [linkPairs, List.mem_flatMap, List.mem_map, Prod.mk.injEq]
  constructor
  · rintro ⟨es, member, target, inside, named, rfl⟩
    exact ⟨es, member, named, inside⟩
  · rintro ⟨es, member, named, inside⟩
    exact ⟨es, member, b, inside, named, rfl⟩

variable {schemas} {g : DependencyGraph} {ds : List Diagnostic}

theorem BuiltFrom.clean_iff_resolved (built : BuiltFrom schemas (g, ds)) :
    ds = [] ↔ Resolved schemas := by
  rw [show ds = [] ↔ _ from built.clean]
  constructor
  · intro all es member target inside
    exact all (es.qualifiedName, target) ((mem_linkPairs schemas).mpr ⟨es, member, rfl, inside⟩)
  · rintro resolved ⟨a, b⟩ member
    obtain ⟨es, inSet, -, inside⟩ := (mem_linkPairs schemas).mp member
    exact resolved es inSet b inside

theorem BuiltFrom.edge_eq (built : BuiltFrom schemas (g, ds)) (resolved : Resolved schemas) :
    g.Edge = DependsOn schemas := by
  funext a b
  simp only [DependencyGraph.Edge, built.mem_edges, mem_linkPairs, DependsOn, eq_iff_iff]
  constructor
  · rintro ⟨links, -, apart⟩
    exact ⟨apart, links⟩
  · rintro ⟨apart, es, member, named, inside⟩
    exact ⟨⟨es, member, named, inside⟩, resolved es member b inside, apart⟩

theorem BuiltFrom.wellFormed (built : BuiltFrom schemas (g, ds)) : g.WellFormed where
  distinct := built.distinct
  nodup := built.nodup_edges
  source := by
    intro a b edge
    obtain ⟨es, member, named, -⟩ := (mem_linkPairs schemas).mp ((built.mem_edges a b).mp edge).1
    exact (built.mem_nodes a).mpr (List.mem_map.mpr ⟨es, member, named⟩)
  target := fun a b edge => (built.mem_nodes b).mpr ((built.mem_edges a b).mp edge).2.1

/-- Where every diagnostic is an error, there is none exactly without errors. -/
theorem hasErrors_eq_false_iff (errors : ∀ d ∈ ds, d.severity = .error) :
    hasErrors ds = false ↔ ds = [] := by
  cases ds with
  | nil => simp [hasErrors]
  | cons d rest => simp [hasErrors, errors d (by simp)]

theorem hasErrors_map_circular {cycles : List (List String)} (some : cycles ≠ []) :
    hasErrors (cycles.map circular) = true := by
  rw [← Bool.not_eq_false, hasErrors_eq_false_iff]
  · simpa using some
  · intro d member
    obtain ⟨cycle, -, rfl⟩ := List.mem_map.mp member
    rfl

/-- A set whose links do not all resolve is rejected before any cycle is looked for. -/
theorem checkGraph_of_unresolved (built : BuiltFrom schemas (g, ds))
    (unresolved : ¬ Resolved schemas) :
    checkGraph starts targets g ds = (g, ds) ∧ hasErrors ds = true := by
  have complaints : ds ≠ [] := fun none => unresolved (built.clean_iff_resolved.mp none)
  have errors : hasErrors ds = true := by
    rw [← Bool.not_eq_false, hasErrors_eq_false_iff built.errors]
    exact complaints
  exact ⟨if_pos errors, errors⟩

theorem checkGraph_of_cyclic (built : BuiltFrom schemas (g, ds)) (resolved : Resolved schemas)
    (cyclic : ¬ Acyclic (DependsOn schemas)) :
    ∃ cycles, cycles ≠ [] ∧ checkGraph starts targets g ds = (g, cycles.map circular) ∧
      ∀ cycle ∈ cycles, IsCycle (DependsOn schemas) cycle := by
  obtain rfl := built.clean_iff_resolved.mpr resolved
  have edges := built.edge_eq resolved
  have found : g.detectCycles starts targets ≠ [] := by
    rw [Ne, DependencyGraph.detectCycles_eq_nil_iff starts targets built.wellFormed, edges]
    exact cyclic
  have errors := hasErrors_map_circular found
  refine ⟨_, found, ?_, fun cycle member => ?_⟩
  · have clean : hasErrors [] = false := rfl
    simp only [checkGraph, clean, List.nil_append, errors, Bool.false_eq_true, if_true, if_false]
  · exact edges ▸ DependencyGraph.isCycle_of_mem_detectCycles starts targets member

/-- A resolved set without a cycle is accepted, with a migration order. -/
theorem checkGraph_of_acyclic (built : BuiltFrom schemas (g, ds)) (resolved : Resolved schemas)
    (acyclic : Acyclic (DependsOn schemas)) :
    ∃ order, checkGraph starts targets g ds = ({ g with topologicalOrder := some order }, []) ∧
      order.Nodup ∧ (∀ n, n ∈ order ↔ n ∈ schemas.map EntitySchema.qualifiedName) ∧
      TargetsFirst (DependsOn schemas) order := by
  obtain rfl := built.clean_iff_resolved.mpr resolved
  have edges := built.edge_eq resolved
  rw [← edges] at acyclic ⊢
  have none := (DependencyGraph.detectCycles_eq_nil_iff starts targets built.wellFormed).mpr acyclic
  obtain ⟨order, sorted, perm, first⟩ :=
    DependencyGraph.topologicalSort_eq_ok built.wellFormed acyclic
  refine ⟨order, ?_, perm.nodup_iff.mpr built.distinct, fun n => ?_, first⟩
  · simp [checkGraph, hasErrors, none, sorted]
  · rw [perm.mem_iff]
    exact built.mem_nodes n

end Analysis

/--
Every set of entities whose links and edges resolve is accepted exactly when
its link graph, self-references aside, is acyclic; an accepted set comes with
an order that lists every entity once, behind all it depends on; a resolved set
that is rejected has at least one cycle reported, and only cycles.  A set with
an unresolved target is rejected whatever its graph.
-/
theorem dependencyAnalysis_correct (starts : Ranging String) (targets : String → Ranging String)
    (schemas : List EntitySchema) :
    let (g, ds) := dependencyAnalysis starts targets schemas
    (hasErrors ds = false ↔ Resolved schemas ∧ Acyclic (DependsOn schemas)) ∧
    (hasErrors ds = false → ∃ order, g.topologicalOrder = some order ∧ order.Nodup ∧
      (∀ n, n ∈ order ↔ n ∈ schemas.map EntitySchema.qualifiedName) ∧
      TargetsFirst (DependsOn schemas) order) ∧
    (hasErrors ds = true → Resolved schemas → ∃ cycles, cycles ≠ [] ∧
      ds = cycles.map circular ∧ ∀ cycle ∈ cycles, IsCycle (DependsOn schemas) cycle) := by
  have built := builtFrom schemas
  unfold dependencyAnalysis buildDependencyGraph
  generalize schemas.foldl (addEntity (schemas.map EntitySchema.qualifiedName)) ({}, []) = st
    at built ⊢
  obtain ⟨g, ds⟩ := st
  simp only
  by_cases resolved : Resolved schemas
  · by_cases acyclic : Acyclic (DependsOn schemas)
    · obtain ⟨order, accepted, orders⟩ :=
        checkGraph_of_acyclic starts targets built resolved acyclic
      rw [accepted]
      exact ⟨by simp [hasErrors, resolved, acyclic], fun _ => ⟨order, rfl, orders⟩,
        by simp [hasErrors]⟩
    · obtain ⟨cycles, found, rejected, real⟩ :=
        checkGraph_of_cyclic starts targets built resolved acyclic
      have errors : hasErrors (cycles.map circular) = true :=
        hasErrors_map_circular found
      rw [rejected]
      exact ⟨by simp [errors, acyclic], by simp [errors], fun _ _ => ⟨cycles, found, rfl, real⟩⟩
  · obtain ⟨rejected, errors⟩ := checkGraph_of_unresolved starts targets built resolved
    rw [rejected]
    exact ⟨by simp [errors, resolved], by simp [errors], fun _ some => absurd some resolved⟩

/-! ## An edge to nowhere -/

/-- An entity whose one edge names no entity of the set. -/
def danglingInvoice : EntitySchema :=
  buildEntitySchema
    { name := "invoice", module := "finance",
      edges := [{ name := "lines", target := "finance_invoice_line" }] }

def listed : Ranging String := ⟨id, fun _ => .refl _⟩

theorem dependsOn_danglingInvoice {a b : String} (edge : DependsOn [danglingInvoice] a b) :
    a = "finance_invoice" ∧ b = "finance_invoice_line" := by
  obtain ⟨-, es, member, named, inside⟩ := edge
  obtain rfl := List.mem_singleton.mp member
  have references : danglingInvoice.references = ["finance_invoice_line"] := by decide +kernel
  have name : danglingInvoice.qualifiedName = "finance_invoice" := by decide +kernel
  rw [references] at inside
  exact ⟨named.symm.trans name, List.mem_singleton.mp inside⟩

/-- It is rejected although its link graph has no cycle, and no cycle is reported. -/
theorem rejects_unresolved_without_cycle :
    Acyclic (DependsOn [danglingInvoice]) ∧
      let ds := (dependencyAnalysis listed (fun _ => listed) [danglingInvoice]).2
      hasErrors ds = true ∧ ∀ cycle, circular cycle ∉ ds := by
  have complaint : (dependencyAnalysis listed (fun _ => listed) [danglingInvoice]).2 =
      [{ severity := .error
         entityName := "finance_invoice"
         message :=
          "edge \"lines\": target entity \"finance_invoice_line\" not found in registry" }] := by
    decide +kernel
  simp only [complaint]
  refine ⟨fun a => ?_, rfl, fun cycle reported => ?_⟩
  · apply not_transGen_self_of_acc
    constructor
    intro b first
    constructor
    intro c second
    have source := (dependsOn_danglingInvoice second).1
    have target := (dependsOn_danglingInvoice first).2
    simp [target] at source
  · rw [List.mem_singleton] at reported
    have name := congrArg Diagnostic.entityName reported
    simp [circular] at name

end ErpFinance.Compiler
