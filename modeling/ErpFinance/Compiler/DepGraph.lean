import ErpFinance.Compiler.Compile
import ErpFinance.Compiler.DependencyAnalysis
import ErpFinance.Library.Except
import ErpFinance.Library.Traversal

/-!
# The exported dependency graph

`DepGraph` is built from a compiled schema for the tools that order entities or
look for what depends on one.  It is a second graph beside the compiler's own:
it knows link fields only, and it keeps the links of an entity to itself.
-/

namespace ErpFinance.Compiler

open Def Library Registry
open Relation (TransGen)

/-- The maps of the graph hold sets, listed here without repetition. -/
structure DepGraph where
  deps : String → List String := fun _ => []
  all : List String := []

namespace DepGraph

/-! ## Building the graph -/

/-- One field of an entity. -/
def addField (name : String) (g : DepGraph) (f : FieldDef) : DepGraph :=
  if f.type.isLink ∧ f.linkTarget ≠ "" then
    { g with deps := Function.update g.deps name ((g.deps name).insert f.linkTarget) }
  else g

def addEntity (g : DepGraph) (es : EntitySchema) : DepGraph :=
  es.fields.foldl (addField es.qualifiedName) { g with all := g.all.insert es.qualifiedName }

def build (s : CompiledSchema) : DepGraph := s.entities.foldl addEntity {}

/-! ## Reading it -/

/-- The entities that depend directly on the given one. -/
def reverseDeps (g : DepGraph) (dep : String) : List String :=
  g.all.filter (fun name => dep ∈ g.deps name)

def depCount (g : DepGraph) (name : String) : Int := (g.deps name).length

def dependants (g : DepGraph) (node : String) : List String := sortStrings (g.reverseDeps node)

def kahn (g : DepGraph) : Kahn.State String :=
  Kahn.loop g.dependants DependencyGraph.enqueue g.all.length
    { degree := g.depCount, queue := sortStrings (g.all.filter (fun name => g.depCount name = 0)) }

def topologicalOrder (g : DepGraph) : Except String (List String) :=
  let result := g.kahn.done
  if result.length ≠ g.all.length then .error "circular dependency detected in entity graph"
  else .ok result

/-- A set of dependants is ranged over in any order, which may differ from visit to visit. -/
def dependents (g : DepGraph) (ranges : List String → String → Ranging String) (name : String) :
    List String :=
  sortStrings (Traversal.dfs (fun found n => (ranges found n).order (g.reverseDeps n))
    (g.all.length + 1) name [])

end DepGraph

/-! ## The links of the entities -/

def EntitySchema.fieldTargets (es : EntitySchema) : List String :=
  (es.fields.filter (fun f => f.type.isLink ∧ f.linkTarget ≠ "")).map FieldDef.linkTarget

def FieldLink (schemas : List EntitySchema) (a b : String) : Prop :=
  ∃ es ∈ schemas, es.qualifiedName = a ∧ b ∈ es.fieldTargets

/-- Some link field or edge of the one entity names the other. -/
def AnyLink (schemas : List EntitySchema) (a b : String) : Prop :=
  ∃ es ∈ schemas, es.qualifiedName = a ∧ b ∈ es.references

theorem mem_references_iff {es : EntitySchema} {target : String} :
    target ∈ es.references ↔
      target ∈ es.fieldTargets ∨ target ≠ "" ∧ ∃ e ∈ es.edges, e.target = target := by
  simp only [EntitySchema.references, EntitySchema.links, EntitySchema.fieldTargets,
    List.map_append, List.map_map, List.filter_append, List.mem_append, List.mem_filter,
    List.mem_map, Function.comp_apply, decide_eq_true_eq, Bool.decide_and, Bool.and_eq_true]
  constructor
  · rintro (⟨⟨f, ⟨member, link⟩, rfl⟩, named⟩ | ⟨⟨e, member, rfl⟩, named⟩)
    · exact .inl ⟨f, ⟨member, link, named⟩, rfl⟩
    · exact .inr ⟨named, e, member, rfl⟩
  · rintro (⟨f, ⟨member, link, named⟩, rfl⟩ | ⟨named, e, member, rfl⟩)
    · exact .inl ⟨⟨f, ⟨member, link⟩, rfl⟩, named⟩
    · exact .inr ⟨⟨e, member, rfl⟩, named⟩

theorem FieldLink.any {schemas : List EntitySchema} {a b : String} (link : FieldLink schemas a b) :
    AnyLink schemas a b := by
  obtain ⟨es, member, named, target⟩ := link
  exact ⟨es, member, named, mem_references_iff.mpr (.inl target)⟩

/-! ## What is built -/

namespace DepGraph

/-- The graph lists the entities and their links by fields. -/
structure BuiltFrom (schemas : List EntitySchema) (g : DepGraph) : Prop where
  distinct : g.all.Nodup
  mem_all : ∀ n, n ∈ g.all ↔ n ∈ schemas.map EntitySchema.qualifiedName
  nodup : ∀ a, (g.deps a).Nodup
  mem_deps : ∀ a b, b ∈ g.deps a ↔ FieldLink schemas a b

theorem addFields_spec (name : String) (fields : List FieldDef) (g : DepGraph)
    (nodup : ∀ a, (g.deps a).Nodup) :
    (fields.foldl (addField name) g).all = g.all ∧
    (∀ a, ((fields.foldl (addField name) g).deps a).Nodup) ∧
    ∀ a b, b ∈ (fields.foldl (addField name) g).deps a ↔ b ∈ g.deps a ∨
      name = a ∧ b ∈ (fields.filter (fun f => f.type.isLink ∧ f.linkTarget ≠ "")).map
        FieldDef.linkTarget := by
  induction fields generalizing g with
  | nil => simp [nodup]
  | cons f rest ih =>
    rw [List.foldl_cons]
    by_cases link : f.type.isLink ∧ f.linkTarget ≠ ""
    · have distinct : ∀ a, ((addField name g f).deps a).Nodup := by
        intro a
        rw [addField, if_pos link]
        by_cases same : a = name
        · subst same
          simpa using (nodup a).insert
        · simpa [Function.update_of_ne same] using nodup a
      obtain ⟨all, nodups, members⟩ := ih (addField name g f) distinct
      refine ⟨all.trans (by rw [addField, if_pos link]), nodups, fun a b => ?_⟩
      rw [members, List.filter_cons_of_pos (by simpa using link), List.map_cons, List.mem_cons,
        addField, if_pos link]
      simp only [mem_update_insert, Prod.mk.injEq]
      constructor
      · rintro ((old | ⟨rfl, rfl⟩) | ⟨rfl, later⟩)
        · exact .inl old
        · exact .inr ⟨rfl, .inl rfl⟩
        · exact .inr ⟨rfl, .inr later⟩
      · rintro (old | ⟨rfl, rfl | later⟩)
        · exact .inl (.inl old)
        · exact .inl (.inr ⟨rfl, rfl⟩)
        · exact .inr ⟨rfl, later⟩
    · have same : addField name g f = g := if_neg link
      rw [same, List.filter_cons_of_neg (by simpa using link)]
      exact ih g nodup

theorem BuiltFrom.addEntity {schemas : List EntitySchema} {g : DepGraph}
    (built : BuiltFrom schemas g) (es : EntitySchema) :
    BuiltFrom (schemas ++ [es]) (g.addEntity es) := by
  obtain ⟨all, nodups, members⟩ := addFields_spec es.qualifiedName es.fields
    { g with all := g.all.insert es.qualifiedName } built.nodup
  refine ⟨?_, fun n => ?_, nodups, fun a b => ?_⟩
  · rw [DepGraph.addEntity, all]
    exact built.distinct.insert
  · rw [DepGraph.addEntity, all]
    simp only [List.mem_insert_iff, built.mem_all, List.map_append, List.map_cons, List.map_nil,
      List.mem_append, List.mem_singleton]
    tauto
  · rw [DepGraph.addEntity, members]
    simp only [built.mem_deps, FieldLink, List.mem_append, List.mem_singleton]
    constructor
    · rintro (⟨other, member, named, target⟩ | ⟨named, target⟩)
      · exact ⟨other, .inl member, named, target⟩
      · exact ⟨es, .inr rfl, named, target⟩
    · rintro ⟨other, member | rfl, named, target⟩
      · exact .inl ⟨other, member, named, target⟩
      · exact .inr ⟨named, target⟩

theorem builtFrom_build (s : CompiledSchema) : BuiltFrom s.entities (build s) := by
  have grown : ∀ (more schemas : List EntitySchema) (g : DepGraph), BuiltFrom schemas g →
      BuiltFrom (schemas ++ more) (more.foldl DepGraph.addEntity g) := by
    intro more
    induction more with
    | nil =>
      intro schemas g built
      simpa using built
    | cons es rest ih =>
      intro schemas g built
      simpa using ih _ _ (built.addEntity es)
  exact grown s.entities [] {} ⟨.nil, by simp, by simp, by simp [FieldLink]⟩

/-! ## Kahn's loop -/

section Order

variable {schemas : List EntitySchema} {g : DepGraph}

theorem BuiltFrom.closed (built : BuiltFrom schemas g) (resolved : Resolved schemas) {a b : String}
    (link : FieldLink schemas a b) : a ∈ g.all ∧ b ∈ g.all := by
  obtain ⟨es, member, named, target⟩ := link
  refine ⟨(built.mem_all a).mpr (List.mem_map.mpr ⟨es, member, named⟩), ?_⟩
  exact (built.mem_all b).mpr (resolved es member b (mem_references_iff.mpr (.inl target)))

theorem BuiltFrom.mem_reverseDeps (built : BuiltFrom schemas g) (resolved : Resolved schemas)
    (a b : String) : a ∈ g.reverseDeps b ↔ FieldLink schemas a b := by
  rw [reverseDeps, List.mem_filter, decide_eq_true_iff, built.mem_deps, and_iff_right_iff_imp]
  exact fun link => (built.closed resolved link).1

theorem sum_indicator {nodes some : List String} (distinct : nodes.Nodup) (nodup : some.Nodup)
    (inside : some ⊆ nodes) :
    (nodes.map (fun n => if n ∈ some then 1 else 0)).sum = some.length := by
  have counted : (nodes.map (fun n => if n ∈ some then 1 else 0)).sum =
      (nodes.filter (· ∈ some)).length := by
    clear distinct inside
    induction nodes with
    | nil => rfl
    | cons n rest ih =>
      rw [List.map_cons, List.sum_cons, ih, List.filter_cons]
      by_cases member : n ∈ some <;> simp [member, Nat.add_comm]
  have same : (nodes.filter (· ∈ some)).Perm some := by
    rw [List.perm_ext_iff_of_nodup (distinct.filter _) nodup]
    intro n
    simp only [List.mem_filter, decide_eq_true_iff, and_iff_right_iff_imp]
    exact fun member => inside member
  rw [counted, same.length_eq]

/-- The number of an entity's links is the number of edges that lead to it in the loop. -/
theorem BuiltFrom.pending (built : BuiltFrom schemas g) (resolved : Resolved schemas) {t : String}
    (member : t ∈ g.all) :
    Kahn.pending g.dependants g.all [] t = (g.deps t).length := by
  have counts : ∀ n, (g.dependants n).count t = if n ∈ g.deps t then 1 else 0 := by
    intro n
    have nodup : (g.reverseDeps n).Nodup := built.distinct.filter _
    rw [dependants, (sortStrings_perm _).count_eq]
    by_cases linked : n ∈ g.deps t
    · rw [if_pos linked]
      exact List.count_eq_one_of_mem nodup (by simp [reverseDeps, member, linked])
    · rw [if_neg linked]
      exact List.count_eq_zero_of_not_mem (by simp [reverseDeps, linked])
  simp only [Kahn.pending, List.not_mem_nil, not_false_eq_true, decide_true, List.filter_true,
    counts]
  refine sum_indicator built.distinct (built.nodup t) fun n linked => ?_
  exact (built.closed resolved ((built.mem_deps t n).mp linked)).2

theorem BuiltFrom.edge (built : BuiltFrom schemas g) (resolved : Resolved schemas) :
    Kahn.Edge g.dependants g.all = fun a b => FieldLink schemas b a := by
  funext a b
  simp only [Kahn.Edge, dependants, mem_sortStrings, built.mem_reverseDeps resolved, eq_iff_iff,
    and_iff_right_iff_imp]
  exact fun link => (built.closed resolved link).2

theorem BuiltFrom.finished (built : BuiltFrom schemas g) (resolved : Resolved schemas) :
    Kahn.Finished g.dependants g.all g.kahn := by
  apply Kahn.finished_loop built.distinct _ DependencyGraph.enqueue_perm _ (.start _ _ _) (by simp)
  · intro n _ t target
    exact (List.mem_filter.mp (mem_sortStrings.mp target)).1
  · intro t member
    rw [built.pending resolved member, depCount]
  · exact (sortStrings_perm _).nodup_iff.mpr (built.distinct.filter _)
  · intro t
    rw [mem_sortStrings, List.mem_filter, decide_eq_true_iff]

/-- The order exists exactly without a cycle of link fields, and then lists every entity once,
behind all it links to. -/
theorem BuiltFrom.topologicalOrder_spec (built : BuiltFrom schemas g)
    (resolved : Resolved schemas) :
    ((∃ order, g.topologicalOrder = .ok order) ↔ Acyclic (FieldLink schemas)) ∧
    ∀ order, g.topologicalOrder = .ok order →
      order.Perm g.all ∧ TargetsFirst (FieldLink schemas) order := by
  have finished := built.finished resolved
  have acyclic := finished.perm_iff_acyclic built.distinct
    (fun n _ t target => (List.mem_filter.mp (mem_sortStrings.mp target)).1)
  have first := finished.ordered
  rw [built.edge resolved] at acyclic first
  rw [← finished.length_iff_perm, acyclic_swap] at acyclic
  unfold topologicalOrder
  simp only
  split
  case isTrue short => exact ⟨by simp [← acyclic, short], by simp⟩
  case isFalse all =>
    have complete := not_not.mp all
    refine ⟨by simp [← acyclic, complete], ?_⟩
    rintro order ⟨⟩
    exact ⟨finished.length_iff_perm.mp complete, first⟩

/-! ## Dependants -/

theorem BuiltFrom.dependents_spec (built : BuiltFrom schemas g) (resolved : Resolved schemas)
    (ranges : List String → String → Ranging String) (name : String) :
    (g.dependents ranges name).Nodup ∧
      ∀ a, a ∈ g.dependents ranges name ↔ TransGen (FieldLink schemas) a name := by
  obtain ⟨nodup, members⟩ := @Traversal.mem_dfs_iff String _ (fun a b => FieldLink schemas b a)
    (fun found n => (ranges found n).order (g.reverseDeps n)) g.all
    (fun found n t => by rw [((ranges found n).perm _).mem_iff, built.mem_reverseDeps resolved])
    (fun a b link => (built.closed resolved link).1) name
  refine ⟨(sortStrings_perm _).nodup_iff.mpr nodup, fun a => ?_⟩
  rw [dependents, mem_sortStrings, members]
  exact Relation.transGen_swap

end Order

end DepGraph

section Compiled

variable {starts : Ranging String} {targets : String → Ranging String} {reg : Registry}
  {schema : CompiledSchema}

theorem compile_resolved (compiled : compile starts targets reg = .ok schema) :
    Resolved schema.entities ∧ Acyclic (DependsOn schema.entities) := by
  have entities := (compile_eq_ok compiled).2.1
  have correct : hasErrors (dependencyAnalysis starts targets schema.entities).2 = false ↔
      Resolved schema.entities ∧ Acyclic (DependsOn schema.entities) := by
    have analysed := dependencyAnalysis_correct starts targets schema.entities
    generalize dependencyAnalysis starts targets schema.entities = analysis at analysed ⊢
    obtain ⟨g, ds⟩ := analysis
    exact analysed.1
  rw [← correct, entities]
  simp only [compile] at compiled
  split at compiled
  · cases compiled
  · split at compiled
    · cases compiled
    · rename_i clean
      simpa using clean

structure Answers (link : String → String → Prop)
    (ranges : List String → String → Ranging String) (schema : CompiledSchema) : Prop where
  order : ∃ order, (DepGraph.build schema).topologicalOrder = .ok order ∧ order.Nodup ∧
    (∀ n, n ∈ order ↔ n ∈ schema.entities.map EntitySchema.qualifiedName) ∧
    TargetsFirst (fun a b => a ≠ b ∧ link a b) order
  nodup : ∀ e, ((DepGraph.build schema).dependents ranges e).Nodup
  dependents : ∀ e a, a ∈ (DepGraph.build schema).dependents ranges e ↔ TransGen link a e

/-- Without the links of entities to themselves the links by fields have no cycle. -/
theorem acyclic_fieldLink_iff (compiled : compile starts targets reg = .ok schema) :
    Acyclic (FieldLink schema.entities) ↔ ∀ a, ¬ FieldLink schema.entities a a := by
  constructor
  · exact fun acyclic a self => acyclic a (.single self)
  · intro noSelf
    refine (compile_resolved compiled).2.mono fun a b link => ⟨?_, link.any⟩
    rintro rfl
    exact noSelf a link

theorem answers_iff (compiled : compile starts targets reg = .ok schema)
    (ranges : List String → String → Ranging String) {link : String → String → Prop}
    (more : ∀ a b, FieldLink schema.entities a b → link a b) :
    Answers link ranges schema ↔ (∀ a, ¬ FieldLink schema.entities a a) ∧
      ∀ a b, link a b → TransGen (FieldLink schema.entities) a b := by
  obtain ⟨resolved, -⟩ := compile_resolved compiled
  have built := DepGraph.builtFrom_build schema
  obtain ⟨exists_iff, orders⟩ := built.topologicalOrder_spec resolved
  have answered := built.dependents_spec resolved ranges
  constructor
  · rintro ⟨⟨order, returned, -⟩, -, dependents⟩
    have acyclic := exists_iff.mp ⟨order, returned⟩
    refine ⟨(acyclic_fieldLink_iff compiled).mp acyclic, fun a b step => ?_⟩
    rw [← (answered b).2, dependents]
    exact .single step
  · rintro ⟨noSelf, reached⟩
    have acyclic := (acyclic_fieldLink_iff compiled).mpr noSelf
    obtain ⟨order, returned⟩ := exists_iff.mpr acyclic
    obtain ⟨perm, first⟩ := orders order returned
    refine ⟨⟨order, returned, perm.nodup_iff.mpr built.distinct, fun n => ?_, ?_⟩,
      fun e => (answered e).1, fun e a => ?_⟩
    · rw [perm.mem_iff]
      exact built.mem_all n
    · rintro before a after split b ⟨-, step⟩
      exact TargetsFirst.mem_of_transGen first split (reached a b step)
    · rw [(answered e).2]
      constructor
      · exact TransGen.mono more a e
      · exact TransGen.closed reached a e

/--
A compiled schema's links by fields are what the exported graph orders and looks up exactly
when no entity has a link field that names itself; where edges count as links too, each of
them must lead where the link fields already lead.
-/
theorem depGraph_answers_iff (compiled : compile starts targets reg = .ok schema)
    (ranges : List String → String → Ranging String) :
    (Answers (FieldLink schema.entities) ranges schema ↔
      ∀ a, ¬ FieldLink schema.entities a a) ∧
    (Answers (AnyLink schema.entities) ranges schema ↔
      (∀ a, ¬ FieldLink schema.entities a a) ∧
        ∀ a b, AnyLink schema.entities a b → TransGen (FieldLink schema.entities) a b) := by
  constructor
  · rw [answers_iff compiled ranges (fun _ _ link => link), and_iff_left_iff_imp]
    exact fun _ a b step => .single step
  · exact answers_iff compiled ranges (fun _ _ link => link.any)

end Compiled

/-! ## A tree of organizations -/

def registryOf (defs : List EntityDefinition) : Registry := ⟨defs, index qualifiedName defs⟩

def organization : EntityDefinition where
  name := "organization"
  module := "platform"
  fields := [{ name := "parent_id", type := .link, linkTarget := "platform_organization" }]

/-- The compiler accepts it, and the exported graph reports a cycle. -/
theorem organization_refused :
    fromValidated Registry.validateDefinition "registry.Build" [organization] =
      .ok (registryOf [organization]) ∧
    ∃ schema, compile listed (fun _ => listed) (registryOf [organization]) = .ok schema ∧
      (DepGraph.build schema).topologicalOrder =
        .error "circular dependency detected in entity graph" ∧
      ¬ Answers (FieldLink schema.entities) (fun _ _ => listed) schema := by
  refine ⟨fromValidated_eq_ok (by decide +kernel), ?_⟩
  obtain ⟨schema, compiled⟩ := exists_of_isOk (show (compile listed (fun _ => listed)
    (registryOf [organization])).isOk = true by decide +kernel)
  have refused : (DepGraph.build schema).topologicalOrder =
      .error "circular dependency detected in entity graph" := by
    rw [DepGraph.build, (compile_eq_ok compiled).2.1]
    decide +kernel
  refine ⟨schema, compiled, refused, ?_⟩
  rintro ⟨⟨order, returned, -⟩, -, -⟩
  rw [refused] at returned
  cases returned

def currencyAndInvoice : List EntityDefinition :=
  [{ name := "currency", module := "finance" },
   { name := "invoice", module := "finance"
     fields := [{ name := "currency", type := .link, linkTarget := "finance_currency" }] }]

theorem currencyAndInvoice_answers :
    ∃ schema, compile listed (fun _ => listed) (registryOf currencyAndInvoice) = .ok schema ∧
      Answers (FieldLink schema.entities) (fun _ _ => listed) schema := by
  obtain ⟨schema, compiled⟩ := exists_of_isOk (show (compile listed (fun _ => listed)
    (registryOf currencyAndInvoice)).isOk = true by decide +kernel)
  refine ⟨schema, compiled,
    (depGraph_answers_iff compiled fun _ _ => listed).1.mpr fun a self => ?_⟩
  obtain ⟨es, member, named, target⟩ := self
  rw [(compile_eq_ok compiled).2.1] at member
  have apart : ∀ es ∈ currencyAndInvoice.map buildEntitySchema,
      es.qualifiedName ∉ es.fieldTargets := by decide +kernel
  exact apart es member (named ▸ target)

end ErpFinance.Compiler
