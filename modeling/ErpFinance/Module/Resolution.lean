import ErpFinance.Library.Except
import ErpFinance.Library.Kahn
import ErpFinance.Library.Table
import ErpFinance.Library.Text

/-!
# Registered modules can be loaded

Registration of module manifests with a check for dependency cycles that rolls
back, and their resolution into a load order with version checks.  The
manifests are kept in a map: how Go ranges over it is a parameter of every call.

After any sequence of registrations the modules' dependencies form no cycle,
so that resolution succeeds exactly when every dependency is there in a
compatible version, and then lists each module once, behind its dependencies.
The order of registration leaves no trace in the result.
-/

namespace ErpFinance.Module

open Library

/-! ## Manifests -/

structure Version where
  major : Int
  minor : Int
  patch : Int

namespace Version

/-- `String`. -/
def format (v : Version) : String :=
  toString v.major ++ "." ++ toString v.minor ++ "." ++ toString v.patch

def less (v other : Version) : Bool :=
  if v.major ≠ other.major then v.major < other.major
  else if v.minor ≠ other.minor then v.minor < other.minor
  else v.patch < other.patch

/-- The other version satisfies the constraint that this one expresses. -/
def compatible (v other : Version) : Bool :=
  if other.major ≠ v.major then false else !other.less v

end Version

structure Dependency where
  module : String
  minimum : Version

structure Manifest where
  name : String
  version : Version
  dependsOn : List Dependency := []

instance : Keyed Manifest String := ⟨Manifest.name⟩

@[simp] theorem Manifest.key_eq (m : Manifest) : Keyed.key m = m.name := rfl

abbrev ModuleRegistry := Table Manifest

def ModuleRegistry.new : ModuleRegistry := ⟨[], .nil⟩

/-! ## Kahn's loop -/

/-- The successors that have become ready join the queue in alphabetical order. -/
def enqueue (queue ready : List String) : List String := queue ++ sortStrings ready

/-- The edges a loop over the manifests finds, from each dependency to its dependent. -/
def edges (manifests : List Manifest) (counts : Dependency → Bool) : List (String × String) :=
  manifests.flatMap fun m => (m.dependsOn.filter counts).map fun dep => (dep.module, m.name)

/-- The in-degrees and adjacency lists of the edges, put through Kahn's loop. -/
def kahn (names : List String) (edges : List (String × String)) : Kahn.State String :=
  let inDegree (name : String) : Int := (edges.countP (fun e => e.2 = name) : Nat)
  Kahn.loop (Kahn.targets edges) enqueue names.length
    { degree := inDegree, queue := sortStrings (names.filter (fun name => inDegree name = 0)) }

namespace ModuleRegistry

/-- `detectCycle`; dependencies that are not registered are ignored. -/
def detectCycle (ranging : Ranging Manifest) (r : ModuleRegistry) : Option String :=
  let manifests := ranging.order r.rows
  let registered (dep : Dependency) : Bool := (r.get? dep.module).isSome
  let processed := (kahn (manifests.map Manifest.name) (edges manifests registered)).done.length
  if processed < r.rows.length then some "cycle detected among registered modules" else none

/-- `Register`: the registry afterwards and the error. -/
def register (ranging : Ranging Manifest) (r : ModuleRegistry) (m : Manifest) :
    ModuleRegistry × Option String :=
  if m.name = "" then (r, some "module.Registry.Register: manifest has empty Name")
  else if (r.get? m.name).isSome then
    (r, some ("module.Registry.Register: module \"" ++ m.name ++ "\" is already registered"))
  else
    let inserted := r.insert m
    match detectCycle ranging inserted with
    | some err =>
      (inserted.remove m.name,
        some ("module.Registry.Register: registering \"" ++ m.name ++
          "\" introduces a dependency cycle: " ++ err))
    | none => (inserted, none)

def checkDependency (r : ModuleRegistry) (m : Manifest) (dep : Dependency) : Except String Unit :=
  match r.get? dep.module with
  | none =>
    .error ("module.Registry.Resolve: module \"" ++ m.name ++ "\" requires \"" ++ dep.module ++
      "\" which is not registered")
  | some installed =>
    if dep.minimum.compatible installed.version then .ok ()
    else
      .error ("module.Registry.Resolve: module \"" ++ m.name ++ "\" requires \"" ++ dep.module ++
        "\" >= " ++ dep.minimum.format ++ " (same major), installed " ++
        installed.version.format)

/-- `Resolve`, that is `topoSort`. -/
def resolve (ranging : Ranging Manifest) (r : ModuleRegistry) :
    Except String (List Manifest) := do
  let manifests := ranging.order r.rows
  forM manifests fun m => forM m.dependsOn (checkDependency r m)
  let sorted := kahn (manifests.map Manifest.name) (edges manifests fun _ => true)
  let result := sorted.done.filterMap r.get?
  if result.length ≠ r.rows.length then
    let cyclic := (manifests.map Manifest.name).filter (fun name => 0 < sorted.degree name)
    .error ("module.Registry.Resolve: dependency cycle detected among modules: " ++
      ", ".intercalate (sortStrings cyclic))
  else .ok result

/-! ## Runs -/

/-- The registry after a sequence of calls of `Register`, valid or not. -/
def registerAll (calls : List (Ranging Manifest × Manifest)) : ModuleRegistry :=
  calls.foldl (fun r call => (register call.1 r call.2).1) new

/-- The manifests that calls register without error, from a registry on. -/
def accepted (r : ModuleRegistry) : List (Ranging Manifest × Manifest) → List Manifest
  | [] => []
  | call :: rest =>
    let after := r.register call.1 call.2
    if after.2 = none then call.2 :: accepted after.1 rest else accepted after.1 rest

/-- A registered module declares a dependency on another one, registered or not. -/
def Requires (r : ModuleRegistry) (a b : String) : Prop :=
  ∃ m, r.get? a = some m ∧ ∃ dep ∈ m.dependsOn, dep.module = b

/-- Every declared dependency is registered in a compatible version. -/
def Satisfied (r : ModuleRegistry) : Prop :=
  ∀ m ∈ r.rows, ∀ dep ∈ m.dependsOn, ∃ installed,
    r.get? dep.module = some installed ∧ dep.minimum.compatible installed.version = true

section Loop

variable (ranging : Ranging Manifest) {r : ModuleRegistry} {counts : Dependency → Bool}

theorem mem_names {name : String} :
    name ∈ (ranging.order r.rows).map Manifest.name ↔ (r.get? name).isSome := by
  rw [List.mem_map, Option.isSome_iff_exists]
  simp only [Table.get?_eq_some_iff, (ranging.perm _).mem_iff]
  exact Iff.rfl

theorem nodup_names : ((ranging.order r.rows).map Manifest.name).Nodup :=
  ((ranging.perm r.rows).map Manifest.name).nodup_iff.mpr r.nodup

theorem length_names : ((ranging.order r.rows).map Manifest.name).length = r.rows.length := by
  rw [List.length_map, (ranging.perm _).length_eq]

theorem mem_edges {a b : String} : (b, a) ∈ edges (ranging.order r.rows) counts ↔
    ∃ m, r.get? a = some m ∧ ∃ dep ∈ m.dependsOn, counts dep = true ∧ dep.module = b := by
  simp only [edges, List.mem_flatMap, List.mem_map, List.mem_filter, (ranging.perm _).mem_iff,
    Prod.mk.injEq, Table.get?_eq_some_iff]
  constructor
  · rintro ⟨m, member, dep, ⟨declared, counted⟩, rfl, rfl⟩
    exact ⟨m, ⟨member, rfl⟩, dep, declared, counted, rfl⟩
  · rintro ⟨m, ⟨member, rfl⟩, dep, declared, counted, rfl⟩
    exact ⟨m, member, dep, ⟨declared, counted⟩, rfl, rfl⟩

theorem enqueue_perm (queue ready : List String) : (enqueue queue ready).Perm (queue ++ ready) :=
  (sortStrings_perm ready).append_left queue

/-- The dependencies counted are registered ones. -/
def CountsRegistered (r : ModuleRegistry) (counts : Dependency → Bool) : Prop :=
  ∀ m ∈ r.rows, ∀ dep ∈ m.dependsOn, counts dep = true ↔ (r.get? dep.module).isSome = true

theorem kahn_edge (registered : r.CountsRegistered counts) :
    Kahn.Edge (Kahn.targets (edges (ranging.order r.rows) counts))
        ((ranging.order r.rows).map Manifest.name) =
      fun b a => r.Requires a b ∧ (r.get? b).isSome = true := by
  funext b a
  simp only [Kahn.Edge, Kahn.mem_targets, mem_edges, mem_names, Requires, eq_iff_iff]
  constructor
  · rintro ⟨inside, m, found, dep, declared, -, named⟩
    exact ⟨⟨m, found, dep, declared, named⟩, inside⟩
  · rintro ⟨⟨m, found, dep, declared, rfl⟩, inside⟩
    exact ⟨inside, m, found, dep, declared,
      (registered m (Table.mem_of_get? found) dep declared).mpr inside, rfl⟩

theorem kahn_closed (n : String) (t : String)
    (target : t ∈ Kahn.targets (edges (ranging.order r.rows) counts) n) :
    t ∈ (ranging.order r.rows).map Manifest.name := by
  obtain ⟨m, found, -⟩ := (mem_edges ranging).mp (Kahn.mem_targets.mp target)
  exact (mem_names ranging).mpr (Option.isSome_of_eq_some found)

theorem kahn_finished (registered : r.CountsRegistered counts) :
    Kahn.Finished (Kahn.targets (edges (ranging.order r.rows) counts))
      ((ranging.order r.rows).map Manifest.name)
      (kahn ((ranging.order r.rows).map Manifest.name) (edges (ranging.order r.rows) counts)) := by
  have sources : ∀ e ∈ edges (ranging.order r.rows) counts,
      e.1 ∈ (ranging.order r.rows).map Manifest.name := by
    rintro ⟨b, a⟩ member
    obtain ⟨m, found, dep, declared, counted, rfl⟩ := (mem_edges ranging).mp member
    exact (mem_names ranging).mpr
      ((registered m (Table.mem_of_get? found) dep declared).mp counted)
  refine Kahn.finished_loop (nodup_names ranging) (fun n _ => kahn_closed ranging n) enqueue_perm _
    (.start ?_ ?_ ?_) (by simp)
  · intro t _
    rw [Kahn.pending_targets (nodup_names ranging) sources]
  · exact (sortStrings_perm _).nodup_iff.mpr ((nodup_names ranging).filter _)
  · intro t
    rw [mem_sortStrings, List.mem_filter, decide_eq_true_iff]

/-- The loop reaches every module exactly when the dependencies form no cycle. -/
theorem kahn_perm_iff_acyclic (registered : r.CountsRegistered counts) :
    (kahn ((ranging.order r.rows).map Manifest.name)
        (edges (ranging.order r.rows) counts)).done.Perm
      ((ranging.order r.rows).map Manifest.name) ↔ Acyclic r.Requires := by
  rw [(kahn_finished ranging registered).perm_iff_acyclic (nodup_names ranging)
    (fun n _ => kahn_closed ranging n), kahn_edge ranging registered, acyclic_swap]
  refine (acyclic_iff_inside ?_).symm
  rintro a b ⟨m, found, -⟩
  exact Option.isSome_of_eq_some found

end Loop

/-! ## Registration -/

/-- What a manifest has to meet in order to be registered. -/
structure Registrable (r : ModuleRegistry) (m : Manifest) : Prop where
  named : m.name ≠ ""
  fresh : r.get? m.name = none
  acyclic : Acyclic (Requires (r.insert m))

theorem detectCycle_eq_none_iff (ranging : Ranging Manifest) (r : ModuleRegistry) :
    r.detectCycle ranging = none ↔ Acyclic r.Requires := by
  have registered : r.CountsRegistered (fun dep => (r.get? dep.module).isSome) :=
    fun _ _ _ _ => Iff.rfl
  have finished := kahn_finished ranging registered
  have bound := (finished.nodup_done.subperm finished.subset).length_le
  rw [length_names] at bound
  rw [← kahn_perm_iff_acyclic ranging registered, ← finished.length_iff_perm, length_names]
  unfold detectCycle
  simp only
  split <;> simp <;> omega

theorem register_of_registrable (ranging : Ranging Manifest) {r : ModuleRegistry} {m : Manifest}
    (can : r.Registrable m) : r.register ranging m = (r.insert m, none) := by
  have clear := (detectCycle_eq_none_iff ranging (r.insert m)).mpr can.acyclic
  simp [register, can.named, can.fresh, clear]

/-- A registration that fails leaves the registry as it was. -/
theorem register_of_not_registrable (ranging : Ranging Manifest) {r : ModuleRegistry}
    {m : Manifest} (cannot : ¬ r.Registrable m) :
    ∃ err, r.register ranging m = (r, some err) := by
  unfold register
  by_cases unnamed : m.name = ""
  · simp [unnamed]
  · cases taken : r.get? m.name with
    | some other => simp [unnamed]
    | none =>
      have cyclic : detectCycle ranging (r.insert m) ≠ none := by
        rw [Ne, detectCycle_eq_none_iff]
        exact fun acyclic => cannot ⟨unnamed, taken, acyclic⟩
      obtain ⟨err, found⟩ := Option.ne_none_iff_exists'.mp cyclic
      have undone : (r.insert m).remove m.name = r := Table.remove_insert taken
      simp [unnamed, found, undone]

/-- A registration succeeds exactly on what may be registered, and then adds the manifest. -/
theorem register_eq_none_iff (ranging : Ranging Manifest) {r : ModuleRegistry} {m : Manifest} :
    (r.register ranging m).2 = none ↔ r.Registrable m := by
  by_cases can : r.Registrable m
  · simp [register_of_registrable ranging can, can]
  · obtain ⟨err, failed⟩ := register_of_not_registrable ranging can
    simp [failed, can]

theorem rows_register (ranging : Ranging Manifest) {r : ModuleRegistry} {m : Manifest}
    (succeeds : (r.register ranging m).2 = none) :
    (r.register ranging m).1.rows = r.rows ++ [m] := by
  have can := (register_eq_none_iff ranging).mp succeeds
  rw [register_of_registrable ranging can, Table.rows_insert can.fresh]

/-! ## Runs of registrations -/

/-- The rows are the manifests accepted so far. -/
theorem rows_foldl_register (calls : List (Ranging Manifest × Manifest)) (r : ModuleRegistry) :
    (calls.foldl (fun r call => (register call.1 r call.2).1) r).rows =
      r.rows ++ accepted r calls := by
  induction calls generalizing r with
  | nil => simp [accepted]
  | cons call rest ih =>
    rw [List.foldl_cons, ih]
    by_cases succeeds : (r.register call.1 call.2).2 = none
    · simp [accepted, succeeds, rows_register call.1 succeeds]
    · have refused := mt (register_eq_none_iff call.1).mpr succeeds
      obtain ⟨err, failed⟩ := register_of_not_registrable call.1 refused
      simp [accepted, failed]

/-- What holds of a registry after any calls of `Register`. -/
structure Sound (r : ModuleRegistry) : Prop where
  acyclic : Acyclic r.Requires
  named : ∀ m ∈ r.rows, m.name ≠ ""

theorem requires_new (a b : String) : ¬ new.Requires a b := by
  rintro ⟨m, found, -⟩
  have member := Table.mem_of_get? found
  simp [new] at member

theorem Sound.register {r : ModuleRegistry} (sound : r.Sound) (ranging : Ranging Manifest)
    (m : Manifest) : (r.register ranging m).1.Sound := by
  by_cases can : r.Registrable m
  · rw [register_of_registrable ranging can]
    refine ⟨can.acyclic, fun other member => ?_⟩
    rw [Table.rows_insert can.fresh] at member
    rcases List.mem_append.mp member with old | new
    · exact sound.named other old
    · rw [List.mem_singleton.mp new]
      exact can.named
  · obtain ⟨err, failed⟩ := register_of_not_registrable ranging can
    rw [failed]
    exact sound

theorem sound_registerAll (calls : List (Ranging Manifest × Manifest)) :
    (registerAll calls).Sound := by
  unfold registerAll
  induction calls using List.reverseRecOn with
  | nil => exact ⟨fun a back => (by
      obtain ⟨b, first, -⟩ := Relation.TransGen.head'_iff.mp back
      exact requires_new a b first), by simp [new]⟩
  | append_singleton calls call ih =>
    rw [List.foldl_append]
    exact ih.register call.1 call.2

theorem Requires.of_subset {r whole : ModuleRegistry} (sub : r.rows ⊆ whole.rows) {a b : String}
    (requires : r.Requires a b) : whole.Requires a b := by
  obtain ⟨m, found, dep, declared, named⟩ := requires
  obtain ⟨member, isName⟩ := Table.get?_eq_some_iff.mp found
  exact ⟨m, Table.get?_eq_some_iff.mpr ⟨sub member, isName⟩, dep, declared, named⟩

theorem rows_registerAll {whole : ModuleRegistry} (sound : whole.Sound)
    {calls : List (Ranging Manifest × Manifest)} (inside : ∀ call ∈ calls, call.2 ∈ whole.rows)
    (once : (calls.map (fun call => call.2.name)).Nodup) :
    (registerAll calls).rows = calls.map Prod.snd := by
  induction calls using List.reverseRecOn with
  | nil => rfl
  | append_singleton calls call ih =>
    rw [List.map_append, List.nodup_append'] at once
    have before := ih (fun other member => inside other (List.mem_append_left _ member)) once.1
    have member := inside call (by simp)
    have fresh : (registerAll calls).get? call.2.name = none := by
      rw [Table.get?_eq_none_iff, before]
      intro m taken same
      obtain ⟨other, earlier, rfl⟩ := List.mem_map.mp taken
      exact once.2.2 (List.mem_map.mpr ⟨other, earlier, same⟩) (by simp)
    have rows := Table.rows_insert fresh
    have can : (registerAll calls).Registrable call.2 := by
      refine ⟨sound.named _ member, fresh, sound.acyclic.mono fun a b => Requires.of_subset ?_⟩
      rw [rows, before]
      intro m listed
      rcases List.mem_append.mp listed with old | new
      · obtain ⟨other, earlier, rfl⟩ := List.mem_map.mp old
        exact inside other (List.mem_append_left _ earlier)
      · rw [List.mem_singleton.mp new]
        exact member
    have step : registerAll (calls ++ [call]) =
        ((registerAll calls).register call.1 call.2).1 := by
      simp [registerAll, List.foldl_append]
    rw [step, register_of_registrable _ can, rows, before, List.map_append, List.map_singleton]

/-! ## Resolution -/

section Resolve

variable {r : ModuleRegistry}

theorem checkDependency_eq_ok_iff {m : Manifest} {dep : Dependency} :
    r.checkDependency m dep = .ok ⟨⟩ ↔ ∃ installed, r.get? dep.module = some installed ∧
      dep.minimum.compatible installed.version = true := by
  unfold checkDependency
  cases r.get? dep.module with
  | none => simp
  | some installed =>
    by_cases fits : dep.minimum.compatible installed.version = true <;> simp [fits]

theorem checks_eq_ok_iff (ranging : Ranging Manifest) :
    (forM (ranging.order r.rows) fun m => forM m.dependsOn (r.checkDependency m)) = .ok ⟨⟩ ↔
      r.Satisfied := by
  simp only [forM_eq_ok_iff, checkDependency_eq_ok_iff, (ranging.perm _).mem_iff]
  exact Iff.rfl

/-- The manifests of the names of a registry, in the order of the names. -/
theorem filterMap_get? {names : List String} (perm : names.Perm (r.rows.map Manifest.name)) :
    (names.filterMap r.get?).Perm r.rows ∧ (names.filterMap r.get?).map Manifest.name = names := by
  constructor
  · refine (perm.filterMap r.get?).trans (.of_eq ?_)
    rw [List.filterMap_map]
    refine (List.filterMap_congr fun m member => ?_).trans List.filterMap_some
    exact Table.get?_key_of_mem member
  · have known : ∀ name ∈ names, ∃ m, r.get? name = some m := by
      intro name member
      obtain ⟨m, registered, rfl⟩ := List.mem_map.mp (perm.mem_iff.mp member)
      exact ⟨m, Table.get?_key_of_mem registered⟩
    clear perm
    induction names with
    | nil => rfl
    | cons name rest ih =>
      obtain ⟨m, found⟩ := known name (by simp)
      rw [List.filterMap_cons_some found, List.map_cons,
        ih (fun other member => known other (List.mem_cons_of_mem _ member))]
      exact congrArg (· :: rest) (Table.key_of_get? found)

theorem Satisfied.countsRegistered (satisfied : r.Satisfied) :
    r.CountsRegistered (fun _ => true) := by
  intro m member dep declared
  obtain ⟨installed, found, -⟩ := satisfied m member dep declared
  simp [found]

/-- The names in the order in which Kahn's loop takes them. -/
def loadOrder (ranging : Ranging Manifest) (r : ModuleRegistry) : List String :=
  (kahn ((ranging.order r.rows).map Manifest.name)
    (edges (ranging.order r.rows) fun _ => true)).done

theorem loadOrder_perm (ranging : Ranging Manifest) (acyclic : Acyclic r.Requires)
    (satisfied : r.Satisfied) : (r.loadOrder ranging).Perm (r.rows.map Manifest.name) :=
  ((kahn_perm_iff_acyclic ranging satisfied.countsRegistered).mpr acyclic).trans
    ((ranging.perm _).map _)

theorem resolve_of_satisfied (ranging : Ranging Manifest) (acyclic : Acyclic r.Requires)
    (satisfied : r.Satisfied) :
    r.resolve ranging = .ok ((r.loadOrder ranging).filterMap r.get?) := by
  have checks := (checks_eq_ok_iff ranging).mpr satisfied
  have complete := (filterMap_get? (loadOrder_perm ranging acyclic satisfied)).1.length_eq
  unfold resolve
  simp only [checks]
  exact if_neg (not_not.mpr complete)

theorem resolve_of_not_satisfied (ranging : Ranging Manifest) (unsatisfied : ¬ r.Satisfied) :
    ∃ err, r.resolve ranging = .error err := by
  unfold resolve
  cases checks : forM (ranging.order r.rows) fun m => forM m.dependsOn (r.checkDependency m) with
  | error err =>
    refine ⟨err, ?_⟩
    simp only [checks]
    rfl
  | ok done => exact absurd ((checks_eq_ok_iff ranging).mp checks) unsatisfied

theorem targetsFirst_loadOrder (ranging : Ranging Manifest) (satisfied : r.Satisfied) :
    TargetsFirst r.Requires (r.loadOrder ranging) := by
  have ordered := (kahn_finished ranging satisfied.countsRegistered).ordered
  rw [kahn_edge ranging satisfied.countsRegistered] at ordered
  rintro before a after split b requires
  obtain ⟨m, found, dep, declared, rfl⟩ := requires
  obtain ⟨installed, registered, -⟩ := satisfied m (Table.mem_of_get? found) dep declared
  exact ordered before a after split dep.module
    ⟨⟨m, found, dep, declared, rfl⟩, Option.isSome_of_eq_some registered⟩

theorem resolve_eq_ok_iff (ranging : Ranging Manifest) (acyclic : Acyclic r.Requires)
    {result : List Manifest} : r.resolve ranging = .ok result ↔
      r.Satisfied ∧ (r.loadOrder ranging).filterMap r.get? = result := by
  by_cases satisfied : r.Satisfied
  · simp [resolve_of_satisfied ranging acyclic satisfied, satisfied]
  · obtain ⟨err, failed⟩ := resolve_of_not_satisfied ranging satisfied
    simp [failed, satisfied]

theorem Satisfied.of_perm {other : ModuleRegistry} (perm : r.rows.Perm other.rows)
    (satisfied : r.Satisfied) : other.Satisfied := by
  intro m member dep declared
  rw [← Table.get?_congr perm]
  exact satisfied m (perm.mem_iff.mpr member) dep declared

theorem loadOrder_congr (ranging ranging' : Ranging Manifest) {other : ModuleRegistry}
    (perm : r.rows.Perm other.rows) : r.loadOrder ranging = other.loadOrder ranging' := by
  have manifests : (ranging.order r.rows).Perm (ranging'.order other.rows) :=
    (ranging.perm _).trans (perm.trans (ranging'.perm _).symm)
  have names := manifests.map Manifest.name
  have found : (edges (ranging.order r.rows) fun _ => true).Perm
      (edges (ranging'.order other.rows) fun _ => true) := manifests.flatMap_right _
  have degrees : ∀ name, (edges (ranging.order r.rows) fun _ => true).countP (fun e => e.2 = name) =
      (edges (ranging'.order other.rows) fun _ => true).countP (fun e => e.2 = name) :=
    fun name => found.countP_eq _
  have queue : ∀ queue ready ready' : List String, ready.Perm ready' →
      enqueue queue ready = enqueue queue ready' :=
    fun queue _ _ same => congrArg (queue ++ ·) (sortStrings_congr same)
  unfold loadOrder kahn
  simp only [degrees, names.length_eq]
  rw [sortStrings_congr (names.filter _),
    Kahn.loop_congr (Kahn.targets_perm found) queue]

end Resolve

end ModuleRegistry

open ModuleRegistry

/--
After every sequence of calls of `Register`, valid or not: the dependencies are
acyclic; the registered modules are those of the calls without error; a call that
fails changes nothing, and one succeeds, adding its manifest, exactly when the
manifest has a new name and closes no cycle; resolution succeeds exactly when
every dependency is registered in a compatible version; its result lists every
module once behind its dependencies, and is the same after every other sequence
of calls that registered the same modules.  The modules that calls register
without error can be registered in any order.
-/
theorem registerAll_sound (calls : List (Ranging Manifest × Manifest)) :
    Acyclic (registerAll calls).Requires ∧
    (registerAll calls).rows = accepted new calls ∧
    (∀ ranging m,
      (((registerAll calls).register ranging m).2 = none ↔ (registerAll calls).Registrable m) ∧
      (((registerAll calls).register ranging m).2 = none →
        ((registerAll calls).register ranging m).1.rows = (registerAll calls).rows ++ [m])) ∧
    (∀ ranging m err, ((registerAll calls).register ranging m).2 = some err →
      ((registerAll calls).register ranging m).1 = registerAll calls) ∧
    (∀ ranging, (∃ result, (registerAll calls).resolve ranging = .ok result) ↔
      (registerAll calls).Satisfied) ∧
    (∀ ranging result, (registerAll calls).resolve ranging = .ok result →
      result.Perm (registerAll calls).rows ∧
      TargetsFirst (registerAll calls).Requires (result.map Manifest.name) ∧
      ∀ others ranging', (registerAll others).rows.Perm (registerAll calls).rows →
        (registerAll others).resolve ranging' = .ok result) ∧
    ((registerAll calls).rows = calls.map Prod.snd → ∀ others : List (Ranging Manifest × Manifest),
      (others.map Prod.snd).Perm (calls.map Prod.snd) →
        (registerAll others).rows = others.map Prod.snd) := by
  have sound := sound_registerAll calls
  refine ⟨sound.acyclic, rows_foldl_register calls new,
    fun ranging m => ⟨register_eq_none_iff ranging, rows_register ranging⟩, ?_, ?_, ?_, ?_⟩
  · intro ranging m err failed
    by_cases can : (registerAll calls).Registrable m
    · simp [register_of_registrable ranging can] at failed
    · obtain ⟨err, unchanged⟩ := register_of_not_registrable ranging can
      rw [unchanged]
  · intro ranging
    simp [resolve_eq_ok_iff ranging sound.acyclic]
  · intro ranging result resolved
    obtain ⟨satisfied, rfl⟩ := (resolve_eq_ok_iff ranging sound.acyclic).mp resolved
    obtain ⟨perm, names⟩ := filterMap_get? (loadOrder_perm ranging sound.acyclic satisfied)
    refine ⟨perm, ?_, fun others ranging' same => ?_⟩
    · rw [names]
      exact targetsFirst_loadOrder ranging satisfied
    rw [resolve_eq_ok_iff ranging' (sound_registerAll others).acyclic,
      loadOrder_congr ranging' ranging same]
    refine ⟨satisfied.of_perm same.symm, List.filterMap_congr fun name _ => ?_⟩
    exact Table.get?_congr same name
  · intro all others perm
    refine rows_registerAll sound (fun call member => ?_) ?_
    · rw [all]
      exact perm.mem_iff.mp (List.mem_map.mpr ⟨call, member, rfl⟩)
    · have distinct := (registerAll calls).nodup
      rw [all] at distinct
      have same := (perm.map Manifest.name).nodup_iff.mpr distinct
      rwa [List.map_map] at same

end ErpFinance.Module
