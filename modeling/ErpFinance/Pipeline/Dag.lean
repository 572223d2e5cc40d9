import ErpFinance.Library.Graph
import ErpFinance.Library.Text
import ErpFinance.Pipeline.Builder

/-!
# The stage graph

`ValidateDAG` of a registry: missing and self dependencies first, then a
coloured depth-first search along `DependsOn`.  A search that reports nothing
leaves only black nodes, and a black node's targets are black before it is.
-/

namespace ErpFinance.Pipeline

open Library

/-! ## Validation -/

structure DAGError where
  violations : List String

/-- `forOperationLocked`. -/
def forOperation {registry : StageRegistry} (listing : Listing registry) (operationKey : String) :
    List Stage :=
  listing.val.filter (fun s => matchesOperation s.operations operationKey)

def index (stages : List Stage) (name : String) : Option Stage :=
  stages.find? (fun s => s.name = name)

def dependencyViolations (idx : String → Option Stage) (operationKey : String) (s : Stage) :
    List String :=
  s.dependsOn.filterMap fun dep =>
    if dep = s.name then some ("stage \"" ++ s.name ++ "\" lists itself in DependsOn")
    else if (idx dep).isNone then
      some ("stage \"" ++ s.name ++ "\" depends on \"" ++ dep ++
        "\" which is not registered for operation \"" ++ operationKey ++ "\"")
    else none

inductive Color where
  | white
  | grey
  | black
deriving DecidableEq

/-- The variables the depth-first search shares between its calls. -/
structure Search where
  color : String → Color := fun _ => .white
  path : List String := []
  violations : List String := []

/-- The dependencies in turn, up to one that closes a cycle. -/
def exploreDeps (dfs : String → Search → Bool × Search) : List String → Search → Search
  | [], st => st
  | dep :: rest, st =>
    match dfs dep st with
    | (true, found) => found
    | (false, explored) => exploreDeps dfs rest explored

/-- `dfs`; the path holds registered stages only, each once, which bounds its depth. -/
def dfs (idx : String → Option Stage) : Nat → String → Search → Bool × Search
  | 0, _, st => (false, st)
  | fuel + 1, name, st =>
    match st.color name with
    | .black => (false, st)
    | .grey =>
      let start := (st.path.findIdx? (· = name)).getD 0
      let cycle := st.path.drop start ++ [name]
      (true,
        { st with
          violations := st.violations ++ ["cycle detected: " ++ " → ".intercalate cycle] })
    | .white =>
      let entered : Search :=
        { st with color := Function.update st.color name .grey, path := st.path ++ [name] }
      let explored := match idx name with
        | some s => exploreDeps (dfs idx fuel) (sortStrings s.dependsOn) entered
        | none => entered
      (false,
        { explored with
          color := Function.update explored.color name .black
          path := explored.path.dropLast })

/-- A search from every stage that no earlier one has reached. -/
def searchFrom (idx : String → Option Stage) (fuel : Nat) (st : Search) (name : String) : Search :=
  if st.color name = .white then (dfs idx fuel name st).2 else st

def validateDAG {registry : StageRegistry} (listing : Listing registry) (operationKey : String) :
    Option DAGError :=
  let stages := forOperation listing operationKey
  if stages.isEmpty then none
  else
    let idx := index stages
    let missing := stages.flatMap (dependencyViolations idx operationKey)
    let names := sortStrings (stages.map Stage.name)
    let searched := names.foldl (searchFrom idx (stages.length + 1)) { violations := missing }
    if searched.violations.isEmpty then none else some ⟨searched.violations⟩

/-! ## The dependency relation -/

def RegisteredFor (registry : StageRegistry) (operationKey name : String) (s : Stage) : Prop :=
  registry.get? name = some s ∧ matchesOperation s.operations operationKey = true

def DependsOn (registry : StageRegistry) (operationKey a b : String) : Prop :=
  ∃ s, RegisteredFor registry operationKey a s ∧ b ∈ s.dependsOn

/-- What `ValidateDAG` is documented to check. -/
structure ValidDAG (registry : StageRegistry) (operationKey : String) : Prop where
  registered : ∀ a b, DependsOn registry operationKey a b →
    ∃ s, RegisteredFor registry operationKey b s
  irreflexive : ∀ a, ¬ DependsOn registry operationKey a a
  acyclic : Acyclic (DependsOn registry operationKey)

section Index

variable {registry : StageRegistry} (listing : Listing registry) (operationKey : String)

theorem mem_forOperation {s : Stage} :
    s ∈ forOperation listing operationKey ↔
      s ∈ registry.rows ∧ matchesOperation s.operations operationKey = true := by
  rw [forOperation, List.mem_filter, listing.property.mem_iff]

theorem index_forOperation {name : String} {s : Stage} :
    index (forOperation listing operationKey) name = some s ↔
      RegisteredFor registry operationKey name s := by
  unfold index RegisteredFor
  rw [Table.get?_eq_some_iff]
  constructor
  · intro found
    obtain ⟨member, serves⟩ :=
      (mem_forOperation listing operationKey).mp (List.mem_of_find?_eq_some found)
    exact ⟨⟨member, by simpa using List.find?_some found⟩, serves⟩
  · rintro ⟨⟨member, named⟩, serves⟩
    have listed := (mem_forOperation listing operationKey).mpr ⟨member, serves⟩
    cases found : (forOperation listing operationKey).find? (fun s => s.name = name) with
    | none =>
      have absent := List.find?_eq_none.mp found s listed
      exact absurd named (by simpa using absent)
    | some other =>
      have otherMember := ((mem_forOperation listing operationKey).mp
        (List.mem_of_find?_eq_some found)).1
      have otherName : other.name = name := by simpa using List.find?_some found
      rw [Table.eq_of_key_eq otherMember member (otherName.trans named.symm)]

end Index

section Search

variable {idx : String → Option Stage}

/-- The edges the search follows. -/
def Follows (idx : String → Option Stage) (a b : String) : Prop :=
  ∃ s, idx a = some s ∧ b ∈ s.dependsOn

/-- What holds between two calls of the search, as long as nothing is reported. -/
structure SearchInv (idx : String → Option Stage) (st : Search) : Prop where
  grey : ∀ name, st.color name = .grey ↔ name ∈ st.path
  nodup : st.path.Nodup
  closed : st.violations = [] → ∀ a, st.color a = .black → ∀ b, Follows idx a b →
    st.color b = .black
  offCycle : st.violations = [] → ∀ a, st.color a = .black →
    ¬ Relation.TransGen (Follows idx) a a

/-- What a call does to the shared variables. -/
structure Explores (idx : String → Option Stage) (st after : Search) : Prop where
  path : after.path = st.path
  quiet : after.violations = [] → st.violations = []
  black : after.violations = [] → ∀ name, st.color name = .black → after.color name = .black
  sound : Acyclic (Follows idx) → after.violations = st.violations

theorem Explores.refl (st : Search) : Explores idx st st :=
  ⟨rfl, id, fun _ _ => id, fun _ => rfl⟩

theorem Explores.trans {st middle after : Search} (first : Explores idx st middle)
    (second : Explores idx middle after) : Explores idx st after where
  path := second.path.trans first.path
  quiet := fun none => first.quiet (second.quiet none)
  black := fun none name old => second.black none name (first.black (second.quiet none) name old)
  sound := fun acyclic => (second.sound acyclic).trans (first.sound acyclic)

variable {path : List String}

/-- A node on the path leads to another one, so it is registered. -/
theorem exists_follows_of_isChain {name a : String}
    (chain : List.IsChain (Follows idx) (path ++ [name])) (member : a ∈ path) :
    ∃ b, Follows idx a b := by
  obtain ⟨before, after, rfl⟩ := List.append_of_mem member
  rw [List.append_assoc, List.cons_append] at chain
  have rest := chain.right_of_append
  cases after with
  | nil => exact ⟨name, (List.isChain_cons_cons.mp rest).1⟩
  | cons b more => exact ⟨b, (List.isChain_cons_cons.mp rest).1⟩

/-- What a call of the search guarantees, for the dependencies it may be called on. -/
def Visits (idx : String → Option Stage) (visit : String → Search → Bool × Search)
    (path : List String) : Prop :=
  ∀ name st, SearchInv idx st → st.path = path →
    List.IsChain (Follows idx) (path ++ [name]) →
    SearchInv idx (visit name st).2 ∧ Explores idx st (visit name st).2 ∧
      ((visit name st).2.violations = [] →
        (visit name st).1 = false ∧ (visit name st).2.color name = .black)

variable {st : Search}

theorem exploreDeps_spec {visit : String → Search → Bool × Search} (visits : Visits idx visit path)
    {deps : List String} (inv : SearchInv idx st) (at_path : st.path = path)
    (chains : ∀ dep ∈ deps, List.IsChain (Follows idx) (path ++ [dep])) :
    SearchInv idx (exploreDeps visit deps st) ∧ Explores idx st (exploreDeps visit deps st) ∧
      ((exploreDeps visit deps st).violations = [] →
        ∀ dep ∈ deps, (exploreDeps visit deps st).color dep = .black) := by
  induction deps generalizing st with
  | nil => exact ⟨inv, .refl st, by simp [exploreDeps]⟩
  | cons dep rest ih =>
    obtain ⟨visitInv, explores, finishes⟩ := visits dep st inv at_path (chains dep (by simp))
    unfold exploreDeps
    rcases called : visit dep st with ⟨found, after⟩
    rw [called] at visitInv explores finishes
    cases found with
    | true =>
      refine ⟨visitInv, explores, fun none => ?_⟩
      exact absurd (finishes none).1 (by simp)
    | false =>
      obtain ⟨restInv, restExplores, restBlack⟩ := ih visitInv
        (explores.path.trans at_path) (fun dep inRest => chains dep (by simp [inRest]))
      refine ⟨restInv, explores.trans restExplores, fun none other member => ?_⟩
      rcases List.mem_cons.mp member with rfl | inRest
      · exact restExplores.black none other (finishes (restExplores.quiet none)).2
      · exact restBlack none other inRest

theorem SearchInv.enter (inv : SearchInv idx st) {name : String} (white : st.color name = .white) :
    SearchInv idx
      { st with color := Function.update st.color name .grey, path := st.path ++ [name] } where
  grey := by
    intro other
    by_cases same : other = name
    · simp [same]
    · simpa [Function.update_of_ne same, same] using inv.grey other
  nodup := by
    have fresh : name ∉ st.path := fun member => by
      simp [(inv.grey name).mpr member] at white
    exact List.nodup_append'.mpr ⟨inv.nodup, List.nodup_singleton name, by simpa using fresh⟩
  closed := by
    intro none a black b follows
    have notName : ∀ other, st.color other = .black → other ≠ name := by
      rintro other blackOther rfl
      simp [white] at blackOther
    by_cases same : a = name
    · simp [same] at black
    · simp only [Function.update_of_ne same] at black
      have target := inv.closed none a black b follows
      simpa [Function.update_of_ne (notName b target)] using target
  offCycle := by
    intro none a black
    by_cases same : a = name
    · simp [same] at black
    · simp only [Function.update_of_ne same] at black
      exact inv.offCycle none a black

/-- Leaving a node whose targets are all black. -/
theorem SearchInv.leave (inv : SearchInv idx st) {name : String}
    (at_path : st.path = path ++ [name])
    (targets : st.violations = [] → ∀ b, Follows idx name b → st.color b = .black) :
    SearchInv idx { st with color := Function.update st.color name .black, path := path } where
  grey := by
    intro other
    have nodup := inv.nodup
    rw [at_path] at nodup
    have fresh : name ∉ path := fun member => (List.nodup_append'.mp nodup).2.2 member (by simp)
    by_cases same : other = name
    · simp [same, fresh]
    · simpa [Function.update_of_ne same, at_path, same] using inv.grey other
  nodup := by
    have nodup := inv.nodup
    rw [at_path] at nodup
    exact (List.nodup_append'.mp nodup).1
  closed := by
    intro none a black b follows
    have target : st.color b = .black := by
      by_cases same : a = name
      · exact targets none b (same ▸ follows)
      · simp only [Function.update_of_ne same] at black
        exact inv.closed none a black b follows
    by_cases same : b = name
    · simp [same]
    · simpa [Function.update_of_ne same] using target
  offCycle := by
    intro none a black
    by_cases same : a = name
    · subst same
      -- the node itself is still grey
      have grey := (inv.grey a).mpr (by simp [at_path])
      exact not_transGen_self (inv.closed none) (targets none) (by simp [grey])
    · simp only [Function.update_of_ne same] at black
      exact inv.offCycle none a black

variable {nodes : List String}

/-- With fuel for every registered stage that is not on the path, a call meets its contract. -/
theorem visits_dfs (covers : ∀ a b, Follows idx a b → a ∈ nodes) (fuel : Nat)
    (path : List String) (enough : nodes.length < fuel + path.length) :
    Visits idx (dfs idx fuel) path := by
  induction fuel generalizing path with
  | zero =>
    rintro name st inv rfl chain
    have registered : st.path ⊆ nodes := fun a member =>
      let ⟨b, follows⟩ := exists_follows_of_isChain chain member
      covers a b follows
    have bound := (inv.nodup.subperm registered).length_le
    omega
  | succ fuel ih =>
    rintro name st inv rfl chain
    unfold dfs
    split
    case h_1 black => exact ⟨inv, .refl st, fun _ => ⟨rfl, black⟩⟩
    case h_2 grey =>
      have cyclic : ¬ Acyclic (Follows idx) := by
        obtain ⟨before, after, split⟩ := List.append_of_mem ((inv.grey name).mp grey)
        rw [split, List.append_assoc] at chain
        exact fun acyclic => acyclic name
          (transGen_of_isChain chain.right_of_append (by simp))
      refine ⟨⟨inv.grey, inv.nodup, ?_, ?_⟩, ⟨rfl, ?_, ?_, ?_⟩, ?_⟩
      · simp
      · simp
      · simp
      · simp
      · exact fun acyclic => absurd acyclic cyclic
      · simp
    case h_3 white =>
      have entered := inv.enter white
      cases found : idx name with
      | none =>
        have noTargets : ∀ b, ¬ Follows idx name b := by
          rintro b ⟨s, registered, -⟩
          simp [found] at registered
        refine ⟨?_, ⟨?_, ?_, ?_, ?_⟩, ?_⟩
        · simpa using entered.leave rfl (fun _ b follows => absurd follows (noTargets b))
        · simp
        · simp
        · intro none other black
          by_cases same : other = name
          · simp [same]
          · simpa [Function.update_of_ne same] using black
        · simp
        · simp
      | some s =>
        have deeper : nodes.length < fuel + (st.path ++ [name]).length := by
          simp; omega
        have follows : ∀ dep, dep ∈ sortStrings s.dependsOn ↔ Follows idx name dep := by
          intro dep
          simp [sortStrings, Follows, found]
        have chains : ∀ dep ∈ sortStrings s.dependsOn,
            List.IsChain (Follows idx) ((st.path ++ [name]) ++ [dep]) := by
          intro dep member
          refine List.isChain_append.mpr ⟨chain, .singleton dep, ?_⟩
          simpa using (follows dep).mp member
        obtain ⟨exploredInv, explores, black⟩ :=
          exploreDeps_spec (ih _ deeper) entered rfl chains
        have left := exploredInv.leave explores.path
          (fun none b step => black none b ((follows b).mpr step))
        simp only
        rw [explores.path, List.dropLast_concat]
        refine ⟨left, ⟨rfl, explores.quiet, ?_, explores.sound⟩, ?_⟩
        · intro none other old
          by_cases same : other = name
          · simp [same]
          · have kept := explores.black none other (by simpa [same] using old)
            simpa [Function.update_of_ne same] using kept
        · simp

theorem searchFrom_spec (covers : ∀ a b, Follows idx a b → a ∈ nodes) (inv : SearchInv idx st)
    (empty : st.path = []) (name : String) :
    SearchInv idx (searchFrom idx (nodes.length + 1) st name) ∧
      Explores idx st (searchFrom idx (nodes.length + 1) st name) ∧
      ((searchFrom idx (nodes.length + 1) st name).violations = [] →
        (searchFrom idx (nodes.length + 1) st name).color name = .black) := by
  unfold searchFrom
  split
  case isTrue white =>
    obtain ⟨after, explores, finishes⟩ :=
      visits_dfs covers (nodes.length + 1) [] (by simp) name st inv empty (.singleton name)
    exact ⟨after, explores, fun none => (finishes none).2⟩
  case isFalse reached =>
    refine ⟨inv, .refl st, fun _ => ?_⟩
    cases color : st.color name with
    | white => exact absurd color reached
    | grey => simpa [empty] using (inv.grey name).mp color
    | black => rfl

theorem searchAll_spec (covers : ∀ a b, Follows idx a b → a ∈ nodes) (inv : SearchInv idx st)
    (empty : st.path = []) (names : List String) :
    let searched := names.foldl (searchFrom idx (nodes.length + 1)) st
    SearchInv idx searched ∧ Explores idx st searched ∧
      (searched.violations = [] → ∀ name ∈ names, searched.color name = .black) := by
  induction names generalizing st with
  | nil => exact ⟨inv, .refl st, by simp⟩
  | cons name rest ih =>
    obtain ⟨firstInv, first, firstBlack⟩ := searchFrom_spec covers inv empty name
    obtain ⟨lastInv, later, black⟩ := ih firstInv (first.path.trans empty)
    refine ⟨lastInv, first.trans later, fun none other member => ?_⟩
    rcases List.mem_cons.mp member with rfl | inRest
    · exact later.black none other (firstBlack (later.quiet none))
    · exact black none other inRest

/-- The search reports nothing new exactly on an acyclic graph. -/
theorem searchAll_violations_eq_nil_iff (covers : ∀ a b, Follows idx a b → a ∈ nodes)
    (names : List String) (all : ∀ a ∈ nodes, a ∈ names) (reported : List String) :
    (names.foldl (searchFrom idx (nodes.length + 1)) { violations := reported }).violations = [] ↔
      reported = [] ∧ Acyclic (Follows idx) := by
  have start : SearchInv idx { violations := reported } :=
    ⟨by simp, List.nodup_nil, by simp, by simp⟩
  obtain ⟨inv, explores, black⟩ := searchAll_spec covers start rfl names
  constructor
  · intro none
    refine ⟨explores.quiet none, fun a back => ?_⟩
    obtain ⟨b, follows, -⟩ := Relation.TransGen.head'_iff.mp back
    exact inv.offCycle none a (black none a (all a (covers a b follows))) back
  · rintro ⟨rfl, acyclic⟩
    exact explores.sound acyclic

end Search

section Acceptance

variable {registry : StageRegistry} (listing : Listing registry) (operationKey : String)

theorem follows_index_forOperation :
    Follows (index (forOperation listing operationKey)) = DependsOn registry operationKey := by
  funext a b
  simp [Follows, DependsOn, index_forOperation]

/-- The first pass finds the dependencies that are missing or on the stage itself. -/
theorem dependencyViolations_eq_nil_iff {idx : String → Option Stage} {s : Stage} :
    dependencyViolations idx operationKey s = [] ↔
      ∀ dep ∈ s.dependsOn, dep ≠ s.name ∧ (idx dep).isSome := by
  unfold dependencyViolations
  rw [List.filterMap_eq_nil_iff]
  refine forall₂_congr fun dep _ => ?_
  by_cases own : dep = s.name
  · simp [own]
  · cases idx dep <;> simp [own]

theorem firstPass_eq_nil_iff :
    (forOperation listing operationKey).flatMap (dependencyViolations
        (index (forOperation listing operationKey)) operationKey) = [] ↔
      (∀ a b, DependsOn registry operationKey a b →
        ∃ s, RegisteredFor registry operationKey b s) ∧
      ∀ a, ¬ DependsOn registry operationKey a a := by
  simp only [List.flatMap_eq_nil_iff, dependencyViolations_eq_nil_iff, Option.isSome_iff_exists,
    index_forOperation, mem_forOperation]
  constructor
  · intro passes
    constructor
    · rintro a b ⟨s, ⟨found, serves⟩, depends⟩
      exact (passes s ⟨Table.mem_of_get? found, serves⟩ b depends).2
    · rintro a ⟨s, ⟨found, serves⟩, depends⟩
      exact (passes s ⟨Table.mem_of_get? found, serves⟩ a depends).1 (Table.key_of_get? found).symm
  · rintro ⟨registered, irreflexive⟩ s ⟨member, serves⟩ dep depends
    have entry : RegisteredFor registry operationKey s.name s :=
      ⟨Table.get?_key_of_mem member, serves⟩
    refine ⟨?_, registered s.name dep ⟨s, entry, depends⟩⟩
    rintro rfl
    exact irreflexive s.name ⟨s, entry, depends⟩

/-- `ValidateDAG` accepts a registry exactly when its dependencies are as documented. -/
theorem validateDAG_eq_none_iff :
    validateDAG listing operationKey = none ↔ ValidDAG registry operationKey := by
  have covers : ∀ a b, Follows (index (forOperation listing operationKey)) a b →
      a ∈ (forOperation listing operationKey).map Stage.name := by
    rintro a b ⟨s, found, -⟩
    have named : s.name = a := by simpa using List.find?_some found
    exact List.mem_map.mpr ⟨s, List.mem_of_find?_eq_some found, named⟩
  have searched := searchAll_violations_eq_nil_iff covers
    (sortStrings ((forOperation listing operationKey).map Stage.name))
    (by simp [sortStrings]) ((forOperation listing operationKey).flatMap (dependencyViolations
      (index (forOperation listing operationKey)) operationKey))
  rw [List.length_map, firstPass_eq_nil_iff, follows_index_forOperation] at searched
  have accepts : validateDAG listing operationKey = none ↔
      ((sortStrings ((forOperation listing operationKey).map Stage.name)).foldl
        (searchFrom (index (forOperation listing operationKey))
          ((forOperation listing operationKey).length + 1))
        { violations := (forOperation listing operationKey).flatMap (dependencyViolations
            (index (forOperation listing operationKey)) operationKey) }).violations = [] := by
    unfold validateDAG
    cases (forOperation listing operationKey) with
    | nil => simp [sortStrings]
    | cons s rest => simp [List.isEmpty_iff]
  rw [accepts, searched]
  exact ⟨fun ⟨⟨registered, irreflexive⟩, acyclic⟩ => ⟨registered, irreflexive, acyclic⟩,
    fun valid => ⟨⟨valid.registered, valid.irreflexive⟩, valid.acyclic⟩⟩

end Acceptance

end ErpFinance.Pipeline
