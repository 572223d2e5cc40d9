import ErpFinance.Migration.Sources
import Mathlib.Data.List.Perm.Subperm

/-!
# The assembled migrations

What the assembled file system holds of the registered files, and in which order
their versions come.  Steps are kept by number and sources by name, and versions
follow the priorities alone, so nothing is lost and dependencies come first
exactly when names and numbers are not repeated, no down file is empty and the
priorities follow the dependencies.
-/

namespace ErpFinance.Migration

open Library

/-! ## Matching files -/

/-- An SQL file of a source. -/
structure LocalFile where
  num : Int
  desc : String
  direction : Direction
  data : Bytes

namespace LocalFile

/-- The place of a file among the steps. -/
def key (f : LocalFile) : Int × Direction := (f.num, f.direction)

/-- A file without its description. -/
def content (f : LocalFile) : Int × Direction × Bytes := (f.num, f.direction, f.data)

def assemble (src : Source) (f : LocalFile) : MigrationFile where
  version := src.version f.num
  module := src.module
  name := f.desc
  direction := f.direction
  data := f.data

end LocalFile

def DirEntry.file (e : DirEntry) : Option LocalFile :=
  if e.isDir then none
  else (parseSQLFilename e.name).map fun parsed =>
    { num := parsed.1, desc := parsed.2.1, direction := parsed.2.2
      data := e.read.toOption.getD [] }

def Source.files (src : Source) : List LocalFile :=
  (src.fs.toOption.getD []).filterMap DirEntry.file

/-! ## Steps -/

def recordFile (byNum : List Step) (f : LocalFile) : List Step :=
  record byNum f.num f.desc f.direction f.data

theorem foldlM_addEntry {entries : List DirEntry} {byNum steps : List Step}
    (read : entries.foldlM addEntry byNum = .ok steps) :
    steps = (entries.filterMap DirEntry.file).foldl recordFile byNum := by
  induction entries generalizing byNum with
  | nil =>
    cases read
    rfl
  | cons e rest ih =>
    rw [List.foldlM_cons, bind_eq_ok_iff] at read
    obtain ⟨middle, first, others⟩ := read
    rw [ih others]
    unfold addEntry at first
    by_cases isDir : e.isDir = true
    · rw [if_pos isDir] at first
      cases first
      simp [DirEntry.file, isDir]
    · rw [if_neg isDir] at first
      cases parsed : parseSQLFilename e.name with
      | none =>
        rw [parsed] at first
        cases first
        simp [DirEntry.file, isDir, parsed]
      | some found =>
        obtain ⟨num, desc, direction⟩ := found
        simp only [parsed, bind_eq_ok_iff, mapError_eq_ok_iff] at first
        obtain ⟨data, isRead, made⟩ := first
        cases made
        simp [DirEntry.file, isDir, parsed, isRead, Except.toOption, recordFile]

def Step.get (s : Step) : Direction → Bytes
  | .up => s.up
  | .down => s.down

/-- What the last file of a place holds. -/
def lastData (files : List LocalFile) (num : Int) (direction : Direction) : Bytes :=
  ((files.filter (·.key = (num, direction))).getLast?.map LocalFile.data).getD []

structure MadeOf (files : List LocalFile) (steps : List Step) : Prop where
  nodup : (steps.map Step.localNum).Nodup
  nums : ∀ num, num ∈ steps.map Step.localNum ↔ num ∈ files.map LocalFile.num
  data : ∀ s ∈ steps, ∀ direction, s.get direction = lastData files s.localNum direction

theorem lastData_append_self (files : List LocalFile) (f : LocalFile) :
    lastData (files ++ [f]) f.num f.direction = f.data := by
  simp [lastData, LocalFile.key]

variable {direction : Direction} {f : LocalFile} {num : Int}

theorem lastData_append_of_ne (files : List LocalFile) (other : f.key ≠ (num, direction)) :
    lastData (files ++ [f]) num direction = lastData files num direction := by
  simp [lastData, List.filter_append, other]

theorem lastData_eq_nil {files : List LocalFile} (absent : num ∉ files.map LocalFile.num) :
    lastData files num direction = [] := by
  have empty : files.filter (·.key = (num, direction)) = [] := by
    refine List.filter_eq_nil_iff.mpr fun f member same => absent ?_
    have num := congrArg Prod.fst (of_decide_eq_true same)
    exact List.mem_map.mpr ⟨f, member, num⟩
  rw [lastData, empty]
  rfl

@[simp] theorem Step.localNum_set (s : Step) (direction : Direction) (data : Bytes) :
    (s.set direction data).localNum = s.localNum := by
  cases direction <;> rfl

@[simp] theorem Step.get_set_self (s : Step) (direction : Direction) (data : Bytes) :
    (s.set direction data).get direction = data := by
  cases direction <;> rfl

theorem Step.get_set_of_ne (s : Step) {direction other : Direction} (data : Bytes)
    (different : other ≠ direction) : (s.set direction data).get other = s.get other := by
  cases direction <;> cases other <;> first | rfl | exact absurd rfl different

theorem MadeOf.record {files : List LocalFile} {steps : List Step} (made : MadeOf files steps)
    (f : LocalFile) : MadeOf (files ++ [f]) (recordFile steps f) := by
  unfold recordFile Migration.record
  by_cases known : f.num ∈ steps.map Step.localNum
  · rw [if_pos known]
    have nums : (steps.map fun s => if s.localNum = f.num then s.set f.direction f.data else s).map
        Step.localNum = steps.map Step.localNum := by
      rw [List.map_map]
      refine List.map_congr_left fun s _ => ?_
      simp only [Function.comp]
      split <;> simp
    refine ⟨nums ▸ made.nodup, fun num => ?_, fun s member direction => ?_⟩
    · rw [nums, made.nums, List.map_append, List.mem_append, List.map_singleton,
        List.mem_singleton]
      refine ⟨Or.inl, ?_⟩
      rintro (old | rfl)
      · exact old
      · exact (made.nums _).mp known
    · obtain ⟨old, oldMember, rfl⟩ := List.mem_map.mp member
      have oldData := made.data old oldMember direction
      by_cases own : old.localNum = f.num
      · rw [if_pos own, Step.localNum_set]
        by_cases same : direction = f.direction
        · rw [same, Step.get_set_self, own, lastData_append_self]
        · rw [Step.get_set_of_ne _ _ same, oldData, lastData_append_of_ne]
          exact fun keys => same (congrArg Prod.snd keys).symm
      · rw [if_neg own, oldData, lastData_append_of_ne]
        exact fun keys => own (congrArg Prod.fst keys).symm
  · rw [if_neg known]
    have absent : f.num ∉ files.map LocalFile.num := fun member => known ((made.nums _).mpr member)
    refine ⟨?_, fun num => ?_, fun s member direction => ?_⟩
    · rw [List.map_append, List.map_singleton, Step.localNum_set]
      refine List.nodup_append.mpr ⟨made.nodup, List.nodup_singleton _, ?_⟩
      rintro _ old _ new rfl
      rw [List.mem_singleton.mp new] at old
      exact known old
    · simp only [List.map_append, List.mem_append, made.nums, List.map_singleton,
        Step.localNum_set]
    · rcases List.mem_append.mp member with old | new
      · rw [made.data s old, lastData_append_of_ne]
        intro keys
        have num : f.num = s.localNum := congrArg Prod.fst keys
        exact known (num ▸ List.mem_map_of_mem old)
      · rw [List.mem_singleton.mp new, Step.localNum_set]
        by_cases same : direction = f.direction
        · rw [same, Step.get_set_self, lastData_append_self]
        · rw [Step.get_set_of_ne _ _ same, lastData_append_of_ne]
          · rw [lastData_eq_nil absent]
            cases direction <;> rfl
          · exact fun keys => same (congrArg Prod.snd keys).symm

theorem MadeOf.foldl {files : List LocalFile} {steps : List Step} (made : MadeOf files steps)
    (more : List LocalFile) : MadeOf (files ++ more) (more.foldl recordFile steps) := by
  induction more generalizing files steps with
  | nil =>
    rw [List.append_nil]
    exact made
  | cons f rest ih =>
    have next := ih (made.record f)
    rwa [List.append_assoc] at next

theorem MadeOf.perm {files : List LocalFile} {steps sorted : List Step} (made : MadeOf files steps)
    (perm : sorted.Perm steps) : MadeOf files sorted where
  nodup := (perm.map Step.localNum).nodup_iff.mpr made.nodup
  nums num := ((perm.map Step.localNum).mem_iff).trans (made.nums num)
  data s member := made.data s (perm.subset member)

variable {src : Source}

theorem readSteps_spec {steps : List Step} (read : readSteps src = .ok steps) :
    MadeOf src.files steps ∧ ∀ s ∈ steps, s.up ≠ [] := by
  unfold readSteps at read
  simp only [bind_eq_ok_iff, mapError_eq_ok_iff] at read
  obtain ⟨entries, listed, byNum, folded, ⟨⟩, checked, made⟩ := read
  cases made
  have perm := List.perm_insertionSort (fun s t : Step => s.localNum ≤ t.localNum) byNum
  have files : src.files = entries.filterMap DirEntry.file := by
    rw [Source.files, listed]
    rfl
  have nothing : MadeOf [] [] :=
    ⟨List.nodup_nil, fun _ => Iff.rfl, fun _ member => absurd member List.not_mem_nil⟩
  refine ⟨MadeOf.perm ?_ perm, fun s member => ?_⟩
  · rw [foldlM_addEntry folded, files]
    exact nothing.foldl _
  · have check := forM_eq_ok_iff.mp checked s (perm.subset member)
    unfold checkUp at check
    by_cases empty : s.up = []
    · rw [if_pos empty] at check
      cases check
    · exact empty

/-! ## Files that are kept -/

def Step.localFiles (s : Step) : List LocalFile :=
  { num := s.localNum, desc := s.name, direction := .up, data := s.up } ::
  if s.down = [] then []
  else [{ num := s.localNum, desc := s.name, direction := .down, data := s.down }]

theorem Step.files_eq (src : Source) (s : Step) :
    s.files src = s.localFiles.map (LocalFile.assemble src) := by
  unfold Step.files Step.localFiles
  split <;> rfl

theorem Step.mem_localFiles {s : Step} :
    f ∈ s.localFiles ↔ (f.direction = .down → f.data ≠ []) ∧ f.num = s.localNum ∧
      f.desc = s.name ∧ f.data = s.get f.direction := by
  obtain ⟨num, desc, direction, data⟩ := f
  unfold Step.localFiles
  cases direction with
  | up => by_cases empty : s.down = [] <;> simp [empty, Step.get]
  | down =>
    by_cases empty : s.down = []
    · simp only [empty, Step.get, if_true, List.mem_cons, LocalFile.mk.injEq, reduceCtorEq,
        false_and, and_false, List.not_mem_nil, or_false, forall_const, false_iff, not_and]
      exact fun holds _ _ => holds
    · simp only [if_neg empty, List.mem_cons, LocalFile.mk.injEq, reduceCtorEq, false_and,
        and_false, List.not_mem_nil, or_false, false_or, true_and, Step.get, forall_const]
      constructor
      · rintro ⟨rfl, rfl, rfl⟩
        exact ⟨empty, rfl, rfl, rfl⟩
      · rintro ⟨-, num, desc, data⟩
        exact ⟨num, desc, data⟩

theorem Step.nodup_keys (s : Step) : (s.localFiles.map LocalFile.key).Nodup := by
  unfold Step.localFiles
  split <;> simp [LocalFile.key]

section Kept

variable {files : List LocalFile} {steps : List Step}

theorem nodup_kept (made : MadeOf files steps) :
    ((steps.flatMap Step.localFiles).map LocalFile.key).Nodup := by
  rw [List.map_flatMap, List.nodup_flatMap]
  refine ⟨fun s _ => s.nodup_keys, ?_⟩
  refine (List.pairwise_map.mp made.nodup).imp fun {s t} different => ?_
  rintro key first second
  obtain ⟨f, inFirst, rfl⟩ := List.mem_map.mp first
  obtain ⟨g, inSecond, same⟩ := List.mem_map.mp second
  have num : f.num = g.num := (congrArg Prod.fst same).symm
  refine different ?_
  rw [← (Step.mem_localFiles.mp inFirst).2.1, num, (Step.mem_localFiles.mp inSecond).2.1]

/-- A last file that holds something is there. -/
theorem exists_of_lastData {num : Int} {direction : Direction}
    (holds : lastData files num direction ≠ []) :
    ∃ f ∈ files, f.content = (num, direction, lastData files num direction) := by
  unfold lastData at holds ⊢
  cases last : (files.filter (·.key = (num, direction))).getLast? with
  | none =>
    rw [last] at holds
    exact absurd rfl holds
  | some f =>
    obtain ⟨member, same⟩ := List.mem_filter.mp (List.mem_of_getLast? last)
    have key : f.key = (num, direction) := of_decide_eq_true same
    obtain ⟨rfl, rfl⟩ := Prod.mk.inj key
    exact ⟨f, member, rfl⟩

/-- Where places are not repeated, the last file of a place is the one there. -/
theorem lastData_eq (distinct : (files.map LocalFile.key).Nodup) {f : LocalFile}
    (member : f ∈ files) : lastData files f.num f.direction = f.data := by
  have own : f ∈ files.filter (·.key = (f.num, f.direction)) :=
    List.mem_filter.mpr ⟨member, decide_eq_true rfl⟩
  unfold lastData
  cases last : (files.filter (·.key = (f.num, f.direction))).getLast? with
  | none =>
    rw [List.getLast?_eq_none_iff.mp last] at own
    cases own
  | some g =>
    obtain ⟨other, same⟩ := List.mem_filter.mp (List.mem_of_getLast? last)
    rw [List.inj_on_of_nodup_map distinct other member (of_decide_eq_true same)]
    rfl

theorem kept_subset (made : MadeOf files steps) (ups : ∀ s ∈ steps, s.up ≠ []) :
    (steps.flatMap Step.localFiles).map LocalFile.content ⊆ files.map LocalFile.content := by
  intro content member
  obtain ⟨f, kept, rfl⟩ := List.mem_map.mp member
  obtain ⟨s, inSteps, own⟩ := List.mem_flatMap.mp kept
  obtain ⟨down, num, -, data⟩ := Step.mem_localFiles.mp own
  have holds : f.data ≠ [] := by
    cases way : f.direction with
    | up =>
      rw [data, way]
      exact ups s inSteps
    | down => exact down way
  have last : f.data = lastData files f.num f.direction := by
    rw [data, made.data s inSteps, num]
  obtain ⟨g, inFiles, same⟩ := exists_of_lastData (last ▸ holds)
  refine List.mem_map.mpr ⟨g, inFiles, ?_⟩
  rw [same, ← last]
  rfl

/-- The kept files are all files exactly when no place is repeated and no down file is empty. -/
theorem perm_kept_iff (made : MadeOf files steps) (ups : ∀ s ∈ steps, s.up ≠ []) :
    ((steps.flatMap Step.localFiles).map LocalFile.content).Perm
        (files.map LocalFile.content) ↔
      (files.map LocalFile.key).Nodup ∧
        ∀ f ∈ files, f.direction = .down → f.data ≠ [] := by
  have keyOf (f : LocalFile) : f.key = (f.content.1, f.content.2.1) := rfl
  constructor
  · intro perm
    constructor
    · have keys := perm.map fun c : Int × Direction × Bytes => (c.1, c.2.1)
      rw [List.map_map, List.map_map] at keys
      exact keys.nodup_iff.mp (nodup_kept made)
    · intro f member isDown
      obtain ⟨g, kept, same⟩ := List.mem_map.mp (perm.symm.subset (List.mem_map_of_mem member))
      obtain ⟨s, -, own⟩ := List.mem_flatMap.mp kept
      have direction : g.direction = f.direction := congrArg (fun c => c.2.1) same
      have data : g.data = f.data := congrArg (fun c => c.2.2) same
      rw [← data]
      exact (Step.mem_localFiles.mp own).1 (direction.trans isDown)
  · rintro ⟨distinct, downs⟩
    have nodupKept : ((steps.flatMap Step.localFiles).map LocalFile.content).Nodup := by
      refine List.Nodup.of_map (fun c : Int × Direction × Bytes => (c.1, c.2.1)) ?_
      rw [List.map_map]
      exact nodup_kept made
    have nodupFiles : (files.map LocalFile.content).Nodup := by
      refine List.Nodup.of_map (fun c : Int × Direction × Bytes => (c.1, c.2.1)) ?_
      rw [List.map_map]
      exact distinct
    refine (List.perm_ext_iff_of_nodup nodupKept nodupFiles).mpr fun c =>
      ⟨fun member => kept_subset made ups member, fun member => ?_⟩
    obtain ⟨f, inFiles, rfl⟩ := List.mem_map.mp member
    obtain ⟨s, inSteps, num⟩ := List.mem_map.mp
      ((made.nums f.num).mpr (List.mem_map_of_mem inFiles))
    refine List.mem_map.mpr ⟨{ f with desc := s.name }, List.mem_flatMap.mpr ⟨s, inSteps, ?_⟩, rfl⟩
    refine Step.mem_localFiles.mpr ⟨downs f inFiles, num.symm, rfl, ?_⟩
    rw [made.data s inSteps, num, lastData_eq distinct inFiles]

end Kept

/-! ## Sorted sources -/

section Sorting

variable {sources : List Source} {module : String} {modules : List String} {st after : Search}
  {rounds : Nat}

theorem module_of_byModule {s : Source} (found : byModule sources module = some s) :
    s.module = module := by
  simpa using List.find?_some found

theorem isSome_byModule : (byModule sources module).isSome = true ↔
    module ∈ sources.map Source.module := by
  simp [byModule, List.find?_isSome]

/-- What holds between two visits. -/
structure Inv (sources : List Source) (st : Search) : Prop where
  visited : ∀ module, module ∈ st.visited ↔ module ∈ st.result.map Source.module
  nodup : (st.result.map Source.module).Nodup
  sound : ∀ s ∈ st.result, byModule sources s.module = some s

/-- What a visit does to the shared variables. -/
structure Extends (st after : Search) : Prop where
  inStack : after.inStack = st.inStack
  visited : st.visited ⊆ after.visited
  fresh : ∀ module ∈ after.visited, module ∈ st.visited ∨ module ∉ st.inStack

theorem Extends.refl (st : Search) : Extends st st := ⟨rfl, List.Subset.refl _, fun _ => .inl⟩

theorem Extends.trans {middle : Search} (first : Extends st middle)
    (second : Extends middle after) : Extends st after where
  inStack := second.inStack.trans first.inStack
  visited := List.Subset.trans first.visited second.visited
  fresh module member := by
    rcases second.fresh module member with old | outside
    · exact first.fresh module old
    · exact .inr (first.inStack ▸ outside)

/-- What a visit of a registered module guarantees. -/
def Visits (sources : List Source) (visit : String → Search → Except String Search) : Prop :=
  ∀ module st after, module ∈ sources.map Source.module → Inv sources st →
    visit module st = .ok after → Inv sources after ∧ Extends st after ∧ module ∈ after.visited

theorem visitAll_spec {visit : String → Search → Except String Search}
    (visits : Visits sources visit) (registered : modules ⊆ sources.map Source.module)
    (inv : Inv sources st) (done : visitAll visit modules st = .ok after) :
    Inv sources after ∧ Extends st after ∧ modules ⊆ after.visited := by
  induction modules generalizing st with
  | nil =>
    cases done
    exact ⟨inv, .refl _, List.nil_subset _⟩
  | cons module rest ih =>
    rw [visitAll, bind_eq_ok_iff] at done
    obtain ⟨middle, first, others⟩ := done
    rw [List.cons_subset] at registered
    obtain ⟨midInv, extendsFirst, visited⟩ := visits module st middle registered.1 inv first
    obtain ⟨lastInv, extendsRest, restVisited⟩ := ih registered.2 midInv others
    exact ⟨lastInv, extendsFirst.trans extendsRest,
      List.cons_subset.mpr ⟨extendsRest.visited visited, restVisited⟩⟩

/-- Every dependency is registered. -/
def Closed (sources : List Source) : Prop :=
  ∀ s ∈ sources, s.dependsOn ⊆ sources.map Source.module

theorem visit_spec (closed : Closed sources) : Visits sources (visit sources rounds) := by
  induction rounds with
  | zero =>
    intro module st after registered inv done
    unfold visit at done
    split at done
    · next visited =>
        cases done
        exact ⟨inv, .refl _, visited⟩
    · split at done <;> cases done
  | succ rounds ih =>
    intro module st after registered inv done
    unfold visit at done
    split at done
    · next visited =>
        cases done
        exact ⟨inv, .refl _, visited⟩
    · split at done
      · cases done
      · next unvisited offStack =>
          obtain ⟨s, found⟩ := Option.isSome_iff_exists.mp (isSome_byModule.mpr registered)
          have named := module_of_byModule found
          have member : s ∈ sources := List.mem_reverse.mp (List.mem_of_find?_eq_some found)
          simp only [found, Option.getD_some, bind_eq_ok_iff] at done
          obtain ⟨middle, deps, made⟩ := done
          cases made
          have depsRegistered : sortStrings s.dependsOn ⊆ sources.map Source.module :=
            fun dep inDeps => closed s member (mem_sortStrings.mp inDeps)
          have entered : Inv sources { st with inStack := module :: st.inStack } :=
            ⟨inv.visited, inv.nodup, inv.sound⟩
          obtain ⟨midInv, extended, -⟩ := visitAll_spec ih depsRegistered entered deps
          have new : module ∉ middle.visited := fun inMiddle =>
            (extended.fresh module inMiddle).elim unvisited fun outside =>
              outside List.mem_cons_self
          refine ⟨⟨fun other => ?_, ?_, fun t inResult => ?_⟩, ⟨?_, ?_, ?_⟩, List.mem_cons_self⟩
          · rw [List.mem_cons, midInv.visited, List.map_append, List.mem_append,
              List.map_singleton, List.mem_singleton, named, or_comm]
          · rw [List.map_append, List.map_singleton, named]
            refine List.nodup_append.mpr ⟨midInv.nodup, List.nodup_singleton _, ?_⟩
            rintro _ old _ single rfl
            rw [List.mem_singleton.mp single] at old
            exact new ((midInv.visited module).mpr old)
          · rcases List.mem_append.mp inResult with old | single
            · exact midInv.sound t old
            · rw [List.mem_singleton.mp single, named, found]
          · rw [extended.inStack]
            exact List.erase_cons_head _ _
          · exact fun other old => List.mem_cons_of_mem _ (extended.visited old)
          · intro other inAfter
            rcases List.mem_cons.mp inAfter with rfl | old
            · exact .inr offStack
            · refine (extended.fresh other old).imp id fun outside onStack => ?_
              exact outside (List.mem_cons_of_mem _ onStack)

theorem visitAll_inStack {visit : String → Search → Except String Search}
    (keeps : ∀ module st after, visit module st = .ok after → after.inStack = st.inStack)
    (done : visitAll visit modules st = .ok after) : after.inStack = st.inStack := by
  induction modules generalizing st with
  | nil =>
    cases done
    rfl
  | cons module rest ih =>
    rw [visitAll, bind_eq_ok_iff] at done
    obtain ⟨middle, first, others⟩ := done
    exact (ih others).trans (keeps module st middle first)

theorem visit_inStack (module : String) (st after : Search)
    (done : visit sources rounds module st = .ok after) : after.inStack = st.inStack := by
  induction rounds generalizing module st after with
  | zero =>
    unfold visit at done
    split at done
    · cases done
      rfl
    · split at done <;> cases done
  | succ rounds ih =>
    unfold visit at done
    split at done
    · cases done
      rfl
    · split at done
      · cases done
      · rw [bind_eq_ok_iff] at done
        obtain ⟨middle, deps, made⟩ := done
        cases made
        show middle.inStack.erase module = st.inStack
        rw [visitAll_inStack ih deps]
        exact List.erase_cons_head _ _

theorem visitAll_congr {first second : String → Search → Except String Search}
    {stack : List String}
    (same : ∀ module ∈ modules, ∀ st, st.inStack = stack → first module st = second module st)
    (keeps : ∀ module st after, second module st = .ok after → after.inStack = st.inStack)
    (atStack : st.inStack = stack) :
    visitAll first modules st = visitAll second modules st := by
  induction modules generalizing st with
  | nil => rfl
  | cons module rest ih =>
    rw [List.forall_mem_cons] at same
    rw [visitAll, visitAll, same.1 st atStack]
    cases visited : second module st with
    | error err => rfl
    | ok middle => exact ih same.2 ((keeps module st middle visited).trans atStack)

/-- The rounds last: where there are as many as modules that are not on the stack, one more
changes nothing. -/
theorem visit_succ (closed : Closed sources) (registered : module ∈ sources.map Source.module)
    (distinct : st.inStack.Nodup) (onStack : st.inStack ⊆ sources.map Source.module)
    (enough : sources.length ≤ rounds + st.inStack.length) :
    visit sources (rounds + 1) module st = visit sources rounds module st := by
  induction rounds generalizing module st with
  | zero =>
    unfold visit
    split
    · rfl
    · split
      · rfl
      · next offStack =>
          have all : (module :: st.inStack).Subperm (sources.map Source.module) :=
            (List.nodup_cons.mpr ⟨offStack, distinct⟩).subperm
              (List.cons_subset.mpr ⟨registered, onStack⟩)
          have length := all.length_le
          rw [List.length_cons, List.length_map] at length
          omega
  | succ rounds ih =>
    unfold visit
    split
    · rfl
    · split
      · rfl
      · next offStack =>
          obtain ⟨s, found⟩ := Option.isSome_iff_exists.mp (isSome_byModule.mpr registered)
          have member : s ∈ sources := List.mem_reverse.mp (List.mem_of_find?_eq_some found)
          have deps : visitAll (visit sources (rounds + 1)) (sortStrings s.dependsOn)
                { st with inStack := module :: st.inStack } =
              visitAll (visit sources rounds) (sortStrings s.dependsOn)
                { st with inStack := module :: st.inStack } := visitAll_congr
            (fun dep inDeps other atStack => ih (closed s member (mem_sortStrings.mp inDeps))
              (atStack ▸ List.nodup_cons.mpr ⟨offStack, distinct⟩)
              (atStack ▸ List.cons_subset.mpr ⟨registered, onStack⟩)
              (by rw [atStack, List.length_cons]; omega)) visit_inStack rfl
          simp only [found, Option.getD_some, deps]

/-- Each registered name is sorted once, with the last source of the name. -/
theorem topoSort_spec {sorted : List Source} (done : topoSort sources = .ok sorted) :
    (sorted.map Source.module).Nodup ∧
      ∀ s, s ∈ sorted ↔ byModule sources s.module = some s := by
  unfold topoSort at done
  rw [bind_eq_ok_iff] at done
  obtain ⟨⟨⟩, checked, done⟩ := done
  rw [bind_eq_ok_iff] at done
  obtain ⟨st, visited, made⟩ := done
  cases made
  have closed : Closed sources := by
    intro s member dep inDeps
    have check := forM_eq_ok_iff.mp (forM_eq_ok_iff.mp checked s member) dep inDeps
    by_contra absent
    rw [if_neg (fun isSome => absent (isSome_byModule.mp isSome))] at check
    cases check
  have perm := List.perm_insertionSort (fun s t : Source => starts s t) sources
  have nothing : Inv sources {} :=
    ⟨fun _ => Iff.rfl, List.nodup_nil, fun _ member => nomatch member⟩
  obtain ⟨inv, -, all⟩ := visitAll_spec (visit_spec closed)
    ((perm.map Source.module).subset) nothing visited
  refine ⟨inv.nodup, fun s => ⟨inv.sound s, fun found => ?_⟩⟩
  have registered : s.module ∈ sources.map Source.module :=
    isSome_byModule.mp (Option.isSome_iff_exists.mpr ⟨s, found⟩)
  obtain ⟨t, inResult, same⟩ := List.mem_map.mp ((inv.visited s.module).mp
    (all ((perm.map Source.module).mem_iff.mpr registered)))
  have other := inv.sound t inResult
  rw [same, found] at other
  rwa [Option.some.inj other]

end Sorting

/-! ## Sources that count -/

/-- The sources that are registered again later under their name. -/
def superseded : List Source → List Source
  | [] => []
  | s :: rest =>
    if s.module ∈ rest.map Source.module then s :: superseded rest else superseded rest

/-- The last source of each name. -/
def current : List Source → List Source
  | [] => []
  | s :: rest => if s.module ∈ rest.map Source.module then current rest else s :: current rest

theorem current_append_superseded (sources : List Source) :
    (current sources ++ superseded sources).Perm sources := by
  induction sources with
  | nil => rfl
  | cons s rest ih =>
    unfold current superseded
    split
    · exact List.perm_middle.trans (ih.cons s)
    · exact ih.cons s

theorem byModule_cons (s : Source) (rest : List Source) (module : String) :
    byModule (s :: rest) module =
      (byModule rest module).or (if s.module = module then some s else none) := by
  rw [byModule, List.reverse_cons, List.find?_append, byModule]
  simp [List.find?_singleton]

theorem byModule_eq_none {sources : List Source} {module : String} :
    byModule sources module = none ↔ module ∉ sources.map Source.module := by
  rw [← isSome_byModule, Bool.not_eq_true, Option.isSome_eq_false_iff, Option.isNone_iff_eq_none]

theorem mem_current {sources : List Source} {s : Source} :
    s ∈ current sources ↔ byModule sources s.module = some s := by
  induction sources with
  | nil => simp [current, byModule]
  | cons t rest ih =>
    rw [byModule_cons]
    unfold current
    by_cases again : t.module ∈ rest.map Source.module
    · rw [if_pos again, ih]
      cases found : byModule rest s.module with
      | some other => rfl
      | none =>
        have different : t.module ≠ s.module := fun same =>
          byModule_eq_none.mp found (same ▸ again)
        simp [different]
    · rw [if_neg again, List.mem_cons, ih]
      cases found : byModule rest s.module with
      | some other =>
        have different : s ≠ t := by
          rintro rfl
          exact again (isSome_byModule.mp (Option.isSome_iff_exists.mpr ⟨other, found⟩))
        simp [different]
      | none =>
        by_cases same : t.module = s.module
        · simp [same, eq_comm]
        · have different : s ≠ t := fun equal => same (equal ▸ rfl)
          simp [same, different]

theorem nodup_current (sources : List Source) : ((current sources).map Source.module).Nodup := by
  induction sources with
  | nil => exact List.nodup_nil
  | cons s rest ih =>
    unfold current
    split
    · exact ih
    · next unique =>
        refine List.nodup_cons.mpr ⟨fun member => unique ?_, ih⟩
        obtain ⟨t, inCurrent, same⟩ := List.mem_map.mp member
        rw [← same]
        exact isSome_byModule.mp (Option.isSome_iff_exists.mpr ⟨t, mem_current.mp inCurrent⟩)

theorem topoSort_perm {sources sorted : List Source} (done : topoSort sources = .ok sorted) :
    sorted.Perm (current sources) := by
  obtain ⟨nodup, members⟩ := topoSort_spec done
  refine (List.perm_ext_iff_of_nodup nodup.of_map (nodup_current sources).of_map).mpr fun s => ?_
  rw [members, mem_current]

/-! ## Writing -/

theorem underscore_notMem_paddedInt (width : Nat) (n : Int) : '_' ∉ paddedInt width n := by
  intro member
  have notDigit : '_'.isDigit = false := by decide
  cases n with
  | ofNat n =>
    rw [isDigit_of_mem_paddedDigits member] at notDigit
    cases notDigit
  | negSucc n =>
    rcases List.mem_cons.mp member with same | digits
    · cases same
    · rw [isDigit_of_mem_paddedDigits digits] at notDigit
      cases notDigit

theorem version_of_fileName {f g : MigrationFile} (same : f.fileName = g.fileName) :
    f.version = g.version := by
  have chars := congrArg String.toList same
  simp only [MigrationFile.fileName, String.toList_append, String.toList_ofList,
    show "_".toList = ['_'] from rfl, List.append_assoc, List.singleton_append] at chars
  exact paddedInt_injective (eq_of_append_first (underscore_notMem_paddedInt 6 _)
    (underscore_notMem_paddedInt 6 _) chars).1

theorem nodup_fileNames (src : Source) (s : Step) :
    ((s.files src).map MigrationFile.fileName).Nodup := by
  unfold Step.files
  split
  · exact List.nodup_singleton _
  · refine List.nodup_cons.mpr ⟨fun member => ?_, List.nodup_singleton _⟩
    have same := congrArg String.toList (List.mem_singleton.mp member)
    simp only [MigrationFile.fileName, String.toList_append, List.append_assoc,
      List.append_cancel_left_eq] at same
    revert same
    decide

theorem version_of_mem_files {s : Step} {f : MigrationFile} (member : f ∈ s.files src) :
    f.version = src.version s.localNum := by
  rw [Step.files_eq] at member
  obtain ⟨file, own, rfl⟩ := List.mem_map.mp member
  rw [LocalFile.assemble, (Step.mem_localFiles.mp own).2.1]

theorem put_of_new {mem : MemFS} {f : MigrationFile}
    (new : f.fileName ∉ mem.map MigrationFile.fileName) : mem.put f = mem ++ [f] := by
  unfold MemFS.put
  rw [List.filter_eq_self.mpr fun g member => decide_eq_true ?_]
  intro same
  exact new (same ▸ List.mem_map_of_mem member)

theorem foldl_put {mem : MemFS} {files : List MigrationFile}
    (distinct : ((mem ++ files).map MigrationFile.fileName).Nodup) :
    files.foldl MemFS.put mem = mem ++ files := by
  induction files generalizing mem with
  | nil => rw [List.append_nil, List.foldl_nil]
  | cons f rest ih =>
    have new : f.fileName ∉ mem.map MigrationFile.fileName := by
      rw [List.map_append, List.map_cons] at distinct
      exact fun member => (List.nodup_append.mp distinct).2.2 _ member _ List.mem_cons_self rfl
    rw [List.foldl_cons, put_of_new new, ih, List.append_assoc, List.singleton_append]
    rwa [List.append_assoc, List.singleton_append]

/-- The versions in use are those of the files, whose names differ. -/
structure Written (st : List (Int × String) × MemFS) : Prop where
  versions : ∀ f ∈ st.2, f.version ∈ st.1.map Prod.fst
  names : (st.2.map MigrationFile.fileName).Nodup

theorem writeSteps_spec {steps : List Step} {st after : List (Int × String) × MemFS}
    (written : Written st) (done : writeSteps src steps st = .ok after) :
    Written after ∧ after.2 = st.2 ++ steps.flatMap (Step.files src) := by
  induction steps generalizing st with
  | nil =>
    cases done
    exact ⟨written, (List.append_nil _).symm⟩
  | cons s rest ih =>
    obtain ⟨usedVersions, mem⟩ := st
    unfold writeSteps at done
    split at done
    · cases done
    · next unused =>
        have fresh : src.version s.localNum ∉ usedVersions.map Prod.fst := by
          intro used
          obtain ⟨pair, inUse, same⟩ := List.mem_map.mp used
          have none := List.lookup_eq_none_iff.mp unused pair inUse
          simp [same] at none
        have distinct : ((mem ++ s.files src).map MigrationFile.fileName).Nodup := by
          rw [List.map_append]
          refine List.nodup_append.mpr ⟨written.names, nodup_fileNames src s, ?_⟩
          rintro _ old _ new rfl
          obtain ⟨f, inMem, rfl⟩ := List.mem_map.mp old
          obtain ⟨g, inFiles, same⟩ := List.mem_map.mp new
          refine fresh ?_
          rw [← version_of_mem_files inFiles, version_of_fileName same]
          exact written.versions f inMem
        rw [foldl_put distinct] at done
        have next : Written ((src.version s.localNum, src.module ++ ":" ++ s.name) ::
            usedVersions, mem ++ s.files src) := by
          refine ⟨fun f member => ?_, distinct⟩
          rcases List.mem_append.mp member with old | new
          · exact List.mem_cons_of_mem _ (written.versions f old)
          · rw [version_of_mem_files new]
            exact List.mem_cons_self
        obtain ⟨last, files⟩ := ih next done
        refine ⟨last, files.trans ?_⟩
        rw [List.flatMap_cons, List.append_assoc]

def Source.kept (src : Source) : List LocalFile :=
  ((readSteps src).toOption.getD []).flatMap Step.localFiles

theorem writeSources_spec {sources : List Source} {st after : List (Int × String) × MemFS}
    (written : Written st) (done : writeSources sources st = .ok after) :
    Written after ∧
      after.2 = st.2 ++ sources.flatMap (fun src => src.kept.map (LocalFile.assemble src)) ∧
      ∀ src ∈ sources, ∃ steps, readSteps src = .ok steps := by
  induction sources generalizing st with
  | nil =>
    cases done
    exact ⟨written, (List.append_nil _).symm, fun _ member => nomatch member⟩
  | cons src rest ih =>
    rw [writeSources, bind_eq_ok_iff] at done
    obtain ⟨steps, read, done⟩ := done
    rw [mapError_eq_ok_iff] at read
    rw [bind_eq_ok_iff] at done
    obtain ⟨middle, wrote, others⟩ := done
    obtain ⟨next, files⟩ := writeSteps_spec written wrote
    obtain ⟨last, more, reads⟩ := ih next others
    have own : steps.flatMap (Step.files src) = src.kept.map (LocalFile.assemble src) := by
      rw [Source.kept, read, List.map_flatMap]
      exact List.flatMap_congr fun s _ => Step.files_eq src s
    refine ⟨last, ?_, List.forall_mem_cons.mpr ⟨⟨steps, read⟩, reads⟩⟩
    rw [more, files, own, List.flatMap_cons, List.append_assoc]

/-- An assembled file system holds the kept files of the last sources of each name. -/
theorem buildFSFrom_spec {sources : List Source} {fs : MemFS}
    (built : buildFSFrom sources = .ok fs) :
    (fs.map MigrationFile.fileName).Nodup ∧
      fs.Perm ((current sources).flatMap fun src => src.kept.map (LocalFile.assemble src)) ∧
      ∀ src ∈ current sources, ∃ steps, readSteps src = .ok steps := by
  unfold buildFSFrom at built
  rw [bind_eq_ok_iff] at built
  obtain ⟨sorted, order, built⟩ := built
  rw [bind_eq_ok_iff] at built
  obtain ⟨st, wrote, made⟩ := built
  cases made
  have perm := topoSort_perm order
  have nothing : Written ([], []) := ⟨(fun _ member => nomatch member), List.nodup_nil⟩
  obtain ⟨written, files, reads⟩ := writeSources_spec nothing wrote
  rw [List.nil_append] at files
  refine ⟨written.names, ?_, fun src member => reads src (perm.symm.subset member)⟩
  rw [files]
  exact perm.flatMap_right _

/-! ## Complete and ordered -/

/-- What a file does, without its description. -/
def MigrationFile.content (f : MigrationFile) : Int × String × Direction × Bytes :=
  (f.version, f.module, f.direction, f.data)

/-- The matching files of a source, under their versions. -/
def Source.migrations (src : Source) : List MigrationFile :=
  src.files.map (LocalFile.assemble src)

/-- Among some files, those of a module come after those of the modules it depends on. -/
def Ordered (sources : List Source) (files : List MigrationFile) : Prop :=
  ∀ s ∈ sources, ∀ dep ∈ s.dependsOn, ∀ f ∈ files, f.module = dep →
    ∀ g ∈ files, g.module = s.module → f.version < g.version

/-- What the assembled file system is for. -/
structure Meets (sources : List Source) (fs : MemFS) : Prop where
  names : (fs.map MigrationFile.fileName).Nodup
  complete : (fs.map MigrationFile.content).Perm
    ((sources.flatMap Source.migrations).map MigrationFile.content)
  ordered : Ordered sources fs

/-- A lower priority, or a lower number under one priority; where priorities are so large that
the arithmetic wraps around, the versions are compared. -/
def Source.precedes (d : Source) (m : Int) (t : Source) (n : Int) : Prop :=
  if d.priority.natAbs ≤ 9 * 10 ^ 15 ∧ t.priority.natAbs ≤ 9 * 10 ^ 15 then
    d.priority < t.priority ∨ d.priority = t.priority ∧ m < n
  else d.version m < t.version n

instance {d t : Source} {m n : Int} : Decidable (d.precedes m t n) :=
  inferInstanceAs (Decidable (ite _ _ _))

/-- No name and no number is repeated, and priorities follow the dependencies. -/
structure Tidy (sources : List Source) : Prop where
  once : ∀ s ∈ superseded sources, s.files = []
  numbers : ∀ s ∈ sources, (s.files.map LocalFile.key).Nodup
  downs : ∀ s ∈ sources, ∀ f ∈ s.files, f.direction = .down → f.data ≠ []
  priorities : ∀ s ∈ sources, ∀ dep ∈ s.dependsOn, ∀ d ∈ sources, d.module = dep →
    ∀ t ∈ sources, t.module = s.module → ∀ f ∈ d.files, ∀ g ∈ t.files, d.precedes f.num t g.num

theorem num_of_parse {name desc : String}
    (parsed : parseSQLFilename name = some (num, desc, direction)) : 1 ≤ num ∧ num ≤ 999 := by
  have numbered {n : Option Int} {desc' : String} {direction' : Direction}
      (found : (n.filter fun n => 1 ≤ n ∧ n ≤ 999).map (fun n => (n, desc', direction')) =
        some (num, desc, direction)) : 1 ≤ num ∧ num ≤ 999 := by
    obtain ⟨value, passes, same⟩ := Option.map_eq_some_iff.mp found
    cases same
    exact of_decide_eq_true (Option.filter_eq_some_iff.mp passes).2
  unfold parseSQLFilename at parsed
  split at parsed
  · cases parsed
  · dsimp only at parsed
    split at parsed
    · split at parsed
      · cases parsed
      · exact numbered parsed
    · split at parsed
      · split at parsed
        · cases parsed
        · exact numbered parsed
      · cases parsed

theorem Source.num_of_mem (member : f ∈ src.files) :
    1 ≤ f.num ∧ f.num ≤ 999 := by
  obtain ⟨e, -, found⟩ := List.mem_filterMap.mp member
  unfold DirEntry.file at found
  split at found
  · cases found
  · obtain ⟨⟨num, desc, direction⟩, parsed, rfl⟩ := Option.map_eq_some_iff.mp found
    exact num_of_parse parsed

theorem Source.version_of_small (small : src.priority.natAbs ≤ 9 * 10 ^ 15) {n : Int}
    (number : 1 ≤ n ∧ n ≤ 999) : src.version n = src.priority * 1000 + n := by
  have fits : 0 ≤ src.priority * 1000 + n + 2 ^ 63 ∧ src.priority * 1000 + n + 2 ^ 63 < 2 ^ 64 := by
    omega
  rw [version, Domain.int64, Int.emod_eq_of_lt fits.1 fits.2, add_sub_cancel_right]

theorem Source.precedes_iff {d t : Source} {m n : Int} (first : 1 ≤ m ∧ m ≤ 999)
    (second : 1 ≤ n ∧ n ≤ 999) : d.precedes m t n ↔ d.version m < t.version n := by
  unfold precedes
  split
  · next small =>
      rw [version_of_small small.1 first, version_of_small small.2 second]
      omega
  · rfl

theorem ordered_of_subset {sources : List Source} {files others : List MigrationFile}
    (subset : files.map MigrationFile.content ⊆ others.map MigrationFile.content)
    (ordered : Ordered sources others) : Ordered sources files := by
  intro s member dep inDeps f inFiles isDep g inFiles' isModule
  obtain ⟨f', inOthers, sameF⟩ := List.mem_map.mp (subset (List.mem_map_of_mem inFiles))
  obtain ⟨g', inOthers', sameG⟩ := List.mem_map.mp (subset (List.mem_map_of_mem inFiles'))
  have versionF : f'.version = f.version := congrArg (fun c => c.1) sameF
  have moduleF : f'.module = f.module := congrArg (fun c => c.2.1) sameF
  have versionG : g'.version = g.version := congrArg (fun c => c.1) sameG
  have moduleG : g'.module = g.module := congrArg (fun c => c.2.1) sameG
  rw [← versionF, ← versionG]
  exact ordered s member dep inDeps f' inOthers (moduleF.trans isDep) g' inOthers'
    (moduleG.trans isModule)

/-- Over all matching files the order is that of the priorities. -/
theorem ordered_migrations_iff {sources : List Source} :
    Ordered sources (sources.flatMap Source.migrations) ↔
      ∀ s ∈ sources, ∀ dep ∈ s.dependsOn, ∀ d ∈ sources, d.module = dep →
        ∀ t ∈ sources, t.module = s.module → ∀ f ∈ d.files, ∀ g ∈ t.files,
          d.precedes f.num t g.num := by
  have inMigrations {src : Source} (member : src ∈ sources) {f : LocalFile} (own : f ∈ src.files) :
      f.assemble src ∈ sources.flatMap Source.migrations :=
    List.mem_flatMap.mpr ⟨src, member, List.mem_map_of_mem own⟩
  constructor
  · intro ordered s member dep inDeps d inSources isDep t inSources' isModule f inD g inT
    refine (Source.precedes_iff (Source.num_of_mem inD) (Source.num_of_mem inT)).mpr ?_
    exact ordered s member dep inDeps (f.assemble d) (inMigrations inSources inD) isDep
      (g.assemble t) (inMigrations inSources' inT) isModule
  · intro priorities s member dep inDeps f inFiles isDep g inFiles' isModule
    obtain ⟨d, inSources, ownF⟩ := List.mem_flatMap.mp inFiles
    obtain ⟨fileF, inD, rfl⟩ := List.mem_map.mp ownF
    obtain ⟨t, inSources', ownG⟩ := List.mem_flatMap.mp inFiles'
    obtain ⟨fileG, inT, rfl⟩ := List.mem_map.mp ownG
    exact (Source.precedes_iff (Source.num_of_mem inD) (Source.num_of_mem inT)).mp
      (priorities s member dep inDeps d inSources isDep t inSources' isModule fileF inD fileG inT)

/-- Lists that are nowhere longer and together as long have the same lengths. -/
theorem length_eq_of_flatMap {α β γ : Type} {first : α → List β} {second : α → List γ}
    {items : List α} (le : ∀ a ∈ items, (first a).length ≤ (second a).length) :
    (items.flatMap first).length ≤ (items.flatMap second).length ∧
      ((items.flatMap second).length ≤ (items.flatMap first).length →
        ∀ a ∈ items, (first a).length = (second a).length) := by
  induction items with
  | nil => exact ⟨Nat.le_refl _, fun _ _ member => nomatch member⟩
  | cons a rest ih =>
    rw [List.forall_mem_cons] at le
    obtain ⟨shorter, equal⟩ := ih le.2
    simp only [List.flatMap_cons, List.length_append, List.forall_mem_cons]
    refine ⟨Nat.add_le_add le.1 shorter, fun longer => ?_⟩
    have own := le.1
    exact ⟨by omega, equal (by omega)⟩

section Assembled

variable {sources : List Source} {fs : MemFS}

theorem Source.kept_spec {src : Source} (read : ∃ steps, readSteps src = .ok steps) :
    (src.kept.map LocalFile.content).Subperm (src.files.map LocalFile.content) ∧
      ((src.kept.map LocalFile.content).Perm (src.files.map LocalFile.content) ↔
        (src.files.map LocalFile.key).Nodup ∧
          ∀ f ∈ src.files, f.direction = .down → f.data ≠ []) := by
  obtain ⟨steps, read⟩ := read
  obtain ⟨made, ups⟩ := readSteps_spec read
  have kept : src.kept = steps.flatMap Step.localFiles := by
    rw [Source.kept, read]
    rfl
  rw [kept]
  refine ⟨?_, perm_kept_iff made ups⟩
  refine List.Nodup.subperm (.of_map (fun c : Int × Direction × Bytes => (c.1, c.2.1)) ?_)
    (kept_subset made ups)
  rw [List.map_map]
  exact nodup_kept made

theorem migrations_perm (sources : List Source) :
    (sources.flatMap Source.migrations).Perm
      ((current sources).flatMap Source.migrations ++
        (superseded sources).flatMap Source.migrations) := by
  rw [← List.flatMap_append]
  exact (current_append_superseded sources).symm.flatMap_right _

/-- Every file is kept exactly when the files of each source are, and no source is superseded
with its files. -/
theorem contents_perm_iff (built : buildFSFrom sources = .ok fs) :
    (fs.map MigrationFile.content).Perm
        ((sources.flatMap Source.migrations).map MigrationFile.content) ↔
      (∀ s ∈ superseded sources, s.files = []) ∧
        ∀ s ∈ current sources,
          (s.kept.map LocalFile.content).Perm (s.files.map LocalFile.content) := by
  obtain ⟨-, perm, reads⟩ := buildFSFrom_spec built
  constructor
  · intro complete
    have le (s : Source) (member : s ∈ current sources) :
        (s.kept.map (LocalFile.assemble s)).length ≤ s.migrations.length := by
      have short := (Source.kept_spec (reads s member)).1.length_le
      simpa [Source.migrations] using short
    obtain ⟨shorter, equal⟩ := length_eq_of_flatMap le
    have total := complete.length_eq
    have all := (migrations_perm sources).length_eq
    rw [List.length_map, List.length_map, perm.length_eq, all, List.length_append] at total
    constructor
    · intro s member
      have none : (superseded sources).flatMap Source.migrations = [] :=
        List.length_eq_zero_iff.mp (by omega)
      exact List.map_eq_nil_iff.mp (List.flatMap_eq_nil_iff.mp none s member)
    · intro s member
      have same := equal (by omega) s member
      refine (Source.kept_spec (reads s member)).1.perm_of_length_le ?_
      simpa [Source.migrations] using same.ge
  · rintro ⟨once, each⟩
    have none : (superseded sources).flatMap Source.migrations = [] :=
      List.flatMap_eq_nil_iff.mpr fun s member => by rw [Source.migrations, once s member]; rfl
    have all := (migrations_perm sources).map MigrationFile.content
    rw [none, List.append_nil] at all
    refine ((perm.map MigrationFile.content).trans ?_).trans all.symm
    rw [List.map_flatMap, List.map_flatMap]
    refine List.Perm.flatMap_left _ fun s member => ?_
    have own := (each s member).map fun c : Int × Direction × Bytes =>
      (s.version c.1, s.module, c.2.1, c.2.2)
    simpa [Source.migrations, List.map_map, Function.comp_def, LocalFile.content,
      LocalFile.assemble, MigrationFile.content] using own

theorem mem_of_mem_current {s : Source} (member : s ∈ current sources) : s ∈ sources :=
  (current_append_superseded sources).subset (List.mem_append_left _ member)

/-- The assembled file system is complete and ordered exactly when the sources are tidy. -/
theorem buildFSFrom_meets_iff (built : buildFSFrom sources = .ok fs) :
    Meets sources fs ↔ Tidy sources := by
  obtain ⟨names, -, reads⟩ := buildFSFrom_spec built
  have cases {s : Source} (member : s ∈ sources) : s ∈ current sources ∨ s ∈ superseded sources :=
    List.mem_append.mp ((current_append_superseded sources).symm.subset member)
  constructor
  · intro meets
    obtain ⟨once, each⟩ := (contents_perm_iff built).mp meets.complete
    have whole {s : Source} (member : s ∈ sources) : (s.files.map LocalFile.key).Nodup ∧
        ∀ f ∈ s.files, f.direction = .down → f.data ≠ [] := by
      rcases cases member with last | again
      · exact (Source.kept_spec (reads s last)).2.mp (each s last)
      · rw [once s again]
        exact ⟨List.nodup_nil, fun _ none => nomatch none⟩
    exact ⟨once, fun s member => (whole member).1, fun s member => (whole member).2,
      ordered_migrations_iff.mp (ordered_of_subset meets.complete.symm.subset meets.ordered)⟩
  · intro tidy
    have complete := (contents_perm_iff built).mpr ⟨tidy.once, fun s last =>
      (Source.kept_spec (reads s last)).2.mpr ⟨tidy.numbers s (mem_of_mem_current last),
        tidy.downs s (mem_of_mem_current last)⟩⟩
    exact ⟨names, complete,
      ordered_of_subset complete.subset (ordered_migrations_iff.mpr tidy.priorities)⟩

end Assembled

/-! ## Sample modules -/

/-- A source with some files of one text each. -/
def sampleSource (module : String) (priority : Int) (dependsOn : List String)
    (files : List (String × Bytes)) : Source :=
  { module, priority, dependsOn, fs := .ok (files.map fun file =>
      { name := file.1, read := .ok file.2 }) }

def tenantSource : Source :=
  sampleSource "tenant" 10 [] [("001_tenant.down.sql", [2]), ("001_tenant.up.sql", [1])]

def iamSource : Source :=
  sampleSource "iam" 20 ["tenant"] [("001_user.up.sql", [3]), ("notes.txt", [4])]

theorem buildFSFrom_meets_two : ∃ fs, buildFSFrom [iamSource, tenantSource] = .ok fs ∧
    fs.map MigrationFile.fileName = ["010001_tenant_tenant.up.sql",
      "010001_tenant_tenant.down.sql", "020001_iam_user.up.sql"] ∧
    Meets [iamSource, tenantSource] fs := by
  refine ⟨_, rfl, by decide +kernel, (buildFSFrom_meets_iff rfl).mpr ⟨?_, ?_, ?_, ?_⟩⟩
  · decide +kernel
  · decide +kernel
  · decide +kernel
  · decide +kernel

/-- It runs before the module it depends on. -/
def financeSource : Source :=
  sampleSource "finance" 5 ["tenant"] [("001_account.up.sql", [5])]

/-- Two files of one number. -/
def taxSource : Source :=
  sampleSource "tax" 40 [] [("001_code.up.sql", [6]), ("001_rate.up.sql", [7])]

/-- A module of a lower priority than its dependency comes first; of two files of one number, and
of two modules of one name, one is left. -/
theorem finance_before_tenant :
    (∃ fs, buildFSFrom [tenantSource, financeSource] = .ok fs ∧
      fs.map MigrationFile.fileName = ["010001_tenant_tenant.up.sql",
        "010001_tenant_tenant.down.sql", "005001_finance_account.up.sql"] ∧
      ¬ Meets [tenantSource, financeSource] fs) ∧
    (∃ fs, buildFSFrom [taxSource] = .ok fs ∧
      fs.map MigrationFile.fileName = ["040001_tax_code.up.sql"] ∧
      fs.map MigrationFile.data = [[7]] ∧ ¬ Meets [taxSource] fs) ∧
    ∃ fs, buildFSFrom [iamSource, tenantSource, { financeSource with module := "iam" }] = .ok fs ∧
      fs.map MigrationFile.data = [[1], [2], [5]] ∧
      ¬ Meets [iamSource, tenantSource, { financeSource with module := "iam" }] fs := by
  refine ⟨⟨_, rfl, ?_, fun meets => absurd meets.ordered ?_⟩,
    ⟨_, rfl, ?_, ?_, fun meets => absurd meets.complete.length_eq ?_⟩,
    _, rfl, ?_, fun meets => absurd meets.complete.length_eq ?_⟩
  · decide +kernel
  · unfold Ordered
    decide +kernel
  · decide +kernel
  · decide +kernel
  · decide +kernel
  · decide +kernel
  · decide +kernel

end ErpFinance.Migration
