import ErpFinance.Migration.Sources
import Mathlib.Data.Finset.Basic

/-!
# Migration plans

The scripts of a directory as steps, the plans that move the database from one
version to another, and what executing a plan does to the applied versions.
-/

namespace ErpFinance.Migration.Planner

open Library

/-! ## Steps -/

structure Step where
  version : Nat
  description : String
  direction : Direction
  sql : Bytes
  checksum : Bytes

structure Plan where
  steps : List Step := []
  /-- `From`. -/
  fromVersion : Nat := 0
  /-- `To`. -/
  toVersion : Nat := 0

/-- `[a-z0-9_]`. -/
def isSlug (c : Char) : Bool := ('a' ≤ c && c ≤ 'z') || c.isDigit || c = '_'

/-- Version, description and direction of a file name; fourteen digits fit 64 bits. -/
def filenameRe (name : String) : Option (Nat × String × Direction) :=
  let digits := name.toList.take 14
  let described (ending : String) (direction : Direction) : Option (Nat × String × Direction) :=
    let slug := (dropSuffix name ending).toList.drop 15
    if hasSuffix name ending ∧ slug ≠ [] ∧ slug.all isSlug then
      some (Nat.ofDigitChars 10 digits 0, String.ofList slug, direction)
    else none
  if digits.length = 14 ∧ digits.all Char.isDigit ∧ name.toList[14]? = some '_' then
    (described ".up.sql" .up).orElse fun _ => described ".down.sql" .down
  else none

/-- The step of a script. -/
def readStep (path : String → String) (e : DirEntry) (file : Nat × String × Direction) :
    Except String Step :=
  match e.read with
  | .error err => .error ("migration.Scan: read " ++ path e.name ++ ": " ++ err)
  | .ok content => .ok
      { version := file.1, description := file.2.1, direction := file.2.2, sql := content
        checksum := sha256Hex content }

/-- The scripts of a directory; other files are ignored. -/
def scripts (entries : List DirEntry) : List (DirEntry × Nat × String × Direction) :=
  entries.filterMap fun e => if e.isDir then none else (filenameRe e.name).map fun file => (e, file)

/-- A `sort.Slice`, which need not be stable. -/
structure Sorts (less : Step → Step → Bool) (sort : List Step → List Step) : Prop where
  perm : ∀ steps, (sort steps).Perm steps
  sorted : ∀ steps, (sort steps).Pairwise fun s t => less t s = false

def versionLess (s t : Step) : Bool := s.version < t.version

def versionGreater (s t : Step) : Bool := s.version > t.version

def scanLess (s t : Step) : Bool :=
  if s.version ≠ t.version then s.version < t.version
  else s.direction = .up && t.direction = .down

/-- The sortings of the package. -/
structure Sorting where
  scanned : List Step → List Step
  ascending : List Step → List Step
  descending : List Step → List Step
  scan_sorts : Sorts scanLess scanned
  ascending_sorts : Sorts versionLess ascending
  descending_sorts : Sorts versionGreater descending

section Plans

variable (sorting : Sorting)

def scan (path : String → String) (dir : String) (entries : Except String (List DirEntry)) :
    Except String (List Step) :=
  match entries with
  | .error err => .error ("migration.Scan: read dir " ++ dir ++ ": " ++ err)
  | .ok entries =>
    ((scripts entries).mapM fun (e, file) => readStep path e file).map sorting.scanned

/-- The loop over the ascending steps. -/
def selectUp (currentVersion target : Nat) : List Step → List Step
  | [] => []
  | s :: rest =>
    if s.version ≤ currentVersion then selectUp currentVersion target rest
    else if target ≠ 0 ∧ s.version > target then []
    else s :: selectUp currentVersion target rest

/-- The loop over the descending steps. -/
def selectDown (currentVersion target : Nat) : List Step → List Step
  | [] => []
  | s :: rest =>
    if s.version > currentVersion then selectDown currentVersion target rest
    else if s.version ≤ target then []
    else s :: selectDown currentVersion target rest

def lastVersion (selected : List Step) (version : Nat) : Nat :=
  (selected.getLast?.map Step.version).getD version

def buildPlan (steps : List Step) (currentVersion : Nat) (direction : Direction) (target : Nat) :
    Except String Plan :=
  let dirSteps := steps.filter fun s => s.direction = direction
  match direction with
  | .up =>
    let selected := selectUp currentVersion target (sorting.ascending dirSteps)
    .ok ⟨selected, currentVersion, lastVersion selected currentVersion⟩
  | .down =>
    let selected := selectDown currentVersion target (sorting.descending dirSteps)
    if target > currentVersion then
      .error ("migration.BuildPlan: target " ++ toString target ++ " is above currentVersion " ++
        toString currentVersion ++ " for down direction")
    else .ok ⟨selected, currentVersion, if selected.isEmpty then currentVersion else target⟩

end Plans

/-! ## Execution -/

def execute : List Step → Finset Nat → Finset Nat
  | [], applied => applied
  | s :: rest, applied =>
    execute rest (match s.direction with
      | .up => insert s.version applied
      | .down => applied.erase s.version)

/-- The greatest of some versions, or zero. -/
def latest (versions : List Nat) : Nat := versions.foldr max 0

/-- The version at which executing steps leaves the database: that of a step up, and the one just
below a step down. -/
def reached (ups : List Nat) : List Step → Nat → Nat
  | [], version => version
  | s :: rest, _ =>
    reached ups rest (match s.direction with
      | .up => s.version
      | .down => latest (ups.filter (· < s.version)))

def versions (direction : Direction) (steps : List Step) : List Nat :=
  (steps.filter fun s => s.direction = direction).map Step.version

/-- Above the current version, and not above the target unless that is zero. -/
def InUp (currentVersion target v : Nat) : Prop :=
  currentVersion < v ∧ (target = 0 ∨ v ≤ target)

def InDown (currentVersion target v : Nat) : Prop := target < v ∧ v ≤ currentVersion

instance (currentVersion target v : Nat) : Decidable (InUp currentVersion target v) :=
  inferInstanceAs (Decidable (_ ∧ _))

instance (currentVersion target v : Nat) : Decidable (InDown currentVersion target v) :=
  inferInstanceAs (Decidable (_ ∧ _))

structure Meets (sorting : Sorting) (steps : List Step) (currentVersion target : Nat) : Prop where
  up : ∀ plan, buildPlan sorting steps currentVersion .up target = .ok plan →
    (∀ s, s ∈ plan.steps ↔
      s ∈ steps ∧ s.direction = .up ∧ InUp currentVersion target s.version) ∧
    plan.steps.Pairwise fun s t => s.version < t.version
  down : ∀ plan, buildPlan sorting steps currentVersion .down target = .ok plan →
    (∀ s ∈ plan.steps, s.direction = .down) ∧
    (∀ v, v ∈ plan.steps.map Step.version ↔
      v ∈ versions .up steps ∧ InDown currentVersion target v) ∧
    plan.steps.Pairwise fun s t => s.version > t.version
  to_reached : ∀ direction plan,
    buildPlan sorting steps currentVersion direction target = .ok plan →
      plan.toVersion = reached (versions .up steps) plan.steps currentVersion
  restores : ∀ upPlan, buildPlan sorting steps currentVersion .up target = .ok upPlan →
    ∃ downPlan, buildPlan sorting steps upPlan.toVersion .down currentVersion = .ok downPlan ∧
      ∀ applied : Finset Nat, (∀ v ∈ applied, v ≤ currentVersion) →
        execute downPlan.steps (execute upPlan.steps applied) = applied

structure Paired (ups downs : List Nat) (currentVersion target : Nat) : Prop where
  /-- No version of the up plan has two up scripts. -/
  upOnce : (ups.filter (InUp currentVersion target)).Nodup
  /-- Every version of the up plan has a down script. -/
  inverse : ∀ v ∈ ups, InUp currentVersion target v → v ∈ downs
  /-- From the current version down to the target, either script comes with the other. -/
  both : target ≤ currentVersion → ∀ v, InDown currentVersion target v → (v ∈ ups ↔ v ∈ downs)
  downOnce : target ≤ currentVersion → (downs.filter (InDown currentVersion target)).Nodup
  /-- The target of a down plan with steps is zero or has an up script. -/
  landing : target ≤ currentVersion → (∃ v ∈ ups, InDown currentVersion target v) →
    target = 0 ∨ target ∈ ups

section Select

variable {sorting : Sorting} {steps selected : List Step} {currentVersion target : Nat}

theorem selectUp_eq (ascending : steps.Pairwise fun s t => versionLess t s = false) :
    selectUp currentVersion target steps =
      steps.filter fun s => InUp currentVersion target s.version := by
  induction steps with
  | nil => rfl
  | cons s rest ih =>
    obtain ⟨first, others⟩ := List.pairwise_cons.mp ascending
    rw [selectUp]
    split
    · rename_i below
      have outside : ¬ InUp currentVersion target s.version := fun range => by
        have := range.1
        omega
      rw [ih others, List.filter_cons_of_neg (by simpa using outside)]
    · rename_i above
      split
      · rename_i beyond
        -- every later step is beyond the target too
        refine (List.filter_eq_nil_iff.mpr fun t member => ?_).symm
        have later : s.version ≤ t.version := by
          rcases List.mem_cons.mp member with rfl | inRest
          · exact le_rfl
          · simpa [versionLess] using first t inRest
        rw [decide_eq_true_eq]
        rintro ⟨-, latest | le⟩
        · exact beyond.1 latest
        · omega
      · rename_i within
        have inside : InUp currentVersion target s.version := by
          refine ⟨by omega, ?_⟩
          by_contra neither
          omega
        rw [ih others, List.filter_cons_of_pos (by simpa using inside)]

theorem selectDown_eq (descending : steps.Pairwise fun s t => versionGreater t s = false) :
    selectDown currentVersion target steps =
      steps.filter fun s => InDown currentVersion target s.version := by
  induction steps with
  | nil => rfl
  | cons s rest ih =>
    obtain ⟨first, others⟩ := List.pairwise_cons.mp descending
    rw [selectDown]
    split
    · rename_i above
      have outside : ¬ InDown currentVersion target s.version := fun range => by
        have := range.2
        omega
      rw [ih others, List.filter_cons_of_neg (by simpa using outside)]
    · split
      · rename_i beyond
        refine (List.filter_eq_nil_iff.mpr fun t member => ?_).symm
        have later : t.version ≤ s.version := by
          rcases List.mem_cons.mp member with rfl | inRest
          · exact le_rfl
          · simpa [versionGreater] using first t inRest
        rw [decide_eq_true_eq]
        rintro ⟨above, -⟩
        omega
      · rename_i within
        have inside : InDown currentVersion target s.version := ⟨by omega, by omega⟩
        rw [ih others, List.filter_cons_of_pos (by simpa using inside)]

section Sorted

variable {less : Step → Step → Bool} {sort : List Step → List Step} {direction : Direction}
  {range : Nat → Prop} [DecidablePred range]

def inRange (sort : List Step → List Step) (steps : List Step) (direction : Direction)
    (range : Nat → Prop) [DecidablePred range] : List Step :=
  (sort (steps.filter fun s => s.direction = direction)).filter fun s => range s.version

theorem mem_inRange (sorts : Sorts less sort) {s : Step} :
    s ∈ inRange sort steps direction range ↔
      s ∈ steps ∧ s.direction = direction ∧ range s.version := by
  rw [inRange, List.mem_filter, (sorts.perm _).mem_iff, List.mem_filter, decide_eq_true_eq,
    decide_eq_true_eq, and_assoc]

theorem versions_inRange (sorts : Sorts less sort) :
    ((inRange sort steps direction range).map Step.version).Perm
      ((versions direction steps).filter range) := by
  rw [versions, List.filter_map]
  exact ((sorts.perm _).filter _).map _

theorem mem_versions_inRange (sorts : Sorts less sort) {v : Nat} :
    v ∈ (inRange sort steps direction range).map Step.version ↔
      v ∈ versions direction steps ∧ range v := by
  rw [(versions_inRange sorts).mem_iff, List.mem_filter, decide_eq_true_eq]

end Sorted

/-- The steps of an up plan. -/
def upSteps (sorting : Sorting) (steps : List Step) (currentVersion target : Nat) : List Step :=
  inRange sorting.ascending steps .up (InUp currentVersion target)

def downSteps (sorting : Sorting) (steps : List Step) (currentVersion target : Nat) : List Step :=
  inRange sorting.descending steps .down (InDown currentVersion target)

theorem buildPlan_up : buildPlan sorting steps currentVersion .up target =
    .ok ⟨upSteps sorting steps currentVersion target, currentVersion,
      lastVersion (upSteps sorting steps currentVersion target) currentVersion⟩ := by
  rw [buildPlan, selectUp_eq (sorting.ascending_sorts.sorted _)]
  rfl

theorem buildPlan_down (below : target ≤ currentVersion) :
    buildPlan sorting steps currentVersion .down target =
      .ok ⟨downSteps sorting steps currentVersion target, currentVersion,
        if (downSteps sorting steps currentVersion target).isEmpty then currentVersion
        else target⟩ := by
  rw [buildPlan, if_neg (by omega), selectDown_eq (sorting.descending_sorts.sorted _)]
  rfl

theorem buildPlan_refused (above : currentVersion < target) {plan : Plan} :
    buildPlan sorting steps currentVersion .down target ≠ .ok plan := by
  rw [buildPlan, if_pos above]
  exact fun equal => nomatch equal

/-- Versions of a sorted selection ascend strictly where they are distinct. -/
theorem ascending_upSteps
    (once : ((versions .up steps).filter (InUp currentVersion target)).Nodup) :
    (upSteps sorting steps currentVersion target).Pairwise fun s t => s.version < t.version := by
  have nodup := (versions_inRange sorting.ascending_sorts).nodup_iff.mpr once
  rw [List.Nodup, List.pairwise_map] at nodup
  refine (((sorting.ascending_sorts.sorted _).filter _).and nodup).imp fun {s t} both => ?_
  have le : s.version ≤ t.version := by simpa [versionLess] using both.1
  exact lt_of_le_of_ne le both.2

theorem descending_downSteps
    (once : ((versions .down steps).filter (InDown currentVersion target)).Nodup) :
    (downSteps sorting steps currentVersion target).Pairwise fun s t => s.version > t.version := by
  have nodup := (versions_inRange sorting.descending_sorts).nodup_iff.mpr once
  rw [List.Nodup, List.pairwise_map] at nodup
  refine (((sorting.descending_sorts.sorted _).filter _).and nodup).imp fun {s t} both => ?_
  have le : t.version ≤ s.version := by simpa [versionGreater] using both.1
  exact lt_of_le_of_ne le (Ne.symm both.2)

/-- Strictly sorted, the versions of a selection are distinct. -/
theorem nodup_of_pairwise (r : Nat → Nat → Prop) (irreflexive : ∀ v, ¬ r v v)
    (sorted : selected.Pairwise fun s t => r s.version t.version) :
    (selected.map Step.version).Nodup := by
  rw [List.Nodup, List.pairwise_map]
  refine sorted.imp fun {s t} related same => ?_
  rw [same] at related
  exact irreflexive _ related

end Select

section Execution

variable {steps selected : List Step} {applied : Finset Nat} {ups : List Nat} {v : Nat}

theorem mem_execute_up (up : ∀ s ∈ selected, s.direction = .up) :
    v ∈ execute selected applied ↔ v ∈ applied ∨ v ∈ selected.map Step.version := by
  induction selected generalizing applied with
  | nil => simp [execute]
  | cons s rest ih =>
    obtain ⟨first, others⟩ := List.forall_mem_cons.mp up
    rw [execute, first, ih others, Finset.mem_insert, List.map_cons, List.mem_cons, or_assoc,
      or_left_comm]

theorem mem_execute_down (down : ∀ s ∈ selected, s.direction = .down) :
    v ∈ execute selected applied ↔ v ∈ applied ∧ v ∉ selected.map Step.version := by
  induction selected generalizing applied with
  | nil => simp [execute]
  | cons s rest ih =>
    obtain ⟨first, others⟩ := List.forall_mem_cons.mp down
    rw [execute, first, ih others, Finset.mem_erase, List.map_cons, List.mem_cons, not_or]
    exact ⟨fun ⟨⟨other, member⟩, kept⟩ => ⟨member, other, kept⟩,
      fun ⟨member, other, kept⟩ => ⟨⟨other, member⟩, kept⟩⟩

/-- Steps up leave the database at the last of them. -/
theorem reached_up (up : ∀ s ∈ selected, s.direction = .up) (version : Nat) :
    reached ups selected version = lastVersion selected version := by
  induction selected generalizing version with
  | nil => rfl
  | cons s rest ih =>
    obtain ⟨first, others⟩ := List.forall_mem_cons.mp up
    rw [reached, first, ih others, lastVersion, lastVersion, List.getLast?_cons]
    cases rest.getLast? <;> rfl

/-- Steps down leave it just below the last of them. -/
theorem reached_down (down : ∀ s ∈ selected, s.direction = .down) (version : Nat) :
    reached ups selected version =
      (selected.getLast?.map fun s => latest (ups.filter (· < s.version))).getD version := by
  induction selected generalizing version with
  | nil => rfl
  | cons s rest ih =>
    obtain ⟨first, others⟩ := List.forall_mem_cons.mp down
    rw [reached, first, ih others, List.getLast?_cons]
    cases rest.getLast? <;> rfl

theorem le_latest (member : v ∈ ups) : v ≤ latest ups := by
  induction ups with
  | nil => cases member
  | cons first rest ih =>
    rw [latest, List.foldr_cons]
    rcases List.mem_cons.mp member with rfl | later
    · exact le_max_left _ _
    · exact (ih later).trans (le_max_right _ _)

theorem latest_cases (ups : List Nat) : latest ups = 0 ∨ latest ups ∈ ups := by
  induction ups with
  | nil => exact .inl rfl
  | cons first rest ih =>
    have parts : latest (first :: rest) = max first (latest rest) := rfl
    rcases max_choice first (latest rest) with here | there
    · rw [parts, here]
      exact .inr List.mem_cons_self
    · rw [parts, there]
      exact ih.imp id (List.mem_cons_of_mem _)

theorem latest_eq_of_greatest (greatest : ∀ u ∈ ups, u ≤ v) (member : v = 0 ∨ v ∈ ups) :
    latest ups = v := by
  refine le_antisymm ?_ ?_
  · rcases latest_cases ups with zero | inUps
    · exact zero ▸ Nat.zero_le v
    · exact greatest _ inUps
  · rcases member with rfl | inUps
    · exact Nat.zero_le _
    · exact le_latest inUps

end Execution

section Plans

variable {sorting : Sorting} {steps : List Step} {currentVersion target : Nat}

theorem exists_last {r : Step → Step → Prop} {selected : List Step} (sorted : selected.Pairwise r)
    (nonempty : selected ≠ []) : ∃ last, selected.getLast? = some last ∧ last ∈ selected ∧
      ∀ s ∈ selected, s = last ∨ r s last := by
  rcases List.eq_nil_or_concat selected with rfl | ⟨front, last, rfl⟩
  · exact absurd rfl nonempty
  · rw [List.concat_eq_append] at *
    refine ⟨last, List.getLast?_concat, by simp, fun s member => ?_⟩
    rcases List.mem_append.mp member with inFront | isLast
    · exact .inr ((List.pairwise_append.mp sorted).2.2 s inFront last (List.mem_singleton.mpr rfl))
    · exact .inl (List.mem_singleton.mp isLast)

theorem direction_upSteps : ∀ s ∈ upSteps sorting steps currentVersion target, s.direction = .up :=
  fun _ member => ((mem_inRange sorting.ascending_sorts).mp member).2.1

theorem direction_downSteps :
    ∀ s ∈ downSteps sorting steps currentVersion target, s.direction = .down :=
  fun _ member => ((mem_inRange sorting.descending_sorts).mp member).2.1

theorem le_of_mem_upSteps {s : Step} (member : s ∈ upSteps sorting steps currentVersion target) :
    s.version ≤ lastVersion (upSteps sorting steps currentVersion target) currentVersion := by
  have sorted : (upSteps sorting steps currentVersion target).Pairwise
      fun s t => versionLess t s = false := (sorting.ascending_sorts.sorted _).filter _
  obtain ⟨last, found, -, all⟩ := exists_last sorted (List.ne_nil_of_mem member)
  rw [lastVersion, found, Option.map_some, Option.getD_some]
  rcases all s member with rfl | related
  · exact le_rfl
  · simpa [versionLess] using related

theorem le_lastVersion :
    currentVersion ≤ lastVersion (upSteps sorting steps currentVersion target) currentVersion := by
  rw [lastVersion]
  cases found : (upSteps sorting steps currentVersion target).getLast? with
  | none => exact le_rfl
  | some last =>
    have range := ((mem_inRange sorting.ascending_sorts).mp (List.mem_of_getLast? found)).2.2
    exact le_of_lt range.1

theorem execute_up_down {applied : Finset Nat} (applied_le : ∀ v ∈ applied, v ≤ currentVersion)
    (inverse : ∀ v ∈ versions .up steps, InUp currentVersion target v → v ∈ versions .down steps) :
    execute (downSteps sorting steps
      (lastVersion (upSteps sorting steps currentVersion target) currentVersion) currentVersion)
      (execute (upSteps sorting steps currentVersion target) applied) = applied := by
  ext v
  rw [mem_execute_down direction_downSteps, mem_execute_up direction_upSteps, downSteps,
    mem_versions_inRange sorting.descending_sorts]
  constructor
  · rintro ⟨before | selected, kept⟩
    · exact before
    · obtain ⟨inUps, range⟩ := (mem_versions_inRange sorting.ascending_sorts).mp selected
      obtain ⟨s, member, rfl⟩ := List.mem_map.mp selected
      exact absurd ⟨inverse _ inUps range, range.1, le_of_mem_upSteps member⟩ kept
  · intro before
    refine ⟨.inl before, fun removed => ?_⟩
    have le := applied_le v before
    have above := removed.2.1
    omega

theorem meets_of_paired
    (paired : Paired (versions .up steps) (versions .down steps) currentVersion target) :
    Meets sorting steps currentVersion target where
  up := by
    intro plan built
    rw [buildPlan_up] at built
    obtain rfl := Except.ok.inj built
    exact ⟨fun s => mem_inRange sorting.ascending_sorts, ascending_upSteps paired.upOnce⟩
  down := by
    intro plan built
    rcases Nat.lt_or_ge currentVersion target with above | below
    · exact absurd built (buildPlan_refused above)
    · rw [buildPlan_down below] at built
      obtain rfl := Except.ok.inj built
      refine ⟨direction_downSteps, fun v => ?_, descending_downSteps (paired.downOnce below)⟩
      rw [downSteps, mem_versions_inRange sorting.descending_sorts]
      exact and_congr_left fun range => (paired.both below v range).symm
  to_reached := by
    intro direction plan built
    cases direction with
    | up =>
      rw [buildPlan_up] at built
      obtain rfl := Except.ok.inj built
      rw [reached_up direction_upSteps]
    | down =>
      rcases Nat.lt_or_ge currentVersion target with above | below
      · exact absurd built (buildPlan_refused above)
      · rw [buildPlan_down below] at built
        obtain rfl := Except.ok.inj built
        rw [reached_down direction_downSteps]
        by_cases empty : downSteps sorting steps currentVersion target = []
        · rw [empty]
          rfl
        · have sorted : (downSteps sorting steps currentVersion target).Pairwise
              fun s t => versionGreater t s = false :=
            (sorting.descending_sorts.sorted _).filter _
          obtain ⟨last, found, member, all⟩ := exists_last sorted empty
          obtain ⟨inSteps, isDown, range⟩ := (mem_inRange sorting.descending_sorts).mp member
          have inDowns : last.version ∈ versions .down steps :=
            List.mem_map_of_mem (List.mem_filter.mpr ⟨inSteps, decide_eq_true isDown⟩)
          have inUps := (paired.both below _ range).mpr inDowns
          simp only [List.isEmpty_iff, empty, if_false, found, Option.map_some,
            Option.getD_some]
          -- every version below the last step is at most the target
          refine (latest_eq_of_greatest (fun u member => ?_) ?_).symm
          · obtain ⟨inUps, lower⟩ := List.mem_filter.mp member
            have lower : u < last.version := by simpa using lower
            by_contra beyond
            have between : InDown currentVersion target u := by
              have := range.2
              exact ⟨by omega, by omega⟩
            have listed : u ∈ (downSteps sorting steps currentVersion target).map Step.version :=
              (mem_versions_inRange sorting.descending_sorts).mpr
                ⟨(paired.both below u between).mp inUps, between⟩
            obtain ⟨s, selected, rfl⟩ := List.mem_map.mp listed
            rcases all s selected with rfl | related
            · exact lt_irrefl _ lower
            · have le : last.version ≤ s.version := by simpa [versionGreater] using related
              omega
          · refine (paired.landing below ⟨_, inUps, range⟩).imp id fun inUps => ?_
            exact List.mem_filter.mpr ⟨inUps, decide_eq_true range.1⟩
  restores := by
    intro upPlan built
    rw [buildPlan_up] at built
    obtain rfl := Except.ok.inj built
    exact ⟨_, buildPlan_down le_lastVersion, fun applied applied_le =>
      execute_up_down applied_le paired.inverse⟩

theorem paired_of_meets (meets : Meets sorting steps currentVersion target) :
    Paired (versions .up steps) (versions .down steps) currentVersion target where
  upOnce := by
    have sorted := (meets.up _ buildPlan_up).2
    exact (versions_inRange sorting.ascending_sorts).nodup_iff.mp
      (nodup_of_pairwise (fun v w => v < w) lt_irrefl sorted)
  inverse := by
    intro v inUps range
    obtain ⟨downPlan, built, restored⟩ := meets.restores _ buildPlan_up
    rw [buildPlan_down le_lastVersion] at built
    obtain rfl := Except.ok.inj built
    have nothing := restored ∅ (by simp)
    have gone : v ∉ execute (downSteps sorting steps
        (lastVersion (upSteps sorting steps currentVersion target) currentVersion) currentVersion)
        (execute (upSteps sorting steps currentVersion target) ∅) := by
      rw [nothing]
      exact Finset.notMem_empty v
    rw [mem_execute_down direction_downSteps, mem_execute_up direction_upSteps, not_and_not_right]
      at gone
    have removed := gone (.inr ((mem_versions_inRange sorting.ascending_sorts).mpr ⟨inUps, range⟩))
    exact ((mem_versions_inRange sorting.descending_sorts).mp removed).1
  both := by
    intro below v range
    have listed := (meets.down _ (buildPlan_down below)).2.1 v
    rw [downSteps, mem_versions_inRange sorting.descending_sorts] at listed
    exact ⟨fun inUps => (listed.mpr ⟨inUps, range⟩).1,
      fun inDowns => (listed.mp ⟨inDowns, range⟩).1⟩
  downOnce := by
    intro below
    have sorted := (meets.down _ (buildPlan_down below)).2.2
    exact (versions_inRange sorting.descending_sorts).nodup_iff.mp
      (nodup_of_pairwise (fun v w => v > w) lt_irrefl sorted)
  landing := by
    rintro below ⟨v, inUps, range⟩
    have listed := ((meets.down _ (buildPlan_down below)).2.1 v).mpr ⟨inUps, range⟩
    have nonempty : downSteps sorting steps currentVersion target ≠ [] := by
      intro empty
      rw [empty] at listed
      cases listed
    have landed := meets.to_reached .down _ (buildPlan_down below)
    rw [reached_down direction_downSteps] at landed
    simp only [List.isEmpty_iff, nonempty, if_false] at landed
    rw [landed]
    cases found : (downSteps sorting steps currentVersion target).getLast? with
    | none => exact absurd (List.getLast?_eq_none_iff.mp found) nonempty
    | some last =>
      rw [Option.map_some, Option.getD_some]
      exact (latest_cases _).imp id fun member => (List.mem_filter.mp member).1

end Plans

/-! ## Scanned directories -/

def fileVersions (direction : Direction) (entries : List DirEntry) : List Nat :=
  ((scripts entries).filter fun script => script.2.2.2 = direction).map fun script => script.2.1

section Scanned

variable {sorting : Sorting} {path : String → String} {dir : String} {entries : List DirEntry}
  {steps : List Step}

theorem readStep_eq_ok {e : DirEntry} {file : Nat × String × Direction} {s : Step}
    (read : readStep path e file = .ok s) : s.version = file.1 ∧ s.direction = file.2.2 := by
  rw [readStep] at read
  split at read
  · cases read
  · obtain rfl := Except.ok.inj read
    exact ⟨rfl, rfl⟩

theorem versions_of_read {files : List (DirEntry × Nat × String × Direction)} {raws : List Step}
    (read : List.Forall₂ (fun script s => readStep path script.1 script.2 = .ok s) files raws)
    (direction : Direction) : versions direction raws =
      (files.filter fun script => script.2.2.2 = direction).map fun script => script.2.1 := by
  induction read with
  | nil => rfl
  | @cons script s files raws first _ ih =>
    obtain ⟨version, direct⟩ := readStep_eq_ok first
    rw [versions] at ih ⊢
    by_cases same : s.direction = direction
    · rw [List.filter_cons_of_pos (by simpa using same), List.filter_cons_of_pos
        (by simpa using direct ▸ same), List.map_cons, List.map_cons, ih, version]
    · rw [List.filter_cons_of_neg (by simpa using same), List.filter_cons_of_neg
        (by simpa using direct ▸ same), ih]

theorem versions_of_scan (scanned : scan sorting path dir (.ok entries) = .ok steps)
    (direction : Direction) : (versions direction steps).Perm (fileVersions direction entries) := by
  rw [scan] at scanned
  cases read : (scripts entries).mapM fun (e, file) => readStep path e file with
  | error err => rw [read] at scanned; cases scanned
  | ok raws =>
    rw [read] at scanned
    obtain rfl := Except.ok.inj scanned
    rw [fileVersions, ← versions_of_read (mapM_eq_ok_iff.mp read) direction]
    exact ((sorting.scan_sorts.perm raws).filter _).map _

/-- Pairing does not depend on the order of the versions. -/
theorem Paired.perm {ups ups' downs downs' : List Nat} {currentVersion target : Nat}
    (sameUps : ups.Perm ups') (sameDowns : downs.Perm downs')
    (paired : Paired ups downs currentVersion target) :
    Paired ups' downs' currentVersion target where
  upOnce := (sameUps.filter _).nodup_iff.mp paired.upOnce
  inverse := fun v inUps range =>
    sameDowns.mem_iff.mp (paired.inverse v (sameUps.mem_iff.mpr inUps) range)
  both := fun below v range => by
    rw [← sameUps.mem_iff, ← sameDowns.mem_iff]
    exact paired.both below v range
  downOnce := fun below => (sameDowns.filter _).nodup_iff.mp (paired.downOnce below)
  landing := fun below ⟨v, inUps, range⟩ => by
    rw [← sameUps.mem_iff]
    exact paired.landing below ⟨v, sameUps.mem_iff.mpr inUps, range⟩

/--
For every scanned directory the plans are as they should be if and only if its
up and down scripts are paired in the ranges of the plans and the target of a
down plan has an up script.
-/
theorem plans_meet_iff (sorting : Sorting) (path : String → String) (dir : String)
    (entries : List DirEntry) (steps : List Step) (currentVersion target : Nat)
    (scanned : scan sorting path dir (.ok entries) = .ok steps) :
    Meets sorting steps currentVersion target ↔
      Paired (fileVersions .up entries) (fileVersions .down entries) currentVersion target := by
  have ups := versions_of_scan scanned .up
  have downs := versions_of_scan scanned .down
  constructor
  · exact fun meets => (paired_of_meets meets).perm ups downs
  · exact fun paired => meets_of_paired (paired.perm ups.symm downs.symm)

end Scanned

/-! ## A missing down file -/

/-- Insertion by what no sorted pair may break. -/
def insertionBy (less : Step → Step → Bool) (steps : List Step) : List Step :=
  steps.insertionSort fun s t => less t s = false

theorem sorts_insertionBy {less : Step → Step → Bool}
    (total : ∀ s t, less t s = false ∨ less s t = false)
    (transitive : ∀ s t u, less t s = false → less u t = false → less u s = false) :
    Sorts less (insertionBy less) where
  perm := List.perm_insertionSort _
  sorted steps := by
    have isTotal : Std.Total fun s t => less t s = false := ⟨total⟩
    have isTrans : IsTrans Step fun s t => less t s = false := ⟨transitive⟩
    exact List.pairwise_insertionSort _ steps

def insertion : Sorting where
  scanned := insertionBy scanLess
  ascending := insertionBy versionLess
  descending := insertionBy versionGreater
  scan_sorts := sorts_insertionBy
    (fun s t => by
      rcases s with ⟨_, _, direction, _, _⟩
      rcases t with ⟨_, _, other, _, _⟩
      cases direction <;> cases other <;> simp [scanLess] <;> omega)
    (fun s t u => by
      rcases s with ⟨_, _, first, _, _⟩
      rcases t with ⟨_, _, second, _, _⟩
      rcases u with ⟨_, _, third, _, _⟩
      cases first <;> cases second <;> cases third <;> simp [scanLess] <;> omega)
  ascending_sorts := sorts_insertionBy (fun s t => by simp [versionLess]; omega)
    (fun s t u => by simp [versionLess]; omega)
  descending_sorts := sorts_insertionBy (fun s t => by simp [versionGreater]; omega)
    (fun s t u => by simp [versionGreater]; omega)

def upFile : DirEntry := { name := "20240101000000_users.up.sql" }

def downFile : DirEntry := { name := "20240101000000_users.down.sql" }

/-- The version without a down file is not rolled back, and nothing refuses the plan. -/
theorem missing_down_file : ∃ steps plan,
    scan insertion id "migrations" (.ok [upFile]) = .ok steps ∧
      buildPlan insertion steps 20240101000000 .down 0 = .ok plan ∧ plan.steps = [] ∧
      20240101000000 ∈ versions .up steps ∧ ¬ Meets insertion steps 20240101000000 0 := by
  obtain ⟨steps, scanned⟩ := exists_of_isOk (show
    (scan insertion id "migrations" (.ok [upFile])).isOk = true by decide +kernel)
  have ups : versions .up steps = [20240101000000] :=
    List.perm_singleton.mp ((versions_of_scan scanned .up).trans
      (.of_eq (show fileVersions .up [upFile] = [20240101000000] by decide +kernel)))
  have downs : versions .down steps = [] :=
    List.perm_nil.mp ((versions_of_scan scanned .down).trans
      (.of_eq (show fileVersions .down [upFile] = [] by decide +kernel)))
  have unselected : downSteps insertion steps 20240101000000 0 = [] := by
    have none : ((downSteps insertion steps 20240101000000 0).map Step.version).Perm
        ((versions .down steps).filter (InDown 20240101000000 0)) :=
      versions_inRange insertion.descending_sorts
    rw [downs, List.filter_nil] at none
    exact List.map_eq_nil_iff.mp (List.perm_nil.mp none)
  refine ⟨steps, _, scanned, buildPlan_down (Nat.zero_le _), unselected, by simp [ups],
    fun meets => ?_⟩
  have pairs := (paired_of_meets meets).both (Nat.zero_le _) 20240101000000
    ⟨by decide, le_rfl⟩
  rw [ups, downs] at pairs
  exact absurd (pairs.mp (List.mem_singleton.mpr rfl)) List.not_mem_nil

/-- With it, the version is rolled back. -/
theorem users_rolled_back : ∃ steps,
    scan insertion id "migrations" (.ok [upFile, downFile]) = .ok steps ∧
      Meets insertion steps 20240101000000 0 := by
  obtain ⟨steps, scanned⟩ := exists_of_isOk (show
    (scan insertion id "migrations" (.ok [upFile, downFile])).isOk = true by decide +kernel)
  have ups : fileVersions .up [upFile, downFile] = [20240101000000] := by decide +kernel
  have downs : fileVersions .down [upFile, downFile] = [20240101000000] := by decide +kernel
  refine ⟨steps, scanned, (plans_meet_iff insertion id "migrations" [upFile, downFile] steps
    20240101000000 0 scanned).mpr ?_⟩
  rw [ups, downs]
  exact ⟨(List.nodup_singleton _).filter _, fun v inUps _ => inUps, fun _ _ _ => Iff.rfl,
    fun _ => (List.nodup_singleton _).filter _, fun _ _ => .inl rfl⟩

end ErpFinance.Migration.Planner
