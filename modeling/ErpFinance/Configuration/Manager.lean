import ErpFinance.Library.Stateful

/-!
# Configuration

A manager reads a source into its core configuration and into the sections
that modules have registered.  Sections are decoded in place, one after the
other, and validated afterwards; a call that fails leaves what it has written.
The viper instance is kept from call to call, with the file it has read last
and every default that was ever set.
-/

namespace ErpFinance.Configuration

open Library

/-! ## The core configuration -/

structure GenerationConfig where
  outputDir : String := ""
  openAPIOutput : String := ""
  docsOutput : String := ""
  migrationsOutput : String := ""

structure MigrationConfig where
  dir : String := ""
  strategy : String := ""

structure PlatformConfig where
  iam : Bool := false
  tenant : Bool := false
  organization : Bool := false
  audit : Bool := false
  settings : Bool := false
  featureFlags : Bool := false
  notifications : Bool := false
  attachments : Bool := false
  mail : Bool := false
  metadata : Bool := false
  search : Bool := false

structure AppConfig where
  name : String := ""
  port : String := ""

structure Config where
  databaseURL : String := ""
  redisURL : String := ""
  migration : MigrationConfig := {}
  generation : GenerationConfig := {}
  platform : PlatformConfig := {}
  app : AppConfig := {}

inductive ConfigProblem where
  | databaseURL
  | redisURL
  | strategy (name : String)

def Config.validate (c : Config) : List ConfigProblem :=
  (if c.databaseURL = "" then [.databaseURL] else []) ++
    (if c.redisURL = "" then [.redisURL] else []) ++
    if c.migration.strategy ≠ "golang-migrate" then [.strategy c.migration.strategy] else []

/-! ## Paths -/

/-- The elements of a path without empty ones, `.`, and `..` behind another element. -/
def cleanElements (rooted : Bool) : List String → List String → List String
  | done, [] => done.reverse
  | done, element :: rest =>
    if element = "" ∨ element = "." then cleanElements rooted done rest
    else if element = ".." then
      match done with
      | [] => cleanElements rooted (if rooted then [] else [".."]) rest
      | last :: before =>
        cleanElements rooted (if last = ".." then ".." :: done else before) rest
    else cleanElements rooted (element :: done) rest

/-- `filepath.Clean`. -/
def clean (path : String) : String :=
  let rooted := path.toList.head? = some '/'
  let cleaned := "/".intercalate (cleanElements rooted [] (path.splitOn "/"))
  if rooted then "/" ++ cleaned else if cleaned = "" then "." else cleaned

/-- `filepath.Join` of two elements; the second is not empty. -/
def joinPath (dir name : String) : String :=
  if dir = "" then clean name else clean (dir ++ "/" ++ name)

/-! ## The viper instance -/

/-- What reading a configuration file gives. -/
inductive Reading (φ : Type) where
  | missing
  | refused (reason : String)
  | content (config : φ)

/-- The environment and the files at the time of a call. -/
structure World (φ : Type) where
  environment : String → Option String
  files : String → Reading φ

/-- A default: one of the core, or a value given with `WithDefault`. -/
inductive Default (δ : Type) where
  | text (value : String)
  | flag (value : Bool)
  | given (value : δ)

structure Instance (φ δ : Type) where
  envPrefix : String := ""
  automaticEnv : Bool := false
  /-- The variables that are bound to keys. -/
  bound : List (String × String) := []
  /-- The last one that was set comes first. -/
  defaults : List (String × Default δ) := []
  configFile : String := ""
  /-- The content of the file that was read last. -/
  config : Option φ := none

/-- What a validator says of the sections it looks at; nil says nothing. -/
abbrev Validator (ω : Type) := Option (List (String × (String → ω)) → Option String)

structure LoadOptions (δ ω : Type) where
  envPrefix : String := "AWO"
  defaults : List (String × δ) := []
  validators : List (Validator ω) := []

def coreDefaults {δ : Type} : List (String × Default δ) :=
  [("migration.dir", .text "./db/migrations"), ("migration.strategy", .text "golang-migrate"),
    ("generation.output_dir", .text "./generated"),
    ("generation.migrations_output", .text "./db/migrations/"), ("app.name", .text "awo"),
    ("app.port", .text "8080"), ("platform.iam", .flag true), ("platform.tenant", .flag true),
    ("platform.organization", .flag true), ("platform.audit", .flag true),
    ("platform.settings", .flag true), ("platform.feature_flags", .flag true),
    ("platform.notifications", .flag true), ("platform.attachments", .flag true),
    ("platform.mail", .flag true), ("platform.metadata", .flag true),
    ("platform.search", .flag false)]

namespace Instance

variable {φ δ ω : Type}

/-- What `Load` does before it reads; an empty prefix is not taken. -/
def prepare (options : LoadOptions δ ω) (v : Instance φ δ) : Instance φ δ :=
  { v with
    envPrefix := if options.envPrefix = "" then v.envPrefix else options.envPrefix
    automaticEnv := true
    bound := v.bound ++ [("database.url", "DATABASE_URL"), ("redis.url", "REDIS_URL"),
      ("app.port", "PORT"), ("app.name", "APP_NAME")]
    defaults := options.defaults.map (fun entry => (entry.1, .given entry.2)) ++ coreDefaults ++
      v.defaults }

/-- `ReadInConfig`, as far as it changes the instance: only a file that is read is taken. -/
def readInConfig (world : World φ) (v : Instance φ δ) : Instance φ δ :=
  match world.files v.configFile with
  | .content config => { v with config := some config }
  | _ => v

/-- The reading part of `Load`, with the error; a missing file is none. -/
def readFile (world : World φ) (path : String) (v : Instance φ δ) :
    Instance φ δ × Option String :=
  if path = "" then (v, none)
  else
    (({ v with configFile := path } : Instance φ δ).readInConfig world,
      match world.files path with
      | .refused reason => some reason
      | _ => none)

end Instance

/-- What viper takes its values from. -/
structure Source (φ δ : Type) where
  v : Instance φ δ
  environment : String → Option String

/-- The fields of a registered struct. -/
abbrev Section (ω : Type) := String → ω

/-- What viper makes of a source.  Decoding a section overwrites the fields whose keys are in the
source; one that fails has overwritten some of them. -/
structure Viper (σ ω : Type) where
  unmarshal : σ → Except String Config
  isSet : σ → String → Bool
  field : σ → (key field : String) → Option ω
  fails : σ → String → Option String
  written : σ → (key field : String) → Bool

variable {σ ω : Type} (viper : Viper σ ω)

def derivePaths (source : σ) (generation : GenerationConfig) : GenerationConfig where
  outputDir := generation.outputDir
  openAPIOutput :=
    if viper.isSet source "generation.openapi_output" then generation.openAPIOutput
    else joinPath generation.outputDir "openapi.json"
  docsOutput :=
    if viper.isSet source "generation.docs_output" then generation.docsOutput
    else joinPath generation.outputDir "docs" ++ "/"
  migrationsOutput := generation.migrationsOutput

def unmarshalCore (source : σ) : Except String Config :=
  match viper.unmarshal source with
  | .error reason => .error reason
  | .ok cfg => .ok { cfg with generation := derivePaths viper source cfg.generation }

def unmarshalKey (source : σ) (key : String) (target : Section ω) : Section ω × Option String :=
  (fun f =>
    match viper.field source key f with
    | none => target f
    | some v =>
      if viper.fails source key = none ∨ viper.written source key f = true then v
      else target f,
    viper.fails source key)

/-! ## The manager -/

/-- The sections are in the order in which a call visits them. -/
structure Settings (ω : Type) where
  core : Option Config
  sections : List (String × Section ω)

inductive LoadError where
  | read (reason : String)
  | unmarshalCore (reason : String)
  | unmarshalSection (key reason : String)
  | validation (problems : List ConfigProblem) (reasons : List String)

/-- The loop over the sections, up to the first that fails. -/
def unmarshalSections (source : σ) :
    List (String × Section ω) → List (String × Section ω) × Option LoadError
  | [] => ([], none)
  | (key, target) :: rest =>
    match (unmarshalKey viper source key target).2 with
    | some reason => ((key, (unmarshalKey viper source key target).1) :: rest,
        some (.unmarshalSection key reason))
    | none => ((key, (unmarshalKey viper source key target).1) ::
        (unmarshalSections source rest).1, (unmarshalSections source rest).2)

/-- The reasons of the validators that refuse the sections. -/
def refusals (validators : List (Validator ω)) (sections : List (String × Section ω)) :
    List String :=
  validators.reduceOption.filterMap fun validate => validate sections

/-- `Load`, once the source has been read. -/
def loadFrom (validators : List (Validator ω)) (source : σ) :
    Stateful (Settings ω) LoadError Unit := fun m =>
  match unmarshalCore viper source with
  | .error reason => (.error (.unmarshalCore reason), m)
  | .ok cfg =>
    let decoded := unmarshalSections viper source m.sections
    let m := { core := some cfg, sections := decoded.1 }
    match decoded.2 with
    | some err => (.error err, m)
    | none =>
      if cfg.validate = [] ∧ refusals validators m.sections = [] then (.ok ⟨⟩, m)
      else (.error (.validation cfg.validate (refusals validators m.sections)), m)

/-- `reload`; the errors are those for which it returns without a new core. -/
def reloadFrom (source : σ) : Stateful (Settings ω) LoadError Unit := fun m =>
  match unmarshalCore viper source with
  | .error reason => (.error (.unmarshalCore reason), m)
  | .ok cfg =>
    let decoded := unmarshalSections viper source m.sections
    match decoded.2 with
    | some err => (.error err, { m with sections := decoded.1 })
    | none =>
      if cfg.validate = [] then (.ok ⟨⟩, { core := some cfg, sections := decoded.1 })
      else (.error (.validation cfg.validate []), { m with sections := decoded.1 })

structure Manager (φ δ ω : Type) extends Settings ω where
  v : Instance φ δ

section Manager

variable {φ δ : Type} (viper : Viper (Source φ δ) ω) (options : LoadOptions δ ω) (world : World φ)

def Manager.load (path : String) : Stateful (Manager φ δ ω) LoadError Unit := fun m =>
  match (m.v.prepare options).readFile world path with
  | (v, some reason) => (.error (.read reason), { m with v := v })
  | (v, none) =>
    let loaded := loadFrom viper options.validators ⟨v, world.environment⟩ m.toSettings
    (loaded.1, ⟨loaded.2, v⟩)

/-- The watcher reads the file again and has the manager reload, even when it cannot be read. -/
def Manager.reload : Stateful (Manager φ δ ω) LoadError Unit := fun m =>
  let v := m.v.readInConfig world
  let reloaded := reloadFrom viper ⟨v, world.environment⟩ m.toSettings
  (reloaded.1, ⟨reloaded.2, v⟩)

end Manager

/-! ## What a call does to the sections -/

section Decoding

variable {viper}

/-- Nothing that the source would write into the section differs from what it holds. -/
def Keeps (viper : Viper σ ω) (source : σ) (key : String) (target : Section ω) : Prop :=
  ∀ f v, viper.field source key f = some v →
    viper.fails source key = none ∨ viper.written source key f = true → target f = v

/-- The sections up to the first that fails to decode are kept. -/
def Unwritten (viper : Viper σ ω) (source : σ) : List (String × Section ω) → Prop
  | [] => True
  | (key, target) :: rest =>
    Keeps viper source key target ∧
      (viper.fails source key = none → Unwritten viper source rest)

def Decodes (viper : Viper σ ω) (source : σ) (sections : List (String × Section ω)) : Prop :=
  ∀ entry ∈ sections, viper.fails source entry.1 = none

/-- The source over what the section holds. -/
def overlay (viper : Viper σ ω) (source : σ) (entry : String × Section ω) : String × Section ω :=
  (entry.1, fun f => (viper.field source entry.1 f).getD (entry.2 f))

variable {source : σ} {key : String} {target : Section ω} {sections : List (String × Section ω)}

theorem unmarshalKey_eq_iff :
    (unmarshalKey viper source key target).1 = target ↔ Keeps viper source key target := by
  constructor
  · intro same f v present writes
    have at_field := congrFun same f
    simp only [unmarshalKey, present, if_pos writes] at at_field
    exact at_field.symm
  · intro keeps
    funext f
    rcases present : viper.field source key f with _ | v
    · simp only [unmarshalKey, present]
    · by_cases writes : viper.fails source key = none ∨ viper.written source key f = true
      · simp only [unmarshalKey, present, if_pos writes]
        exact (keeps f v present writes).symm
      · simp only [unmarshalKey, present, if_neg writes]

theorem unmarshalKey_of_decodes (decodes : viper.fails source key = none) :
    (key, (unmarshalKey viper source key target).1) = overlay viper source (key, target) := by
  refine Prod.ext rfl (funext fun f => ?_)
  rcases present : viper.field source key f with _ | v
  · simp only [unmarshalKey, overlay, present, Option.getD_none]
  · simp only [unmarshalKey, overlay, present, decodes, true_or, if_true, Option.getD_some]

variable {rest : List (String × Section ω)}

theorem unmarshalSections_cons_of_fails {reason : String}
    (fails : viper.fails source key = some reason) :
    unmarshalSections viper source ((key, target) :: rest) =
      ((key, (unmarshalKey viper source key target).1) :: rest,
        some (.unmarshalSection key reason)) := by
  have outcome : (unmarshalKey viper source key target).2 = some reason := fails
  rw [unmarshalSections, outcome]

theorem unmarshalSections_cons_of_decodes (decodes : viper.fails source key = none) :
    unmarshalSections viper source ((key, target) :: rest) =
      (overlay viper source (key, target) :: (unmarshalSections viper source rest).1,
        (unmarshalSections viper source rest).2) := by
  have outcome : (unmarshalKey viper source key target).2 = none := decodes
  rw [unmarshalSections, outcome, ← unmarshalKey_of_decodes decodes]

theorem decodes_cons :
    Decodes viper source ((key, target) :: rest) ↔
      viper.fails source key = none ∧ Decodes viper source rest :=
  List.forall_mem_cons

/-- The loop leaves the sections alone exactly when it has nothing to change in those it visits. -/
theorem unmarshalSections_eq_iff :
    (unmarshalSections viper source sections).1 = sections ↔
      Unwritten viper source sections := by
  induction sections with
  | nil => exact iff_of_true rfl trivial
  | cons entry rest ih =>
    obtain ⟨key, target⟩ := entry
    rcases outcome : viper.fails source key with _ | reason
    · rw [unmarshalSections_cons_of_decodes outcome, List.cons.injEq, ih, Unwritten,
        ← unmarshalKey_of_decodes outcome, Prod.mk.injEq, unmarshalKey_eq_iff, outcome]
      simp only [true_and, forall_const]
    · rw [unmarshalSections_cons_of_fails outcome, List.cons.injEq, Unwritten, Prod.mk.injEq,
        unmarshalKey_eq_iff, outcome]
      simp only [true_and, and_true, reduceCtorEq, false_implies]

theorem unmarshalSections_of_decodes (decodes : Decodes viper source sections) :
    unmarshalSections viper source sections = (sections.map (overlay viper source), none) := by
  induction sections with
  | nil => rfl
  | cons entry rest ih =>
    obtain ⟨key, target⟩ := entry
    obtain ⟨first, others⟩ := decodes_cons.mp decodes
    rw [unmarshalSections_cons_of_decodes first, ih others]
    rfl

theorem unmarshalSections_fails (fails : ¬ Decodes viper source sections) :
    ∃ err, (unmarshalSections viper source sections).2 = some err := by
  induction sections with
  | nil => exact absurd (fun _ mem => absurd mem List.not_mem_nil) fails
  | cons entry rest ih =>
    obtain ⟨key, target⟩ := entry
    rcases outcome : viper.fails source key with _ | reason
    · rw [unmarshalSections_cons_of_decodes outcome]
      exact ih fun others => fails (decodes_cons.mpr ⟨outcome, others⟩)
    · rw [unmarshalSections_cons_of_fails outcome]
      exact ⟨_, rfl⟩

end Decoding

/-! ## Calls -/

/-- A call of `Load`, or a reload by the watcher. -/
inductive Change where
  | called (path : String)
  | watched

/-- The part of a call that decodes what it has read. -/
def Change.decode (validators : List (Validator ω)) (source : σ) :
    Change → Stateful (Settings ω) LoadError Unit
  | .called _ => loadFrom viper validators source
  | .watched => reloadFrom viper source

/-- The sections decode, and the validators that the call runs accept the outcome. -/
def Change.Passes (validators : List (Validator ω)) (source : σ) (cfg : Config)
    (sections : List (String × Section ω)) : Change → Prop
  | .called _ => Decodes viper source sections ∧ cfg.validate = [] ∧
      refusals validators (sections.map (overlay viper source)) = []
  | .watched => Decodes viper source sections ∧ cfg.validate = []

section Law

variable {φ δ : Type} (viper : Viper (Source φ δ) ω) (initial : String → Section ω)
  (options : LoadOptions δ ω) (world : World φ) (change : Change) (m : Manager φ δ ω)

/-- A reload has the options of the `Load` that has set up the watcher. -/
def Change.run : Stateful (Manager φ δ ω) LoadError Unit :=
  match change with
  | .called path => Manager.load viper options world path
  | .watched => Manager.reload viper world

/-- What a call leaves of the instance, and the error of its reading. -/
def Change.reads (v : Instance φ δ) : Instance φ δ × Option String :=
  match change with
  | .called path => (v.prepare options).readFile world path
  | .watched => (v.readInConfig world, none)

/-- The file of a call. -/
def Change.path (v : Instance φ δ) : String :=
  match change with
  | .called path => path
  | .watched => v.configFile

/-- A manager with the same registrations, a new viper instance and nothing loaded. -/
def Manager.fresh : Manager φ δ ω where
  core := none
  sections := m.sections.map fun entry => (entry.1, initial entry.1)
  v := {}

/-- What a successful call has to leave: the validators given to `Load` accept it, and it is what
the `Load` of a fresh manager reads. -/
structure Established (before after : Manager φ δ ω) : Prop where
  core : ∃ cfg, after.core = some cfg ∧ cfg.validate = []
  sections : refusals options.validators after.sections = []
  fresh : ∃ loaded, Manager.load viper options world (change.path before.v)
    (before.fresh initial) = (.ok ⟨⟩, loaded) ∧ loaded.toSettings = after.toSettings

/-- A call that fails changes no setting, and one that succeeds establishes the source. -/
def Meets : Prop :=
  match change.run viper options world m with
  | (.error _, after) => after.toSettings = m.toSettings
  | (.ok _, after) => Established viper initial options world change m after

/-- A new instance reads the file of the call, decodes the same core, and gives every field over its
initial value what the source of the call gives it over the value it holds. -/
def Rereads (source : Source φ δ) (cfg : Config) : Prop :=
  ∃ v, (Instance.prepare options {}).readFile world (change.path m.v) = (v, none) ∧
    unmarshalCore viper ⟨v, world.environment⟩ = .ok cfg ∧
    Decodes viper ⟨v, world.environment⟩ m.sections ∧
    ∀ entry ∈ m.sections, ∀ f,
      (viper.field ⟨v, world.environment⟩ entry.1 f).getD (initial entry.1 f) =
        (viper.field source entry.1 f).getD (entry.2 f)

/-- When a call passes, a new instance reads the same, and the validators given to `Load` accept the
outcome.  When it does not, the source has nothing new for the sections up to the first that fails
to decode nor, in `Load`, for the core. -/
def Fits : Prop :=
  ∀ v, change.reads options world m.v = (v, none) →
    ∀ cfg, unmarshalCore viper ⟨v, world.environment⟩ = .ok cfg →
      (change.Passes viper options.validators ⟨v, world.environment⟩ cfg m.sections →
        Rereads viper initial options world change m ⟨v, world.environment⟩ cfg ∧
          refusals options.validators
            (m.sections.map (overlay viper ⟨v, world.environment⟩)) = []) ∧
      (¬ change.Passes viper options.validators ⟨v, world.environment⟩ cfg m.sections →
        Unwritten viper ⟨v, world.environment⟩ m.sections ∧
          ∀ path, change = .called path → m.core = some cfg)

end Law

section Decoded

variable {viper} {validators : List (Validator ω)} {change : Change} {source : σ} {cfg : Config}
  {m : Settings ω}

/-! ### The outcomes of a call -/

theorem decode_of_passes (core : unmarshalCore viper source = .ok cfg)
    (passes : change.Passes viper validators source cfg m.sections) :
    change.decode viper validators source m =
      (.ok ⟨⟩, ⟨some cfg, m.sections.map (overlay viper source)⟩) := by
  cases change with
  | called path =>
    obtain ⟨decodes, valid, accepted⟩ := passes
    simp only [Change.decode, loadFrom, core, unmarshalSections_of_decodes decodes, valid, accepted,
      and_self, if_true]
  | watched =>
    obtain ⟨decodes, valid⟩ := passes
    simp only [Change.decode, reloadFrom, core, unmarshalSections_of_decodes decodes, valid,
      if_true]

/-- A call that does not pass fails, and keeps what the loop has written; `Load` keeps the core that
it has decoded as well. -/
theorem decode_of_not_passes (core : unmarshalCore viper source = .ok cfg)
    (refused : ¬ change.Passes viper validators source cfg m.sections) :
    ∃ err, change.decode viper validators source m =
      (.error err, ⟨match change with
        | .called _ => some cfg
        | .watched => m.core, (unmarshalSections viper source m.sections).1⟩) := by
  by_cases decodes : Decodes viper source m.sections
  · have decoded := unmarshalSections_of_decodes decodes
    cases change with
    | called path =>
      have rejected : ¬ (cfg.validate = [] ∧
          refusals validators (m.sections.map (overlay viper source)) = []) :=
        fun accepted => refused ⟨decodes, accepted⟩
      simp only [Change.decode, loadFrom, core, decoded, if_neg rejected]
      exact ⟨_, rfl⟩
    | watched =>
      have rejected : ¬ cfg.validate = [] := fun valid => refused ⟨decodes, valid⟩
      simp only [Change.decode, reloadFrom, core, decoded, if_neg rejected]
      exact ⟨_, rfl⟩
  · obtain ⟨err, fails⟩ := unmarshalSections_fails decodes
    cases change with
    | called path =>
      simp only [Change.decode, loadFrom, core, fails]
      exact ⟨_, rfl⟩
    | watched =>
      simp only [Change.decode, reloadFrom, core, fails]
      exact ⟨_, rfl⟩

/-- A call that cannot decode the core changes nothing. -/
theorem decode_of_undecodable {reason : String}
    (undecodable : unmarshalCore viper source = .error reason) :
    change.decode viper validators source m = (.error (.unmarshalCore reason), m) := by
  cases change with
  | called path => simp only [Change.decode, loadFrom, undecodable]
  | watched => simp only [Change.decode, reloadFrom, undecodable]

theorem loadFrom_eq_ok_iff {after : Settings ω} :
    loadFrom viper validators source m = (.ok ⟨⟩, after) ↔
      ∃ cfg, unmarshalCore viper source = .ok cfg ∧
        (Change.called "").Passes viper validators source cfg m.sections ∧
        ⟨some cfg, m.sections.map (overlay viper source)⟩ = after := by
  have decodes : loadFrom viper validators source m =
      (Change.called "").decode viper validators source m := rfl
  rw [decodes]
  rcases core : unmarshalCore viper source with reason | cfg
  · rw [decode_of_undecodable core]
    simp only [Prod.mk.injEq, reduceCtorEq, false_and, exists_false]
  · by_cases passes : (Change.called "").Passes viper validators source cfg m.sections
    · rw [decode_of_passes core passes]
      simp only [Prod.mk.injEq, true_and, Except.ok.injEq, exists_eq_left', passes]
    · obtain ⟨err, fails⟩ := decode_of_not_passes core passes
      rw [fails]
      simp only [Prod.mk.injEq, reduceCtorEq, false_and, Except.ok.injEq, exists_eq_left', passes]

end Decoded

section Calls

variable {φ δ : Type} {viper : Viper (Source φ δ) ω} {initial : String → Section ω}
  {options : LoadOptions δ ω} {world : World φ} {change : Change} {m : Manager φ δ ω}
  {v : Instance φ δ} {cfg : Config} {source : Source φ δ}

theorem run_of_refused {reason : String}
    (reads : change.reads options world m.v = (v, some reason)) :
    change.run viper options world m = (.error (.read reason), { m with v := v }) := by
  cases change with
  | called path =>
    have read : (m.v.prepare options).readFile world path = (v, some reason) := reads
    simp only [Change.run, Manager.load, read]
  | watched => cases (Prod.mk.inj reads).2

theorem run_of_read (reads : change.reads options world m.v = (v, none)) :
    change.run viper options world m =
      ((change.decode viper options.validators ⟨v, world.environment⟩ m.toSettings).1,
        ⟨(change.decode viper options.validators ⟨v, world.environment⟩ m.toSettings).2, v⟩) := by
  cases change with
  | called path =>
    have read : (m.v.prepare options).readFile world path = (v, none) := reads
    simp only [Change.run, Manager.load, read, Change.decode]
  | watched =>
    obtain rfl := (Prod.mk.inj reads).1
    rfl

/-! ### What a fresh manager reads -/

theorem overlay_fresh {other : Source φ δ} :
    (m.fresh initial).sections.map (overlay viper other) =
        m.sections.map (overlay viper source) ↔
      ∀ entry ∈ m.sections, ∀ f, (viper.field other entry.1 f).getD (initial entry.1 f) =
        (viper.field source entry.1 f).getD (entry.2 f) := by
  rw [Manager.fresh, List.map_map, List.map_inj_left]
  refine forall₂_congr fun entry _ => ?_
  constructor
  · intro same f
    exact congrFun (congrArg Prod.snd same) f
  · intro same
    exact Prod.ext rfl (funext same)

/-- A fresh manager comes to the settings of a call that the validators accept exactly when it
rereads them. -/
theorem fresh_iff (valid : cfg.validate = [])
    (accepted : refusals options.validators (m.sections.map (overlay viper source)) = []) :
    (∃ loaded, Manager.load viper options world (change.path m.v) (m.fresh initial) =
        (.ok ⟨⟩, loaded) ∧
      loaded.toSettings = ⟨some cfg, m.sections.map (overlay viper source)⟩) ↔
    Rereads viper initial options world change m source cfg := by
  have decodes_fresh (other : Source φ δ) : Decodes viper other (m.fresh initial).sections ↔
      Decodes viper other m.sections := by
    simp only [Decodes, Manager.fresh, List.forall_mem_map]
  constructor
  · rintro ⟨loaded, loads, same⟩
    unfold Manager.load at loads
    rcases reads : (Instance.prepare options (m.fresh initial).v).readFile world
      (change.path m.v) with ⟨v, error⟩
    rw [reads] at loads
    cases error with
    | some reason => cases (Prod.mk.inj loads).1
    | none =>
      obtain ⟨succeeds, rfl⟩ := Prod.mk.inj loads
      obtain ⟨other, core, ⟨decodes, -⟩, left⟩ := loadFrom_eq_ok_iff.mp (Prod.ext succeeds same)
      obtain ⟨isCore, isSections⟩ := (Settings.mk.injEq _ _ _ _).mp left
      obtain rfl := Option.some.inj isCore
      exact ⟨v, reads, core, (decodes_fresh _).mp decodes, overlay_fresh.mp isSections⟩
  · rintro ⟨v, reads, core, decodes, fields⟩
    have sections := overlay_fresh.mpr fields
    have passes : (Change.called "").Passes viper options.validators ⟨v, world.environment⟩ cfg
        (m.fresh initial).sections := by
      refine ⟨(decodes_fresh _).mpr decodes, valid, ?_⟩
      rw [sections]
      exact accepted
    have loads := loadFrom_eq_ok_iff.mpr ⟨cfg, core, passes, rfl⟩
    refine ⟨⟨⟨some cfg, (m.fresh initial).sections.map
      (overlay viper ⟨v, world.environment⟩)⟩, v⟩, ?_, congrArg (Settings.mk (some cfg)) sections⟩
    unfold Manager.load
    rw [show (m.fresh initial).v = {} from rfl, reads]
    dsimp only
    rw [loads]

/-! ### When a call keeps what it promises -/

theorem meets_iff_of_passes (reads : change.reads options world m.v = (v, none))
    (core : unmarshalCore viper ⟨v, world.environment⟩ = .ok cfg)
    (passes : change.Passes viper options.validators ⟨v, world.environment⟩ cfg m.sections) :
    Meets viper initial options world change m ↔
      Rereads viper initial options world change m ⟨v, world.environment⟩ cfg ∧
        refusals options.validators
          (m.sections.map (overlay viper ⟨v, world.environment⟩)) = [] := by
  have valid : cfg.validate = [] := by
    cases change with
    | called path => exact passes.2.1
    | watched => exact passes.2
  simp only [Meets, run_of_read reads, decode_of_passes core passes]
  constructor
  · rintro ⟨-, accepted, fresh⟩
    exact ⟨(fresh_iff valid accepted).mp fresh, accepted⟩
  · rintro ⟨rereads, accepted⟩
    exact ⟨⟨cfg, rfl, valid⟩, accepted, (fresh_iff valid accepted).mpr rereads⟩

theorem meets_iff_of_not_passes (reads : change.reads options world m.v = (v, none))
    (core : unmarshalCore viper ⟨v, world.environment⟩ = .ok cfg)
    (refused : ¬ change.Passes viper options.validators ⟨v, world.environment⟩ cfg m.sections) :
    Meets viper initial options world change m ↔
      Unwritten viper ⟨v, world.environment⟩ m.sections ∧
        ∀ path, change = .called path → m.core = some cfg := by
  obtain ⟨err, fails⟩ := decode_of_not_passes core refused
  obtain ⟨⟨before, sections⟩, instance_⟩ := m
  simp only [Meets, run_of_read reads, fails, Settings.mk.injEq, unmarshalSections_eq_iff]
  rw [and_comm]
  refine and_congr_right fun _ => ?_
  cases change with
  | called path =>
    exact ⟨fun same _ _ => same.symm, fun same => (same path rfl).symm⟩
  | watched => simp only [reduceCtorEq, false_implies, implies_true]

end Calls

/-- A call of `Load` or a reload leaves the manager as it promises exactly when it fits. -/
theorem meets_iff_fits {φ δ : Type} (viper : Viper (Source φ δ) ω) (initial : String → Section ω)
    (options : LoadOptions δ ω) (world : World φ) (change : Change) (m : Manager φ δ ω) :
    Meets viper initial options world change m ↔ Fits viper initial options world change m := by
  rcases reads : change.reads options world m.v with ⟨v, error⟩
  cases error with
  | some reason =>
    refine iff_of_true ?_ fun other read => ?_
    · simp only [Meets, run_of_refused reads]
    · cases (Prod.mk.inj (reads.symm.trans read)).2
  | none =>
    rcases core : unmarshalCore viper ⟨v, world.environment⟩ with reason | cfg
    · refine iff_of_true ?_ fun other read cfg decoded => ?_
      · simp only [Meets, run_of_read reads, decode_of_undecodable core]
      · obtain rfl := (Prod.mk.inj (reads.symm.trans read)).1
        cases core.symm.trans decoded
    · have here : Fits viper initial options world change m ↔ _ :=
        ⟨fun fits => fits v reads cfg core, fun holds other read other_cfg decoded => by
          obtain rfl := (Prod.mk.inj (reads.symm.trans read)).1
          cases core.symm.trans decoded
          exact holds⟩
      rw [here]
      by_cases passes : change.Passes viper options.validators ⟨v, world.environment⟩ cfg m.sections
      · rw [meets_iff_of_passes reads core passes]
        exact ⟨fun holds => ⟨fun _ => holds, fun refused => absurd passes refused⟩,
          fun holds => holds.1 passes⟩
      · rw [meets_iff_of_not_passes reads core passes]
        exact ⟨fun holds => ⟨fun accepted => absurd accepted passes, fun _ => holds⟩,
          fun holds => holds.2 passes⟩

def localConfig : Config where
  databaseURL := "postgres://localhost/erp"
  redisURL := "redis://localhost"
  migration := { dir := "./db/migrations", strategy := "golang-migrate" }

/-- A file of numbers by section and field. -/
abbrev Numbers := List (String × String × Option Nat)

/-- Settings of numbers; one that is not a number fails its section, after the others are set. -/
def numbers : Viper (Source Numbers Nat) Nat where
  unmarshal _ := .ok localConfig
  isSet _ _ := true
  field source key f :=
    ((source.v.config.getD []).find? fun entry => entry.1 = key ∧ entry.2.1 = f).bind
      fun entry => entry.2.2
  fails source key :=
    if (source.v.config.getD []).any fun entry => entry.1 = key ∧ entry.2.2 = none then
      some "expected a number"
    else none
  written _ _ _ := true

/-- A directory in which there is one configuration file. -/
def directory (content : Numbers) : World Numbers where
  environment _ := none
  files path := if path = "awo.yaml" then .content content else .missing

def running : Manager Numbers Nat Nat where
  core := some localConfig
  sections :=
    [("billing", fun f => if f = "rate" then 3 else 0), ("mail", fun _ => 0)]
  v := { configFile := "awo.yaml", config := some [("billing", "rate", some 3)] }

/-- The rate that the sections of a manager have. -/
def rates (m : Settings Nat) : List Nat := m.sections.map fun entry => entry.2 "rate"

/-- A bad edit of one section changes the section before it; a field whose key is removed keeps its
value through the next load; and so does the whole file when no file is named any more. -/
theorem edited_changed :
    ¬ Meets numbers (fun _ _ => 0) {}
        (directory [("billing", "rate", some 5), ("mail", "port", none)]) .watched running ∧
      ¬ Meets numbers (fun _ _ => 0) {} (directory [("mail", "port", some 25)])
        (.called "awo.yaml") running ∧
      ¬ Meets numbers (fun _ _ => 0) {} (directory []) (.called "") running := by
  refine ⟨fun holds => ?_, fun holds => ?_, fun holds => ?_⟩
  · have rate := congrArg rates holds
    revert rate
    decide
  all_goals
    obtain ⟨loaded, loads, same⟩ := holds.fresh
    have rate := (congrArg (fun result => rates result.2.toSettings) loads).trans
      (congrArg rates same)
    revert rate
    decide

end ErpFinance.Configuration
