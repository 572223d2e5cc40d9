import ErpFinance.Sdui.Engine

/-!
# Cached pages

When the pages of an engine with a cache are those of an engine without one:
when no two requests share their key that differ in anything that generator or
renderer read.
-/

namespace ErpFinance.Sdui

open Library

variable {Node Layout Output Text : Type}

/-! ## What a key tells apart -/

/-- The dimensions of a key are the same for two visits and their renderers. -/
structure SameDimensions (r s : RendererInfo) (v w : Visit) : Prop where
  entityName : safeComponent v.entityName = safeComponent w.entityName
  viewMode : safeComponent v.viewMode = safeComponent w.viewMode
  rendererID : safeComponent r.id = safeComponent s.id
  rendererVersion : safeComponent r.version = safeComponent s.version
  locale : safeComponent (if v.locale = "" then "en-US" else v.locale) =
    safeComponent (if w.locale = "" then "en-US" else w.locale)
  tenant : v.tenantID = w.tenantID
  schema : schemaText v.entity = schemaText w.entity
  roles : SameRoles v.viewer w.viewer

theorem rolesFingerprint_colon (digest : Digest) (viewer : Viewer) :
    ':' ∉ (rolesFingerprint digest viewer).toList := by
  unfold rolesFingerprint
  split
  · decide
  · split
    · decide
    · exact digest.colon_notMem _

theorem keyBase_clean (setup : Setup Node Output Text) (r : RendererInfo) (v : Visit)
    {level : String} (levelFree : ':' ∉ level.toList) :
    KeyParams.Clean { setup.keyBase r (v.request setup.fingerprints) with level := level } := by
  simp only [KeyParams.Clean, List.forall_mem_cons]
  exact ⟨levelFree, setup.tenants.colon_notMem _, setup.fingerprints.colon_notMem _,
    rolesFingerprint_colon _ _, List.not_mem_nil, List.forall_mem_nil _⟩

theorem cacheKey_eq_iff (setup : Setup Node Output Text) {r s : RendererInfo} {v w : Visit}
    {level other : String} (levelFree : ':' ∉ level.toList) (otherFree : ':' ∉ other.toList) :
    cacheKey (setup.keyBase r (v.request setup.fingerprints)) level =
        cacheKey (setup.keyBase s (w.request setup.fingerprints)) other ↔
      level = other ∧ SameDimensions r s v w := by
  rw [cacheKey, cacheKey, key_eq_iff (keyBase_clean setup r v levelFree)
    (keyBase_clean setup s w otherFree)]
  have tenants : setup.tenants.sum v.tenantID = setup.tenants.sum w.tenantID ↔
      v.tenantID = w.tenantID := setup.tenants.injective.eq_iff
  have schemas := schemaFingerprint_eq_iff setup.fingerprints v.entity w.entity
  have roles := rolesFingerprint_eq_iff setup.fingerprints v.viewer w.viewer
  simp only [KeyParams.parts, Setup.keyBase, Visit.request, GeneratorContext.effectiveLocale,
    List.cons.injEq, true_and, and_true, tenants, schemas, roles]
  constructor
  · rintro ⟨sameLevel, entityName, viewMode, id, version, locale, tenant, schema, sameRoles⟩
    exact ⟨sameLevel, entityName, viewMode, id, version, locale, tenant, schema, sameRoles⟩
  · rintro ⟨sameLevel, same⟩
    exact ⟨sameLevel, same.entityName, same.viewMode, same.rendererID, same.rendererVersion,
      same.locale, same.tenant, same.schema, same.roles⟩

/-- The key sees neither the policy, nor the dashboards, nor what the renderer is asked for. -/
theorem sameDimensions_unseen (r : RendererInfo) (v : Visit) (dashboards : List DashboardDef)
    (evaluator : Option CanPerform) (readOnly : Bool) (rendererCtx : RendererContext) :
    SameDimensions r r v { v with
      dashboards := dashboards
      evaluator := evaluator
      readOnly := readOnly
      rendererCtx := rendererCtx } :=
  ⟨rfl, rfl, rfl, rfl, rfl, rfl, rfl, rfl, fun _ => rfl⟩

/-! ## Requests that determine their page -/

/-- Two visits agree on everything that generator and renderer read. -/
structure SameInputs (setup : Setup Node Output Text) (v w : Visit) : Prop where
  rendID : setup.rendID (v.request setup.fingerprints) =
    setup.rendID (w.request setup.fingerprints)
  schema : fromCompiled v.dashboards v.entity = fromCompiled w.dashboards w.entity
  ctx : (v.request setup.fingerprints).ctx = (w.request setup.fingerprints).ctx
  rendererCtx : v.rendererCtx = w.rendererCtx

def rendererOf (setup : Setup Node Output Text) (v : Visit) : Option RendererInfo :=
  setup.renderers (setup.rendID (v.request setup.fingerprints))

/-- Visits whose keys have the same dimensions agree on what their pages are made from. -/
def KeysDetermine (setup : Setup Node Output Text) (Wanted : Visit → Prop) : Prop :=
  ∀ v w r s, Wanted v → Wanted w → rendererOf setup v = some r → rendererOf setup w = some s →
    SameDimensions r s v w → SameInputs setup v w

/-- The stages make no difference between a tree and what JSON makes of it, and JSON keeps
every page. -/
structure Stages.Survive (stages : Stages Node Layout Output)
    (setup : Setup Node Output Text) : Prop where
  tree : ∀ {schema ctx root text read}, stages.generate schema ctx = .ok root →
    setup.trees.marshal root = some text → setup.trees.unmarshal text = some read →
    ∀ ctx rendID rendererCtx, (stages.finish ctx rendID rendererCtx read).map Prod.snd =
      (stages.finish ctx rendID rendererCtx root).map Prod.snd
  output : ∀ {rendID root rendererCtx out text read},
    stages.render rendID root rendererCtx = .ok out →
    setup.outputs.marshal out = some text → setup.outputs.unmarshal text = some read → read = out

/-- A widget tree: the typed fields of its nodes, and what their `Expr` and `Props` hold, which is
a text or a value of another Go type. -/
structure WidgetTree (Typed Other : Type) where
  typed : Typed
  values : List (String ⊕ Other)

/-- What JSON gives back: the typed fields, and every text; another value may change its type. -/
structure WidgetTree.Reads {Typed Other : Type} (tree read : WidgetTree Typed Other) : Prop where
  typed : read.typed = tree.typed
  values : List.Forall₂ (fun value back => ∀ text, value = .inl text → back = .inl text)
    tree.values read.values

theorem WidgetTree.Reads.eq {Typed Other : Type} {tree read : WidgetTree Typed Other}
    (reads : tree.Reads read) (texts : ∀ value ∈ tree.values, value.isLeft = true) :
    read = tree := by
  obtain ⟨typed, values⟩ := tree
  obtain ⟨typed', values'⟩ := read
  obtain ⟨rfl, backs⟩ := reads
  congr 1
  simp only at backs texts
  induction backs with
  | nil => rfl
  | cons first _ ih =>
    rw [List.forall_mem_cons] at texts
    obtain ⟨text, rfl⟩ := Sum.isLeft_iff.mp texts.1
    rw [first text rfl, ih texts.2]

/-- A generator that puts only texts into `Expr` and `Props` makes trees that survive. -/
theorem Stages.survive_of_texts {Typed Other : Type}
    {setup : Setup (WidgetTree Typed Other) Output Text}
    {stages : Stages (WidgetTree Typed Other) Layout Output}
    (generates : ∀ schema ctx root, stages.generate schema ctx = .ok root →
      ∀ value ∈ root.values, value.isLeft = true)
    (trees : ∀ root text read, setup.trees.marshal root = some text →
      setup.trees.unmarshal text = some read → root.Reads read)
    (outputs : ∀ out text read, setup.outputs.marshal out = some text →
      setup.outputs.unmarshal text = some read → read = out) : stages.Survive setup where
  tree := by
    intro schema ctx root text read made written back _ _ _
    rw [(trees root text read written back).eq (generates schema ctx root made)]
  output _ := outputs _ _ _

section Serving

variable (setup : Setup Node Output Text) (stages : Stages Node Layout Output)

def pageKey (r : RendererInfo) (v : Visit) : String :=
  cacheKey (setup.keyBase r (v.request setup.fingerprints)) "l3"

def treeKey (r : RendererInfo) (v : Visit) : String :=
  cacheKey (setup.keyBase r (v.request setup.fingerprints)) "l2"

/-- The page of a visit without a cache. -/
def fresh (v : Visit) : Except String Output :=
  (handle setup stages none {} (v.request setup.fingerprints)).1.map (·.output)

def generated (v : Visit) : Except String Node :=
  stages.generate (fromCompiled v.dashboards v.entity) (v.request setup.fingerprints).ctx

/-- The page that is made of a tree. -/
def finished (v : Visit) (root : Node) : Except String (Layout × Output) :=
  stages.finish (v.request setup.fingerprints).ctx
    (setup.rendID (v.request setup.fingerprints)) v.rendererCtx root

/-- The page that is made of the generated tree. -/
def built (v : Visit) : Except String Output :=
  match generated setup stages v with
  | .error err => .error ("sdui/engine: generation: " ++ err)
  | .ok root => (finished setup stages v root).map Prod.snd

variable {setup} {stages} {v w : Visit} {r s : RendererInfo} {faults : Faults}

theorem built_of_error {err : String} (failed : generated setup stages v = .error err) :
    built setup stages v = .error ("sdui/engine: generation: " ++ err) := by
  rw [built, failed]

theorem built_of_tree {root : Node} (made : generated setup stages v = .ok root) :
    built setup stages v = (finished setup stages v root).map Prod.snd := by
  rw [built, made]

theorem finish_ok {ctx : GeneratorContext} {rendID : String} {rendererCtx : RendererContext}
    {root : Node} {page : Layout × Output}
    (done : stages.finish ctx rendID rendererCtx root = .ok page) :
    stages.render rendID root rendererCtx = .ok page.2 := by
  unfold Stages.finish at done
  split at done
  · cases done
  · split at done
    · cases done
    · split at done
      · cases done
      · next rendered =>
          cases done
          exact rendered

/-- Without a cache a page is built, whatever the calls to Redis do. -/
theorem handle_none (served : rendererOf setup v = some r) :
    let answer := handle setup stages none faults (v.request setup.fingerprints)
    answer.2 = none ∧ answer.1.map (·.output) = built setup stages v := by
  intro answer
  cases made : generated setup stages v with
  | error err =>
    have failed : widgetTree setup stages none faults (v.request setup.fingerprints)
        (treeKey setup r v) = (.error ("sdui/engine: generation: " ++ err), none) :=
      widgetTree_error Cached.lookup_none made
    have answered : answer = (.error ("sdui/engine: generation: " ++ err), none) :=
      handle_noTree served Cached.lookup_none failed
    rw [answered, built_of_error made]
    exact ⟨rfl, rfl⟩
  | ok root =>
    have tree : widgetTree setup stages none faults (v.request setup.fingerprints)
        (treeKey setup r v) = (.ok root, none) := widgetTree_new Cached.lookup_none made
    rw [built_of_tree made]
    cases done : finished setup stages v root with
    | error err =>
      have answered : answer = (.error err, none) :=
        handle_unfinished served Cached.lookup_none tree done
      rw [answered]
      exact ⟨rfl, rfl⟩
    | ok page =>
      have answered : answer =
          (.ok { output := page.2, layout := some page.1, cacheHit := false }, none) :=
        handle_finished served Cached.lookup_none tree done
      rw [answered]
      exact ⟨rfl, rfl⟩

theorem fresh_eq (served : rendererOf setup v = some r) :
    fresh setup stages v = built setup stages v := (handle_none served).2

/-- Visits that agree on what is read have the same tree. -/
theorem SameInputs.generated_eq (same : SameInputs setup v w) :
    generated setup stages v = generated setup stages w := by
  rw [generated, generated, same.schema, same.ctx]

/-- Visits that agree on what is read have the same page. -/
theorem SameInputs.built_eq (same : SameInputs setup v w) :
    built setup stages v = built setup stages w := by
  have finishes : finished setup stages v = finished setup stages w := by
    funext root
    rw [finished, finished, same.ctx, same.rendID, same.rendererCtx]
  rw [built, built, same.generated_eq, finishes]

theorem built_ok {out : Output} (made : built setup stages v = .ok out) :
    ∃ root page, generated setup stages v = .ok root ∧ finished setup stages v root = .ok page ∧
      out = page.2 := by
  cases tree : generated setup stages v with
  | error err =>
    rw [built_of_error tree] at made
    cases made
  | ok root =>
    rw [built_of_tree tree] at made
    cases done : finished setup stages v root with
    | error err =>
      rw [done] at made
      cases made
    | ok page =>
      rw [done] at made
      cases made
      exact ⟨root, page, rfl, done, rfl⟩

/-! ## What the cache holds -/

variable (setup) (stages) in
/-- The entries that the requests of a run leave: pages under the keys of pages, trees under the
keys of trees. -/
inductive Written (Wanted : Visit → Prop) : String → Text → Prop where
  | page {v r out text} (wanted : Wanted v) (served : rendererOf setup v = some r)
      (made : built setup stages v = .ok out) (written : setup.outputs.marshal out = some text) :
      Written Wanted (pageKey setup r v) text
  | tree {v r root text} (wanted : Wanted v) (served : rendererOf setup v = some r)
      (made : generated setup stages v = .ok root)
      (written : setup.trees.marshal root = some text) :
      Written Wanted (treeKey setup r v) text

variable {Wanted : Visit → Prop} {text : Text} {key : String}

theorem Written.at_page (entry : Written setup stages Wanted key text)
    (here : key = pageKey setup r v) :
    ∃ w s out, Wanted w ∧ rendererOf setup w = some s ∧ SameDimensions s r w v ∧
      built setup stages w = .ok out ∧ setup.outputs.marshal out = some text := by
  cases entry with
  | page wanted served made written =>
    obtain ⟨-, same⟩ := (cacheKey_eq_iff setup (by decide) (by decide)).mp here
    exact ⟨_, _, _, wanted, served, same, made, written⟩
  | tree wanted served made written =>
    obtain ⟨level, -⟩ := (cacheKey_eq_iff setup (by decide) (by decide)).mp here
    exact absurd level (by decide)

theorem Written.at_tree (entry : Written setup stages Wanted key text)
    (here : key = treeKey setup r v) :
    ∃ w s root, Wanted w ∧ rendererOf setup w = some s ∧ SameDimensions s r w v ∧
      generated setup stages w = .ok root ∧ setup.trees.marshal root = some text := by
  cases entry with
  | page wanted served made written =>
    obtain ⟨level, -⟩ := (cacheKey_eq_iff setup (by decide) (by decide)).mp here
    exact absurd level (by decide)
  | tree wanted served made written =>
    obtain ⟨-, same⟩ := (cacheKey_eq_iff setup (by decide) (by decide)).mp here
    exact ⟨_, _, _, wanted, served, same, made, written⟩

/-! ## One request -/

variable {cache : Cached String Text}

/-- The page that is made of what `widgetTree` returns. -/
def pageOf (v : Visit) (setup : Setup Node Output Text) (stages : Stages Node Layout Output) :
    Except String Node → Except String Output
  | .error err => .error err
  | .ok root => (finished setup stages v root).map Prod.snd

section Determined

variable (determined : KeysDetermine setup Wanted) (survive : stages.Survive setup)
  (keeps : cache.Keeps (Written setup stages Wanted)) (wanted : Wanted v)

include determined survive keeps wanted

/-- The tree of a visit is as good as the one that is generated for it. -/
theorem widgetTree_spec (served : rendererOf setup v = some r) :
    let answer := widgetTree setup stages cache faults (v.request setup.fingerprints)
      (treeKey setup r v)
    answer.2.Keeps (Written setup stages Wanted) ∧
      pageOf v setup stages answer.1 = built setup stages v := by
  intro answer
  cases found : cache.lookup setup.trees faults.l2Get (treeKey setup r v) with
  | some read =>
    obtain ⟨text, entry, unmarshalled⟩ := keeps.of_lookup found
    obtain ⟨w, s, root, wantedW, servedW, same, made, written⟩ := entry.at_tree rfl
    have inputs := determined w v s r wantedW wanted servedW served same
    have own : generated setup stages v = .ok root := inputs.generated_eq.symm.trans made
    have hit : answer = (.ok read, cache) := widgetTree_hit found
    rw [hit, built_of_tree own]
    exact ⟨keeps, survive.tree own written unmarshalled _ _ _⟩
  | none =>
    cases made : generated setup stages v with
    | error err =>
      have failed : answer = (.error ("sdui/engine: generation: " ++ err), cache) :=
        widgetTree_error found made
      rw [failed, built_of_error made]
      exact ⟨keeps, rfl⟩
    | ok root =>
      have stored : answer = (.ok root, cache.store setup.trees faults.l2Set
          (treeKey setup r v) root) := widgetTree_new found made
      rw [stored, built_of_tree made]
      exact ⟨keeps.store fun text written => .tree wanted served made written, rfl⟩

theorem handle_spec :
    let answer := handle setup stages cache faults (v.request setup.fingerprints)
    answer.2.Keeps (Written setup stages Wanted) ∧
      answer.1.map (·.output) = fresh setup stages v := by
  intro answer
  cases served : rendererOf setup v with
  | none =>
    have answered : answer = (.error _, cache) := handle_unknown served
    have uncached : handle setup stages none {} (v.request setup.fingerprints) =
      (.error _, none) := handle_unknown served
    rw [answered, fresh, uncached]
    exact ⟨keeps, rfl⟩
  | some r =>
    rw [fresh_eq served]
    cases found : cache.lookup setup.outputs faults.l3Get (pageKey setup r v) with
    | some read =>
      obtain ⟨text, entry, unmarshalled⟩ := keeps.of_lookup found
      obtain ⟨w, s, out, wantedW, servedW, same, made, written⟩ := entry.at_page rfl
      have inputs := determined w v s r wantedW wanted servedW served same
      obtain ⟨_, page, -, done, rfl⟩ := built_ok made
      have unchanged : read = page.2 := survive.output (finish_ok done) written unmarshalled
      have hit : answer = (.ok { output := read, layout := none, cacheHit := true }, cache) :=
        handle_hit served found
      rw [hit, ← inputs.built_eq, made, unchanged]
      exact ⟨keeps, rfl⟩
    | none =>
      have tree : (widgetTree setup stages cache faults (v.request setup.fingerprints)
            (treeKey setup r v)).2.Keeps (Written setup stages Wanted) ∧
          pageOf v setup stages (widgetTree setup stages cache faults
            (v.request setup.fingerprints) (treeKey setup r v)).1 = built setup stages v :=
        widgetTree_spec determined survive keeps wanted served
      cases answered : widgetTree setup stages cache faults (v.request setup.fingerprints)
          (treeKey setup r v) with
      | mk first next =>
        rw [answered] at tree
        obtain ⟨kept, page⟩ := tree
        cases first with
        | error err =>
          have failed : answer = (.error err, next) := handle_noTree served found answered
          rw [failed]
          exact ⟨kept, page⟩
        | ok root =>
          cases done : finished setup stages v root with
          | error err =>
            have failed : answer = (.error err, next) :=
              handle_unfinished served found answered done
            rw [failed, ← page, pageOf, done]
            exact ⟨kept, rfl⟩
          | ok pair =>
            have made : built setup stages v = .ok pair.2 := by
              rw [← page, pageOf, done]
              rfl
            have rendered : answer =
                (.ok { output := pair.2, layout := some pair.1, cacheHit := false },
                  next.store setup.outputs faults.l3Set (pageKey setup r v) pair.2) :=
              handle_finished served found answered done
            rw [rendered, made]
            exact ⟨kept.store fun text written => .page wanted served made written,
              rfl⟩

end Determined

/-! ## A run -/

/-- Whatever the calls to an absent cache do, the page is the fresh one. -/
theorem handle_uncached :
    let answer := handle setup stages none faults (v.request setup.fingerprints)
    answer.2 = none ∧ answer.1.map (·.output) = fresh setup stages v := by
  intro answer
  cases served : rendererOf setup v with
  | none =>
    have answered : answer = (.error _, none) := handle_unknown served
    have uncached : handle setup stages none {} (v.request setup.fingerprints) =
      (.error _, none) := handle_unknown served
    rw [answered, fresh, uncached]
    exact ⟨rfl, rfl⟩
  | some r =>
    rw [fresh_eq served]
    exact handle_none served

variable {steps : List Step}

/-- Without a cache every page of a run is the fresh one. -/
theorem pages_uncached_visit :
    pages setup stages none (.visit v faults :: steps) =
      fresh setup stages v :: pages setup stages none steps := by
  have uncached : (handle setup stages none faults (v.request setup.fingerprints)).2 = none ∧
      (handle setup stages none faults (v.request setup.fingerprints)).1.map (·.output) =
        fresh setup stages v := handle_uncached
  rw [pages, uncached.1, uncached.2]

theorem pages_eq (determined : KeysDetermine setup Wanted) (survive : stages.Survive setup)
    (keeps : cache.Keeps (Written setup stages Wanted))
    (wanted : ∀ v faults, Step.visit v faults ∈ steps → Wanted v) :
    pages setup stages cache steps = pages setup stages none steps := by
  induction steps generalizing cache with
  | nil => rfl
  | cons step rest ih =>
    have later : ∀ v faults, Step.visit v faults ∈ rest → Wanted v := fun v faults inRest =>
      wanted v faults (List.mem_cons_of_mem _ inRest)
    cases step with
    | lose key =>
      rw [pages, pages, Cached.lose_none]
      exact ih keeps.lose later
    | visit v faults =>
      obtain ⟨kept, page⟩ : (handle setup stages cache faults
            (v.request setup.fingerprints)).2.Keeps (Written setup stages Wanted) ∧
          (handle setup stages cache faults (v.request setup.fingerprints)).1.map (·.output) =
            fresh setup stages v :=
        handle_spec determined survive keeps (wanted v faults List.mem_cons_self)
      rw [pages_uncached_visit, pages, page, ih kept later]

theorem pages_same (served : rendererOf setup v = some r) (other : rendererOf setup w = some s)
    (same : SameDimensions r s v w) {out : Output} (made : built setup stages v = .ok out)
    (written : setup.outputs.marshal out = some text)
    (read : setup.outputs.unmarshal text = some out) :
    pages setup stages .empty [.visit v {}, .visit w {}] = [.ok out, .ok out] := by
  have sameKey : pageKey setup s w = pageKey setup r v :=
    ((cacheKey_eq_iff setup (by decide) (by decide)).mpr ⟨rfl, same⟩).symm
  obtain ⟨root, page, tree, done, rfl⟩ := built_ok made
  let trees := Cached.empty.store setup.trees false (treeKey setup r v) root
  let full := trees.store setup.outputs false (pageKey setup r v) page.2
  have first : handle setup stages .empty {} (v.request setup.fingerprints) =
      (.ok { output := page.2, layout := some page.1, cacheHit := false }, full) :=
    handle_finished served Cached.lookup_empty (widgetTree_new Cached.lookup_empty tree)
      done
  have found : full.lookup setup.outputs false (pageKey setup s w) = some page.2 := by
    rw [sameKey]
    exact Cached.lookup_store (Cached.isSome_store.trans rfl) written read
  have second : handle setup stages full {} (w.request setup.fingerprints) =
      (.ok { output := page.2, layout := none, cacheHit := true }, full) :=
    handle_hit other found
  rw [pages, first, pages, second]
  rfl

end Serving

/-! ## Engines that tell requests apart -/

open Classical in
noncomputable def onlyFor [Inhabited Node] [Inhabited Layout] (setup : Setup Node Output Text)
    (v : Visit) (out : Output) : Stages Node Layout Output where
  generate schema ctx :=
    if schema = fromCompiled v.dashboards v.entity ∧ ctx = (v.request setup.fingerprints).ctx then
      .ok default
    else .error "another tree"
  validate _ _ := []
  compute _ := .ok default
  render rendID _ rendererCtx :=
    if rendID = setup.rendID (v.request setup.fingerprints) ∧ rendererCtx = v.rendererCtx then
      .ok out
    else .error "another page"

section Apart

variable [Inhabited Node] [Inhabited Layout] {setup : Setup Node Output Text} {v w : Visit}
  {out : Output} {text : Text}

theorem onlyFor_survive (written : setup.outputs.marshal out = some text)
    (read : setup.outputs.unmarshal text = some out) :
    (onlyFor setup v out : Stages Node Layout Output).Survive setup where
  tree _ _ _ _ _ _ := rfl
  output := by
    intro rendID root rendererCtx made text' read' rendered written' unmarshalled
    have same : made = out := by
      simp only [onlyFor] at rendered
      split at rendered
      · exact (Except.ok.inj rendered).symm
      · cases rendered
    rw [same, written] at written'
    cases written'
    exact same ▸ (Option.some.inj (read.symm.trans unmarshalled)).symm

theorem onlyFor_built :
    built setup (onlyFor setup v out : Stages Node Layout Output) v = .ok out := by
  simp [built, generated, finished, Stages.finish, onlyFor, Except.map]

/-- The page is made for the visits that agree with the one on what is read. -/
theorem SameInputs.of_onlyFor
    (made : built setup (onlyFor setup v out : Stages Node Layout Output) w = .ok out) :
    SameInputs setup v w := by
  cases tree : generated setup (onlyFor setup v out : Stages Node Layout Output) w with
  | error err =>
    rw [built_of_error tree] at made
    cases made
  | ok root =>
    rw [built_of_tree tree] at made
    have inputs : fromCompiled w.dashboards w.entity = fromCompiled v.dashboards v.entity ∧
        (w.request setup.fingerprints).ctx = (v.request setup.fingerprints).ctx := by
      by_contra other
      simp only [generated, onlyFor, if_neg other] at tree
      cases tree
    have wanted : setup.rendID (w.request setup.fingerprints) =
        setup.rendID (v.request setup.fingerprints) ∧ w.rendererCtx = v.rendererCtx := by
      by_contra other
      simp only [finished, Stages.finish, onlyFor, if_neg other] at made
      cases made
    exact ⟨wanted.1.symm, inputs.1.symm, inputs.2.symm, wanted.2.symm⟩

/-- A cache changes no page of any run, whatever the stages are, exactly when no two of the
requests share the dimensions of their key and differ in what generator or renderer read. -/
theorem pages_transparent_iff (Wanted : Visit → Prop)
    (written : setup.outputs.marshal out = some text)
    (read : setup.outputs.unmarshal text = some out) :
    (∀ stages : Stages Node Layout Output, stages.Survive setup → ∀ steps,
      (∀ v faults, Step.visit v faults ∈ steps → Wanted v) →
      pages setup stages .empty steps = pages setup stages none steps) ↔
        KeysDetermine setup Wanted := by
  constructor
  · intro transparent v w r s wantedV wantedW served other same
    let stages : Stages Node Layout Output := onlyFor setup v out
    have wanted : ∀ u faults, Step.visit u faults ∈ [Step.visit v {}, Step.visit w {}] →
        Wanted u := by
      intro u faults inRun
      rcases List.mem_cons.mp inRun with first | rest
      · cases first
        exact wantedV
      · cases List.mem_singleton.mp rest
        exact wantedW
    have cached := transparent stages (onlyFor_survive written read) _ wanted
    rw [pages_same served other same onlyFor_built written read, pages_uncached_visit,
      pages_uncached_visit] at cached
    have page : fresh setup stages w = .ok out := (List.cons.inj (List.cons.inj cached).2).1.symm
    rw [fresh_eq other] at page
    exact .of_onlyFor page
  · intro determined stages survive steps wanted
    exact pages_eq determined survive Cached.keeps_empty wanted

end Apart

end ErpFinance.Sdui
