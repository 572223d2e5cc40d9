import ErpFinance.Compiler.Schema
import ErpFinance.Library.Cached
import ErpFinance.Sdui.Schema

/-!
# The page engine

The fingerprints of a schema and of a viewer's roles, the key that a page and
its widget tree are cached under, and what two requests have in common whose
keys are the same text.  A tenant identifier is its text.

One request through cache, generator, validator, layout engine and renderer.
The four stages are functions, for a generator runs the plugins that are
registered and a renderer is whatever implements its interface; pages are
compared as the JSON value they are served as.
-/

namespace ErpFinance.Sdui

open Library
open Compiler (CapabilityGrant)

/-! ## Digests -/

def isHexDigit (c : Char) : Bool := c.isDigit || ('a' ≤ c && c ≤ 'f')

/-- A hash that no two texts share, written in hexadecimal digits. -/
structure Digest where
  sum : String → String
  injective : Function.Injective sum
  hex : ∀ text, ∀ c ∈ (sum text).toList, isHexDigit c = true

theorem Digest.colon_notMem (digest : Digest) (text : String) : ':' ∉ (digest.sum text).toList := by
  intro found
  have bad : isHexDigit ':' = true := digest.hex text ':' found
  exact absurd bad (by decide)

theorem Digest.underscore_notMem (digest : Digest) (text : String) :
    '_' ∉ (digest.sum text).toList := by
  intro found
  have bad : isHexDigit '_' = true := digest.hex text '_' found
  exact absurd bad (by decide)

/-! ## Fingerprints -/

def columnText (col : Compiled.ColumnDef) : String := ",".intercalate col.fields ++ ";"

def sectionText (sec : Compiled.SectionDef) : String :=
  sec.name ++ "/" ++ sec.permission ++ "\x7b" ++ String.join (sec.columns.map columnText) ++ "\x7d"

def tabText (tab : Compiled.TabDef) : String :=
  tab.name ++ "/" ++ tab.permission ++ "[" ++ String.join (tab.sections.map sectionText) ++ "]"

/-- What `SchemaFingerprint` writes into its hash. -/
def schemaText (es : Compiled.EntitySchema) : String :=
  es.qualifiedName ++ "|" ++ es.icon ++ "|" ++ es.label ++ "|" ++ es.labelPlural ++ "|" ++
    String.join (es.fields.map fun f => f.name ++ ":" ++ f.type.string ++ ":" ++ f.label ++ ",") ++
    "|layout:" ++ String.join (es.layout.tabs.map tabText) ++
    String.join (es.layout.sections.map sectionText) ++
    "|actions:" ++ String.join (es.actions.map fun a => a.name ++ ":" ++ a.label ++ ",")

def schemaFingerprint (digest : Digest) (es : Compiled.EntitySchema) : String :=
  digest.sum (schemaText es)

/-- The authenticated principal. -/
structure Viewer where
  userID : Nat
  tenantID : String
  roles : List String
  isPlatformAdmin : Bool

/-- What `RolesFingerprint` writes into its hash. -/
def rolesText (roles : List String) : String :=
  String.join ((sortStrings roles).map (· ++ "|"))

def rolesFingerprint (digest : Digest) (viewer : Viewer) : String :=
  if viewer.isPlatformAdmin then "__admin__"
  else if viewer.roles = [] then "__noroles__"
  else digest.sum (rolesText viewer.roles)

theorem schemaFingerprint_eq_iff (digest : Digest) (es fs : Compiled.EntitySchema) :
    schemaFingerprint digest es = schemaFingerprint digest fs ↔ schemaText es = schemaText fs :=
  digest.injective.eq_iff

/-- Two viewers that a fingerprint of roles does not tell apart. -/
def SameRoles (v w : Viewer) : Prop :=
  v.isPlatformAdmin = w.isPlatformAdmin ∧
    (v.isPlatformAdmin = false → rolesText v.roles = rolesText w.roles)

theorem rolesText_eq_empty_iff (roles : List String) : rolesText roles = "" ↔ roles = [] := by
  constructor
  · intro empty
    cases sorted : sortStrings roles with
    | nil =>
      have perm := sortStrings_perm roles
      rw [sorted] at perm
      exact perm.symm.eq_nil
    | cons role rest =>
      rw [rolesText, sorted] at empty
      have chars := congrArg String.toList empty
      simp [String.toList_join] at chars
  · rintro rfl
    rfl

/-- A hash is neither of the two fixed fingerprints. -/
theorem Digest.sum_ne (digest : Digest) (text : String) {fixed : String}
    (underscore : '_' ∈ fixed.toList) : digest.sum text ≠ fixed := by
  intro same
  exact digest.underscore_notMem text (same ▸ underscore)

theorem rolesFingerprint_roles (digest : Digest) {v : Viewer} (plain : v.isPlatformAdmin = false) :
    rolesFingerprint digest v =
      if rolesText v.roles = "" then "__noroles__" else digest.sum (rolesText v.roles) := by
  rw [rolesFingerprint, plain, if_neg Bool.false_ne_true]
  by_cases none : v.roles = []
  · rw [if_pos none, if_pos ((rolesText_eq_empty_iff v.roles).mpr none)]
  · rw [if_neg none, if_neg (fun empty => none ((rolesText_eq_empty_iff v.roles).mp empty))]

theorem rolesFingerprint_ne_admin (digest : Digest) {v : Viewer}
    (plain : v.isPlatformAdmin = false) : rolesFingerprint digest v ≠ "__admin__" := by
  rw [rolesFingerprint_roles digest plain]
  by_cases empty : rolesText v.roles = ""
  · rw [if_pos empty]
    decide
  · rw [if_neg empty]
    exact digest.sum_ne _ (by decide)

theorem rolesFingerprint_eq_iff (digest : Digest) (v w : Viewer) :
    rolesFingerprint digest v = rolesFingerprint digest w ↔ SameRoles v w := by
  cases adminV : v.isPlatformAdmin with
  | true =>
    have fingerprint : rolesFingerprint digest v = "__admin__" := by
      rw [rolesFingerprint, adminV, if_pos rfl]
    cases adminW : w.isPlatformAdmin with
    | true =>
      have other : rolesFingerprint digest w = "__admin__" := by
        rw [rolesFingerprint, adminW, if_pos rfl]
      simp [SameRoles, fingerprint, other, adminV, adminW]
    | false =>
      have different := (rolesFingerprint_ne_admin digest adminW).symm
      simp [SameRoles, fingerprint, different, adminV, adminW]
  | false =>
    cases adminW : w.isPlatformAdmin with
    | true =>
      have other : rolesFingerprint digest w = "__admin__" := by
        rw [rolesFingerprint, adminW, if_pos rfl]
      have different := rolesFingerprint_ne_admin digest adminV
      simp [SameRoles, other, different, adminV, adminW]
    | false =>
      have noNone : ∀ text, digest.sum text ≠ "__noroles__" := fun text =>
        digest.sum_ne text (by decide)
      rw [rolesFingerprint_roles digest adminV, rolesFingerprint_roles digest adminW]
      simp only [SameRoles, adminV, adminW, true_and, forall_const]
      by_cases emptyV : rolesText v.roles = "" <;> by_cases emptyW : rolesText w.roles = ""
      · simp only [emptyV, emptyW]
      · rw [if_pos emptyV, if_neg emptyW, emptyV]
        exact iff_of_false (noNone _).symm (Ne.symm emptyW)
      · rw [if_neg emptyV, if_pos emptyW, emptyW]
        exact iff_of_false (noNone _) emptyV
      · rw [if_neg emptyV, if_neg emptyW, digest.injective.eq_iff]

/-! ## Keys -/

def safeChar (c : Char) : Bool :=
  ('a' ≤ c && c ≤ 'z') || ('A' ≤ c && c ≤ 'Z') || ('0' ≤ c && c ≤ '9') || c = '-' || c = '.'

def safeComponent (s : String) : String := s.map fun c => if safeChar c then c else '_'

structure KeyParams where
  level : String := ""
  entityName : String
  viewMode : String
  rendererID : String
  rendererVersion : String
  locale : String
  tenantIDHash : String
  schemaFP : String
  permFP : String
  featureFlagFP : String := ""

def KeyParams.parts (p : KeyParams) : List String :=
  ["sdui", "v1", p.level, safeComponent p.entityName, safeComponent p.viewMode,
    safeComponent p.rendererID, safeComponent p.rendererVersion, safeComponent p.locale,
    p.tenantIDHash, p.schemaFP, p.permFP, p.featureFlagFP]

def key (p : KeyParams) : String := ":".intercalate p.parts

theorem safeComponent_colon (s : String) : ':' ∉ (safeComponent s).toList := by
  simp only [safeComponent, String.toList_map, List.mem_map, not_exists, not_and]
  intro c _ colon
  by_cases safe : safeChar c = true
  · rw [if_pos safe] at colon
    rw [colon] at safe
    exact absurd safe (by decide)
  · rw [if_neg safe] at colon
    exact absurd colon (by decide)

/-- The components that are written as they are have no colon in them. -/
def KeyParams.Clean (p : KeyParams) : Prop :=
  ∀ part ∈ [p.level, p.tenantIDHash, p.schemaFP, p.permFP, p.featureFlagFP], ':' ∉ part.toList

theorem KeyParams.Clean.parts {p : KeyParams} (clean : p.Clean) :
    ∀ part ∈ p.parts, ':' ∉ part.toList := by
  have fixed : ':' ∉ "sdui".toList ∧ ':' ∉ "v1".toList := by decide
  simp only [KeyParams.Clean, List.forall_mem_cons] at clean
  obtain ⟨level, tenant, schema, perm, flags, -⟩ := clean
  simp only [KeyParams.parts, List.forall_mem_cons]
  exact ⟨fixed.1, fixed.2, level, safeComponent_colon _, safeComponent_colon _,
    safeComponent_colon _, safeComponent_colon _, safeComponent_colon _, tenant, schema, perm,
    flags, List.forall_mem_nil _⟩

/-- Parts without the separator can be read back from the joined text. -/
theorem intercalate_injective {separator : Char} {parts others : List String}
    (free : ∀ part ∈ parts, separator ∉ part.toList)
    (others_free : ∀ part ∈ others, separator ∉ part.toList)
    (nonempty : parts ≠ []) (others_nonempty : others ≠ [])
    (same : (String.singleton separator).intercalate parts =
      (String.singleton separator).intercalate others) : parts = others := by
  have first := String.toList_split_intercalate free
  have second := String.toList_split_intercalate others_free
  rw [if_neg nonempty] at first
  rw [if_neg others_nonempty] at second
  rw [← first, ← second, same]

/-- A key is read back into its components. -/
theorem key_eq_iff {p q : KeyParams} (cleanP : p.Clean) (cleanQ : q.Clean) :
    key p = key q ↔ p.parts = q.parts := by
  have colon : ":" = String.singleton ':' := by decide
  rw [key, key, colon]
  constructor
  · intro same
    exact intercalate_injective cleanP.parts cleanQ.parts (List.cons_ne_nil _ _)
      (List.cons_ne_nil _ _) same
  · intro same
    rw [same]

/-! ## Contexts -/

/-- The viewer as the generator sees it. -/
structure ViewerContext where
  tenantID : String
  roles : List String
  isPlatformAdmin : Bool
  hasPermission : String → Bool

/-- The policy in force: whether a viewer may perform an action on an entity. -/
abbrev CanPerform := Viewer → String → String → Bool

/-- `BuildGrantIndex`: of two grants of one permission the map keeps the last. -/
def grantIndex (grants : List CapabilityGrant) (permID : String) : Option CapabilityGrant :=
  grants.reverse.find? fun g => g.permission = permID

/-- `NewViewerAdapter`; without an evaluator every permission is granted. -/
def viewerAdapter (viewer : Viewer) (evaluator : Option CanPerform)
    (grants : List CapabilityGrant) : ViewerContext where
  tenantID := viewer.tenantID
  roles := viewer.roles
  isPlatformAdmin := viewer.isPlatformAdmin
  hasPermission permID :=
    if viewer.isPlatformAdmin then true
    else match evaluator with
      | none => true
      | some canPerform =>
        match grantIndex grants permID with
        | none => false
        | some g => canPerform viewer g.entity g.action

structure GeneratorContext where
  tenantID : String
  viewer : ViewerContext
  viewMode : String
  readOnly : Bool
  locale : String
  schemaFingerprint : String
  permFingerprint : String
  rendererID : String
  rendererVersion : String
  entityName : String

def GeneratorContext.effectiveLocale (g : GeneratorContext) : String :=
  if g.locale = "" then "en-US" else g.locale

structure RendererContext where
  genCtx : GeneratorContext
  theme : String
  gridSystem : String
  dateFormat : String
  dateTimeFormat : String
  decimalSeparator : String
  thousandSeparator : String
  rtl : Bool

structure Request where
  ctx : GeneratorContext
  schema : EntitySchema
  rendererID : String
  rendererCtx : RendererContext

structure Response (Layout Output : Type) where
  output : Output
  layout : Option Layout
  cacheHit : Bool

/-! ## The engine -/

/-- The identifier and the version that a registered renderer reports. -/
structure RendererInfo where
  id : String
  version : String

/-- What an engine is set up with besides its stages. -/
structure Setup (Node Output Text : Type) where
  renderers : String → Option RendererInfo
  defaultID : String
  trees : Codec Node Text
  outputs : Codec Output Text
  tenants : Digest
  fingerprints : Digest

/-- The stages of a request; the validator returns the messages of its fatal issues, and
`render` is the method of the renderer that is registered under the name. -/
structure Stages (Node Layout Output : Type) where
  generate : EntitySchema → GeneratorContext → Except String Node
  validate : Node → GeneratorContext → List String
  compute : Node → Except String Layout
  render : String → Node → RendererContext → Except String Output

variable {Node Layout Output Text : Type}

/-- Which of the calls to Redis fail during a request. -/
structure Faults where
  l3Get : Bool := false
  l2Get : Bool := false
  l2Set : Bool := false
  l3Set : Bool := false

namespace Setup

variable (setup : Setup Node Output Text)

/-- The name that the renderer is looked up under. -/
def rendID (req : Request) : String :=
  if req.rendererID = "" then setup.defaultID else req.rendererID

def keyBase (rend : RendererInfo) (req : Request) : KeyParams :=
  { entityName := req.ctx.entityName
    viewMode := req.ctx.viewMode
    rendererID := rend.id
    rendererVersion := rend.version
    locale := req.ctx.effectiveLocale
    tenantIDHash := setup.tenants.sum req.ctx.tenantID
    schemaFP := req.ctx.schemaFingerprint
    permFP := req.ctx.permFingerprint }

end Setup

def cacheKey (base : KeyParams) (level : String) : String := key { base with level := level }

namespace Stages

variable (stages : Stages Node Layout Output)

def finish (ctx : GeneratorContext) (rendID : String) (rendererCtx : RendererContext)
    (root : Node) : Except String (Layout × Output) :=
  match stages.validate root ctx with
  | fatal :: rest =>
    .error ("sdui/engine: validation: " ++ toString (rest.length + 1) ++ " fatal issue(s): " ++
      fatal)
  | [] =>
    match stages.compute root with
    | .error err => .error ("sdui/engine: layout: " ++ err)
    | .ok cl =>
      match stages.render rendID root rendererCtx with
      | .error err => .error ("sdui/engine: render: " ++ err)
      | .ok out => .ok (cl, out)

end Stages

section Handle

variable (setup : Setup Node Output Text) (stages : Stages Node Layout Output)
  (cache : Cached String Text) (faults : Faults) (req : Request)

/-- The tree of a request, from the cache or generated and stored there. -/
def widgetTree (l2Key : String) : Except String Node × Cached String Text :=
  match cache.lookup setup.trees faults.l2Get l2Key with
  | some root => (.ok root, cache)
  | none =>
    match stages.generate req.schema req.ctx with
    | .error err => (.error ("sdui/engine: generation: " ++ err), cache)
    | .ok root => (.ok root, cache.store setup.trees faults.l2Set l2Key root)

/-- Without a cache there is nothing to find and nothing is stored. -/
def handle : Except String (Response Layout Output) × Cached String Text :=
  match setup.renderers (setup.rendID req) with
  | none => (.error ("sdui/engine: unknown renderer " ++ quoted (setup.rendID req)), cache)
  | some rend =>
    let l3Key := cacheKey (setup.keyBase rend req) "l3"
    let l2Key := cacheKey (setup.keyBase rend req) "l2"
    match cache.lookup setup.outputs faults.l3Get l3Key with
    | some out => (.ok { output := out, layout := none, cacheHit := true }, cache)
    | none =>
      match widgetTree setup stages cache faults req l2Key with
      | (.error err, cache) => (.error err, cache)
      | (.ok root, cache) =>
        match stages.finish req.ctx (setup.rendID req) req.rendererCtx root with
        | .error err => (.error err, cache)
        | .ok (cl, out) =>
          (.ok { output := out, layout := some cl, cacheHit := false },
            cache.store setup.outputs faults.l3Set l3Key out)

/-! One equation for each way through a request. -/

section Equations

variable {setup stages cache faults req} {l2Key : String} {rend : RendererInfo} {root : Node}
  {out : Output} {err : String} {page : Layout × Output} {next : Cached String Text}

theorem widgetTree_hit (found : cache.lookup setup.trees faults.l2Get l2Key = some root) :
    widgetTree setup stages cache faults req l2Key = (.ok root, cache) := by
  rw [widgetTree, found]

theorem widgetTree_error (missed : cache.lookup setup.trees faults.l2Get l2Key = none)
    (failed : stages.generate req.schema req.ctx = .error err) :
    widgetTree setup stages cache faults req l2Key =
      (.error ("sdui/engine: generation: " ++ err), cache) := by
  rw [widgetTree, missed, failed]

theorem widgetTree_new (missed : cache.lookup setup.trees faults.l2Get l2Key = none)
    (made : stages.generate req.schema req.ctx = .ok root) :
    widgetTree setup stages cache faults req l2Key =
      (.ok root, cache.store setup.trees faults.l2Set l2Key root) := by
  rw [widgetTree, missed, made]

theorem handle_unknown (unknown : setup.renderers (setup.rendID req) = none) :
    handle setup stages cache faults req =
      (.error ("sdui/engine: unknown renderer " ++ quoted (setup.rendID req)), cache) := by
  rw [handle, unknown]

theorem handle_hit (known : setup.renderers (setup.rendID req) = some rend)
    (found : cache.lookup setup.outputs faults.l3Get
      (cacheKey (setup.keyBase rend req) "l3") = some out) :
    handle setup stages cache faults req =
      (.ok { output := out, layout := none, cacheHit := true }, cache) := by
  rw [handle, known]
  simp only [found]

variable (known : setup.renderers (setup.rendID req) = some rend)
  (missed : cache.lookup setup.outputs faults.l3Get
    (cacheKey (setup.keyBase rend req) "l3") = none)

include known missed

theorem handle_noTree (failed : widgetTree setup stages cache faults req
      (cacheKey (setup.keyBase rend req) "l2") = (.error err, next)) :
    handle setup stages cache faults req = (.error err, next) := by
  rw [handle, known]
  simp only [missed, failed]

theorem handle_unfinished (made : widgetTree setup stages cache faults req
      (cacheKey (setup.keyBase rend req) "l2") = (.ok root, next))
    (failed : stages.finish req.ctx (setup.rendID req) req.rendererCtx root = .error err) :
    handle setup stages cache faults req = (.error err, next) := by
  rw [handle, known]
  simp only [missed, made, failed]

theorem handle_finished (made : widgetTree setup stages cache faults req
      (cacheKey (setup.keyBase rend req) "l2") = (.ok root, next))
    (done : stages.finish req.ctx (setup.rendID req) req.rendererCtx root = .ok page) :
    handle setup stages cache faults req =
      (.ok { output := page.2, layout := some page.1, cacheHit := false },
        next.store setup.outputs faults.l3Set (cacheKey (setup.keyBase rend req) "l3")
          page.2) := by
  rw [handle, known]
  simp only [missed, made, done]

end Equations

end Handle

/-! ## Visits -/

/-- What a request is made of: the entity as it is compiled at that moment with the dashboards
that are registered, the viewer with the policy in force, and how the page is wanted. -/
structure Visit where
  entity : Compiled.EntitySchema
  dashboards : List DashboardDef
  viewer : Viewer
  evaluator : Option CanPerform
  grants : List CapabilityGrant
  tenantID : String
  entityName : String
  viewMode : String
  readOnly : Bool
  locale : String
  targetID : String
  targetVersion : String
  rendererID : String
  rendererCtx : RendererContext

def Visit.request (v : Visit) (fingerprints : Digest) : Request where
  ctx :=
    { tenantID := v.tenantID
      viewer := viewerAdapter v.viewer v.evaluator v.grants
      viewMode := v.viewMode
      readOnly := v.readOnly
      locale := v.locale
      schemaFingerprint := schemaFingerprint fingerprints v.entity
      permFingerprint := rolesFingerprint fingerprints v.viewer
      rendererID := v.targetID
      rendererVersion := v.targetVersion
      entityName := v.entityName }
  schema := fromCompiled v.dashboards v.entity
  rendererID := v.rendererID
  rendererCtx := v.rendererCtx

/-- What happens to an engine: it handles a request, or its cache loses an entry. -/
inductive Step where
  | visit (v : Visit) (faults : Faults)
  | lose (key : String)

/-- The pages that are served one after the other. -/
def pages (setup : Setup Node Output Text) (stages : Stages Node Layout Output) :
    Cached String Text → List Step → List (Except String Output)
  | _, [] => []
  | cache, .lose key :: rest => pages setup stages (cache.lose key) rest
  | cache, .visit v faults :: rest =>
    let answer := handle setup stages cache faults (v.request setup.fingerprints)
    answer.1.map (·.output) :: pages setup stages answer.2 rest

end ErpFinance.Sdui
