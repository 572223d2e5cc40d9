import ErpFinance.Library.Digits
import ErpFinance.Sdui.Pages

/-!
# Dashboards

The generator's builder of dashboard pages, which leaves a panel out when the
viewer lacks one of its permissions, and a dashboard that the cache serves to a
viewer who has lost the permission.
-/

namespace ErpFinance.Sdui

open Library

/-! ## The builder -/

/-- A node of a panel, with the fields that the builder sets. -/
structure PanelNode where
  kind : String
  id : String
  label : String
  name : String
  kpiFormat : String
  chartType : String
  dataSource : Option DataSource
  colSpan : Option Int

structure PageNode where
  label : String
  children : List PanelNode
deriving Inhabited

/-- The first required field of a context that is missing. -/
def GeneratorContext.validate (g : GeneratorContext) : Option String :=
  if g.tenantID = "00000000-0000-0000-0000-000000000000" then
    some "sduictx.GeneratorContext: TenantID is required"
  else if g.viewMode = "" then some "sduictx.GeneratorContext: ViewMode is required"
  else if g.rendererID = "" then some "sduictx.GeneratorContext: RendererID is required"
  else if g.entityName = "" then some "sduictx.GeneratorContext: EntityName is required"
  else none

def panelNode (p : DashboardPanel) : Option PanelNode :=
  let source : Option DataSource :=
    if p.dataURL ≠ "" then some { url := p.dataURL, method := "GET" } else none
  let span := if 0 < p.colSpan then some p.colSpan else none
  if p.panelType = "kpi" then
    some ⟨"kpi_card", p.id, p.title, p.valueField, p.kpiFormat, "", source, span⟩
  else if p.panelType = "chart" then
    some ⟨"chart_panel", p.id, p.title, "", "", p.chartType, source, span⟩
  else if p.panelType = "table" then
    some ⟨"table_panel", p.id, p.title, "", "", "", source, span⟩
  else if p.panelType = "filter" then
    some ⟨"filter_bar", p.id, p.title, "", "", "", source, span⟩
  else none

/-- The permission gate. -/
def panelVisible (ctx : GeneratorContext) (p : DashboardPanel) : Bool :=
  p.permissions.all ctx.viewer.hasPermission

def buildDashboard (schema : EntitySchema) (ctx : GeneratorContext) : PageNode where
  label := schema.title
  children := (schema.dashboardPanels.filter (panelVisible ctx)).filterMap panelNode

/-- `Generate` of a pipeline without plugins, where `build` is the builder of the other view
modes. -/
def generate (build : EntitySchema → GeneratorContext → Except String PageNode)
    (schema : EntitySchema) (ctx : GeneratorContext) : Except String PageNode :=
  match ctx.validate with
  | some err => .error ("generator.Generate: " ++ err)
  | none =>
    if ctx.viewMode = "dashboard" then .ok (buildDashboard schema ctx)
    else if ctx.viewMode ∈ ["list", "create", "edit", "detail"] then build schema ctx
    else .error ("generator.Generate: unknown ViewMode " ++ quoted ctx.viewMode)

/-! ## A digest -/

/-- A character as as many marks as its number says, and an end mark. -/
def tallyChar (c : Char) : List Char := List.replicate c.toNat '1' ++ ['0']

def tallyText (text : String) : String := String.ofList (text.toList.flatMap tallyChar)

theorem tallyChar_append_inj {c d : Char} {rest other : List Char}
    (same : tallyChar c ++ rest = tallyChar d ++ other) : c = d ∧ rest = other := by
  have free : ∀ n, '0' ∉ List.replicate n '1' := fun n inMarks =>
    absurd (List.eq_of_mem_replicate inMarks) (by decide)
  simp only [tallyChar, List.append_assoc, List.singleton_append] at same
  obtain ⟨marks, rests⟩ := eq_of_append_first (free _) (free _) same
  have numbers : c.toNat = d.toNat := by simpa using congrArg List.length marks
  exact ⟨Char.toNat_inj.mp numbers, rests⟩

theorem flatMap_tallyChar_inj {chars others : List Char}
    (same : chars.flatMap tallyChar = others.flatMap tallyChar) : chars = others := by
  induction chars generalizing others with
  | nil =>
    cases others with
    | nil => rfl
    | cons d rest => simp [tallyChar] at same
  | cons c rest ih =>
    cases others with
    | nil => simp [tallyChar] at same
    | cons d others =>
      simp only [List.flatMap_cons] at same
      obtain ⟨rfl, rests⟩ := tallyChar_append_inj same
      rw [ih rests]

/-- Characters in tally marks. -/
def tally : Digest where
  sum := tallyText
  injective := by
    intro text other same
    have chars := congrArg String.toList same
    simp only [tallyText, String.toList_ofList] at chars
    exact String.toList_inj.mp (flatMap_tallyChar_inj chars)
  hex := by
    intro text c inSum
    simp only [tallyText, String.toList_ofList, List.mem_flatMap, tallyChar, List.mem_append,
      List.mem_replicate, List.mem_singleton] at inSum
    obtain ⟨_, -, ⟨-, rfl⟩ | rfl⟩ := inSum
    · decide
    · decide

/-! ## A wall of panels -/

/-- A renderer that writes the titles of a page and of its panels. -/
abbrev Titles := String × List String

def wallSetup : Setup PageNode Titles (PageNode ⊕ Titles) where
  renderers rendID := if rendID = "titles" then some ⟨"titles", "1.0.0"⟩ else none
  defaultID := "titles"
  trees := .left _ _
  outputs := .right _ _
  tenants := tally
  fingerprints := tally

def wallStages : Stages PageNode Unit Titles where
  generate := generate fun _ _ => .error "no other pages"
  validate _ _ := []
  compute _ := .ok ()
  render _ root _ := .ok (root.label, root.children.map (·.label))

/-- A clerk looks at the sales dashboard while the policy grants the revenue. -/
def clerksVisit : Visit where
  entity :=
    { qualifiedName := "sales_order", localName := "order", module := "sales"
      label := "Order", labelPlural := "Orders", apiResource := "orders"
      routePrefix := "/api/v1/sales/orders" }
  dashboards := [⟨"sales",
    [{ id := "orders", kind := "kpi", title := "Open orders" },
     { id := "revenue", kind := "kpi", title := "Revenue"
       permissions := ["sales.order.revenue"] }]⟩]
  viewer :=
    { userID := 7, tenantID := "11111111-1111-1111-1111-111111111111", roles := ["clerk"]
      isPlatformAdmin := false }
  evaluator := some fun _ _ _ => true
  grants := [⟨"sales.order.revenue", "sales_order", "revenue"⟩]
  tenantID := "11111111-1111-1111-1111-111111111111"
  entityName := "sales_order"
  viewMode := "dashboard"
  readOnly := false
  locale := ""
  targetID := "titles"
  targetVersion := ""
  rendererID := ""
  rendererCtx :=
    { genCtx :=
        { tenantID := "", viewer := ⟨"", [], false, fun _ => false⟩, viewMode := ""
          readOnly := false, locale := "", schemaFingerprint := "", permFingerprint := ""
          rendererID := "", rendererVersion := "", entityName := "" }
      theme := "", gridSystem := "", dateFormat := "", dateTimeFormat := ""
      decimalSeparator := "", thousandSeparator := "", rtl := false }

/-- The policy that grants nothing is loaded before the clerk comes back. -/
def clerksReturn : Visit := { clerksVisit with evaluator := some fun _ _ _ => false }

/-- A clerk of another tenant, whose policy grants nothing. -/
def strangersVisit : Visit :=
  { clerksReturn with
    tenantID := "22222222-2222-2222-2222-222222222222"
    viewer := { clerksVisit.viewer with tenantID := "22222222-2222-2222-2222-222222222222" } }

/-- Whatever the stages are, a page is kept in this setup, so that a cache changes no dashboard
exactly when the keys determine the pages; they do for two tenants with a policy each. -/
theorem wall_transparent_iff :
    ((∀ stages : Stages PageNode Unit Titles, stages.Survive wallSetup → ∀ steps,
      (∀ v faults, Step.visit v faults ∈ steps → v.viewMode = "dashboard") →
      pages wallSetup stages .empty steps = pages wallSetup stages none steps) ↔
        KeysDetermine wallSetup fun v => v.viewMode = "dashboard") ∧
      KeysDetermine wallSetup (· ∈ [clerksVisit, strangersVisit]) ∧
      pages wallSetup wallStages .empty
          [.visit clerksVisit {}, .visit strangersVisit {}, .visit clerksVisit {}] =
        pages wallSetup wallStages none
          [.visit clerksVisit {}, .visit strangersVisit {}, .visit clerksVisit {}] := by
  have written : wallSetup.outputs.marshal ("", []) = some (.inr ("", [])) := rfl
  have read : wallSetup.outputs.unmarshal (.inr ("", [])) = some ("", []) := rfl
  have survive : wallStages.Survive wallSetup :=
    ⟨fun _ marshalled unmarshalled _ _ _ => by cases marshalled; cases unmarshalled; rfl,
      fun _ marshalled unmarshalled => by cases marshalled; cases unmarshalled; rfl⟩
  have determined : KeysDetermine wallSetup (· ∈ [clerksVisit, strangersVisit]) := by
    intro v w r s wantedV wantedW _ _ same
    simp only [List.mem_cons, List.not_mem_nil, or_false] at wantedV wantedW
    rcases wantedV with rfl | rfl <;> rcases wantedW with rfl | rfl
    · exact ⟨rfl, rfl, rfl, rfl⟩
    · exact absurd same.tenant (by decide)
    · exact absurd same.tenant (by decide)
    · exact ⟨rfl, rfl, rfl, rfl⟩
  refine ⟨pages_transparent_iff (fun v => v.viewMode = "dashboard") written read, determined, ?_⟩
  refine (pages_transparent_iff (· ∈ [clerksVisit, strangersVisit]) written read).mpr determined
    wallStages survive _ fun v faults inRun => ?_
  simp only [List.mem_cons, List.not_mem_nil, or_false, Step.visit.injEq] at inRun ⊢
  tauto

theorem clerk_sees_revenue :
    pages wallSetup wallStages .empty [.visit clerksVisit {}, .visit clerksReturn {}] =
        [.ok ("Order", ["Open orders", "Revenue"]), .ok ("Order", ["Open orders", "Revenue"])] ∧
      pages wallSetup wallStages none [.visit clerksVisit {}, .visit clerksReturn {}] =
        [.ok ("Order", ["Open orders", "Revenue"]), .ok ("Order", ["Open orders"])] := by
  have served : rendererOf wallSetup clerksVisit = some ⟨"titles", "1.0.0"⟩ := by rfl
  have again : rendererOf wallSetup clerksReturn = some ⟨"titles", "1.0.0"⟩ := by rfl
  have same : SameDimensions ⟨"titles", "1.0.0"⟩ ⟨"titles", "1.0.0"⟩ clerksVisit clerksReturn :=
    sameDimensions_unseen _ clerksVisit clerksVisit.dashboards (some fun _ _ _ => false)
      clerksVisit.readOnly clerksVisit.rendererCtx
  have first : built wallSetup wallStages clerksVisit =
      .ok ("Order", ["Open orders", "Revenue"]) := by rfl
  have second : built wallSetup wallStages clerksReturn = .ok ("Order", ["Open orders"]) := by rfl
  constructor
  · exact pages_same served again same first rfl rfl
  · rw [pages_uncached_visit, pages_uncached_visit, fresh_eq served, first,
      fresh_eq again, second, pages]

end ErpFinance.Sdui
