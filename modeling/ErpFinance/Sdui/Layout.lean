import ErpFinance.Domain.Basics
import Mathlib.Data.List.Flatten
import Mathlib.Data.List.Perm.Basic

/-!
# Form layout

The rows into which the fields of a page are packed on a grid of twelve
columns.  Every field has one place, in the order of its container, and a row
of fields that each fit the grid fits it too.
-/

namespace ErpFinance.Sdui.Layout

open Domain

/-! ## Nodes -/

inductive NodeKind where
  | page
  | form
  | list
  | section
  | tabPane
  | tabs
  | summaryCard
  | kpiCard
  | chartPanel
  | tablePanel
  | filterBar
  | textArea
  | richText
  | editor
  | grid
  | table
  | relatedList
  | workflowPanel
  | attachments
  | activity
  | staticText
  | other (name : String)
deriving DecidableEq

structure LayoutHint where
  colSpan : Int := 0
  colOffset : Int := 0
  newRow : Bool := false

/-- A widget; a child may be nil. -/
structure Node where
  kind : NodeKind
  name : String := ""
  layout : Option LayoutHint := none
  children : List (Option Node) := []

def mobileGridCols : Int := 4

def tabletGridCols : Int := 8

def desktopGridCols : Int := 12

def defaultSectionCols : Int := 2

structure Span where
  mobile : Int
  tablet : Int
  desktop : Int

def full : Span := ⟨mobileGridCols, tabletGridCols, desktopGridCols⟩

structure RowItem where
  node : Node
  span : Span
  offset : Span := ⟨0, 0, 0⟩

structure Row where
  items : List RowItem

structure SectionLayout where
  node : Option Node
  columns : Int
  rows : List Row

structure TabLayout where
  node : Node
  panes : List SectionLayout

structure ComputedLayout where
  root : Node
  sections : List SectionLayout := []
  tabs : List TabLayout := []
  dashboardRows : List Row := []

inductive LayoutError where
  | nilRoot
  | notPage (kind : NodeKind)

/-! ## Packing rows -/

/-- The rows so far, the items of the row that is being filled, and its used columns. -/
structure Packing where
  rows : List Row := []
  currentRow : List RowItem := []
  desktopUsed : Int := 0

def Packing.flush (p : Packing) : Packing :=
  match p.currentRow with
  | [] => p
  | items => { rows := p.rows ++ [⟨items⟩], currentRow := [], desktopUsed := 0 }

/-- The desktop columns of an item with those left empty before it. -/
def RowItem.width (item : RowItem) : Int := item.offset.desktop + item.span.desktop

/-- Appends an item, in a new row where it asks for one or does not fit. -/
def Packing.place (p : Packing) (newRow : Bool) (item : RowItem) : Packing :=
  let p := if newRow ∨
      int64 (p.desktopUsed + item.width) > desktopGridCols ∧ p.desktopUsed > 0 then p.flush else p
  let p := { p with
    currentRow := p.currentRow ++ [item]
    desktopUsed := int64 (p.desktopUsed + item.width) }
  if p.desktopUsed ≥ desktopGridCols then p.flush else p

def isFullWidthKind : NodeKind → Bool
  | .textArea | .richText | .editor | .section | .grid | .table | .relatedList
  | .workflowPanel | .attachments | .activity | .staticText => true
  | _ => false

def hint (f : Node) : LayoutHint := f.layout.getD {}

/-- `packFields` of a field in a section of so many columns: its place in a row. -/
def rowItem (cols : Int) (f : Node) : RowItem :=
  let desktopColWidth := desktopGridCols.tdiv cols
  let tabletColWidth := tabletGridCols.tdiv (min cols 2)
  let desktopSpan :=
    if (hint f).colSpan > 0 then min (hint f).colSpan desktopGridCols
    else if isFullWidthKind f.kind then desktopGridCols
    else desktopColWidth
  let tabletSpan :=
    if desktopSpan ≥ desktopGridCols then tabletGridCols
    else if desktopSpan ≥ desktopColWidth * 2 then min tabletGridCols (tabletColWidth * 2)
    else tabletColWidth
  let offset := (int64 ((hint f).colOffset * tabletColWidth)).tdiv desktopColWidth
  { node := f
    span := ⟨mobileGridCols, tabletSpan, desktopSpan⟩
    offset :=
      if (hint f).colOffset > 0 then
        ⟨0, if offset + tabletSpan > tabletGridCols then 0 else offset, (hint f).colOffset⟩
      else ⟨0, 0, 0⟩ }

/-- One round of the loop over the fields; nil is passed over. -/
def packField (cols : Int) (p : Packing) : Option Node → Packing
  | none => p
  | some f => p.place (hint f).newRow (rowItem cols f)

def packFields (node : Option Node) (fields : List (Option Node)) (cols : Int) : SectionLayout :=
  let cols := max 1 (min cols 4)
  { node := node, columns := cols, rows := (fields.foldl (packField cols) {}).flush.rows }

/-! ## Forms -/

def sectionColumns (n : Node) : Int :=
  if (hint n).colSpan ≥ 1 ∧ (hint n).colSpan ≤ 4 then (hint n).colSpan else defaultSectionCols

def computeSection (sec : Node) : SectionLayout :=
  packFields (some sec) sec.children (sectionColumns sec)

def paneFields (pane : Node) : List (Option Node) :=
  pane.children.flatMap fun
    | none => []
    | some child => if child.kind = .section then child.children else [some child]

def computeTabPane (pane : Node) : SectionLayout :=
  packFields (some pane) (paneFields pane) (sectionColumns pane)

def computeTabs (tabs : Node) : TabLayout where
  node := tabs
  panes := (tabs.children.reduceOption.filter (·.kind = .tabPane)).map computeTabPane

def flatFields (form : Node) : List (Option Node) :=
  form.children.filter fun
    | none => false
    | some child => child.kind ≠ .section ∧ child.kind ≠ .tabs

def computeForm (form : Node) : List SectionLayout × List TabLayout :=
  let sections := (form.children.reduceOption.filter (·.kind = .section)).map computeSection
  let tabs := (form.children.reduceOption.filter (·.kind = .tabs)).map computeTabs
  let flat := flatFields form
  (if flat = [] then sections else packFields none flat defaultSectionCols :: sections, tabs)

/-! ## Dashboards -/

def isPanelKind : NodeKind → Bool
  | .kpiCard | .chartPanel | .tablePanel | .filterBar => true
  | _ => false

def isDashboard (page : Node) : Bool := page.children.reduceOption.any (isPanelKind ·.kind)

def dashboardSpan (n : Node) : Span :=
  if (hint n).colSpan > 0 then
    let d := min (hint n).colSpan desktopGridCols
    ⟨mobileGridCols, max 1 ((d * tabletGridCols).tdiv desktopGridCols), d⟩
  else
    match n.kind with
    | .kpiCard => ⟨mobileGridCols, 4, 3⟩
    | .chartPanel => ⟨mobileGridCols, tabletGridCols, 6⟩
    | _ => full

def packDashboardPanels (panels : List (Option Node)) : List Row :=
  (panels.reduceOption.foldl (fun (p : Packing) n =>
    p.place false { node := n, span := dashboardSpan n }) {}).flush.rows

/-! ## Pages -/

/-- A summary card fills a section of its own. -/
def cardSection (card : Node) : SectionLayout where
  node := some card
  columns := 1
  rows := [⟨[{ node := card, span := full }]⟩]

def childSections (child : Node) : List SectionLayout :=
  match child.kind with
  | .form => (computeForm child).1
  | .summaryCard => [cardSection child]
  | _ => []

def childTabs (child : Node) : List TabLayout :=
  match child.kind with
  | .form => (computeForm child).2
  | _ => []

def compute : Option Node → Except LayoutError ComputedLayout
  | none => .error .nilRoot
  | some root =>
    if root.kind ≠ .page then .error (.notPage root.kind)
    else if isDashboard root then
      .ok { root := root, dashboardRows := packDashboardPanels root.children }
    else
      .ok
        { root := root
          sections := root.children.reduceOption.flatMap childSections
          tabs := root.children.reduceOption.flatMap childTabs }

/-! ## What rows hold -/

structure Row.Fits (row : Row) : Prop where
  desktop : (∀ item ∈ row.items, item.width ≤ desktopGridCols) →
    (row.items.map RowItem.width).sum ≤ desktopGridCols
  tablet : ∀ item ∈ row.items, item.offset.tablet + item.span.tablet ≤ tabletGridCols

/-- An item that can be placed. -/
structure RowItem.Valid (item : RowItem) : Prop where
  width : 0 < item.width
  tablet : item.offset.tablet + item.span.tablet ≤ tabletGridCols

namespace Packing

variable {p : Packing} {item : RowItem} {newRow : Bool}

/-- The nodes placed so far. -/
def nodes (p : Packing) : List Node :=
  (p.rows.flatMap fun row => row.items.map RowItem.node) ++ p.currentRow.map RowItem.node

theorem currentRow_flush (p : Packing) : p.flush.currentRow = [] := by
  rw [flush]
  split
  · assumption
  · rfl

theorem nodes_flush (p : Packing) : p.flush.nodes = p.nodes := by
  rw [flush]
  split
  · rfl
  · rename_i items isRow
    rw [nodes, nodes, List.flatMap_append, List.flatMap_singleton, List.map_nil, List.append_nil]

theorem nodes_place (p : Packing) (newRow : Bool) (item : RowItem) :
    (p.place newRow item).nodes = p.nodes ++ [item.node] := by
  have append (p : Packing) (used : Int) :
      ({ p with currentRow := p.currentRow ++ [item], desktopUsed := used } : Packing).nodes =
        p.nodes ++ [item.node] := by
    rw [nodes, nodes, List.map_append, ← List.append_assoc]
    rfl
  rw [place]
  dsimp only
  split <;> split <;> simp only [nodes_flush, append]

/-- The rows fit, and the used columns are those of the row that is being filled as long as each of
its items fits the grid. -/
structure Bounded (p : Packing) : Prop where
  rows : ∀ row ∈ p.rows, row.Fits
  tablet : ∀ item ∈ p.currentRow, item.offset.tablet + item.span.tablet ≤ tabletGridCols
  empty : p.currentRow = [] → p.desktopUsed = 0
  used : (∀ item ∈ p.currentRow, item.width ≤ desktopGridCols) →
    p.desktopUsed = (p.currentRow.map RowItem.width).sum ∧ 0 ≤ p.desktopUsed ∧
      p.desktopUsed < desktopGridCols

theorem desktopGridCols_pos : 0 < desktopGridCols := by decide

theorem bounded_empty : Bounded {} where
  rows := fun _ inNil => absurd inNil List.not_mem_nil
  tablet := fun _ inNil => absurd inNil List.not_mem_nil
  empty := fun _ => rfl
  used := fun _ => ⟨rfl, Int.le_refl 0, desktopGridCols_pos⟩

/-- A full or unfinished row goes to the others. -/
theorem bounded_flush (rows : ∀ row ∈ p.rows, row.Fits) (fits : Row.Fits ⟨p.currentRow⟩)
    (empty : p.currentRow = [] → p.desktopUsed = 0) : p.flush.Bounded := by
  rw [flush]
  split
  · rename_i isEmpty
    have none : p.desktopUsed = 0 := empty isEmpty
    refine ⟨rows, ?_, empty, ?_⟩
    · rw [isEmpty]
      exact fun _ inNil => absurd inNil List.not_mem_nil
    · rw [isEmpty, none]
      exact fun _ => ⟨rfl, Int.le_refl 0, desktopGridCols_pos⟩
  · refine ⟨?_, fun _ inNil => absurd inNil List.not_mem_nil, fun _ => rfl,
      fun _ => ⟨rfl, Int.le_refl 0, desktopGridCols_pos⟩⟩
    intro row inRows
    rcases List.mem_append.mp inRows with before | here
    · exact rows row before
    · rw [List.mem_singleton.mp here]
      exact fits

theorem Bounded.fits (bounded : p.Bounded) : Row.Fits ⟨p.currentRow⟩ where
  desktop := by
    intro each
    obtain ⟨exact, -, less⟩ := bounded.used each
    rw [← exact]
    exact Int.le_of_lt less
  tablet := bounded.tablet

theorem Bounded.flush (bounded : p.Bounded) : p.flush.Bounded :=
  bounded_flush bounded.rows bounded.fits bounded.empty

/-- The sum of columns of items that fit does not overflow. -/
theorem int64_used {used width : Int} (low : 0 ≤ used) (high : used < desktopGridCols)
    (positive : 0 < width) (fits : width ≤ desktopGridCols) :
    int64 (used + width) = used + width := by
  unfold int64
  unfold desktopGridCols at high fits
  omega

theorem Bounded.append (bounded : p.Bounded) (valid : item.Valid)
    (room : (∀ other ∈ p.currentRow, other.width ≤ desktopGridCols) →
      item.width ≤ desktopGridCols → p.desktopUsed + item.width ≤ desktopGridCols) :
    (let q := { p with
      currentRow := p.currentRow ++ [item]
      desktopUsed := int64 (p.desktopUsed + item.width) }
    if q.desktopUsed ≥ desktopGridCols then q.flush else q).Bounded := by
  have sums (each : ∀ other ∈ p.currentRow ++ [item], other.width ≤ desktopGridCols) :
      int64 (p.desktopUsed + item.width) = ((p.currentRow ++ [item]).map RowItem.width).sum ∧
        0 ≤ int64 (p.desktopUsed + item.width) ∧
        int64 (p.desktopUsed + item.width) ≤ desktopGridCols := by
    obtain ⟨others, last⟩ := List.forall_mem_append.mp each
    have fits := last item (List.mem_singleton_self item)
    obtain ⟨same, low, high⟩ := bounded.used others
    have positive := valid.width
    have total := room others fits
    rw [int64_used low high positive fits, List.map_append, List.sum_append, ← same,
      List.map_singleton, List.sum_singleton]
    exact ⟨rfl, by omega, total⟩
  have tablet : ∀ other ∈ p.currentRow ++ [item],
      other.offset.tablet + other.span.tablet ≤ tabletGridCols := by
    refine List.forall_mem_append.mpr ⟨bounded.tablet, ?_⟩
    intro other isItem
    rw [List.mem_singleton.mp isItem]
    exact valid.tablet
  have nonempty : p.currentRow ++ [item] = [] → int64 (p.desktopUsed + item.width) = 0 :=
    fun isEmpty => absurd isEmpty (List.append_ne_nil_of_right_ne_nil _ (List.cons_ne_nil _ _))
  dsimp only
  split
  · refine bounded_flush bounded.rows ⟨fun each => ?_, tablet⟩ nonempty
    obtain ⟨same, -, high⟩ := sums each
    rw [← same]
    exact high
  · rename_i notFull
    refine ⟨bounded.rows, tablet, nonempty, fun each => ?_⟩
    obtain ⟨same, low, -⟩ := sums each
    exact ⟨same, low, Int.not_le.mp notFull⟩

theorem Bounded.place (bounded : p.Bounded) (newRow : Bool) (valid : item.Valid) :
    (p.place newRow item).Bounded := by
  rw [Packing.place]
  by_cases needsNewRow : newRow = true ∨
      int64 (p.desktopUsed + item.width) > desktopGridCols ∧ p.desktopUsed > 0
  · rw [if_pos needsNewRow]
    refine bounded.flush.append valid fun _ fits => ?_
    rw [bounded.flush.empty (currentRow_flush p), Int.zero_add]
    exact fits
  · rw [if_neg needsNewRow]
    refine bounded.append valid fun others fits => ?_
    obtain ⟨-, low, high⟩ := bounded.used others
    have positive := valid.width
    rw [not_or, not_and_or, int64_used low high positive fits] at needsNewRow
    rcases needsNewRow.2 with inside | first <;> omega

end Packing

/-! ## What is placed -/

theorem grid_eq : tabletGridCols = 8 ∧ desktopGridCols = 12 := ⟨rfl, rfl⟩

theorem valid_rowItem {cols : Int} (low : 1 ≤ cols) (high : cols ≤ 4) (f : Node) :
    (rowItem cols f).Valid := by
  have columns : 3 ≤ desktopGridCols.tdiv cols ∧ tabletGridCols.tdiv (min cols 2) ≤ 8 := by
    have : cols = 1 ∨ cols = 2 ∨ cols = 3 ∨ cols = 4 := by omega
    rcases this with rfl | rfl | rfl | rfl <;> decide
  obtain ⟨desktop, tablet⟩ := columns
  have grid := grid_eq
  refine ⟨?_, ?_⟩
  · have span : 0 < (rowItem cols f).span.desktop := by
      rw [rowItem]
      dsimp only
      split
      · omega
      · split <;> omega
    have offset : 0 ≤ (rowItem cols f).offset.desktop := by
      rw [rowItem]
      dsimp only
      split
      · exact Int.le_of_lt ‹_›
      · exact Int.le_refl 0
    exact Int.add_pos_of_nonneg_of_pos offset span
  · have span : (rowItem cols f).span.tablet ≤ tabletGridCols := by
      rw [rowItem]
      dsimp only
      generalize (if (hint f).colSpan > 0 then _ else _ : Int) = desktopSpan
      split
      · omega
      · split <;> omega
    rw [rowItem] at span ⊢
    dsimp only at span ⊢
    generalize (if _ ≥ desktopGridCols then _ else _ : Int) = tabletSpan at span ⊢
    split
    · dsimp only
      split <;> omega
    · dsimp only
      omega

theorem valid_dashboardItem (n : Node) : RowItem.Valid { node := n, span := dashboardSpan n } := by
  have grid := grid_eq
  refine ⟨?_, ?_⟩
  · rw [RowItem.width, dashboardSpan]
    dsimp only
    split
    · dsimp only
      omega
    · split <;> decide
  · rw [dashboardSpan]
    dsimp only
    split
    · have least : 0 ≤ min (hint n).colSpan desktopGridCols * tabletGridCols := by
        rw [grid.1]
        omega
      dsimp only
      rw [Int.tdiv_eq_ediv_of_nonneg least, grid.1, grid.2]
      omega
    · split <;> decide

section Fold

variable {α : Type} (newRow : α → Bool) (item : α → RowItem)

theorem nodes_foldl_place (items : List α) (p : Packing) :
    (items.foldl (fun p x => p.place (newRow x) (item x)) p).nodes =
      p.nodes ++ items.map fun x => (item x).node := by
  induction items generalizing p with
  | nil => exact (List.append_nil _).symm
  | cons x items ih =>
    rw [List.foldl_cons, ih, Packing.nodes_place, List.map_cons, List.append_assoc]
    rfl

theorem bounded_foldl_place (valid : ∀ x, (item x).Valid) (items : List α) {p : Packing}
    (bounded : p.Bounded) :
    (items.foldl (fun p x => p.place (newRow x) (item x)) p).Bounded := by
  induction items generalizing p with
  | nil => exact bounded
  | cons x items ih => exact ih (bounded.place (newRow x) (valid x))

end Fold

theorem nodes_rows_flush (p : Packing) :
    (p.flush.rows.flatMap fun row => row.items.map RowItem.node) = p.nodes := by
  rw [← p.nodes_flush, Packing.nodes, p.currentRow_flush, List.map_nil, List.append_nil]

theorem foldl_packField (cols : Int) (fields : List (Option Node)) (p : Packing) :
    fields.foldl (packField cols) p =
      fields.reduceOption.foldl (fun p f => p.place (hint f).newRow (rowItem cols f)) p := by
  induction fields generalizing p with
  | nil => rfl
  | cons field fields ih =>
    cases field with
    | none => exact ih p
    | some f => exact ih (packField cols p (some f))

def SectionLayout.fields (s : SectionLayout) : List Node :=
  s.rows.flatMap fun row => row.items.map RowItem.node

/-- Every field that is not nil is placed once, in order. -/
theorem fields_packFields (node : Option Node) (fields : List (Option Node)) (cols : Int) :
    (packFields node fields cols).fields = fields.reduceOption := by
  rw [SectionLayout.fields, packFields]
  dsimp only
  rw [foldl_packField, nodes_rows_flush, nodes_foldl_place]
  exact List.map_id _

theorem fits_packFields (node : Option Node) (fields : List (Option Node)) (cols : Int) :
    ∀ row ∈ (packFields node fields cols).rows, row.Fits := by
  rw [packFields]
  dsimp only
  rw [foldl_packField]
  have valid (f : Node) : (rowItem (max 1 (min cols 4)) f).Valid :=
    valid_rowItem (by omega) (by omega) f
  exact (bounded_foldl_place _ _ valid _ Packing.bounded_empty).flush.rows

theorem fits_packDashboardPanels (panels : List (Option Node)) :
    ∀ row ∈ packDashboardPanels panels, row.Fits :=
  (bounded_foldl_place (fun _ => false) _ valid_dashboardItem _ Packing.bounded_empty).flush.rows

/-! ## Pages and their fields -/

def childrenOf (kind : NodeKind) (n : Node) : List Node :=
  n.children.reduceOption.filter (·.kind = kind)

/-- The sections of a form with their fields; those outside a section come first. -/
def formContainers (form : Node) : List (Option Node × List Node) :=
  (if flatFields form = [] then [] else [(none, (flatFields form).reduceOption)]) ++
    (childrenOf .section form).map fun sec => (some sec, sec.children.reduceOption)

def formPanes (form : Node) : List (Option Node × List Node) :=
  (childrenOf .tabs form).flatMap fun tabs =>
    (childrenOf .tabPane tabs).map fun pane => (some pane, (paneFields pane).reduceOption)

/-- The containers of a page with their fields in the order of the document. -/
def pageContainers (page : Node) : List (Option Node × List Node) :=
  (page.children.reduceOption.flatMap fun child =>
    match child.kind with
    | .form => formContainers child
    | .summaryCard => [(some child, [child])]
    | _ => []) ++
  page.children.reduceOption.flatMap fun child =>
    match child.kind with
    | .form => formPanes child
    | _ => []

/-- The fields of a form in the order of the document. -/
def formFields (form : Node) : List Node :=
  form.children.reduceOption.flatMap fun child =>
    match child.kind with
    | .section => child.children.reduceOption
    | .tabs => (childrenOf .tabPane child).flatMap fun pane => (paneFields pane).reduceOption
    | _ => [child]

def pageFields (page : Node) : List Node :=
  page.children.reduceOption.flatMap fun child =>
    match child.kind with
    | .form => formFields child
    | .summaryCard => [child]
    | _ => []

def ComputedLayout.parts (l : ComputedLayout) : List SectionLayout :=
  l.sections ++ l.tabs.flatMap TabLayout.panes

/-- A part with the nodes in its rows. -/
def placed (s : SectionLayout) : Option Node × List Node := (s.node, s.fields)

def ComputedLayout.containers (l : ComputedLayout) : List (Option Node × List Node) :=
  l.parts.map placed

def ComputedLayout.rows (l : ComputedLayout) : List Row :=
  l.parts.flatMap SectionLayout.rows ++ l.dashboardRows

theorem placed_packFields (node : Option Node) (fields : List (Option Node)) (cols : Int) :
    placed (packFields node fields cols) = (node, fields.reduceOption) :=
  congrArg (Prod.mk node) (fields_packFields node fields cols)

theorem placed_computeForm (form : Node) :
    (computeForm form).1.map placed = formContainers form ∧
      ((computeForm form).2.flatMap TabLayout.panes).map placed = formPanes form := by
  have sections : ((childrenOf .section form).map computeSection).map placed =
      (childrenOf .section form).map fun sec => (some sec, sec.children.reduceOption) := by
    rw [List.map_map]
    exact List.map_congr_left fun sec _ => placed_packFields _ _ _
  refine ⟨?_, ?_⟩
  · rw [formContainers, ← sections]
    unfold computeForm
    dsimp only
    split
    · rfl
    · rw [List.map_cons, placed_packFields]
      rfl
  · unfold computeForm
    dsimp only
    rw [formPanes, List.flatMap_map, List.map_flatMap]
    refine List.flatMap_congr fun tabs _ => ?_
    change ((childrenOf .tabPane tabs).map computeTabPane).map placed = _
    rw [List.map_map]
    exact List.map_congr_left fun pane _ => placed_packFields _ _ _

/-- Every container of a page has a part with its fields in the order of the document. -/
theorem containers_of_compute {root : Node} {layout : ComputedLayout}
    (computed : compute (some root) = .ok layout) (forms : isDashboard root = false) :
    layout.containers = pageContainers root := by
  unfold compute at computed
  dsimp only at computed
  split at computed
  · cases computed
  · rw [if_neg (by rw [forms]; exact Bool.false_ne_true)] at computed
    obtain rfl := Except.ok.inj computed
    unfold ComputedLayout.containers ComputedLayout.parts
    rw [List.map_append, pageContainers, List.flatMap_assoc, List.map_flatMap, List.map_flatMap]
    congr 1
    · refine List.flatMap_congr fun child _ => ?_
      unfold childSections
      split
      · exact (placed_computeForm child).1
      · rfl
      · rfl
    · refine List.flatMap_congr fun child _ => ?_
      unfold childTabs
      split
      · exact (placed_computeForm child).2
      · rfl

theorem flatMap_filter {α β : Type} (keep : α → Bool) (f : α → List β) (l : List α) :
    (l.filter keep).flatMap f = l.flatMap fun x => if keep x then f x else [] := by
  induction l with
  | nil => rfl
  | cons x l ih =>
    rw [List.filter_cons, List.flatMap_cons]
    cases keep x with
    | true => exact congrArg (f x ++ ·) ih
    | false => exact ih

theorem reduceOption_flatFields (form : Node) : (flatFields form).reduceOption =
    form.children.reduceOption.filter fun child => child.kind ≠ .section ∧ child.kind ≠ .tabs := by
  rw [flatFields]
  induction form.children with
  | nil => rfl
  | cons child children ih =>
    cases child with
    | none => exact ih
    | some child =>
      change (List.filter _ (some child :: children)).reduceOption =
        (child :: children.reduceOption).filter _
      rw [List.filter_cons, List.filter_cons]
      dsimp only
      split
      · exact congrArg (child :: ·) ih
      · exact ih

/-- The parts of a form hold its fields, each once. -/
theorem formContainers_perm (form : Node) :
    ((formContainers form ++ formPanes form).flatMap Prod.snd).Perm (formFields form) := by
  have flat : (if flatFields form = [] then [] else
      [((none : Option Node), (flatFields form).reduceOption)]).flatMap Prod.snd =
        (form.children.reduceOption.filter fun child =>
          child.kind ≠ .section ∧ child.kind ≠ .tabs).flatMap fun child => [child] := by
    rw [← reduceOption_flatFields, List.flatMap_singleton']
    split
    · rename_i empty
      rw [empty]
      rfl
    · exact List.flatMap_singleton _ _
  have sections : ((childrenOf .section form).map fun sec =>
      (some sec, sec.children.reduceOption)).flatMap Prod.snd =
        (childrenOf .section form).flatMap fun sec => sec.children.reduceOption := by
    rw [List.flatMap_map]
  have panes : (formPanes form).flatMap Prod.snd = (childrenOf .tabs form).flatMap fun tabs =>
      (childrenOf .tabPane tabs).flatMap fun pane => (paneFields pane).reduceOption := by
    rw [formPanes, List.flatMap_assoc]
    exact List.flatMap_congr fun tabs _ => List.flatMap_map _ _ _
  rw [List.flatMap_append, formContainers, List.flatMap_append, flat, sections, panes,
    childrenOf, childrenOf, flatMap_filter, flatMap_filter, flatMap_filter, formFields]
  refine ((List.flatMap_append_perm _ _ _).append_right _).trans
    ((List.flatMap_append_perm _ _ _).trans ?_)
  refine List.Perm.of_eq (List.flatMap_congr fun child _ => ?_)
  by_cases isSection : child.kind = .section
  · simp [isSection]
  by_cases isTabs : child.kind = .tabs
  · simp [isTabs]
  · simp only [isSection, isTabs, decide_true, decide_false, if_false, List.append_nil, ne_eq,
      not_false_eq_true, and_self, if_true, Bool.false_eq_true]

theorem pageContainers_perm (page : Node) :
    ((pageContainers page).flatMap Prod.snd).Perm (pageFields page) := by
  rw [pageContainers, List.flatMap_append, List.flatMap_assoc, List.flatMap_assoc, pageFields]
  refine (List.flatMap_append_perm _ _ _).trans (List.Perm.flatMap_left _ fun child _ => ?_)
  rw [← List.flatMap_append]
  cases child.kind with
  | form => exact formContainers_perm child
  | _ => exact List.Perm.refl _

theorem fits_computeForm (form : Node) :
    ∀ s ∈ (computeForm form).1 ++ (computeForm form).2.flatMap TabLayout.panes,
      ∀ row ∈ s.rows, row.Fits := by
  unfold computeForm
  intro s inParts
  dsimp only at inParts
  rcases List.mem_append.mp inParts with inSections | inPanes
  · have sections : ∀ s ∈ (childrenOf .section form).map computeSection, ∀ row ∈ s.rows,
        row.Fits := by
      intro s inSections
      obtain ⟨sec, -, rfl⟩ := List.mem_map.mp inSections
      exact fits_packFields _ _ _
    split at inSections
    · exact sections s inSections
    · rcases List.mem_cons.mp inSections with rfl | behind
      · exact fits_packFields _ _ _
      · exact sections s behind
  · obtain ⟨tabs, inTabs, inPanes⟩ := List.mem_flatMap.mp inPanes
    obtain ⟨node, -, rfl⟩ := List.mem_map.mp inTabs
    obtain ⟨pane, -, rfl⟩ := List.mem_map.mp inPanes
    exact fits_packFields _ _ _

theorem fits_cardSection (card : Node) : ∀ row ∈ (cardSection card).rows, row.Fits := by
  intro row inRows
  obtain rfl := List.mem_singleton.mp inRows
  refine ⟨fun _ => Int.le_refl 12, fun item inItems => ?_⟩
  rw [List.mem_singleton.mp inItems]
  exact Int.le_refl 8

theorem fits_of_compute {root : Node} {layout : ComputedLayout}
    (computed : compute (some root) = .ok layout) : ∀ row ∈ layout.rows, row.Fits := by
  unfold compute at computed
  dsimp only at computed
  split at computed
  · cases computed
  split at computed
  · obtain rfl := Except.ok.inj computed
    exact fits_packDashboardPanels root.children
  · obtain rfl := Except.ok.inj computed
    intro row inRows
    unfold ComputedLayout.rows ComputedLayout.parts at inRows
    rw [List.append_nil] at inRows
    obtain ⟨s, inParts, inSection⟩ := List.mem_flatMap.mp inRows
    have ofForm (child : Node) (part : s ∈ childSections child ∨
        s ∈ (childTabs child).flatMap TabLayout.panes) : ∀ row ∈ s.rows, row.Fits := by
      unfold childSections childTabs at part
      cases kind : child.kind with
      | form =>
        rw [kind] at part
        exact fits_computeForm child s (List.mem_append.mpr part)
      | summaryCard =>
        rw [kind] at part
        rcases part with isCard | inNil
        · rw [List.mem_singleton.mp isCard]
          exact fits_cardSection child
        · exact absurd inNil List.not_mem_nil
      | _ =>
        rw [kind] at part
        rcases part with inNil | inNil <;> exact absurd inNil List.not_mem_nil
    rcases List.mem_append.mp inParts with inSections | inPanes
    · obtain ⟨child, -, inChild⟩ := List.mem_flatMap.mp inSections
      exact ofForm child (.inl inChild) row inSection
    · obtain ⟨tabs, inTabs, inPanes⟩ := List.mem_flatMap.mp inPanes
      obtain ⟨child, -, inChild⟩ := List.mem_flatMap.mp inTabs
      exact ofForm child (.inr (List.mem_flatMap.mpr ⟨tabs, inChild, inPanes⟩)) row inSection

/-- On a page without panels every field under a form, in a section or in a tab pane is in exactly
one row, in the order of its container; the items of a row fit a desktop's grid together if each
does alone, and each fits a tablet's. -/
theorem compute_places {root : Node} {layout : ComputedLayout}
    (computed : compute (some root) = .ok layout) :
    (isDashboard root = false → layout.containers = pageContainers root ∧
      (layout.containers.flatMap Prod.snd).Perm (pageFields root)) ∧
    ∀ row ∈ layout.rows, row.Fits := by
  refine ⟨fun forms => ?_, fits_of_compute computed⟩
  have containers := containers_of_compute computed forms
  rw [containers]
  exact ⟨rfl, pageContainers_perm root⟩

def field (name : String) : Node := { kind := .other "text", name := name }

def samplePage : Node :=
  { kind := .page
    children := [none, some
      { kind := .form
        children := [some (field "a"), some { kind := .section, children := [some (field "b")] },
          some
            { kind := .tabs
              children := [some
                { kind := .tabPane
                  children := [some { kind := .section, children := [some (field "c")] }] }] }] }] }

theorem samplePage_places : ∃ layout, compute (some samplePage) = .ok layout ∧
    layout.containers = pageContainers samplePage ∧
      (layout.containers.flatMap Prod.snd).Perm (pageFields samplePage) :=
  ⟨_, rfl, (compute_places rfl).1 rfl⟩

def crowdedPage : Node :=
  { kind := .page
    children := [some
      { kind := .form
        children := [
          some
            { kind := .section
              layout := some { colSpan := 4 }
              children := [some (field "a"), some (field "b"), some (field "c"),
                some (field "d")] },
          some
            { kind := .section
              children := [some { kind := .section, children := [some (field "x")] }] },
          some { field "e" with layout := some { colSpan := 12, colOffset := 6 } }] }] }

/-- A form beside a panel. -/
def mixedPage : Node :=
  { kind := .page
    children := [some { kind := .kpiCard, name := "sales" },
      some { kind := .form, children := [some (field "a")] }] }

def placedNames (layout : ComputedLayout) : List String :=
  layout.rows.flatMap fun row => row.items.map fun item => item.node.name

/-- Rows overflow a tablet, an offset overflows a desktop, and fields of a section in a section or
beside a panel have no place. -/
theorem crowdedPage_overflows :
    (∃ layout, compute (some crowdedPage) = .ok layout ∧
      (layout.rows.map fun row => (row.items.map RowItem.width).sum) = [18, 12, 12] ∧
      (layout.rows.map fun row =>
        (row.items.map fun item => item.offset.tablet + item.span.tablet).sum) = [8, 16, 8] ∧
      "x" ∉ placedNames layout) ∧
    ∃ layout, compute (some mixedPage) = .ok layout ∧ "a" ∉ placedNames layout :=
  ⟨⟨_, rfl, by decide, by decide, by decide⟩, _, rfl, by decide⟩

end ErpFinance.Sdui.Layout
