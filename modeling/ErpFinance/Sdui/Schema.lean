import ErpFinance.Def.Entity

/-!
# Page schemas

What a compiled entity declares for its pages, the schema that the widget
generator reads, and the conversion of the one into the other.  A dashboard
registry is listed in the order in which its map happens to be read.
-/

namespace ErpFinance.Sdui

open Def (FieldType PermissionSet)
open Library

namespace Compiled

structure FieldDef where
  name : String
  type : FieldType
  label : String := ""
  description : String := ""
  required : Bool := false
  immutable : Bool := false
  isSensitive : Bool := false
  searchable : Bool := false
  maxLen : Int := 0
  options : List String := []
  hidden : Bool := false
  readOnly : Bool := false
  visibleOn : String := ""
  hiddenOn : String := ""
  disabledOn : String := ""
  requiredOn : String := ""
  placeholder : String := ""
  icon : String := ""
  width : String := ""
  computed : Bool := false
  clearOn : List String := []

structure ColumnDef where
  fields : List String

structure SectionDef where
  name : String
  label : String := ""
  icon : String := ""
  description : String := ""
  permission : String := ""
  collapsible : Bool := false
  collapsed : Bool := false
  columns : List ColumnDef := []

structure TabDef where
  name : String
  label : String := ""
  icon : String := ""
  description : String := ""
  permission : String := ""
  sections : List SectionDef := []

structure LayoutDef where
  tabs : List TabDef := []
  sections : List SectionDef := []

structure ActionDef where
  name : String
  label : String := ""
  permission : String := ""
  confirmMessage : String := ""
  icon : String := ""
  hidden : Bool := false
  workflowEvent : String := ""

structure EdgeDef where
  name : String
  target : String
  type : String
  foreignKey : String := ""
  label : String := ""
  hidden : Bool := false

structure CompiledLookup where
  targetQualifiedName : String
  searchURL : String
  valueField : String
  labelField : String

structure EntitySchema where
  qualifiedName : String
  localName : String
  module : String
  label : String
  labelPlural : String
  icon : String := ""
  apiResource : String
  routePrefix : String
  fields : List FieldDef := []
  edges : List EdgeDef := []
  actions : List ActionDef := []
  permissions : PermissionSet := {}
  fieldLookups : String → Option CompiledLookup := fun _ => none
  edgeTargets : String → Option String := fun _ => none
  workflowTriggers : Nat := 0
  layout : LayoutDef := {}

end Compiled

structure PanelDef where
  id : String
  kind : String
  title : String
  dataSource : String := ""
  chartType : String := ""
  kpiFormat : String := ""
  valueField : String := ""
  colSpan : Int := 0
  permissions : List String := []

structure DashboardDef where
  module : String
  panels : List PanelDef

/-! ## The generator's schema -/

structure SelectOption where
  label : String
  value : String
deriving DecidableEq

structure DataSource where
  url : String := ""
  method : String := ""
  valueField : String := ""
  labelField : String := ""
deriving DecidableEq

structure FieldDef where
  name : String
  label : String
  fieldType : String
  required : Bool
  readOnly : Bool
  hidden : Bool
  inList : Bool
  inForm : Bool
  inDetail : Bool
  description : String
  maxLength : Int
  placeholder : String
  icon : String
  width : String
  computed : Bool
  searchable : Bool
  clearOn : List String
  visibleOn : String
  hiddenOn : String
  disabledOn : String
  requiredOn : String
  options : List SelectOption
  dataSource : Option DataSource
  linkedEntity : String
deriving DecidableEq

structure SectionDef where
  id : String
  title : String
  icon : String
  description : String
  permission : String
  collapsible : Bool
  collapsed : Bool
  fields : List String
  columns : Nat
deriving DecidableEq

structure TabDef where
  id : String
  title : String
  icon : String
  description : String
  permission : String
  sections : List String
deriving DecidableEq

structure ActionDef where
  id : String
  label : String
  permission : String
  confirmText : String
  icon : String
  actionType : String
  level : String
deriving DecidableEq

structure RelationDef where
  name : String
  label : String
  relationType : String
  targetEntity : String
  dataURL : String
  foreignKey : String
  hidden : Bool
deriving DecidableEq

structure DashboardPanel where
  id : String
  title : String
  panelType : String
  dataURL : String
  chartType : String
  kpiFormat : String
  valueField : String
  colSpan : Int
  permissions : List String
deriving DecidableEq

/-- The permissions are a map with at most these four keys. -/
structure EntitySchema where
  name : String
  title : String
  pluralTitle : String
  icon : String
  listURL : String
  createURL : String
  editURL : String
  detailURL : String
  uiPrefix : String
  create : Option String
  read : Option String
  update : Option String
  delete : Option String
  hasWorkflow : Bool
  fields : List FieldDef
  sections : List SectionDef
  tabs : List TabDef
  actions : List ActionDef
  relations : List RelationDef
  dashboardPanels : List DashboardPanel
deriving DecidableEq

/-! ## The conversion -/

/-- The words of a snake-case name with their first letters in upper case; Go takes the first byte
of a word, which is its first letter in the ASCII names of fields. -/
def titleWords (name : String) : String :=
  " ".intercalate ((split name '_').map fun word =>
    match word.toList with
    | [] => ""
    | first :: rest => String.ofList (first.toUpper :: rest))

def deriveLabel (localName : String) : String := titleWords localName

def optionLabel (v : String) : String := titleWords v

def labelFor (f : Compiled.FieldDef) : String :=
  if f.label ≠ "" then f.label else deriveLabel f.name

def isListable : FieldType → Bool
  | .longText | .json | .linkList | .dynamicLink | .multiSelect => false
  | _ => true

def isDefaultSearchable : FieldType → Bool
  | .select | .multiSelect | .date | .dateTime | .bool | .namingSeries => true
  | _ => false

def convertField (f : Compiled.FieldDef) (es : Compiled.EntitySchema) : FieldDef :=
  { name := f.name
    label := labelFor f
    fieldType := f.type.string
    required := f.required
    readOnly := f.readOnly || f.immutable
    hidden := f.hidden || f.isSensitive
    inList := !f.hidden && !f.isSensitive && isListable f.type
    inForm := !f.hidden && !f.isSensitive
    inDetail := !f.hidden
    description := f.description
    maxLength := f.maxLen
    placeholder := f.placeholder
    icon := f.icon
    width := f.width
    computed := f.computed
    searchable := f.searchable || isDefaultSearchable f.type
    clearOn := f.clearOn
    visibleOn := f.visibleOn
    hiddenOn := f.hiddenOn
    disabledOn := f.disabledOn
    requiredOn := f.requiredOn
    options := f.options.map fun opt => { label := optionLabel opt, value := opt }
    dataSource := (es.fieldLookups f.name).map fun lookup =>
      { url := lookup.searchURL, valueField := lookup.valueField, labelField := lookup.labelField }
    linkedEntity := ((es.fieldLookups f.name).map (·.targetQualifiedName)).getD "" }

/-- The fields row by row, where the columns of one section stand side by side. -/
def interleaveColumns (cols : List Compiled.ColumnDef) : List String :=
  let maxLen := (cols.map fun col => col.fields.length).foldl max 0
  (List.range maxLen).flatMap fun row => cols.flatMap fun col => col.fields[row]?.toList

def convertSection (sec : Compiled.SectionDef) (id : String) : SectionDef :=
  { id := id
    title := sec.label
    icon := sec.icon
    description := sec.description
    permission := sec.permission
    collapsible := sec.collapsible
    collapsed := sec.collapsed
    fields := interleaveColumns sec.columns
    columns := sec.columns.length }

def sectionID (tab : Compiled.TabDef) (sec : Compiled.SectionDef) : String :=
  tab.name ++ "." ++ sec.name

def convertTabs (tabs : List Compiled.TabDef) : List SectionDef × List TabDef :=
  (tabs.flatMap fun tab => tab.sections.map fun sec => convertSection sec (sectionID tab sec),
   tabs.map fun tab =>
    { id := tab.name
      title := tab.label
      icon := tab.icon
      description := tab.description
      permission := tab.permission
      sections := tab.sections.map (sectionID tab) })

def convertSections (secs : List Compiled.SectionDef) : List SectionDef :=
  secs.map fun sec => convertSection sec sec.name

def convertEdge (e : Compiled.EdgeDef) (es : Compiled.EntitySchema) : RelationDef :=
  let fk := if e.foreignKey = "" then es.localName ++ "_id" else e.foreignKey
  { name := e.name
    label := if e.label = "" then deriveLabel e.name else e.label
    relationType := e.type
    targetEntity := e.target
    dataURL := match es.edgeTargets e.name with
      | some routePrefix => routePrefix ++ "?" ++ fk ++ "=$\x7bid\x7d"
      | none => ""
    foreignKey := fk
    hidden := e.hidden }

def actionType (a : Compiled.ActionDef) : String :=
  if a.workflowEvent ≠ "" then "workflow" else "ajax"

def actionLevel (name : String) : String :=
  if name ∈ ["submit", "approve", "confirm", "post"] then "primary"
  else if name ∈ ["cancel", "reject", "void"] then "warning"
  else if name ∈ ["delete", "discard"] then "danger"
  else "default"

def convertAction (a : Compiled.ActionDef) : ActionDef :=
  { id := a.name
    label := a.label
    permission := a.permission
    confirmText := a.confirmMessage
    icon := a.icon
    actionType := actionType a
    level := actionLevel a.name }

def convertPanel (p : PanelDef) : DashboardPanel :=
  { id := p.id
    title := p.title
    panelType := p.kind
    dataURL := p.dataSource
    chartType := p.chartType
    kpiFormat := p.kpiFormat
    valueField := p.valueField
    colSpan := p.colSpan
    permissions := p.permissions }

def collectDashboardPanels (all : List DashboardDef) (module : String) : List DashboardPanel :=
  (all.filter fun dash => dash.module = module).flatMap fun dash => dash.panels.map convertPanel

def fromCompiled (all : List DashboardDef) (es : Compiled.EntitySchema) : EntitySchema :=
  { name := es.qualifiedName
    title := es.label
    pluralTitle := es.labelPlural
    icon := es.icon
    listURL := es.routePrefix
    createURL := es.routePrefix
    editURL := es.routePrefix ++ "/$\x7bid\x7d"
    detailURL := es.routePrefix ++ "/$\x7bid\x7d"
    uiPrefix := "/ui/" ++ es.module ++ "/" ++ es.apiResource
    create := es.permissions.create.head?
    read := es.permissions.read.head?
    update := es.permissions.write.head?
    delete := es.permissions.delete.head?
    hasWorkflow := decide (0 < es.workflowTriggers)
    fields := es.fields.map fun f => convertField f es
    sections :=
      if es.layout.tabs ≠ [] then (convertTabs es.layout.tabs).1
      else convertSections es.layout.sections
    tabs := (convertTabs es.layout.tabs).2
    actions := (es.actions.filter fun a => !a.hidden).map convertAction
    relations := (es.edges.filter fun e => !e.hidden).map fun e => convertEdge e es
    dashboardPanels := collectDashboardPanels all es.module }

end ErpFinance.Sdui
