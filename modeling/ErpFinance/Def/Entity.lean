import ErpFinance.Library.Table
import ErpFinance.Library.Text

/-!
# Entity definitions

What a module declares about an entity, as far as registry, compiler, router
and runtime read it, and the names derived from the declaration.  A system and
a custom definition differ only in `isSystem`.

Modules register their definitions while the process starts; a registration
error is a panic.  The registry is sealed when compilation begins.
-/

namespace ErpFinance.Def

open Library

/-! ## Declarations -/

/-- The constants of a Go string type that could hold other texts as well. -/
inductive FieldType where
  | data
  | smallText
  | longText
  | int
  | float
  | currency
  | bool
  | date
  | dateTime
  | time
  | select
  | multiSelect
  | namingSeries
  | json
  | link
  | linkList
  | dynamicLink
deriving DecidableEq

def FieldType.string : FieldType → String
  | .data => "data"
  | .smallText => "small_text"
  | .longText => "long_text"
  | .int => "int"
  | .float => "float"
  | .currency => "currency"
  | .bool => "bool"
  | .date => "date"
  | .dateTime => "datetime"
  | .time => "time"
  | .select => "select"
  | .multiSelect => "multi_select"
  | .namingSeries => "naming_series"
  | .json => "json"
  | .link => "link"
  | .linkList => "link_list"
  | .dynamicLink => "dynamic_link"

/-- `FieldTypeLink` and `FieldTypeLinkList` are foreign keys. -/
def FieldType.isLink (type : FieldType) : Bool := type = .link || type = .linkList

/-- A default is a function value; the compiler compares it with nil and nothing else. -/
structure FieldDef where
  name : String
  type : FieldType
  required : Bool := false
  unique : Bool := false
  immutable : Bool := false
  sensitive : Bool := false
  searchable : Bool := false
  hasDefault : Bool := false
  linkTarget : String := ""
  series : String := ""
  options : List String := []
deriving DecidableEq

/-- The constants of an open string type, like `FieldType`. -/
inductive EdgeType where
  | oneToMany
  | manyToMany
  | oneToOne
deriving DecidableEq

def EdgeType.string : EdgeType → String
  | .oneToMany => "one_to_many"
  | .manyToMany => "many_to_many"
  | .oneToOne => "one_to_one"

structure EdgeDef where
  name : String
  target : String
  type : EdgeType := .oneToMany
  cascadeDelete : Bool := false
deriving DecidableEq

/-- A handler is a function value; it is compared with nil, called and nothing else. -/
abbrev ActionHandlerFunc := Nat

structure ActionDef where
  name : String
  method : String := ""
  permission : String := ""
  handlerFunc : Option ActionHandlerFunc
deriving DecidableEq

structure PermissionSet where
  create : List String := []
  read : List String := []
  write : List String := []
  delete : List String := []
  actions : List (String × List String) := []
deriving DecidableEq

structure EntityDefinition where
  name : String
  module : String
  isSystem : Bool := true
  pluralName : String := ""
  allowAudit : Bool := true
  fields : List FieldDef := []
  edges : List EdgeDef := []
  actions : List ActionDef := []
  permissions : PermissionSet := {}
deriving DecidableEq

/-! ## Names -/

def hasModulePrefix (d : EntityDefinition) : Bool := hasPrefix d.name (d.module ++ "_")

/-- `QualifiedName`; a name with the module's prefix is already qualified. -/
def qualifiedName (d : EntityDefinition) : String :=
  if hasModulePrefix d then d.name else d.module ++ "_" ++ d.name

def localName (d : EntityDefinition) : String :=
  if hasModulePrefix d then trimPrefix d.name (d.module ++ "_") else d.name

/-- The irregular plurals. -/
def irregulars (w : String) : Option String :=
  match w with
  | "person" => some "people"
  | "man" => some "men"
  | "child" => some "children"
  | "entry" => some "entries"
  | "policy" => some "policies"
  | _ => none

/-- A word in `y` behind a letter that is no vowel. -/
def endsInConsonantY (w : String) : Bool :=
  match w.toList.reverse with
  | 'y' :: prev :: _ => prev ∉ "aeiou".toList
  | _ => false

def pluralizeWord (w : String) : String :=
  if w = "" then w
  else
    match irregulars w with
    | some plural => plural
    | none =>
      if endsInConsonantY w then String.ofList w.toList.dropLast ++ "ies"
      else if ["sh", "ch", "ss", "zz"].any (hasSuffix w) then w ++ "es"
      else if hasSuffix w "x" || hasSuffix w "z" then w ++ "es"
      else w ++ "s"

/-- `PluralizeLocal`: the last part of a snake-case name is put in the plural. -/
def pluralizeLocal (localName : String) : String :=
  if localName = "" then ""
  else
    let parts := (localName.toList.splitOn '_').map String.ofList
    "_".intercalate (parts.dropLast ++ parts.getLast?.toList.map pluralizeWord)

/-! ## The qualified name -/

theorem qualifiedName_eq (d : EntityDefinition) :
    qualifiedName d = d.module ++ "_" ++ localName d := by
  unfold qualifiedName localName
  by_cases prefixed : hasModulePrefix d = true
  · obtain ⟨rest, split⟩ := hasPrefix_iff.mp prefixed
    rw [if_pos prefixed, if_pos prefixed, split, trimPrefix_append]
  · rw [if_neg prefixed, if_neg prefixed]

example : pluralizeLocal "org_assignment" = "org_assignments" := by decide +kernel
example : pluralizeLocal "entry" = "entries" := by decide +kernel

instance : Keyed EntityDefinition String := ⟨qualifiedName⟩

@[simp] theorem EntityDefinition.key_eq (d : EntityDefinition) : Keyed.key d = qualifiedName d :=
  rfl

/-- `defs` and `byName` as one table: no two definitions have one qualified name. -/
structure EntityRegistry where
  defs : Table EntityDefinition := .empty
  isSealed : Bool := false

namespace EntityRegistry

/-- `Register`; the error is the text of the panic. -/
def register (reg : EntityRegistry) (d : Option EntityDefinition) : Except String EntityRegistry :=
  match d with
  | none => .error "def.Register: nil EntityDefinition"
  | some d =>
    if d.name = "" then .error "def.Register: EntityDefinition has empty Name"
    else if d.module = "" then
      .error ("def.Register: entity " ++ quoted d.name ++ " has empty Module")
    else if reg.isSealed then
      .error ("def.Register: cannot register " ++ quoted (qualifiedName d) ++
        " after the registry is sealed")
    else
      match reg.defs.get? (qualifiedName d) with
      | some existing =>
        .error ("def.Register: duplicate entity name " ++ quoted (qualifiedName d) ++
          " (already registered from module " ++ quoted existing.module ++ ")")
      | none => .ok { reg with defs := reg.defs.insert d }

/-- `Seal`. -/
def sealed (reg : EntityRegistry) : EntityRegistry := { reg with isSealed := true }

/-- What a process registers before it compiles. -/
def registerAll (ds : List (Option EntityDefinition)) : Except String EntityRegistry :=
  ds.foldlM register {}

end EntityRegistry

end ErpFinance.Def
