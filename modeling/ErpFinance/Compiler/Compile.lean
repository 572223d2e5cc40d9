import ErpFinance.Compiler.Graph
import ErpFinance.Registry.Build

/-!
# Compilation

What the compiler asks of the definitions of a registry beyond the checks that
built it.  Only diagnostics of error severity stop a compilation.

`Compile` turns a registry into the schema that every runtime subsystem reads:
the entities in registration order, their routes and their capability grants.
-/

namespace ErpFinance.Compiler

open Def Library Registry

/-- `{module}.{entity}.{operation}`. -/
def permissionIdentifierRe (perm : String) : Bool :=
  let parts := perm.toList.splitOn '.'
  parts.length = 3 && parts.all isIdentifier

def report (wrong : Bool) (d : Diagnostic) : List Diagnostic := if wrong then [d] else []

def moneySuffixes : List String := ["_amount", "_price", "_cost", "_total", "_fee", "_tax"]

/-- The checks of a field; `seen` are the names of the fields before it. -/
def validateField (qname : String) (names seen : List String) (f : FieldDef) : List Diagnostic :=
  let diagnostic (severity : Severity) (message : String) : Diagnostic :=
    { severity := severity, entityName := qname, fieldName := f.name, message := message }
  report (f.name ∈ seen) (diagnostic .error "duplicate field name") ++
    report ((f.type = .float || f.type = .int) &&
        moneySuffixes.any (hasSuffix (toLower f.name)))
      (diagnostic .warning ("field " ++ quoted f.name ++ " looks like money but uses type " ++
        quoted f.type.string ++ " — use FieldTypeCurrency instead")) ++
    report (f.type = .namingSeries && f.series = "")
      (diagnostic .error "FieldTypeNamingSeries field must have a non-empty Series pattern") ++
    report (f.type.isLink && f.linkTarget ≠ "" && f.linkTarget ∉ names)
      (diagnostic .error ("link target " ++ quoted f.linkTarget ++ " is not registered")) ++
    report (f.required && f.hasDefault)
      (diagnostic .warning ("field is both Required and has a Default — the default satisfies " ++
        "the required constraint; consider removing Required")) ++
    report (f.immutable && !f.required && !f.hasDefault)
      (diagnostic .warning ("Immutable field has neither Required nor Default — " ++
        "it will always be zero-valued and cannot be changed after creation"))

def validateFields (qname : String) (names : List String) :
    List String → List FieldDef → List Diagnostic
  | _, [] => []
  | seen, f :: rest =>
    validateField qname names seen f ++ validateFields qname names (f.name :: seen) rest

def validateEdges (qname : String) : List String → List EdgeDef → List Diagnostic
  | _, [] => []
  | seen, e :: rest =>
    report (e.name ∈ seen)
      { severity := .error, entityName := qname
        message := "duplicate edge name " ++ quoted e.name } ++
      validateEdges qname (e.name :: seen) rest

def collectPermissions (ps : PermissionSet) : List String :=
  ps.create ++ ps.read ++ ps.write ++ ps.delete ++ ps.actions.flatMap Prod.snd

def validatePermission (d : EntityDefinition) (perm : String) : List Diagnostic :=
  if hasPrefix perm "role:" then
    [{ severity := .error
       entityName := qualifiedName d
       message := "PermissionSet entry " ++ quoted perm ++
        " is a role name, not a permission identifier; this violates ADR-001/ADR-011. " ++
        "Use \"\x7bmodule\x7d.\x7bentity\x7d.\x7boperation\x7d\" format (e.g. " ++
        quoted (d.module ++ "." ++ localName d ++ ".read") ++
        "). Seed the role-to-permission mapping in iam_role_permissions instead." }]
  else
    report (!permissionIdentifierRe perm)
      { severity := .warning
        entityName := qualifiedName d
        message := "PermissionSet entry " ++ quoted perm ++
          " does not match the expected format " ++
          "\"\x7bmodule\x7d.\x7bentity\x7d.\x7boperation\x7d\" (e.g. \"finance.invoice.create\")" }

def validateDefinition (names : List String) (d : EntityDefinition) : List Diagnostic :=
  let qname := qualifiedName d
  let name := localName d
  report (!entityNameRe name)
      { severity := .error
        entityName := qname
        message := "local entity name " ++ quoted name ++
          " must be snake_case (^[a-z][a-z0-9]*(?:_[a-z][a-z0-9]*)*$)" } ++
    report (hasModulePrefix d)
      { severity := .warning
        entityName := qname
        message := "entity Name " ++ quoted d.name ++ " contains the module prefix — use " ++
          quoted name ++ " and let the compiler derive " ++ quoted qname } ++
    validateFields qname names [] d.fields ++
    (collectPermissions d.permissions).flatMap (validatePermission d) ++
    validateEdges qname [] d.edges

def validate (reg : Registry) : List Diagnostic :=
  reg.defs.flatMap (validateDefinition (reg.defs.map qualifiedName))

theorem entityNameRe_of_validate {reg : Registry} (clean : hasErrors (validate reg) = false)
    {d : EntityDefinition} (member : d ∈ reg.defs) : entityNameRe (localName d) = true := by
  cases matched : entityNameRe (localName d) with
  | true => rfl
  | false =>
    have inside : hasErrors (validateDefinition (reg.defs.map qualifiedName) d) = true := by
      simp [validateDefinition, hasErrors, report, matched]
    simp only [validate, hasErrors, List.any_flatMap, List.any_eq_false] at clean
    exact absurd inside (clean d member)

structure CompiledSchema where
  entities : List EntitySchema
  byName : String → Option EntitySchema
  routes : List RouteDescriptor
  capabilityGrants : List CapabilityGrant
  graph : DependencyGraph
  diagnostics : List Diagnostic

def errors (ds : List Diagnostic) : List Diagnostic := ds.filter (fun d => d.severity = .error)

/-- The links of the schema are resolved against the same names, which adds no check. -/
def compile (starts : Ranging String) (targets : String → Ranging String) (reg : Registry) :
    Except (List Diagnostic) CompiledSchema :=
  let ds := validate reg
  if hasErrors ds then .error (errors ds)
  else
    let entities := reg.defs.map buildEntitySchema
    let (graph, graphDS) := dependencyAnalysis starts targets entities
    if hasErrors graphDS then .error (errors (ds ++ graphDS))
    else
      .ok
        { entities := entities
          byName := index EntitySchema.qualifiedName entities
          routes := entities.flatMap emitRoutes
          capabilityGrants := entities.flatMap emitCapabilityGrants
          graph := graph
          diagnostics := ds ++ graphDS }

section Compiled

variable {starts : Ranging String} {targets : String → Ranging String} {reg : Registry}
  {schema : CompiledSchema}

theorem compile_eq_ok (compiled : compile starts targets reg = .ok schema) :
    hasErrors (validate reg) = false ∧ schema.entities = reg.defs.map buildEntitySchema ∧
      schema.byName = index EntitySchema.qualifiedName schema.entities ∧
      schema.routes = schema.entities.flatMap emitRoutes ∧
      schema.capabilityGrants = schema.entities.flatMap emitCapabilityGrants := by
  simp only [compile] at compiled
  split at compiled
  · cases compiled
  · rename_i clean
    split at compiled
    · cases compiled
    · rw [← Except.ok.inj compiled]
      exact ⟨by simpa using clean, rfl, rfl, rfl, rfl⟩

theorem mem_entities (compiled : compile starts targets reg = .ok schema) {es : EntitySchema} :
    es ∈ schema.entities ↔ ∃ d ∈ reg.defs, buildEntitySchema d = es := by
  rw [(compile_eq_ok compiled).2.1, List.mem_map]

end Compiled

end ErpFinance.Compiler
