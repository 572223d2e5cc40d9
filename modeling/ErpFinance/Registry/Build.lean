import ErpFinance.Def.Entity
import ErpFinance.Library.Index

/-!
# The validated registry

Validation of the registered definitions, and the registry built of them: by
`Build` from the sealed global registry, or by `BuildFrom` from a list.
-/

namespace ErpFinance

open ErpFinance.Def ErpFinance.Library

/-- The definitions in registration order, and by qualified name. -/
structure Registry where
  defs : List EntityDefinition
  byName : String → Option EntityDefinition

namespace Registry

/-! ## Names -/

def isLower (c : Char) : Bool := 'a' ≤ c && c ≤ 'z'

def isLowerOrDigit (c : Char) : Bool := isLower c || c.isDigit

/-- The automaton of `[a-z][a-z0-9]*(?:_[a-z][a-z0-9]*)*`; a word starts at the flag. -/
def snakeCase : Bool → List Char → Bool
  | true, [] => false
  | true, c :: rest => isLower c && snakeCase false rest
  | false, [] => true
  | false, c :: rest =>
    if c = '_' then snakeCase true rest else isLowerOrDigit c && snakeCase false rest

/-- `entityNameRe`, which is also the compiler's `localNameRe`. -/
def entityNameRe (name : String) : Bool := snakeCase true name.toList

/-- `[a-z][a-z0-9_]*`. -/
def isIdentifier : List Char → Bool
  | [] => false
  | c :: rest => isLower c && rest.all (fun c => isLowerOrDigit c || c = '_')

def fieldNameRe (name : String) : Bool := isIdentifier name.toList

theorem snakeCase_chars {start : Bool} {cs : List Char} (matched : snakeCase start cs = true) :
    ∀ c ∈ cs, c = '_' ∨ isLowerOrDigit c = true := by
  induction cs generalizing start with
  | nil => simp
  | cons c rest ih =>
    rw [List.forall_mem_cons]
    cases start with
    | true =>
      rw [snakeCase, Bool.and_eq_true] at matched
      exact ⟨.inr (by simp [isLowerOrDigit, matched.1]), ih matched.2⟩
    | false =>
      by_cases underscore : c = '_'
      · rw [snakeCase, if_pos underscore] at matched
        exact ⟨.inl underscore, ih matched⟩
      · rw [snakeCase, if_neg underscore, Bool.and_eq_true] at matched
        exact ⟨.inr matched.1, ih matched.2⟩

variable {name : String}

theorem notMem_of_entityNameRe {c : Char} (matched : entityNameRe name = true) (separator : c ≠ '_')
    (other : isLowerOrDigit c = false) : c ∉ name.toList := by
  intro member
  rcases snakeCase_chars matched c member with underscore | letter
  · exact separator underscore
  · simp [other] at letter

theorem notMem_of_fieldNameRe {c : Char} (matched : fieldNameRe name = true) (separator : c ≠ '_')
    (other : isLowerOrDigit c = false) : c ∉ name.toList := by
  intro member
  cases chars : name.toList with
  | nil => simp [chars] at member
  | cons first rest =>
    simp only [fieldNameRe, chars, isIdentifier, Bool.and_eq_true, List.all_eq_true] at matched
    rw [chars, List.mem_cons] at member
    rcases member with rfl | inRest
    · simp [isLowerOrDigit, matched.1] at other
    · have letter := matched.2 c inRest
      simp [separator, other] at letter

/-! ## Validation -/

/-- The reason why an entity has to be a system definition. -/
def mandatorySystemEntities (qname : String) : Option String :=
  match qname with
  | "iam_user" => some "IAM data; JSONB corruption risk"
  | "platform_tenant" => some "Platform identity; accessible before per-tenant schemas load"
  | "finance_ledger_entry" => some "Double-entry accounting; SQL numeric constraints"
  | "finance_journal_entry" => some "Double-entry; debit/credit balance enforced at DB level"
  | "finance_payment" => some "Financial transaction; SQL constraints + audit triggers"
  | "finance_tax_entry" => some "KRA eTIMS record; regulatory compliance"
  | "inventory_stock_move" => some "Inventory accounting; SQL quantity constraints"
  | _ => none

/-- The error, when there is one. -/
def complain (wrong : Bool) (message : String) : List String := if wrong then [message] else []

def moneyHints : List String := ["amount", "total", "price", "cost", "fee", "tax"]

/-- The checks of a named field; `seen` are the names of the fields before it. -/
def validateField (qname : String) (known : String → Bool) (seen : List String) (f : FieldDef) :
    List String :=
  let field := "entity " ++ quoted qname ++ ": field " ++ quoted f.name
  complain (!fieldNameRe f.name) (field ++ " name must be snake_case") ++
    complain (f.name ∈ seen)
      ("entity " ++ quoted qname ++ ": duplicate field name " ++ quoted f.name) ++
    (if f.type.isLink then
      if f.linkTarget = "" then [field ++ " (Link/LinkList) has empty LinkTarget"]
      else complain (!known f.linkTarget)
        (field ++ " LinkTarget " ++ quoted f.linkTarget ++ " is not registered")
    else []) ++
    complain (f.type = .namingSeries && f.series = "")
      (field ++ " (NamingSeries) has empty Series pattern") ++
    complain (f.type = .select && f.options.isEmpty) (field ++ " (Select) has no Options") ++
    complain (f.type = .float && moneyHints.any (contains (toLower f.name)))
      (field ++ " looks monetary but uses FieldTypeFloat — " ++
        "use FieldTypeCurrency (numeric(20,4)) instead")

def validateEdge (qname : String) (known : String → Bool) (seen : List String) (e : EdgeDef) :
    List String :=
  complain (e.name ∈ seen)
      ("entity " ++ quoted qname ++ ": duplicate edge name " ++ quoted e.name) ++
    (if e.target = "" then
      ["entity " ++ quoted qname ++ ": edge " ++ quoted e.name ++ " has empty Target"]
    else complain (!known e.target) ("entity " ++ quoted qname ++ ": edge " ++ quoted e.name ++
      " Target " ++ quoted e.target ++ " is not registered"))

def validateAction (qname : String) (seen : List String) (a : ActionDef) : List String :=
  complain (a.name ∈ seen)
      ("entity " ++ quoted qname ++ ": duplicate action name " ++ quoted a.name) ++
    complain a.handlerFunc.isNone
      ("entity " ++ quoted qname ++ ": action " ++ quoted a.name ++ " has nil HandlerFunc")

/-- A loop over named parts; one with an empty name gets that error and is skipped. -/
def validateParts {α : Type} (name : α → String) (unnamed : String)
    (check : List String → α → List String) : List String → List α → List String
  | _, [] => []
  | seen, part :: rest =>
    if name part = "" then unnamed :: validateParts name unnamed check seen rest
    else check seen part ++ validateParts name unnamed check (name part :: seen) rest

def validateDefinition (d : EntityDefinition) (known : String → Bool) : List String :=
  let qname := qualifiedName d
  let entity := "entity " ++ quoted qname
  complain (d.module = "") ("entity " ++ quoted d.name ++ ": Module is empty") ++
    complain (!entityNameRe d.name) (entity ++ " (module " ++ quoted d.module ++
      "): Name must be module-local snake_case (e.g. \"organization\", not " ++
      quoted d.name ++ ")") ++
    (match mandatorySystemEntities qname with
    | some reason => complain (!d.isSystem)
        (entity ++ ": must be a SystemDefinition (" ++ reason ++ ")")
    | none => []) ++
    validateParts FieldDef.name (entity ++ ": field has empty Name") (validateField qname known)
      [] d.fields ++
    validateParts EdgeDef.name (entity ++ ": edge has empty Name") (validateEdge qname known)
      [] d.edges ++
    validateParts ActionDef.name (entity ++ ": action has empty Name") (validateAction qname)
      [] d.actions

/-- The errors about mandatory system entities are told by their text. -/
def validateDefinitionRelaxed (d : EntityDefinition) (known : String → Bool) : List String :=
  (validateDefinition d known).filter fun e => !contains e "must be a SystemDefinition"

/-! ## Construction -/

def fromValidated (validate : EntityDefinition → (String → Bool) → List String)
    (caller : String) (defs : List EntityDefinition) : Except String Registry :=
  let byQName := index qualifiedName defs
  let errs := defs.flatMap fun d => validate d fun name => (byQName name).isSome
  if errs.isEmpty then .ok ⟨defs, byQName⟩
  else .error (caller ++ ": validation failed:\n  - " ++ "\n  - ".intercalate errs)

variable {defs : List EntityDefinition}

/-- Without errors the registry holds the definitions as they are. -/
theorem fromValidated_eq_ok {validate : EntityDefinition → (String → Bool) → List String}
    {caller : String}
    (clean : (defs.flatMap fun d => validate d fun name => (index qualifiedName defs
      name).isSome).isEmpty = true) :
    fromValidated validate caller defs = .ok ⟨defs, index qualifiedName defs⟩ :=
  if_pos clean

/-- `Build`; the error is the text of the panic. -/
def build (registered : EntityRegistry) : Except String Registry × EntityRegistry :=
  let defs := registered.defs.rows
  (if defs.isEmpty then
    .error ("registry.Build: no EntityDefinitions registered" ++
      " — did module init() functions run?")
  else fromValidated validateDefinition "registry.Build" defs, registered.sealed)

/-- `BuildFrom`, which does not ask for distinct names. -/
def buildFrom (defs : List EntityDefinition) : Except String Registry :=
  if defs.isEmpty then .error "registry.BuildFrom: no EntityDefinitions provided"
  else fromValidated validateDefinitionRelaxed "registry.BuildFrom" defs

variable {reg : Registry}

theorem fromValidated_defs {validate : EntityDefinition → (String → Bool) → List String}
    {caller : String} (accepted : fromValidated validate caller defs = .ok reg) :
    reg.defs = defs := by
  simp only [fromValidated] at accepted
  split at accepted
  · rw [← Except.ok.inj accepted]
  · cases accepted

variable {registered : EntityRegistry}

theorem build_defs (accepted : (build registered).1 = .ok reg) :
    reg.defs = registered.defs.rows := by
  simp only [build] at accepted
  split at accepted
  · cases accepted
  · exact fromValidated_defs accepted

theorem buildFrom_defs (accepted : buildFrom defs = .ok reg) : reg.defs = defs := by
  unfold buildFrom at accepted
  split at accepted
  · cases accepted
  · exact fromValidated_defs accepted

/-! ## What an accepted registry guarantees -/

structure Sound (reg : Registry) : Prop where
  nodup : (reg.defs.map qualifiedName).Nodup
  named : ∀ d ∈ reg.defs, ∀ a ∈ d.actions, a.name ≠ ""

theorem named_of_validateParts {α : Type} {name : α → String} {unnamed : String}
    {check : List String → α → List String} {seen : List String} {parts : List α}
    (clean : validateParts name unnamed check seen parts = []) :
    ∀ part ∈ parts, name part ≠ "" := by
  induction parts generalizing seen with
  | nil => simp
  | cons part rest ih =>
    rw [validateParts] at clean
    split at clean
    · cases clean
    · rename_i named
      exact List.forall_mem_cons.mpr ⟨named, ih (List.append_eq_nil_iff.mp clean).2⟩

theorem checked_of_validateParts {α : Type} {name : α → String} {unnamed : String}
    {check : List String → α → List String}
    (refuses : ∀ seen part, check seen part = [] → name part ∉ seen) {seen : List String}
    {parts : List α} (clean : validateParts name unnamed check seen parts = []) :
    (parts.map name).Nodup ∧
      ∀ part ∈ parts, name part ∉ seen ∧ ∃ earlier, check earlier part = [] := by
  induction parts generalizing seen with
  | nil => simp
  | cons part rest ih =>
    rw [validateParts] at clean
    split at clean
    · cases clean
    · obtain ⟨checked, others⟩ := List.append_eq_nil_iff.mp clean
      obtain ⟨nodup, unseen⟩ := ih others
      refine ⟨List.nodup_cons.mpr ⟨fun again => ?_, nodup⟩,
        List.forall_mem_cons.mpr ⟨⟨refuses _ _ checked, seen, checked⟩, fun other member => ?_⟩⟩
      · obtain ⟨other, member, same⟩ := List.mem_map.mp again
        exact (unseen other member).1 (same ▸ List.mem_cons_self)
      · obtain ⟨notSeen, accepted⟩ := unseen other member
        exact ⟨fun before => notSeen (List.mem_cons_of_mem _ before), accepted⟩

/-- What a definition of an accepted registry is made of. -/
structure Checked (reg : Registry) (d : EntityDefinition) : Prop where
  fields : (d.fields.map FieldDef.name).Nodup
  edges : (d.edges.map EdgeDef.name).Nodup
  actions : (d.actions.map ActionDef.name).Nodup
  fieldNames : ∀ f ∈ d.fields, fieldNameRe f.name = true
  linkTargets : ∀ f ∈ d.fields, f.type.isLink = true →
    ∃ other ∈ reg.defs, qualifiedName other = f.linkTarget
  edgeTargets : ∀ e ∈ d.edges, ∃ other ∈ reg.defs, qualifiedName other = e.target

theorem complain_eq_nil {wrong : Bool} {message : String} :
    complain wrong message = [] ↔ wrong = false := by
  cases wrong <;> simp [complain]

theorem exists_of_known (known : (index qualifiedName defs name).isSome = true) :
    ∃ d ∈ defs, qualifiedName d = name := by
  obtain ⟨d, lookup⟩ := Option.isSome_iff_exists.mp known
  exact ⟨d, index_eq_some lookup⟩

theorem validateDefinition_of_build (accepted : (build registered).1 = .ok reg)
    {d : EntityDefinition} (member : d ∈ reg.defs) :
    validateDefinition d (fun name => (index qualifiedName reg.defs name).isSome) = [] := by
  have defs := build_defs accepted
  rw [defs] at member ⊢
  simp only [build] at accepted
  split at accepted
  · cases accepted
  · simp only [fromValidated] at accepted
    split at accepted
    · rename_i clean
      exact List.flatMap_eq_nil_iff.mp (List.isEmpty_iff.mp clean) d member
    · cases accepted

theorem checked_of_build (accepted : (build registered).1 = .ok reg) {d : EntityDefinition}
    (member : d ∈ reg.defs) :
    Checked reg d := by
  have errors := validateDefinition_of_build accepted member
  simp only [validateDefinition, List.append_eq_nil_iff] at errors
  obtain ⟨⟨⟨-, fieldsClean⟩, edgesClean⟩, actionsClean⟩ := errors
  obtain ⟨fields, eachField⟩ := checked_of_validateParts (fun seen f checked => by
    simp only [validateField, List.append_eq_nil_iff, complain_eq_nil] at checked
    simpa using checked.1.1.1.1.2) fieldsClean
  obtain ⟨edges, eachEdge⟩ := checked_of_validateParts (fun seen e checked => by
    simp only [validateEdge, List.append_eq_nil_iff, complain_eq_nil] at checked
    simpa using checked.1) edgesClean
  obtain ⟨actions, -⟩ := checked_of_validateParts (fun seen a checked => by
    simp only [validateAction, List.append_eq_nil_iff, complain_eq_nil] at checked
    simpa using checked.1) actionsClean
  refine ⟨fields, edges, actions, fun f inFields => ?_, fun f inFields link => ?_,
    fun e inEdges => ?_⟩
  · obtain ⟨-, seen, checked⟩ := eachField f inFields
    simp only [validateField, List.append_eq_nil_iff, complain_eq_nil] at checked
    simpa using checked.1.1.1.1.1
  · obtain ⟨-, seen, checked⟩ := eachField f inFields
    simp only [validateField, List.append_eq_nil_iff, complain_eq_nil, if_pos link] at checked
    obtain ⟨⟨⟨⟨-, target⟩, -⟩, -⟩, -⟩ := checked
    split at target
    · cases target
    · rw [complain_eq_nil] at target
      exact exists_of_known (by simpa using target)
  · obtain ⟨-, seen, checked⟩ := eachEdge e inEdges
    simp only [validateEdge, List.append_eq_nil_iff] at checked
    obtain ⟨-, target⟩ := checked
    split at target
    · cases target
    · rw [complain_eq_nil] at target
      exact exists_of_known (by simpa using target)

/-- What `Register` and `Build` check between them. -/
theorem sound_of_build (accepted : (build registered).1 = .ok reg) : Sound reg where
  nodup := build_defs accepted ▸ registered.defs.nodup
  named := fun _ member a action =>
    named_of_validateParts
      (List.append_eq_nil_iff.mp (validateDefinition_of_build accepted member)).2 a action

end Registry

end ErpFinance
