import ErpFinance.Compiler.DependencyAnalysis
import ErpFinance.Library.Digits
import ErpFinance.Library.Except
import ErpFinance.Runtime.Registry

/-!
# Names that tell entities apart

Which of the names derived for the entities of a compiled schema are distinct,
and what a lookup by each of them returns.  Custom entities share one table,
and nothing keeps two entities from getting one route prefix.
-/

namespace ErpFinance.Runtime

open Compiler Def Library Registry

section Namespaces

variable {d other : EntityDefinition}

/-- A separator outside names lets module and local name be read back. -/
theorem qualifiedName_of_joined {joint : String} {separator : Char}
    (single : joint.toList = [separator]) (underscore : separator ≠ '_')
    (other_char : isLowerOrDigit separator = false) (matched : entityNameRe (localName d) = true)
    (matched' : entityNameRe (localName other) = true)
    (same : d.module ++ joint ++ localName d = other.module ++ joint ++ localName other) :
    qualifiedName d = qualifiedName other := by
  have chars : d.module.toList ++ separator :: (localName d).toList =
      other.module.toList ++ separator :: (localName other).toList := by
    simpa [single] using congrArg String.toList same
  obtain ⟨modules, locals⟩ := eq_of_append_last
    (notMem_of_entityNameRe matched underscore other_char)
    (notMem_of_entityNameRe matched' underscore other_char) chars
  rw [qualifiedName_eq, qualifiedName_eq, String.toList_inj.mp modules,
    String.toList_inj.mp locals]

end Namespaces

/-! ## Routes -/

/-- One route prefix continues the other with a record's path, or they are equal. -/
def Overlaps (first second : String) : Prop :=
  first = second ∨ (∃ rest, first = second ++ "/:id" ++ rest) ∨
    ∃ rest, second = first ++ "/:id" ++ rest

section Routes

variable {es other : EntitySchema} {r : RouteDescriptor}

/-- What a route appends to the prefix of its entity: nothing, or the path of a record. -/
def IsSuffix (rest : List Char) : Prop :=
  rest = [] ∨ ∃ more, rest = '/' :: ':' :: 'i' :: 'd' :: more

theorem emitRoutes_entity (member : r ∈ emitRoutes es) :
    r.entityQualifiedName = es.qualifiedName := by
  rcases List.mem_append.mp member with standard | action
  · simp only [List.mem_cons, List.not_mem_nil, or_false] at standard
    rcases standard with rfl | rfl | rfl | rfl | rfl <;> rfl
  · obtain ⟨a, -, rfl⟩ := List.mem_map.mp action
    rfl

theorem emitRoutes_path (member : r ∈ emitRoutes es) :
    ∃ rest, r.path.toList = es.routePrefix.toList ++ rest ∧ IsSuffix rest := by
  have collection : ∃ rest, es.routePrefix.toList = es.routePrefix.toList ++ rest ∧
      IsSuffix rest := ⟨[], (List.append_nil _).symm, .inl rfl⟩
  have record : ∃ rest, (es.routePrefix ++ "/:id").toList = es.routePrefix.toList ++ rest ∧
      IsSuffix rest := ⟨_, String.toList_append, .inr ⟨[], rfl⟩⟩
  rcases List.mem_append.mp member with standard | action
  · simp only [List.mem_cons, List.not_mem_nil, or_false] at standard
    rcases standard with rfl | rfl | rfl | rfl | rfl
    · exact collection
    · exact record
    · exact collection
    · exact record
    · exact record
  · obtain ⟨a, -, rfl⟩ := List.mem_map.mp action
    exact ⟨"/:id/".toList ++ a.name.toList, by simp [actionRoute],
      .inr ⟨'/' :: a.name.toList, rfl⟩⟩

/-- A part cut off the front of a suffix, with a suffix left over, is itself one. -/
theorem IsSuffix.front {front rest : List Char} (whole : IsSuffix (front ++ rest))
    (left : IsSuffix rest) : IsSuffix front := by
  rcases whole with empty | ⟨more, split⟩
  · exact .inl (List.append_eq_nil_iff.mp empty).1
  · rcases left with rfl | ⟨tail, rfl⟩
    · exact .inr ⟨more, by rwa [List.append_nil] at split⟩
    · -- the slash of the rest is the first of the whole, or lies behind the four characters
      match front, split with
      | [], _ => exact .inl rfl
      | [_], split => simp at split
      | [_, _], split => simp at split
      | [_, _, _], split => simp at split
      | a :: b :: c :: d :: front, split =>
        simp only [List.cons_append, List.cons.injEq] at split
        obtain ⟨rfl, rfl, rfl, rfl, -⟩ := split
        exact .inr ⟨front, rfl⟩

theorem continues_of_suffix {first second : String} {front : List Char}
    (split : second.toList = first.toList ++ front) (suffixes : IsSuffix front) :
    first = second ∨ ∃ rest, second = first ++ "/:id" ++ rest := by
  rcases suffixes with rfl | ⟨more, rfl⟩
  · rw [List.append_nil] at split
    exact .inl (String.toList_inj.mp split.symm)
  · refine .inr ⟨String.ofList more, String.toList_inj.mp ?_⟩
    rw [split]
    simp

theorem overlaps_of_path {r' : RouteDescriptor} (first : r ∈ emitRoutes es)
    (second : r' ∈ emitRoutes other) (same : r.path = r'.path) :
    Overlaps es.routePrefix other.routePrefix := by
  obtain ⟨rest, path, suffixes⟩ := emitRoutes_path first
  obtain ⟨rest', path', suffixes'⟩ := emitRoutes_path second
  have paths : es.routePrefix.toList ++ rest = other.routePrefix.toList ++ rest' := by
    rw [← path, ← path', same]
  rcases List.append_eq_append_iff.mp paths with ⟨front, longer, split⟩ | ⟨front, longer, split⟩
  · subst split
    rcases continues_of_suffix longer (suffixes.front suffixes') with equal | continues
    · exact .inl equal
    · exact .inr (.inr continues)
  · subst split
    rcases continues_of_suffix longer (suffixes'.front suffixes) with equal | continues
    · exact .inl equal.symm
    · exact .inr (.inl continues)

end Routes

/-! ## Accepted definitions -/

/-- A registry built of registered definitions, or of a list in which no two share a name. -/
def Accepted (reg : Registry) : Prop :=
  (∃ registered, (build registered).1 = .ok reg) ∨
    ∃ defs, buildFrom defs = .ok reg ∧ (defs.map qualifiedName).Nodup

def customTable : String := "custom_entity_records"

/-- What tells the entities of a schema apart, and what lookups by it return. -/
structure Distinguished (schema : CompiledSchema) : Prop where
  qualifiedNames : (schema.entities.map EntitySchema.qualifiedName).Nodup
  permissions : (schema.entities.map EntitySchema.permissionNamespace).Nodup
  metrics : (schema.entities.map EntitySchema.metricNamespace).Nodup
  workflows : (schema.entities.map EntitySchema.workflowNamespace).Nodup
  events : (schema.entities.map EntitySchema.eventNamespace).Nodup
  caches : (schema.entities.map EntitySchema.cacheNamespace).Nodup
  tables : ((schema.entities.filter EntitySchema.isSystem).map EntitySchema.tableName).Nodup
  custom : ∀ es ∈ schema.entities, es.isSystem = false → es.tableName = customTable
  routes : ∀ es ∈ schema.entities, ∀ other ∈ schema.entities,
    ∀ r ∈ emitRoutes es, ∀ r' ∈ emitRoutes other, r.method = r'.method → r.path = r'.path →
      Overlaps es.routePrefix other.routePrefix

/-- A lookup by any of an entity's names finds the entity. -/
structure Found (schema : CompiledSchema) (es : EntitySchema) : Prop where
  entity : (newRuntimeRegistry schema).findEntity es.qualifiedName = .ok es
  permission : (newRuntimeRegistry schema).findPermission es.permissionNamespace = .ok es
  metric : (newRuntimeRegistry schema).findMetric es.metricNamespace = .ok es
  workflow : (newRuntimeRegistry schema).findWorkflow es.workflowNamespace = .ok es
  event : (newRuntimeRegistry schema).findEvent es.eventNamespace = .ok es
  cache : (newRuntimeRegistry schema).findCache es.cacheNamespace = .ok es
  table : es.isSystem = true → es.tableName ≠ customTable →
    (newRuntimeRegistry schema).findTable es.tableName = .ok es
  route : (∀ other ∈ schema.entities, Overlaps other.routePrefix es.routePrefix → other = es) →
    ∀ r ∈ emitRoutes es, ∃ found, (newRuntimeRegistry schema).findRoute r.path = .ok found ∧
      found.path = r.path ∧ found.entityQualifiedName = es.qualifiedName

section Accepted

variable {starts : Ranging String} {targets : String → Ranging String} {reg : Registry}
  {schema : CompiledSchema}

theorem Accepted.nodup (accepted : Accepted reg) : (reg.defs.map qualifiedName).Nodup := by
  rcases accepted with ⟨registered, built⟩ | ⟨defs, built, nodup⟩
  · rw [build_defs built]
    exact registered.defs.nodup
  · rw [buildFrom_defs built]
    exact nodup

theorem nodup_of_determines (compiled : compile starts targets reg = .ok schema)
    (nodup : (reg.defs.map qualifiedName).Nodup) {name : EntitySchema → String}
    (determines : ∀ d ∈ reg.defs, ∀ other ∈ reg.defs,
      name (buildEntitySchema d) = name (buildEntitySchema other) →
        qualifiedName d = qualifiedName other) :
    (schema.entities.map name).Nodup := by
  rw [(compile_eq_ok compiled).2.1, List.map_map]
  exact nodup_map_of_determines nodup determines

theorem nodup_of_joined (compiled : compile starts targets reg = .ok schema)
    (nodup : (reg.defs.map qualifiedName).Nodup) {name : EntitySchema → String} (joint : String)
    {separator : Char} (single : joint.toList = [separator]) (underscore : separator ≠ '_')
    (other_char : isLowerOrDigit separator = false)
    (joined : ∀ d, name (buildEntitySchema d) = d.module ++ joint ++ localName d) :
    (schema.entities.map name).Nodup := by
  have clean := (compile_eq_ok compiled).1
  refine nodup_of_determines compiled nodup fun d member other otherMember same => ?_
  rw [joined, joined] at same
  exact qualifiedName_of_joined single underscore other_char
    (entityNameRe_of_validate clean member) (entityNameRe_of_validate clean otherMember) same

theorem tableName_eq (compiled : compile starts targets reg = .ok schema) {es : EntitySchema}
    (member : es ∈ schema.entities) :
    es.tableName = if es.isSystem then es.qualifiedName else customTable := by
  obtain ⟨d, -, rfl⟩ := (mem_entities compiled).mp member
  rfl

theorem distinguished (compiled : compile starts targets reg = .ok schema)
    (nodup : (reg.defs.map qualifiedName).Nodup) : Distinguished schema where
  qualifiedNames := nodup_of_determines compiled nodup fun _ _ _ _ same => same
  permissions := nodup_of_determines compiled nodup fun _ _ _ _ same => same
  metrics := nodup_of_determines compiled nodup fun _ _ _ _ same => same
  workflows := nodup_of_joined compiled nodup "." rfl (by decide) (by decide)
    fun _ => rfl
  events := nodup_of_joined compiled nodup "." rfl (by decide) (by decide)
    fun _ => rfl
  caches := nodup_of_joined compiled nodup ":" rfl (by decide) (by decide)
    fun _ => rfl
  tables := by
    have names : (schema.entities.filter EntitySchema.isSystem).map EntitySchema.tableName =
        (schema.entities.filter EntitySchema.isSystem).map EntitySchema.qualifiedName := by
      refine List.map_congr_left fun es member => ?_
      obtain ⟨inEntities, system⟩ := List.mem_filter.mp member
      rw [tableName_eq compiled inEntities, if_pos system]
    rw [names]
    exact (nodup_of_determines compiled nodup fun _ _ _ _ same => same).sublist
      (List.filter_sublist.map _)
  custom := fun es member system => by
    rw [tableName_eq compiled member, system]
    rfl
  routes := fun _ _ _ _ _ first _ second _ same => overlaps_of_path first second same

/-- The table of a system entity is found unless it is named like the shared one. -/
theorem findTable_eq (compiled : compile starts targets reg = .ok schema)
    (names : (schema.entities.map EntitySchema.qualifiedName).Nodup) {es : EntitySchema}
    (member : es ∈ schema.entities) (system : es.isSystem = true)
    (own : es.tableName ≠ customTable) :
    (newRuntimeRegistry schema).findTable es.tableName = .ok es := by
  refine find_index_of_unique member ?_ _ _
  intro other otherMember same
  have otherSystem : other.isSystem = true := by
    by_contra custom
    rw [tableName_eq compiled otherMember, if_neg custom] at same
    exact own same.symm
  rw [tableName_eq compiled otherMember, tableName_eq compiled member, if_pos otherSystem,
    if_pos system] at same
  exact List.inj_on_of_nodup_map names otherMember member same

theorem findRoute_eq (compiled : compile starts targets reg = .ok schema) {es : EntitySchema}
    (member : es ∈ schema.entities) (apart : ∀ other ∈ schema.entities,
      Overlaps other.routePrefix es.routePrefix → other = es) {r : RouteDescriptor}
    (emitted : r ∈ emitRoutes es) :
    ∃ found, (newRuntimeRegistry schema).findRoute r.path = .ok found ∧ found.path = r.path ∧
      found.entityQualifiedName = es.qualifiedName := by
  have routes := (compile_eq_ok compiled).2.2.2.1
  have inRoutes : r ∈ schema.routes := routes ▸ List.mem_flatMap.mpr ⟨es, member, emitted⟩
  obtain ⟨found, lookup⟩ := exists_index RouteDescriptor.path inRoutes
  obtain ⟨foundMember, same⟩ := index_eq_some lookup
  rw [routes] at foundMember
  obtain ⟨other, otherMember, otherEmitted⟩ := List.mem_flatMap.mp foundMember
  obtain rfl := apart other otherMember (overlaps_of_path otherEmitted emitted same)
  exact ⟨found, by simp [RuntimeRegistry.findRoute, find, newRuntimeRegistry, lookup], same,
    emitRoutes_entity otherEmitted⟩

theorem found (compiled : compile starts targets reg = .ok schema)
    (apart : Distinguished schema) {es : EntitySchema} (member : es ∈ schema.entities) :
    Found schema es where
  entity := find_index apart.qualifiedNames member _ _
  permission := find_index apart.permissions member _ _
  metric := find_index apart.metrics member _ _
  workflow := find_index apart.workflows member _ _
  event := find_index apart.events member _ _
  cache := find_index apart.caches member _ _
  table := findTable_eq compiled apart.qualifiedNames member
  route := fun alone _ emitted => findRoute_eq compiled member alone emitted

end Accepted

/--
The entities of a compiled schema have distinct qualified names and
namespaces, system entities have distinct tables, paths are shared only where
route prefixes overlap, and lookups find the entity they were made for.
-/
theorem entities_distinguished (starts : Ranging String) (targets : String → Ranging String)
    (reg : Registry) (schema : CompiledSchema) (accepted : Accepted reg)
    (compiled : compile starts targets reg = .ok schema) :
    Distinguished schema ∧ ∀ es ∈ schema.entities, Found schema es := by
  have apart := distinguished compiled accepted.nodup
  exact ⟨apart, fun es member => found compiled apart member⟩

/-! ## One table and one path -/

/-- Two custom entities whose plurals are spelt alike. -/
def boxes : List EntityDefinition :=
  [{ name := "box", module := "stock", isSystem := false },
   { name := "boxe", module := "stock", isSystem := false }]

def boxRegistry : Registry := ⟨boxes, index qualifiedName boxes⟩

theorem build_boxes : ∃ registered, EntityRegistry.registerAll (boxes.map some) = .ok registered ∧
    (build registered).1 = .ok boxRegistry := by
  have rows : ((EntityRegistry.registerAll (boxes.map some)).map fun reg => reg.defs.rows) =
      .ok boxes := by decide +kernel
  have validated : fromValidated validateDefinition "registry.Build" boxes = .ok boxRegistry :=
    fromValidated_eq_ok (by decide +kernel)
  obtain ⟨registered, outcome⟩ := exists_of_isOk
    (show (EntityRegistry.registerAll (boxes.map some)).isOk = true by decide +kernel)
  rw [outcome] at rows
  refine ⟨registered, outcome, ?_⟩
  simp only [build, show registered.defs.rows = boxes from Except.ok.inj rows]
  exact validated

theorem compile_boxes : ∃ schema, compile listed (fun _ => listed) boxRegistry = .ok schema :=
  exists_of_isOk (by decide +kernel)

/-- Registered, built and compiled, they share their table and the path of their records. -/
theorem boxes_share_table_and_path :
    ∃ registered reg schema, EntityRegistry.registerAll (boxes.map some) = .ok registered ∧
      (build registered).1 = .ok reg ∧ compile listed (fun _ => listed) reg = .ok schema ∧
      schema.entities.map (fun es => (es.qualifiedName, es.tableName)) =
        [("stock_box", customTable), ("stock_boxe", customTable)] ∧
      (schema.routes.filter fun r => r.method = "GET" ∧ r.path = "/api/v1/stock/boxes").map
        RouteDescriptor.entityQualifiedName = ["stock_box", "stock_boxe"] := by
  obtain ⟨registered, all, built⟩ := build_boxes
  obtain ⟨schema, compiled⟩ := compile_boxes
  refine ⟨registered, boxRegistry, schema, all, built, compiled, ?_, ?_⟩
  · rw [(compile_eq_ok compiled).2.1]
    decide +kernel
  · rw [(compile_eq_ok compiled).2.2.2.1, (compile_eq_ok compiled).2.1]
    decide +kernel

/-- Their qualified names and namespaces are distinct all the same. -/
theorem boxes_distinguished :
    ∃ schema, compile listed (fun _ => listed) boxRegistry = .ok schema ∧ Distinguished schema ∧
      ∀ es ∈ schema.entities, Found schema es := by
  obtain ⟨registered, -, built⟩ := build_boxes
  obtain ⟨schema, compiled⟩ := compile_boxes
  exact ⟨schema, compiled, entities_distinguished listed (fun _ => listed) boxRegistry schema
    (.inl ⟨registered, built⟩) compiled⟩

end ErpFinance.Runtime
