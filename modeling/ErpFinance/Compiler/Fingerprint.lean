import ErpFinance.Compiler.Compile
import ErpFinance.Library.Separated
import ErpFinance.Library.SliceSort

/-!
# The fingerprint of a schema

The digest of a text with a line for each entity, field, link, action and
permission, in an order of their names.  Beside it stands what the lines are
about: the entities of a schema without the order in which anything of them is
listed.

Where the texts that stand between the separators of the lines are free of
them, the lines can be read back from the text.
-/

namespace ErpFinance.Compiler

open Def Library

/-! ## Lines -/

/-- What one `Fprintf` writes. -/
inductive Line where
  | entity (name : String) (system : Bool)
  | field (name : String) (type : FieldType)
      (required unique immutable sensitive searchable : Bool)
  | options (name joined : String)
  | link (name target : String)
  | series (name pattern : String)
  | edge (name target : String) (type : EdgeType) (cascade : Bool)
  | action (name method : String)
  | perm (name label subject : String)
deriving DecidableEq

def Line.string : Line → String
  | .entity name system => "entity:" ++ name ++ ":system:" ++ toString system ++ "\n"
  | .field name type required unique immutable sensitive searchable =>
    "field:" ++ name ++ ":" ++ type.string ++ ":req=" ++ toString required ++ ":uniq=" ++
      toString unique ++ ":imm=" ++ toString immutable ++ ":sens=" ++ toString sensitive ++
      ":search=" ++ toString searchable ++ "\n"
  | .options name joined => "field:" ++ name ++ ":options:" ++ joined ++ "\n"
  | .link name target => "field:" ++ name ++ ":link:" ++ target ++ "\n"
  | .series name pattern => "field:" ++ name ++ ":series:" ++ pattern ++ "\n"
  | .edge name target type cascade =>
    "edge:" ++ name ++ ":" ++ target ++ ":" ++ type.string ++ ":cascade=" ++
      toString cascade ++ "\n"
  | .action name method => "action:" ++ name ++ ":" ++ method ++ "\n"
  | .perm name label subject => "perm:" ++ name ++ ":" ++ label ++ ":" ++ subject ++ "\n"

def fieldLine (f : FieldDef) : Line :=
  .field f.name f.type f.required f.unique f.immutable f.sensitive f.searchable

def fieldLines (f : FieldDef) : List Line :=
  fieldLine f ::
    ((if f.options.isEmpty then []
      else [.options f.name (",".intercalate (sortStrings f.options))]) ++
    (if f.linkTarget = "" then [] else [.link f.name f.linkTarget]) ++
    if f.series = "" then [] else [.series f.name f.series])

def edgeLine (e : EdgeDef) : Line := .edge e.name e.target e.type e.cascadeDelete

def actionLine (a : ActionDef) : Line := .action a.name a.method

def writePerms (name label : String) (subjects : List String) : List Line :=
  (sortStrings subjects).map (.perm name label)

def subjects (perms : PermissionSet) (action : String) : List String :=
  (perms.actions.lookup action).getD []

def actionNames (perms : PermissionSet) : List String := (perms.actions.map Prod.fst).dedup

def permLines (name : String) (perms : PermissionSet) : List Line :=
  writePerms name "create" perms.create ++ writePerms name "read" perms.read ++
    writePerms name "write" perms.write ++ writePerms name "delete" perms.delete ++
    (sortStrings (actionNames perms)).flatMap fun action =>
      writePerms name action (subjects perms action)

section Schema

variable (sorting : SliceSort)

def entityLines (name : String) (es : EntitySchema) : List Line :=
  .entity name es.isSystem ::
    ((sorting.byKey FieldDef.name es.fields).flatMap fieldLines ++
      (sorting.byKey EdgeDef.name es.edges).map edgeLine ++
      (sorting.byKey ActionDef.name es.actions).map actionLine ++
      permLines name es.permissions)

/-- The lines of all entities; `ByName` has every name that is listed. -/
def schemaLines (s : CompiledSchema) : List Line :=
  (sortStrings (s.entities.map EntitySchema.qualifiedName)).flatMap fun name =>
    (s.byName name).elim [] (entityLines sorting name)

def fingerprint (digest : String → String) (s : CompiledSchema) : String :=
  digest (String.join ((schemaLines sorting s).map Line.string))

end Schema

/-! ## Shapes -/

/-- What the lines of a field are about. -/
structure FieldShape where
  name : String
  type : FieldType
  required : Bool
  unique : Bool
  immutable : Bool
  sensitive : Bool
  searchable : Bool
  options : Multiset String
  linkTarget : String
  series : String

/-- What the lines of an entity are about. -/
structure EntityShape where
  name : String
  isSystem : Bool
  fields : Multiset FieldShape
  edges : Multiset EdgeDef
  actions : Multiset (String × String)
  create : Multiset String
  read : Multiset String
  write : Multiset String
  delete : Multiset String
  grants : String → Multiset String

def fieldShape (f : FieldDef) : FieldShape where
  name := f.name
  type := f.type
  required := f.required
  unique := f.unique
  immutable := f.immutable
  sensitive := f.sensitive
  searchable := f.searchable
  options := f.options
  linkTarget := f.linkTarget
  series := f.series

def actionShape (a : ActionDef) : String × String := (a.name, a.method)

def entityShape (es : EntitySchema) : EntityShape where
  name := es.qualifiedName
  isSystem := es.isSystem
  fields := es.fields.map fieldShape
  edges := es.edges
  actions := es.actions.map actionShape
  create := es.permissions.create
  read := es.permissions.read
  write := es.permissions.write
  delete := es.permissions.delete
  grants action := subjects es.permissions action

/-- The entities of a schema, as the fingerprint sees them. -/
def shapes (s : CompiledSchema) : Multiset EntityShape := s.entities.map entityShape

/-! ## What lines are about -/

section Congruence

variable {sorting : SliceSort}

theorem fieldLines_congr {f f' : FieldDef} (same : fieldShape f = fieldShape f') :
    fieldLines f = fieldLines f' := by
  obtain ⟨name, type, required, unique, immutable, sensitive, searchable, options, target,
    series⟩ := FieldShape.mk.inj same
  have perm : f.options.Perm f'.options := Multiset.coe_eq_coe.mp options
  have empty : f.options.isEmpty = f'.options.isEmpty := by
    rw [Bool.eq_iff_iff, List.isEmpty_iff, List.isEmpty_iff, ← List.length_eq_zero_iff,
      ← List.length_eq_zero_iff, perm.length_eq]
  rw [fieldLines, fieldLines, fieldLine, fieldLine, name, type, required, unique, immutable,
    sensitive, searchable, target, series, empty, sortStrings_congr perm]

theorem writePerms_congr (name label : String) {ids ids' : List String}
    (same : (ids : Multiset String) = ids') :
    writePerms name label ids = writePerms name label ids' := by
  rw [writePerms, writePerms, sortStrings_congr (Multiset.coe_eq_coe.mp same)]

theorem flatMap_writePerms (name : String) (lists : String → List String) (keys : List String) :
    keys.flatMap (fun action => writePerms name action (lists action)) =
      (keys.filter fun action => lists action ≠ []).flatMap fun action =>
        writePerms name action (lists action) := by
  induction keys with
  | nil => rfl
  | cons key rest ih =>
    by_cases empty : lists key = []
    · rw [List.filter_cons_of_neg (by simpa using empty), List.flatMap_cons, ih, empty]
      rfl
    · rw [List.filter_cons_of_pos (by simpa using empty), List.flatMap_cons, List.flatMap_cons,
        ih]

/-- A key that the map has not reads as an empty list. -/
theorem mem_actionNames {perms : PermissionSet} {action : String}
    (some : subjects perms action ≠ []) : action ∈ actionNames perms := by
  rw [actionNames, List.mem_dedup]
  by_contra absent
  refine some ?_
  rw [subjects, List.lookup_eq_none_iff.mpr]
  · rfl
  · intro entry member
    rw [bne_iff_ne]
    rintro rfl
    exact absent (List.mem_map_of_mem member)

/-- The keys whose lists are not empty, sorted. -/
theorem mem_filter_actionNames {perms : PermissionSet} {action : String} :
    action ∈ (sortStrings (actionNames perms)).filter (fun action => subjects perms action ≠ []) ↔
      subjects perms action ≠ [] := by
  rw [List.mem_filter, mem_sortStrings, decide_eq_true_eq]
  exact and_iff_right_of_imp mem_actionNames

theorem actionLines_congr (name : String) {perms perms' : PermissionSet}
    (same : ∀ action, (subjects perms action : Multiset String) = subjects perms' action) :
    (sortStrings (actionNames perms)).flatMap (fun action =>
      writePerms name action (subjects perms action)) =
    (sortStrings (actionNames perms')).flatMap fun action =>
      writePerms name action (subjects perms' action) := by
  have writes : (fun action => writePerms name action (subjects perms action)) =
      fun action => writePerms name action (subjects perms' action) :=
    funext fun action => writePerms_congr name action (same action)
  have empty : ∀ action, subjects perms action = [] ↔ subjects perms' action = [] := by
    intro action
    rw [← Multiset.coe_eq_zero, same action, Multiset.coe_eq_zero]
  -- the sorted keys whose lists are not empty are the same
  have keys : (sortStrings (actionNames perms)).filter (fun action => subjects perms action ≠ []) =
      (sortStrings (actionNames perms')).filter fun action => subjects perms' action ≠ [] := by
    have nodup : ∀ (perms : PermissionSet) (p : String → Bool),
        ((sortStrings (actionNames perms)).filter p).Nodup := fun perms p =>
      ((sortStrings_perm _).nodup_iff.mpr (List.nodup_dedup _)).filter p
    have sorted : ∀ (perms : PermissionSet) (p : String → Bool),
        ((sortStrings (actionNames perms)).filter p).Pairwise (· ≤ ·) := fun perms p =>
      (List.pairwise_insertionSort _ _).filter p
    refine List.Perm.eq_of_pairwise' (sorted _ _) (sorted _ _) ?_
    refine (List.perm_ext_iff_of_nodup (nodup _ _) (nodup _ _)).mpr fun action => ?_
    rw [mem_filter_actionNames, mem_filter_actionNames, ne_eq, ne_eq, empty]
  rw [flatMap_writePerms name (subjects perms), flatMap_writePerms name (subjects perms'), keys,
    writes]

theorem permLines_congr (name : String) {perms perms' : PermissionSet}
    (create : (perms.create : Multiset String) = perms'.create)
    (read : (perms.read : Multiset String) = perms'.read)
    (write : (perms.write : Multiset String) = perms'.write)
    (delete : (perms.delete : Multiset String) = perms'.delete)
    (grants : ∀ action, (subjects perms action : Multiset String) = subjects perms' action) :
    permLines name perms = permLines name perms' := by
  rw [permLines, permLines, writePerms_congr name _ create, writePerms_congr name _ read,
    writePerms_congr name _ write, writePerms_congr name _ delete, actionLines_congr name grants]

structure Distinct (es : EntitySchema) : Prop where
  fields : (es.fields.map FieldDef.name).Nodup
  edges : (es.edges.map EdgeDef.name).Nodup
  actions : (es.actions.map ActionDef.name).Nodup

theorem entityLines_congr {es es' : EntitySchema} (distinct : Distinct es)
    (same : entityShape es = entityShape es') (name : String) :
    entityLines sorting name es = entityLines sorting name es' := by
  obtain ⟨-, system, fields, edges, actions, create, read, write, delete, grants⟩ :=
    EntityShape.mk.inj same
  have fieldsPart : (sorting.byKey FieldDef.name es.fields).map fieldLines =
      (sorting.byKey FieldDef.name es'.fields).map fieldLines := by
    have shows : ∀ f, FieldShape.name (fieldShape f) = FieldDef.name f := fun _ => rfl
    exact SliceSort.map_eq_of_view (fun f _ f' _ => fieldLines_congr)
      (sorting.map_byKey_congr shows distinct.fields (Multiset.coe_eq_coe.mp fields))
  have edgesPart := sorting.byKey_congr sorting distinct.edges (Multiset.coe_eq_coe.mp edges)
  have actionsPart : (sorting.byKey ActionDef.name es.actions).map actionLine =
      (sorting.byKey ActionDef.name es'.actions).map actionLine := by
    have shows : ∀ a, Prod.fst (actionShape a) = ActionDef.name a := fun _ => rfl
    refine SliceSort.map_eq_of_view (fun a _ a' _ alike => ?_)
      (sorting.map_byKey_congr shows distinct.actions (Multiset.coe_eq_coe.mp actions))
    obtain ⟨name, method⟩ := Prod.mk.inj alike
    rw [actionLine, actionLine, name, method]
  rw [entityLines, entityLines, system, List.flatMap_def, List.flatMap_def, fieldsPart,
    edgesPart, actionsPart, permLines_congr name create read write delete (congrFun grants)]

structure Named (s : CompiledSchema) : Prop where
  entities : (s.entities.map EntitySchema.qualifiedName).Nodup
  byName : s.byName = index EntitySchema.qualifiedName s.entities
  parts : ∀ es ∈ s.entities, Distinct es

/-- The entities in the order of their lines. -/
def ordered (s : CompiledSchema) : List EntitySchema :=
  SliceSort.insertion.byKey EntitySchema.qualifiedName s.entities

variable {s s' : CompiledSchema}

theorem mem_ordered {es : EntitySchema} : es ∈ ordered s ↔ es ∈ s.entities :=
  SliceSort.insertion.mem_byKey

theorem schemaLines_eq (named : Named s) : schemaLines sorting s =
    ((ordered s).map fun es => entityLines sorting es.qualifiedName es).flatten := by
  rw [schemaLines, ← SliceSort.insertion.map_byKey, List.flatMap_def, List.map_map]
  refine congrArg List.flatten (List.map_congr_left fun es member => ?_)
  rw [Function.comp_apply, named.byName,
    index_key named.entities (SliceSort.insertion.mem_byKey.mp member)]
  rfl

theorem schemaLines_congr (named : Named s) (named' : Named s') (same : shapes s = shapes s') :
    schemaLines sorting s = schemaLines sorting s' := by
  rw [schemaLines_eq named, schemaLines_eq named']
  have shows : ∀ es, EntityShape.name (entityShape es) = EntitySchema.qualifiedName es :=
    fun _ => rfl
  refine congrArg List.flatten (SliceSort.map_eq_of_view (fun es member es' _ alike => ?_)
    (SliceSort.insertion.map_byKey_congr shows named.entities (Multiset.coe_eq_coe.mp same)))
  have names : es.qualifiedName = es'.qualifiedName := (EntityShape.mk.inj alike).1
  rw [entityLines_congr (named.parts es (mem_ordered.mp member)) alike, names]

end Congruence

/-! ## Lines and their text -/

/-- A text between the colons of a line. -/
def Plain (text : String) : Prop := ':' ∉ text.toList ∧ '\n' ∉ text.toList

def OneLine (text : String) : Prop := '\n' ∉ text.toList

instance (text : String) : Decidable (Plain text) := inferInstanceAs (Decidable (_ ∧ _))

instance (text : String) : Decidable (OneLine text) := inferInstanceAs (Decidable (¬ _))

namespace Line

/-- What a line begins with. -/
def tag : Line → String
  | .entity .. => "entity"
  | .field .. | .options .. | .link .. | .series .. => "field"
  | .edge .. => "edge"
  | .action .. => "action"
  | .perm .. => "perm"

/-- What a line names behind its tag. -/
def name : Line → String
  | .entity name _ | .field name .. | .options name _ | .link name _ | .series name _
  | .edge name .. | .action name _ | .perm name .. => name

/-- A flag that is printed behind its label. -/
def flag (label : String) (set : Bool) : String := label ++ toString set

def flags (required unique immutable sensitive searchable : Bool) : String :=
  flag "req=" required ++ ":" ++ (flag "uniq=" unique ++ ":" ++ (flag "imm=" immutable ++ ":" ++
    (flag "sens=" sensitive ++ ":" ++ flag "search=" searchable)))

/-- What a line says behind the name. -/
def body : Line → String
  | .entity _ system => flag "system:" system
  | .field _ type required unique immutable sensitive searchable =>
    type.string ++ ":" ++ flags required unique immutable sensitive searchable
  | .options _ joined => "options" ++ ":" ++ joined
  | .link _ target => "link" ++ ":" ++ target
  | .series _ pattern => "series" ++ ":" ++ pattern
  | .edge _ target type cascade =>
    target ++ ":" ++ (type.string ++ ":" ++ flag "cascade=" cascade)
  | .action _ method => method
  | .perm _ label subject => label ++ ":" ++ subject

theorem toList_string (l : Line) : l.string.toList =
    l.tag.toList ++ ':' :: (l.name.toList ++ ':' :: (l.body.toList ++ ['\n'])) := by
  unfold string tag name body
  cases l <;> simp [flags, flag]

/-- The texts between separators are free of them. -/
def Clean : Line → Prop
  | .entity name _ | .field name .. => Plain name
  | .options name joined => Plain name ∧ OneLine joined
  | .link name target | .edge name target .. => Plain name ∧ Plain target
  | .series name pattern => Plain name ∧ OneLine pattern
  | .action name method => Plain name ∧ OneLine method
  | .perm name label subject => Plain name ∧ Plain label ∧ OneLine subject

/-- Texts in front of a colon and behind it can be told. -/
theorem colon_inj {front front' back back' : String} (whole : ':' ∉ front.toList)
    (whole' : ':' ∉ front'.toList) (same : front ++ ":" ++ back = front' ++ ":" ++ back') :
    front = front' ∧ back = back' := by
  have chars := congrArg String.toList same
  simp only [String.toList_append, List.append_assoc] at chars
  obtain ⟨fronts, backs⟩ := append_sep_inj whole whole' chars
  exact ⟨String.toList_inj.mp fronts, String.toList_inj.mp backs⟩

variable {label : String}

theorem flag_inj {set set' : Bool} (same : flag label set = flag label set') :
    set = set' := by
  have chars := congrArg String.toList same
  rw [flag, flag, String.toList_append, String.toList_append] at chars
  have texts := String.toList_inj.mp (List.append_cancel_left chars)
  cases set <;> cases set' <;> first | rfl | exact absurd texts (by decide)

theorem flag_whole (whole : ':' ∉ label.toList) (set : Bool) :
    ':' ∉ (flag label set).toList := by
  rw [flag, String.toList_append, List.mem_append, not_or]
  exact ⟨whole, by cases set <;> decide⟩

theorem flags_inj {r r' u u' i i' s s' q q' : Bool}
    (same : flags r u i s q = flags r' u' i' s' q') :
    r = r' ∧ u = u' ∧ i = i' ∧ s = s' ∧ q = q' := by
  obtain ⟨required, same⟩ :=
    colon_inj (flag_whole (by decide) r) (flag_whole (by decide) r') same
  obtain ⟨unique, same⟩ := colon_inj (flag_whole (by decide) u) (flag_whole (by decide) u') same
  obtain ⟨immutable, same⟩ :=
    colon_inj (flag_whole (by decide) i) (flag_whole (by decide) i') same
  obtain ⟨sensitive, searchable⟩ :=
    colon_inj (flag_whole (by decide) s) (flag_whole (by decide) s') same
  exact ⟨flag_inj required, flag_inj unique, flag_inj immutable, flag_inj sensitive,
    flag_inj searchable⟩

theorem mem_flags (r u i s q : Bool) : ':' ∈ (flags r u i s q).toList := by
  simp [flags]

theorem fieldType_string_injective : Function.Injective FieldType.string := by
  intro type type' same
  have nodup : ([.data, .smallText, .longText, .int, .float, .currency, .bool, .date, .dateTime,
      .time, .select, .multiSelect, .namingSeries, .json, .link, .linkList,
      .dynamicLink].map FieldType.string).Nodup := by decide +kernel
  exact List.inj_on_of_nodup_map nodup (by cases type <;> decide) (by cases type' <;> decide) same

theorem fieldType_string_whole (type : FieldType) : ':' ∉ type.string.toList := by
  cases type <;> decide

theorem edgeType_string_injective : Function.Injective EdgeType.string := by
  intro type type' same
  cases type <;> cases type' <;> first | rfl | simp [EdgeType.string] at same

theorem edgeType_string_whole (type : EdgeType) : ':' ∉ type.string.toList := by
  cases type <;> decide

variable {l l' : Line}

theorem parts_inj (clean : l.Clean) (clean' : l'.Clean) (same : l.string = l'.string) :
    l.tag = l'.tag ∧ l.name = l'.name ∧ l.body = l'.body := by
  have tagWhole : ∀ l : Line, ':' ∉ l.tag.toList := fun l => by
    unfold tag
    cases l <;> simp
  have nameWhole : ∀ {l : Line}, l.Clean → ':' ∉ l.name.toList := by
    intro l clean
    cases l with
    | entity | field => exact clean.1
    | options | link | series | edge | action | perm => exact clean.1.1
  have chars := congrArg String.toList same
  rw [toList_string, toList_string] at chars
  obtain ⟨tags, chars⟩ := append_sep_inj (tagWhole l) (tagWhole l') chars
  obtain ⟨names, chars⟩ := append_sep_inj (nameWhole clean) (nameWhole clean') chars
  exact ⟨String.toList_inj.mp tags, String.toList_inj.mp names,
    String.toList_inj.mp (List.append_cancel_right chars)⟩

theorem eq_of_parts (clean : l.Clean) (clean' : l'.Clean) (tags : l.tag = l'.tag)
    (names : l.name = l'.name) (bodies : l.body = l'.body) : l = l' := by
  have options : ∀ type : FieldType, type.string ≠ "options" := fun type => by
    cases type <;> decide
  have series : ∀ type : FieldType, type.string ≠ "series" := fun type => by
    cases type <;> decide
  cases l with
  | entity name system =>
    cases l' with
    | entity name' system' =>
      obtain rfl : name = name' := names
      rw [flag_inj bodies]
    | _ => simp [tag] at tags
  | field name type r u i s q =>
    cases l' with
    | field name' type' r' u' i' s' q' =>
      obtain rfl : name = name' := names
      obtain ⟨types, flagged⟩ :=
        colon_inj (fieldType_string_whole type) (fieldType_string_whole type') bodies
      obtain ⟨rfl, rfl, rfl, rfl, rfl⟩ := flags_inj flagged
      rw [fieldType_string_injective types]
    | options =>
      have kinds := (colon_inj (fieldType_string_whole type) (by decide) bodies).1
      exact absurd kinds (options type)
    | link name' target =>
      -- the flags have colons, and a target has none
      have target' := (colon_inj (fieldType_string_whole type) (by decide) bodies).2
      exact absurd (target' ▸ mem_flags r u i s q) clean'.2.1
    | series =>
      have kinds := (colon_inj (fieldType_string_whole type) (by decide) bodies).1
      exact absurd kinds (series type)
    | _ => simp [tag] at tags
  | options name joined =>
    cases l' with
    | field name' type' =>
      have kinds := (colon_inj (by decide) (fieldType_string_whole type') bodies).1
      exact absurd kinds.symm (options type')
    | options name' joined' =>
      obtain rfl : name = name' := names
      rw [(colon_inj (by decide) (by decide) bodies).2]
    | link | series =>
      exact absurd (colon_inj (by decide) (by decide) bodies).1 (by decide)
    | _ => simp [tag] at tags
  | link name target =>
    cases l' with
    | field name' type' r u i s q =>
      have target' := (colon_inj (by decide) (fieldType_string_whole type') bodies).2
      exact absurd (target' ▸ mem_flags r u i s q) clean.2.1
    | link name' target' =>
      obtain rfl : name = name' := names
      rw [(colon_inj (by decide) (by decide) bodies).2]
    | options | series =>
      exact absurd (colon_inj (by decide) (by decide) bodies).1 (by decide)
    | _ => simp [tag] at tags
  | series name pattern =>
    cases l' with
    | field name' type' =>
      have kinds := (colon_inj (by decide) (fieldType_string_whole type') bodies).1
      exact absurd kinds.symm (series type')
    | series name' pattern' =>
      obtain rfl : name = name' := names
      rw [(colon_inj (by decide) (by decide) bodies).2]
    | options | link =>
      exact absurd (colon_inj (by decide) (by decide) bodies).1 (by decide)
    | _ => simp [tag] at tags
  | edge name target type cascade =>
    cases l' with
    | edge name' target' type' cascade' =>
      obtain rfl : name = name' := names
      obtain ⟨rfl, more⟩ := colon_inj clean.2.1 clean'.2.1 bodies
      obtain ⟨types, cascades⟩ :=
        colon_inj (edgeType_string_whole type) (edgeType_string_whole type') more
      rw [edgeType_string_injective types, flag_inj cascades]
    | _ => simp [tag] at tags
  | action name method =>
    cases l' with
    | action name' method' =>
      obtain rfl : name = name' := names
      rw [show method = method' from bodies]
    | _ => simp [tag] at tags
  | perm name label subject =>
    cases l' with
    | perm name' label' subject' =>
      obtain rfl : name = name' := names
      obtain ⟨rfl, rfl⟩ := colon_inj clean.2.1.1 clean'.2.1.1 bodies
      rfl
    | _ => simp [tag] at tags

/-- Clean lines of the same text are the same. -/
theorem string_inj (clean : l.Clean) (clean' : l'.Clean) (same : l.string = l'.string) :
    l = l' := by
  obtain ⟨tags, names, bodies⟩ := parts_inj clean clean' same
  exact eq_of_parts clean clean' tags names bodies

/-- What stands in front of the end of a line. -/
def content (l : Line) : List Char :=
  l.tag.toList ++ ':' :: (l.name.toList ++ ':' :: l.body.toList)

theorem toList_string_content (l : Line) : l.string.toList = l.content ++ ['\n'] := by
  rw [toList_string, content]
  simp only [List.append_assoc, List.cons_append]

theorem flag_oneLine (oneLine : OneLine label) (set : Bool) :
    OneLine (flag label set) := by
  rw [OneLine, flag, String.toList_append, List.mem_append, not_or]
  exact ⟨oneLine, by cases set <;> decide⟩

theorem colon_oneLine {front back : String} (first : OneLine front) (second : OneLine back) :
    OneLine (front ++ ":" ++ back) := by
  simp only [OneLine, String.toList_append, List.mem_append, not_or]
  exact ⟨⟨first, by decide⟩, second⟩

theorem body_oneLine {l : Line} (clean : l.Clean) : OneLine l.body := by
  have ofField : ∀ type : FieldType, OneLine type.string := fun type => by
    cases type <;> decide
  have ofEdge : ∀ type : EdgeType, OneLine type.string := fun type => by
    cases type <;> decide
  cases l with
  | entity name system => exact flag_oneLine (by decide) system
  | field name type r u i s q =>
    exact colon_oneLine (ofField type) (colon_oneLine (flag_oneLine (by decide) r)
      (colon_oneLine (flag_oneLine (by decide) u) (colon_oneLine (flag_oneLine (by decide) i)
        (colon_oneLine (flag_oneLine (by decide) s) (flag_oneLine (by decide) q)))))
  | options name joined => exact colon_oneLine (by decide) clean.2
  | link name target => exact colon_oneLine (by decide) clean.2.2
  | series name pattern => exact colon_oneLine (by decide) clean.2
  | edge name target type cascade =>
    exact colon_oneLine clean.2.2
      (colon_oneLine (ofEdge type) (flag_oneLine (by decide) cascade))
  | action name method => exact clean.2
  | perm name label subject => exact colon_oneLine clean.2.1.2 clean.2.2

/-- A clean line ends where its text does. -/
theorem content_oneLine {l : Line} (clean : l.Clean) : '\n' ∉ l.content := by
  have tags : '\n' ∉ l.tag.toList := by
    unfold tag
    cases l <;> simp
  have names : '\n' ∉ l.name.toList := by
    cases l with
    | entity | field => exact clean.2
    | options | link | series | edge | action | perm => exact clean.1.2
  simp only [content, List.mem_append, List.mem_cons, not_or]
  exact ⟨tags, by decide, names, by decide, body_oneLine clean⟩

/-- The text of clean lines tells them. -/
theorem join_inj {ls ls' : List Line} (clean : ∀ l ∈ ls, l.Clean) (clean' : ∀ l ∈ ls', l.Clean)
    (same : String.join (ls.map string) = String.join (ls'.map string)) : ls = ls' := by
  have text : ∀ ls : List Line, (String.join (ls.map string)).toList =
      (ls.map content).flatMap (· ++ ['\n']) := by
    intro ls
    rw [String.toList_join, List.flatMap_map, List.flatMap_map]
    exact congrArg (List.flatMap · ls) (funext toList_string_content)
  have chars := congrArg String.toList same
  rw [text, text] at chars
  have contents := flatMap_sep_inj (List.forall_mem_map.mpr fun l member =>
    content_oneLine (clean l member)) (List.forall_mem_map.mpr fun l member =>
    content_oneLine (clean' l member)) chars
  have lines : ls.map id = ls'.map id := by
    refine SliceSort.map_eq_of_view (fun l member l' member' alike => ?_) contents
    refine string_inj (clean l member) (clean' l' member') (String.toList_inj.mp ?_)
    rw [toList_string_content, toList_string_content]
    exact congrArg (· ++ ['\n']) alike
  rwa [List.map_id, List.map_id] at lines

end Line

end ErpFinance.Compiler
