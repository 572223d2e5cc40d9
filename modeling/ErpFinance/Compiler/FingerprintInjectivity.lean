import ErpFinance.Compiler.DependencyAnalysis
import ErpFinance.Compiler.Fingerprint
import ErpFinance.Library.Blocks
import ErpFinance.Library.Except

/-!
# What a fingerprint tells

The lines of an entity tell what they are about, and those of a schema tell
its entities, so that equal fingerprints are those of the same shapes.  Listing
things in another order never changes a fingerprint.
-/

namespace ErpFinance.Compiler

open Def Library Registry

/-! ## Schemas whose lines can be told -/

/-- The labels that do not come from the map of action permissions. -/
def labels : List String := ["create", "read", "write", "delete"]

/-- What is written between separators, or up to the end of a line, is free of them. -/
structure Separable (es : EntitySchema) : Prop where
  module : Plain es.module
  options : ∀ f ∈ es.fields, ∀ o ∈ f.options, ',' ∉ o.toList ∧ OneLine o
  linkTargets : ∀ f ∈ es.fields, f.type.isLink = false → Plain f.linkTarget
  series : ∀ f ∈ es.fields, OneLine f.series
  edges : ∀ e ∈ es.edges, Plain e.name
  actions : ∀ a ∈ es.actions, Plain a.name ∧ OneLine a.method
  grants : ∀ p ∈ collectPermissions es.permissions, OneLine p
  actionLabels : ∀ entry ∈ es.permissions.actions, Plain entry.1 ∧ entry.1 ∉ labels

/-- An entity whose lines are clean. -/
structure Readable (es : EntitySchema) : Prop extends Separable es where
  name : Plain es.qualifiedName
  fieldNames : ∀ f ∈ es.fields, Plain f.name
  targets : ∀ f ∈ es.fields, Plain f.linkTarget
  edgeTargets : ∀ e ∈ es.edges, Plain e.target

theorem mem_collectPermissions {perms : PermissionSet} {action p : String}
    (member : p ∈ subjects perms action) : p ∈ collectPermissions perms := by
  rw [subjects] at member
  cases found : perms.actions.lookup action with
  | none => simp [found] at member
  | some ids =>
    rw [found] at member
    obtain ⟨earlier, later, split, -⟩ := List.lookup_eq_some_iff.mp found
    refine List.mem_append_right _ (List.mem_flatMap.mpr ⟨(action, ids), ?_, member⟩)
    rw [split]
    exact List.mem_append_right _ List.mem_cons_self

section Clean

variable {sorting : SliceSort} {es : EntitySchema}

theorem toList_joined (options : List String) : (",".intercalate options).toList =
    [','].intercalate (options.map String.toList) :=
  String.toList_intercalate

variable {l : Line}

theorem clean_of_mem_fieldLines (readable : Readable es) {f : FieldDef} (inFields : f ∈ es.fields)
    (member : l ∈ fieldLines f) : l.Clean := by
  have name := readable.fieldNames f inFields
  simp only [fieldLines, List.mem_cons, List.mem_append] at member
  rcases member with rfl | (inOptions | inLink) | inSeries
  · exact name
  · split at inOptions
    · cases inOptions
    · obtain rfl := List.mem_singleton.mp inOptions
      refine ⟨name, ?_⟩
      rw [OneLine, toList_joined]
      refine notMem_intercalate (by decide) (List.forall_mem_map.mpr fun o inSorted => ?_)
      exact (readable.options f inFields o (mem_sortStrings.mp inSorted)).2
  · split at inLink
    · cases inLink
    · obtain rfl := List.mem_singleton.mp inLink
      exact ⟨name, readable.targets f inFields⟩
  · split at inSeries
    · cases inSeries
    · obtain rfl := List.mem_singleton.mp inSeries
      exact ⟨name, readable.series f inFields⟩

theorem clean_of_mem_writePerms {name label : String} {ids : List String} (plain : Plain name)
    (plainLabel : Plain label) (oneLine : ∀ p ∈ ids, OneLine p)
    (member : l ∈ writePerms name label ids) : l.Clean := by
  obtain ⟨p, inSorted, rfl⟩ := List.mem_map.mp member
  exact ⟨plain, plainLabel, oneLine p (mem_sortStrings.mp inSorted)⟩

theorem clean_of_mem_permLines (readable : Readable es)
    (member : l ∈ permLines es.qualifiedName es.permissions) : l.Clean := by
  have grants := readable.grants
  simp only [collectPermissions, List.forall_mem_append] at grants
  obtain ⟨⟨⟨⟨create, read⟩, write⟩, delete⟩, -⟩ := grants
  simp only [permLines, List.mem_append] at member
  rcases member with (((inCreate | inRead) | inWrite) | inDelete) | inActions
  · exact clean_of_mem_writePerms readable.name (by decide) create inCreate
  · exact clean_of_mem_writePerms readable.name (by decide) read inRead
  · exact clean_of_mem_writePerms readable.name (by decide) write inWrite
  · exact clean_of_mem_writePerms readable.name (by decide) delete inDelete
  · obtain ⟨action, inNames, inLines⟩ := List.mem_flatMap.mp inActions
    rw [mem_sortStrings, actionNames, List.mem_dedup] at inNames
    obtain ⟨entry, inMap, rfl⟩ := List.mem_map.mp inNames
    exact clean_of_mem_writePerms readable.name (readable.actionLabels entry inMap).1
      (fun p inSubjects => readable.grants p (mem_collectPermissions inSubjects)) inLines

theorem clean_of_mem_entityLines (readable : Readable es)
    (member : l ∈ entityLines sorting es.qualifiedName es) : l.Clean := by
  simp only [entityLines, List.mem_cons, List.mem_append, List.mem_flatMap, List.mem_map,
    SliceSort.mem_byKey] at member
  rcases member with rfl | ((⟨f, inFields, inLines⟩ | ⟨e, inEdges, rfl⟩) | ⟨a, inActions, rfl⟩) |
    inPerms
  · exact readable.name
  · exact clean_of_mem_fieldLines readable inFields inLines
  · exact ⟨readable.edges e inEdges, readable.edgeTargets e inEdges⟩
  · exact readable.actions a inActions
  · exact clean_of_mem_permLines readable inPerms

end Clean

/-! ## What the lines tell -/

section Told

variable {name : String}

theorem coe_eq_of_sortStrings {xs ys : List String} (same : sortStrings xs = sortStrings ys) :
    (xs : Multiset String) = ys := by
  have perm : (sortStrings xs).Perm ys := same ▸ sortStrings_perm ys
  exact Multiset.coe_eq_coe.mpr ((sortStrings_perm xs).symm.trans perm)

def Line.isField : Line → Bool
  | .field .. => true
  | _ => false

def Line.isOptions : Line → Bool
  | .options .. => true
  | _ => false

def Line.isSeries : Line → Bool
  | .series .. => true
  | _ => false

/-- A line of a permission under a label. -/
def Line.hasLabel (label : String) : Line → Bool
  | .perm _ other _ => other = label
  | _ => false

theorem options_of_lines {f f' : FieldDef} (whole : ∀ o ∈ f.options, ',' ∉ o.toList)
    (whole' : ∀ o ∈ f'.options, ',' ∉ o.toList)
    (same : (if f.options.isEmpty then [] else
      [Line.options f.name (",".intercalate (sortStrings f.options))]) =
      if f'.options.isEmpty then [] else
        [Line.options f'.name (",".intercalate (sortStrings f'.options))]) :
    (f.options : Multiset String) = f'.options := by
  cases empty : f.options.isEmpty <;> cases empty' : f'.options.isEmpty <;>
    simp only [empty, empty', if_true, Bool.false_eq_true, if_false, List.cons_ne_nil,
      reduceCtorEq] at same
  · have nonempty : ∀ {options : List String}, options.isEmpty = false →
        (sortStrings options).map String.toList ≠ [] := by
      intro options someOption
      rw [Ne, List.map_eq_nil_iff, ← List.length_eq_zero_iff, (sortStrings_perm options).length_eq,
        List.length_eq_zero_iff, ← List.isEmpty_iff, someOption]
      exact Bool.false_ne_true
    have wholeParts : ∀ {options : List String}, (∀ o ∈ options, ',' ∉ o.toList) →
        ∀ part ∈ (sortStrings options).map String.toList, ',' ∉ part := fun each =>
      List.forall_mem_map.mpr fun o inSorted => each o (mem_sortStrings.mp inSorted)
    have joined := congrArg String.toList (Line.options.inj (List.cons.inj same).1).2
    rw [toList_joined, toList_joined] at joined
    have parts := intercalate_inj (nonempty empty) (nonempty empty') (wholeParts whole)
      (wholeParts whole') joined
    exact coe_eq_of_sortStrings
      (List.map_injective_iff.mpr (fun _ _ chars => String.toList_inj.mp chars) parts)
  · rw [List.isEmpty_iff.mp empty, List.isEmpty_iff.mp empty']

theorem forall_mem_optional {absent : Prop} [Decidable absent] {line : Line} {P : Line → Prop}
    (holds : P line) : ∀ l ∈ (if absent then [] else [line]), P l := by
  split
  · exact fun _ member => absurd member List.not_mem_nil
  · exact fun _ member => List.mem_singleton.mp member ▸ holds

theorem optional_inj {text text' : String} {line : String → Line}
    (injective : Function.Injective line)
    (same : (if text = "" then [] else [line text]) = if text' = "" then [] else [line text']) :
    text = text' := by
  by_cases empty : text = "" <;> by_cases empty' : text' = ""
  · rw [empty, empty']
  · simp [empty, empty'] at same
  · simp [empty, empty'] at same
  · rw [if_neg empty, if_neg empty'] at same
    exact injective (List.cons.inj same).1

theorem fieldShape_of_lines {f f' : FieldDef} (whole : ∀ o ∈ f.options, ',' ∉ o.toList)
    (whole' : ∀ o ∈ f'.options, ',' ∉ o.toList) (same : fieldLines f = fieldLines f') :
    fieldShape f = fieldShape f' := by
  obtain ⟨first, rest⟩ := List.cons.inj same
  obtain ⟨names, types, r, u, i, s, q⟩ := Line.field.inj first
  obtain ⟨front, series⟩ := append_kind_inj (fun l => l.isSeries = false)
    (List.forall_mem_append.mpr ⟨forall_mem_optional rfl, forall_mem_optional rfl⟩)
    (List.forall_mem_append.mpr ⟨forall_mem_optional rfl, forall_mem_optional rfl⟩)
    (forall_mem_optional Bool.false_ne_true.symm) (forall_mem_optional Bool.false_ne_true.symm)
    rest
  obtain ⟨options, target⟩ := append_kind_inj (fun l => l.isOptions = true)
    (forall_mem_optional rfl) (forall_mem_optional rfl)
    (forall_mem_optional Bool.false_ne_true) (forall_mem_optional Bool.false_ne_true) front
  rw [← names] at target series
  have targets := optional_inj (fun _ _ alike => (Line.link.inj alike).2) target
  have patterns := optional_inj (fun _ _ alike => (Line.series.inj alike).2) series
  rw [fieldShape, fieldShape, names, types, r, u, i, s, q, targets, patterns,
    options_of_lines whole whole' options]

theorem writePerms_inj {label : String} {ids ids' : List String}
    (same : writePerms name label ids = writePerms name label ids') :
    (ids : Multiset String) = ids' := by
  have injective : Function.Injective (Line.perm name label) :=
    fun _ _ alike => (Line.perm.inj alike).2.2
  exact coe_eq_of_sortStrings (List.map_injective_iff.mpr injective same)

/-- Of the lines under a label those under the same label are kept. -/
theorem filter_writePerms (name label asked : String) (ids : List String) :
    (writePerms name label ids).filter (Line.hasLabel asked) =
      if label = asked then writePerms name label ids else [] := by
  split
  · rename_i same
    refine List.filter_eq_self.mpr fun l member => ?_
    obtain ⟨p, -, rfl⟩ := List.mem_map.mp member
    exact decide_eq_true same
  · rename_i other
    refine List.filter_eq_nil_iff.mpr fun l member => ?_
    obtain ⟨p, -, rfl⟩ := List.mem_map.mp member
    exact Bool.not_eq_true _ ▸ decide_eq_false other

theorem filter_actionLines (name asked : String) (lists : String → List String)
    {keys : List String} (nodup : keys.Nodup) :
    (keys.flatMap fun action => writePerms name action (lists action)).filter
      (Line.hasLabel asked) = if asked ∈ keys then writePerms name asked (lists asked) else [] := by
  induction keys with
  | nil => rfl
  | cons key rest ih =>
    obtain ⟨fresh, nodup⟩ := List.nodup_cons.mp nodup
    rw [List.flatMap_cons, List.filter_append, ih nodup, filter_writePerms]
    by_cases same : key = asked
    · subst same
      rw [if_pos rfl, if_neg fresh, if_pos List.mem_cons_self, List.append_nil]
    · rw [if_neg same, List.nil_append]
      simp only [List.mem_cons, Ne.symm same, false_or]

variable {perms : PermissionSet}

theorem subjects_of_notMem {action : String} (absent : action ∉ actionNames perms) :
    subjects perms action = [] := by
  by_contra some
  exact absent (mem_actionNames some)

/-- What the lines under a label tell. -/
def granted (perms : PermissionSet) (label : String) : List String :=
  match label with
  | "create" => perms.create
  | "read" => perms.read
  | "write" => perms.write
  | "delete" => perms.delete
  | _ => subjects perms label

theorem filter_permLines (name label : String)
    (apart : ∀ action ∈ actionNames perms, action ∉ labels) :
    (permLines name perms).filter (Line.hasLabel label) =
      writePerms name label (granted perms label) := by
  have nodup : (sortStrings (actionNames perms)).Nodup :=
    (sortStrings_perm _).nodup_iff.mpr (List.nodup_dedup _)
  have filtered := filter_actionLines name label (subjects perms) nodup
  rw [permLines, List.filter_append, List.filter_append, List.filter_append, List.filter_append,
    filtered, filter_writePerms, filter_writePerms, filter_writePerms, filter_writePerms]
  simp only [mem_sortStrings]
  by_cases standard : label ∈ labels
  · rw [if_neg fun inNames => apart label inNames standard]
    simp only [labels, List.mem_cons, List.not_mem_nil, or_false] at standard
    rcases standard with rfl | rfl | rfl | rfl <;> simp [granted]
  · simp only [labels, List.mem_cons, List.not_mem_nil, or_false, not_or] at standard
    obtain ⟨create, read, write, delete⟩ := standard
    have custom : granted perms label = subjects perms label := by
      unfold granted
      split <;> first | contradiction | rfl
    rw [if_neg (Ne.symm create), if_neg (Ne.symm read), if_neg (Ne.symm write),
      if_neg (Ne.symm delete), custom]
    split
    · simp
    · rename_i absent
      rw [subjects_of_notMem absent]
      rfl

theorem granted_of_lines {perms perms' : PermissionSet}
    (apart : ∀ action ∈ actionNames perms, action ∉ labels)
    (apart' : ∀ action ∈ actionNames perms', action ∉ labels)
    (same : permLines name perms = permLines name perms') (label : String) :
    (granted perms label : Multiset String) = granted perms' label := by
  have kept := congrArg (List.filter (Line.hasLabel label)) same
  rw [filter_permLines name label apart, filter_permLines name label apart'] at kept
  exact writePerms_inj kept

theorem grants_of_lines {perms perms' : PermissionSet}
    (apart : ∀ action ∈ actionNames perms, action ∉ labels)
    (apart' : ∀ action ∈ actionNames perms', action ∉ labels)
    (same : permLines name perms = permLines name perms') (action : String) :
    (subjects perms action : Multiset String) = subjects perms' action := by
  by_cases standard : action ∈ labels
  · rw [subjects_of_notMem fun inNames => apart action inNames standard,
      subjects_of_notMem fun inNames => apart' action inNames standard]
  · have told := granted_of_lines apart apart' same action
    simp only [labels, List.mem_cons, List.not_mem_nil, or_false, not_or] at standard
    obtain ⟨create, read, write, delete⟩ := standard
    unfold granted at told
    split at told <;> first | contradiction | exact told

theorem tag_of_mem_fields {fields : List FieldDef} :
    ∀ l ∈ fields.flatMap fieldLines, l.tag = "field" := by
  refine List.forall_mem_flatMap.mpr fun f _ => List.forall_mem_cons.mpr ⟨rfl, ?_⟩
  rw [List.forall_mem_append, List.forall_mem_append]
  exact ⟨⟨forall_mem_optional rfl, forall_mem_optional rfl⟩, forall_mem_optional rfl⟩

theorem tag_of_mem_edges {edges : List EdgeDef} : ∀ l ∈ edges.map edgeLine, l.tag = "edge" :=
  List.forall_mem_map.mpr fun _ _ => rfl

theorem tag_of_mem_actions {actions : List ActionDef} :
    ∀ l ∈ actions.map actionLine, l.tag = "action" :=
  List.forall_mem_map.mpr fun _ _ => rfl

theorem tag_of_mem_perms : ∀ l ∈ permLines name perms, l.tag = "perm" := by
  have written : ∀ {label : String} {ids : List String}, ∀ l ∈ writePerms name label ids,
      l.tag = "perm" := List.forall_mem_map.mpr fun _ _ => rfl
  simp only [permLines, List.forall_mem_append, List.forall_mem_flatMap]
  exact ⟨⟨⟨⟨written, written⟩, written⟩, written⟩, fun _ _ => written⟩

theorem headed_fieldLines (f : FieldDef) : Headed Line.isField (fieldLines f) := by
  refine ⟨rfl, ?_⟩
  rw [List.forall_mem_append, List.forall_mem_append]
  exact ⟨⟨forall_mem_optional rfl, forall_mem_optional rfl⟩, forall_mem_optional rfl⟩

variable {sorting : SliceSort} {es es' : EntitySchema}

theorem fields_of_lines (readable : Readable es) (readable' : Readable es')
    (same : (sorting.byKey FieldDef.name es.fields).flatMap fieldLines =
      (sorting.byKey FieldDef.name es'.fields).flatMap fieldLines) :
    ((es.fields.map fieldShape : List FieldShape) : Multiset FieldShape) =
      es'.fields.map fieldShape := by
  rw [List.flatMap_def, List.flatMap_def] at same
  have headed : ∀ fields : List FieldDef, ∀ block ∈ fields.map fieldLines,
      Headed Line.isField block := fun fields => List.forall_mem_map.mpr fun f _ =>
    headed_fieldLines f
  have shapes : (sorting.byKey FieldDef.name es.fields).map fieldShape =
      (sorting.byKey FieldDef.name es'.fields).map fieldShape :=
    SliceSort.map_eq_of_view (fun f inFields f' inFields' => fieldShape_of_lines
      (fun o member => (readable.options f (sorting.mem_byKey.mp inFields) o member).1)
      (fun o member => (readable'.options f' (sorting.mem_byKey.mp inFields') o member).1))
      (flatten_inj (headed _) (headed _) same)
  have perm := (sorting.perm FieldDef.name es.fields).map fieldShape
  rw [shapes] at perm
  exact Multiset.coe_eq_coe.mpr
    (perm.symm.trans ((sorting.perm FieldDef.name es'.fields).map fieldShape))

theorem apart_of_readable (readable : Readable es) :
    ∀ action ∈ actionNames es.permissions, action ∉ labels := by
  intro action inNames
  rw [actionNames, List.mem_dedup] at inNames
  obtain ⟨entry, inMap, rfl⟩ := List.mem_map.mp inNames
  exact (readable.actionLabels entry inMap).2

theorem entityShape_of_lines (readable : Readable es) (readable' : Readable es')
    (same : entityLines sorting es.qualifiedName es =
      entityLines sorting es'.qualifiedName es') : entityShape es = entityShape es' := by
  obtain ⟨first, rest⟩ := List.cons.inj same
  obtain ⟨names, systems⟩ := Line.entity.inj first
  rw [← names] at rest
  -- the parts are told by what their lines begin with
  have other : ∀ {ls : List Line} {tag : String} (asked : String), tag ≠ asked →
      (∀ l ∈ ls, l.tag = tag) → ∀ l ∈ ls, l.tag ≠ asked := fun _ apart tagged l member found =>
    apart ((tagged l member).symm.trans found)
  have own : ∀ {ls : List Line} {tag : String}, (∀ l ∈ ls, l.tag = tag) →
      ∀ l ∈ ls, ¬ l.tag ≠ tag := fun tagged l member => not_not.mpr (tagged l member)
  obtain ⟨rest, perms⟩ := append_kind_inj (fun l => l.tag ≠ "perm")
    (List.forall_mem_append.mpr ⟨List.forall_mem_append.mpr
      ⟨other _ (by decide) tag_of_mem_fields, other _ (by decide) tag_of_mem_edges⟩,
      other _ (by decide) tag_of_mem_actions⟩)
    (List.forall_mem_append.mpr ⟨List.forall_mem_append.mpr
      ⟨other _ (by decide) tag_of_mem_fields, other _ (by decide) tag_of_mem_edges⟩,
      other _ (by decide) tag_of_mem_actions⟩)
    (own tag_of_mem_perms) (own tag_of_mem_perms) rest
  obtain ⟨rest, actions⟩ := append_kind_inj (fun l => l.tag ≠ "action")
    (List.forall_mem_append.mpr
      ⟨other _ (by decide) tag_of_mem_fields, other _ (by decide) tag_of_mem_edges⟩)
    (List.forall_mem_append.mpr
      ⟨other _ (by decide) tag_of_mem_fields, other _ (by decide) tag_of_mem_edges⟩)
    (own tag_of_mem_actions) (own tag_of_mem_actions) rest
  obtain ⟨fields, edges⟩ := append_kind_inj (fun l => l.tag ≠ "edge")
    (other _ (by decide) tag_of_mem_fields) (other _ (by decide) tag_of_mem_fields)
    (own tag_of_mem_edges) (own tag_of_mem_edges) rest
  have edgesPart : (es.edges : Multiset EdgeDef) = es'.edges := by
    have injective : Function.Injective edgeLine := fun e e' alike => by
      cases e
      cases e'
      obtain ⟨rfl, rfl, rfl, rfl⟩ := Line.edge.inj alike
      rfl
    have sorted := List.map_injective_iff.mpr injective edges
    exact Multiset.coe_eq_coe.mpr ((sorting.perm EdgeDef.name es.edges).symm.trans
      (sorted ▸ sorting.perm EdgeDef.name es'.edges))
  have actionsPart : ((es.actions.map actionShape : List (String × String)) :
      Multiset (String × String)) = es'.actions.map actionShape := by
    have sorted : (sorting.byKey ActionDef.name es.actions).map actionShape =
        (sorting.byKey ActionDef.name es'.actions).map actionShape :=
      SliceSort.map_eq_of_view (fun a _ a' _ alike => by
        obtain ⟨name, method⟩ := Line.action.inj alike
        rw [actionShape, actionShape, name, method]) actions
    have perm := (sorting.perm ActionDef.name es.actions).map actionShape
    rw [sorted] at perm
    exact Multiset.coe_eq_coe.mpr
      (perm.symm.trans ((sorting.perm ActionDef.name es'.actions).map actionShape))
  have told := granted_of_lines (apart_of_readable readable) (apart_of_readable readable') perms
  have grants := funext (grants_of_lines (apart_of_readable readable)
    (apart_of_readable readable') perms)
  rw [entityShape, entityShape, EntityShape.mk.injEq]
  exact ⟨names, systems, fields_of_lines readable readable' fields, edgesPart, actionsPart,
    told "create", told "read", told "write", told "delete", grants⟩

theorem headed_entityLines (name : String) (es : EntitySchema) :
    Headed (fun l => decide (l.tag = "entity")) (entityLines sorting name es) := by
  have other : ∀ {ls : List Line} {tag : String}, tag ≠ "entity" → (∀ l ∈ ls, l.tag = tag) →
      ∀ l ∈ ls, decide (l.tag = "entity") = false := fun apart tagged l member =>
    decide_eq_false fun found => apart ((tagged l member).symm.trans found)
  refine ⟨rfl, ?_⟩
  rw [List.forall_mem_append, List.forall_mem_append, List.forall_mem_append]
  exact ⟨⟨⟨other (by decide) tag_of_mem_fields, other (by decide) tag_of_mem_edges⟩,
    other (by decide) tag_of_mem_actions⟩, other (by decide) tag_of_mem_perms⟩

variable {s s' : CompiledSchema}

theorem shapes_of_lines (named : Named s) (named' : Named s')
    (readable : ∀ es ∈ s.entities, Readable es) (readable' : ∀ es ∈ s'.entities, Readable es)
    (same : schemaLines sorting s = schemaLines sorting s') : shapes s = shapes s' := by
  rw [schemaLines_eq named, schemaLines_eq named'] at same
  have headed : ∀ entities : List EntitySchema,
      ∀ block ∈ entities.map (fun es => entityLines sorting es.qualifiedName es),
        Headed (fun l => decide (l.tag = "entity")) block := fun entities =>
    List.forall_mem_map.mpr fun es _ => headed_entityLines _ es
  have shapes : (ordered s).map entityShape = (ordered s').map entityShape :=
    SliceSort.map_eq_of_view (fun es member es' member' => entityShape_of_lines
      (readable es (mem_ordered.mp member)) (readable' es' (mem_ordered.mp member')))
      (flatten_inj (headed _) (headed _) same)
  have perm := (SliceSort.insertion.perm EntitySchema.qualifiedName s.entities).map entityShape
  rw [show (SliceSort.insertion.byKey EntitySchema.qualifiedName s.entities).map entityShape =
    (ordered s').map entityShape from shapes] at perm
  exact Multiset.coe_eq_coe.mpr (perm.symm.trans
    ((SliceSort.insertion.perm EntitySchema.qualifiedName s'.entities).map entityShape))

theorem clean_of_mem_schemaLines (named : Named s) (readable : ∀ es ∈ s.entities, Readable es) :
    ∀ l ∈ schemaLines sorting s, l.Clean := by
  rw [schemaLines_eq named, ← List.flatMap_def, List.forall_mem_flatMap]
  exact fun es member _ => clean_of_mem_entityLines (readable es (mem_ordered.mp member))

end Told

section Compiled

variable {starts : Ranging String} {targets : String → Ranging String}
  {registered : EntityRegistry} {reg : Registry} {s : CompiledSchema}

theorem named_of_compile (built : (build registered).1 = .ok reg)
    (compiled : compile starts targets reg = .ok s) : Named s := by
  obtain ⟨-, entities, byName, -⟩ := compile_eq_ok compiled
  refine ⟨?_, byName, fun es member => ?_⟩
  · rw [entities, List.map_map]
    exact (sound_of_build built).nodup
  · obtain ⟨d, inDefs, rfl⟩ := (mem_entities compiled).mp member
    have checked := checked_of_build built inDefs
    exact ⟨checked.fields, checked.edges, checked.actions⟩

/-- Where the texts are free of separators, the lines of a compiled schema are clean. -/
theorem readable_of_compile (built : (build registered).1 = .ok reg)
    (compiled : compile starts targets reg = .ok s)
    (separable : ∀ es ∈ s.entities, Separable es) : ∀ es ∈ s.entities, Readable es := by
  have clean := (compile_eq_ok compiled).1
  have names : ∀ d ∈ reg.defs, Plain (qualifiedName d) := by
    intro d inDefs
    have module := (separable _ ((mem_entities compiled).mpr ⟨d, inDefs, rfl⟩)).module
    have snake := entityNameRe_of_validate clean inDefs
    simp only [Plain, qualifiedName_eq, String.toList_append, List.mem_append, not_or]
    exact ⟨⟨⟨module.1, by decide⟩, notMem_of_entityNameRe snake (by decide) (by decide)⟩,
      ⟨module.2, by decide⟩, notMem_of_entityNameRe snake (by decide) (by decide)⟩
  intro es member
  have apart := separable es member
  obtain ⟨d, inDefs, rfl⟩ := (mem_entities compiled).mp member
  have checked := checked_of_build built inDefs
  refine ⟨apart, names d inDefs, fun f inFields => ?_, fun f inFields => ?_, fun e inEdges => ?_⟩
  · have identifier := checked.fieldNames f inFields
    exact ⟨notMem_of_fieldNameRe identifier (by decide) (by decide),
      notMem_of_fieldNameRe identifier (by decide) (by decide)⟩
  · cases link : f.type.isLink with
    | false => exact apart.linkTargets f inFields link
    | true =>
      obtain ⟨other, inDefs, target⟩ := checked.linkTargets f inFields link
      exact target ▸ names other inDefs
  · obtain ⟨other, inDefs, target⟩ := checked.edgeTargets e inEdges
    exact target ▸ names other inDefs

end Compiled

/-! ## Listing in another order -/

def ReorderedField (f f' : FieldDef) : Prop :=
  f.options.Perm f'.options ∧ f' = { f with options := f'.options }

/-- The same definition, but for the order of what it lists. -/
structure Reordered (d d' : EntityDefinition) : Prop where
  name : d.name = d'.name
  module : d.module = d'.module
  isSystem : d.isSystem = d'.isSystem
  pluralName : d.pluralName = d'.pluralName
  allowAudit : d.allowAudit = d'.allowAudit
  fields : Multiset.Rel ReorderedField d.fields d'.fields
  edges : d.edges.Perm d'.edges
  actions : d.actions.Perm d'.actions
  create : d.permissions.create.Perm d'.permissions.create
  read : d.permissions.read.Perm d'.permissions.read
  write : d.permissions.write.Perm d'.permissions.write
  delete : d.permissions.delete.Perm d'.permissions.delete
  grants : ∀ action, (subjects d.permissions action).Perm (subjects d'.permissions action)

theorem map_eq_of_rel {α β : Type} {r : α → α → Prop} (f : α → β) {xs ys : Multiset α}
    (alike : ∀ x y, r x y → f x = f y) (related : Multiset.Rel r xs ys) :
    xs.map f = ys.map f :=
  Multiset.rel_eq.mp (Multiset.rel_map.mpr (related.mono fun x _ y _ => alike x y))

theorem fieldShape_of_reordered (f f' : FieldDef) (reordered : ReorderedField f f') :
    fieldShape f = fieldShape f' := by
  obtain ⟨perm, same⟩ := reordered
  rw [same, fieldShape, fieldShape, FieldShape.mk.injEq]
  exact ⟨rfl, rfl, rfl, rfl, rfl, rfl, rfl, Multiset.coe_eq_coe.mpr perm, rfl, rfl⟩

theorem entityShape_of_reordered (d d' : EntityDefinition) (reordered : Reordered d d') :
    entityShape (buildEntitySchema d) = entityShape (buildEntitySchema d') := by
  have names : qualifiedName d = qualifiedName d' := by
    rw [qualifiedName, qualifiedName, hasModulePrefix, hasModulePrefix, reordered.name,
      reordered.module]
  have fields := map_eq_of_rel fieldShape fieldShape_of_reordered reordered.fields
  rw [entityShape, entityShape, EntityShape.mk.injEq]
  exact ⟨names, reordered.isSystem, fields, Multiset.coe_eq_coe.mpr reordered.edges,
    Multiset.coe_eq_coe.mpr (reordered.actions.map actionShape),
    Multiset.coe_eq_coe.mpr reordered.create, Multiset.coe_eq_coe.mpr reordered.read,
    Multiset.coe_eq_coe.mpr reordered.write, Multiset.coe_eq_coe.mpr reordered.delete,
    funext fun action => Multiset.coe_eq_coe.mpr (reordered.grants action)⟩

/--
The order in which entities, and the parts of an entity, are listed does not
change a fingerprint, and where the texts are free of separators, equal
fingerprints are those of the same names, flags, fields, links, actions and
permissions.
-/
theorem fingerprint_tells_schema (sorting : SliceSort) (digest : String → String)
    (injective : Function.Injective digest) (starts starts' : Ranging String)
    (targets targets' : String → Ranging String) (registered registered' : EntityRegistry)
    (reg reg' : Registry) (s s' : CompiledSchema) (built : (build registered).1 = .ok reg)
    (built' : (build registered').1 = .ok reg')
    (compiled : compile starts targets reg = .ok s)
    (compiled' : compile starts' targets' reg' = .ok s') :
    (Multiset.Rel Reordered reg.defs reg'.defs →
      fingerprint sorting digest s = fingerprint sorting digest s') ∧
    ((∀ es ∈ s.entities, Separable es) → (∀ es ∈ s'.entities, Separable es) →
      fingerprint sorting digest s = fingerprint sorting digest s' → shapes s = shapes s') := by
  have named := named_of_compile built compiled
  have named' := named_of_compile built' compiled'
  constructor
  · intro reordered
    have same : shapes s = shapes s' := by
      have defs := map_eq_of_rel (fun d => entityShape (buildEntitySchema d))
        entityShape_of_reordered reordered
      rw [shapes, shapes, (compile_eq_ok compiled).2.1, (compile_eq_ok compiled').2.1,
        List.map_map, List.map_map]
      exact defs
    rw [fingerprint, fingerprint, schemaLines_congr named named' same]
  · intro separable separable' same
    have readable := readable_of_compile built compiled separable
    have readable' := readable_of_compile built' compiled' separable'
    exact shapes_of_lines named named' readable readable'
      (Line.join_inj (clean_of_mem_schemaLines named readable)
        (clean_of_mem_schemaLines named' readable') (injective same))

/-! ## Changes that a fingerprint does not tell -/

/-- The same definition, but for the order of its fields and links. -/
def Relisted (d d' : EntityDefinition) : Prop :=
  d.fields.Perm d'.fields ∧ d.edges.Perm d'.edges ∧
    d' = { d with fields := d'.fields, edges := d'.edges }

/-- Two registered sets of definitions that are told apart by more than an order. -/
def Collide (defs defs' : List EntityDefinition) : Prop :=
  ∃ registered registered' reg reg' s s',
    EntityRegistry.registerAll (defs.map some) = .ok registered ∧
    EntityRegistry.registerAll (defs'.map some) = .ok registered' ∧
    (build registered).1 = .ok reg ∧ (build registered').1 = .ok reg' ∧
    compile listed (fun _ => listed) reg = .ok s ∧
    compile listed (fun _ => listed) reg' = .ok s' ∧
    fingerprint .insertion id s = fingerprint .insertion id s' ∧
    ¬ Multiset.Rel Relisted reg.defs reg'.defs

theorem exists_compiled {defs : List EntityDefinition} (nonempty : defs.isEmpty = false)
    (rows : ((EntityRegistry.registerAll (defs.map some)).map fun reg => reg.defs.rows) = .ok defs)
    (clean : (defs.flatMap fun d => Registry.validateDefinition d fun name =>
      (index qualifiedName defs name).isSome).isEmpty = true)
    (compiles : (compile listed (fun _ => listed) ⟨defs, index qualifiedName defs⟩).isOk = true) :
    ∃ registered reg s, EntityRegistry.registerAll (defs.map some) = .ok registered ∧
      (build registered).1 = .ok reg ∧ compile listed (fun _ => listed) reg = .ok s ∧
      reg.defs = defs := by
  cases all : EntityRegistry.registerAll (defs.map some) with
  | error e => simp [all, Except.map] at rows
  | ok registered =>
    rw [all] at rows
    obtain ⟨s, compiled⟩ := exists_of_isOk compiles
    refine ⟨registered, ⟨defs, index qualifiedName defs⟩, s, rfl, ?_, compiled, rfl⟩
    simp only [build, show registered.defs.rows = defs from Except.ok.inj rows, nonempty]
    exact fromValidated_eq_ok clean

def order (options : List String) (permission : String) : EntityDefinition :=
  { name := "order", module := "sales"
    fields := [{ name := "kind", type := .select, options := options }]
    actions := [{ name := "ship", permission := permission, handlerFunc := some 0 }] }

/-- A set of orders that is registered, built and compiled. -/
def Compiles (d : EntityDefinition) : Prop :=
  ∃ registered reg s, EntityRegistry.registerAll ([d].map some) = .ok registered ∧
    (build registered).1 = .ok reg ∧ compile listed (fun _ => listed) reg = .ok s ∧
    reg.defs = [d]

def linesOf (d : EntityDefinition) : List Line :=
  entityLines .insertion (buildEntitySchema d).qualifiedName (buildEntitySchema d)

theorem schemaLines_singleton {registered : EntityRegistry} {reg : Registry} {s : CompiledSchema}
    {d : EntityDefinition} (built : (build registered).1 = .ok reg)
    (compiled : compile listed (fun _ => listed) reg = .ok s) (defs : reg.defs = [d]) :
    schemaLines .insertion s = linesOf d := by
  rw [schemaLines_eq (named_of_compile built compiled), ordered, (compile_eq_ok compiled).2.1,
    defs]
  exact List.append_nil (linesOf d)

theorem collide_of_lines {d d' : EntityDefinition} (first : Compiles d) (second : Compiles d')
    (lines : linesOf d = linesOf d')
    (apart : (d.fields : Multiset FieldDef) ≠ d'.fields ∨ d.actions ≠ d'.actions) :
    Collide [d] [d'] := by
  obtain ⟨registered, reg, s, all, built, compiled, defs⟩ := first
  obtain ⟨registered', reg', s', all', built', compiled', defs'⟩ := second
  refine ⟨registered, registered', reg, reg', s, s', all, all', built, built', compiled, compiled',
    ?_, fun related => ?_⟩
  · rw [fingerprint, fingerprint, schemaLines_singleton built compiled defs,
      schemaLines_singleton built' compiled' defs', lines]
  · rw [defs, defs'] at related
    have fields := map_eq_of_rel (fun d => (d.fields : Multiset FieldDef))
      (fun _ _ relisted => Multiset.coe_eq_coe.mpr relisted.1) related
    have actions := map_eq_of_rel EntityDefinition.actions (fun d d' relisted => by
      have same := congrArg EntityDefinition.actions relisted.2.2
      exact same.symm) related
    exact apart.elim (absurd (Multiset.singleton_inj.mp fields))
      (absurd (Multiset.singleton_inj.mp actions))

theorem compiles_ab : Compiles (order ["a", "b"] "") :=
  exists_compiled rfl (by decide +kernel) (by decide +kernel) (by decide +kernel)

theorem compiles_ba : Compiles (order ["b", "a"] "") :=
  exists_compiled rfl (by decide +kernel) (by decide +kernel) (by decide +kernel)

/--
The order of options is not told, nor is one option with a comma from two, nor
the permission that an action asks for.
-/
theorem orders_collide :
    Collide [order ["a", "b"] ""] [order ["b", "a"] ""] ∧
      Collide [order ["a", "b"] ""] [order ["a,b"] ""] ∧
      Collide [order ["a", "b"] ""] [order ["a", "b"] "approve"] := by
  have comma : Compiles (order ["a,b"] "") :=
    exists_compiled rfl (by decide +kernel) (by decide +kernel) (by decide +kernel)
  have approve : Compiles (order ["a", "b"] "approve") :=
    exists_compiled rfl (by decide +kernel) (by decide +kernel) (by decide +kernel)
  refine ⟨collide_of_lines compiles_ab compiles_ba ?_ (.inl ?_),
    collide_of_lines compiles_ab comma ?_ (.inl ?_),
    collide_of_lines compiles_ab approve ?_ (.inr ?_)⟩ <;> decide +kernel

/-- Two orders whose options are listed in another order have one fingerprint and one shape. -/
theorem orders_told : ∃ registered registered' reg reg' s s',
    (build registered).1 = .ok reg ∧ (build registered').1 = .ok reg' ∧
      compile listed (fun _ => listed) reg = .ok s ∧
      compile listed (fun _ => listed) reg' = .ok s' ∧
      reg.defs = [order ["a", "b"] ""] ∧ reg'.defs = [order ["b", "a"] ""] ∧
      fingerprint .insertion id s = fingerprint .insertion id s' ∧ shapes s = shapes s' := by
  obtain ⟨registered, reg, s, -, built, compiled, defs⟩ := compiles_ab
  obtain ⟨registered', reg', s', -, built', compiled', defs'⟩ := compiles_ba
  obtain ⟨reordered, told⟩ := fingerprint_tells_schema .insertion id Function.injective_id listed
    listed (fun _ => listed) (fun _ => listed) registered registered' reg reg' s s' built built'
    compiled compiled'
  have separable : ∀ {reg : Registry} {s : CompiledSchema} {options : List String},
      compile listed (fun _ => listed) reg = .ok s → reg.defs = [order options ""] →
      (∀ o ∈ options, ',' ∉ o.toList ∧ OneLine o) → ∀ es ∈ s.entities, Separable es := by
    intro reg s options compiled defs apart es member
    rw [(compile_eq_ok compiled).2.1, defs] at member
    obtain rfl := List.mem_singleton.mp member
    exact ⟨show Plain "sales" by decide,
      List.forall_mem_singleton.mpr apart,
      List.forall_mem_singleton.mpr fun _ => show Plain "" by decide,
      List.forall_mem_singleton.mpr (show OneLine "" by decide),
      fun _ member => absurd member List.not_mem_nil,
      List.forall_mem_singleton.mpr (show Plain "ship" ∧ OneLine "" by decide),
      fun _ member => absurd member List.not_mem_nil,
      fun _ member => absurd member List.not_mem_nil⟩
  have relisted : Reordered (order ["a", "b"] "") (order ["b", "a"] "") :=
    ⟨rfl, rfl, rfl, rfl, rfl, Multiset.Rel.cons ⟨List.Perm.swap _ _ _, rfl⟩ .zero, .refl _,
      .refl _, .refl _, .refl _, .refl _, .refl _, fun _ => .refl _⟩
  have same := reordered (by
    rw [defs, defs']
    exact Multiset.Rel.cons relisted .zero)
  exact ⟨registered, registered', reg, reg', s, s', built, built', compiled, compiled', defs, defs',
    same, told (separable compiled defs (by decide)) (separable compiled' defs' (by decide)) same⟩

end ErpFinance.Compiler
