import ErpFinance.Api.Crud
import ErpFinance.Driver.PostgresSteps
import ErpFinance.Iam.UserDefinition

/-!
# Sensitive fields

What a field's mark keeps from the responses.  Two databases that differ only
in the values of marked fields are told apart by listing the records as soon as
a field is marked: no handler asks for the mark.
-/

namespace ErpFinance.Api

open Compiler Domain Driver Library ErpFinance.Runtime

/-! ## States that differ in marked fields -/

/-- A field of the schema that is declared sensitive. -/
def EntityService.Sensitive (s : EntityService) (name : String) : Prop :=
  (∃ f ∈ s.schema.fields, f.name = name) ∧
    name ∈ (s.pipeline.behaviour s.schema.qualifiedName).sensitive

section Agree

variable (hidden : String → Prop)

/-- JSON objects with the same keys, and with the same values under the keys that are not hidden. -/
def AgreeData (first second : Value) : Prop :=
  first = second ∨ ∃ members others, first = .object members ∧ second = .object others ∧
    List.Forall₂ (fun member other => member.1 = other.1 ∧ (hidden member.1 ∨ member.2 = other.2))
      members others

/-- Rows that differ at most in the values of hidden fields. -/
structure AgreeRow (es : EntitySchema) (first second : Row) : Prop where
  framework : ∀ column ∈ frameworkColumns, (es.isSystem = true ∧ hidden column) ∨
    first.value column = second.value column
  columns : ∀ column, (es.isSystem = true ∧ hidden column) ∨
    (es.isSystem = false ∧ column = "data") ∨ first.columns column = second.columns column
  data : es.isSystem = false → AgreeData hidden (first.columns "data") (second.columns "data")

/-- States that differ at most in the values of hidden fields of an entity. -/
structure AgreeStore (es : EntitySchema) (first second : Store) : Prop where
  rows : List.Forall₂ (AgreeRow hidden es) (first.tables es.tableName)
    (second.tables es.tableName)
  others : ∀ table, table ≠ es.tableName → first.tables table = second.tables table
  saved : first.saved = second.saved
  drawn : first.drawn = second.drawn
  sent : first.sent = second.sent

end Agree

/-- Requests by a viewer without the permission to read sensitive fields get the same responses
in any two states that differ only in them. -/
def SensitiveHidden (s : EntityService) (viewer : Option Actor) : Prop :=
  ∀ (e : Engine) (first second : Store) (requests : List (Context × Crud.Request)),
    AgreeStore s.Sensitive s.schema first second →
    (∀ request ∈ requests, request.1.viewer = viewer ∧ request.1.conn = none ∧
      request.2.isDelete = false) →
    (Crud.serveAll e.database s requests first).1 = (Crud.serveAll e.database s requests second).1

/-! ## Without marked fields -/

theorem AgreeData.eq {hidden : String → Prop} {first second : Value}
    (agree : AgreeData hidden first second) (none : ∀ name, ¬ hidden name) : first = second := by
  rcases agree with same | ⟨members, others, rfl, rfl, each⟩
  · exact same
  · have same : List.Forall₂ Eq members others := by
      refine each.imp fun member other related => ?_
      exact Prod.ext related.1 (related.2.resolve_left (none member.1))
    rw [List.forall₂_eq_eq_eq] at same
    rw [same]

theorem AgreeRow.eq {hidden : String → Prop} {es : EntitySchema} {first second : Row}
    (agree : AgreeRow hidden es first second) (none : ∀ name, ¬ hidden name) : first = second := by
  have framework : ∀ column ∈ frameworkColumns, first.value column = second.value column :=
    fun column member =>
      (agree.framework column member).resolve_left fun marked => none column marked.2
  have columns : first.columns = second.columns := by
    funext column
    rcases agree.columns column with marked | ⟨custom, rfl⟩ | same
    · exact absurd marked.2 (none column)
    · exact (agree.data custom).eq none
    · exact same
  obtain ⟨id, tenantID, createdAt, updatedAt, values⟩ := first
  obtain ⟨id', tenantID', createdAt', updatedAt', values'⟩ := second
  have ids := framework "id" (by decide)
  have tenants := framework "tenant_id" (by decide)
  have created := framework "created_at" (by decide)
  have updated := framework "updated_at" (by decide)
  simp only [Row.value, Value.uuid, Value.time] at ids tenants created updated
  simp_all

theorem AgreeStore.eq {hidden : String → Prop} {es : EntitySchema} {first second : Store}
    (agree : AgreeStore hidden es first second) (none : ∀ name, ¬ hidden name) :
    first = second := by
  have rows : first.tables es.tableName = second.tables es.tableName := by
    have same := agree.rows.imp fun _ _ related => AgreeRow.eq related none
    rwa [List.forall₂_eq_eq_eq] at same
  have tables : first.tables = second.tables := by
    funext table
    by_cases own : table = es.tableName
    · rw [own, rows]
    · exact agree.others table own
  obtain ⟨firstTables, firstSaved, firstDrawn, firstSent⟩ := first
  obtain ⟨secondTables, secondSaved, secondDrawn, secondSent⟩ := second
  obtain rfl : firstTables = secondTables := tables
  obtain rfl : firstSaved = secondSaved := agree.saved
  obtain rfl : firstDrawn = secondDrawn := agree.drawn
  obtain rfl : firstSent = secondSent := agree.sent
  rfl

section Marked

variable (s : EntityService) (name : String)

/-- A row whose field is told by a number. -/
def markedRow (number : Nat) : Row where
  id := if s.schema.isSystem ∧ name = "id" then number else 0
  tenantID := if s.schema.isSystem ∧ name = "tenant_id" then number else 0
  createdAt := if s.schema.isSystem ∧ name = "created_at" then number else 0
  updatedAt := if s.schema.isSystem ∧ name = "updated_at" then number else 0
  columns column :=
    if s.schema.isSystem then if column = name then .uuid number else .null
    else if column = "data" then .object [(name, Value.uuid number)] else .null

/-- A database with one record of the entity. -/
def markedStore (number : Nat) : Store where
  tables := Function.update (fun _ => []) s.schema.tableName [markedRow s name number]

theorem agreeRow_marked {hidden : String → Prop} (marked : hidden name) (first second : Nat) :
    AgreeRow hidden s.schema (markedRow s name first) (markedRow s name second) := by
  cases system : s.schema.isSystem with
  | true =>
    have others : ∀ column, column ≠ name →
        (markedRow s name first).value column = (markedRow s name second).value column := by
      intro column different
      simp only [Row.value, markedRow, system, true_and, if_true, if_neg different]
      split_ifs <;> simp_all
    refine ⟨fun column _ => ?_, fun column => ?_, fun custom => ?_⟩
    · by_cases same : column = name
      · exact .inl ⟨system, same ▸ marked⟩
      · exact .inr (others column same)
    · by_cases same : column = name
      · exact .inl ⟨system, same ▸ marked⟩
      · refine .inr (.inr ?_)
        simp [markedRow, system, same]
    · rw [system] at custom
      cases custom
  | false =>
    have data : ∀ number, (markedRow s name number).columns "data" =
        .object [(name, Value.uuid number)] := by
      intro number
      simp [markedRow, system]
    refine ⟨fun column framework => .inr ?_, fun column => .inr ?_, fun _ => .inr ?_⟩
    · have plain : column ≠ "data" := by
        rintro rfl
        exact absurd framework (by decide)
      simp only [Row.value, markedRow, system, Bool.false_eq_true, false_and, if_false,
        if_neg plain]
    · by_cases isData : column = "data"
      · exact .inl ⟨system, isData⟩
      · exact .inr (by simp [markedRow, system, isData])
    · exact ⟨_, _, data first, data second, .cons ⟨rfl, .inl marked⟩ .nil⟩

/-- What the response to a request for the record tells under the field's name. -/
theorem get_recordToMap_marked (declared : ∃ f ∈ s.schema.fields, f.name = name) (number : Nat) :
    (Crud.recordToMap (scan s.schema (markedRow s name number).shown)).get name = .uuid number ∨
      (Crud.recordToMap (scan s.schema (markedRow s name number).shown)).get name =
        .time number := by
  have custom : (scan s.schema (markedRow s name number).shown).customFields = ∅ := by
    cases system : s.schema.isSystem with
    | true =>
      have value : (markedRow s name number).value "custom_fields" = .null ∨
          (markedRow s name number).value "custom_fields" = .uuid number := by
        have plain : "custom_fields" ∉ frameworkColumns := by decide
        rw [Row.value_of_plain plain]
        simp only [markedRow, system, if_true]
        split_ifs
        · exact .inr rfl
        · exact .inl rfl
      rw [scan, system]
      rcases value with value | value <;> simp only [Row.shown, value] <;> rfl
    | false => rw [scan, system]; rfl
  rw [Crud.recordToMap, custom, Object.get_merge_of_notMem (AList.notMem_empty name)]
  cases system : s.schema.isSystem with
  | true =>
    have member : name ∈ sortedFieldNames s.schema := (mem_sortedFieldNames _).mpr declared
    rw [scan_data system, Object.get_merge_of_mem (mem_objectOf.mpr member),
      get_objectOf member, Row.shown]
    simp only [Row.value, markedRow, system, true_and, if_true]
    split_ifs <;> simp_all
  | false =>
    have data : (scan s.schema (markedRow s name number).shown).data =
        Object.ofValue (.object [(name, Value.uuid number)]) := by
      have plain : "data" ∉ frameworkColumns := by decide
      rw [scan, system]
      simp only [Bool.false_eq_true, if_false, Row.shown, Row.value_of_plain plain]
      simp [markedRow, system]
    have single : (Object.ofValue (.object [(name, Value.uuid number)])).get name =
        .uuid number := Object.get_insert_self ∅ name _
    have member : name ∈ Object.ofValue (.object [(name, Value.uuid number)]) :=
      (AList.mem_insert (∅ : Object)).mpr (.inl rfl)
    rw [data, Object.get_merge_of_mem member, single]
    exact .inl rfl

section Listing

variable {columns : String → List String} {ctx : Context} (number : Nat)

/-- The query of a list request without parameters. -/
def plainQuery : Select where
  table := s.schema.tableName
  columns := scannedColumns s.schema
  limit := some 21

theorem execute_plainQuery (serves : (untyped columns fun _ => true).serves s.schema) :
    (untyped columns fun _ => true).execute (markedStore s name number).tables
        (.select (plainQuery s)) =
      .ok ({ rows := [(markedRow s name number).shown] }, (markedStore s name number).tables) := by
  have rows : (markedStore s name number).tables s.schema.tableName =
      [markedRow s name number] := by
    simp only [markedStore, Function.update_self]
  cases quoted : (Statement.select (plainQuery s)).wellQuoted with
  | false =>
    rw [Engine.execute, quoted]
    simp only [Bool.not_false, if_true, untyped, plainQuery, rows]
    rfl
  | true =>
    have admits : (untyped columns fun _ => true).admits (.select (plainQuery s)) = true := by
      rw [Engine.admits_iff]
      refine ⟨fun name member => serves name ?_, rfl⟩
      simpa [Statement.columns, Select.ordering, Statement.condition, plainQuery] using member
    rw [Engine.execute_eq_answer quoted admits List.nodup_nil]
    have first : ¬ (plainQuery s).offset < 0 := lt_irrefl (0 : Int)
    have selects : (untyped columns fun _ => true).selected (markedStore s name number).tables
        (plainQuery s) = [(markedRow s name number).shown] := by
      simp only [Engine.selected, Engine.matching, plainQuery, rows]
      rfl
    rw [Engine.answer, if_neg first, selects]

theorem list_marked (ctx : Context) (serves : (untyped columns fun _ => true).serves s.schema) :
    ∃ info, (Crud.serve (untyped columns fun _ => true).database s ctx (.list {})
        (markedStore s name number)).1 = .ok ⟨200, .records
          [Crud.recordToMap (scan s.schema (markedRow s name number).shown)] info⟩ := by
  have page : pageQuery s.schema none (resolveOptions (Crud.ListParams.options {})) =
      plainQuery s := by
    simp [pageQuery, resolveOptions, plainQuery, Crud.ListParams.options]
  have sends : send (untyped columns fun _ => true).database s.schema ctx "Query"
      (.select (pageQuery s.schema none (resolveOptions (Crud.ListParams.options {}))))
      (markedStore s name number) =
      (.ok { rows := [(markedRow s name number).shown] },
        (markedStore s name number).log (.select (plainQuery s))) := by
    rw [page, send_of_ok (execute_plainQuery s name number serves)]
    rfl
  obtain ⟨info, after, queries⟩ := query_of_send _ _ _ sends
  rw [Crud.serve, Crud.list, Crud.respond_apply]
  have runs : (EntityService.query (untyped columns fun _ => true).database s ctx
      (Crud.fromQuery []) (Crud.ListParams.options {}) (markedStore s name number)) = _ := queries
  rw [runs]
  exact ⟨_, rfl⟩

end Listing

end Marked

/-- The responses hide the sensitive fields of an entity exactly when it declares none. -/
theorem sensitiveHidden_iff (s : EntityService) (viewer : Option Actor) :
    SensitiveHidden s viewer ↔ ∀ name, ¬ s.Sensitive name := by
  constructor
  · intro hides name marked
    have serves : (untyped (fun _ => scannedColumns s.schema) fun _ => true).serves s.schema :=
      fun name member => List.mem_append_right _ member
    have agree : AgreeStore s.Sensitive s.schema (markedStore s name 1) (markedStore s name 2) := by
      refine ⟨?_, fun table different => ?_, rfl, rfl, rfl⟩
      · simp only [markedStore, Function.update_self]
        exact .cons (agreeRow_marked s name marked 1 2) .nil
      · simp only [markedStore, Function.update_of_ne different]
    have same := hides (untyped (fun _ => scannedColumns s.schema) fun _ => true) _ _
      [({ viewer := viewer }, .list {})] agree (by simp [Crud.Request.isDelete])
    -- the only response lists the only record, which tells the value of the field
    obtain ⟨info, lists⟩ := list_marked s name 1 { viewer := viewer } serves
    obtain ⟨info', lists'⟩ := list_marked s name 2 { viewer := viewer } serves
    rw [Crud.serveAll_single lists, Crud.serveAll_single lists'] at same
    have maps : Crud.recordToMap (scan s.schema (markedRow s name 1).shown) =
        Crud.recordToMap (scan s.schema (markedRow s name 2).shown) := by
      injection same with same
      injection same with same
      injection same with _ same
      injection same with same
      injection same
    have told := get_recordToMap_marked s name marked.1 1
    rw [maps] at told
    rcases told with told | told <;>
      rcases get_recordToMap_marked s name marked.1 2 with told' | told' <;>
      rw [told'] at told <;> cases told
  · intro none e first second requests agree _
    rw [agree.eq none]

section Sample

open Iam

/-- The text that a response about one record tells under a field's name. -/
def Crud.Response.told (response : Crud.Response) (name : String) : String :=
  match response.body with
  | .record members => (members.get name).asString
  | _ => ""

/-- Two databases that differ in the stored hash of a user, whom a viewer without any role gets. -/
theorem password_hash_told :
    AgreeStore (userService transparent usersAlone).Sensitive users
        (userStore [userRow 7 "ada@example.org" "$2a$12$first"])
        (userStore [userRow 7 "ada@example.org" "$2a$12$second"]) ∧
      ((Crud.get userEngine.database (userService transparent usersAlone)
        { tenant := some 1, viewer := some ⟨9, 0, 1, []⟩ } (some 7)
        (userStore [userRow 7 "ada@example.org" "$2a$12$first"])).1.map
          fun response => response.told "password_hash").toOption = some "$2a$12$first" ∧
      ((Crud.get userEngine.database (userService transparent usersAlone)
        { tenant := some 1, viewer := some ⟨9, 0, 1, []⟩ } (some 7)
        (userStore [userRow 7 "ada@example.org" "$2a$12$second"])).1.map
          fun response => response.told "password_hash").toOption = some "$2a$12$second" := by
  refine ⟨⟨?_, fun table different => ?_, rfl, rfl, rfl⟩, ?_, ?_⟩
  · have marked : (userService transparent usersAlone).Sensitive "password_hash" :=
      ⟨⟨{ name := "password_hash", type := .data }, by decide, rfl⟩, by decide⟩
    refine .cons ⟨fun column framework => .inr ?_, fun column => ?_,
      fun custom => absurd custom (by decide)⟩ .nil
    · have plain : column ≠ "password_hash" := by
        rintro rfl
        exact absurd framework (by decide)
      simp only [Row.value, userRow, if_neg plain]
    · by_cases hash : column = "password_hash"
      · exact .inl ⟨rfl, hash ▸ marked⟩
      · exact .inr (.inr (by simp only [userRow, if_neg hash]))
  · simp only [userStore, if_neg (show table ≠ "iam_user" from different)]
  · decide +kernel
  · decide +kernel

end Sample

end ErpFinance.Api
