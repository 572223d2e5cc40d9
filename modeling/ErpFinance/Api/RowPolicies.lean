import ErpFinance.Api.Crud
import ErpFinance.Driver.PostgresSteps
import ErpFinance.Iam.UserDefinition

/-!
# Row policies

What a declared row policy confines requests to.  No stage between handler and
database asks for it, so that a viewer reaches a record that the policy hides
as soon as there is one.
-/

namespace ErpFinance.Api

open Compiler Domain Driver Library ErpFinance.Runtime

namespace EntityService

variable (s : EntityService)

/-- The filter that the entity's policy returns for the viewer of a request. -/
def rowFilter (ctx : Context) : Option Filter :=
  (s.pipeline.behaviour s.schema.qualifiedName).policy.elim none fun policy => policy ctx

/-- The rows that the policy lets the viewer see. -/
def visible (e : Engine) (ctx : Context) (row : Row) : Bool := e.keeps (s.rowFilter ctx) row

/-- The store without the records that the policy hides from the viewer. -/
def restrict (e : Engine) (ctx : Context) (store : Store) : Store :=
  { store with
    tables := Function.update store.tables s.schema.tableName
      ((store.tables s.schema.tableName).filter (s.visible e ctx)) }

/-- The table of the entity is there, with its columns and with distinct identifiers. -/
structure Migrated (e : Engine) (store : Store) : Prop where
  plain : Plain s.schema
  serves : e.serves s.schema
  nodup : ((store.tables s.schema.tableName).map Row.id).Nodup

/-- What a request returns, changes or deletes is confined to the visible records. -/
structure Confined (e : Engine) (ctx : Context) (store : Store) : Prop where
  /-- Records, total and page are those of the database without the hidden records. -/
  list : ∀ params, (Crud.list e.database s ctx params store).1 =
    (Crud.list e.database s ctx params (s.restrict e ctx store)).1
  get : ∀ id, (Crud.get e.database s ctx id store).1 =
    (Crud.get e.database s ctx id (s.restrict e ctx store)).1
  /-- A row that an update or a deletion replaces or removes is visible. -/
  update : ∀ id body, ∀ row ∈ store.tables s.schema.tableName,
    row ∉ (Crud.update e.database s ctx id body store).2.tables s.schema.tableName →
      s.visible e ctx row = true
  delete : ∀ id, ∀ row ∈ store.tables s.schema.tableName,
    row ∉ (Crud.delete e.database s ctx id store).2.tables s.schema.tableName →
      s.visible e ctx row = true
  /-- A record that an update returns was visible. -/
  updated : ∀ id body response, (Crud.update e.database s ctx (some id) body store).1 =
      .ok response → response.status = 200 →
    ∀ row ∈ store.tables s.schema.tableName, row.id = id → s.visible e ctx row = true

variable {s} {e : Engine} {ctx : Context} {store : Store}

/-- With nothing to hide the store is as it is. -/
theorem restrict_eq (all : ∀ row ∈ store.tables s.schema.tableName, s.visible e ctx row = true) :
    s.restrict e ctx store = store := by
  rw [restrict, List.filter_eq_self.mpr all, Function.update_eq_self]

/-- A record is got from the store that holds it. -/
theorem get_of_mem (migrated : s.Migrated e store) {row : Row}
    (member : row ∈ store.tables s.schema.tableName) :
    (Crud.get e.database s ctx (some row.id) store).1 =
      .ok ⟨200, .record (Crud.recordToMap (scan s.schema row.shown))⟩ := by
  have reads : getRow e.database s.schema ctx "Get" row.id false store = _ :=
    getRow_of_mem migrated.plain migrated.serves migrated.nodup member
  rw [Crud.get, Crud.respond_apply, show EntityService.get e.database s ctx row.id store = _ from
    reads]
  rfl

/-- A record that the policy hides is not got from the store without it. -/
theorem get_restrict (migrated : s.Migrated e store) {row : Row}
    (member : row ∈ store.tables s.schema.tableName) (hidden : s.visible e ctx row ≠ true)
    (members : Object) : (Crud.get e.database s ctx (some row.id) (s.restrict e ctx store)).1 ≠
      .ok ⟨200, .record members⟩ := by
  intro got
  rcases reads : EntityService.get e.database s ctx row.id (s.restrict e ctx store)
    with ⟨error | record, after⟩
  · rw [Crud.get, Crud.respond_apply, reads] at got
    injection got with response
    injection response with _ body
    exact Crud.errorBody_ne_record error members body
  · obtain ⟨-, other, inRest, same, -⟩ := getRow_ok migrated.plain reads
    simp only [restrict, Function.update_self] at inRest
    obtain ⟨inTable, visible⟩ := List.mem_filter.mp inRest
    rw [List.inj_on_of_nodup_map migrated.nodup inTable member same] at visible
    exact hidden visible

end EntityService

/-- The requests of a viewer are confined to the records that the policy shows the viewer exactly
when it shows the viewer all of them. -/
theorem confined_iff (s : EntityService) (e : Engine) (ctx : Context) (store : Store)
    (migrated : s.Migrated e store) :
    s.Confined e ctx store ↔
      ∀ row ∈ store.tables s.schema.tableName, s.visible e ctx row = true := by
  constructor
  · intro confined row member
    by_contra hidden
    have same := confined.get (some row.id)
    rw [EntityService.get_of_mem migrated member] at same
    exact EntityService.get_restrict migrated member hidden _ same.symm
  · intro all
    refine ⟨fun params => ?_, fun id => ?_, fun _ _ row member _ => all row member,
      fun _ row member _ => all row member, fun _ _ _ _ _ row member _ => all row member⟩
    · rw [EntityService.restrict_eq all]
    · rw [EntityService.restrict_eq all]

section Sample

open Iam

/-- The request of a user without any role. -/
def ada : Context where
  tenant := some 1
  viewer := some ⟨9, 0, 1, []⟩

theorem migrated_users (rows : List Row) (nodup : (rows.map Row.id).Nodup) :
    (userService transparent usersAlone).Migrated userEngine (userStore rows) where
  plain := by
    unfold Driver.Plain
    decide +kernel
  serves name member := List.mem_append_right _ member
  nodup := nodup

/-- A user who is alone is confined. -/
theorem confined_alone : (userService transparent usersAlone).Confined userEngine ada
    (userStore [userRow 9 "ada@example.org" "$2a$12$secret-of-ada"]) :=
  (confined_iff (userService transparent usersAlone) userEngine ada _
    (migrated_users [_] (List.nodup_singleton _))).mpr (by decide +kernel)

/-- What a response about a list tells: the identifiers, and the total. -/
def Crud.Response.listing (response : Crud.Response) : List String × Int :=
  match response.body with
  | .records data info => (data.map fun members => (members.get "email").asString, info.total)
  | _ => ([], 0)

/-- With another user there, whom the policy hides, the list has both, and the other one can be
deleted. -/
theorem stranger_reached :
    let store := userStore [userRow 7 "bob@example.org" "$2a$12$secret-of-bob",
      userRow 9 "ada@example.org" "$2a$12$secret-of-ada"]
    let s := userService transparent usersAlone
    s.visible userEngine ada (userRow 7 "bob@example.org" "$2a$12$secret-of-bob") = false ∧
      ((Crud.list userEngine.database s ada {} store).1.map fun response =>
        response.listing).toOption = some (["bob@example.org", "ada@example.org"], 2) ∧
      ((Crud.list userEngine.database s ada {} (s.restrict userEngine ada store)).1.map
        fun response => response.listing).toOption = some (["ada@example.org"], 1) ∧
      ((Crud.delete userEngine.database s ada (some 7) store).2.tables "iam_user").map Row.id =
        [9] := by
  decide +kernel

end Sample

end ErpFinance.Api
