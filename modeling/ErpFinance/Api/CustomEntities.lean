import ErpFinance.Api.ServiceSteps
import ErpFinance.Driver.PostgresAnswers
import ErpFinance.Library.Run
import ErpFinance.Runtime.Lookup

/-!
# Entities without hooks

The record that a repository returns is named after its table, and the stages
after a write look the entity up by that name.  The table of a system entity is
named like the entity; all custom entities have one table, which is named like
at most one of them, and whose rows do not tell by which of them they were made.
-/

namespace ErpFinance.Api

open Compiler Domain Driver Library ErpFinance.Runtime

/-! ## Valid input -/

structure Hookless (b : Behaviour) : Prop where
  beforeValidate : b.beforeValidate = []
  beforeSave : b.beforeSave = []
  beforeCreate : b.beforeCreate = []
  beforeUpdate : b.beforeUpdate = []
  beforeDelete : b.beforeDelete = []
  afterCreate : b.afterCreate = []
  afterUpdate : b.afterUpdate = []
  afterSave : b.afterSave = []
  afterDelete : b.afterDelete = []

section Valid

variable (e : Engine) (s : EntityService) (ctx : Context) (store : Store)

/-- The functions and marks of the entity of a service. -/
abbrev EntityService.behaviour : Behaviour := s.pipeline.behaviour s.schema.qualifiedName

/-- A body that passes the checks of its fields and makes a row that the database accepts. -/
def ValidCreate (data : Object) (actor : Option Actor) : Prop :=
  ∃ tenantID, ctx.tenant = some tenantID ∧
    validateFields ctx s.schema s.behaviour
      { entityName := s.schema.qualifiedName, data := applyDefaults s.behaviour.defaults data
        actor := actor } = .ok ⟨⟩ ∧
    (e.execute store.tables (insertOf s.schema (e.uuids store.drawn) tenantID
      (e.clock (store.drawn + 1))
      { data := applyDefaults s.behaviour.defaults data })).isOk = true

/-- A body for a stored record that has no immutable field, whose keys are declared fields where
they are columns, that passes the checks and makes an update that the database accepts. -/
structure ValidUpdate (row : Row) (data : Object) (actor : Option Actor) : Prop where
  stored : row ∈ store.tables s.schema.tableName
  mutable : immutableErrors s.schema data = []
  declared : s.schema.isSystem = true → ∀ key ∈ data,
    (∃ f ∈ s.schema.fields, f.name = key) ∧ key ∉ frameworkColumns
  checked : validateFields ctx s.schema s.behaviour
    (Pipeline.proposed data actor (scan s.schema row.shown)) = .ok ⟨⟩
  accepted : nothingToUpdate s.schema { data := (scan s.schema row.shown).data.merge data } = true ∨
    (e.execute store.tables (updateOf s.schema row.id (e.clock store.drawn)
      { data := (scan s.schema row.shown).data.merge data })).isOk = true

/-- A stored record that the database lets go of. -/
structure ValidDelete (row : Row) : Prop where
  stored : row ∈ store.tables s.schema.tableName
  accepted : (e.execute store.tables (deleteOf s.schema row.id)).isOk = true

/-- Valid input is carried out. -/
structure Succeeds : Prop where
  create : ∀ ctx store data actor, ctx.conn = none → ValidCreate e s ctx store data actor →
    ∃ record last, EntityService.create e.database s ctx data actor store = (.ok record, last)
  update : ∀ ctx store row data actor, ctx.conn = none →
    ((store.tables s.schema.tableName).map Row.id).Nodup →
    ValidUpdate e s ctx store row data actor →
    ∃ record last, EntityService.update e.database s ctx row.id data actor store =
      (.ok record, last)
  delete : ∀ ctx store row, ctx.conn = none →
    ((store.tables s.schema.tableName).map Row.id).Nodup → ValidDelete e s store row →
    ∃ last, EntityService.delete e.database s ctx row.id store = (.ok ⟨⟩, last)

end Valid

section Succeeds

variable {e : Engine} {s : EntityService} {ctx : Context} {store : Store}

/-- An entity that is found under its own name and under the name of its table, and the audit of
which does not fail. -/
structure Working (e : Engine) (s : EntityService) : Prop where
  plain : Plain s.schema
  serves : e.serves s.schema
  named : s.pipeline.registry.findEntity s.schema.qualifiedName = .ok s.schema
  tabled : s.pipeline.registry.findEntity s.schema.tableName = .ok s.schema
  hookless : Hookless s.behaviour
  audits : ∀ ctx record before after, s.pipeline.audit ctx record before after = .ok ⟨⟩

theorem Working.lookup_qualifiedName (working : Working e s) :
    s.pipeline.lookupSchema s.schema.qualifiedName = .ok s.schema := by
  rw [Pipeline.lookupSchema, working.named]
  rfl

theorem Working.lookup_tableName (working : Working e s) :
    s.pipeline.lookupSchema s.schema.tableName = .ok s.schema := by
  rw [Pipeline.lookupSchema, working.tabled]
  rfl

variable {record : EntityRecord}

theorem Working.runAuditRecord (working : Working e s)
    (named : record.entityName = s.schema.tableName) (before after : Option Object) :
    s.pipeline.runAuditRecord ctx record before after = .ok ⟨⟩ := by
  rw [Pipeline.runAuditRecord, named, working.lookup_tableName]
  dsimp only
  rw [working.audits, ite_self]

/-! ### The stages -/

variable {actor : Option Actor} {data : Object}

theorem Working.runBeforeCreate (working : Working e s)
    (checked : validateFields ctx s.schema s.behaviour
      { entityName := s.schema.qualifiedName, data := applyDefaults s.behaviour.defaults data
        actor := actor } = .ok ⟨⟩) :
    s.pipeline.runBeforeCreate ctx s.schema.qualifiedName data actor =
      .ok { entityName := s.schema.qualifiedName, data := applyDefaults s.behaviour.defaults data
            actor := actor } := by
  rw [Pipeline.runBeforeCreate, working.lookup_qualifiedName]
  have hookless := working.hookless
  simp only [bind, Except.bind, hookless.beforeValidate, hookless.beforeSave,
    hookless.beforeCreate, runHooks, List.foldlM_nil, pure, Except.pure, checked]

theorem Working.runAfterCreate (working : Working e s)
    (named : record.entityName = s.schema.tableName) :
    s.pipeline.runAfterCreate ctx record = .ok record := by
  have hookless := working.hookless
  rw [Pipeline.runAfterCreate, named, working.lookup_tableName]
  simp only [bind, Except.bind, hookless.afterCreate, hookless.afterSave, runHooks,
    List.foldlM_nil, pure, Except.pure]

theorem Working.runBeforeUpdate (working : Working e s) {current : EntityRecord}
    (mutable : immutableErrors s.schema data = [])
    (checked : validateFields ctx s.schema s.behaviour (Pipeline.proposed data actor current) =
      .ok ⟨⟩) :
    s.pipeline.runBeforeUpdate ctx s.schema.qualifiedName data actor current =
      .ok (Pipeline.proposed data actor current) := by
  have hookless := working.hookless
  rw [Pipeline.runBeforeUpdate, working.lookup_qualifiedName]
  simp only [bind, Except.bind, mutable, ne_eq, not_true_eq_false, if_false,
    hookless.beforeValidate, hookless.beforeSave, hookless.beforeUpdate, runHooks,
    runUpdateHooks, List.foldlM_nil, pure, Except.pure, checked]

theorem Working.runAfterUpdate (working : Working e s) {record prev : EntityRecord}
    (named : record.entityName = s.schema.tableName) :
    s.pipeline.runAfterUpdate ctx record prev = .ok record := by
  have hookless := working.hookless
  rw [Pipeline.runAfterUpdate, named, working.lookup_tableName]
  simp only [bind, Except.bind, hookless.afterUpdate, hookless.afterSave, runHooks,
    runUpdateHooks, List.foldlM_nil, pure, Except.pure]

theorem Working.runBeforeDelete (working : Working e s)
    (named : record.entityName = s.schema.tableName) :
    s.pipeline.runBeforeDelete ctx record = .ok record := by
  have hookless := working.hookless
  rw [Pipeline.runBeforeDelete, named, working.lookup_tableName]
  simp only [bind, Except.bind, hookless.beforeDelete, runHooks, List.foldlM_nil, pure,
    Except.pure]

theorem Working.runAfterDelete (working : Working e s)
    (named : record.entityName = s.schema.tableName) :
    s.pipeline.runAfterDelete ctx record = .ok record := by
  have hookless := working.hookless
  rw [Pipeline.runAfterDelete, named, working.lookup_tableName]
  simp only [bind, Except.bind, hookless.afterDelete, runHooks, List.foldlM_nil, pure,
    Except.pure]

/-! ### The operations -/

theorem Working.create (working : Working e s) (alone : ctx.conn = none)
    (valid : ValidCreate e s ctx store data actor) :
    ∃ record last, EntityService.create e.database s ctx data actor store =
      (.ok record, last) := by
  obtain ⟨tenantID, tenant, checked, accepts⟩ := valid
  have creates : ∃ (row : Row) (last : Store), Driver.create e.database s.schema
      { ctx with conn := some 0 } { data := applyDefaults s.behaviour.defaults data }
        (store.opened ctx) = (.ok (scan s.schema row.shown), last) :=
    create_of_execute (store.opened ctx) working.plain working.serves tenant accepts
  obtain ⟨row, last, creates⟩ := creates
  have named := scan_entityName s.schema row.shown
  refine ⟨scan s.schema row.shown, { last with saved := none }, ?_⟩
  rw [EntityService.create, Stateful.bind_ok (Stateful.lift_eq_iff.mpr
    ⟨working.runBeforeCreate checked, rfl⟩)]
  refine withTx_ok alone (EntityService.createBody_savedAs _) ?_
  rw [create_of_not_hasCustomFields]
  · rw [Stateful.bind_ok creates, Stateful.bind_ok (Stateful.lift_eq_iff.mpr
      ⟨working.runAuditRecord named _ _, rfl⟩)]
    exact Stateful.lift_eq_iff.mpr ⟨working.runAfterCreate named, rfl⟩
  · rfl

variable {row : Row}

/-- Reading a stored record leaves the tables and draws nothing. -/
theorem Working.get (working : Working e s)
    (nodup : ((store.tables s.schema.tableName).map Row.id).Nodup)
    (stored : row ∈ store.tables s.schema.tableName) :
    ∃ statement, Driver.get e.database s.schema ctx row.id {} store =
      (.ok (scan s.schema row.shown), store.log statement) :=
  ⟨_, getRow_of_mem working.plain working.serves nodup stored⟩

/-- Every key that a valid update writes is a column without quotes. -/
theorem ValidUpdate.unquoted (valid : ValidUpdate e s ctx store row data actor)
    (plain : Plain s.schema) (system : s.schema.isSystem = true) {key : String}
    (member : key ∈ (scan s.schema row.shown).data.merge data) : unquoted key = true := by
  have field : key ∈ sortedFieldNames s.schema := by
    rcases Object.mem_merge.mp member with inData | inRecord
    · exact (mem_sortedFieldNames s.schema).mpr (valid.declared system key inData).1
    · rw [← AList.lookup_isSome, Option.isSome_iff_exists] at inRecord
      obtain ⟨value, found⟩ := inRecord
      exact (lookup_scan_shown system found).1
  refine plain key (List.mem_cons_of_mem _ ?_)
  rw [scannedColumns, if_pos system]
  exact List.mem_append_left _ (List.mem_append_right _ field)

/-- No valid update gives the record another identifier. -/
theorem ValidUpdate.stays (valid : ValidUpdate e s ctx store row data actor)
    (system : s.schema.isSystem = true) {value : Value}
    (found : ((scan s.schema row.shown).data.merge data).lookup "id" = some value) :
    value = .uuid row.id := by
  have absent : "id" ∉ data := fun inData =>
    (valid.declared system "id" inData).2 List.mem_cons_self
  rw [Object.merge, AList.lookup_union_right absent] at found
  exact (lookup_scan_shown system found).2

theorem Working.update (working : Working e s) (alone : ctx.conn = none)
    (nodup : ((store.tables s.schema.tableName).map Row.id).Nodup)
    (valid : ValidUpdate e s ctx store row data actor) :
    ∃ record last, EntityService.update e.database s ctx row.id data actor store =
      (.ok record, last) := by
  obtain ⟨statement, reads⟩ := working.get nodup valid.stored
  have updates : ∃ (read : Row) (last : Store), Driver.update e.database s.schema
      { ctx with conn := some 0 } row.id { data := (scan s.schema row.shown).data.merge data }
        ((store.log statement).opened ctx) = (.ok (scan s.schema read.shown), last) :=
    update_of_execute ((store.log statement).opened ctx) working.plain working.serves nodup
      valid.stored
      (fun system key member => valid.unquoted working.plain system member)
      (fun system value found => valid.stays system found) valid.accepted
  obtain ⟨read, last, updates⟩ := updates
  have named := scan_entityName s.schema read.shown
  refine ⟨scan s.schema read.shown, { last with saved := none }, ?_⟩
  rw [EntityService.update, Stateful.bind_ok reads, EntityService.finishUpdate,
    Stateful.bind_ok (Stateful.lift_eq_iff.mpr
      ⟨working.runBeforeUpdate valid.mutable valid.checked, rfl⟩)]
  refine withTx_ok alone (EntityService.updateBody_savedAs _) ?_
  refine (Stateful.bind_ok updates).trans ?_
  rw [Stateful.bind_ok (Stateful.lift_eq_iff.mpr ⟨working.runAuditRecord named _ _, rfl⟩)]
  exact Stateful.lift_eq_iff.mpr ⟨working.runAfterUpdate named, rfl⟩

theorem Working.delete (working : Working e s) (alone : ctx.conn = none)
    (nodup : ((store.tables s.schema.tableName).map Row.id).Nodup)
    (valid : ValidDelete e s store row) :
    ∃ last, EntityService.delete e.database s ctx row.id store = (.ok ⟨⟩, last) := by
  obtain ⟨statement, reads⟩ := working.get nodup valid.stored
  have deletes : ∃ last, Driver.delete e.database s.schema { ctx with conn := some 0 } row.id
      ((store.log statement).opened ctx) = (.ok ⟨⟩, last) :=
    delete_of_execute ((store.log statement).opened ctx) working.plain nodup valid.stored
      valid.accepted
  obtain ⟨last, deletes⟩ := deletes
  have named := scan_entityName s.schema row.shown
  refine ⟨{ last with saved := none }, ?_⟩
  rw [EntityService.delete, Stateful.bind_ok reads, Stateful.bind_ok (Stateful.lift_eq_iff.mpr
    ⟨working.runBeforeDelete named, rfl⟩)]
  refine withTx_ok alone (fun txCtx => (delete_along savedAs).bind fun _ =>
    (Stateful.Moves.lift _).bind fun _ => (Stateful.Moves.lift _).bind fun _ =>
      Stateful.Moves.pure _) ?_
  rw [Stateful.bind_ok deletes, Stateful.bind_ok (Stateful.lift_eq_iff.mpr
    ⟨working.runAuditRecord named _ _, rfl⟩), Stateful.bind_ok (Stateful.lift_eq_iff.mpr
      ⟨working.runAfterDelete named, rfl⟩)]
  rfl

theorem Working.succeeds (working : Working e s) : Succeeds e s where
  create _ _ _ _ alone valid := working.create alone valid
  update _ _ _ _ _ alone nodup valid := working.update alone nodup valid
  delete _ _ _ alone nodup valid := working.delete alone nodup valid

end Succeeds

/-! ## Repositories -/

/-- A call of a repository that writes. -/
inductive Write where
  | create (input : CreateInput)
  | update (id : Uuid) (input : UpdateInput)
  | delete (id : Uuid)
  | bulkUpdate (f : Option Filter) (patch : Object)

/-- The keys that a write puts into its statement. -/
def Write.keys : Write → List String
  | create _ => []
  | update _ input => input.data.keys
  | delete _ => []
  | bulkUpdate _ patch => patch.keys

structure Command where
  entity : EntitySchema
  ctx : Context
  write : Write

/-- The store, and by which entity's repository the records of which identifiers were created. -/
structure Served where
  store : Store
  created : List (String × Uuid) := []

def Served.Own (state : Served) (es : EntitySchema) (id : Uuid) : Prop :=
  (es.qualifiedName, id) ∈ state.created

instance (state : Served) (es : EntitySchema) (id : Uuid) : Decidable (state.Own es id) :=
  inferInstanceAs (Decidable (_ ∈ _))

def perform (e : Engine) (state : Served) (c : Command) : Served :=
  match c.write with
  | .create input =>
    match Driver.create e.database c.entity c.ctx input state.store with
    | (.ok record, store) =>
      { store := store, created := (c.entity.qualifiedName, record.id) :: state.created }
    | (.error _, store) => { state with store := store }
  | .update id input =>
    { state with store := (Driver.update e.database c.entity c.ctx id input state.store).2 }
  | .delete id =>
    { state with store := (Driver.delete e.database c.entity c.ctx id state.store).2 }
  | .bulkUpdate f patch =>
    { state with store := (Driver.bulkUpdate e.database c.entity c.ctx f patch state.store).2 }

/-- The command is for an entity of the schema, and no name in its statements ends early. -/
structure Admissible (schema : CompiledSchema) (_ : Served) (c : Command) : Prop where
  member : c.entity ∈ schema.entities
  plain : Plain c.entity
  keys : c.entity.isSystem = true → ∀ key ∈ c.write.keys, unquoted key = true

/-- What one entity's repository sees and changes is what that repository has created. -/
structure Isolated (e : Engine) (es : EntitySchema) (state : Served) : Prop where
  get : ∀ ctx id record last,
    Driver.get e.database es ctx id {} state.store = (.ok record, last) → state.Own es record.id
  query : ∀ ctx f (o : QueryOptions) records info last, unquoted o.sortField = true →
    Driver.query e.database es ctx f o state.store = (.ok (records, info), last) →
      ∀ record ∈ records, state.Own es record.id
  count : ∀ ctx f total last, Driver.count e.database es ctx f state.store = (.ok total, last) →
    total = ((state.store.tables es.tableName).filter fun row =>
      decide (state.Own es row.id) && e.keeps f row).length
  write : ∀ ctx write, (∀ input, write ≠ .create input) →
    (es.isSystem = true → ∀ key ∈ write.keys, unquoted key = true) →
    ∀ table, ∀ row ∈ state.store.tables table, (table = es.tableName → ¬ state.Own es row.id) →
      row ∈ (perform e state ⟨es, ctx, write⟩).store.tables table

/-- In a compiled schema the operations of an entity succeed, and the repository of a custom entity
is isolated from the others in every run that starts without custom records. -/
def Operates (schema : CompiledSchema) (es : EntitySchema) : Prop :=
  (∀ (behaviour : String → Behaviour)
      (audit : Context → EntityRecord → Option Object → Option Object → Except Error Unit)
      (e : Engine), Hookless (behaviour es.qualifiedName) →
      (∀ ctx record before after, audit ctx record before after = .ok ⟨⟩) →
      Plain es → e.serves es →
      Succeeds e ⟨es, { registry := newRuntimeRegistry schema, behaviour, audit }⟩) ∧
    (es.isSystem = false → ∀ (e : Engine) (start : Store) (state : Served),
      start.tables customTable = [] →
      Run (perform e) (Admissible schema) { store := start } state → Isolated e es state)

section Isolation

variable {schema : CompiledSchema} {e : Engine} {es : EntitySchema} {state : Served}
  {c : Command}

/-- A custom entity's statements have no quotes in their names. -/
theorem plain_of_custom (custom : es.isSystem = false) (named : es.tableName = customTable) :
    Plain es := by
  unfold Driver.Plain
  rw [named, scannedColumns, if_neg (Bool.eq_false_iff.mp custom)]
  decide

/-- Every record in the shared table was created by the repository of one entity. -/
def Sole (es : EntitySchema) (state : Served) : Prop :=
  ∀ row ∈ state.store.tables customTable, state.Own es row.id

theorem Sole.of_noNew {newer : Served} (sole : Sole es state)
    (rows : NoNew customTable state.store newer.store) (grown : state.created ⊆ newer.created) :
    Sole es newer := by
  intro row member
  obtain ⟨old, inBefore, same⟩ := rows row member
  rw [← same]
  exact grown (sole old inBefore)

theorem Sole.of_touches {newer : Served} {table : String} (sole : Sole es state)
    (touches : Touches table state.store newer.store) (different : customTable ≠ table)
    (grown : state.created ⊆ newer.created) : Sole es newer := by
  refine sole.of_noNew (fun row member => ⟨row, ?_, rfl⟩) grown
  rwa [touches customTable different] at member

theorem perform_touches (plain : Plain c.entity)
    (keys : c.entity.isSystem = true → ∀ key ∈ c.write.keys, unquoted key = true) :
    Touches c.entity.tableName state.store (perform e state c).store := by
  unfold perform
  cases write : c.write with
  | create input =>
    have touches : Touches c.entity.tableName state.store
        (Driver.create e.database c.entity c.ctx input state.store).2 :=
      create_touches plain input state.store
    dsimp only
    rcases runs : Driver.create e.database c.entity c.ctx input state.store with
      ⟨error | record, last⟩
    all_goals
      rw [runs] at touches
      exact touches
  | update id input =>
    rw [write] at keys
    exact update_touches plain keys state.store
  | delete id => exact delete_touches plain state.store
  | bulkUpdate f patch =>
    rw [write] at keys
    exact bulkUpdate_touches plain keys state.store

theorem perform_grows : state.created ⊆ (perform e state c).created := by
  unfold perform
  cases c.write with
  | create input =>
    dsimp only
    rcases Driver.create e.database c.entity c.ctx input state.store with ⟨error | record, last⟩
    · exact List.Subset.refl _
    · exact List.subset_cons_self _ _
  | update id input => exact List.Subset.refl _
  | delete id => exact List.Subset.refl _
  | bulkUpdate f patch => exact List.Subset.refl _

/-- Every command keeps the records of the shared table in the hands of its only entity. -/
theorem Sole.performed (sole : Sole es state) (custom : es.isSystem = false)
    (named : es.tableName = customTable)
    (alone : ∀ other ∈ schema.entities, other.tableName = customTable → other = es)
    (admissible : Admissible schema state c) : Sole es (perform e state c) := by
  by_cases shared : c.entity.tableName = customTable
  · obtain ⟨entity, ctx, write⟩ := c
    obtain rfl := alone entity admissible.member shared
    have plain := admissible.plain
    cases write with
    | create input =>
      rcases runs : Driver.create e.database entity ctx input state.store with
        ⟨error | record, last⟩
      all_goals simp only [perform, runs]
      · intro row member
        have same := create_error_tables custom plain runs
        dsimp only at member
        rw [same] at member
        exact sole row member
      · obtain ⟨row, created, rfl⟩ := create_ok plain runs
        intro stored member
        dsimp only at member
        rw [created.tables, named, Function.update_self] at member
        rcases List.mem_append.mp member with before | new
        · exact List.mem_cons_of_mem _ (sole stored before)
        · obtain rfl := List.mem_singleton.mp new
          rw [Served.Own, scan_id]
          exact List.mem_cons_self
    | update id input =>
      have rows : NoNew entity.tableName state.store
          (Driver.update e.database entity ctx id input state.store).2 :=
        update_noNew custom plain input state.store
      exact sole.of_noNew (named ▸ rows) (List.Subset.refl _)
    | delete id =>
      have rows : NoNew entity.tableName state.store
          (Driver.delete e.database entity ctx id state.store).2 :=
        delete_noNew custom plain state.store
      exact sole.of_noNew (named ▸ rows) (List.Subset.refl _)
    | bulkUpdate f patch =>
      have rows : NoNew entity.tableName state.store
          (Driver.bulkUpdate e.database entity ctx f patch state.store).2 :=
        bulkUpdate_noNew custom plain f patch state.store
      exact sole.of_noNew (named ▸ rows) (List.Subset.refl _)
  · exact sole.of_touches (perform_touches admissible.plain admissible.keys)
      (fun same => shared same.symm) perform_grows

theorem Sole.isolated (sole : Sole es state) (custom : es.isSystem = false)
    (named : es.tableName = customTable) : Isolated e es state where
  get ctx id record last runs := by
    obtain ⟨-, row, member, -, rfl⟩ := getRow_ok (plain_of_custom custom named) runs
    rw [scan_id]
    exact sole row (named ▸ member)
  query ctx f o records info last sorted runs record member := by
    obtain ⟨row, inTable, rfl⟩ := query_rows (plain_of_custom custom named) sorted runs member
    rw [scan_id]
    exact sole row (named ▸ inTable)
  count ctx f total last runs := by
    rw [count_rows (plain_of_custom custom named) runs, Engine.matching]
    refine congrArg (fun rows : List Row => (rows.length : Int))
      (List.filter_congr fun row inTable => ?_)
    rw [decide_eq_true (sole row (named ▸ inTable)), Bool.true_and]
  write ctx write _ keys table row member foreign := by
    have touches : Touches es.tableName state.store (perform e state ⟨es, ctx, write⟩).store :=
      perform_touches (c := ⟨es, ctx, write⟩) (plain_of_custom custom named) keys
    by_cases own : table = es.tableName
    · exact absurd (sole row (named ▸ own ▸ member)) (foreign own)
    · rwa [touches table own]

end Isolation

/-! ## Custom entities that do not operate -/

section Failing

variable {schema : CompiledSchema} {es other : EntitySchema}

/-- A database whose tables have the columns of custom entities. -/
def customEngine : Engine := untyped (fun _ => ["data"]) fun _ => true

theorem serves_custom (custom : es.isSystem = false) : customEngine.serves es := by
  intro name member
  rw [scannedColumns, if_neg (Bool.eq_false_iff.mp custom)] at member
  have known : ∀ column ∈ ["id", "tenant_id", "data", "created_at", "updated_at"],
      column ∈ customEngine.known es.tableName := by
    intro column inList
    have columns : customEngine.known es.tableName =
        ["id", "tenant_id", "created_at", "updated_at", "data"] := rfl
    rw [columns]
    revert column
    decide
  exact known name member

def customRow : Row where
  id := 1
  tenantID := 1
  createdAt := 0
  updatedAt := 0
  columns _ := .null

/-- A database with one custom record. -/
def customStore : Store where
  tables table := if table = customTable then [customRow] else []

/-- The hooks of every other entity refuse deletions. -/
def refusing (es : EntitySchema) (name : String) : Behaviour :=
  if name = es.qualifiedName then {} else { beforeDelete := [fun _ _ => .error (.other "refused")] }

theorem hookless_refusing : Hookless (refusing es es.qualifiedName) := by
  rw [refusing, if_pos rfl]
  exact ⟨rfl, rfl, rfl, rfl, rfl, rfl, rfl, rfl, rfl⟩

theorem runBeforeDelete_unnamed (schema : CompiledSchema)
    (unnamed : es.qualifiedName ≠ customTable) (ctx : Context) {record : EntityRecord}
    (named : record.entityName = customTable) :
    ∃ error, Pipeline.runBeforeDelete ctx
      { registry := newRuntimeRegistry schema, behaviour := refusing es } record =
        .error error := by
  rw [Pipeline.runBeforeDelete, Pipeline.lookupSchema, RuntimeRegistry.findEntity, named, find]
  cases indexed : (newRuntimeRegistry schema).byQualifiedName customTable with
  | none => exact ⟨_, rfl⟩
  | some found =>
    have name : found.qualifiedName = customTable := (index_eq_some indexed).2
    have refuses : (refusing es found.qualifiedName).beforeDelete =
        [fun _ _ => .error (.other "refused")] := by
      rw [refusing, name, if_neg unnamed.symm]
    refine ⟨.wrapped "before_delete" (.other "refused"), ?_⟩
    simp only [bind, Except.bind, Except.mapError, refuses, runHooks, List.foldlM_cons]

theorem not_operates_unnamed (custom : es.isSystem = false) (tabled : es.tableName = customTable)
    (unnamed : es.qualifiedName ≠ customTable) : ¬ Operates schema es := by
  intro operates
  have plain := plain_of_custom custom tabled
  have succeeds := operates.1 (refusing es) (fun _ _ _ _ => .ok ⟨⟩) customEngine hookless_refusing
    (fun _ _ _ _ => rfl) plain (serves_custom custom)
  have rows : customStore.tables es.tableName = [customRow] := by
    rw [tabled]
    rfl
  have stored : customRow ∈ customStore.tables es.tableName := by
    rw [rows]
    exact List.mem_cons_self
  have nodup : ((customStore.tables es.tableName).map Row.id).Nodup := by
    rw [rows]
    exact List.nodup_singleton _
  have accepted : (customEngine.execute customStore.tables (deleteOf es customRow.id)).isOk =
      true := by
    rw [deleteOf, tabled]
    decide +kernel
  obtain ⟨last, deletes⟩ := succeeds.delete {} customStore customRow rfl nodup ⟨stored, accepted⟩
  have reads : ∃ middle, Driver.get customEngine.database es {} customRow.id {} customStore =
      (.ok (scan es customRow.shown), middle) :=
    ⟨_, getRow_of_mem plain (serves_custom custom) nodup stored⟩
  obtain ⟨middle, reads⟩ := reads
  obtain ⟨error, fails⟩ := runBeforeDelete_unnamed schema unnamed {}
    ((scan_entityName es customRow.shown).trans tabled)
  rw [EntityService.delete, Stateful.bind_ok reads,
    Stateful.bind_error (Stateful.lift_eq_iff.mpr ⟨fails, rfl⟩)] at deletes
  cases deletes

/-- The repository of a custom entity returns the record that another one's has created. -/
theorem not_operates_shared (member : other ∈ schema.entities) (custom : es.isSystem = false)
    (custom' : other.isSystem = false) (tabled : es.tableName = customTable)
    (tabled' : other.tableName = customTable) (different : other.qualifiedName ≠ es.qualifiedName) :
    ¬ Operates schema es := by
  intro operates
  have plain := plain_of_custom custom' tabled'
  have accepts : (customEngine.execute (fun _ => []) (insertOf other (customEngine.uuids 0) 1
      (customEngine.clock 1) { data := ∅ })).isOk = true := by
    rw [insertOf, tabled', if_neg (Bool.eq_false_iff.mp custom')]
    decide +kernel
  have creates : ∃ (row : Row) (last : Store), Driver.create customEngine.database other
      { tenant := some 1 } { data := ∅ } { tables := fun _ => [] } =
        (.ok (scan other row.shown), last) :=
    create_of_execute { tables := fun _ => [] } plain (serves_custom custom') rfl accepts
  obtain ⟨row, last, creates⟩ := creates
  obtain ⟨new, created, -⟩ := create_ok plain creates
  have performs : perform customEngine { store := { tables := fun _ => [] } }
      ⟨other, { tenant := some 1 }, .create { data := ∅ }⟩ =
        { store := last, created := [(other.qualifiedName, row.id)] } := by
    simp only [perform, creates, scan_id]
    rfl
  have run : Run (perform customEngine) (Admissible schema) { store := { tables := fun _ => [] } }
      (perform customEngine { store := { tables := fun _ => [] } }
        ⟨other, { tenant := some 1 }, .create { data := ∅ }⟩) :=
    .tail _ .refl ⟨member, plain, fun _ key inKeys => absurd inKeys List.not_mem_nil⟩
  rw [performs] at run
  have isolated := operates.2 custom customEngine _ _ rfl run
  have stored : new ∈ last.tables es.tableName := by
    rw [created.tables, tabled, tabled', Function.update_self]
    exact List.mem_append_right _ List.mem_cons_self
  have nodup : ((last.tables es.tableName).map Row.id).Nodup := by
    rw [tabled, ← tabled']
    exact created.settled.nodup
  have reads : ∃ middle, Driver.get customEngine.database es {} new.id {} last =
      (.ok (scan es new.shown), middle) :=
    ⟨_, getRow_of_mem (plain_of_custom custom tabled) (serves_custom custom) nodup stored⟩
  obtain ⟨middle, reads⟩ := reads
  have own := List.mem_singleton.mp (isolated.get _ _ _ _ reads)
  exact different (congrArg Prod.fst own).symm

end Failing

/-- The operations of an entity of a compiled schema succeed, and its repository is isolated if it
is a custom one, exactly when the entity is a system entity, or is named like the table of the
custom entities and has that table for itself. -/
theorem operates_iff (starts : Ranging String) (targets : String → Ranging String) (reg : Registry)
    (schema : CompiledSchema) (es : EntitySchema) (accepted : Accepted reg)
    (compiled : compile starts targets reg = .ok schema) (member : es ∈ schema.entities) :
    Operates schema es ↔ es.isSystem = true ∨ (es.qualifiedName = customTable ∧
      ∀ other ∈ schema.entities, other.tableName = customTable → other = es) := by
  have apart := distinguished compiled accepted.nodup
  have named := (found compiled apart member).entity
  have tables := tableName_eq compiled member
  have works : es.tableName = es.qualifiedName → ∀ (behaviour : String → Behaviour)
      (audit : Context → EntityRecord → Option Object → Option Object → Except Error Unit)
      (e : Engine), Hookless (behaviour es.qualifiedName) →
      (∀ ctx record before after, audit ctx record before after = .ok ⟨⟩) →
      Plain es → e.serves es →
      Succeeds e ⟨es, { registry := newRuntimeRegistry schema, behaviour, audit }⟩ := by
    intro same behaviour audit e hookless audits plain serves
    have working : Working e ⟨es, { registry := newRuntimeRegistry schema, behaviour, audit }⟩ :=
      ⟨plain, serves, named, by rw [same]; exact named, hookless, audits⟩
    exact working.succeeds
  cases kind : es.isSystem with
  | true =>
    rw [kind, if_pos rfl] at tables
    refine ⟨fun _ => .inl rfl, fun _ => ⟨works tables, fun custom => ?_⟩⟩
    rw [kind] at custom
    cases custom
  | false =>
    rw [kind, if_neg Bool.false_ne_true] at tables
    constructor
    · intro operates
      have unnamed : es.qualifiedName = customTable := by
        by_contra unnamed
        exact not_operates_unnamed kind tables unnamed operates
      refine .inr ⟨unnamed, fun other otherMember tabled => ?_⟩
      by_contra different
      have names : other.qualifiedName ≠ es.qualifiedName := fun same =>
        different (List.inj_on_of_nodup_map apart.qualifiedNames otherMember member same)
      have custom : other.isSystem = false := by
        rw [Bool.eq_false_iff]
        intro system
        rw [tableName_eq compiled otherMember, if_pos system] at tabled
        exact names (tabled.trans unnamed.symm)
      exact not_operates_shared otherMember kind custom tables tabled names operates
    · rintro (system | ⟨qualified, alone⟩)
      · cases system
      · refine ⟨works (tables.trans qualified.symm), fun custom e start state empty run => ?_⟩
        have sole : Sole es state := by
          refine run.invariant ?_ fun middle c admissible sole =>
            sole.performed custom tables alone admissible
          intro row inTable
          rw [empty] at inTable
          cases inTable
        exact sole.isolated custom tables

/-- For two custom entities of one schema. -/
theorem boxes_operate : ∃ schema, compile listed (fun _ => listed) boxRegistry = .ok schema ∧
    ∀ es ∈ schema.entities, (Operates schema es ↔ es.isSystem = true ∨
      (es.qualifiedName = customTable ∧
        ∀ other ∈ schema.entities, other.tableName = customTable → other = es)) := by
  obtain ⟨registered, -, built⟩ := build_boxes
  obtain ⟨schema, compiled⟩ := compile_boxes
  exact ⟨schema, compiled, fun es member => operates_iff listed (fun _ => listed) boxRegistry schema
    es (.inl ⟨registered, built⟩) compiled member⟩

/-! ## Two custom entities -/

def boxesCompiled : CompiledSchema where
  entities := boxes.map buildEntitySchema
  byName := index EntitySchema.qualifiedName (boxes.map buildEntitySchema)
  routes := []
  capabilityGrants := []
  graph := {}
  diagnostics := []

/-- The service of a custom entity without fields and hooks. -/
def boxService (name : String) : EntityService where
  schema := buildEntitySchema { name := name, module := "stock", isSystem := false }
  pipeline :=
    { registry := newRuntimeRegistry boxesCompiled
      behaviour := fun _ => {} }

def emptyStore : Store := { tables := fun _ => [] }

/-- Neither of two compiled custom entities operates: a valid body is refused, because no entity is
named like the table, and a record of one entity is returned by the repository of the other. -/
theorem box_refused :
    (∃ schema, compile listed (fun _ => listed) boxRegistry = .ok schema ∧
      ∀ es ∈ schema.entities, ¬ Operates schema es) ∧
    ValidCreate customEngine (boxService "box") { tenant := some 1 } emptyStore ∅ none ∧
      (EntityService.create customEngine.database (boxService "box") { tenant := some 1 } ∅ none
        emptyStore).1.isOk = false ∧
      let created := Driver.create customEngine.database (boxService "boxe").schema
        { tenant := some 1 } { data := ∅ } emptyStore
      (created.1.toOption.map EntityRecord.id,
        (Driver.get customEngine.database (boxService "box").schema {} 1 {}
          created.2).1.toOption.map EntityRecord.id) = (some 1, some 1) := by
  refine ⟨?_, ⟨1, rfl, rfl, ?_⟩, ?_, ?_⟩
  · obtain ⟨schema, compiled⟩ := compile_boxes
    have custom : ∀ es ∈ boxes.map buildEntitySchema, es.isSystem = false ∧
        es.tableName = customTable ∧ es.qualifiedName ≠ customTable := by
      decide +kernel
    refine ⟨schema, compiled, fun es member => ?_⟩
    rw [(compile_eq_ok compiled).2.1] at member
    obtain ⟨kind, tabled, unnamed⟩ := custom es member
    exact not_operates_unnamed kind tabled unnamed
  · decide +kernel
  · decide +kernel
  · decide +kernel

end ErpFinance.Api
