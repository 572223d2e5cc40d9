import ErpFinance.Driver.BulkCreate

/-!
# Batches and creations

When a batch does what the creations of its inputs do, for the same
identifiers and the same instant: where the identifiers ascend, and where what
its columns make of an input without custom fields is the default that its
creation leaves.
-/

namespace ErpFinance.Driver

open Compiler Domain Library ErpFinance.Runtime

/-! ## A database with a default -/

/-- Equality of texts and identifiers, and lists of identifiers. -/
def equalsOrAmong : Test → Value → Option Bool
  | .isIn values, .number (.uuid id) => some (decide (some id ∈ values.map Value.asUuid))
  | test, value => equals test value

instance : DecidableRel Row.Earlier := fun row other =>
  inferInstanceAs (Decidable (row.createdAt < other.createdAt ∨
    row.createdAt = other.createdAt ∧ row.id ≤ other.id))

def defaulting (uuids : Nat → Uuid) : Engine :=
  { untyped (fun _ => ["amount", "custom_fields"]) fun _ => true with
    initial := fun _ column => if column = "custom_fields" then .object [] else .null
    compare := equalsOrAmong
    arrange := fun order rows =>
      if order = byCreation then rows.insertionSort Row.Earlier else rows
    uuids := uuids
    compare_uuid := fun _ _ => rfl
    arrange_perm := fun order rows => by
      split_ifs
      · exact List.perm_insertionSort _ _
      · exact List.Perm.refl rows }

instance : Std.Total Row.Earlier where
  total row other := by
    rcases Nat.lt_trichotomy row.createdAt other.createdAt with before | same | after
    · exact .inl (.inl before)
    · rcases Nat.le_total row.id other.id with below | above
      · exact .inl (.inr ⟨same, below⟩)
      · exact .inr (.inr ⟨same.symm, above⟩)
    · exact .inr (.inl after)

instance : IsTrans Row Row.Earlier where
  trans row other third := by
    rintro (before | ⟨same, below⟩) (next | ⟨also, above⟩)
    · exact .inl (before.trans next)
    · exact .inl (also ▸ before)
    · exact .inl (same ▸ next)
    · exact .inr ⟨same.trans also, Nat.le_trans below above⟩

theorem lists_defaulting (uuids : Nat → Uuid) : (defaulting uuids).Lists where
  accepts_isIn _ _ := rfl
  compare_isIn ids id := by
    have among : some id ∈ (ids.map Value.uuid).map Value.asUuid ↔ id ∈ ids := by
      simp [List.map_map, Function.comp_def, Value.uuid, Value.asUuid]
    exact congrArg some (decide_eq_decide.mpr among)
  sorted rows := List.pairwise_insertionSort _ rows

def payments : EntitySchema :=
  buildEntitySchema
    { name := "payment", module := "finance", fields := [{ name := "amount", type := .int }] }

theorem plain_payments : Plain payments := by
  intro name member
  rw [scannedColumns] at member
  revert name
  decide

theorem serves_payments (uuids : Nat → Uuid) : (defaulting uuids).serves payments := by
  have known : ∀ name ∈ scannedColumns payments,
      name ∈ frameworkColumns ++ ["amount", "custom_fields"] := by decide
  exact known

/-- A payment without custom fields. -/
def bare : CreateInput where
  data := (∅ : Object).insert "amount" (.number (.number 5))

/-- A payment with an empty map of custom fields. -/
def emptied : CreateInput where
  data := (∅ : Object).insert "amount" (.number (.number 6))
  customFields := some ∅

/-- A payment with a note. -/
def noted : CreateInput where
  data := (∅ : Object).insert "amount" (.number (.number 7))
  customFields := some ((∅ : Object).insert "note" (.string "cash"))

/-! ## When a batch does what the creations do -/

/-- A batch answers and stores what the creations do; where these fail it stores nothing. -/
def Atomic (store : Store) (each bulk : Except Error (List EntityRecord) × Store) : Prop :=
  match each.1, bulk.1 with
  | .ok records, .ok answered => answered = records ∧ bulk.2.tables = each.2.tables
  | .error _, .error _ => bulk.2.committed = store.committed
  | _, _ => False

def Refused (e : Engine) (es : EntitySchema) (ctx : Context) (inputs : List CreateInput)
    (store : Store) : Prop :=
  ∀ tenantID, ctx.tenant = some tenantID →
    e.executeAll store.tables (singleInserts e es tenantID store inputs) = none ∧
      e.executeAll store.tables (batchInserts e es tenantID store inputs) = none

/-- Beside an input with custom fields, the column makes its default of what the others have. -/
def Defaulted (e : Engine) (es : EntitySchema) (inputs : List CreateInput) : Prop :=
  es.isSystem = true → inputs.any CreateInput.hasCustomFields = true →
    ∀ input ∈ inputs, input.hasCustomFields = false →
      e.keep es.tableName "custom_fields" input.customFieldsJSON =
        some (e.initial es.tableName "custom_fields")

section Mixed

variable {e : Engine} {es : EntitySchema} {ctx : Context} {tenantID : Uuid} {now : Nat}
  {id : Uuid} {input : CreateInput} {inputs : List CreateInput} {rows : List Row}
  {store : Store}

theorem insertValues_of_custom (custom : es.isSystem = false) (given : Bool) :
    insertValues es tenantID now given id input = customValues id tenantID now input := by
  rw [insertValues, custom]
  rfl

/-- Where the custom fields are named, they are the last column. -/
theorem insertValues_true (system : es.isSystem = true) :
    insertValues es tenantID now true id input =
      insertValues es tenantID now false id input ++
        [("custom_fields", input.customFieldsJSON)] := by
  rw [insertValues, insertValues, if_pos system, if_pos system, systemValues, systemValues]
  simp

/-- What a column that an insert does not name holds. -/
theorem value_customFields {row : Row} {values : List (String × Value)}
    (written : e.writeAll es.tableName values (e.blank es.tableName) = some row)
    (absent : "custom_fields" ∉ values.map Prod.fst) :
    row.value "custom_fields" = e.initial es.tableName "custom_fields" := by
  rw [Engine.writeAll_value_of_notMem written absent, Row.value_of_plain (by decide)]
  rfl

/-- The columns before the last one are without it. -/
theorem notMem_insertValues (system : es.isSystem = true)
    (distinct : ((insertValues es tenantID now true id input).map Prod.fst).Nodup) :
    "custom_fields" ∉ (insertValues es tenantID now false id input).map Prod.fst := by
  rw [insertValues_true system, List.map_append, List.nodup_append] at distinct
  intro named
  exact distinct.2.2 _ named _ List.mem_cons_self rfl

/-- A column that is given its default is as one that is given nothing. -/
theorem writeAll_insertValues_true (system : es.isSystem = true)
    (distinct : ((insertValues es tenantID now true id input).map Prod.fst).Nodup)
    (keeps : e.keep es.tableName "custom_fields" input.customFieldsJSON =
      some (e.initial es.tableName "custom_fields")) :
    e.writeAll es.tableName (insertValues es tenantID now true id input) (e.blank es.tableName) =
      e.writeAll es.tableName (insertValues es tenantID now false id input)
        (e.blank es.tableName) := by
  rw [insertValues_true system, Engine.writeAll_concat]
  cases written : e.writeAll es.tableName (insertValues es tenantID now false id input)
      (e.blank es.tableName) with
  | none => rfl
  | some row =>
    have holds := value_customFields written (notMem_insertValues system distinct)
    have plain : "custom_fields" ∉ frameworkColumns := by decide
    rw [Row.value_of_plain plain] at holds
    rw [Option.bind_some, Engine.write, keeps, Option.bind_some, Row.assign_of_plain plain,
      ← holds, Function.update_eq_self]

/-- The insert that names the column with its default does what the one without it does. -/
theorem execute_batchInsert_true (plain : Plain es) (serves : e.serves es)
    (system : es.isSystem = true)
    (distinct : ((insertValues es tenantID now true id input).map Prod.fst).Nodup)
    (keeps : e.keep es.tableName "custom_fields" input.customFieldsJSON =
      some (e.initial es.tableName "custom_fields")) (tables : Tables) :
    e.execute tables (batchInsert es tenantID now true id input) =
      e.execute tables (batchInsert es tenantID now false id input) := by
  have without : ((insertValues es tenantID now false id input).map Prod.fst).Nodup := by
    rw [insertValues_true system, List.map_append, List.nodup_append] at distinct
    exact distinct.1
  have quoted : ∀ given,
      (batchInsert es tenantID now given id input).wellQuoted = true := fun _ => plain.insert
  rw [Engine.execute_eq_answer (quoted true) serves.insert distinct,
    Engine.execute_eq_answer (quoted false) serves.insert without, batchInsert, batchInsert,
    Engine.answer, Engine.answer, writeAll_insertValues_true system distinct keeps]

theorem refused_of_not_nodup (plain : Plain es) {given : Bool}
    (twice : ¬ ((insertValues es tenantID now given id input).map Prod.fst).Nodup)
    (tables : Tables) :
    ∃ error, e.execute tables (batchInsert es tenantID now given id input) = .error error := by
  cases runs : e.execute tables (batchInsert es tenantID now given id input) with
  | error error => exact ⟨error, rfl⟩
  | ok answer =>
    obtain ⟨row, inserted⟩ := Engine.inserted_of_execute plain.insert runs
    exact absurd inserted.distinct twice

theorem columns_insertValues (system : es.isSystem = true) {given : Bool} (other : Uuid)
    (another : CreateInput) :
    (insertValues es tenantID now given id input).map Prod.fst =
      (insertValues es tenantID now given other another).map Prod.fst := by
  rw [insertValues, insertValues, if_pos system, if_pos system, columns_systemValues,
    columns_systemValues]

theorem exists_entry (e : Engine) (store : Store) (member : input ∈ inputs) :
    ∃ id, (id, input) ∈ batchEntries e store inputs := by
  rw [← snd_batchEntries e store inputs] at member
  obtain ⟨⟨id, _⟩, inEntries, rfl⟩ := List.mem_map.mp member
  exact ⟨id, inEntries⟩

theorem mem_of_entry {entry : Uuid × CreateInput}
    (inEntries : entry ∈ batchEntries e store inputs) : entry.2 ∈ inputs := by
  rw [← snd_batchEntries e store inputs]
  exact List.mem_map_of_mem inEntries

theorem executeAll_inserts_congr {custom other : CreateInput → Bool} {tables : Tables}
    {entries : List (Uuid × CreateInput)}
    (same : ∀ entry ∈ entries, ∀ tables,
      e.execute tables (batchInsert es tenantID now (custom entry.2) entry.1 entry.2) =
        e.execute tables (batchInsert es tenantID now (other entry.2) entry.1 entry.2)) :
    e.executeAll tables (inserts es tenantID now custom entries) =
      e.executeAll tables (inserts es tenantID now other entries) := by
  refine Engine.executeAll_congr ?_
  rw [inserts, inserts, List.forall₂_map_left_iff, List.forall₂_map_right_iff, List.forall₂_same]
  exact same

/-- Where the defaults are kept, the inserts of a batch do what those of the creations do. -/
theorem executeAll_batchInserts (plain : Plain es) (serves : e.serves es)
    (defaulted : Defaulted e es inputs) :
    e.executeAll store.tables (batchInserts e es tenantID store inputs) =
      e.executeAll store.tables (singleInserts e es tenantID store inputs) := by
  cases system : es.isSystem with
  | false =>
    refine executeAll_inserts_congr fun entry _ tables => ?_
    rw [batchInsert, batchInsert, insertValues_of_custom system, insertValues_of_custom system]
  | true =>
    cases some : inputs.any CreateInput.hasCustomFields with
    | false =>
      refine executeAll_inserts_congr fun entry inEntries tables => ?_
      rw [some, Bool.eq_false_iff.mpr (List.any_eq_false.mp some _ (mem_of_entry inEntries))]
    | true =>
      obtain ⟨carrier, member, carries⟩ := List.any_eq_true.mp some
      obtain ⟨drawn, inEntries⟩ := exists_entry e store member
      by_cases distinct : ((insertValues es tenantID (e.clock store.drawn) true drawn
          carrier).map Prod.fst).Nodup
      · refine executeAll_inserts_congr fun entry inEntries tables => ?_
        rw [some]
        cases has : entry.2.hasCustomFields with
        | true => rfl
        | false =>
          rw [columns_insertValues system entry.1 entry.2] at distinct
          exact execute_batchInsert_true plain serves system distinct
            (defaulted system some _ (mem_of_entry inEntries) has) tables
      · -- a field that is named like the column: both name it twice
        have refused : ∀ tables, ∃ error, e.execute tables (batchInsert es tenantID
            (e.clock store.drawn) true drawn carrier) = .error error :=
          refused_of_not_nodup plain distinct
        have inBatch : batchInsert es tenantID (e.clock store.drawn) true drawn carrier ∈
            batchInserts e es tenantID store inputs := by
          rw [← some]
          exact List.mem_map_of_mem inEntries
        have inSingle : batchInsert es tenantID (e.clock store.drawn) true drawn carrier ∈
            singleInserts e es tenantID store inputs := by
          rw [← carries]
          exact List.mem_map_of_mem inEntries
        rw [Engine.executeAll_of_refused inBatch refused,
          Engine.executeAll_of_refused inSingle refused]

theorem defaulted_of_rows {tables after : Tables}
    (single : Accepted e es tenantID now CreateInput.hasCustomFields
      (batchEntries e store inputs) tables after rows)
    (batch : Accepted e es tenantID now (fun _ => inputs.any CreateInput.hasCustomFields)
      (batchEntries e store inputs) tables after rows) : Defaulted e es inputs := by
  intro system some input member absent
  obtain ⟨id, inEntries⟩ := exists_entry e store member
  obtain ⟨row, inRows, alone⟩ := Engine.exists_of_mem_left single.made inEntries
  obtain ⟨other, inOthers, together⟩ := Engine.exists_of_mem_left batch.made inEntries
  have nodup : (rows.map Row.id).Nodup := by
    have whole := single.nodup (List.ne_nil_of_mem inEntries)
    rw [single.appended.table, List.map_append] at whole
    exact (List.nodup_append.mp whole).2.1
  obtain rfl := List.inj_on_of_nodup_map nodup inRows inOthers (alone.id.trans together.id.symm)
  have distinct := together.distinct
  have written := together.written
  have without := alone.written
  dsimp only at distinct written without
  rw [some] at distinct written
  rw [absent] at without
  have named : ("custom_fields", input.customFieldsJSON) ∈
      insertValues es tenantID now true id input := by
    rw [insertValues_true system]
    exact List.mem_append_right _ List.mem_cons_self
  rw [Engine.writeAll_value_of_mem written distinct named,
    value_customFields without (notMem_insertValues system distinct)]

end Mixed

section Atomicity

variable {e : Engine} {es : EntitySchema} {ctx : Context} {tenantID : Uuid}
  {inputs : List CreateInput} {store : Store} {one all : Tables}

/-- The creations and the batch of a batch without inputs. -/
theorem atomic_nil : Atomic store
    (createEach e.database es ctx (e.clock store.drawn) (batchEntries e store []) store)
    (bulkCreate e.database es ctx [] store) := ⟨rfl, rfl⟩

/-- Without a tenant neither starts. -/
theorem atomic_tenantless (tenant : ctx.tenant = none) (filled : inputs ≠ []) : Atomic store
    (createEach e.database es ctx (e.clock store.drawn) (batchEntries e store inputs) store)
    (bulkCreate e.database es ctx inputs store) := by
  have panics : ∃ error, (tenantFromContext ctx : Stateful Store Error Uuid) store =
      (.error error, store) := by
    rw [tenantFromContext, tenant]
    exact ⟨_, rfl⟩
  obtain ⟨error, panics⟩ := panics
  have bulk : bulkCreate e.database es ctx inputs store = (.error error, store) := by
    rw [bulkCreate, if_neg (by rwa [List.isEmpty_iff]), Stateful.bind_error panics]
  have each : createEach e.database es ctx (e.clock store.drawn) (batchEntries e store inputs)
      store = (.error error, store) := by
    obtain ⟨input, rest, rfl⟩ := List.exists_cons_of_ne_nil filled
    obtain ⟨id, ids, listed⟩ : ∃ id ids, batchIDs e store (input :: rest) = id :: ids :=
      ⟨_, _, rfl⟩
    rw [batchEntries, listed, List.zip_cons_cons, createEach, List.mapM_cons, createDrawn]
    exact Stateful.bind_error (Stateful.bind_error panics)
  rw [bulk, each]
  exact rfl

theorem ids_of_records (rows : List Row) :
    (rows.map fun row => scan es row.shown).map EntityRecord.id = rows.map Row.id := by
  rw [List.map_map]
  exact List.map_congr_left fun row _ => scan_id es row.shown

/-- When the database refuses neither, the batch does what the creations do just where its
identifiers ascend and the defaults are kept. -/
theorem atomic_iff_of_executeAll (plain : Plain es) (serves : e.serves es) (lists : e.Lists)
    (tenant : ctx.tenant = some tenantID) (filled : inputs ≠ [])
    (single : e.executeAll store.tables (singleInserts e es tenantID store inputs) = some one)
    (batch : e.executeAll store.tables (batchInserts e es tenantID store inputs) = some all) :
    Atomic store
        (createEach e.database es ctx (e.clock store.drawn) (batchEntries e store inputs) store)
        (bulkCreate e.database es ctx inputs store) ↔
      (batchIDs e store inputs).Pairwise (· ≤ ·) ∧ Defaulted e es inputs := by
  obtain ⟨rows, alone⟩ := accepted_of_executeAll plain single
  obtain ⟨others, together⟩ := accepted_of_executeAll plain batch
  obtain ⟨last, creates, reached⟩ := createEach_of_executeAll plain serves tenant single alone.made
  obtain ⟨final, bulk, stored⟩ : ∃ final, bulkCreate e.database es ctx inputs store =
      (.ok ((e.arrange byCreation others).map fun row => scan es row.shown), final) ∧
        final.tables = all :=
    bulkCreate_of_executeAll plain serves lists tenant filled batch together
  have ids : others.map Row.id = batchIDs e store inputs := by
    rw [ids_of_rows together.made, fst_batchEntries]
  have entries : batchEntries e store inputs ≠ [] := by
    intro empty
    rw [← snd_batchEntries e store inputs, empty] at filled
    exact filled rfl
  have nodup : (others.map Row.id).Nodup := by
    have whole := together.nodup entries
    rw [together.appended.table, List.map_append] at whole
    exact (List.nodup_append.mp whole).2.1
  have level := together_of_rows together.made
  rw [creates, bulk, Atomic, reached, stored]
  constructor
  · rintro ⟨answered, same⟩
    rw [same] at together
    obtain rfl := together.appended.rows_eq alone.appended
    refine ⟨?_, defaulted_of_rows alone together⟩
    rw [← ids]
    refine ascending_of_arrange lists level ?_
    have identifiers := congrArg (List.map EntityRecord.id) answered
    rwa [ids_of_records, ids_of_records] at identifiers
  · rintro ⟨ascending, defaulted⟩
    rw [executeAll_batchInserts plain serves defaulted, single] at batch
    obtain rfl := Option.some.inj batch
    obtain rfl := together.appended.rows_eq alone.appended
    rw [← ids] at ascending
    rw [arrange_of_ascending lists nodup level ascending]
    exact ⟨rfl, rfl⟩

/-- A batch does what the creations of its inputs do, for the same identifiers and the same
instant, or stores nothing where one of these fails, just where the database refuses an insert
of each, or the identifiers that are drawn ascend and the column of the custom fields makes its
default of what the inputs without any have. -/
theorem bulkCreate_atomic_iff (plain : Plain es) (serves : e.serves es) (lists : e.Lists)
    (opened : store.saved.isSome = ctx.conn.isSome) :
    Atomic store
        (createEach e.database es ctx (e.clock store.drawn) (batchEntries e store inputs) store)
        (bulkCreate e.database es ctx inputs store) ↔
      Refused e es ctx inputs store ∨
        ((batchIDs e store inputs).Pairwise (· ≤ ·) ∧ Defaulted e es inputs) := by
  by_cases filled : inputs = []
  · rw [filled]
    exact iff_of_true atomic_nil (.inr ⟨.nil, fun _ some => absurd some (by simp)⟩)
  cases tenant : ctx.tenant with
  | none =>
    refine iff_of_true (atomic_tenantless tenant filled) (.inl fun tenantID given => ?_)
    rw [tenant] at given
    cases given
  | some tenantID =>
    have refuses : Refused e es ctx inputs store ↔
        e.executeAll store.tables (singleInserts e es tenantID store inputs) = none ∧
          e.executeAll store.tables (batchInserts e es tenantID store inputs) = none := by
      simp [Refused, tenant]
    rw [refuses]
    cases single : e.executeAll store.tables (singleInserts e es tenantID store inputs) with
    | none =>
      obtain ⟨error, last, creates⟩ := createEach_of_refused plain serves tenant single
      cases batch : e.executeAll store.tables (batchInserts e es tenantID store inputs) with
      | none =>
        obtain ⟨failure, final, bulk, same⟩ : ∃ failure final,
            bulkCreate e.database es ctx inputs store = (.error failure, final) ∧
              final.committed = store.committed :=
          bulkCreate_of_refused tenant filled opened batch
        rw [creates, bulk]
        exact iff_of_true same (.inl ⟨rfl, rfl⟩)
      | some all =>
        obtain ⟨rows, accepted⟩ := accepted_of_executeAll plain batch
        obtain ⟨final, bulk, -⟩ : ∃ final, bulkCreate e.database es ctx inputs store =
            (.ok ((e.arrange byCreation rows).map fun row => scan es row.shown), final) ∧
              final.tables = all :=
          bulkCreate_of_executeAll plain serves lists tenant filled batch accepted
        rw [creates, bulk]
        refine iff_of_false not_false ?_
        rintro (⟨-, absent⟩ | ⟨-, defaulted⟩)
        · cases absent
        · rw [executeAll_batchInserts plain serves defaulted, single] at batch
          cases batch
    | some one =>
      obtain ⟨rows, accepted⟩ := accepted_of_executeAll plain single
      obtain ⟨last, creates, -⟩ :=
        createEach_of_executeAll plain serves tenant single accepted.made
      cases batch : e.executeAll store.tables (batchInserts e es tenantID store inputs) with
      | none =>
        obtain ⟨failure, final, bulk, -⟩ : ∃ failure final,
            bulkCreate e.database es ctx inputs store = (.error failure, final) ∧
              final.committed = store.committed :=
          bulkCreate_of_refused tenant filled opened batch
        rw [creates, bulk]
        refine iff_of_false not_false ?_
        rintro (⟨absent, -⟩ | ⟨-, defaulted⟩)
        · cases absent
        · rw [executeAll_batchInserts plain serves defaulted, single] at batch
          cases batch
      | some all =>
        rw [atomic_iff_of_executeAll plain serves lists tenant filled single batch]
        simp

end Atomicity

/-- A database without payments. -/
def noPayments : Store where
  tables _ := []

/-- Whether a batch of payments does what their creations do where there are none yet. -/
def AtomicOn (uuids : Nat → Uuid) (inputs : List CreateInput) : Prop :=
  Atomic noPayments
    (createEach (defaulting uuids).database payments { tenant := some 1 }
      ((defaulting uuids).clock noPayments.drawn)
      (batchEntries (defaulting uuids) noPayments inputs) noPayments)
    (bulkCreate (defaulting uuids).database payments { tenant := some 1 } inputs noPayments)

/-- A payment with an empty map of custom fields beside one with a note. -/
theorem batch_with_empty_map : AtomicOn (fun n => n) [emptied, noted] := by
  rw [AtomicOn, bulkCreate_atomic_iff plain_payments (serves_payments _) (lists_defaulting _) rfl]
  refine .inr ⟨by decide, fun _ _ input member absent => ?_⟩
  rcases List.mem_cons.mp member with rfl | member
  · rfl
  · obtain rfl := List.mem_singleton.mp member
    cases absent

theorem atomicOn_iff {uuids : Nat → Uuid} {inputs : List CreateInput} (filled : inputs ≠ [])
    (single : ((defaulting uuids).executeAll noPayments.tables
      (singleInserts (defaulting uuids) payments 1 noPayments inputs)).isSome = true)
    (batch : ((defaulting uuids).executeAll noPayments.tables
      (batchInserts (defaulting uuids) payments 1 noPayments inputs)).isSome = true) :
    AtomicOn uuids inputs ↔ (batchIDs (defaulting uuids) noPayments inputs).Pairwise (· ≤ ·) ∧
      Defaulted (defaulting uuids) payments inputs := by
  obtain ⟨one, single⟩ := Option.isSome_iff_exists.mp single
  obtain ⟨all, batch⟩ := Option.isSome_iff_exists.mp batch
  exact atomic_iff_of_executeAll plain_payments (serves_payments uuids) (lists_defaulting uuids) rfl
    filled single batch

/-- Two payments come back in the order of their identifiers, which is not theirs; and a payment
without custom fields stores `null` beside one with a note, where its creation leaves `{}`. -/
theorem batch_differs_from_creations :
    ¬ AtomicOn (fun n => 9 - n) [bare, bare] ∧ ¬ AtomicOn (fun n => n) [bare, noted] := by
  constructor
  · rw [atomicOn_iff (List.cons_ne_nil _ _) (by decide) (by decide)]
    rintro ⟨ascending, -⟩
    revert ascending
    decide
  · rw [atomicOn_iff (List.cons_ne_nil _ _) (by decide) (by decide)]
    rintro ⟨-, defaulted⟩
    have kept := defaulted (by decide) (by decide) bare List.mem_cons_self (by decide)
    cases kept

end ErpFinance.Driver
