import ErpFinance.Api.UpdateFrames
import ErpFinance.Library.Interleaving

/-!
# Updates of one record at the same time

An update reads the record, merges its body into what it has read and writes
all of that back in a transaction.  Between the reading and the transaction
other updates of the record may be written; what they have set stays when the
record has been read after them, or when nothing that has been read names it.
-/

namespace ErpFinance.Api

open Compiler Domain Driver Library ErpFinance.Runtime

/-! ## What a record holds -/

structure JsonColumn (e : Engine) (table : String) (normal : Value → Value) : Prop where
  keeps : ∀ (o : Object) kept, e.keep table "data" o.toValue = some kept →
    ∃ stored : Object, kept = stored.toValue ∧
      ∀ key, stored.lookup key = (o.lookup key).map normal
  normal_normal : ∀ value, normal (normal value) = normal value

/-- What the record of a row holds under a key. -/
def held (es : EntitySchema) (row : Row) (key : String) : Value :=
  if es.isSystem then row.value key else (Object.ofValue (row.value "data")).get key

def Holds (e : Engine) (es : EntitySchema) (normal : Value → Value) (row : Row) (key : String)
    (value : Value) : Prop :=
  if es.isSystem then e.keep es.tableName key value = some (row.value key)
  else (Object.ofValue (row.value "data")).lookup key = some (normal value)

/-- A row whose columns keep what they hold; that of a custom entity holds an object. -/
structure Sound (e : Engine) (es : EntitySchema) (row : Row) : Prop where
  kept : Kept e es.tableName row
  object : es.isSystem = false → ∃ o : Object, row.value "data" = o.toValue

structure Revised (e : Engine) (es : EntitySchema) (normal : Value → Value) (data : Object)
    (row new : Row) : Prop where
  /-- The record holds the data. -/
  set : ∀ key value, data.lookup key = some value → Holds e es normal new key value
  /-- What is not in the data it holds as before. -/
  kept : ∀ key value, key ∉ data → (es.isSystem = true → key ≠ "updated_at") →
    Holds e es normal row key value → Holds e es normal new key value
  /-- What is written back it holds as before. -/
  back : ∀ key value, data.lookup key = some (held es row key) →
    Holds e es normal row key value → Holds e es normal new key value
  clock : es.isSystem = true → "updated_at" ∉ data
  sound : Sound e es new

section Writes

variable {e : Engine} {es : EntitySchema} {normal : Value → Value} {id : Uuid} {data : Object}
  {row new middle : Row} {now : Nat} {before after : Tables}

theorem holds_system (system : es.isSystem = true) {key : String} {value : Value} :
    Holds e es normal row key value ↔ e.keep es.tableName key value = some (row.value key) := by
  rw [Holds, if_pos system]

theorem holds_custom (custom : es.isSystem = false) {key : String} {value : Value} :
    Holds e es normal row key value ↔
      (Object.ofValue (row.value "data")).lookup key = some (normal value) := by
  rw [Holds, if_neg (Bool.eq_false_iff.mp custom)]

/-- What an update of a system entity writes. -/
theorem revised_of_wrote (system : es.isSystem = true) (sound : Sound e es row)
    (wrote : Wrote e es.tableName data row new) : Revised e es normal data row new where
  set key value found := (holds_system system).mpr (wrote.set key value found)
  kept key value absent notClock holds := by
    rw [holds_system system] at holds ⊢
    rw [holds, wrote.kept key absent (notClock system)]
  back key value found holds := by
    rw [held, if_pos system] at found
    rw [holds_system system] at holds ⊢
    have known := wrote.known key (mem_of_lookup.mpr ⟨_, found⟩)
    have written := wrote.set key _ found
    rw [sound.kept key known] at written
    rw [holds, Option.some.inj written]
  clock _ := wrote.clock
  sound := by
    refine ⟨fun column known => ?_, fun custom => ?_⟩
    · rcases wrote.stable column with same | stable
      · rw [same]
        exact sound.kept column known
      · exact stable
    · rw [system] at custom
      cases custom

theorem mergeAll_data {o : Object} (json : JsonColumn e es.tableName normal)
    (isObject : middle.value "data" = o.toValue)
    (merged : e.mergeAll es.tableName [("data", data)] middle = some new) :
    e.keep es.tableName "data" (new.value "data") = some (new.value "data") ∧
      (∀ column, column ≠ "data" → new.value column = middle.value column) ∧
      ∃ stored : Object, new.value "data" = stored.toValue ∧
        ∀ key, stored.lookup key = ((o.merge data).lookup key).map normal := by
  obtain ⟨last, merges, same⟩ := Option.bind_eq_some_iff.mp merged
  obtain rfl := Option.some.inj same
  obtain ⟨value, concats, written⟩ := Option.bind_eq_some_iff.mp merges
  obtain ⟨kept, keeps, changes⟩ := Engine.write_eq_some written
  have concatenated : value = ((Object.ofValue o.toValue).merge data).toValue := by
    rw [isObject] at concats
    exact (Option.some.inj concats).symm
  have holds : last.value "data" = kept := by rw [changes, Function.update_self]
  rw [concatenated] at keeps
  obtain ⟨stored, rfl, lookups⟩ := json.keeps _ _ keeps
  refine ⟨?_, fun column different => ?_, stored, holds, fun key => ?_⟩
  · rw [holds]
    exact e.keep_keep keeps
  · rw [changes, Function.update_of_ne different]
  · rw [lookups key]
    by_cases member : key ∈ data
    · rw [Object.merge, Object.merge, AList.lookup_union_left member,
        AList.lookup_union_left member]
    · rw [Object.merge, Object.merge, AList.lookup_union_right member,
        AList.lookup_union_right member, Object.lookup_ofValue_toValue]

theorem revised_of_merged (custom : es.isSystem = false) (json : JsonColumn e es.tableName normal)
    (sound : Sound e es row)
    (written : e.writeAll es.tableName [("updated_at", Value.time now)] row = some middle)
    (merged : e.mergeAll es.tableName [("data", data)] middle = some new) :
    Revised e es normal data row new := by
  obtain ⟨o, isObject⟩ := sound.object custom
  have clocked : ∀ column, column ≠ "updated_at" → middle.value column = row.value column :=
    fun column different => Engine.writeAll_value_of_notMem written (by simpa using different)
  have inMiddle : middle.value "data" = o.toValue := by
    rw [clocked "data" (by decide), isObject]
  obtain ⟨keepsData, others, stored, holds, lookups⟩ := mergeAll_data json inMiddle merged
  have read : ∀ key, (Object.ofValue (new.value "data")).lookup key =
      ((o.merge data).lookup key).map normal := fun key => by
    rw [holds, Object.lookup_ofValue_toValue, lookups key]
  have old : ∀ key, (Object.ofValue (row.value "data")).lookup key = o.lookup key := fun key => by
    rw [isObject, Object.lookup_ofValue_toValue]
  refine ⟨fun key value found => ?_, fun key value absent _ held => ?_,
    fun key value found held => ?_, fun system => ?_, fun column known => ?_, fun _ => ?_⟩
  · have member : key ∈ data := mem_of_lookup.mpr ⟨value, found⟩
    rw [holds_custom custom, read, Object.merge, AList.lookup_union_left member, found,
      Option.map_some]
  · rw [holds_custom custom, old] at held
    rw [holds_custom custom, read, Object.merge, AList.lookup_union_right absent, held,
      Option.map_some, json.normal_normal]
  · have member : key ∈ data := mem_of_lookup.mpr ⟨_, found⟩
    rw [holds_custom custom] at held
    rw [Api.held, if_neg (Bool.eq_false_iff.mp custom), Object.get, held, Option.getD_some]
      at found
    rw [holds_custom custom, read, Object.merge, AList.lookup_union_left member, found,
      Option.map_some, json.normal_normal]
  · rw [custom] at system
    cases system
  · by_cases isData : column = "data"
    · rw [isData]
      exact keepsData
    · rw [others column isData]
      by_cases isClock : column = "updated_at"
      · rw [isClock]
        exact e.keep_keep (Engine.writeAll_value_of_mem written (List.nodup_singleton _)
          List.mem_cons_self)
      · rw [clocked column isClock]
        exact sound.kept column known
  · exact ⟨stored, holds⟩

theorem Revised.refl (sound : Sound e es row) : Revised e es normal ∅ row row where
  set _ _ found := by cases found
  kept _ _ _ _ holds := holds
  back _ _ found _ := by cases found
  clock _ := AList.notMem_empty _
  sound := sound

/-- The rows before and after an update of the data of any entity. -/
theorem revised_of_updated (json : es.isSystem = false → JsonColumn e es.tableName normal)
    (updated : Updated e es id { data := data } before after) :
    List.Forall₂ (fun row new => (row.id ≠ id ∧ new = row) ∨
      (row.id = id ∧ (Sound e es row → Revised e es normal data row new)))
      (before es.tableName) (after es.tableName) := by
  cases kind : es.isSystem with
  | true =>
    refine (updated.rows kind).imp fun row new cases' => ?_
    rcases cases' with other | ⟨same, wrote⟩
    · exact .inl other
    · exact .inr ⟨same, fun sound => revised_of_wrote kind sound wrote⟩
  | false =>
    rcases updated.effect with ⟨nothing, same⟩ | ⟨-, now, rewritten⟩
    · have empty : data = ∅ := by
        rw [nothingToUpdate, Bool.and_eq_true, List.isEmpty_iff] at nothing
        exact AList.ext nothing.1
      rw [same, empty, List.forall₂_same]
      intro row _
      by_cases other : row.id = id
      · exact .inr ⟨other, Revised.refl⟩
      · exact .inl ⟨other, rfl⟩
    · refine rewritten.each.imp fun row new revises => ?_
      rcases Engine.revised_byID revises with other | ⟨same, middle, written, merged⟩
      · exact .inl other
      · rw [updateParts, kind] at written merged
        exact .inr ⟨same, fun sound =>
          revised_of_merged kind (json kind) sound written merged⟩

end Writes

/-! ## Calls -/

/-- Where a call of `Update` stands. -/
inductive Phase where
  | waiting
  | read (current : EntityRecord)
  | succeeded
  | failed

structure Call where
  patch : Patch
  phase : Phase

def Phase.hasSucceeded : Phase → Bool
  | succeeded => true
  | _ => false

/-- One step of a call: the reading of the record, or all that follows.  The transaction holds the
lock of the row from its write to its end, so that nobody else writes the row in between. -/
def Call.next (e : Engine) (s : EntityService) (id : Uuid) (store : Store) (call : Call)
    (_ : Unit) : Store × Call :=
  match call.phase with
  | .waiting =>
    match Driver.get e.database s.schema call.patch.context id {} store with
    | (.ok current, store) => (store, { call with phase := .read current })
    | (.error _, store) => (store, { call with phase := .failed })
  | .read current =>
    match EntityService.finishUpdate e.database s call.patch.context id call.patch.body
        call.patch.viewer current store with
    | (.ok _, store) => (store, { call with phase := .succeeded })
    | (.error _, store) => (store, { call with phase := .failed })
  | .succeeded => (store, call)
  | .failed => (store, call)

/-- What has been read holds what the record holds now under the keys of a body. -/
def Fresh (s : EntityService) (id : Uuid) (store : Store) (current : EntityRecord)
    (body : Object) : Prop :=
  ∀ row ∈ store.tables s.schema.tableName, row.id = id →
    ∀ key ∈ body, key ∈ current.data → current.data.get key = held s.schema row key

/-- No hook sets a key of a body, and none ends its name in a statement early. -/
def Unhooked (s : EntityService) (hooked : String → Prop) (body : Object) : Prop :=
  ∀ key ∈ body, ¬ hooked key ∧ (s.schema.isSystem = true → unquoted key = true)

/-- Calls arrive before their first step with bodies of different keys, which no hook sets; they
write only what is fresh for the bodies that have been written. -/
def Admitted (s : EntityService) (hooked : String → Prop) (id : Uuid)
    (system : System Store Call) : Turn Call Unit → Prop
  | .arrive call =>
    call.phase = .waiting ∧
      Unhooked s hooked call.patch.body ∧
      ∀ (index : Nat) (other : Call), system.clients[index]? = some other →
        ∀ key ∈ call.patch.body, key ∉ other.patch.body
  | .act index _ =>
    ∀ (call : Call) (current : EntityRecord), system.clients[index]? = some call →
      call.phase = .read current →
        ∀ (position : Nat) (other : Call), position ≠ index →
          system.clients[position]? = some other → other.phase = .succeeded →
            Fresh s id system.shared current other.patch.body

structure EntityService.Hooked (s : EntityService) (hooked : String → Prop) : Prop where
  plain : Plain s.schema
  registered : s.pipeline.registry.findEntity s.schema.qualifiedName = .ok s.schema
  hooks : HooksSetOnly (s.pipeline.behaviour s.schema.qualifiedName) hooked
  unquoted : s.schema.isSystem = true → ∀ key, hooked key → unquoted key = true

/-- What a call asserts about the store. -/
structure Stands (e : Engine) (s : EntityService) (normal : Value → Value)
    (hooked : String → Prop) (id : Uuid) (store : Store) (call : Call) : Prop where
  keys : Unhooked s hooked call.patch.body
  read : ∀ current, call.phase = .read current → ∃ row : Row, current = scan s.schema row.shown
  written : call.phase = .succeeded →
    ∀ row ∈ store.tables s.schema.tableName, row.id = id →
      ∀ key value, call.patch.body.lookup key = some value →
        Holds e s.schema normal row key value ∧
          (s.schema.isSystem = true → key ≠ "updated_at")

/-- The record is there and sound. -/
structure Sane (e : Engine) (es : EntitySchema) (id : Uuid) (store : Store) : Prop where
  found : ∃ row ∈ store.tables es.tableName, row.id = id
  sound : ∀ row ∈ store.tables es.tableName, row.id = id → Sound e es row

def Apart (first second : Call) : Prop := ∀ key ∈ first.patch.body, key ∉ second.patch.body

section Calls

variable {e : Engine} {s : EntityService} {normal : Value → Value} {hooked : String → Prop}
  {id : Uuid} {store after : Store} {call : Call} {current record : EntityRecord} {patch : Patch}

variable {newer : Store}

theorem Stands.of_tables (same : newer.tables = store.tables)
    (stands : Stands e s normal hooked id store call) :
    Stands e s normal hooked id newer call where
  keys := stands.keys
  read := stands.read
  written := by
    rw [same]
    exact stands.written

theorem Stands.failed (stands : Stands e s normal hooked id store call) :
    Stands e s normal hooked id newer { call with phase := .failed } where
  keys := stands.keys
  read _ reading := by cases reading
  written done := by cases done

theorem Sane.of_tables {es : EntitySchema} (same : newer.tables = store.tables)
    (sane : Sane e es id store) : Sane e es id newer where
  found := by
    rw [same]
    exact sane.found
  sound := by
    rw [same]
    exact sane.sound

/-- What the write of a call does to the record. -/
structure Landed (e : Engine) (s : EntityService) (normal : Value → Value)
    (hooked : String → Prop) (id : Uuid) (current : EntityRecord) (body : Object)
    (before after : Store) : Prop where
  found : ∃ row ∈ after.tables s.schema.tableName, row.id = id
  revised : ∃ data : Object,
    (∀ key, ¬ hooked key → data.lookup key = (current.data.merge body).lookup key) ∧
      ∀ new ∈ after.tables s.schema.tableName, new.id = id →
        ∃ row ∈ before.tables s.schema.tableName, row.id = id ∧
          Revised e s.schema normal data row new

variable {body : Object}

/-- What an update writes is what has been read, the body and what the hooks set. -/
theorem landed_of_finishUpdate (wired : s.Hooked hooked)
    (json : s.schema.isSystem = false → JsonColumn e s.schema.tableName normal)
    (sane : Sane e s.schema id store) {row : Row} (keys : Unhooked s hooked body)
    (finishes : EntityService.finishUpdate e.database s patch.context id body patch.viewer (scan
      s.schema row.shown) store = (.ok record, after)) :
    Landed e s normal hooked id (scan s.schema row.shown) body store after := by
  obtain ⟨patched, stages, updates⟩ := EntityService.finishUpdate_ok rfl wired.plain finishes
  obtain ⟨-, merges⟩ := runBeforeUpdate_frame wired.registered wired.hooks stages
  have updated := updates fun system key inData => by
    by_cases hook : hooked key
    · exact wired.unquoted system key hook
    · obtain ⟨value, found⟩ := mem_of_lookup.mp inData
      rw [merges key hook] at found
      rcases Object.mem_merge.mp (mem_of_lookup.mpr ⟨value, found⟩) with inBody | inRecord
      · exact (keys key inBody).2 system
      · refine wired.plain key (List.mem_cons_of_mem _ ?_)
        rw [scan_data system, mem_objectOf] at inRecord
        rw [scannedColumns, if_pos system]
        exact List.mem_append_left _ (List.mem_append_right _ inRecord)
  refine ⟨updated.found, patched.data, merges, fun new inAfter isRow => ?_⟩
  obtain ⟨old, inBefore, ⟨different, same⟩ | ⟨isOld, revises⟩⟩ :=
    Engine.exists_of_mem_right (revised_of_updated json updated) inAfter
  · rw [same] at isRow
    exact absurd isRow different
  · exact ⟨old, inBefore, isOld, revises (sane.sound old inBefore isOld)⟩

theorem Landed.sane (landed : Landed e s normal hooked id current body store after) :
    Sane e s.schema id after where
  found := landed.found
  sound new inAfter isRow := by
    obtain ⟨data, -, revised⟩ := landed.revised
    obtain ⟨row, -, -, revises⟩ := revised new inAfter isRow
    exact revises.sound

theorem Landed.own (keys : Unhooked s hooked body)
    (landed : Landed e s normal hooked id current body store after) {row : Row}
    (inAfter : row ∈ after.tables s.schema.tableName) (isRow : row.id = id) {key : String}
    {value : Value} (found : body.lookup key = some value) :
    Holds e s.schema normal row key value ∧ (s.schema.isSystem = true → key ≠ "updated_at") := by
  obtain ⟨data, merges, revised⟩ := landed.revised
  obtain ⟨old, -, -, revises⟩ := revised row inAfter isRow
  have inBody : key ∈ body := mem_of_lookup.mpr ⟨value, found⟩
  have written : data.lookup key = some value := by
    rw [merges key (keys key inBody).1, Object.merge, AList.lookup_union_left inBody, found]
  refine ⟨revises.set key value written, fun system same => revises.clock system ?_⟩
  rw [← same]
  exact mem_of_lookup.mpr ⟨value, written⟩

/-- What another call has written stays when what has been read is fresh for it. -/
theorem Landed.other {body other : Object} (apart : ∀ key ∈ other, key ∉ body)
    (keys : Unhooked s hooked other)
    (landed : Landed e s normal hooked id current body store after)
    (fresh : Fresh s id store current other)
    (before : ∀ row ∈ store.tables s.schema.tableName, row.id = id →
      ∀ key value, other.lookup key = some value → Holds e s.schema normal row key value ∧
        (s.schema.isSystem = true → key ≠ "updated_at"))
    {row : Row} (inAfter : row ∈ after.tables s.schema.tableName) (isRow : row.id = id)
    {key : String} {value : Value} (found : other.lookup key = some value) :
    Holds e s.schema normal row key value ∧ (s.schema.isSystem = true → key ≠ "updated_at") := by
  obtain ⟨data, merges, revised⟩ := landed.revised
  obtain ⟨old, inBefore, isOld, revises⟩ := revised row inAfter isRow
  obtain ⟨holds, notClock⟩ := before old inBefore isOld key value found
  have inOther : key ∈ other := mem_of_lookup.mpr ⟨value, found⟩
  have lookups : data.lookup key = current.data.lookup key := by
    rw [merges key (keys key inOther).1, Object.merge, AList.lookup_union_right
      (apart key inOther)]
  refine ⟨?_, notClock⟩
  by_cases inData : key ∈ data
  · -- the value that has been read is written back
    obtain ⟨written, reads⟩ := mem_of_lookup.mp inData
    have inRead : key ∈ current.data := mem_of_lookup.mpr ⟨written, lookups ▸ reads⟩
    have same := fresh old inBefore isOld key inOther inRead
    rw [Object.get, ← lookups, reads, Option.getD_some] at same
    exact revises.back key value (same ▸ reads) holds
  · exact revises.kept key value inData notClock holds

/-- What holds in every state of a run. -/
structure Standing (e : Engine) (s : EntityService) (normal : Value → Value)
    (hooked : String → Prop) (id : Uuid) (system : System Store Call) : Prop where
  sane : Sane e s.schema id system.shared
  calls : system.Coherent (Stands e s normal hooked id) Apart

variable {system : System Store Call}

/-- The store after a step that has left the tables. -/
theorem Standing.of_tables {index : Nat} {new : Call}
    (standing : Standing e s normal hooked id system) (found : system.clients[index]? = some call)
    (same : newer.tables = system.shared.tables) (patches : new.patch = call.patch)
    (own : Stands e s normal hooked id newer new) :
    Standing e s normal hooked id { shared := newer, clients := system.clients.set index new } where
  sane := standing.sane.of_tables same
  calls := by
    refine standing.calls.act own (fun _ _ _ _ stands => stands.of_tables same)
      fun other second different inSystem => ?_
    have pairs := standing.calls.pairs index other call second different.symm found inSystem
    have pairs' := standing.calls.pairs other index second call different inSystem found
    rw [Apart, patches]
    exact ⟨pairs, fun key member => patches ▸ pairs' key member⟩

theorem Standing.arrive (standing : Standing e s normal hooked id system)
    (admitted : Admitted s hooked id system (.arrive call)) :
    Standing e s normal hooked id { system with clients := system.clients ++ [call] } where
  sane := standing.sane
  calls := by
    obtain ⟨waits, keys, different⟩ := admitted
    refine standing.calls.arrive ⟨keys, fun current reading => ?_, fun done => ?_⟩
      fun index other found => ⟨different index other found, fun key inOther inCall => ?_⟩
    · rw [waits] at reading
      cases reading
    · rw [waits] at done
      cases done
    · exact different index other found key inCall inOther

theorem Standing.land {index : Nat} (standing : Standing e s normal hooked id system)
    (found : system.clients[index]? = some call)
    (fresh : ∀ (position : Nat) (other : Call), position ≠ index → system.clients[position]? = some
      other → other.phase = .succeeded → Fresh s id system.shared current other.patch.body)
    (landed : Landed e s normal hooked id current call.patch.body system.shared after) :
    Standing e s normal hooked id
      { shared := after, clients := system.clients.set index { call with phase := .succeeded } }
    where
  sane := landed.sane
  calls := by
    have stands := standing.calls.each index call found
    have apart : ∀ (position : Nat) (other : Call), position ≠ index →
        system.clients[position]? = some other → Apart call other ∧ Apart other call :=
      fun position other different inSystem =>
        ⟨standing.calls.pairs index position call other different.symm found inSystem,
          standing.calls.pairs position index other call different inSystem found⟩
    have own : Stands e s normal hooked id after { call with phase := .succeeded } := by
      refine ⟨stands.keys, fun current reading => ?_, fun _ row inAfter isRow key value =>
        landed.own stands.keys inAfter isRow⟩
      cases reading
    refine standing.calls.act own (fun position other different inSystem old => ?_) apart
    refine ⟨old.keys, old.read, fun done row inAfter isRow key value => ?_⟩
    exact landed.other (apart position other different inSystem).2 old.keys
      (fresh position other different inSystem done) (old.written done) inAfter isRow

theorem Standing.step (wired : s.Hooked hooked)
    (json : s.schema.isSystem = false → JsonColumn e s.schema.tableName normal)
    {system : System Store Call} {turn : Turn Call Unit}
    (standing : Standing e s normal hooked id system)
    (admitted : Admitted s hooked id system turn) :
    Standing e s normal hooked id (system.step (Call.next e s id) turn) := by
  cases turn with
  | arrive call => exact standing.arrive admitted
  | act index input =>
    refine System.step_act_keeps standing fun call found => ?_
    have stands := standing.calls.each index call found
    cases phase : call.phase with
    | waiting =>
      rcases reads : Driver.get e.database s.schema call.patch.context id {}
        system.shared with ⟨error | current, middle⟩
      all_goals
        have same := congrArg Store.tables (getRow_cases wired.plain reads).1
        simp only [Call.next, phase, reads]
        refine standing.of_tables found same rfl ?_
      · exact stands.failed
      · obtain ⟨-, row, -, -, rfl⟩ := getRow_ok wired.plain reads
        refine ⟨stands.keys, fun current reading => ?_, nofun⟩
        cases reading
        exact ⟨row, rfl⟩
    | read current =>
      obtain ⟨row, rfl⟩ := stands.read current phase
      rcases finishes : EntityService.finishUpdate e.database s call.patch.context id
        call.patch.body call.patch.viewer (scan s.schema row.shown) system.shared
        with ⟨error | record, after⟩
      all_goals simp only [Call.next, phase, finishes]
      · have same := EntityService.finishUpdate_error rfl finishes
        exact standing.of_tables found same rfl stands.failed
      · refine standing.land found (admitted call _ found phase) ?_
        exact landed_of_finishUpdate wired json standing.sane stands.keys finishes
    | succeeded =>
      simp only [Call.next, phase]
      exact standing.of_tables found rfl rfl stands
    | failed =>
      simp only [Call.next, phase]
      exact standing.of_tables found rfl rfl stands

end Calls

def NothingLost (e : Engine) (s : EntityService) (normal : Value → Value) (id : Uuid)
    (system : System Store Call) : Prop :=
  ∃ row ∈ system.shared.tables s.schema.tableName, row.id = id ∧
    ∀ (index : Nat) (call : Call), system.clients[index]? = some call →
      call.phase = .succeeded → ∀ key value, call.patch.body.lookup key = some value →
        Holds e s.schema normal row key value

/-- In every interleaving of updates of one record with different fields, in which every update
writes what is fresh for the updates that have been written, none of them is lost. -/
theorem updates_kept (e : Engine) (s : EntityService) (normal : Value → Value)
    (hooked : String → Prop) (id : Uuid) (start : Store) (wired : s.Hooked hooked)
    (json : s.schema.isSystem = false → JsonColumn e s.schema.tableName normal)
    (sane : Sane e s.schema id start) (system : System Store Call)
    (run : Run (System.step (Call.next e s id)) (Admitted s hooked id) ⟨start, []⟩ system) :
    NothingLost e s normal id system := by
  have standing : Standing e s normal hooked id system := by
    refine run.invariant ⟨sane, ?_, ?_⟩ fun middle turn admitted stands =>
      stands.step wired json admitted
    · intro index call found
      cases found
    · intro index other first second different found
      cases found
  obtain ⟨row, inTable, isRow⟩ := standing.sane.found
  refine ⟨row, inTable, isRow, fun index call found done key value lookup => ?_⟩
  exact ((standing.calls.each index call found).written done row inTable isRow key value lookup).1

section Sample

open Iam

def namePatch : Call := ⟨patch (single "full_name" (.string "Ada Odera")), .waiting⟩

def statusPatch : Call := ⟨patch (single "status" (.string "locked")), .waiting⟩

def adaTurns (turns : List (Turn Call Unit)) : System Driver.Store Call :=
  turns.foldl (System.step (Call.next userEngine (userService transparent usersAlone) 9))
    ⟨userStore [adaRow], []⟩

/-- Both calls read, then both write: the name of the first one is lost. -/
theorem full_name_lost :
    let system := adaTurns [.arrive namePatch, .arrive statusPatch, .act 0 ⟨⟩, .act 1 ⟨⟩,
      .act 0 ⟨⟩, .act 1 ⟨⟩]
    system.clients.map (fun call => call.phase.hasSucceeded) = [true, true] ∧
      (system.shared.tables "iam_user").map (fun row => ((row.value "full_name").asString,
        (row.value "status").asString)) = [("Ada Ouma", "locked")] := by
  decide +kernel

theorem hooked_users : (userService transparent usersAlone).Hooked (· = "password_hash") where
  plain := (wired_users transparent usersAlone).plain
  registered := usersAlone.registered
  hooks := (hookFields_users transparent usersAlone).hooks
  unquoted := by
    rintro - key rfl
    decide

theorem sane_ada : Sane userEngine users 9 (userStore [adaRow]) where
  found := ⟨adaRow, List.mem_cons_self, rfl⟩
  sound _ _ _ := ⟨fun _ _ => rfl, nofun⟩

/-- A call that may write because no other one has written. -/
theorem admitted_first {s : EntityService} {hooked : String → Prop} {id : Uuid}
    {system : System Driver.Store Call} {index : Nat}
    (none : ∀ call ∈ system.clients, call.phase.hasSucceeded = false) :
    Admitted s hooked id system (.act index ⟨⟩) := by
  intro call current found phase position other different inSystem done
  have waits := none other (List.mem_of_getElem? inSystem)
  rw [done] at waits
  cases waits

def Phase.name : Phase → Option String
  | read current => some (current.data.get "full_name").asString
  | _ => none

/-- The states that admitted turns of the two calls reach. -/
def AdaRun (turns : List (Turn Call Unit)) : Prop :=
  Run (System.step (Call.next userEngine (userService transparent usersAlone) 9))
    (Admitted (userService transparent usersAlone) (· = "password_hash") 9)
    ⟨userStore [adaRow], []⟩ (adaTurns turns)

theorem AdaRun.tail {turns : List (Turn Call Unit)} (run : AdaRun turns) {turn : Turn Call Unit}
    (admitted : Admitted (userService transparent usersAlone) (· = "password_hash") 9
      (adaTurns turns) turn) : AdaRun (turns ++ [turn]) := by
  rw [AdaRun, adaTurns, List.foldl_append]
  exact .tail turn run admitted

theorem adaRun_arrived : AdaRun [.arrive namePatch, .arrive statusPatch] := by
  have none : AdaRun [] := .refl
  have one : AdaRun [.arrive namePatch] := by
    refine none.tail ?_
    refine ⟨rfl, fun key member => ?_, fun index other found => ?_⟩
    · obtain rfl := mem_single.mp member
      exact ⟨by decide, fun _ => by decide⟩
    · cases found
  refine one.tail ?_
  refine ⟨rfl, fun key member => ?_, fun index other found => ?_⟩
  · obtain rfl := mem_single.mp member
    exact ⟨by decide, fun _ => by decide⟩
  · obtain rfl := List.mem_singleton.mp (List.mem_of_getElem? found)
    intro key member inOther
    obtain rfl := mem_single.mp member
    exact absurd (mem_single.mp inOther) (by decide)

theorem adaRun_written : AdaRun [.arrive namePatch, .arrive statusPatch, .act 0 ⟨⟩, .act 0 ⟨⟩] := by
  have first : AdaRun [.arrive namePatch, .arrive statusPatch, .act 0 ⟨⟩] :=
    adaRun_arrived.tail (admitted_first (by decide +kernel))
  exact first.tail (admitted_first (by decide +kernel))

theorem adaRun_both : AdaRun [.arrive namePatch, .arrive statusPatch, .act 0 ⟨⟩, .act 0 ⟨⟩,
    .act 1 ⟨⟩, .act 1 ⟨⟩] := by
  have reads : AdaRun [.arrive namePatch, .arrive statusPatch, .act 0 ⟨⟩, .act 0 ⟨⟩,
      .act 1 ⟨⟩] := by
    refine adaRun_written.tail ?_
    intro call current found phase
    have waits : ∀ call ∈ (adaTurns [.arrive namePatch, .arrive statusPatch, .act 0 ⟨⟩,
        .act 0 ⟨⟩]).clients, call.phase.name = none := by
      decide +kernel
    have absent := waits call (List.mem_of_getElem? found)
    rw [phase] at absent
    cases absent
  refine reads.tail ?_
  intro call current found phase position other different inSystem done row inTable isRow key
    member inRead
  have names : ∀ call ∈ (adaTurns [.arrive namePatch, .arrive statusPatch, .act 0 ⟨⟩, .act 0 ⟨⟩,
      .act 1 ⟨⟩]).clients, call.phase.name = none ∨ call.phase.name = some "Ada Odera" := by
    decide +kernel
  have bodies : ∀ call ∈ (adaTurns [.arrive namePatch, .arrive statusPatch, .act 0 ⟨⟩, .act 0 ⟨⟩,
      .act 1 ⟨⟩]).clients, call.phase.hasSucceeded = true →
        call.patch.body.keys = ["full_name"] := by
    decide +kernel
  have rows : ∀ row ∈ (adaTurns [.arrive namePatch, .arrive statusPatch, .act 0 ⟨⟩, .act 0 ⟨⟩,
      .act 1 ⟨⟩]).shared.tables users.tableName, (held users row "full_name").asString =
        "Ada Odera" := by
    decide +kernel
  have isName : key = "full_name" := by
    have keys := bodies other (List.mem_of_getElem? inSystem) (by rw [done]; rfl)
    rw [AList.mem_keys, keys] at member
    exact List.mem_singleton.mp member
  have read : (current.data.get "full_name").asString = "Ada Odera" := by
    have name := names call (List.mem_of_getElem? found)
    rw [phase] at name
    rcases name with absent | read
    · cases absent
    · exact Option.some.inj read
  rw [isName, Value.eq_string_of_asString (by decide) read]
  exact (Value.eq_string_of_asString (by decide) (rows row inTable)).symm

/-- One update after the other, and both are kept. -/
theorem full_name_kept : NothingLost userEngine (userService transparent usersAlone) id 9
    (adaTurns [.arrive namePatch, .arrive statusPatch, .act 0 ⟨⟩, .act 0 ⟨⟩, .act 1 ⟨⟩,
      .act 1 ⟨⟩]) :=
  updates_kept userEngine (userService transparent usersAlone) id (· = "password_hash") 9
    (userStore [adaRow]) hooked_users nofun sane_ada _ adaRun_both

end Sample

end ErpFinance.Api
