import ErpFinance.Api.UpdateFrames
import ErpFinance.Driver.PostgresAnswers

/-!
# The password of a user

The hook on updates sees the record that is proposed.  Where the body has no
password this carries the stored hash, which the hook takes for a new password
and hashes once more.  The stored hash stays the one of the password that was
set last as long as every body has a password, be it an empty one.
-/

namespace ErpFinance.Iam

open Api Compiler Domain Driver Library ErpFinance.Runtime

/-- What a body has for a password; an empty text sets none. -/
def passwordIn (body : Object) : String := (body.get "password_hash").asString

/-- The store, and of the user that was created first the identifier and the password that was set
last. -/
structure Account where
  store : Driver.Store
  user : Option (Uuid × String) := none

inductive AccountCall where
  | create (patch : Patch)
  | update (patch : Patch)

section Calls

variable (e : Engine) (b : Bcrypt) (deployment : UserDeployment)

/-- A call on the record of the user; further creations make other users. -/
def Account.call (state : Account) : AccountCall → Account
  | .create patch =>
    match EntityService.create e.database (userService b deployment) patch.context patch.body
        patch.viewer state.store with
    | (.ok record, store) =>
      { store := store, user := state.user.or (some (record.id, passwordIn patch.body)) }
    | (.error _, store) => { state with store := store }
  | .update patch =>
    match state.user with
    | none => state
    | some (id, last) =>
      match EntityService.update e.database (userService b deployment) patch.context id
          patch.body patch.viewer state.store with
      | (.ok _, store) =>
        { store := store
          user := some (id,
            if passwordIn patch.body = "" then last else passwordIn patch.body) }
      | (.error _, store) => { state with store := store }

/-- Updates have a password, if only an empty one. -/
def Named (_ : Account) : AccountCall → Prop
  | .create _ => True
  | .update patch =>
    "password_hash" ∈ patch.body ∧ ∀ key ∈ patch.body, unquoted key = true

/-- What is compared accepts exactly what was hashed. -/
def Bcrypt.Exact : Prop :=
  ∀ salt plain hash, b.generate salt plain = .ok hash →
    ∀ given, b.compare hash given = true ↔ given = plain

def KeepsHashes : Prop :=
  ∀ salt plain hash kept, b.generate salt plain = .ok hash →
    e.keep users.tableName "password_hash" (.string hash) = some kept → kept = .string hash

def Accepts (row : Row) (given : String) : Prop :=
  b.compare (row.value "password_hash").asString given = true

instance (row : Row) (given : String) : Decidable (Accepts b row given) :=
  inferInstanceAs (Decidable (_ = true))

/-- The user's row accepts exactly the password that was set last. -/
def Account.AcceptsLast (state : Account) : Prop :=
  ∀ id last, state.user = some (id, last) →
    ∃ row ∈ state.store.tables users.tableName, row.id = id ∧
      ∀ given, Accepts b row given ↔ given = last

end Calls

section Hooks

variable {b : Bcrypt} {deployment : UserDeployment} {ctx : Context} {body : Object}
  {actor : Option Actor} {current record : EntityRecord}

theorem hashPassword_ok (hashes : UserPasswordHasher.hashPassword b ctx record = .ok current) :
    ∃ hash, b.generate ctx.entropy (record.getString "password_hash") = .ok hash ∧
      current = record.set "password_hash" (.string hash) := by
  unfold UserPasswordHasher.hashPassword at hashes
  dsimp only at hashes
  split_ifs at hashes
  split at hashes
  · cases hashes
  · rename_i hash generated
    cases hashes
    exact ⟨hash, generated, rfl⟩

theorem runBeforeCreate_hash (runs : (userService b deployment).pipeline.runBeforeCreate ctx
      users.qualifiedName body actor = .ok record) :
    ∃ hash, b.generate ctx.entropy (passwordIn body) = .ok hash ∧
      record.data.get "password_hash" = .string hash := by
  obtain ⟨validated, saved, first, -, second, last⟩ :=
    Pipeline.runBeforeCreate_ok deployment.registered runs
  cases first
  cases second
  have single : runHooks ctx "before_create" [UserPasswordHasher.beforeCreate b] _ = .ok record :=
    last
  rw [runHooks, List.foldlM_cons] at single
  obtain ⟨hashed, called, rest⟩ := bind_eq_ok_iff.mp single
  cases rest
  obtain ⟨hash, generated, rfl⟩ := hashPassword_ok (mapError_eq_ok_iff.mp called)
  have proposed : (applyDefaults (userBehaviour b).defaults body).get "password_hash" =
      body.get "password_hash" := by
    have absent : "password_hash" ∉ (userBehaviour b).defaults.map Prod.fst := by
      show "password_hash" ∉ ["status", "email_verified"]
      decide
    rw [Object.get, lookup_applyDefaults absent, Object.get]
  refine ⟨hash, ?_, Object.get_insert_self _ _ _⟩
  rw [EntityRecord.getString, EntityRecord.get] at generated
  rw [passwordIn, ← proposed]
  exact generated

theorem runBeforeUpdate_hash (named : "password_hash" ∈ body)
    (runs : (userService b deployment).pipeline.runBeforeUpdate ctx users.qualifiedName body actor
      current = .ok record) :
    ∃ hash, record.data.lookup "password_hash" = some (.string hash) ∧
      ((passwordIn body = "" ∧ hash = (current.data.get "password_hash").asString) ∨
        (passwordIn body ≠ "" ∧ b.generate ctx.entropy (passwordIn body) = .ok hash)) := by
  obtain ⟨-, validated, saved, first, -, second, last⟩ :=
    Pipeline.runBeforeUpdate_ok deployment.registered runs
  cases first
  cases second
  have single : runUpdateHooks ctx "before_update" [UserPasswordHasher.beforeUpdate b]
      (Pipeline.proposed body actor current) current = .ok record := last
  rw [runUpdateHooks, List.foldlM_cons] at single
  obtain ⟨hashed, called, rest⟩ := bind_eq_ok_iff.mp single
  cases rest
  have proposed : (Pipeline.proposed body actor current).getString "password_hash" =
      passwordIn body :=
    congrArg Value.asString (Object.get_merge_of_mem named)
  have hooked := mapError_eq_ok_iff.mp called
  unfold UserPasswordHasher.beforeUpdate at hooked
  rw [proposed] at hooked
  split_ifs at hooked with empty
  · cases hooked
    exact ⟨_, AList.lookup_insert _, .inl ⟨empty, rfl⟩⟩
  · obtain ⟨hash, generated, rfl⟩ := hashPassword_ok hooked
    rw [proposed] at generated
    exact ⟨hash, AList.lookup_insert _, .inr ⟨empty, generated⟩⟩

theorem runAfterCreate_users
    (runs : (userService b deployment).pipeline.runAfterCreate ctx current = .ok record) :
    record = current := by
  obtain ⟨es, -, runs⟩ := bind_eq_ok_iff.mp runs
  obtain ⟨created, first, second⟩ := bind_eq_ok_iff.mp runs
  cases first
  cases second
  rfl

end Hooks

/-! ## Runs -/

structure Account.Sound (e : Engine) (b : Bcrypt) (state : Account) : Prop where
  nodup : ((state.store.tables users.tableName).map Row.id).Nodup
  hashed : ∀ id last, state.user = some (id, last) →
    ∃ row ∈ state.store.tables users.tableName, row.id = id ∧
      ∃ salt hash, row.value "password_hash" = .string hash ∧ b.generate salt last = .ok hash ∧
        e.keep users.tableName "password_hash" (.string hash) = some (.string hash)

section Runs

variable {e : Engine} {b : Bcrypt} {deployment : UserDeployment} {state : Account} {patch : Patch}

theorem free_users : ∀ f ∈ users.fields, f.name ∉ frameworkColumns ++ ["custom_fields"] := by
  decide

theorem mem_fields_users : "password_hash" ∈ sortedFieldNames users :=
  (mem_sortedFieldNames users).mpr ⟨{ name := "password_hash", type := .data },
    show _ ∈ users.fields by decide, rfl⟩

theorem Account.Sound.of_tables {newer : Driver.Store}
    (same : newer.tables = state.store.tables) (sound : state.Sound e b) :
    Account.Sound e b { state with store := newer } where
  nodup := by
    rw [same]
    exact sound.nodup
  hashed := by
    rw [same]
    exact sound.hashed

/-- A creation makes a row with the hash of its password. -/
theorem Account.Sound.create (keeps : KeepsHashes e b) (sound : state.Sound e b) :
    Account.Sound e b (state.call e b deployment (.create patch)) := by
  have plain : Plain users := (wired_users b deployment).plain
  rw [Account.call]
  rcases runs : EntityService.create e.database (userService b deployment) patch.context patch.body
    patch.viewer state.store with ⟨error | record, after⟩
  · exact sound.of_tables (EntityService.create_error rfl runs)
  · obtain ⟨created, stages, row, inserted, hooked⟩ := EntityService.create_ok rfl plain runs
    obtain rfl := runAfterCreate_users hooked
    obtain ⟨hash, generated, digest⟩ := runBeforeCreate_hash stages
    have tables : after.tables users.tableName = state.store.tables users.tableName ++ [row] := by
      rw [inserted.tables]
      exact Function.update_self _ _ _
    have kept := inserted.value rfl free_users mem_fields_users
    rw [digest] at kept
    have held := keeps _ _ _ _ generated kept
    refine ⟨inserted.settled.nodup, fun id last user => ?_⟩
    rw [tables]
    cases first : state.user with
    | some known =>
      rw [first] at user
      obtain ⟨old, member, rest⟩ := sound.hashed id last (first.trans user)
      exact ⟨old, List.mem_append_left _ member, rest⟩
    | none =>
      rw [first] at user
      cases user
      rw [scan_id]
      refine ⟨row, List.mem_append_right _ List.mem_cons_self, rfl, _, hash, held, generated, ?_⟩
      rw [← held]
      exact e.keep_keep kept

theorem Account.Sound.update (keeps : KeepsHashes e b) (sound : state.Sound e b)
    (named : Named state (.update patch)) :
    Account.Sound e b (state.call e b deployment (.update patch)) := by
  have wired := wired_users b deployment
  have fields := hookFields_users b deployment
  rw [Account.call]
  cases user : state.user with
  | none => exact sound
  | some known =>
    obtain ⟨id, last⟩ := known
    dsimp only
    obtain ⟨row, member, isRow, salt, hash, digest, generated, stable⟩ :=
      sound.hashed id last user
    rcases runs : EntityService.update e.database (userService b deployment) patch.context id
      patch.body patch.viewer state.store with ⟨error | record, after⟩
    · have same := sound.of_tables (EntityService.update_error rfl wired.plain runs)
      rwa [user] at same
    · obtain ⟨read, inTable, isRead, patched, stages, updates⟩ :=
        EntityService.update_ok rfl wired.plain runs
      obtain rfl : read = row := List.inj_on_of_nodup_map sound.nodup inTable member
        (isRead.trans isRow.symm)
      have updated := updates fun _ key inData =>
        wired.unquoted_of_patched fields named.2 stages inData
      obtain ⟨new, inAfter, isNew⟩ := updated.found
      obtain ⟨old, inBefore, ⟨different, same⟩ | ⟨isOld, wrote⟩⟩ :=
        Engine.exists_of_mem_right (updated.rows rfl) inAfter
      · exact absurd isNew (same ▸ different)
      obtain rfl : old = read := List.inj_on_of_nodup_map sound.nodup inBefore member
        (isOld.trans isRow.symm)
      obtain ⟨hash', written, origin⟩ := runBeforeUpdate_hash named.1 stages
      have kept := wrote.set _ _ written
      refine ⟨updated.nodup sound.nodup, fun id' last' user' => ?_⟩
      cases user'
      refine ⟨new, inAfter, isNew, ?_⟩
      rcases origin with ⟨empty, restored⟩ | ⟨given, generated'⟩
      · rw [if_pos empty]
        have before : (scan (userService b deployment).schema old.shown).data.get
            "password_hash" = .string hash := by
          rw [Object.get, lookup_scan wired old (fields.declared _ rfl), Option.getD_some, digest]
        rw [restored, before] at kept
        exact ⟨salt, hash, Option.some.inj (kept.symm.trans stable), generated, stable⟩
      · rw [if_neg given]
        have held := keeps _ _ _ _ generated' kept
        refine ⟨_, hash', held, generated', ?_⟩
        rw [← held]
        exact e.keep_keep kept

end Runs

/-- In every run of creations and updates in which every update has a password, if only an empty
one, the user's record accepts exactly the password that was set last. -/
theorem passwords_verify (e : Engine) (b : Bcrypt) (deployment : UserDeployment)
    (start : Driver.Store) (exact' : b.Exact) (keeps : KeepsHashes e b)
    (nodup : ((start.tables users.tableName).map Row.id).Nodup) (state : Account)
    (run : Run (Account.call e b deployment) Named { store := start } state) :
    state.AcceptsLast b := by
  have sound : state.Sound e b := by
    refine run.invariant ⟨nodup, fun id last absent => ?_⟩ fun middle call named sound => ?_
    · cases absent
    · cases call with
      | create patch => exact sound.create keeps
      | update patch => exact sound.update keeps named
  intro id last user
  obtain ⟨row, member, isRow, salt, hash, digest, generated, -⟩ := sound.hashed id last user
  refine ⟨row, member, isRow, fun given => ?_⟩
  rw [Accepts, digest]
  exact exact' salt last hash generated given

section Sample

def signUp : Patch := patch ((single "email" (.string "ada@example.org")).insert "full_name"
  (.string "Ada Ouma") |>.insert "password_hash" (.string "wandering otter"))

def changed : Patch := patch ((single "full_name" (.string "Ada Odera")).insert "password_hash"
  (.string "resting otter"))

def renamed : Patch := patch (single "full_name" (.string "Ada Odera"))

theorem transparent_exact : transparent.Exact := by
  intro salt plain hash generated given
  have shown : hash = "$2a$12$" ++ plain := by
    unfold transparent at generated
    dsimp only at generated
    split_ifs at generated
    · exact (Except.ok.inj generated).symm
  rw [shown, transparent, decide_eq_true_eq]
  exact ⟨fun same => (String.append_right_inj _).mp same.symm, fun same => by rw [same]⟩

/-- A user is created, and the password is changed. -/
theorem changed_verifies : Account.AcceptsLast transparent
    (((Account.mk (userStore []) none).call userEngine transparent usersAlone
      (.create signUp)).call userEngine transparent usersAlone (.update changed)) := by
  refine passwords_verify userEngine transparent usersAlone (userStore []) transparent_exact
    (fun _ _ _ _ _ keeps => (Option.some.inj keeps).symm) List.nodup_nil _
    (.tail _ (.tail _ .refl trivial) ⟨?_, ?_⟩)
  · decide
  · decide

/-- Renaming a user replaces the hash of the password by the hash of that hash. -/
theorem renamed_refused :
    let created := (Account.mk (userStore []) none).call userEngine transparent usersAlone
      (.create signUp)
    let renamed := created.call userEngine transparent usersAlone (.update renamed)
    created.user = some (1, "wandering otter") ∧ renamed.user = some (1, "wandering otter") ∧
      (created.store.tables users.tableName).map (fun row =>
        decide (Accepts transparent row "wandering otter")) = [true] ∧
      (renamed.store.tables users.tableName).map (fun row =>
        ((row.value "full_name").asString, decide (Accepts transparent row "wandering otter"))) =
          [("Ada Odera", false)] := by
  decide +kernel

end Sample

end ErpFinance.Iam
