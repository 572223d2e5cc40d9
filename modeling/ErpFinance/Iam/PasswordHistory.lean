import ErpFinance.Iam.Passwords
import ErpFinance.Library.Interleaving
import ErpFinance.Library.Sha256

/-!
# Password resets and the history of passwords

A password is set by its user, who knows the old one, or with a token that was
mailed.  Both calls read the last hashes, compare the new password with them and
write it together with the list that they have read.  A token is looked at first
and marked last.  The calls act in atomic steps on the user's row and on the
tokens, any of which may fail.
-/

namespace ErpFinance.Iam.PasswordHistory

open Domain Library

/-! ## Passwords -/

def validatePasswordStrength (password : String) : Bool :=
  let upper := fun c : Char => decide ('A' ≤ c ∧ c ≤ 'Z')
  let lower := fun c : Char => decide ('a' ≤ c ∧ c ≤ 'z')
  let digit := fun c : Char => decide ('0' ≤ c ∧ c ≤ '9')
  decide (12 ≤ byteLen password) && password.toList.any upper && password.toList.any lower &&
    password.toList.any digit &&
      password.toList.any fun c => !upper c && !lower c && !digit c

def isPasswordReused (b : Bcrypt) (plain : String) (history : List String) : Bool :=
  history.any fun hash => b.compare hash plain

def prependHistory (newHash : String) (existing : List String) : List String :=
  let combined := newHash :: existing
  if 5 < combined.length then combined.take 5 else combined

/-- The column `token_hash` of a raw token. -/
def hashToken (rawToken : String) : Bytes := sha256Hex rawToken.toUTF8.data.toList

/-! ## Rows -/

/-- A row of `users`: the columns of the password. -/
structure PasswordRow where
  passwordHash : String
  passwordHistory : List String

/-- A row of `password_reset_tokens`, under its hash. -/
structure PasswordResetToken where
  expiresAt : Nat
  /-- `used_at` is set. -/
  used : Bool

/-- A password that a call has set, the token that it had, and the five that were the last then. -/
structure Change where
  password : String
  token : Option Bytes
  recent : List String

/-- The user's row and the tokens; and what has happened to the row. -/
structure Shared where
  user : Option PasswordRow
  tokens : Bytes → Option PasswordResetToken
  registered : Option String
  /-- The newest first. -/
  changes : List Change

namespace Shared

variable (sh : Shared)

/-- The passwords that the user has had, the newest first. -/
def had : List String := sh.changes.map Change.password ++ sh.registered.toList

/-- `CreateUser`, whose row has the default history. -/
def createUser (password hash : String) : Shared :=
  { sh with user := some ⟨hash, []⟩, registered := some password }

def updatePasswordAndHistory (token : Option Bytes) (newPassword newHash : String)
    (newHistory : List String) : Shared :=
  match sh.user with
  | none => sh
  | some _ =>
    { sh with
      user := some ⟨newHash, newHistory.take 5⟩
      changes := ⟨newPassword, token, sh.had.take 5⟩ :: sh.changes }

def markPasswordResetTokenUsed (token : Bytes) : Shared :=
  { sh with tokens := fun hash =>
      if hash = token then (sh.tokens hash).map fun row => { row with used := true }
      else sh.tokens hash }

end Shared

/-! ## Steps -/

/-- The database answers a statement, or hides every row from it as on a connection without a
tenant, or fails. -/
inductive Reply
  | answers
  | hides
  | fails
deriving DecidableEq

structure Input where
  now : Nat := 0
  salt : Nat := 0
  reply : Reply := .answers

/-- Why a call stops. -/
inductive PasswordError
  | passwordTooShort
  | passwordTooWeak
  | authenticationFailed
  | passwordReused
  | tokenNotFound
  | tokenExpired
  | tokenUsed
  | hash (err : String)
  | repository

inductive Call
  | register (password : String)
  | change (oldPassword newPassword : String)
  | reset (rawToken newPassword : String)
  | getHistory (token : Option Bytes) (newPassword : String)
  | update (token : Option Bytes) (newPassword newHash : String) (history : List String)
  | mark (token : Bytes)
  | finished (err : Option PasswordError)

/-- `GetPasswordHistory`; a row that is not there has no history. -/
def getPasswordHistory (sh : Shared) : Reply → Option (List String)
  | .answers => some ((sh.user.map PasswordRow.passwordHistory).getD [])
  | .hides => some []
  | .fails => none

/-- What both calls do between the history and the update.  A history that could not be read is
empty. -/
def prepare (b : Bcrypt) (salt : Nat) (token : Option Bytes) (newPassword : String)
    (read : Option (List String)) : Call :=
  let history := read.getD []
  if isPasswordReused b newPassword history then .finished (some .passwordReused)
  else match b.generate salt newPassword with
    | .error err => .finished (some (.hash err))
    | .ok newHash => .update token newPassword newHash history

/-- The check of a token by `ResetPassword`. -/
def checkToken (now : Nat) (token : Bytes) (newPassword : String) :
    Option PasswordResetToken → Call
  | none => .finished (some .tokenNotFound)
  | some row =>
    if row.expiresAt < now then .finished (some .tokenExpired)
    else if row.used then .finished (some .tokenUsed)
    else .getHistory (some token) newPassword

/-- One step of a call. -/
def next (b : Bcrypt) (sh : Shared) (call : Call) (i : Input) : Shared × Call :=
  match call with
  | .register password =>
    if byteLen password < 8 then (sh, .finished (some .passwordTooShort))
    else match b.generate i.salt password with
      | .error err => (sh, .finished (some (.hash err)))
      | .ok hash =>
        if i.reply = .fails ∨ sh.user.isSome then (sh, .finished (some .repository))
        else (sh.createUser password hash, .finished none)
  | .change oldPassword newPassword =>
    if !validatePasswordStrength newPassword then (sh, .finished (some .passwordTooWeak))
    else match sh.user with
      | none => (sh, .finished (some .authenticationFailed))
      | some row =>
        if i.reply = .fails ∨ b.compare row.passwordHash oldPassword = false then
          (sh, .finished (some .authenticationFailed))
        else (sh, .getHistory none newPassword)
  | .reset rawToken newPassword =>
    if !validatePasswordStrength newPassword then (sh, .finished (some .passwordTooWeak))
    else
      let row := if i.reply = .answers then sh.tokens (hashToken rawToken) else none
      (sh, checkToken i.now (hashToken rawToken) newPassword row)
  | .getHistory token newPassword =>
    (sh, prepare b i.salt token newPassword (getPasswordHistory sh i.reply))
  | .update token newPassword newHash history =>
    if i.reply = .fails then (sh, .finished (some .repository))
    else
      let after := if i.reply = .answers then
          sh.updatePasswordAndHistory token newPassword newHash (prependHistory newHash history)
        else sh
      (after, (token.map Call.mark).getD (.finished none))
  | .mark token =>
    if i.reply = .answers then (sh.markPasswordResetTokenUsed token, .finished none)
    else (sh, .finished none)
  | .finished err => (sh, .finished err)

@[simp] theorem next_finished (b : Bcrypt) (sh : Shared) (err : Option PasswordError) (i : Input) :
    next b sh (.finished err) i = (sh, .finished err) := by
  rw [next]

/-! ## The rule and the condition -/

abbrev Sys := System Shared Call

/-- Each token has set at most one password, and no password was set that was among the last five
of the user. -/
structure Sound (sh : Shared) : Prop where
  once : ∀ token, (sh.changes.filter (·.token = some token)).length ≤ 1
  fresh : ∀ change ∈ sh.changes, change.password ∉ change.recent

/-- What a step has to meet.  A password is written with the history as it is in the row; it is
not the one of the registration, or five others were set since; and its token, if any, is neither
marked nor about to be.  A token is marked. -/
def Careful (sh : Shared) (calls : List Call) (i : Input) : Call → Prop
  | .update token newPassword _ history =>
    i.reply = .answers → ∀ row, sh.user = some row →
      history = row.passwordHistory ∧
        (sh.registered = some newPassword → 5 ≤ sh.changes.length) ∧
          ∀ hash, token = some hash →
            (∀ row, sh.tokens hash = some row → row.used = false) ∧ Call.mark hash ∉ calls
  | .mark _ => i.reply = .answers
  | _ => True

/-- Registrations, changes and resets arrive, and act in any order. -/
def Legal (_ : Sys) : Turn Call Input → Prop
  | .arrive call =>
    (∃ password, call = .register password) ∨
      (∃ oldPassword newPassword, call = .change oldPassword newPassword) ∨
        ∃ rawToken newPassword, call = .reset rawToken newPassword
  | .act _ _ => True

/-- A turn whose step meets the condition. -/
def Guard (s : Sys) (turn : Turn Call Input) : Prop :=
  Legal s turn ∧ ∀ index input call, turn = .act index input → s.clients[index]? = some call →
    Careful s.shared s.clients input call

/-- There is no user and no call is under way. -/
def initial (tokens : Bytes → Option PasswordResetToken) : Sys where
  shared := { user := none, tokens := tokens, registered := none, changes := [] }
  clients := []

section Invariant

variable {b : Bcrypt} {sh : Shared}

def Hashes (b : Bcrypt) (hash password : String) : Prop :=
  ∃ salt, b.generate salt password = .ok hash

/-- What a call knows between two of its steps. -/
def Holds (b : Bcrypt) (sh : Shared) : Call → Prop
  | .getHistory token _ => ∀ hash, token = some hash → (sh.tokens hash).isSome
  | .update token newPassword newHash history =>
    (∀ hash, token = some hash → (sh.tokens hash).isSome) ∧ Hashes b newHash newPassword ∧
      isPasswordReused b newPassword history = false
  | .mark token => (sh.tokens token).isSome
  | _ => True

/-- The history is one of the last five passwords that were set, and a token that has set one is
marked or about to be. -/
structure Kept (b : Bcrypt) (sh : Shared) (calls : List Call) : Prop where
  sound : Sound sh
  unset : sh.user = none → sh.changes = []
  history : ∀ row, sh.user = some row →
    List.Forall₂ (Hashes b) row.passwordHistory ((sh.changes.map Change.password).take 5)
  spent : ∀ change ∈ sh.changes, ∀ token, change.token = some token →
    (∃ row, sh.tokens token = some row ∧ row.used = true) ∨ Call.mark token ∈ calls

structure Inv (b : Bcrypt) (s : Sys) : Prop where
  kept : Kept b s.shared s.clients
  calls : ∀ call ∈ s.clients, Holds b s.shared call

theorem prependHistory_eq (newHash : String) (existing : List String) :
    prependHistory newHash existing = (newHash :: existing).take 5 := by
  simp only [prependHistory]
  split
  · rfl
  · rename_i short
    exact (List.take_of_length_le (Nat.not_lt.mp short)).symm

theorem isSome_markPasswordResetTokenUsed (token hash : Bytes) :
    ((sh.markPasswordResetTokenUsed token).tokens hash).isSome = (sh.tokens hash).isSome := by
  simp only [Shared.markPasswordResetTokenUsed]
  split
  · exact Option.isSome_map
  · rfl

/-- A password among the last five of the user is among the last five that were set, or it is the
one of the registration and fewer were set since. -/
theorem recent_cases {password : String} (member : password ∈ sh.had.take 5) :
    password ∈ (sh.changes.map Change.password).take 5 ∨
      sh.registered = some password ∧ sh.changes.length < 5 := by
  rw [Shared.had, List.take_append, List.mem_append, List.length_map] at member
  refine member.imp_right fun first => ?_
  have positive : 5 - sh.changes.length ≠ 0 := by
    intro none
    rw [none, List.take_zero] at first
    cases first
  refine ⟨?_, by omega⟩
  have registered := List.mem_of_mem_take first
  exact Option.mem_toList.mp registered

/-- A password that passes the check is none of those that the history was made of. -/
theorem not_mem_of_not_reused (exact : b.Exact) {password : String}
    {history passwords : List String} (made : List.Forall₂ (Hashes b) history passwords)
    (unused : isPasswordReused b password history = false) : password ∉ passwords := by
  intro member
  induction made with
  | nil => cases member
  | @cons hash first history passwords hashes made ih =>
    obtain ⟨salt, generated⟩ := hashes
    rw [isPasswordReused, List.any_cons, Bool.or_eq_false_iff] at unused
    rcases List.mem_cons.mp member with rfl | later
    · have accepted := (exact salt password hash generated password).mpr rfl
      rw [accepted] at unused
      cases unused.1
    · exact ih unused.2 later

end Invariant

section Step

variable {b : Bcrypt} {s : Sys} {index : Nat} {call new : Call} {after : Shared}

/-- The rule of the acting call, and what the others know, survive the step. -/
theorem Inv.act (inv : Inv b s) (kept : Kept b after (s.clients.set index new))
    (own : Holds b after new)
    (others : ∀ other ∈ s.clients, Holds b s.shared other → Holds b after other) :
    Inv b (s.put index (after, new)) where
  kept := kept
  calls other member := by
    rcases List.mem_or_eq_of_mem_set member with old | rfl
    · exact others other old (inv.calls other old)
    · exact own

theorem Inv.silent (inv : Inv b s) (found : s.clients[index]? = some call)
    (quiet : ∀ token, call ≠ .mark token) (own : Holds b s.shared new) :
    Inv b (s.put index (s.shared, new)) :=
  inv.act
    { sound := inv.kept.sound
      unset := inv.kept.unset
      history := inv.kept.history
      spent := fun change member token spends =>
        (inv.kept.spent change member token spends).imp_right fun marks =>
          System.mem_set_of_mem found marks (quiet token).symm }
    own fun _ _ held => held

/-- The first password. -/
theorem register_inv {password hash : String} (inv : Inv b s) (absent : s.shared.user = none) :
    Inv b (s.put index (s.shared.createUser password hash, .finished none)) := by
  have unchanged := inv.kept.unset absent
  refine inv.act ?_ trivial fun other _ held => by cases other <;> exact held
  exact
    { sound := ⟨inv.kept.sound.once, inv.kept.sound.fresh⟩
      unset := nofun
      history := fun row created => by
        cases created
        simp only [Shared.createUser, unchanged]
        exact .nil
      spent := fun change member => by
        simp only [Shared.createUser, unchanged] at member
        cases member }

/-- A password is written with the whole history. -/
theorem update_inv {token : Option Bytes} {newPassword newHash : String} {row : PasswordRow}
    (exact : b.Exact) (inv : Inv b s)
    (found : s.clients[index]? = some (.update token newPassword newHash row.passwordHistory))
    (stored : s.shared.user = some row)
    (first : s.shared.registered = some newPassword → 5 ≤ s.shared.changes.length)
    (unspent : ∀ hash, token = some hash →
      (∀ row, s.shared.tokens hash = some row → row.used = false) ∧
        Call.mark hash ∉ s.clients) :
    Inv b
      (s.put index (s.shared.updatePasswordAndHistory token newPassword newHash
        (prependHistory newHash row.passwordHistory),
        (token.map Call.mark).getD (.finished none))) := by
  obtain ⟨known, hashes, unused⟩ := inv.calls _ (List.mem_of_getElem? found)
  have bound : index < s.clients.length := (List.getElem?_eq_some_iff.mp found).1
  have made := inv.kept.history row stored
  have fresh : newPassword ∉ s.shared.had.take 5 := by
    intro member
    rcases recent_cases member with set | ⟨registered, few⟩
    · exact not_mem_of_not_reused exact made unused set
    · have many := first registered
      omega
  have unset : ∀ hash, token = some hash →
      s.shared.changes.filter (·.token = some hash) = [] := by
    intro hash given
    refine List.filter_eq_nil_iff.mpr fun change member spends => ?_
    obtain ⟨unmarked, idle⟩ := unspent hash given
    rcases inv.kept.spent change member hash (by simpa using spends) with
      ⟨row, here, used⟩ | marks
    · rw [unmarked row here] at used
      cases used
    · exact idle marks
  have written : s.shared.updatePasswordAndHistory token newPassword newHash
      (prependHistory newHash row.passwordHistory) =
        { s.shared with
          user := some ⟨newHash, (prependHistory newHash row.passwordHistory).take 5⟩
          changes := ⟨newPassword, token, s.shared.had.take 5⟩ :: s.shared.changes } := by
    rw [Shared.updatePasswordAndHistory, stored]
  rw [written]
  refine inv.act ?_ ?_ fun other _ held => by cases other <;> exact held
  · exact
      { sound :=
          { once := fun hash => by
              rw [List.filter_cons]
              split
              · rename_i spends
                rw [unset hash (by simpa using spends)]
                exact Nat.le_refl 1
              · exact inv.kept.sound.once hash
            fresh := fun change member => by
              rcases List.mem_cons.mp member with rfl | old
              · exact fresh
              · exact inv.kept.sound.fresh change old }
        unset := nofun
        history := fun updated same => by
          cases same
          have extended := List.forall₂_take 5 (List.Forall₂.cons hashes made)
          rw [prependHistory_eq, List.take_take, Nat.min_self, List.map_cons]
          simpa only [List.take_succ_cons, List.take_take, Nat.reduceLeDiff, Nat.min_eq_left]
            using extended
        spent := fun change member hash spends => by
          rcases List.mem_cons.mp member with rfl | old
          · refine .inr ?_
            have given : token = some hash := spends
            rw [given]
            exact List.mem_set bound _
          · exact (inv.kept.spent change old hash spends).imp_right fun marks =>
              System.mem_set_of_mem found marks (by simp) }
  · cases token with
    | none => trivial
    | some hash => exact known hash rfl

theorem mark_inv {token : Bytes} (inv : Inv b s)
    (found : s.clients[index]? = some (.mark token)) :
    Inv b (s.put index (s.shared.markPasswordResetTokenUsed token, .finished none)) := by
  have stored := inv.calls _ (List.mem_of_getElem? found)
  obtain ⟨row, here⟩ := Option.isSome_iff_exists.mp stored
  have marked : (s.shared.markPasswordResetTokenUsed token).tokens token =
      some { row with used := true } := by
    simp [Shared.markPasswordResetTokenUsed, here]
  refine inv.act ?_ trivial fun other _ held => ?_
  · exact
      { sound := ⟨inv.kept.sound.once, inv.kept.sound.fresh⟩
        unset := inv.kept.unset
        history := inv.kept.history
        spent := fun change member hash spends => by
          by_cases same : hash = token
          · subst same
            exact .inl ⟨_, marked, rfl⟩
          · rcases inv.kept.spent change member hash spends with ⟨old, there, used⟩ | marks
            · exact .inl ⟨old, (if_neg same).trans there, used⟩
            · refine .inr (System.mem_set_of_mem found marks fun acts => ?_)
              cases acts
              exact same rfl }
  · cases other with
    | getHistory given newPassword =>
      intro hash same
      rw [isSome_markPasswordResetTokenUsed]
      exact held hash same
    | update given newPassword newHash history =>
      refine ⟨fun hash same => ?_, held.2⟩
      rw [isSome_markPasswordResetTokenUsed]
      exact held.1 hash same
    | mark hash =>
      rw [Holds, isSome_markPasswordResetTokenUsed]
      exact held
    | register | change | reset | finished => trivial

theorem checkToken_inv {now : Nat} {token : Bytes} {newPassword : String}
    {row : Option PasswordResetToken} (inv : Inv b s) (found : s.clients[index]? = some call)
    (quiet : ∀ token, call ≠ .mark token)
    (stored : ∀ r, row = some r → s.shared.tokens token = some r) :
    Inv b (s.put index (s.shared, checkToken now token newPassword row)) := by
  refine inv.silent found quiet ?_
  cases row with
  | none => trivial
  | some r =>
    simp only [checkToken]
    split
    · trivial
    · split
      · trivial
      · intro hash same
        cases same
        rw [stored r rfl]
        rfl

theorem prepare_inv {salt : Nat} {token : Option Bytes} {newPassword : String}
    {read : Option (List String)} (inv : Inv b s)
    (found : s.clients[index]? = some (.getHistory token newPassword)) :
    Inv b (s.put index (s.shared, prepare b salt token newPassword read)) := by
  have known := inv.calls _ (List.mem_of_getElem? found)
  refine inv.silent found nofun ?_
  simp only [prepare]
  split
  · trivial
  · rename_i unused
    cases generated : b.generate salt newPassword with
    | error err => trivial
    | ok newHash => exact ⟨known, ⟨salt, generated⟩, Bool.eq_false_iff.mpr unused⟩

/-- Every step that meets the condition keeps the invariant. -/
theorem act_inv (exact : b.Exact) {i : Input} (inv : Inv b s)
    (found : s.clients[index]? = some call) (careful : Careful s.shared s.clients i call) :
    Inv b (s.put index (next b s.shared call i)) := by
  cases call with
  | register password =>
    have stops : ∀ err, Inv b { s with clients := s.clients.set index (.finished err) } :=
      fun err => inv.silent found nofun trivial
    simp only [next]
    split
    · exact stops _
    · split
      · exact stops _
      · split
        · exact stops _
        · rename_i accepted
          push Not at accepted
          exact register_inv inv (Option.isNone_iff_eq_none.mp (by simpa using accepted.2))
  | change oldPassword newPassword =>
    have stops : ∀ err, Inv b { s with clients := s.clients.set index (.finished err) } :=
      fun err => inv.silent found nofun trivial
    simp only [next]
    split
    · exact stops _
    · split
      · exact stops _
      · split
        · exact stops _
        · exact inv.silent found nofun nofun
  | reset rawToken newPassword =>
    simp only [next]
    split
    · exact inv.silent found nofun trivial
    · refine checkToken_inv inv found nofun fun row given => ?_
      split at given
      · exact given
      · cases given
  | getHistory token newPassword => exact prepare_inv inv found
  | update token newPassword newHash history =>
    have known := (inv.calls _ (List.mem_of_getElem? found)).1
    have own : Holds b s.shared ((token.map Call.mark).getD (.finished none)) := by
      cases token with
      | none => trivial
      | some hash => exact known hash rfl
    have silent := inv.silent found nofun own
    cases reply : i.reply with
    | fails =>
      simp only [next, reply, if_true]
      exact inv.silent found nofun trivial
    | hides =>
      simp only [next, reply, reduceCtorEq, if_false]
      exact silent
    | answers =>
      simp only [next, reply, reduceCtorEq, if_false, if_true]
      cases stored : s.shared.user with
      | none =>
        rw [Shared.updatePasswordAndHistory, stored]
        exact silent
      | some row =>
        obtain ⟨rfl, first, unspent⟩ := careful reply row stored
        exact update_inv exact inv found stored first unspent
  | mark token =>
    have answered : i.reply = .answers := careful
    simp only [next, answered, if_true]
    exact mark_inv inv found
  | finished err => exact inv.silent found nofun trivial

end Step

section Runs

variable {b : Bcrypt}

theorem inv_initial (tokens : Bytes → Option PasswordResetToken) : Inv b (initial tokens) where
  kept :=
    { sound := ⟨fun _ => Nat.zero_le 1, nofun⟩
      unset := fun _ => rfl
      history := nofun
      spent := fun _ member => by cases member }
  calls _ member := by cases member

theorem step_inv (exact : b.Exact) {s : Sys} (turn : Turn Call Input) (guard : Guard s turn)
    (inv : Inv b s) : Inv b (s.step (next b) turn) := by
  cases turn with
  | arrive call =>
    have own : Holds b s.shared call := by
      rcases guard.1 with ⟨_, rfl⟩ | ⟨_, _, rfl⟩ | ⟨_, _, rfl⟩ <;> trivial
    refine ⟨?_, fun other member => ?_⟩
    · exact
        { sound := inv.kept.sound
          unset := inv.kept.unset
          history := inv.kept.history
          spent := fun change member token spends =>
            (inv.kept.spent change member token spends).imp_right (List.mem_append_left _) }
    · rcases List.mem_append.mp member with old | new
      · exact inv.calls other old
      · rw [List.mem_singleton.mp new]
        exact own
  | act index input =>
    refine System.step_act_keeps inv fun call found => ?_
    exact act_inv exact inv found (guard.2 index input call rfl found)

end Runs

/-! ## One user -/

end ErpFinance.Iam.PasswordHistory
