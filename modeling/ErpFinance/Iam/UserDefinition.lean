import ErpFinance.Api.EntityService
import ErpFinance.Driver.Postgres

/-!
# The user entity

The definition of `iam_user` with its hooks and its row policy.  What bcrypt
makes of a password and its salt is a parameter.
-/

namespace ErpFinance.Iam

open Api Compiler Def Domain Driver Library ErpFinance.Runtime

/-- `GenerateFromPassword` under a salt, and `CompareHashAndPassword`. -/
structure Bcrypt where
  generate : Nat → String → Except String String
  compare : String → String → Bool

def userDefinition : EntityDefinition where
  name := "user"
  module := "iam"
  fields :=
    [{ name := "email", type := .data, required := true },
     { name := "full_name", type := .data, required := true },
     { name := "password_hash", type := .data },
     { name := "status", type := .select, hasDefault := true
       options := ["active", "inactive", "locked"] },
     { name := "email_verified", type := .bool, hasDefault := true },
     { name := "last_login_at", type := .dateTime }]
  permissions :=
    { create := ["iam.user.create"]
      read := ["iam.user.read"]
      write := ["iam.user.update"]
      delete := ["iam.user.delete"]
      actions := [("reset_password", ["iam.user.reset_password"]), ("lock", ["iam.user.lock"]),
        ("unlock", ["iam.user.unlock"])] }

def users : EntitySchema := buildEntitySchema userDefinition

/-! ## Hooks -/

namespace UserPasswordHasher

variable (b : Bcrypt)

def hashPassword : Hook := fun ctx record =>
  let plain := record.getString "password_hash"
  if plain = "" then .error (.validation [("password_hash", "Password is required.")])
  else if byteLen plain < 8 then
    .error (.validation [("password_hash", "Password must be at least 8 characters.")])
  else
    match b.generate ctx.entropy plain with
    | .error text =>
      .error (.wrapped ("iam: hash password for user " ++ record.id.string) (.other text))
    | .ok hash => .ok (record.set "password_hash" (.string hash))

def beforeCreate : Hook := hashPassword b

/-- The hook sees what is proposed, not what has been sent. -/
def beforeUpdate : UpdateHook := fun ctx record prev =>
  if record.getString "password_hash" = "" then
    .ok (record.set "password_hash" (.string (prev.getString "password_hash")))
  else hashPassword b ctx record

end UserPasswordHasher

/-! ## Policy -/

/-- `HasRole`; without a viewer the function panics, and nobody has a role. -/
def hasRole (viewer : Option Actor) (role : String) : Bool :=
  viewer.any fun actor => role ∈ actor.roles

def userSelfOrAdminPolicy (ctx : Context) : Option Filter :=
  if hasRole ctx.viewer "role:platform-admin" || hasRole ctx.viewer "role:tenant.admin" then none
  else some (.eq "id" (.uuid (ctx.viewer.elim Uuid.Nil Actor.userID)))

/-- What the definition brings along. -/
def userBehaviour (b : Bcrypt) : Behaviour where
  defaults := [("status", .string "active"), ("email_verified", .bool false)]
  beforeCreate := [UserPasswordHasher.beforeCreate b]
  beforeUpdate := [UserPasswordHasher.beforeUpdate b]
  sensitive := ["password_hash"]
  policy := some userSelfOrAdminPolicy

structure UserDeployment where
  registry : RuntimeRegistry
  audit : Context → EntityRecord → Option Object → Option Object → Except Error Unit
  registered : registry.findEntity users.qualifiedName = .ok users

def userService (b : Bcrypt) (deployment : UserDeployment) : EntityService where
  schema := users
  pipeline :=
    { registry := deployment.registry
      behaviour := fun _ => userBehaviour b
      audit := deployment.audit }

section Sample

def usersCompiled : CompiledSchema where
  entities := [users]
  byName := index EntitySchema.qualifiedName [users]
  routes := []
  capabilityGrants := []
  graph := {}
  diagnostics := []

theorem findEntity_users :
    (newRuntimeRegistry usersCompiled).findEntity users.qualifiedName = .ok users := by
  have nodup : ([users].map EntitySchema.qualifiedName).Nodup := List.nodup_singleton _
  exact find_index nodup List.mem_cons_self _ _

def usersAlone : UserDeployment where
  registry := newRuntimeRegistry usersCompiled
  audit _ _ _ _ := .ok ⟨⟩
  registered := findEntity_users

/-- A digest that shows the password. -/
def transparent : Bcrypt where
  generate _ plain :=
    if byteLen plain ≤ 72 then .ok ("$2a$12$" ++ plain)
    else .error "bcrypt: password length exceeds 72 bytes"
  compare hash plain := hash = "$2a$12$" ++ plain

def userEngine : Engine := untyped (fun _ => scannedColumns users) fun _ => true

def userRow (id : Uuid) (email hash : String) : Row where
  id := id
  tenantID := 1
  createdAt := 5
  updatedAt := 5
  columns column :=
    if column = "email" then .string email
    else if column = "full_name" then .string "Ada Ouma"
    else if column = "password_hash" then .string hash
    else if column = "status" then .string "active"
    else if column = "email_verified" then .bool true
    else .null

/-- A database with these users. -/
def userStore (rows : List Row) : Driver.Store where
  tables table := if table = "iam_user" then rows else []

end Sample

end ErpFinance.Iam
