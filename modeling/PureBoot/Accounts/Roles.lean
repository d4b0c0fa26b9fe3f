/-
  PureBoot.Accounts.Roles — ROLES, service accounts and API keys.

  Embeds the rows `Role`, `Permission`, `RolePermission` and `ApiKey` of `db/models.py`,
  `api/dependencies/auth.py`, `api/routes/roles.py`, `api/routes/service_accounts.py` and
  `db/seed.py`.  The right of an account is stored twice: as the NAME of a role
  (`User.role`) and as the ID of one (`User.role_id`).  `users.py` writes the first,
  the service accounts write both, and `require_permission` reads both.

  `users.py` neither reads nor writes `role_id`, `owner_id` and `expires_at`: these columns
  are kept beside the users, by their id.  The database does not enforce foreign keys, so
  a role can go while accounts refer to it.
-/
import PureBoot.Accounts.Admins

namespace PureBoot.Accounts

open PureBoot.Lib PureBoot.Web

/-! ## §1. Rows. -/

structure Role where
  id : String
  name : String
  isSystemRole : Bool := false
  deriving DecidableEq, Repr

structure Permission where
  id : String
  resource : String
  action : String
  deriving DecidableEq, Repr

structure RolePermission where
  roleId : String
  permissionId : String
  deriving DecidableEq, Repr

/-- The columns of `User` that `users.py` does not know. -/
structure RoleColumns where
  roleId : Option String := none
  ownerId : Option String := none
  expiresAt : Option Nat := none
  deriving DecidableEq, Repr

/-- A row of `api_keys`, with its name. -/
structure AccountKey extends Web.ApiKey where
  name : String
  createdById : String

def AccountKey.keyId (k : AccountKey) : String := k.id

/-- The tables of users, roles and keys. -/
structure Directory where
  db : DB := {}
  columns : String → RoleColumns := fun _ => {}
  roles : Table Role.id := Table.empty
  permissions : Table Permission.id := Table.empty
  rolePermissions : List RolePermission := []
  apiKeys : Table AccountKey.keyId := Table.empty

namespace Directory

variable (s : Directory)

/-- `User.role_id`. -/
def roleIdOf (user : User) : Option String := (s.columns user.id).roleId

/-- Write the columns of one user. -/
def setColumns (userId : String) (c : RoleColumns) : Directory :=
  { s with columns := fun id => if id = userId then c else s.columns id }

/-- `role.permissions` has one for this action on this resource. -/
def allows (roleId resource action : String) : Bool :=
  s.permissions.rows.any (fun p => p.resource = resource && p.action = action
    && s.rolePermissions.contains ⟨roleId, p.id⟩)

/-- What `user.role_ref` grants. -/
def grants (roleId : Option String) (resource action : String) : Bool :=
  (roleId.bind s.roles.get?).any (fun role => s.allows role.id resource action)

/-- `select(Role).where(Role.name == …)`; the column is unique. -/
def roleNamed (name : String) : Option Role := s.roles.rows.find? (fun r => r.name = name)

/-- What the role of this name grants. -/
def named (name resource action : String) : Bool :=
  s.roles.rows.any (fun role => role.name = name && s.allows role.id resource action)

end Directory

/-! ## §2. Permissions (`dependencies/auth.py`). -/

/-- The user of an id, as both dependencies load it. -/
def loadUser (db : DB) (userId : String) : Except Exn User :=
  match db.users.get? userId with
  | none => .error (.http 401 "User not found")
  | some user => if !user.isActive then .error (.http 401 "Account disabled") else .ok user

/-- `get_current_user_from_state`; `userId` is `request.state.user_id`. -/
def getCurrentUserFromState (db : DB) : Option String → Except Exn User
  | none | some "" => .error (.http 401 "Not authenticated")
  | some userId => loadUser db userId

/-- `check_permission`, of a user who is logged in. -/
def checkPermission (s : Directory) (resource action : String) (user : User) : Except Exn User :=
  if user.role = "admin" then .ok user
  else if s.grants (s.roleIdOf user) resource action then .ok user
  else .error (.http 403 ("Permission denied: " ++ resource ++ ":" ++ action))

/-- `require_permission`. -/
def requirePermission (s : Directory) (resource action : String) (userId : Option String) :
    Except Exn User :=
  getCurrentUserFromState s.db userId >>= checkPermission s resource action

/-! ## §3. Roles (`roles.py`). -/

structure RoleCreate where
  name : String
  permissionIds : List String := []
  deriving DecidableEq, Repr

structure RoleUpdate where
  name : Option String := none
  permissionIds : Option (List String) := none
  deriving DecidableEq, Repr

/-- Rows of `role_permissions` for one role; the pair is the primary key. -/
def Directory.link (s : Directory) (roleId : String) (permissionIds : List String) :
    Except Exn Directory :=
  let rows := permissionIds.map (fun id => (⟨roleId, id⟩ : RolePermission))
  if permissionIds.Nodup ∧ ∀ row ∈ rows, row ∉ s.rolePermissions then
    .ok { s with rolePermissions := s.rolePermissions ++ rows }
  else .error .integrityError

/-- `create_role`; `uuid` is the primary key the column default draws. -/
def createRole (s : Directory) (uuid : String) (data : RoleCreate) :
    Except Exn (Role × Directory) :=
  if (s.roleNamed data.name).isSome then .error (.http 400 "Role name already exists")
  else
    match s.roles.insert? { id := uuid, name := data.name } with
    | none => .error .integrityError
    | some roles => do
        let s ← { s with roles }.link uuid data.permissionIds
        .ok ({ id := uuid, name := data.name }, s)

/-- The links of a role are replaced, if new ones are given. -/
def Directory.relink (s : Directory) (roleId : String) : Option (List String) →
    Except Exn Directory
  | none => .ok s
  | some permissionIds =>
      { s with rolePermissions := s.rolePermissions.filter (fun rp => rp.roleId ≠ roleId) }.link
        roleId permissionIds

/-- `update_role`. -/
def updateRole (s : Directory) (roleId : String) (data : RoleUpdate) :
    Except Exn (Role × Directory) :=
  match s.roles.get? roleId with
  | none => .error (.http 404 "Role not found")
  | some role =>
      if role.isSystemRole then .error (.http 400 "Cannot modify system roles")
      else if s.roles.rows.any (fun r => some r.name = data.name ∧ r.id ≠ roleId) then
        .error (.http 400 "Role name already exists")
      else do
        let role' := { role with name := data.name.getD role.name }
        let s ← { s with roles := s.roles.put role' }.relink roleId data.permissionIds
        .ok (role', s)

/-- `delete_role`: the ORM also deletes the links of the role. -/
def deleteRole (s : Directory) (roleId : String) : Except Exn (Unit × Directory) :=
  match s.roles.get? roleId with
  | none => .error (.http 404 "Role not found")
  | some role =>
      if role.isSystemRole then .error (.http 400 "Cannot delete system roles")
      else
        .ok ((), { s with
          roles := s.roles.delete (fun r => r.id = roleId)
          rolePermissions := s.rolePermissions.filter (fun rp => rp.roleId ≠ roleId) })

/-! ## §4. Service accounts and API keys (`service_accounts.py`). -/

/-- What the handlers get from elsewhere. -/
structure DirectoryEnv where
  /-- `hash_password`. -/
  hashPassword : String → String
  /-- `datetime.fromisoformat(text.replace("Z", "+00:00"))`; `none` is a `ValueError`. -/
  parseTime : String → Option Nat
  /-- `datetime.utcnow()` as the columns store it. -/
  utcnow : Nat

structure ServiceAccountCreate where
  username : String
  roleId : Option String := none
  expiresAt : Option String := none
  deriving DecidableEq, Repr

structure ServiceAccountUpdate where
  roleId : Option String := none
  expiresAt : Option String := none
  isActive : Option Bool := none
  deriving DecidableEq, Repr

structure ApiKeyCreate where
  name : String
  expiresAt : Option String := none
  deriving DecidableEq, Repr

section Handlers

variable (env : DirectoryEnv)

/-- `if data.expires_at: …`. -/
def parseExpiry : Option String → Except Exn (Option Nat)
  | none | some "" => .ok none
  | some text =>
      match env.parseTime text with
      | none => .error (.http 400 "Invalid expires_at format")
      | some t => .ok (some t)

/-- `if data.expires_at is not None: …`. -/
def updateExpiry (before : Option Nat) : Option String → Except Exn (Option Nat)
  | none => .ok before
  | some text =>
      match env.parseTime text with
      | none => .error (.http 400 "Invalid expires_at format")
      | some t => .ok (some t)

/-- The role with this id, which the request names. -/
def Directory.roleFor (s : Directory) (roleId : String) : Except Exn Role :=
  match s.roles.get? roleId with
  | none => .error (.http 400 "Invalid role ID")
  | some role => .ok role

/-- `if data.role_id: …`; without one the account is a viewer. -/
def Directory.initialRole (s : Directory) : Option String → Except Exn String
  | none | some "" => .ok "viewer"
  | some roleId => (s.roleFor roleId).map Role.name

/-- `create_service_account`; `uuid` is the primary key the column default draws. -/
def createServiceAccount (s : Directory) (current : User) (uuid : String)
    (data : ServiceAccountCreate) : Except Exn (User × Directory) :=
  if (s.db.userByName data.username).isSome then .error (.http 400 "Username already exists")
  else do
    let role ← s.initialRole data.roleId
    let expiresAt ← parseExpiry env data.expiresAt
    let account : User :=
      { id := uuid, username := data.username,
        email := some (data.username ++ "@service.local"),
        passwordHash := env.hashPassword ("svc-" ++ data.username ++ "-disabled"),
        role, isServiceAccount := true }
    let db ← s.db.addUser account
    .ok (account, { s with db }.setColumns uuid
      { roleId := data.roleId, ownerId := some current.id, expiresAt })

/-- The service account with this id. -/
def Directory.serviceAccount (s : Directory) (accountId : String) : Except Exn User :=
  match (s.db.users.get? accountId).filter User.isServiceAccount with
  | none => .error (.http 404 "Service account not found")
  | some account => .ok account

/-- `if data.role_id is not None: …`: the name and the id of the role, written together. -/
def Directory.updateRoleOf (s : Directory) (account : User) :
    Option String → Except Exn (String × Option String)
  | none => .ok (account.role, s.roleIdOf account)
  | some roleId => (s.roleFor roleId).map (fun role => (role.name, some roleId))

/-- `update_service_account`. -/
def updateServiceAccount (s : Directory) (accountId : String) (data : ServiceAccountUpdate) :
    Except Exn (User × Directory) := do
  let account ← s.serviceAccount accountId
  let role ← s.updateRoleOf account data.roleId
  let expiresAt ← updateExpiry env (s.columns account.id).expiresAt data.expiresAt
  let account' : User :=
    { account with role := role.1, isActive := data.isActive.getD account.isActive }
  .ok (account', { s with db := s.db.save account' }.setColumns account.id
    { s.columns account.id with roleId := role.2, expiresAt })

/-- `delete_service_account`: the ORM also deletes the memberships. -/
def deleteServiceAccount (s : Directory) (accountId : String) : Except Exn (Unit × Directory) := do
  let account ← s.serviceAccount accountId
  .ok ((), { s with db := { s.db with
    users := s.db.users.delete (fun u => u.id = account.id)
    members := s.db.members.filter (fun m => m.userId ≠ account.id) } })

/-- What `generate_api_key` and the column default draw. -/
structure DrawnKey where
  id : String
  keyPrefix : List Char
  keyHash : List Char
  deriving DecidableEq, Repr

/-- `create_api_key`. -/
def createApiKey (s : Directory) (current : User) (accountId : String) (drawn : DrawnKey)
    (data : ApiKeyCreate) : Except Exn (AccountKey × Directory) := do
  let account ← s.serviceAccount accountId
  if s.apiKeys.rows.any (fun k => k.serviceAccountId = accountId && k.name = data.name) then
    .error (.http 400 "API key name already exists")
  else do
    let expiresAt ← parseExpiry env data.expiresAt
    let key : AccountKey :=
      { id := drawn.id, serviceAccountId := account.id, keyHash := drawn.keyHash,
        keyPrefix := drawn.keyPrefix, expiresAt, name := data.name, createdById := current.id }
    if s.apiKeys.rows.any (fun k => k.keyPrefix = drawn.keyPrefix) then .error .integrityError
    else
      match s.apiKeys.insert? key with
      | none => .error .integrityError
      | some apiKeys => .ok (key, { s with apiKeys })

/-- `revoke_api_key`. -/
def revokeApiKey (s : Directory) (accountId keyId : String) : Except Exn (Unit × Directory) :=
  match (s.apiKeys.get? keyId).filter (fun k => k.serviceAccountId = accountId) with
  | none => .error (.http 404 "API key not found")
  | some _ => .ok ((), { s with apiKeys := s.apiKeys.delete (fun k => k.id = keyId) })

end Handlers

/-! ## §5. Seeding (`db/seed.py`). -/

/-- `PERMISSIONS`. -/
def seededPermissions : List (String × String) :=
  [("node", "create"), ("node", "read"), ("node", "update"), ("node", "delete"),
   ("node", "transition"),
   ("group", "create"), ("group", "read"), ("group", "update"), ("group", "delete"),
   ("user", "create"), ("user", "read"), ("user", "update"), ("user", "delete"),
   ("workflow", "read"), ("workflow", "execute"),
   ("storage", "create"), ("storage", "read"), ("storage", "update"), ("storage", "delete"),
   ("system", "read"), ("system", "configure"),
   ("approval", "read"), ("approval", "vote"), ("approval", "manage"),
   ("audit", "read"), ("audit", "export"),
   ("ldap", "read"), ("ldap", "write")]

/-- A value of `ROLES`: all of them are system roles. -/
structure SeededRole where
  name : String
  permissions : List (String × String)
  deriving DecidableEq, Repr

/-- `ROLES`; the permissions `*` of the first are all of them. -/
def seededRoles : List SeededRole :=
  [{ name := "admin", permissions := seededPermissions },
   { name := "operator"
     permissions :=
      [("node", "create"), ("node", "read"), ("node", "update"), ("node", "transition"),
       ("group", "read"), ("workflow", "read"), ("workflow", "execute"), ("storage", "read"),
       ("system", "read"), ("approval", "read"), ("approval", "vote")] },
   { name := "viewer"
     permissions :=
      [("node", "read"), ("group", "read"), ("workflow", "read"), ("storage", "read"),
       ("system", "read"), ("approval", "read")] },
   { name := "auditor"
     permissions :=
      [("node", "read"), ("group", "read"), ("system", "read"), ("audit", "read"),
       ("audit", "export")] }]

/-- The primary keys that the column defaults draw. -/
structure SeedIds where
  permission : String × String → String
  role : String → String
  admin : String

section Seed

variable (ids : SeedIds)

/-- One turn of the loop of `seed_permissions`. -/
def seedPermission (permissions : Table Permission.id) (p : String × String) :
    Except Exn (Table Permission.id) :=
  if permissions.rows.any (fun row => row.resource = p.1 && row.action = p.2) then .ok permissions
  else
    match permissions.insert? { id := ids.permission p, resource := p.1, action := p.2 } with
    | none => .error .integrityError
    | some permissions => .ok permissions

/-- `perm_map[p]`. -/
def Directory.permissionFor (s : Directory) (p : String × String) : Option Permission :=
  s.permissions.rows.find? (fun row => row.resource = p.1 && row.action = p.2)

/-- One turn of the loop of `seed_roles`. -/
def seedRole (s : Directory) (r : SeededRole) : Except Exn Directory :=
  if (s.roleNamed r.name).isSome then .ok s
  else
    match s.roles.insert? { id := ids.role r.name, name := r.name, isSystemRole := true } with
    | none => .error .integrityError
    | some roles =>
        { s with roles }.link (ids.role r.name)
          (r.permissions.filterMap (fun p => (s.permissionFor p).map Permission.id))

/-- `seed_admin_user`. -/
def seedAdminUser (hashPassword : String → String) (s : Directory) : Except Exn Directory :=
  if s.db.users.rows ≠ [] then .ok s
  else do
    let db ← s.db.addUser
      { id := ids.admin, username := "admin", email := some "admin@localhost",
        passwordHash := hashPassword "admin", role := "admin" }
    .ok ({ s with db }.setColumns ids.admin { roleId := (s.roleNamed "admin").map Role.id })

/-- `seed_database`; the default user groups are not read here. -/
def seedDatabase (hashPassword : String → String) (s : Directory) :
    Except Exn (Unit × Directory) := do
  let permissions ← seededPermissions.foldlM (seedPermission ids) s.permissions
  let s ← seededRoles.foldlM (seedRole ids) { s with permissions }
  let s ← seedAdminUser ids hashPassword s
  .ok ((), s)

end Seed

/-! ## §6. Requests. -/

/-- What a request shows, once the gate has checked it. -/
inductive Credential where
  /-- An access token, by its subject. -/
  | token (sub : String)
  /-- An API key, by the id of its row. -/
  | apiKey (keyId : String)
  deriving DecidableEq, Repr

/-- The end of `authenticate_api_key`: the service account behind a key. -/
def keyHolder (utcnow : Nat) (s : Directory) (keyId : String) : Except Exn String :=
  match s.apiKeys.get? keyId with
  | none => .error (.http 401 "API key not found")
  | some key =>
      if !key.isActive then .error (.http 401 "API key is disabled")
      else if expired key.expiresAt utcnow then .error (.http 401 "API key has expired")
      else
        match s.db.users.get? key.serviceAccountId with
        | none => .error (.http 401 "Service account not found")
        | some user =>
            if !user.isActive then .error (.http 401 "Service account is disabled")
            else if expired (s.columns user.id).expiresAt utcnow then
              .error (.http 401 "Service account has expired")
            else .ok user.id

/-- `request.state.user_id`. -/
def userIdOf (utcnow : Nat) (s : Directory) : Credential → Except Exn String
  | .token sub => .ok sub
  | .apiKey keyId => keyHolder utcnow s keyId

/-- `get_current_user`: an API key is no access token. -/
def tokenUser (s : Directory) : Credential → Except Exn User
  | .token sub => loadUser s.db sub
  | .apiKey _ => .error (.http 401 "Invalid or expired token")

inductive DirectoryOp where
  | createUser (uuid : String) (data : UserCreate)
  | updateUser (userId : String) (data : UserUpdate)
  | deleteUser (userId : String)
  | createRole (uuid : String) (data : RoleCreate)
  | updateRole (roleId : String) (data : RoleUpdate)
  | deleteRole (roleId : String)
  | createServiceAccount (uuid : String) (data : ServiceAccountCreate)
  | updateServiceAccount (accountId : String) (data : ServiceAccountUpdate)
  | deleteServiceAccount (accountId : String)
  | createApiKey (accountId : String) (drawn : DrawnKey) (data : ApiKeyCreate)
  | revokeApiKey (accountId keyId : String)
  /-- An endpoint of `user_groups.py`, with what it leaves in the tables of groups. -/
  | editUserGroups (action : String) (userGroups : List UserGroup)
      (members : List UserGroupMember)
  deriving DecidableEq, Repr

/-- A request. -/
structure DirectoryRequest where
  env : DirectoryEnv
  ctx : RequestContext := {}
  credential : Credential
  op : DirectoryOp

/-- A handler of `users.py`. -/
def asUser (s : Directory) (credential : Credential)
    (handler : User → Except Exn (Unit × Directory)) : Except Exn (Unit × Directory) :=
  tokenUser s credential >>= handler

/-- A handler that requires a permission on users. -/
def withPermission (r : DirectoryRequest) (s : Directory) (action : String)
    (handler : User → Except Exn (Unit × Directory)) : Except Exn (Unit × Directory) := do
  let userId ← userIdOf r.env.utcnow s r.credential
  let user ← requirePermission s "user" action (some userId)
  handler user

/-- The state a handler leaves. -/
def stateOf {α : Type} (result : Except Exn (α × Directory)) : Except Exn (Unit × Directory) :=
  result.map (fun out => ((), out.2))

/-- A handler of `users.py` on the whole state; a new user has the defaults of the columns. -/
def onUsers {α : Type} (s : Directory) (result : Except Exn (α × DB)) :
    Except Exn (Unit × Directory) :=
  result.map (fun out => ((), { s with db := out.2 }))

/-- A request up to its answer. -/
def performRequest (s : Directory) (r : DirectoryRequest) : Except Exn (Unit × Directory) :=
  match r.op with
  | .createUser uuid data =>
      asUser s r.credential (fun user =>
        onUsers (s.setColumns uuid {})
          (createUser r.env.hashPassword r.ctx s.db user uuid data))
  | .updateUser userId data =>
      asUser s r.credential (fun user => onUsers s (updateUser r.ctx s.db user userId data))
  | .deleteUser userId =>
      asUser s r.credential (fun user => onUsers s (deleteUser r.ctx s.db user userId))
  | .createRole uuid data =>
      withPermission r s "create" (fun _ => stateOf (createRole s uuid data))
  | .updateRole roleId data =>
      withPermission r s "update" (fun _ => stateOf (updateRole s roleId data))
  | .deleteRole roleId => withPermission r s "delete" (fun _ => deleteRole s roleId)
  | .createServiceAccount uuid data =>
      withPermission r s "create"
        (fun user => stateOf (createServiceAccount r.env s user uuid data))
  | .updateServiceAccount accountId data =>
      withPermission r s "update" (fun _ => stateOf (updateServiceAccount r.env s accountId data))
  | .deleteServiceAccount accountId =>
      withPermission r s "delete" (fun _ => deleteServiceAccount s accountId)
  | .createApiKey accountId drawn data =>
      withPermission r s "update"
        (fun user => stateOf (createApiKey r.env s user accountId drawn data))
  | .revokeApiKey accountId keyId =>
      withPermission r s "update" (fun _ => revokeApiKey s accountId keyId)
  | .editUserGroups action userGroups members =>
      withPermission r s action (fun _ => .ok ((), { s with
        db := { s.db with userGroups, members } }))

/-- What happens to the tables: a request, or the seeding. -/
inductive DirectoryEvent where
  | request (r : DirectoryRequest)
  | seed (ids : SeedIds) (hashPassword : String → String)

def performEvent (s : Directory) : DirectoryEvent → Except Exn (Unit × Directory)
  | .request r => performRequest s r
  | .seed ids hashPassword => seedDatabase ids hashPassword s

/-- One event in its own session. -/
def eventStep (s : Directory) (e : DirectoryEvent) : Directory :=
  commitOrRollback s (performEvent s e)

/-! ## §7. What a handler that returned has done. -/

section Inversion

variable {s s' : Directory} {x : Unit}

theorem onUsers_ok {α : Type} {result : Except Exn (α × DB)}
    (h : onUsers s result = .ok (x, s')) :
    ∃ a db', result = .ok (a, db') ∧ s' = { s with db := db' } := by
  obtain ⟨⟨a, db'⟩, hresult, heq⟩ := map_eq_ok h
  obtain ⟨-, rfl⟩ := Prod.mk.inj heq
  exact ⟨a, db', hresult, rfl⟩

theorem stateOf_ok {α : Type} {result : Except Exn (α × Directory)}
    (h : stateOf result = .ok (x, s')) : ∃ a, result = .ok (a, s') :=
  map_state_eq_ok h

/-- The user that is loaded is active. -/
theorem loadUser_ok {db : DB} {userId : String} {user : User}
    (h : loadUser db userId = .ok user) :
    user ∈ db.users.rows ∧ user.id = userId ∧ user.isActive = true := by
  unfold loadUser at h
  split at h
  next => cases h
  next u hget =>
    obtain ⟨hu, hid⟩ := Table.get?_eq_some_iff.mp hget
    obtain ⟨hactive, h⟩ := ite_error_eq_ok.mp h
    cases h
    exact ⟨hu, hid, by simpa using hactive⟩

/-- A handler of `users.py` ran for an active user with a token. -/
theorem asUser_ok {credential : Credential} {handler : User → Except Exn (Unit × Directory)}
    (h : asUser s credential handler = .ok (x, s')) :
    ∃ user sub, credential = .token sub ∧ user ∈ s.db.users.rows ∧ user.id = sub ∧
      handler user = .ok (x, s') := by
  obtain ⟨user, huser, hrun⟩ := bind_eq_ok.mp h
  cases credential with
  | apiKey keyId => cases huser
  | token sub =>
      obtain ⟨hu, hid, -⟩ := loadUser_ok huser
      exact ⟨user, sub, rfl, hu, hid, hrun⟩

/-- A handler behind a permission ran. -/
theorem withPermission_ok {r : DirectoryRequest} {action : String}
    {handler : User → Except Exn (Unit × Directory)}
    (h : withPermission r s action handler = .ok (x, s')) :
    ∃ user, handler user = .ok (x, s') := by
  obtain ⟨_, -, h⟩ := bind_eq_ok.mp h
  obtain ⟨user, -, h⟩ := bind_eq_ok.mp h
  exact ⟨user, h⟩

/-- **WHAT A REQUEST THAT WAS CARRIED OUT DID**: the handler of its operation returned. -/
inductive Performed (s : Directory) (r : DirectoryRequest) : Directory → Prop
  | createUser {uuid : String} {data : UserCreate} {current user : User} {db : DB}
      (op : r.op = .createUser uuid data) (actor : r.credential = .token current.id)
      (mem : current ∈ s.db.users.rows)
      (ok : Accounts.createUser r.env.hashPassword r.ctx s.db current uuid data = .ok (user, db)) :
      Performed s r { s.setColumns uuid {} with db := db }
  | updateUser {userId : String} {data : UserUpdate} {current user : User} {db : DB}
      (op : r.op = .updateUser userId data) (actor : r.credential = .token current.id)
      (mem : current ∈ s.db.users.rows)
      (ok : Accounts.updateUser r.ctx s.db current userId data = .ok (user, db)) :
      Performed s r { s with db := db }
  | deleteUser {userId : String} {current : User} {db : DB} (op : r.op = .deleteUser userId)
      (ok : Accounts.deleteUser r.ctx s.db current userId = .ok ((), db)) :
      Performed s r { s with db := db }
  | createRole {uuid : String} {data : RoleCreate} {role : Role} {s' : Directory}
      (op : r.op = .createRole uuid data) (ok : Accounts.createRole s uuid data = .ok (role, s')) :
      Performed s r s'
  | updateRole {roleId : String} {data : RoleUpdate} {role : Role} {s' : Directory}
      (op : r.op = .updateRole roleId data)
      (ok : Accounts.updateRole s roleId data = .ok (role, s')) : Performed s r s'
  | deleteRole {roleId : String} {s' : Directory} (op : r.op = .deleteRole roleId)
      (ok : Accounts.deleteRole s roleId = .ok ((), s')) : Performed s r s'
  | createServiceAccount {uuid : String} {data : ServiceAccountCreate} {current account : User}
      {s' : Directory} (op : r.op = .createServiceAccount uuid data)
      (ok : Accounts.createServiceAccount r.env s current uuid data = .ok (account, s')) :
      Performed s r s'
  | updateServiceAccount {accountId : String} {data : ServiceAccountUpdate} {account : User}
      {s' : Directory} (op : r.op = .updateServiceAccount accountId data)
      (ok : Accounts.updateServiceAccount r.env s accountId data = .ok (account, s')) :
      Performed s r s'
  | deleteServiceAccount {accountId : String} {s' : Directory}
      (op : r.op = .deleteServiceAccount accountId)
      (ok : Accounts.deleteServiceAccount s accountId = .ok ((), s')) : Performed s r s'
  | createApiKey {accountId : String} {drawn : DrawnKey} {data : ApiKeyCreate} {current : User}
      {key : AccountKey} {s' : Directory} (op : r.op = .createApiKey accountId drawn data)
      (ok : Accounts.createApiKey r.env s current accountId drawn data = .ok (key, s')) :
      Performed s r s'
  | revokeApiKey {accountId keyId : String} {s' : Directory}
      (op : r.op = .revokeApiKey accountId keyId)
      (ok : Accounts.revokeApiKey s accountId keyId = .ok ((), s')) : Performed s r s'
  | editUserGroups {action : String} {userGroups : List UserGroup} {members : List UserGroupMember}
      (op : r.op = .editUserGroups action userGroups members) :
      Performed s r { s with db := { s.db with userGroups, members } }

theorem performed {r : DirectoryRequest} (h : performRequest s r = .ok (x, s')) :
    Performed s r s' := by
  unfold performRequest at h
  -- one case for each operation: its gate, then its own result
  split at h
  next hop =>
    obtain ⟨current, _, hactor, hmem, rfl, h⟩ := asUser_ok h
    obtain ⟨user, db, hok, rfl⟩ := onUsers_ok h
    exact .createUser hop hactor hmem hok
  next hop =>
    obtain ⟨current, _, hactor, hmem, rfl, h⟩ := asUser_ok h
    obtain ⟨user, db, hok, rfl⟩ := onUsers_ok h
    exact .updateUser hop hactor hmem hok
  next hop =>
    obtain ⟨current, _, -, -, -, h⟩ := asUser_ok h
    obtain ⟨_, db, hok, rfl⟩ := onUsers_ok h
    exact .deleteUser hop hok
  next hop =>
    obtain ⟨_, h⟩ := withPermission_ok h
    obtain ⟨role, hok⟩ := stateOf_ok h
    exact .createRole hop hok
  next hop =>
    obtain ⟨_, h⟩ := withPermission_ok h
    obtain ⟨role, hok⟩ := stateOf_ok h
    exact .updateRole hop hok
  next hop =>
    obtain ⟨_, hok⟩ := withPermission_ok h
    exact .deleteRole hop hok
  next hop =>
    obtain ⟨current, h⟩ := withPermission_ok h
    obtain ⟨account, hok⟩ := stateOf_ok h
    exact .createServiceAccount hop hok
  next hop =>
    obtain ⟨_, h⟩ := withPermission_ok h
    obtain ⟨account, hok⟩ := stateOf_ok h
    exact .updateServiceAccount hop hok
  next hop =>
    obtain ⟨_, hok⟩ := withPermission_ok h
    exact .deleteServiceAccount hop hok
  next hop =>
    obtain ⟨current, h⟩ := withPermission_ok h
    obtain ⟨key, hok⟩ := stateOf_ok h
    exact .createApiKey hop hok
  next hop =>
    obtain ⟨_, hok⟩ := withPermission_ok h
    exact .revokeApiKey hop hok
  next hop =>
    obtain ⟨_, h⟩ := withPermission_ok h
    obtain ⟨-, rfl⟩ := ok_pair_inj h
    exact .editUserGroups hop

/-- The columns that are written. -/
theorem setColumns_columns_self (userId : String) (c : RoleColumns) :
    (s.setColumns userId c).columns userId = c :=
  if_pos rfl

theorem setColumns_columns_of_ne {userId id : String} (c : RoleColumns) (h : id ≠ userId) :
    (s.setColumns userId c).columns id = s.columns id :=
  if_neg h

theorem addUser_ok {db db' : DB} {user : User} (h : db.addUser user = .ok db') :
    db'.users.rows = db.users.rows ++ [user] ∧ ∀ u ∈ db.users.rows, u.id ≠ user.id := by
  unfold DB.addUser at h
  obtain ⟨-, h⟩ := ite_error_eq_ok.mp h
  split at h
  next users hins =>
    cases h
    obtain ⟨hnew, hrows⟩ := Table.insert?_eq_some_iff.mp hins
    exact ⟨hrows, hnew⟩
  next => cases h

/-- **A USER IS CREATED** by an admin. -/
theorem createUser_user {hashPassword : String → String} {ctx : RequestContext} {db db' : DB}
    {current user : User} {uuid : String} {data : UserCreate}
    (h : createUser hashPassword ctx db current uuid data = .ok (user, db')) :
    current.role = "admin" ∧ user.id = uuid ∧ user.role = data.role ∧ user.isActive = true ∧
      db'.users.rows = db.users.rows ++ [user] ∧ (∀ u ∈ db.users.rows, u.id ≠ user.id) ∧
      user.isServiceAccount = false := by
  unfold createUser at h
  obtain ⟨hadmin, h⟩ := ite_error_eq_ok.mp h
  obtain ⟨-, h⟩ := ite_error_eq_ok.mp h
  obtain ⟨-, h⟩ := ite_error_eq_ok.mp h
  obtain ⟨-, h⟩ := ite_error_eq_ok.mp h
  obtain ⟨-, h⟩ := ite_error_eq_ok.mp h
  obtain ⟨db₁, hadd, h⟩ := bind_eq_ok.mp h
  obtain ⟨rfl, rfl⟩ := ok_pair_inj h
  obtain ⟨hrows, hnew⟩ := addUser_ok hadd
  exact ⟨not_not.mp hadmin, rfl, rfl, rfl, hrows, hnew, rfl⟩

theorem roleFor_ok {roleId : String} {role : Role} (h : s.roleFor roleId = .ok role) :
    role ∈ s.roles.rows ∧ role.id = roleId := by
  unfold Directory.roleFor at h
  split at h
  next => cases h
  next r hget =>
    cases h
    exact Table.get?_eq_some_iff.mp hget

theorem initialRole_ok {roleId : Option String} {name : String}
    (h : s.initialRole roleId = .ok name) :
    ((roleId = none ∨ roleId = some "") ∧ name = "viewer") ∨
      ∃ role ∈ s.roles.rows, role.id ≠ "" ∧ roleId = some role.id ∧ name = role.name := by
  unfold Directory.initialRole at h
  split at h
  next => exact .inl ⟨.inl rfl, (Except.ok.inj h).symm⟩
  next => exact .inl ⟨.inr rfl, (Except.ok.inj h).symm⟩
  next roleId hne =>
    obtain ⟨role, hrole, rfl⟩ := map_eq_ok h
    obtain ⟨hmem, rfl⟩ := roleFor_ok hrole
    exact .inr ⟨role, hmem, fun heq => hne (by rw [heq]), rfl, rfl⟩

theorem updateRoleOf_ok {account : User} {given roleId : Option String} {name : String}
    (h : s.updateRoleOf account given = .ok (name, roleId)) :
    (given = none ∧ name = account.role ∧ roleId = s.roleIdOf account) ∨
      ∃ role ∈ s.roles.rows, given = some role.id ∧ name = role.name ∧ roleId = some role.id := by
  unfold Directory.updateRoleOf at h
  split at h
  next =>
    obtain ⟨hname, hid⟩ := Prod.mk.inj (Except.ok.inj h)
    exact .inl ⟨rfl, hname.symm, hid.symm⟩
  next rid =>
    obtain ⟨role, hrole, heq⟩ := map_eq_ok h
    obtain ⟨hmem, rfl⟩ := roleFor_ok hrole
    obtain ⟨hname, hid⟩ := Prod.mk.inj heq
    exact .inr ⟨role, hmem, rfl, hname.symm, hid.symm⟩

/-- **A SERVICE ACCOUNT IS CREATED**, with a role that is there, or as a viewer. -/
theorem createServiceAccount_ok {env : DirectoryEnv} {current account : User} {uuid : String}
    {data : ServiceAccountCreate}
    (h : createServiceAccount env s current uuid data = .ok (account, s')) :
    account.id = uuid ∧ account.isActive = true ∧
      s.initialRole data.roleId = .ok account.role ∧
      (∃ db c, s' = { s with db }.setColumns uuid c ∧ c.roleId = data.roleId ∧
        db.users.rows = s.db.users.rows ++ [account]) ∧
      (∀ u ∈ s.db.users.rows, u.id ≠ uuid) ∧
      parseExpiry env data.expiresAt = .ok (s'.columns uuid).expiresAt ∧
      account.isServiceAccount = true ∧ account.username = data.username ∧
      account.authSource = .local ∧
      account.passwordHash = env.hashPassword ("svc-" ++ data.username ++ "-disabled") := by
  unfold createServiceAccount at h
  obtain ⟨-, h⟩ := ite_error_eq_ok.mp h
  obtain ⟨role, hrole, h⟩ := bind_eq_ok.mp h
  obtain ⟨expiresAt, hexpiry, h⟩ := bind_eq_ok.mp h
  obtain ⟨db, hadd, h⟩ := bind_eq_ok.mp h
  obtain ⟨rfl, rfl⟩ := ok_pair_inj h
  obtain ⟨hrows, hnew⟩ := addUser_ok hadd
  refine ⟨rfl, rfl, hrole, ⟨db, _, rfl, rfl, hrows⟩, hnew, ?_, rfl, rfl, rfl, rfl⟩
  rw [setColumns_columns_self]
  exact hexpiry

theorem serviceAccount_ok {accountId : String} {account : User}
    (h : s.serviceAccount accountId = .ok account) :
    account ∈ s.db.users.rows ∧ account.id = accountId := by
  unfold Directory.serviceAccount at h
  split at h
  next => cases h
  next a ha =>
    cases h
    exact Table.get?_eq_some_iff.mp (Option.filter_eq_some_iff.mp ha).1

/-- **A SERVICE ACCOUNT IS UPDATED**: name and id of the role together. -/
theorem updateServiceAccount_ok {env : DirectoryEnv} {account' : User} {accountId : String}
    {data : ServiceAccountUpdate}
    (h : updateServiceAccount env s accountId data = .ok (account', s')) :
    ∃ account ∈ s.db.users.rows, account.id = accountId ∧ account'.id = account.id ∧
      account'.isActive = data.isActive.getD account.isActive ∧
      ∃ roleId c, s.updateRoleOf account data.roleId = .ok (account'.role, roleId) ∧
        c.roleId = roleId ∧ s' = { s with db := s.db.save account' }.setColumns account.id c ∧
        updateExpiry env (s.columns account.id).expiresAt data.expiresAt = .ok c.expiresAt ∧
        account' = { account with role := account'.role, isActive := account'.isActive } := by
  unfold updateServiceAccount at h
  obtain ⟨account, haccount, h⟩ := bind_eq_ok.mp h
  obtain ⟨role, hrole, h⟩ := bind_eq_ok.mp h
  obtain ⟨expiresAt, hexpiry, h⟩ := bind_eq_ok.mp h
  obtain ⟨rfl, rfl⟩ := ok_pair_inj h
  obtain ⟨hmem, hid⟩ := serviceAccount_ok haccount
  exact ⟨account, hmem, hid, rfl, rfl, role.2, _, hrole, rfl, rfl, hexpiry, rfl⟩

theorem deleteServiceAccount_ok {accountId : String}
    (h : deleteServiceAccount s accountId = .ok (x, s')) :
    ∃ db, s' = { s with db } ∧
      ∀ u ∈ db.users.rows, u ∈ s.db.users.rows ∧ u.id ≠ accountId := by
  unfold deleteServiceAccount at h
  obtain ⟨account, haccount, h⟩ := bind_eq_ok.mp h
  obtain ⟨-, rfl⟩ := ok_pair_inj h
  refine ⟨_, rfl, fun u hu => ?_⟩
  obtain ⟨hmem, hne⟩ := Table.mem_delete.mp hu
  rw [(serviceAccount_ok haccount).2, decide_eq_false_iff_not] at hne
  exact ⟨hmem, hne⟩

/-- **A KEY IS CREATED**, for a service account that is there; its prefix is a new one. -/
theorem createApiKey_ok {env : DirectoryEnv} {current : User} {accountId : String}
    {drawn : DrawnKey} {data : ApiKeyCreate} {key : AccountKey}
    (h : createApiKey env s current accountId drawn data = .ok (key, s')) :
    key.id = drawn.id ∧ key.serviceAccountId = accountId ∧ key.keyHash = drawn.keyHash ∧
      key.keyPrefix = drawn.keyPrefix ∧ parseExpiry env data.expiresAt = .ok key.expiresAt ∧
      (∀ k ∈ s.apiKeys.rows, k.keyPrefix ≠ drawn.keyPrefix) ∧
      ∃ apiKeys, s' = { s with apiKeys } ∧ apiKeys.rows = s.apiKeys.rows ++ [key] := by
  unfold createApiKey at h
  obtain ⟨account, haccount, h⟩ := bind_eq_ok.mp h
  obtain ⟨-, h⟩ := ite_error_eq_ok.mp h
  obtain ⟨expiresAt, hexpiry, h⟩ := bind_eq_ok.mp h
  obtain ⟨hunused, h⟩ := ite_error_eq_ok.mp h
  split at h
  next => cases h
  next apiKeys hins =>
    obtain ⟨rfl, rfl⟩ := ok_pair_inj h
    refine ⟨rfl, (serviceAccount_ok haccount).2, rfl, rfl, hexpiry, ?_, apiKeys, rfl,
      (Table.insert?_eq_some_iff.mp hins).2⟩
    intro k hk hsame
    exact hunused (List.any_eq_true.mpr ⟨k, hk, decide_eq_true hsame⟩)

/-- A key is revoked: the other keys stay. -/
theorem revokeApiKey_ok {accountId keyId : String}
    (h : revokeApiKey s accountId keyId = .ok (x, s')) :
    s' = { s with apiKeys := s.apiKeys.delete (fun k => k.id = keyId) } := by
  unfold revokeApiKey at h
  split at h
  next => cases h
  next => exact (ok_pair_inj h).2.symm

end Inversion

end PureBoot.Accounts
