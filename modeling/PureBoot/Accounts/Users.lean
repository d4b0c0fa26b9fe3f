/-
  PureBoot.Accounts.Users — user accounts, the AUDIT TRAIL, and the endpoints that
  administer users.

  Embeds the rows of `db/models.py` (`User`, `RefreshToken`, `AuditLog`, `UserGroup`,
  `UserGroupMember`, `LdapConfig`), `services/audit.py: audit_action`, `api/routes/auth.py:
  get_current_user` and `api/routes/users.py` (`create_user`, `update_user`,
  `delete_user`).  An endpoint takes the database it sees and returns its answer with
  the database it flushed, or the exception it raised; the session flushes before every
  query, so a later check of one request sees what an earlier part of it has written.

  `request.state` is a bag of attributes.  The gate stores four texts in it, and
  `audit_action` looks for a fifth attribute.
-/
import PureBoot.Lib.Run
import PureBoot.Web.Auth

namespace PureBoot.Accounts

open PureBoot.Lib PureBoot.Web

/-! ## §1. Rows. -/

/-- `User.auth_source`. -/
inductive AuthSource where
  | local
  | ldap
  | ad
  deriving DecidableEq, Repr

/-- `db/models.py: User`; times are UTC microseconds. -/
structure User where
  id : String
  username : String
  email : Option String := none
  passwordHash : String
  role : String := "viewer"
  isServiceAccount : Bool := false
  authSource : AuthSource := .local
  isActive : Bool := true
  failedLoginAttempts : Nat := 0
  lockedUntil : Option Int := none
  lastLoginAt : Option Int := none
  deriving DecidableEq, Repr

/-- What decides a login is the same for both users. -/
structure SameLogin (user user' : User) : Prop where
  username : user'.username = user.username
  passwordHash : user'.passwordHash = user.passwordHash
  isServiceAccount : user'.isServiceAccount = user.isServiceAccount
  authSource : user'.authSource = user.authSource

theorem SameLogin.trans {u v w : User} (h : SameLogin u v) (h' : SameLogin v w) :
    SameLogin u w where
  username := h'.username.trans h.username
  passwordHash := h'.passwordHash.trans h.passwordHash
  isServiceAccount := h'.isServiceAccount.trans h.isServiceAccount
  authSource := h'.authSource.trans h.authSource

structure RefreshToken where
  id : String
  userId : String
  tokenHash : String
  expiresAt : Int
  deriving DecidableEq, Repr

/-- `AuditLog.actor_type`, as far as `audit_action` writes it. -/
inductive ActorType where
  | user
  | serviceAccount
  | anonymous
  deriving DecidableEq, Repr

/-- `AuditLog.result`. -/
inductive AuditResult where
  | success
  | failure
  deriving DecidableEq, Repr

/-- A value in the `details` of an audit record. -/
inductive DetailValue where
  | text (s : String)
  | num (n : Nat)
  | texts (xs : List String)
  deriving DecidableEq, Repr

deriving instance DecidableEq, Repr for AuthMethod

structure AuditLog where
  actorId : Option String
  actorType : ActorType
  actorUsername : String
  actorIp : Option String
  action : String
  resourceType : String
  resourceId : Option String
  resourceName : Option String
  details : List (String × DetailValue)
  result : AuditResult
  errorMessage : Option String
  authMethod : Option AuthMethod
  deriving DecidableEq, Repr

/-- The columns of `UserGroup` that are used here. -/
structure UserGroup where
  id : String
  ldapGroupDn : Option String := none
  deriving DecidableEq, Repr

structure UserGroupMember where
  userId : String
  userGroupId : String
  deriving DecidableEq, Repr

/-- The columns of `LdapConfig` that decide which servers are asked. -/
structure LdapConfig where
  id : String
  isActive : Bool := true
  isPrimary : Bool := false
  deriving DecidableEq, Repr

structure DB where
  users : Table User.id := Table.empty
  refreshTokens : Table RefreshToken.id := Table.empty
  auditLogs : List AuditLog := []
  userGroups : List UserGroup := []
  members : List UserGroupMember := []
  ldapConfigs : List LdapConfig := []
  deriving DecidableEq

namespace DB

/-- Flush a changed user. -/
def save (db : DB) (user : User) : DB := { db with users := db.users.put user }

/-- `select(User).where(User.username == …)`; the column is unique. -/
def userByName (db : DB) (username : String) : Option User :=
  db.users.rows.find? (fun u => u.username = username)

end DB

inductive Exn where
  | http (statusCode : Nat) (detail : String)
  | typeError (message : String)
  | keyError (key : String)
  | integrityError
  /-- Of the library for bcrypt. -/
  | valueError
  deriving DecidableEq, Repr

/-! ## §2. The audit trail. -/

/-- A value in `request.state`. -/
inductive Attribute where
  | text (t : Option (List Char))
  | method (m : AuthMethod)
  | user (u : User)

/-- What a handler gets of a request. -/
structure RequestContext where
  /-- `request.state`. -/
  state : List (String × Attribute) := []
  /-- `request.client.host`. -/
  clientHost : Option String := none

/-- The attributes the gate sets. -/
def gateState : Option Identity → List (String × Attribute)
  | none => []
  | some who =>
      [("user_id", .text who.userId), ("username", .text who.username),
       ("role", .text who.role), ("auth_method", .method who.authMethod)]

/-- `getattr(request.state, "user", None)`. -/
def RequestContext.user (ctx : RequestContext) : Option User :=
  match ctx.state.lookup "user" with
  | some (.user u) => some u
  | _ => none

/-- `getattr(request.state, "auth_method", None)`. -/
def RequestContext.authMethod (ctx : RequestContext) : Option AuthMethod :=
  match ctx.state.lookup "auth_method" with
  | some (.method m) => some m
  | _ => none

/-- The arguments of `audit_action`. -/
structure AuditEntry where
  action : String
  resourceType : String
  resourceId : Option String := none
  resourceName : Option String := none
  details : List (String × DetailValue) := []
  result : AuditResult := .success
  errorMessage : Option String := none

/-- The row that `audit_action` adds. -/
def auditAction (ctx : RequestContext) (entry : AuditEntry) : AuditLog where
  actorId := ctx.user.map User.id
  actorType :=
    match ctx.user with
    | some user => if user.isServiceAccount then .serviceAccount else .user
    | none => .anonymous
  actorUsername := (ctx.user.map User.username).getD "anonymous"
  actorIp := ctx.clientHost
  action := entry.action
  resourceType := entry.resourceType
  resourceId := entry.resourceId
  resourceName := entry.resourceName
  details := entry.details
  result := entry.result
  errorMessage := entry.errorMessage
  authMethod := ctx.authMethod

/-- `audit_action`, as far as the database goes. -/
def DB.audit (db : DB) (ctx : RequestContext) (entry : AuditEntry) : DB :=
  { db with auditLogs := db.auditLogs ++ [auditAction ctx entry] }

/-! ## §3. The current user. -/

/-- `get_current_user`. -/
def getCurrentUser (env : AuthEnv) (db : DB) (authorization : Option (List Char)) :
    Except Exn User :=
  match authorization with
  | none => .error (.http 401 "Not authenticated")
  | some header =>
      if ¬ "Bearer ".toList <+: header then .error (.http 401 "Not authenticated")
      else
        match verifyAccessToken env (header.drop 7) with
        | none | some [] => .error (.http 401 "Invalid or expired token")
        | some payload =>
            match payload.lookup "sub" with
            | none => .error (.keyError "sub")
            | some sub =>
                match db.users.get? (String.ofList sub) with
                | none => .error (.http 401 "User not found")
                | some user =>
                    if !user.isActive then .error (.http 401 "Account disabled") else .ok user

/-! ## §4. Users. -/

/-- `VALID_ROLES` (a set: the order in the error text is Python's). -/
def validRoles : List String := ["admin", "operator", "approver", "viewer"]

def invalidRole : String := "Invalid role. Must be one of: " ++ String.intercalate ", " validRoles

structure UserCreate where
  username : String
  email : Option String := none
  password : String
  role : String := "viewer"
  deriving DecidableEq, Repr

/-- `UserUpdate`; null leaves a field alone. -/
structure UserUpdate where
  email : Option String := none
  role : Option String := none
  isActive : Option Bool := none
  deriving DecidableEq, Repr

/-- The unique columns of a new row. -/
def DB.addUser (db : DB) (user : User) : Except Exn DB :=
  if db.users.rows.any (fun u => u.username = user.username)
      || db.users.rows.any (fun u => u.email.isSome && u.email = user.email) then
    .error .integrityError
  else
    match db.users.insert? user with
    | some users => .ok { db with users }
    | none => .error .integrityError

/-- `create_user`; `uuid` is the primary key the column default draws. -/
def createUser (hashPassword : String → String) (ctx : RequestContext) (db : DB) (current : User)
    (uuid : String) (data : UserCreate) : Except Exn (User × DB) :=
  if current.role ≠ "admin" then .error (.http 403 "Admin access required")
  else if data.role ∉ validRoles then .error (.http 400 invalidRole)
  else if (db.userByName data.username).isSome then
    .error (.http 400 "Username already exists")
  else if (data.email.any (fun email => email ≠ "" &&
      db.users.rows.any (fun u => u.email = some email))) then
    .error (.http 400 "Email already exists")
  else if data.password.length < 8 then
    .error (.http 400 "Password must be at least 8 characters")
  else do
    let user : User :=
      { id := uuid, username := data.username, email := data.email,
        passwordHash := hashPassword data.password, role := data.role }
    let db ← db.addUser user
    .ok (user, db.audit ctx
      { action := "create", resourceType := "user", resourceId := some user.id,
        resourceName := some user.username })

/-- The users with role `admin`. -/
def DB.adminCount (db : DB) : Nat := db.users.rows.countP (fun u => u.role = "admin")

/-- Those of them that are active. -/
def DB.activeAdminCount (db : DB) : Nat :=
  db.users.rows.countP (fun u => u.role = "admin" && u.isActive)

/-- The email part of `update_user`. -/
def applyEmail (db : DB) (user : User) : Option String → Except Exn User
  | none => .ok user
  | some email =>
      if email ≠ "" ∧ db.users.rows.any (fun u => u.email = some email && u.id ≠ user.id) then
        .error (.http 400 "Email already exists")
      else .ok { user with email := if email = "" then none else some email }

/-- Its role part: the last admin keeps the role. -/
def applyRole (db : DB) (user : User) : Option String → Except Exn User
  | none => .ok user
  | some role =>
      if role ∉ validRoles then .error (.http 400 invalidRole)
      -- counts the admins that are not active, too
      else if user.role = "admin" ∧ role ≠ "admin" ∧ db.adminCount ≤ 1 then
        .error (.http 400 "Cannot demote last admin")
      else .ok { user with role }

/-- Its status part: the last active admin stays active. -/
def applyActive (db : DB) (user : User) : Option Bool → Except Exn User
  | none => .ok user
  | some isActive =>
      if user.role = "admin" ∧ isActive = false ∧ db.activeAdminCount ≤ 1 then
        .error (.http 400 "Cannot disable last active admin")
      else .ok { user with isActive }

/-- The names of the fields that are set. -/
def UserUpdate.fields (data : UserUpdate) : List String :=
  (if data.email.isSome then ["email"] else []) ++ (if data.role.isSome then ["role"] else [])
    ++ (if data.isActive.isSome then ["is_active"] else [])

/-- `update_user`. -/
def updateUser (ctx : RequestContext) (db : DB) (current : User) (userId : String)
    (data : UserUpdate) : Except Exn (User × DB) :=
  if current.id ≠ userId ∧ current.role ≠ "admin" then .error (.http 403 "Access denied")
  else
    match db.users.get? userId with
    | none => .error (.http 404 "User not found")
    | some user =>
        if current.role ≠ "admin" then
          if data.role.isSome ∨ data.isActive.isSome then
            .error (.http 403 "Only admins can change role or status")
          else do
            let user ← applyEmail db user data.email
            .ok (user, audited user (db.save user))
        else do
          let user ← applyEmail db user data.email
          let user ← applyRole (db.save user) user data.role
          -- the new role is flushed before the active admins are counted
          let user ← applyActive (db.save user) user data.isActive
          .ok (user, audited user (db.save user))
where
  audited (user : User) (db : DB) : DB :=
    if data.fields = [] then db
    else db.audit ctx
      { action := "update", resourceType := "user", resourceId := some user.id,
        resourceName := some user.username, details := [("updated_fields", .texts data.fields)] }

/-- `delete_user`. -/
def deleteUser (ctx : RequestContext) (db : DB) (current : User) (userId : String) :
    Except Exn (Unit × DB) :=
  if current.role ≠ "admin" then .error (.http 403 "Admin access required")
  else if current.id = userId then .error (.http 400 "Cannot delete yourself")
  else
    match db.users.get? userId with
    | none => .error (.http 404 "User not found")
    | some user =>
        if user.role = "admin" ∧ db.adminCount ≤ 1 then
          .error (.http 400 "Cannot delete last admin")
        else
          .ok ((), { db with
              users := db.users.delete (fun u => u.id = userId)
              refreshTokens := db.refreshTokens.delete (fun t => t.userId = userId)
              -- `ON DELETE CASCADE`
              members := db.members.filter (fun m => m.userId ≠ userId) }.audit ctx
            { action := "delete", resourceType := "user", resourceId := some userId,
              resourceName := some user.username })

/-! ## §5. Requests. -/

inductive Op where
  | createUser (uuid : String) (data : UserCreate)
  | updateUser (userId : String) (data : UserUpdate)
  | deleteUser (userId : String)
  deriving DecidableEq, Repr

/-- A request, with the server that checks its token. -/
structure Request where
  env : AuthEnv
  hashPassword : String → String
  authorization : Option (List Char)
  ctx : RequestContext := {}
  op : Op

/-- A request by the user `current`. -/
def performAs (current : User) (db : DB) (r : Request) : DB :=
  match r.op with
  | .createUser uuid data =>
      commitOrRollback db (createUser r.hashPassword r.ctx db current uuid data)
  | .updateUser userId data => commitOrRollback db (updateUser r.ctx db current userId data)
  | .deleteUser userId => commitOrRollback db (deleteUser r.ctx db current userId)

/-- One request in its own session (`get_db`). -/
def exec (db : DB) (r : Request) : DB :=
  match getCurrentUser r.env db r.authorization with
  | .error _ => db
  | .ok current => performAs current db r

/-! ## §6. Who did it. -/

/-- The audit record names the user whom the gate has identified. -/
structure Attributed (who : Identity) (row : AuditLog) : Prop where
  actorId : row.actorId.map String.toList = who.userId
  actorUsername : some row.actorUsername.toList = who.username
  actorType : row.actorType = .user ∨ row.actorType = .serviceAccount

/-- What the handler of a request gets from the gate. -/
def contextOf (r : Web.Request) : Dispatched → RequestContext
  | .passed who => { state := gateState who, clientHost := r.client }
  | _ => { clientHost := r.client }

/-- The gate stores no attribute `user`. -/
theorem user_contextOf (r : Web.Request) (d : Dispatched) : (contextOf r d).user = none := by
  cases d with
  | passed who => cases who <;> rfl
  | refused status detail => rfl
  | raised => rfl

/-- An audit record without a user is anonymous. -/
theorem actorType_of_no_user {ctx : RequestContext} (h : ctx.user = none) (entry : AuditEntry) :
    (auditAction ctx entry).actorType = .anonymous := by
  unfold auditAction
  rw [h]

theorem not_attributed_of_anonymous {who : Identity} {row : AuditLog}
    (h : row.actorType = .anonymous) : ¬ Attributed who row := by
  intro hattributed
  rcases hattributed.actorType with huser | hservice
  · rw [h] at huser
    cases huser
  · rw [h] at hservice
    cases hservice

/-- **NO AUDIT RECORD IS ATTRIBUTED**: whatever a handler records for a request that the gate
has passed on with an identity, the actor is anonymous. -/
theorem never_attributed (env : AuthEnv) (db : AuthDb) (r : Web.Request) (who : Identity)
    (h : (dispatch env db r).1 = .passed (some who)) (entry : AuditEntry) :
    ¬ Attributed who (auditAction (contextOf r (dispatch env db r).1) entry) := by
  rw [h]
  exact not_attributed_of_anonymous (actorType_of_no_user (user_contextOf r _) entry)

/-- A server that takes `t` for the token of an admin. -/
def adminTokenEnv : AuthEnv :=
  { oneTokenEnv with
    jwtDecode := fun token =>
      if token = "t".toList then
        some [("sub", "1".toList), ("username", "ann".toList), ("role", "admin".toList)]
      else none }

/-- A request with this token. -/
def tokenRequest : Web.Request where
  method := "DELETE"
  path := "/api/v1/users/2".toList
  host := "10.0.0.1:8080".toList
  authorization := some "Bearer t".toList

/-- The identity behind it. -/
def tokenIdentity : Identity where
  userId := some "1".toList
  username := some "ann".toList
  role := some "admin".toList
  authMethod := .jwt

/-- The record of a deletion with a token. -/
theorem never_attributed_delete :
    (dispatch adminTokenEnv {} tokenRequest).1 = .passed (some tokenIdentity) ∧
      ¬ Attributed tokenIdentity
        (auditAction (contextOf tokenRequest (dispatch adminTokenEnv {} tokenRequest).1)
          { action := "delete", resourceType := "user" }) :=
  ⟨rfl, never_attributed adminTokenEnv {} tokenRequest tokenIdentity rfl _⟩

/-- It is passed on for user 1, and the actor is anonymous. -/
theorem deletion_is_anonymous :
    (dispatch adminTokenEnv {} tokenRequest).1 = .passed (some tokenIdentity) ∧
      (auditAction (contextOf tokenRequest (.passed (some tokenIdentity)))
        { action := "delete", resourceType := "user" }).actorType = .anonymous ∧
      (auditAction (contextOf tokenRequest (.passed (some tokenIdentity)))
        { action := "delete", resourceType := "user" }).actorId = none :=
  ⟨rfl, rfl, rfl⟩

end PureBoot.Accounts
