/-
  PureBoot.Accounts.Login — LOGGING IN, and refreshing a token.

  Embeds `login`, `refresh_tokens` and `verify_password` of `api/routes/auth.py`,
  `authenticate` and `sync_user_groups` of `services/ldap.py` and `AuditService.log`.
  The LDAP servers, bcrypt, SHA-256 and the random tokens are parameters (`LoginEnv`).

  A handler that raises has already written: its session is rolled back (`get_db`), but
  the copies of its audit records that went to a file or to the SIEM are out
  (`Server.outside`).

  Main results:
    * `login_outcome` — what a login comes to, by what is stored;
    * `tokens_safe_iff` — when disabled and locked accounts get no tokens.
-/
import PureBoot.Accounts.Users

namespace PureBoot.Accounts

open PureBoot.Lib

/-! ## §1. The environment of a request. -/

/-- A minute, in microseconds. -/
def minute : Int := 60 * 1000000

/-- `ACCESS_TOKEN_EXPIRY_MINUTES`. -/
def accessTokenExpiryMinutes : Int := 15

/-- `REFRESH_TOKEN_EXPIRY_DAYS`. -/
def refreshTokenExpiryDays : Int := 7

/-- `MAX_FAILED_ATTEMPTS`. -/
def maxFailedAttempts : Nat := 5

/-- `LOCKOUT_DURATION_MINUTES`. -/
def lockoutDurationMinutes : Int := 15

/-- `services/ldap.py: LdapUser`, without the fields that no handler reads. -/
structure LdapUser where
  username : String
  groups : List String := []
  deriving DecidableEq, Repr

/-- `AuditService`: the destinations beside the database. -/
structure AuditService where
  /-- `file_path` is set. -/
  file : Bool := false
  /-- `siem_webhook_url` is set. -/
  siem : Bool := false

/-- What a request gets from elsewhere. -/
structure LoginEnv where
  now : Int
  /-- `ldap3` is installed. -/
  ldapAvailable : Bool := true
  /-- `_authenticate_with_config`. -/
  ldapServer : LdapConfig → String → String → Option LdapUser
  /-- `BCRYPT_AVAILABLE`. -/
  bcryptAvailable : Bool := true
  /-- `bcrypt.checkpw`; `none` is its exception. -/
  checkpw : String → String → Option Bool
  /-- `hashlib.sha256(…).hexdigest()`. -/
  sha256 : String → String
  /-- `create_refresh_token`. -/
  refreshToken : String
  /-- The primary key of the refresh token. -/
  uuid : String
  /-- A write to the audit file succeeds. -/
  fileTaken : Bool := true
  /-- The webhook takes the record. -/
  siemTaken : Bool := true

structure LoginRequest where
  username : String
  password : String
  deriving DecidableEq, Repr

/-- The claims of an access token. -/
structure AccessToken where
  sub : String
  username : String
  role : String
  exp : Int
  deriving DecidableEq, Repr

/-- The body and the cookie of the answer. -/
structure Tokens where
  accessToken : AccessToken
  refreshToken : String
  deriving DecidableEq, Repr

structure Server where
  db : DB
  /-- The copies of audit records in the file and at the SIEM. -/
  outside : List AuditLog := []

/-! ## §2. Steps of a login. -/

/-- `LdapService.authenticate`: the active servers, primary ones first. -/
def ldapAuthenticate (env : LoginEnv) (db : DB) (username password : String) : Option LdapUser :=
  if env.ldapAvailable then
    let active := db.ldapConfigs.filter LdapConfig.isActive
    (active.filter LdapConfig.isPrimary ++ active.filter (fun c => !c.isPrimary)).findSome?
      (fun config => env.ldapServer config username password)
  else none

/-- `sync_user_groups`. -/
def syncUserGroups (db : DB) (user : User) (ldapGroups : List String) : DB :=
  let mapped := db.userGroups.filter (fun g => g.ldapGroupDn.isSome)
  let target := mapped.filter (fun g => g.ldapGroupDn.any ldapGroups.contains)
  let current := db.members.filter (fun m => m.userId = user.id)
  let missing := target.filter (fun g => current.all (fun m => m.userGroupId ≠ g.id))
  let stale (m : UserGroupMember) : Bool :=
    m.userId = user.id && mapped.any (fun g => g.id = m.userGroupId)
      && target.all (fun g => g.id ≠ m.userGroupId)
  { db with members := db.members.filter (fun m => !stale m)
      ++ missing.map (fun g => ⟨user.id, g.id⟩) }

/-- `verify_password`. -/
def verifyPassword (env : LoginEnv) (password passwordHash : String) : Except Exn Bool :=
  if env.bcryptAvailable && "$2".toList.isPrefixOf passwordHash.toList then
    match env.checkpw password passwordHash with
    | some ok => .ok ok
    | none => .error .valueError
  else .ok (env.sha256 password = passwordHash)

/-- `create_access_token`, before it is signed. -/
def createAccessToken (env : LoginEnv) (user : User) : AccessToken where
  sub := user.id
  username := user.username
  role := user.role
  exp := env.now + accessTokenExpiryMinutes * minute

/-- `user.locked_until and now < user.locked_until`. -/
def User.isLocked (user : User) (now : Int) : Bool := user.lockedUntil.any (fun t => now < t)

/-- The copies of an audit record. -/
def AuditService.copies (service : AuditService) (env : LoginEnv) (row : AuditLog) :
    List AuditLog :=
  (if service.file && env.fileTaken then [row] else [])
    ++ (if service.siem && env.siemTaken then [row] else [])

/-- `audit_action` with all its destinations. -/
def Server.audit (s : Server) (service : AuditService) (env : LoginEnv) (ctx : RequestContext)
    (entry : AuditEntry) : Server where
  db := s.db.audit ctx entry
  outside := s.outside ++ service.copies env (auditAction ctx entry)

section Login

variable (service : AuditService) (env : LoginEnv) (ctx : RequestContext)

/-- A refused login: the audit record, then the exception. -/
def refuse (s : Server) (user : Option User) (username reason : String)
    (details : List (String × DetailValue)) (errorMessage : String) (statusCode : Nat) :
    Except Exn Tokens × Server :=
  (.error (.http statusCode errorMessage), s.audit service env ctx
    { action := "login", resourceType := "session", resourceId := user.map User.id,
      resourceName := some username, details := ("reason", .text reason) :: details,
      result := .failure, errorMessage := some errorMessage })

/-- The refresh token that is stored. -/
def refreshRecord (user : User) : RefreshToken where
  id := env.uuid
  userId := user.id
  tokenHash := env.sha256 env.refreshToken
  expiresAt := env.now + refreshTokenExpiryDays * (24 * 60 * minute)

/-- Neither the id nor the hash of the new refresh token is in the table. -/
def tokenFits (db : DB) : Bool :=
  db.refreshTokens.rows.all (fun t => t.id ≠ env.uuid && t.tokenHash ≠ env.sha256 env.refreshToken)

/-- The end of a login, where both ways meet. -/
def issueTokens (s : Server) (user : User) (authSource : String) : Except Exn Tokens × Server :=
  if s.db.refreshTokens.rows.any (fun t => t.tokenHash = env.sha256 env.refreshToken) then
    (.error .integrityError, s)
  else
    match s.db.refreshTokens.insert? (refreshRecord env user) with
    | none => (.error .integrityError, s)
    | some refreshTokens =>
        (.ok ⟨createAccessToken env user, env.refreshToken⟩,
          { s with db := { s.db with refreshTokens } }.audit service env ctx
            { action := "login", resourceType := "session", resourceId := some user.id,
              resourceName := some user.username, details := [("auth_source", .text authSource)] })

/-- `login`, once an LDAP server has accepted the credentials. -/
def loginLdap (s : Server) (ldapUser : LdapUser) : Except Exn Tokens × Server :=
  match s.db.userByName ldapUser.username with
  | none =>
      -- `User(…, display_name=…)`: there is no such column
      (.error (.typeError "'display_name' is an invalid keyword argument for User"), s)
  | some user =>
      let user' := { user with lastLoginAt := some env.now }
      issueTokens service env ctx
        { s with db := (syncUserGroups s.db user ldapUser.groups).save user' } user' "ldap"

/-- `login`, with the password of a local account. -/
def loginLocal (s : Server) (data : LoginRequest) : Except Exn Tokens × Server :=
  match s.db.userByName data.username with
  | none =>
      refuse service env ctx s none data.username "User not found" [] "Invalid credentials" 401
  | some user =>
      if user.authSource = .ldap then
        refuse service env ctx s (some user) user.username "LDAP user attempted local auth" []
          "LDAP authentication required" 401
      else if user.isLocked env.now then
        -- `timedelta.seconds` leaves whole days out
        let remaining := (user.lockedUntil.getD env.now - env.now) / 1000000 % 86400 / 60
        let text := "Account locked. Try again in " ++ toString remaining ++ " minutes."
        refuse service env ctx s (some user) user.username "Account locked"
          [("remaining_minutes", .num remaining.toNat)] text 423
      else if !user.isActive then
        refuse service env ctx s (some user) user.username "Account disabled" []
          "Account disabled" 401
      else
        match verifyPassword env data.password user.passwordHash with
        | .error e => (.error e, s)
        | .ok false =>
            let attempts := user.failedLoginAttempts + 1
            let user' := { user with
              failedLoginAttempts := attempts
              lockedUntil :=
                if maxFailedAttempts ≤ attempts then
                  some (env.now + lockoutDurationMinutes * minute)
                else user.lockedUntil }
            refuse service env ctx { s with db := s.db.save user' } (some user') user.username
              "Invalid password" [("failed_attempts", .num attempts)] "Invalid credentials" 401
        | .ok true =>
            let user' := { user with
              failedLoginAttempts := 0, lockedUntil := none, lastLoginAt := some env.now }
            issueTokens service env ctx { s with db := s.db.save user' } user' "local"

/-- `login`. -/
def login (s : Server) (data : LoginRequest) : Except Exn Tokens × Server :=
  match ldapAuthenticate env s.db data.username data.password with
  | some ldapUser => loginLdap service env ctx s ldapUser
  | none => loginLocal service env ctx s data

end Login

/-- `refresh_tokens`; `cookie` is the refresh token of the request. -/
def refreshTokens (env : LoginEnv) (db : DB) (cookie : Option String) :
    Except Exn (Tokens × DB) :=
  match cookie with
  | none | some "" => .error (.http 401 "No refresh token")
  | some token =>
      match db.refreshTokens.rows.find? (fun t => t.tokenHash = env.sha256 token) with
      | none => .error (.http 401 "Invalid refresh token")
      | some record =>
          if record.expiresAt < env.now then .error (.http 401 "Refresh token expired")
          else
            match db.users.get? record.userId with
            | none => .error (.http 401 "User not found or disabled")
            | some user =>
                if !user.isActive then .error (.http 401 "User not found or disabled")
                else
                  .ok (⟨createAccessToken env user, env.refreshToken⟩, { db with
                    refreshTokens := db.refreshTokens.put { record with
                      tokenHash := env.sha256 env.refreshToken
                      expiresAt := env.now + refreshTokenExpiryDays * (24 * 60 * minute) } })

/-! ## §3. Requests. -/

/-- A login request. -/
structure Login where
  env : LoginEnv
  ctx : RequestContext := {}
  data : LoginRequest

/-- The session of a request: committed on success, rolled back on any exception.  What is
outside stays there. -/
def finish (before : Server) : Except Exn Tokens × Server → Server
  | (.ok _, after) => after
  | (.error _, after) => { after with db := before.db }

def execLogin (service : AuditService) (s : Server) (l : Login) : Server :=
  finish s (login service l.env l.ctx s l.data)

/-! ## §4. Who gets a token. -/

/-- A local account takes the password. -/
def passwordTaken (env : LoginEnv) (user : User) (password : String) : Bool :=
  match verifyPassword env password user.passwordHash with
  | .ok ok => ok
  | .error _ => false

/-- The user whom a login gives a token, by what is stored and what LDAP says. -/
def grantee (env : LoginEnv) (db : DB) (data : LoginRequest) : Option User :=
  if tokenFits env db then
    match ldapAuthenticate env db data.username data.password with
    | some ldapUser => db.userByName ldapUser.username
    | none =>
        (db.userByName data.username).filter (fun user =>
          user.authSource ≠ .ldap && !user.isLocked env.now && user.isActive
            && passwordTaken env user data.password)
  else none

/-- A login that is refused is refused by an exception that no audit record precedes. -/
def raises (env : LoginEnv) (db : DB) (data : LoginRequest) : Bool :=
  match ldapAuthenticate env db data.username data.password with
  | some _ => true
  | none =>
      match db.userByName data.username with
      | none => false
      | some user =>
          if user.authSource = .ldap || user.isLocked env.now || !user.isActive then false
          else
            match verifyPassword env data.password user.passwordHash with
            | .ok false => false
            | _ => true

section Spec

variable {service : AuditService} {env : LoginEnv} {ctx : RequestContext} {s : Server}
  {data : LoginRequest}

theorem issueTokens_of_fits (service : AuditService) (ctx : RequestContext) (user : User)
    (authSource : String) (h : tokenFits env s.db = true) :
    ∃ s', issueTokens service env ctx s user authSource
      = (.ok ⟨createAccessToken env user, env.refreshToken⟩, s') := by
  have hfits : ∀ t ∈ s.db.refreshTokens.rows,
      t.id ≠ env.uuid ∧ t.tokenHash ≠ env.sha256 env.refreshToken := by
    simpa [tokenFits] using h
  have hhash : ¬ (s.db.refreshTokens.rows.any
      (fun t => t.tokenHash = env.sha256 env.refreshToken)) = true := by
    simpa using fun t ht => (hfits t ht).2
  unfold issueTokens
  rw [if_neg hhash]
  split
  next hinsert =>
    exfalso
    unfold Table.insert? at hinsert
    split at hinsert
    next hid =>
      obtain ⟨t, ht, heq⟩ := List.mem_map.mp hid
      exact (hfits t ht).1 heq
    next => cases hinsert
  next refreshTokens _ => exact ⟨_, rfl⟩

theorem issueTokens_of_not_fits {user : User} {authSource : String}
    (h : tokenFits env s.db = false) :
    issueTokens service env ctx s user authSource = (.error .integrityError, s) := by
  unfold issueTokens
  split
  next => rfl
  next hhash =>
    split
    next => rfl
    next refreshTokens hinsert =>
      exfalso
      have hfresh := (Table.insert?_eq_some_iff.mp hinsert).1
      have hfits : tokenFits env s.db = true := by
        unfold tokenFits
        rw [List.all_eq_true]
        intro t ht
        have hne : t.tokenHash ≠ env.sha256 env.refreshToken := by
          intro heq
          exact hhash (List.any_eq_true.mpr ⟨t, ht, by simpa using heq⟩)
        have hid : t.id ≠ env.uuid := hfresh t ht
        simp [hne, hid]
      rw [hfits] at h
      cases h

/-- What a login may come to. -/
inductive LoginOutcome (service : AuditService) (env : LoginEnv) (s : Server)
    (data : LoginRequest) : Except Exn Tokens × Server → Prop where
  | granted (user : User) (s' : Server) : grantee env s.db data = some user →
      LoginOutcome service env s data (.ok ⟨createAccessToken env user, env.refreshToken⟩, s')
  | refused (e : Exn) (s' : Server) (row : AuditLog) : grantee env s.db data = none →
      raises env s.db data = false → row.result = .failure →
      s'.outside = s.outside ++ service.copies env row →
      LoginOutcome service env s data (.error e, s')
  | raised (e : Exn) (s' : Server) : grantee env s.db data = none →
      raises env s.db data = true → s'.outside = s.outside →
      LoginOutcome service env s data (.error e, s')

/-- The end of a login that is otherwise accepted. -/
theorem outcome_issueTokens {s₁ : Server} {user user' : User} {authSource : String}
    (htokens : s₁.db.refreshTokens = s.db.refreshTokens) (houtside : s₁.outside = s.outside)
    (hgrantee : grantee env s.db data = if tokenFits env s.db then some user else none)
    (hraises : raises env s.db data = true)
    (hsame : createAccessToken env user' = createAccessToken env user) :
    LoginOutcome service env s data (issueTokens service env ctx s₁ user' authSource) := by
  have hfits : tokenFits env s₁.db = tokenFits env s.db := by
    unfold tokenFits
    rw [htokens]
  cases hfit : tokenFits env s.db with
  | true =>
      obtain ⟨s', hissue⟩ := issueTokens_of_fits service ctx user' authSource (hfits.trans hfit)
      rw [hissue, hsame]
      exact .granted user s' (by rw [hgrantee, hfit]; rfl)
  | false =>
      rw [issueTokens_of_not_fits (hfits.trans hfit)]
      exact .raised _ s₁ (by rw [hgrantee, hfit]; rfl) hraises houtside

theorem outcome_refuse {s₁ : Server} {user : Option User} {username reason errorMessage : String}
    {details : List (String × DetailValue)} {statusCode : Nat} (houtside : s₁.outside = s.outside)
    (hgrantee : grantee env s.db data = none) (hraises : raises env s.db data = false) :
    LoginOutcome service env s data
      (refuse service env ctx s₁ user username reason details errorMessage statusCode) := by
  refine .refused _ _ _ hgrantee hraises ?_ (congrArg (· ++ _) houtside)
  rfl

/-- What the password of a local account comes to. -/
theorem outcome_loginLocal {user : User}
    (hldap : ldapAuthenticate env s.db data.username data.password = none)
    (huser : s.db.userByName data.username = some user) :
    LoginOutcome service env s data (loginLocal service env ctx s data) := by
  have hgrantee : grantee env s.db data = if tokenFits env s.db then
      (some user).filter (fun user => user.authSource ≠ .ldap && !user.isLocked env.now
        && user.isActive && passwordTaken env user data.password) else none := by
    unfold grantee
    rw [hldap, huser]
  have hraises : raises env s.db data =
      if user.authSource = .ldap || user.isLocked env.now || !user.isActive then false
      else match verifyPassword env data.password user.passwordHash with
        | .ok false => false
        | _ => true := by
    unfold raises
    rw [hldap, huser]
  unfold loginLocal
  rw [huser]
  dsimp only
  -- the checks decide, in the order of the handler
  by_cases hsource : user.authSource = .ldap
  · rw [if_pos hsource]
    refine outcome_refuse rfl ?_ ?_
    · simp [hgrantee, hsource]
    · simp [hraises, hsource]
  rw [if_neg hsource]
  by_cases hlocked : user.isLocked env.now = true
  · rw [if_pos hlocked]
    refine outcome_refuse rfl ?_ ?_
    · simp [hgrantee, hlocked]
    · simp [hraises, hlocked]
  rw [if_neg hlocked]
  by_cases hactive : user.isActive = true
  · rw [if_neg (by simp [hactive])]
    have hchecks : (decide (user.authSource = .ldap) || user.isLocked env.now
        || !user.isActive) = false := by
      simp [hsource, hlocked, hactive]
    rw [hchecks] at hraises
    cases hverify : verifyPassword env data.password user.passwordHash with
    | error e =>
        rw [hverify] at hraises
        refine .raised _ s ?_ hraises rfl
        simp [hgrantee, passwordTaken, hverify]
    | ok taken =>
        rw [hverify] at hraises
        have htaken : passwordTaken env user data.password = taken := by
          unfold passwordTaken
          rw [hverify]
        cases taken with
        | false =>
            refine outcome_refuse rfl ?_ hraises
            simp [hgrantee, htaken]
        | true =>
            have hgrantee' : grantee env s.db data
                = if tokenFits env s.db then some user else none := by
              rw [hgrantee, Option.filter_some]
              simp [htaken, hsource, hlocked, hactive]
            exact outcome_issueTokens rfl rfl hgrantee' hraises rfl
  · rw [if_pos (by simpa using hactive)]
    refine outcome_refuse rfl ?_ ?_
    · simp [hgrantee, hactive]
    · simp [hraises, hactive]

/-- **WHAT A LOGIN COMES TO.** -/
theorem login_outcome (service : AuditService) (env : LoginEnv) (ctx : RequestContext)
    (s : Server) (data : LoginRequest) :
    LoginOutcome service env s data (login service env ctx s data) := by
  unfold login
  cases hldap : ldapAuthenticate env s.db data.username data.password with
  | some ldapUser =>
      have hraises : raises env s.db data = true := by
        unfold raises
        rw [hldap]
      have hgrantee : grantee env s.db data
          = if tokenFits env s.db then s.db.userByName ldapUser.username else none := by
        unfold grantee
        rw [hldap]
      dsimp only
      -- accepted by the directory: without a local row of that name the handler raises
      unfold loginLdap
      split
      next huser =>
        refine .raised _ s ?_ hraises rfl
        rw [hgrantee, huser]
        split <;> rfl
      next user huser =>
        rw [huser] at hgrantee
        exact outcome_issueTokens rfl rfl hgrantee hraises rfl
  | none =>
      cases huser : s.db.userByName data.username with
      | some user => exact outcome_loginLocal hldap huser
      -- a user name that nobody has: refused, as by a wrong password
      | none =>
          have hgrantee : grantee env s.db data = none := by
            unfold grantee
            rw [hldap, huser]
            split <;> rfl
          have hraises : raises env s.db data = false := by
            unfold raises
            rw [hldap, huser]
          dsimp only
          unfold loginLocal
          rw [huser]
          exact outcome_refuse rfl hgrantee hraises

/-- The token of a login is that of the grantee. -/
theorem grantee_of_login {tokens : Tokens} {s' : Server}
    (h : login service env ctx s data = (.ok tokens, s')) :
    ∃ user, grantee env s.db data = some user ∧ tokens.accessToken.sub = user.id := by
  have houtcome := login_outcome service env ctx s data
  rw [h] at houtcome
  cases houtcome with
  | granted user s' hgrantee => exact ⟨user, hgrantee, rfl⟩

/-- A grantee gets a token. -/
theorem login_of_grantee (service : AuditService) (ctx : RequestContext) {user : User}
    (h : grantee env s.db data = some user) :
    ∃ tokens s', login service env ctx s data = (.ok tokens, s') ∧
      tokens.accessToken.sub = user.id := by
  have houtcome := login_outcome service env ctx s data
  cases hlogin : login service env ctx s data with
  | mk result s' =>
      rw [hlogin] at houtcome
      cases houtcome with
      | granted user' s' hgrantee =>
          rw [h] at hgrantee
          rw [Option.some.inj hgrantee]
          exact ⟨_, s', rfl, rfl⟩
      | refused e s' row hgrantee =>
          rw [h] at hgrantee
          cases hgrantee
      | raised e s' hgrantee =>
          rw [h] at hgrantee
          cases hgrantee

end Spec

/-! ## §5. Tokens for disabled or locked accounts. -/

/-- A login gives a token only to a user who is active and not locked at that time, and a
refresh only to one who is active. -/
structure TokensSafe (service : AuditService) (s : Server) (l : Login) (cookie : Option String) :
    Prop where
  login : ∀ tokens s', login service l.env l.ctx s l.data = (.ok tokens, s') →
    ∃ user ∈ s.db.users.rows, user.id = tokens.accessToken.sub ∧ user.isActive = true
      ∧ user.isLocked l.env.now = false
  refresh : ∀ tokens db', refreshTokens l.env s.db cookie = .ok (tokens, db') →
    ∃ user ∈ s.db.users.rows, user.id = tokens.accessToken.sub ∧ user.isActive = true

/-- An LDAP server accepts the credentials, and the account of that name is disabled or
locked. -/
def ldapOverrides (env : LoginEnv) (db : DB) (data : LoginRequest) : Bool :=
  (ldapAuthenticate env db data.username data.password).any (fun ldapUser =>
    (db.userByName ldapUser.username).any (fun user =>
      !user.isActive || user.isLocked env.now))

theorem ldapOverrides_iff {env : LoginEnv} {db : DB} {data : LoginRequest} :
    ldapOverrides env db data = true ↔
      ∃ ldapUser, ldapAuthenticate env db data.username data.password = some ldapUser ∧
        ∃ user, db.userByName ldapUser.username = some user ∧
          (user.isActive = false ∨ user.isLocked env.now = true) := by
  unfold ldapOverrides
  cases ldapAuthenticate env db data.username data.password with
  | none => simp
  | some ldapUser =>
      cases huser : db.userByName ldapUser.username with
      | none => simp [huser]
      | some user => simp [huser]

theorem mem_of_userByName {db : DB} {username : String} {user : User}
    (h : db.userByName username = some user) : user ∈ db.users.rows :=
  List.mem_of_find?_eq_some h

/-- A grantee is active and not locked unless LDAP overrides it. -/
theorem grantee_eq_some {env : LoginEnv} {db : DB} {data : LoginRequest} {user : User}
    (h : grantee env db data = some user) :
    user ∈ db.users.rows ∧ (ldapOverrides env db data = false →
      user.isActive = true ∧ user.isLocked env.now = false) := by
  unfold grantee at h
  split at h
  next =>
    unfold ldapOverrides
    cases hldap : ldapAuthenticate env db data.username data.password with
    | some ldapUser =>
        rw [hldap] at h
        refine ⟨mem_of_userByName h, ?_⟩
        have h : db.userByName ldapUser.username = some user := h
        rw [Option.any_some, h, Option.any_some, Bool.or_eq_false_iff, Bool.not_eq_false']
        exact id
    | none =>
        rw [hldap] at h
        dsimp only at h
        rw [Option.filter_eq_some_iff] at h
        obtain ⟨huser, hchecks⟩ := h
        simp only [Bool.and_eq_true, Bool.not_eq_true'] at hchecks
        exact ⟨mem_of_userByName huser, fun _ => ⟨hchecks.1.2, hchecks.1.1.2⟩⟩
  next => cases h

/-- The record of a refreshed token. -/
def RefreshToken.rotate (env : LoginEnv) (record : RefreshToken) : RefreshToken :=
  { record with
    tokenHash := env.sha256 env.refreshToken
    expiresAt := env.now + refreshTokenExpiryDays * (24 * 60 * minute) }

/-- **WHAT A REFRESH DID**: it found the record of the token, neither expired nor of a user
who is gone or disabled, and rewrote it. -/
theorem refreshTokens_inv {env : LoginEnv} {db db' : DB} {cookie : Option String}
    {tokens : Tokens} (h : refreshTokens env db cookie = .ok (tokens, db')) :
    ∃ token record user, cookie = some token ∧
      db.refreshTokens.rows.find? (fun t => t.tokenHash = env.sha256 token) = some record ∧
      env.now ≤ record.expiresAt ∧ db.users.get? record.userId = some user ∧
      user.isActive = true ∧ tokens = ⟨createAccessToken env user, env.refreshToken⟩ ∧
      db' = { db with refreshTokens := db.refreshTokens.put (record.rotate env) } := by
  unfold refreshTokens at h
  split at h
  next => cases h
  next => cases h
  next token _ =>
    split at h
    next => cases h
    next record hrecord =>
      split at h
      next => cases h
      next hexpired =>
        split at h
        next => cases h
        next user huser =>
          split at h
          next => cases h
          next hactive =>
            obtain ⟨rfl, rfl⟩ := ok_pair_inj h
            exact ⟨token, record, user, rfl, hrecord, Int.not_lt.mp hexpired, huser,
              by simpa using hactive, rfl, rfl⟩

/-- A refreshed token is that of an active user. -/
theorem refreshTokens_ok {env : LoginEnv} {db db' : DB} {cookie : Option String} {tokens : Tokens}
    (h : refreshTokens env db cookie = .ok (tokens, db')) :
    ∃ user ∈ db.users.rows, user.id = tokens.accessToken.sub ∧ user.isActive = true := by
  obtain ⟨_, _, user, -, -, -, huser, hactive, rfl, -⟩ := refreshTokens_inv h
  exact ⟨user, (Table.get?_eq_some_iff.mp huser).1, rfl, hactive⟩

/-- LDAP overrides the state of the account. -/
theorem not_tokensSafe {service : AuditService} {s : Server} {l : Login} {cookie : Option String}
    (hfits : tokenFits l.env s.db = true) (hover : ldapOverrides l.env s.db l.data = true) :
    ¬ TokensSafe service s l cookie := by
  intro hsafe
  obtain ⟨ldapUser, hldap, user, huser, hbad⟩ := ldapOverrides_iff.mp hover
  have hgrantee : grantee l.env s.db l.data = some user := by
    unfold grantee
    rw [if_pos hfits, hldap]
    exact huser
  obtain ⟨tokens, s', hlogin, hsub⟩ := login_of_grantee service l.ctx hgrantee
  obtain ⟨user', hmem, hid, hactive, hlocked⟩ := hsafe.login tokens s' hlogin
  obtain rfl : user' = user :=
    s.db.users.eq_of_key_eq hmem (mem_of_userByName huser) (hid.trans hsub)
  rw [hactive, hlocked] at hbad
  simp at hbad

/-- **NO TOKENS FOR DISABLED OR LOCKED ACCOUNTS**, exactly if no LDAP server accepts the
credentials of one (where the new refresh token is new). -/
theorem tokens_safe_iff (service : AuditService) (s : Server) (l : Login) (cookie : Option String) :
    TokensSafe service s l cookie ↔
      ¬ (tokenFits l.env s.db = true ∧ ldapOverrides l.env s.db l.data = true) := by
  constructor
  · rintro hsafe ⟨hfits, hover⟩
    exact not_tokensSafe hfits hover hsafe
  · intro hno
    refine ⟨?_, fun tokens db' h => refreshTokens_ok h⟩
    intro tokens s' hlogin
    obtain ⟨user, hgrantee, hsub⟩ := grantee_of_login hlogin
    obtain ⟨hmem, hok⟩ := grantee_eq_some hgrantee
    have hfits : tokenFits l.env s.db = true := by
      by_contra hfits
      unfold grantee at hgrantee
      rw [if_neg hfits] at hgrantee
      cases hgrantee
    have hover : ldapOverrides l.env s.db l.data = false := by
      rw [← Bool.not_eq_true]
      exact fun hover => hno ⟨hfits, hover⟩
    obtain ⟨hactive, hlocked⟩ := hok hover
    exact ⟨user, hmem, hsub.symm, hactive, hlocked⟩

/-- An LDAP server that knows the password `ldap` of everybody; passwords are stored as they
are. -/
def plainLoginEnv (now : Int) (uuid : String) : LoginEnv where
  now := now
  ldapServer := fun _ username password =>
    if password = "ldap" then some { username } else none
  bcryptAvailable := false
  checkpw := fun _ _ => none
  sha256 := fun text => text
  refreshToken := uuid
  uuid := uuid

/-- A disabled account, and an LDAP server. -/
def disabledAccount : Server where
  db :=
    { users := ⟨[{ id := "1", username := "ann", passwordHash := "secret", isActive := false }],
        by decide⟩
      ldapConfigs := [{ id := "c" }] }

/-- The disabled user logs in with LDAP. -/
theorem ldap_login_of_disabled :
    ¬ TokensSafe {} disabledAccount
      { env := plainLoginEnv 0 "r", data := ⟨"ann", "ldap"⟩ } none :=
  not_tokensSafe (by decide) (by decide)

end PureBoot.Accounts
