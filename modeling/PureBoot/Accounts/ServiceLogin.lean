/-
  PureBoot.Accounts.ServiceLogin — can somebody LOG IN as a service account?

  `create_service_account` stores a hash of a placeholder, `svc-{username}-disabled`, with
  the comment that it is not usable for login.  `login` does not look at
  `is_service_account`: it decides by password and flags, and who knows the user name knows
  the placeholder.  An LDAP server that accepts the credentials decides alone: whose account
  has the user name that it answers is logged in, whatever kind of account it is.

  A run is a sequence of requests for accounts, roles and keys, and of logins whose
  password is computed from what the API shows of the account.

  Main results:
    * `loginRow_of_request` — what a request does to what decides a login;
    * `placeholders_step` — a service account has its placeholder as long as it is there;
    * `no_service_login_iff` — the runs in which no service account is logged in.
-/
import PureBoot.Accounts.ApiKeys

namespace PureBoot.Accounts

open PureBoot.Lib PureBoot.Web

/-! ## §1. Runs. -/

/-- What the API shows of an account. -/
structure PublicFields where
  id : String
  username : String
  email : Option String
  role : String
  isActive : Bool
  lastLoginAt : Option Int
  expiresAt : Option Nat
  deriving DecidableEq, Repr

def Directory.publicFields (s : Directory) (user : User) : PublicFields where
  id := user.id
  username := user.username
  email := user.email
  role := user.role
  isActive := user.isActive
  lastLoginAt := user.lastLoginAt
  expiresAt := (s.columns user.id).expiresAt

/-- A login whose password is computed. -/
structure Attempt where
  service : AuditService
  env : LoginEnv
  ctx : RequestContext := {}
  username : String
  guess : Option PublicFields → String

/-- The request of the login. -/
def Attempt.data (a : Attempt) (s : Directory) : LoginRequest where
  username := a.username
  password := a.guess ((s.db.userByName a.username).map s.publicFields)

inductive ServiceEvent where
  /-- A request of `users.py`, `roles.py`, `service_accounts.py` or `user_groups.py`. -/
  | directory (r : DirectoryRequest)
  | login (a : Attempt)

/-- One request. -/
def serviceStep (s : Directory) : ServiceEvent → Directory
  | .directory r => commitOrRollback s (performRequest s r)
  | .login a =>
      { s with db := (execLogin a.service { db := s.db } ⟨a.env, a.ctx, a.data s⟩).db }

/-! ## §2. The law. -/

/-- **NO PASSWORD LOGIN OF SERVICE ACCOUNTS**: a login gives no token for one. -/
def NoServiceToken (s : Directory) : ServiceEvent → Prop
  | .directory _ => True
  | .login a => ∀ tokens s',
      login a.service a.env a.ctx { db := s.db } (a.data s) = (.ok tokens, s') →
      ∀ user ∈ s.db.users.rows, user.id = tokens.accessToken.sub → user.isServiceAccount = false

/-- The password that `create_service_account` stores. -/
def placeholder (username : String) : String := "svc-" ++ username ++ "-disabled"

/-- Where the new refresh token fits: an LDAP server that accepts the credentials answers no
user name of a service account, and where none accepts them, they are not the placeholder
of an active service account that is not locked. -/
def Attempt.Misses (a : Attempt) (s : Directory) : Prop :=
  tokenFits a.env s.db = true →
    match ldapAuthenticate a.env s.db a.username (a.data s).password with
    | some ldapUser => ∀ user, s.db.userByName ldapUser.username = some user →
        user.isServiceAccount = false
    | none => ∀ user, s.db.userByName a.username = some user → user.isServiceAccount = true →
        user.isActive = true → user.isLocked a.env.now = false →
        (a.data s).password ≠ placeholder a.username

/-- The event is no login that hits a service account. -/
def Misses (s : Directory) : ServiceEvent → Prop
  | .directory _ => True
  | .login a => a.Misses s

/-- `check` is `verify_password`: it takes exactly the password that was hashed. -/
def ServiceEvent.Exact (check : String → String → Except Exn Bool) : ServiceEvent → Prop
  | .directory r => ∀ hashed password,
      check password (r.env.hashPassword hashed) = .ok (decide (password = hashed))
  | .login a => ∀ password passwordHash,
      verifyPassword a.env password passwordHash = check password passwordHash

/-! ## §3. What decides a login. -/

/-- Where a row of the users comes from, as far as logins go. -/
inductive LoginRow (s : Directory) (r : DirectoryRequest) (u : User) : Prop where
  /-- It was there, with the same name and password. -/
  | same {v : User} (mem : v ∈ s.db.users.rows) (same : SameLogin v u)
  | person (plain : u.isServiceAccount = false)
  | service (name : u.authSource = .local)
      (password : u.passwordHash = r.env.hashPassword (placeholder u.username))

section

variable {s s' : Directory} {r : DirectoryRequest} {x : Unit} {u : User}

theorem LoginRow.unchanged (hmem : u ∈ s.db.users.rows) : LoginRow s r u :=
  .same hmem ⟨rfl, rfl, rfl, rfl⟩

/-- **WHAT A REQUEST DOES TO WHAT DECIDES A LOGIN.** -/
theorem loginRow_of_request (h : performRequest s r = .ok (x, s')) (hu : u ∈ s'.db.users.rows) :
    LoginRow s r u := by
  cases outcome_of_request h hu with
  | kept hmem => exact .unchanged hmem
  | @created current data hop =>
      simp only [performRequest, hop] at h
      obtain ⟨_, _, -, -, -, h⟩ := asUser_ok h
      obtain ⟨user, db, hcreate, rfl⟩ := onUsers_ok h
      obtain ⟨-, -, -, -, hrows, -, hplain⟩ := createUser_user hcreate
      change u ∈ db.users.rows at hu
      rw [hrows, List.mem_append, List.mem_singleton] at hu
      rcases hu with hold | rfl
      · exact .unchanged hold
      · exact .person hplain
  | @updated current v data hop =>
      simp only [performRequest, hop] at h
      obtain ⟨_, _, -, -, -, h⟩ := asUser_ok h
      obtain ⟨user', db, hupdate, rfl⟩ := onUsers_ok h
      obtain ⟨user, huser, -, hupdated, hrows, -, hsame⟩ := updateUser_ok hupdate
      -- the row is the one that was saved, or another one
      change u ∈ db.users.rows at hu
      rw [hrows, mem_save huser hupdated.id] at hu
      rcases hu with rfl | ⟨hold, -⟩
      · exact .same huser hsame
      · exact .unchanged hold
  | @accountCreated data hop =>
      simp only [performRequest, hop] at h
      obtain ⟨_, h⟩ := withPermission_ok h
      obtain ⟨account, h⟩ := stateOf_ok h
      obtain ⟨-, -, -, ⟨db, c, rfl, -, hrows⟩, -, -, -, hname, hsource, hhash⟩ :=
        createServiceAccount_ok h
      change u ∈ db.users.rows at hu
      rw [hrows, List.mem_append, List.mem_singleton] at hu
      rcases hu with hold | rfl
      · exact .unchanged hold
      · refine .service hsource ?_
        rw [hname]
        exact hhash
  | @accountUpdated v data roleId hop =>
      simp only [performRequest, hop] at h
      obtain ⟨_, h⟩ := withPermission_ok h
      obtain ⟨account', h⟩ := stateOf_ok h
      obtain ⟨account, haccount, -, hid, -, roleId, c, -, -, rfl, -, hsame⟩ :=
        updateServiceAccount_ok h
      change u ∈ (s.db.save account').users.rows at hu
      rw [mem_save haccount hid] at hu
      rcases hu with rfl | ⟨hold, -⟩
      · refine .same haccount ?_
        rw [hsame]
        exact ⟨rfl, rfl, rfl, rfl⟩
      · exact .unchanged hold

end

/-! ## §4. A service account keeps its placeholder. -/

variable {check : String → String → Except Exn Bool}

/-- **THE INVARIANT**: exactly the placeholder is the password of a service account. -/
def Placeholders (check : String → String → Except Exn Bool) (s : Directory) : Prop :=
  ∀ user ∈ s.db.users.rows, user.isServiceAccount = true → user.authSource = .local ∧
    ∀ password, check password user.passwordHash
      = .ok (decide (password = placeholder user.username))

section

variable {s : Directory}

/-- What decides a login has stayed. -/
theorem Placeholders.of_same {v u : User} (hinv : Placeholders check s)
    (hmem : v ∈ s.db.users.rows) (hsame : SameLogin v u) (hservice : u.isServiceAccount = true) :
    u.authSource = .local ∧ ∀ password, check password u.passwordHash
      = .ok (decide (password = placeholder u.username)) := by
  obtain ⟨hsource, hpassword⟩ := hinv v hmem (hsame.isServiceAccount.symm.trans hservice)
  rw [hsame.authSource, hsame.passwordHash, hsame.username]
  exact ⟨hsource, hpassword⟩

theorem placeholders_login (a : Attempt) (hinv : Placeholders check s) :
    Placeholders check (serviceStep s (.login a)) := by
  show Placeholders check { s with
    db := (execLogin a.service { db := s.db } ⟨a.env, a.ctx, a.data s⟩).db }
  unfold execLogin
  cases h : login a.service a.env a.ctx { db := s.db } (a.data s) with
  | mk result after =>
      cases result with
      | error e => exact hinv
      | ok tokens =>
          obtain ⟨user, ⟨row, hrow, hid, -, hrows⟩, ⟨before, hbefore, hid', hsame⟩, -⟩ :=
            login_stored h
          intro u hu hservice
          change u ∈ after.db.users.rows at hu
          rw [hrows, mem_save hbefore hid'] at hu
          rcases hu with rfl | ⟨hold, -⟩
          · exact hinv.of_same hbefore hsame hservice
          · exact hinv u hold hservice

/-- **EVERY EVENT KEEPS THE INVARIANT.** -/
theorem placeholders_step (s : Directory) (e : ServiceEvent) (hexact : e.Exact check)
    (hinv : Placeholders check s) : Placeholders check (serviceStep s e) := by
  cases e with
  | login a => exact placeholders_login a hinv
  | directory r =>
      refine commitOrRollback_preserves hinv (fun x s' h => ?_)
      intro u hu hservice
      cases loginRow_of_request h hu with
      | same hmem hsame => exact hinv.of_same hmem hsame hservice
      | person hplain =>
          rw [hplain] at hservice
          cases hservice
      | service hsource hhash =>
          refine ⟨hsource, fun password => ?_⟩
          rw [hhash]
          exact hexact (placeholder u.username) password

/-! ## §5. Who is logged in. -/

theorem username_of_userByName {db : DB} {username : String} {user : User}
    (h : db.userByName username = some user) : user.username = username := by
  simpa using List.find?_some h

/-- The law speaks of the user who is given a token. -/
theorem noServiceToken_iff {a : Attempt} :
    NoServiceToken s (.login a) ↔
      ∀ user, grantee a.env s.db (a.data s) = some user → user.isServiceAccount = false := by
  constructor
  · intro hlaw user hgrantee
    obtain ⟨tokens, s', hlogin, hsub⟩ :=
      login_of_grantee (s := { db := s.db }) a.service a.ctx hgrantee
    exact hlaw tokens s' hlogin user (grantee_eq_some hgrantee).1 hsub.symm
  · intro hnone tokens s' hlogin user hmem hid
    obtain ⟨user', hgrantee, hsub⟩ := grantee_of_login hlogin
    have hmem' : user' ∈ s.db.users.rows := (grantee_eq_some hgrantee).1
    obtain rfl : user = user' := s.db.users.eq_of_key_eq hmem hmem' (hid.trans hsub)
    exact hnone user hgrantee

/-- A service account takes its placeholder, and no other password. -/
theorem passwordTaken_iff (hinv : Placeholders check s) {a : Attempt}
    (hexact : (ServiceEvent.login a).Exact check) {user : User} (hmem : user ∈ s.db.users.rows)
    (hservice : user.isServiceAccount = true) {password : String} :
    passwordTaken a.env user password = true ↔ password = placeholder user.username := by
  unfold passwordTaken
  rw [hexact password user.passwordHash, (hinv user hmem hservice).2 password]
  exact decide_eq_true_iff

/-- A login that LDAP decides. -/
theorem misses_ldap {a : Attempt} {ldapUser : LdapUser} (hfits : tokenFits a.env s.db = true)
    (hldap : ldapAuthenticate a.env s.db a.username (a.data s).password = some ldapUser) :
    (∀ user, grantee a.env s.db (a.data s) = some user → user.isServiceAccount = false) ↔
      a.Misses s := by
  have hgrantee : grantee a.env s.db (a.data s) = s.db.userByName ldapUser.username := by
    unfold grantee
    rw [if_pos hfits, show ldapAuthenticate a.env s.db (a.data s).username (a.data s).password
      = some ldapUser from hldap]
  unfold Attempt.Misses
  rw [hgrantee, hldap]
  exact ⟨fun h _ => h, fun h => h hfits⟩

/-- A login that the stored password decides. -/
theorem misses_local (hinv : Placeholders check s) {a : Attempt}
    (hexact : (ServiceEvent.login a).Exact check) (hfits : tokenFits a.env s.db = true)
    (hldap : ldapAuthenticate a.env s.db a.username (a.data s).password = none) :
    (∀ user, grantee a.env s.db (a.data s) = some user → user.isServiceAccount = false) ↔
      a.Misses s := by
  have hgrantee : grantee a.env s.db (a.data s) = (s.db.userByName a.username).filter (fun user =>
      user.authSource ≠ .ldap && !user.isLocked a.env.now && user.isActive
        && passwordTaken a.env user (a.data s).password) := by
    unfold grantee
    rw [if_pos hfits, show ldapAuthenticate a.env s.db (a.data s).username (a.data s).password
      = none from hldap]
    rfl
  unfold Attempt.Misses
  rw [hgrantee, hldap]
  constructor
  · intro hnone _ user huser hservice hactive hunlocked hguess
    have hmem := mem_of_userByName huser
    have htaken := (passwordTaken_iff hinv hexact hmem hservice).mpr
      (hguess.trans (by rw [username_of_userByName huser]))
    have hsource := (hinv user hmem hservice).1
    have hperson := hnone user (by
      rw [huser, Option.filter_some]
      simp [hsource, hunlocked, hactive, htaken])
    rw [hservice] at hperson
    cases hperson
  · intro hmiss user hgranted
    obtain ⟨huser, hchecks⟩ := Option.filter_eq_some_iff.mp hgranted
    simp only [Bool.and_eq_true, Bool.not_eq_true'] at hchecks
    obtain ⟨⟨⟨-, hunlocked⟩, hactive⟩, htaken⟩ := hchecks
    by_contra hservice
    rw [Bool.not_eq_false] at hservice
    have hguess := (passwordTaken_iff hinv hexact (mem_of_userByName huser) hservice).mp htaken
    rw [username_of_userByName huser] at hguess
    exact hmiss hfits user huser hservice hactive hunlocked hguess

/-- One event: it gives no service account a token exactly if it misses. -/
theorem noServiceToken_iff_misses (hinv : Placeholders check s) (e : ServiceEvent)
    (hexact : e.Exact check) : NoServiceToken s e ↔ Misses s e := by
  cases e with
  | directory r => exact Iff.rfl
  | login a =>
      rw [noServiceToken_iff]
      by_cases hfits : tokenFits a.env s.db = true
      · cases hldap : ldapAuthenticate a.env s.db a.username (a.data s).password with
        | some ldapUser => exact misses_ldap hfits hldap
        | none => exact misses_local hinv hexact hfits hldap
      · -- without a place for its refresh token, no login ends with a token
        have hgrantee : grantee a.env s.db (a.data s) = none := if_neg hfits
        rw [hgrantee]
        exact ⟨fun _ h => absurd h hfits, fun _ user h => nomatch h⟩

/-- **WHEN NO SERVICE ACCOUNT IS LOGGED IN**: in a run from tables without service accounts,
no login gives a token for one exactly if every login misses. -/
theorem no_service_login_iff
    (hstart : ∀ user ∈ s.db.users.rows, user.isServiceAccount = false)
    {events : List ServiceEvent} (hexact : ∀ e ∈ events, e.Exact check) :
    Along serviceStep NoServiceToken s events ↔ Along serviceStep Misses s events := by
  have h0 : Placeholders check s := by
    intro user hmem hservice
    rw [hstart user hmem] at hservice
    cases hservice
  have htrue : Along serviceStep (fun _ _ => True) s events := along_true s events
  have hlabels := htrue.and_label hexact
  exact (Along.of_step (fun s e hinv he => placeholders_step s e he.1 hinv)
    (fun s e hinv he => noServiceToken_iff_misses hinv e he.1) h0 hlabels).congr

end

/-! A service account, and who knows its name. -/

/-- A hash for the runs below. -/
def saltedHash (password : String) : String := "$2" ++ password

theorem saltedHash_toList (password : String) :
    (saltedHash password).toList = '$' :: '2' :: password.toList :=
  String.toList_append

/-- A server without LDAP. -/
def localLoginEnv : LoginEnv where
  now := 0
  ldapServer := fun _ _ _ => none
  checkpw := fun password passwordHash => some (passwordHash = saltedHash password)
  sha256 := fun text => text
  refreshToken := "r"
  uuid := "t"

/-- The admin creates a service account. -/
def createCi : ServiceEvent :=
  .directory
    { env := { hashPassword := saltedHash, parseTime := fun _ => none, utcnow := 0 }
      credential := .token "1"
      op := .createServiceAccount "2" { username := "ci" } }

/-- A login as this account. -/
def loginAsCi (guess : Option PublicFields → String) : ServiceEvent :=
  .login { service := {}, env := localLoginEnv
           username := "ci", guess }

/-- The placeholder of the account that the API shows. -/
def guessPlaceholder (fields : Option PublicFields) : String :=
  fields.elim "" (fun fields => placeholder fields.username)

theorem exact_ci (guess : Option PublicFields → String) :
    ∀ e ∈ [createCi, loginAsCi guess], e.Exact (verifyPassword localLoginEnv) := by
  intro e he
  rcases List.mem_cons.mp he with rfl | he
  · intro hashed password
    have hhead : "$2".toList.isPrefixOf (saltedHash hashed).toList = true := by
      rw [saltedHash_toList]
      rfl
    have hcheck : (saltedHash hashed = saltedHash password) ↔ password = hashed := by
      rw [← String.toList_inj, saltedHash_toList, saltedHash_toList, List.cons_inj_right,
        List.cons_inj_right, String.toList_inj]
      exact eq_comm
    show verifyPassword localLoginEnv password (saltedHash hashed) = _
    unfold verifyPassword
    rw [hhead]
    simp [localLoginEnv, hcheck]
  · obtain rfl := List.mem_singleton.mp he
    exact fun _ _ => rfl

/-- Whoever knows the name of the account logs in. -/
theorem placeholder_logs_in :
    (∀ user ∈ adminTables.db.users.rows, user.isServiceAccount = false) ∧
    (∀ e ∈ [createCi, loginAsCi guessPlaceholder], e.Exact (verifyPassword localLoginEnv)) ∧
    ¬ Along serviceStep NoServiceToken adminTables [createCi, loginAsCi guessPlaceholder] := by
  refine ⟨by decide +kernel, exact_ci _, ?_⟩
  rintro ⟨-, hlaw, -⟩
  have hgranted : (grantee localLoginEnv (serviceStep adminTables createCi).db
      ⟨"ci", placeholder "ci"⟩).any User.isServiceAccount = true := by
    decide +kernel
  have hguess : Attempt.data ⟨{}, localLoginEnv, {}, "ci", guessPlaceholder⟩
      (serviceStep adminTables createCi) = ⟨"ci", placeholder "ci"⟩ := by
    decide +kernel
  obtain ⟨user, hgrantee, hservice⟩ := Option.any_eq_true _ _ |>.mp hgranted
  have hperson := noServiceToken_iff.mp hlaw user (by rw [hguess]; exact hgrantee)
  rw [hservice] at hperson
  cases hperson

/-- Another guess misses. -/
theorem user_name_does_not_log_in :
    Along serviceStep NoServiceToken adminTables
      [createCi, loginAsCi (fun fields => fields.elim "" PublicFields.username)] := by
  refine (no_service_login_iff (by decide +kernel) (exact_ci _)).mpr ⟨trivial, ?_, trivial⟩
  intro _ _ _ _ _ _
  have hguess : (Attempt.data ⟨{}, localLoginEnv, {}, "ci",
      fun fields => fields.elim "" PublicFields.username⟩
      (serviceStep adminTables createCi)).password = "ci" := by
    decide +kernel
  show (Attempt.data _ _).password ≠ _
  exact fun heq => absurd (hguess.symm.trans heq) (by decide +kernel)

end PureBoot.Accounts
