/-
  PureBoot.Accounts.Deactivation — does DEACTIVATION take effect at once?

  An access token is valid until it expires.  The gate (`Web.Auth`) checks its signature
  and nothing else; whether the account behind it is still there and active is looked up
  by the routes that depend on `get_current_user` or on `require_permission`, and for API
  keys by the gate.  All other routes answer a deactivated user until the token expires.

  A run is a sequence of requests: those that write accounts, logins, changes of a password,
  and calls of any other route.  Beside the tables it keeps which accounts `update_user`
  and `delete_user` have deactivated.

  Main results:
    * `inactive_step` — a deactivated account stays inactive until it is reactivated;
    * `completes_of_bears` — what becomes of a call with the token of a deactivated user;
    * `deactivation_iff` — the runs in which deactivation takes effect at once.
-/
import PureBoot.Accounts.Privileges
import PureBoot.Accounts.Rotation
import PureBoot.Lifecycle.NodeApi

namespace PureBoot.Accounts

open PureBoot.Lib PureBoot.Web

/-! ## §1. A request on its way to a handler. -/

/-- The tables as the gate reads them. -/
def Directory.authDb (s : Directory) : AuthDb where
  apiKeys := s.apiKeys.view AccountKey.toApiKey (fun _ => rfl)
  users := s.db.users.view
    (fun u => { id := u.id, username := u.username, role := u.role, isActive := u.isActive
                expiresAt := (s.columns u.id).expiresAt : Web.User })
    (fun _ => rfl)

/-- The dependency of a route that looks the user up. -/
inductive UserLookup where
  /-- The route relies on the gate. -/
  | none
  /-- `Depends(get_current_user)`. -/
  | currentUser
  /-- `Depends(require_permission(resource, action))`. -/
  | permission (resource action : String)
  deriving DecidableEq, Repr

/-- A call of a route that writes no account. -/
structure Call where
  env : AuthEnv
  request : Web.Request
  lookup : UserLookup
  /-- The handler returns, once its dependencies have. -/
  returns : Bool

/-- The dependency, for what the gate has stored. -/
def UserLookup.check (s : Directory) (c : Call) (who : Option Identity) :
    UserLookup → Except Exn Unit
  | .none => .ok ()
  | .currentUser => (getCurrentUser c.env s.db c.request.authorization).map (fun _ => ())
  | .permission resource action =>
      (requirePermission s resource action
        ((who.bind Identity.userId).map String.ofList)).map (fun _ => ())

/-- The gate passes the call on, and the handler completes. -/
def completes (s : Directory) (c : Call) : Bool :=
  match (dispatch c.env s.authDb c.request).1 with
  | .passed who => (c.lookup.check s c who).isOk && c.returns
  | _ => false

/-- The header holds an access token of the user, and no API key. -/
def Bears (env : AuthEnv) (authorization : Option (List Char)) (userId : String) : Prop :=
  ∃ token payload, authorization = some ("Bearer ".toList ++ token) ∧
    ¬ "pb_".toList <+: token ∧ verifyAccessToken env token = some payload ∧
    payload.lookup "sub" = some userId.toList

/-- The path is listed as public; it may still end like a static file. -/
def ListedPublic (path : List Char) : Prop :=
  path ∈ publicPaths ∨ ∃ pre ∈ publicPrefixes, pre <+: path

/-! ## §2. Runs. -/

/-- The tables, with the accounts that are deactivated. -/
structure Watched where
  tables : Directory
  deactivated : List String := []

/-- What a request that is carried out does to the deactivated accounts; an account that is
created is a new one. -/
def DirectoryOp.switch (deactivated : List String) : DirectoryOp → List String
  | .updateUser userId { isActive := some false, .. } => userId :: deactivated
  | .updateUser userId { isActive := some true, .. } => deactivated.filter (· ≠ userId)
  | .deleteUser userId => userId :: deactivated
  | .updateServiceAccount accountId { isActive := some true, .. } =>
      deactivated.filter (· ≠ accountId)
  | .createUser uuid _ => deactivated.filter (· ≠ uuid)
  | .createServiceAccount uuid _ => deactivated.filter (· ≠ uuid)
  | _ => deactivated

inductive AccessEvent where
  /-- A request of `users.py`, `roles.py`, `service_accounts.py` or `user_groups.py`. -/
  | directory (r : DirectoryRequest)
  | login (service : AuditService) (l : Login)
  | changePassword (auth : AuthEnv) (authorization : Option (List Char)) (env : LoginEnv)
      (hashPassword : String → String) (userId : String) (data : PasswordChange)
  | call (c : Call)

/-- `change_password` behind `get_current_user`. -/
def changePasswordAs (db : DB) (auth : AuthEnv) (authorization : Option (List Char))
    (env : LoginEnv) (hashPassword : String → String) (userId : String) (data : PasswordChange) :
    Except Exn (Unit × DB) := do
  let current ← getCurrentUser auth db authorization
  changePassword env hashPassword db current userId data

/-- One request. -/
def watchStep (w : Watched) : AccessEvent → Watched
  | .directory r =>
      commitOrRollback w ((performRequest w.tables r).map (fun out => (out.1,
        { tables := out.2, deactivated := r.op.switch w.deactivated })))
  | .login service l =>
      { w with tables := { w.tables with
          db := (execLogin service { db := w.tables.db } l).db } }
  | .changePassword auth authorization env hashPassword userId data =>
      { w with tables := { w.tables with
          db := commitOrRollback w.tables.db
            (changePasswordAs w.tables.db auth authorization env hashPassword userId data) } }
  | .call _ => w

/-- **DEACTIVATION TAKES EFFECT**: no request with a token of a deactivated user completes on
a route that is not public. -/
def TakesEffect (w : Watched) : AccessEvent → Prop
  | .directory r => ∀ userId ∈ w.deactivated, r.credential = .token userId →
      ∀ out, performRequest w.tables r ≠ .ok out
  | .login _ _ => True
  | .changePassword auth authorization env hashPassword target data =>
      ∀ userId ∈ w.deactivated, Bears auth authorization userId → ∀ out,
        changePasswordAs w.tables.db auth authorization env hashPassword target data ≠ .ok out
  | .call c => ∀ userId ∈ w.deactivated, Bears c.env c.request.authorization userId →
      ¬ ListedPublic c.request.path → completes w.tables c = false

/-- A call with a token of a deactivated user, of a route that looks no user up. -/
def Unchecked (w : Watched) : AccessEvent → Prop
  | .call c => c.lookup = .none ∧ c.returns = true ∧ ¬ ListedPublic c.request.path ∧
      ∃ userId ∈ w.deactivated, Bears c.env c.request.authorization userId
  | _ => False

/-! ## §3. A deactivated account stays inactive. -/

/-- **THE INVARIANT**: no account that is deactivated is active. -/
def Inactive (w : Watched) : Prop :=
  ∀ user ∈ w.tables.db.users.rows, user.id ∈ w.deactivated → user.isActive = false

section Steps

variable {w : Watched} {s s' : Directory} {r : DirectoryRequest} {x : Unit}

/-- A request switches only the account it writes. -/
theorem mem_of_mem_switch {op : DirectoryOp} {userId : String} {deactivated : List String}
    (hother : op.account ≠ some userId) (h : userId ∈ op.switch deactivated) :
    userId ∈ deactivated := by
  unfold DirectoryOp.switch at h
  split at h
  next => exact (List.mem_cons.mp h).resolve_left (fun heq => hother (by rw [heq]; rfl))
  next => exact (List.mem_filter.mp h).1
  next => exact (List.mem_cons.mp h).resolve_left (fun heq => hother (by rw [heq]; rfl))
  next => exact (List.mem_filter.mp h).1
  next => exact (List.mem_filter.mp h).1
  next => exact (List.mem_filter.mp h).1
  next => exact h

theorem not_mem_filter_self {userId : String} {l : List String} :
    userId ∉ l.filter (· ≠ userId) := by
  simp

theorem inactive_directory (hinv : Inactive w) (h : performRequest w.tables r = .ok (x, s')) :
    Inactive { tables := s', deactivated := r.op.switch w.deactivated } := by
  intro u hu hid
  change u.id ∈ r.op.switch w.deactivated at hid
  cases outcome_of_request h hu with
  | kept hmem hother => exact hinv u hmem (mem_of_mem_switch hother hid)
  | created hop =>
      rw [hop] at hid
      exact absurd hid not_mem_filter_self
  | accountCreated hop =>
      rw [hop] at hid
      exact absurd hid not_mem_filter_self
  | @updated current v data hop _ hmem hv _ hactive =>
      -- its status is written, or as it was
      rw [hop] at hid
      obtain ⟨email, role, isActive⟩ := data
      cases isActive with
      | none => exact hactive.trans (hinv v hmem (hv ▸ hid))
      | some active =>
          cases active with
          | false => exact hactive
          | true => exact absurd hid not_mem_filter_self
  | @accountUpdated v data roleId hop hmem hv _ hactive =>
      rw [hop] at hid
      obtain ⟨given, expiresAt, isActive⟩ := data
      cases isActive with
      | none => exact hactive.trans (hinv v hmem (hv ▸ hid))
      | some active =>
          cases active with
          | false => exact hactive
          | true => exact absurd hid not_mem_filter_self

/-- Writing a row anew makes nobody active. -/
theorem Inactive.rewritten {db' : DB} {user : User} (hinv : Inactive w)
    (h : Rewritten w.tables.db db' user) :
    Inactive { w with tables := { w.tables with db := db' } } := by
  obtain ⟨before, hbefore, hid, hactive, hrows⟩ := h
  intro u hu hdeactivated
  change u ∈ db'.users.rows at hu
  rw [hrows, mem_save hbefore hid] at hu
  rcases hu with rfl | ⟨hold, -⟩
  · rw [hactive]
    exact hinv before hbefore (hid ▸ hdeactivated)
  · exact hinv u hold hdeactivated

theorem inactive_login (service : AuditService) (l : Login) (hinv : Inactive w) :
    Inactive (watchStep w (.login service l)) := by
  show Inactive { w with tables := { w.tables with
    db := (execLogin service { db := w.tables.db } l).db } }
  unfold execLogin
  cases h : login service l.env l.ctx { db := w.tables.db } l.data with
  | mk result after =>
      cases result with
      | error e => exact hinv
      | ok tokens =>
          obtain ⟨user, hrewritten, -⟩ := login_stored h
          exact hinv.rewritten hrewritten

/-- **A DEACTIVATED ACCOUNT STAYS INACTIVE** until it is reactivated. -/
theorem inactive_step (w : Watched) (e : AccessEvent) (hinv : Inactive w) :
    Inactive (watchStep w e) := by
  cases e with
  | directory r =>
      refine commitOrRollback_preserves hinv (fun a w' h => ?_)
      obtain ⟨⟨x, s'⟩, hperform, heq⟩ := map_eq_ok h
      obtain ⟨-, rfl⟩ := Prod.mk.inj heq
      exact inactive_directory hinv hperform
  | login service l => exact inactive_login service l hinv
  | changePassword auth authorization env hashPassword userId data =>
      show Inactive { w with tables := { w.tables with db := _ } }
      cases h : changePasswordAs w.tables.db auth authorization env hashPassword userId data with
      | error e => exact hinv
      | ok out =>
          obtain ⟨current, -, hchange⟩ := bind_eq_ok.mp h
          obtain ⟨⟨user, hrewritten⟩, -⟩ := changePassword_stored hchange
          exact hinv.rewritten hrewritten
  | call c => exact hinv

end Steps

/-! ## §4. What a token of a deactivated user is good for. -/

section Tokens

variable {w : Watched} {s : Directory} {r : DirectoryRequest} {userId : String}

theorem asUser_active {credential : Credential} {out : Unit × Directory}
    {handler : User → Except Exn (Unit × Directory)}
    (h : asUser s credential handler = .ok out) (htoken : credential = .token userId) :
    ∃ user ∈ s.db.users.rows, user.id = userId ∧ user.isActive = true := by
  obtain ⟨user, huser, -⟩ := bind_eq_ok.mp h
  rw [htoken] at huser
  obtain ⟨hmem, hid, hactive⟩ := loadUser_ok huser
  exact ⟨user, hmem, hid, hactive⟩

/-- The permission is that of an active user. -/
theorem requirePermission_active {resource action : String} {given : Option String} {user : User}
    (h : requirePermission s resource action given = .ok user) :
    ∃ u ∈ s.db.users.rows, given = some u.id ∧ u.isActive = true := by
  obtain ⟨u, hload, -⟩ := bind_eq_ok.mp h
  unfold getCurrentUserFromState at hload
  split at hload
  next => cases hload
  next => cases hload
  next =>
    obtain ⟨hmem, rfl, hactive⟩ := loadUser_ok hload
    exact ⟨u, hmem, rfl, hactive⟩

theorem withPermission_active {action : String} {out : Unit × Directory}
    {handler : User → Except Exn (Unit × Directory)}
    (h : withPermission r s action handler = .ok out) (htoken : r.credential = .token userId) :
    ∃ user ∈ s.db.users.rows, user.id = userId ∧ user.isActive = true := by
  obtain ⟨id, hid, h⟩ := bind_eq_ok.mp h
  obtain ⟨user, hpermission, -⟩ := bind_eq_ok.mp h
  rw [htoken] at hid
  obtain rfl : userId = id := Except.ok.inj hid
  obtain ⟨u, hmem, hgiven, hactive⟩ := requirePermission_active hpermission
  exact ⟨u, hmem, (Option.some.inj hgiven).symm, hactive⟩

/-- Every request that writes accounts looks its user up. -/
theorem performRequest_active {out : Unit × Directory} (h : performRequest s r = .ok out)
    (htoken : r.credential = .token userId) :
    ∃ user ∈ s.db.users.rows, user.id = userId ∧ user.isActive = true := by
  unfold performRequest at h
  split at h
  next => exact asUser_active h htoken
  next => exact asUser_active h htoken
  next => exact asUser_active h htoken
  all_goals exact withPermission_active h htoken

/-- `get_current_user` loads the user of the token. -/
theorem getCurrentUser_of_bears {env : AuthEnv} {authorization : Option (List Char)}
    (h : Bears env authorization userId) (db : DB) :
    getCurrentUser env db authorization = loadUser db userId := by
  obtain ⟨token, payload, rfl, -, hverify, hsub⟩ := h
  have hbearer : "Bearer ".toList <+: "Bearer ".toList ++ token := List.prefix_append _ _
  have htoken : ("Bearer ".toList ++ token).drop 7 = token := rfl
  cases payload with
  | nil => cases hsub
  | cons claim claims =>
      cases hget : db.users.get? userId with
      | none =>
          simp only [getCurrentUser, loadUser, hbearer, htoken, hverify, hsub, hget, not_true,
            if_false, String.ofList_toList]
      | some user =>
          simp only [getCurrentUser, loadUser, hbearer, htoken, hverify, hsub, hget, not_true,
            if_false, String.ofList_toList]

/-- **THE GATE PASSES EVERY TOKEN ON**, whatever has become of its user. -/
theorem dispatch_of_bears {env : AuthEnv} {request : Web.Request}
    (h : Bears env request.authorization userId) (db : AuthDb) :
    ∃ who, (dispatch env db request).1 = .passed who ∧
      ∀ id, who.bind Identity.userId = some id → id = userId.toList := by
  obtain ⟨token, payload, hheader, hkey, hverify, hsub⟩ := h
  have hbearer : "Bearer ".toList <+: "Bearer ".toList ++ token := List.prefix_append _ _
  have htoken : ("Bearer ".toList ++ token).drop 7 = token := rfl
  -- a public path is passed without a look at the token
  by_cases hpublic : isPublicPath request.urlPath = true
  · exact ⟨none, dispatch_public hpublic, fun _ hnone => nomatch hnone⟩
  · cases payload with
    | nil => cases hsub
    | cons claim claims =>
        refine ⟨some { userId := some userId.toList
                       username := (claim :: claims).lookup "username"
                       role := (claim :: claims).lookup "role", authMethod := .jwt }, ?_, ?_⟩
        · unfold dispatch
          rw [if_neg hpublic]
          split
          next hnone => simp [hheader] at hnone
          next hempty => simp [hheader] at hempty
          next header _ hsome =>
            rw [hheader] at hsome
            obtain rfl := Option.some.inj hsome
            rw [if_neg (not_not.mpr hbearer)]
            dsimp only
            rw [htoken, if_neg hkey, hverify, ← hsub]
        · rintro id hid
          exact (Option.some.inj hid).symm

/-- A lookup of the user of a token finds an active one. -/
theorem check_active {c : Call} {who : Option Identity}
    (hbears : Bears c.env c.request.authorization userId)
    (hwho : ∀ id, who.bind Identity.userId = some id → id = userId.toList)
    (hlookup : c.lookup ≠ .none) (h : (c.lookup.check s c who).isOk = true) :
    ∃ user ∈ s.db.users.rows, user.id = userId ∧ user.isActive = true := by
  obtain ⟨x, h⟩ := exists_of_isOk h
  cases hkind : c.lookup with
  | none => exact absurd hkind hlookup
  | currentUser =>
      rw [hkind] at h
      obtain ⟨user, huser, -⟩ := map_eq_ok h
      rw [getCurrentUser_of_bears hbears] at huser
      exact ⟨user, loadUser_ok huser⟩
  | permission resource action =>
      rw [hkind] at h
      obtain ⟨user, hpermission, -⟩ := map_eq_ok h
      obtain ⟨u, hmem, hgiven, hactive⟩ := requirePermission_active hpermission
      obtain ⟨id, hid, heq⟩ := Option.map_eq_some_iff.mp hgiven
      rw [hwho id hid, String.ofList_toList] at heq
      exact ⟨u, hmem, heq.symm, hactive⟩

/-- **WHAT BECOMES OF A CALL** with a token of a user who is not active. -/
theorem completes_of_bears {c : Call} (hbears : Bears c.env c.request.authorization userId)
    (hinactive : ∀ user ∈ s.db.users.rows, user.id = userId → user.isActive = false) :
    completes s c = true ↔ c.lookup = .none ∧ c.returns = true := by
  obtain ⟨who, hpassed, hwho⟩ := dispatch_of_bears hbears s.authDb
  unfold completes
  rw [hpassed]
  show ((c.lookup.check s c who).isOk && c.returns) = true ↔ _
  rw [Bool.and_eq_true]
  refine and_congr_left (fun _ => ⟨fun hcheck => ?_, fun hlookup => ?_⟩)
  · by_contra hlookup
    obtain ⟨user, hmem, hid, hactive⟩ := check_active hbears hwho hlookup hcheck
    rw [hinactive user hmem hid] at hactive
    cases hactive
  · rw [hlookup]
    rfl

/-- One request: deactivation takes effect exactly if the request is no unchecked call. -/
theorem takesEffect_iff (w : Watched) (e : AccessEvent) (hinv : Inactive w) :
    TakesEffect w e ↔ ¬ Unchecked w e := by
  have hinactive : ∀ userId ∈ w.deactivated, ∀ user ∈ w.tables.db.users.rows,
      user.id = userId → user.isActive = false := by
    rintro userId hid user huser rfl
    exact hinv user huser hid
  have hnobody : ∀ userId ∈ w.deactivated, ¬ ∃ user ∈ w.tables.db.users.rows,
      user.id = userId ∧ user.isActive = true := by
    rintro userId hid ⟨user, huser, heq, hactive⟩
    rw [hinactive userId hid user huser heq] at hactive
    cases hactive
  -- the handlers that write accounts look the user up; the other routes do as they please
  cases e with
  | directory r =>
      refine iff_of_true ?_ (fun h => h)
      intro userId hid htoken out h
      exact hnobody userId hid (performRequest_active h htoken)
  | login service l => exact iff_of_true trivial (fun h => h)
  | changePassword auth authorization env hashPassword target data =>
      refine iff_of_true ?_ (fun h => h)
      intro userId hid hbears out h
      obtain ⟨current, hcurrent, -⟩ := bind_eq_ok.mp h
      rw [getCurrentUser_of_bears hbears] at hcurrent
      exact hnobody userId hid ⟨current, loadUser_ok hcurrent⟩
  | call c =>
      constructor
      · rintro h ⟨hlookup, hreturns, hpath, userId, hid, hbears⟩
        have hdone :=
          (completes_of_bears hbears (hinactive userId hid)).mpr ⟨hlookup, hreturns⟩
        rw [h userId hid hbears hpath] at hdone
        cases hdone
      · intro h userId hid hbears hpath
        rw [← Bool.not_eq_true]
        intro hdone
        obtain ⟨hlookup, hreturns⟩ :=
          (completes_of_bears hbears (hinactive userId hid)).mp hdone
        exact h ⟨hlookup, hreturns, hpath, userId, hid, hbears⟩

end Tokens

/-- **DEACTIVATION TAKES EFFECT AT ONCE, EXACTLY IF** no route without a lookup of the user is
called with a token of a user who is deactivated; for every sequence of requests on any
tables. -/
theorem deactivation_iff (s : Directory) (events : List AccessEvent) :
    Along watchStep TakesEffect { tables := s } events ↔
      Along watchStep (fun w e => ¬ Unchecked w e) { tables := s } events := by
  have h0 : Inactive { tables := s } := fun _ _ h => (nomatch h)
  exact along_iff_of_step (fun w e hinv _ => inactive_step w e hinv)
    (fun w e hinv => takesEffect_iff w e hinv) h0

/-! A user is deactivated, and changes the state of a node. -/

/-- The seeded tables, with a user. -/
def tablesWithBob : Directory :=
  eventStep seededTables (byAdmin (.createUser "2"
    { username := "bob", password := "password", role := "operator" }))

/-- The admin deactivates the user. -/
def deactivateBob : AccessEvent :=
  .directory
    { env := plainEnv, credential := .token "1"
      op := .updateUser "2" { isActive := some false } }

/-- A server that takes `t` for a token of the user. -/
def bobTokenEnv : AuthEnv :=
  { oneTokenEnv with
    jwtDecode := fun token => if token = "t".toList then some [("sub", "2".toList)] else none }

/-- A database with one node. -/
def oneNode : Lifecycle.DB :=
  { Lifecycle.DB.empty with
    nodes := ⟨[{ id := "n", macAddress := "00:11:22:33:44:55" }], by decide⟩ }

/-- `bulk_change_state` with this token: the route has no dependency but the database. -/
def bulkChangeStateByBob : Call where
  env := bobTokenEnv
  request :=
    { method := "POST", path := "/api/v1/nodes/bulk/change-state".toList
      host := "10.0.0.1:8080".toList, authorization := some "Bearer t".toList }
  lookup := .none
  returns := (Lifecycle.bulkChangeState ⟨0, true⟩ oneNode ["n"] .pending).isOk

/-- It completes. -/
theorem bulk_change_after_deactivation :
    ¬ Along watchStep TakesEffect { tables := tablesWithBob }
      [deactivateBob, .call bulkChangeStateByBob] := by
  rintro ⟨-, h, -⟩
  have hbob : "2" ∈ (watchStep { tables := tablesWithBob } deactivateBob).deactivated := by
    decide +kernel
  have hbears : Bears bobTokenEnv (some "Bearer t".toList) "2" :=
    ⟨"t".toList, [("sub", "2".toList)], rfl, by decide, by decide, by decide⟩
  have hpath : ¬ ListedPublic bulkChangeStateByBob.request.path := by
    unfold ListedPublic
    decide
  have hdone : completes (watchStep { tables := tablesWithBob } deactivateBob).tables
      bulkChangeStateByBob = true := by
    decide +kernel
  rw [h "2" hbob hbears hpath] at hdone
  cases hdone

end PureBoot.Accounts
