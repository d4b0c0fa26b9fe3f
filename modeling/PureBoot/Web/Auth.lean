/-
  PureBoot.Web.Auth — the AUTHENTICATION GATE in front of the routes.

  Embeds `api/middleware/auth.py` (`is_public_path`, `authenticate_api_key`,
  `AuthMiddleware.dispatch`), `utils/api_keys.py` (`parse_api_key`, `verify_api_key`)
  and `verify_access_token` of `api/routes/auth.py`.  The libraries for bcrypt and for
  JSON web tokens are parameters (`AuthEnv`).

  The gate decides on the text of a path, and it is not the path that the router looks
  at.  The router takes the decoded path of the request; the gate takes the path of the
  URL that the framework puts together from the `Host` header and the decoded path, and
  there a `?` or a `#` of either cuts it off.  The last test of the gate, meant for
  static files, looks at the end of its path only, so it opens every path that ends like
  an image or a script.

  Main results:
    * `dispatch_passed` — what a request that is passed on has shown;
    * `auth_gate_iff` — the requests for a path that the gate protects.
-/
import PureBoot.Lib.Table
import PureBoot.Lib.Text
import PureBoot.Lib.Url

namespace PureBoot.Web

open PureBoot.Lib

/-! ## §1. Public paths. -/

/-- `PUBLIC_PATHS`. -/
def publicPaths : List (List Char) :=
  ["/".toList, "/health".toList, "/api/docs".toList, "/api/redoc".toList,
   "/api/openapi.json".toList, "/api/v1/auth/login".toList, "/api/v1/auth/refresh".toList,
   "/api/v1/boot".toList, "/api/v1/ipxe".toList, "/api/v1/report".toList]

/-- `PUBLIC_PREFIXES`. -/
def publicPrefixes : List (List Char) :=
  ["/assets".toList, "/api/v1/boot/".toList, "/api/v1/ipxe/".toList]

/-- `PUBLIC_EXTENSIONS`. -/
def publicExtensions : List (List Char) :=
  [".png".toList, ".jpg".toList, ".jpeg".toList, ".gif".toList, ".svg".toList, ".ico".toList,
   ".css".toList, ".js".toList, ".woff".toList, ".woff2".toList, ".ttf".toList, ".eot".toList]

/-- The path ends like a static file. -/
def hasPublicExtension (path : List Char) : Bool :=
  publicExtensions.any (fun ext => decide (ext <:+ path))

theorem hasPublicExtension_iff {path : List Char} :
    hasPublicExtension path = true ↔ ∃ ext ∈ publicExtensions, ext <:+ path := by
  unfold hasPublicExtension
  simp only [List.any_eq_true, decide_eq_true_eq]

/-- `is_public_path`. -/
def isPublicPath (path : List Char) : Bool :=
  publicPaths.contains path || publicPrefixes.any (fun pre => decide (pre <+: path))
    || hasPublicExtension path

/-! ## §2. Credentials. -/

/-- The columns of `ApiKey` that are used here. -/
structure ApiKey where
  id : String
  serviceAccountId : String
  keyHash : List Char
  keyPrefix : List Char
  isActive : Bool := true
  expiresAt : Option Nat := none
  lastUsedAt : Option Nat := none
  lastUsedIp : Option String := none

/-- The columns of `User` that are used here. -/
structure User where
  id : String
  username : String
  role : String
  isActive : Bool := true
  expiresAt : Option Nat := none

structure AuthDb where
  apiKeys : Table ApiKey.id := Table.empty
  users : Table User.id := Table.empty

/-- The claims of a token, by name. -/
abbrev TokenPayload : Type := List (String × List Char)

/-- What the gate gets from elsewhere; the clock counts microseconds. -/
structure AuthEnv where
  now : Int
  /-- `datetime.utcnow()` as the columns store it. -/
  utcnow : Nat
  /-- `bcrypt.checkpw`; an exception is a failed check. -/
  checkpw : List Char → List Char → Bool
  /-- `JWT_AVAILABLE`. -/
  jwtAvailable : Bool
  /-- `jwt.decode` with the secret of the server; `none` is an invalid or expired token. -/
  jwtDecode : List Char → Option TokenPayload
  /-- `int(text)`. -/
  parseInt : List Char → Option Int
  /-- `async_session_factory` is set. -/
  hasSessionFactory : Bool

/-- `verify_access_token`. -/
def verifyAccessToken (env : AuthEnv) (token : List Char) : Option TokenPayload :=
  if env.jwtAvailable then env.jwtDecode token
  else
    match token.splitOn ':' with
    | [userId, username, role, exp] =>
        match env.parseInt exp with
        | some exp =>
            if exp * 1000000 < env.now then none
            else some [("sub", userId), ("username", username), ("role", role)]
        | none => none
    | _ => none

/-- `parse_api_key`: the public part and the secret. -/
def parseApiKey (fullKey : List Char) : Option (List Char × List Char) :=
  match fullKey.splitOn '_' with
  | [a, b, c, secret] => some (a ++ '_' :: b ++ '_' :: c, secret)
  | _ => none

/-- `verify_api_key`. -/
def verifyApiKey (env : AuthEnv) (fullKey storedHash : List Char) : Bool :=
  match fullKey.splitOn '_' with
  | [_, _, _, secret] => env.checkpw secret storedHash
  | _ => false

/-- Why an API key is not accepted. -/
inductive KeyError where
  | message (text : String)
  /-- `scalar_one_or_none` finds two rows. -/
  | multipleResults
  deriving DecidableEq

/-- The time is given and is over. -/
def expired (expiresAt : Option Nat) (now : Nat) : Bool :=
  expiresAt.any (fun t => t < now)

/-- `UPDATE api_keys SET last_used_at, last_used_ip`. -/
def touch (id : String) (now : Nat) (clientIp : String) (k : ApiKey) : ApiKey :=
  if k.id = id then { k with lastUsedAt := some now, lastUsedIp := some clientIp } else k

theorem touch_id (id : String) (now : Nat) (clientIp : String) (k : ApiKey) :
    (touch id now clientIp k).id = k.id := by
  unfold touch
  split <;> rfl

/-- `authenticate_api_key`. -/
def authenticateApiKey (env : AuthEnv) (db : AuthDb) (key : List Char) (clientIp : String) :
    Except KeyError (User × AuthDb) :=
  match parseApiKey key with
  | none => .error (.message "Invalid API key format")
  | some (keyPrefix, _) =>
      match db.apiKeys.rows.filter (fun k => k.keyPrefix = keyPrefix) with
      | [] => .error (.message "API key not found")
      | [apiKey] =>
          if !apiKey.isActive then .error (.message "API key is disabled")
          else if expired apiKey.expiresAt env.utcnow then .error (.message "API key has expired")
          else if !verifyApiKey env key apiKey.keyHash then .error (.message "Invalid API key")
          else
            match db.users.get? apiKey.serviceAccountId with
            | none => .error (.message "Service account not found")
            | some user =>
                if !user.isActive then .error (.message "Service account is disabled")
                else if expired user.expiresAt env.utcnow then
                  .error (.message "Service account has expired")
                else
                  .ok (user, { db with
                    apiKeys := db.apiKeys.update (touch apiKey.id env.utcnow clientIp)
                      (touch_id apiKey.id env.utcnow clientIp) })
      | _ => .error .multipleResults

/-! ## §3. The gate. -/

/-- A request whose address `urlsplit` can read; with any other one the gate raises before it
has looked at anything. -/
structure Request where
  method : String
  /-- `scope["path"]`: what is requested, decoded. -/
  path : List Char
  /-- The `Host` header, or the address of the server if there is none. -/
  host : List Char := []
  /-- The `Authorization` header. -/
  authorization : Option (List Char) := none
  client : Option String := none

/-- `request.url.path`. -/
def Request.urlPath (r : Request) : List Char := pathOf (r.host ++ r.path)

/-- `request.state.auth_method`. -/
inductive AuthMethod where
  | apiKey
  | jwt

/-- What the gate stores in `request.state`. -/
structure Identity where
  userId : Option (List Char)
  username : Option (List Char)
  role : Option (List Char)
  authMethod : AuthMethod

/-- What becomes of a request at the gate. -/
inductive Dispatched where
  /-- It is passed on, with an identity unless the path is public. -/
  | passed (who : Option Identity)
  | refused (status : Nat) (detail : String)
  | raised

/-- `AuthMiddleware.dispatch`. -/
def dispatch (env : AuthEnv) (db : AuthDb) (r : Request) : Dispatched × AuthDb :=
  if isPublicPath r.urlPath then (.passed none, db)
  else
    match r.authorization with
    | none | some [] => (.refused 401 "Not authenticated", db)
    | some header =>
        if ¬ "Bearer ".toList <+: header then (.refused 401 "Invalid authentication scheme", db)
        else
          let token := header.drop 7
          if "pb_".toList <+: token then
            if !env.hasSessionFactory then (.refused 500 "Database not initialized", db)
            else
              match authenticateApiKey env db token (r.client.getD "unknown") with
              | .error (.message text) => (.refused 401 text, db)
              | .error .multipleResults => (.raised, db)
              | .ok (user, db') =>
                  (.passed (some {
                    userId := some user.id.toList
                    username := some user.username.toList
                    role := some user.role.toList
                    authMethod := .apiKey }), db')
          else
            match verifyAccessToken env token with
            | none | some [] => (.refused 401 "Invalid or expired token", db)
            | some payload =>
                (.passed (some {
                  userId := payload.lookup "sub"
                  username := payload.lookup "username"
                  role := payload.lookup "role"
                  authMethod := .jwt }), db)

/-- The request carries a bearer token that is accepted. -/
def CarriesToken (env : AuthEnv) (db : AuthDb) (r : Request) : Prop :=
  ∃ token, r.authorization = some ("Bearer ".toList ++ token) ∧
    ((verifyAccessToken env token).isSome = true ∨
      ∃ user db', authenticateApiKey env db token (r.client.getD "unknown") = .ok (user, db'))

/-- **WHAT A REQUEST THAT IS PASSED ON HAS SHOWN.** -/
theorem dispatch_passed {env : AuthEnv} {db : AuthDb} {r : Request} {who : Option Identity}
    (h : (dispatch env db r).1 = .passed who) :
    isPublicPath r.urlPath = true ∨ CarriesToken env db r := by
  by_cases hpublic : isPublicPath r.urlPath = true
  · exact .inl hpublic
  · right
    unfold dispatch at h
    rw [if_neg hpublic] at h
    split at h
    next => cases h
    next => cases h
    next header hheader =>
      split at h
      next => cases h
      next hbearer =>
        rw [not_not] at hbearer
        obtain ⟨token, rfl⟩ := hbearer
        refine ⟨token, hheader, ?_⟩
        -- `auth_header[7:]`
        have htoken : ("Bearer ".toList ++ token).drop 7 = token := rfl
        dsimp only at h
        rw [htoken] at h
        split at h
        next =>
          split at h
          next => cases h
          next =>
            split at h
            next => cases h
            next => cases h
            next user db' hkey => exact .inr ⟨user, db', hkey⟩
        next =>
          split at h
          next => cases h
          next => cases h
          next payload _ hverify =>
            rw [hverify]
            exact .inl rfl

/-- A public path needs nothing. -/
theorem dispatch_public {env : AuthEnv} {db : AuthDb} {r : Request}
    (h : isPublicPath r.urlPath = true) : (dispatch env db r).1 = .passed none := by
  unfold dispatch
  rw [if_pos h]

/-! ## §4. Which paths it protects. -/

/-- The path is one of the API. -/
def UnderApi (path : List Char) : Prop := path = "/api/v1".toList ∨ "/api/v1/".toList <+: path

instance (path : List Char) : Decidable (UnderApi path) :=
  inferInstanceAs (Decidable (_ ∨ _))

theorem not_assets_of_underApi {path : List Char} (h : UnderApi path) :
    ¬ "/assets".toList <+: path := by
  intro hassets
  obtain ⟨rest, hrest⟩ := hassets
  rcases h with rfl | ⟨rest', hrest'⟩
  · have hsecond := congrArg (fun t : List Char => t[2]?) hrest
    simp at hsecond
  · have hsecond := congrArg (fun t : List Char => t[2]?) (hrest.trans hrest'.symm)
    simp at hsecond

/-- A path of the API that is neither listed as public nor below the public boot paths. -/
structure Protected (path : List Char) : Prop where
  api : UnderApi path
  exact : path ∉ publicPaths
  boot : ¬ "/api/v1/boot/".toList <+: path
  ipxe : ¬ "/api/v1/ipxe/".toList <+: path

/-- On a protected path the extension decides. -/
theorem isPublicPath_protected {path : List Char} (h : Protected path) :
    isPublicPath path = hasPublicExtension path := by
  have hassets := not_assets_of_underApi h.api
  have hexact : publicPaths.contains path = false := by
    rw [List.contains_eq_mem, decide_eq_false_iff_not]
    exact h.exact
  have hprefixes : publicPrefixes.any (fun pre => decide (pre <+: path)) = false := by
    unfold publicPrefixes
    rw [List.any_cons, List.any_cons, List.any_cons, List.any_nil, decide_eq_false hassets,
      decide_eq_false h.boot, decide_eq_false h.ipxe]
    rfl
  unfold isPublicPath
  rw [hexact, hprefixes]
  rfl

/-- The public paths of the API begin with one of four letters. -/
theorem protected_of_letter {c : Char} (rest : List Char) (h : c ∉ "abir".toList) :
    Protected ("/api/v1/".toList ++ c :: rest) where
  api := .inr ⟨c :: rest, rfl⟩
  exact := by
    have hc : c ≠ 'a' ∧ c ≠ 'b' ∧ c ≠ 'i' ∧ c ≠ 'r' := by simpa using h
    simp [publicPaths, hc]
  boot := by
    have hc : c ≠ 'b' := fun hb => h (by simp [hb])
    simp [List.cons_prefix_cons, hc.symm]
  ipxe := by
    have hc : c ≠ 'i' := fun hi => h (by simp [hi])
    simp [List.cons_prefix_cons, hc.symm]

/-- A path that is not public is passed on with a token only. -/
theorem carriesToken_of_passed {env : AuthEnv} {db : AuthDb} {r : Request}
    {who : Option Identity} (hclosed : isPublicPath r.urlPath = false)
    (hpassed : (dispatch env db r).1 = .passed who) : CarriesToken env db r := by
  rcases dispatch_passed hpassed with hopen | htoken
  · rw [hclosed] at hopen
    cases hopen
  · exact htoken

theorem not_carriesToken_of_none {env : AuthEnv} {db : AuthDb} {r : Request}
    (h : r.authorization = none) : ¬ CarriesToken env db r := by
  rintro ⟨token, hheader, -⟩
  rw [h] at hheader
  cases hheader

/-- What ends like a static file is public. -/
theorem isPublicPath_of_extension {path : List Char} (h : hasPublicExtension path = true) :
    isPublicPath path = true := by
  unfold isPublicPath
  rw [h, Bool.or_true]

/-- **THE GATE PROTECTS A PATH, EXACTLY IF** the path that it looks at is not public. -/
theorem auth_gate_iff (env : AuthEnv) (db : AuthDb) (host path : List Char) :
    (∀ r : Request, r.host = host → r.path = path → ∀ who, (dispatch env db r).1 = .passed who →
      CarriesToken env db r) ↔ isPublicPath (pathOf (host ++ path)) = false := by
  constructor
  · intro hgate
    rw [← Bool.not_eq_true]
    intro hopen
    -- a request without a header
    have hpassed : (dispatch env db { method := "GET", path, host }).1 = .passed none :=
      dispatch_public hopen
    exact not_carriesToken_of_none rfl (hgate _ rfl rfl none hpassed)
  · rintro hclosed r rfl rfl who hpassed
    exact carriesToken_of_passed hclosed hpassed

/-- Where neither the address nor the path cuts the path off, its end decides. -/
theorem isPublicPath_clean {host : Authority} {path : List Char} (h : Protected path)
    (hclean : Clean path) :
    isPublicPath (pathOf (host.text ++ path)) = hasPublicExtension path := by
  have hslash : ∃ p, path = '/' :: p := by
    rcases h.api with rfl | ⟨p, rfl⟩
    · exact ⟨_, rfl⟩
    · exact ⟨_, rfl⟩
  obtain ⟨p, rfl⟩ := hslash
  rw [pathOf_clean host hclean, isPublicPath_protected h]

/-- A server that accepts one token. -/
def oneTokenEnv : AuthEnv where
  now := 0
  utcnow := 0
  checkpw := fun _ _ => false
  jwtAvailable := true
  jwtDecode := fun token => if token = "t".toList then some [("sub", "1".toList)] else none
  parseInt := fun _ => none
  hasSessionFactory := true

theorem protected_nodesPath : Protected "/api/v1/nodes".toList :=
  protected_of_letter "odes".toList (by decide)

/-- The list of nodes is behind the gate. -/
theorem auth_gate_iff_nodes :
    Protected "/api/v1/nodes".toList ∧
      ∀ r : Request, r.host = "10.0.0.1:8080".toList → r.path = "/api/v1/nodes".toList →
        ∀ who, (dispatch oneTokenEnv {} r).1 = .passed who → CarriesToken oneTokenEnv {} r :=
  ⟨protected_nodesPath,
    (auth_gate_iff oneTokenEnv {} "10.0.0.1:8080".toList "/api/v1/nodes".toList).mpr (by decide)⟩

/-- The path is protected and the request has no token, and it is passed on. -/
def SlipsThrough (r : Request) : Prop :=
  Protected r.path ∧ (dispatch oneTokenEnv {} r).1 = .passed none ∧
    ¬ CarriesToken oneTokenEnv {} r

/-- The request to remove the tag `x.png` of a node, without a header. -/
def removeTagRequest : Request where
  method := "DELETE"
  host := "10.0.0.1:8080".toList
  path := "/api/v1/nodes/n1/tags/x.png".toList

/-- The request to move the node `x.png?`: its path is `/api/v1/nodes/x.png%3F/state` before it
is decoded. -/
def moveNodeRequest : Request where
  method := "PATCH"
  host := "10.0.0.1:8080".toList
  path := "/api/v1/nodes/x.png?/state".toList

/-- The list of users, with a path in the `Host` header. -/
def listUsersRequest : Request where
  method := "GET"
  host := "x/health?".toList
  path := "/api/v1/users".toList

/-- **THREE WAYS PAST THE GATE**: by the end of the path, by a cut in the path and by a cut in
the address. -/
theorem protected_paths_slip_through :
    SlipsThrough removeTagRequest ∧ SlipsThrough moveNodeRequest ∧
      SlipsThrough listUsersRequest :=
  ⟨⟨⟨by decide, by decide, by decide, by decide⟩, dispatch_public (by decide),
      not_carriesToken_of_none rfl⟩,
    ⟨⟨by decide, by decide, by decide, by decide⟩, dispatch_public (by decide),
      not_carriesToken_of_none rfl⟩,
    ⟨⟨by decide, by decide, by decide, by decide⟩, dispatch_public (by decide),
      not_carriesToken_of_none rfl⟩⟩

end PureBoot.Web
