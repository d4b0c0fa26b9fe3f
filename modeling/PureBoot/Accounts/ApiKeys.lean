/-
  PureBoot.Accounts.ApiKeys — WHICH API KEYS AUTHENTICATE.

  Embeds `generate_api_key` of `utils/api_keys.py`.  A key is `pb_live_`, eight hex digits,
  an underscore and the 48 hex digits of the secret; the database has the first part and a
  hash of the secret.  `authenticate_api_key` takes a presented text apart at its
  underscores, looks the first three parts up and checks the fourth.

  A run starts without keys and is a sequence of requests of `service_accounts.py`,
  `users.py`, `roles.py` and `user_groups.py`, of any other writes of accounts and of the
  column `is_active` of a key, and of authentications.  Beside the tables it keeps the full
  key that each request has returned, which the server itself forgets.

  Main results:
    * `parseApiKey_eq_some_iff` — the texts that are taken apart, and how;
    * `keysOk_step` — every stored key is one that was returned;
    * `api_key_authenticates_iff` — the texts that authenticate.
-/
import PureBoot.Accounts.Deactivation
import PureBoot.Lib.Dict

namespace PureBoot.Accounts

open PureBoot.Lib PureBoot.Web

/-! ## §1. Keys (`api_keys.py`). -/

def hexDigits : List Char := "0123456789abcdef".toList

/-- What `secrets.token_hex` draws; its text has `n` digits. -/
structure HexText (n : Nat) where
  text : List Char
  length : text.length = n
  digits : ∀ c ∈ text, c ∈ hexDigits

theorem HexText.no_underscore {n : Nat} (h : HexText n) : '_' ∉ h.text := by
  intro hmem
  exact absurd (h.digits '_' hmem) (by decide +kernel)

variable (checkpw : List Char → List Char → Bool)

/-- What `generate_api_key` draws: an id, a secret, and a hash that bcrypt makes of it. -/
structure GeneratedKey where
  keyId : HexText 8
  secret : HexText 48
  keyHash : List Char
  /-- `bcrypt.checkpw` accepts exactly the secret that was hashed. -/
  exact : ∀ password, checkpw password keyHash = true ↔ password = secret.text

namespace GeneratedKey

variable {checkpw} (g : GeneratedKey checkpw)

/-- `pb_{environment}_{key_id}`, with the default environment. -/
def keyPrefix : List Char := "pb".toList ++ '_' :: "live".toList ++ '_' :: g.keyId.text

def fullKey : List Char := g.keyPrefix ++ '_' :: g.secret.text

end GeneratedKey

/-- **THE TEXTS THAT ARE TAKEN APART**: four parts between three underscores. -/
theorem parseApiKey_eq_some_iff {key keyPrefix secret : List Char} :
    parseApiKey key = some (keyPrefix, secret) ↔
      key = keyPrefix ++ '_' :: secret ∧ '_' ∉ secret ∧
        ∃ a b c, keyPrefix = a ++ '_' :: b ++ '_' :: c ∧ '_' ∉ a ∧ '_' ∉ b ∧ '_' ∉ c := by
  unfold parseApiKey
  constructor
  · intro h
    split at h
    next a b c part hsplit =>
      obtain ⟨hhead, rfl⟩ := Prod.mk.inj (Option.some.inj h)
      obtain ⟨-, hfree, hjoin⟩ := splitOn_eq_iff.mp hsplit
      simp only [List.mem_cons, List.not_mem_nil, or_false, forall_eq_or_imp, forall_eq] at hfree
      obtain ⟨ha, hb, hc, hpart⟩ := hfree
      refine ⟨?_, hpart, a, b, c, hhead.symm, ha, hb, hc⟩
      rw [← hjoin, ← hhead]
      simp [List.intercalate_cons_cons]
    next => cases h
  · rintro ⟨rfl, hsecret, a, b, c, rfl, ha, hb, hc⟩
    have hsplit : (a ++ '_' :: b ++ '_' :: c ++ '_' :: secret).splitOn '_' = [a, b, c, secret] := by
      refine splitOn_eq_iff.mpr ⟨List.cons_ne_nil a _, ?_, ?_⟩
      · simp [ha, hb, hc, hsecret]
      · simp [List.intercalate_cons_cons]
    rw [hsplit]

/-- The secret that is checked is the one that is taken apart. -/
theorem verifyApiKey_of_parse {env : AuthEnv} {key keyPrefix secret storedHash : List Char}
    (h : parseApiKey key = some (keyPrefix, secret)) :
    verifyApiKey env key storedHash = env.checkpw secret storedHash := by
  unfold parseApiKey at h
  unfold verifyApiKey
  split at h
  next hsplit =>
    obtain ⟨-, rfl⟩ := Prod.mk.inj (Option.some.inj h)
    rfl
  next => cases h

section

variable {checkpw}

/-- **PRINT AND PARSE**: a full key is taken apart into its prefix and its secret. -/
theorem GeneratedKey.parse_fullKey (g : GeneratedKey checkpw) :
    parseApiKey g.fullKey = some (g.keyPrefix, g.secret.text) :=
  parseApiKey_eq_some_iff.mpr ⟨rfl, g.secret.no_underscore, _, _, _, rfl, by decide, by decide,
    g.keyId.no_underscore⟩

end

/-! ## §2. The answer of `authenticate_api_key`. -/

/-- The time is not given, or is not over. -/
theorem not_expired_iff {expiresAt : Option Nat} {now : Nat} :
    expired expiresAt now = false ↔ ∀ t, expiresAt = some t → now ≤ t := by
  unfold expired
  cases expiresAt <;> simp

/-- What `authenticate_api_key` has checked when it returns a user. -/
structure Authenticated (env : AuthEnv) (db : AuthDb) (key : List Char) (apiKey : Web.ApiKey)
    (user : Web.User) : Prop where
  parsed : ∃ secret, parseApiKey key = some (apiKey.keyPrefix, secret) ∧
    env.checkpw secret apiKey.keyHash = true
  found : db.apiKeys.rows.filter (fun k => k.keyPrefix = apiKey.keyPrefix) = [apiKey]
  active : apiKey.isActive = true
  live : expired apiKey.expiresAt env.utcnow = false
  account : db.users.get? apiKey.serviceAccountId = some user
  accountActive : user.isActive = true
  accountLive : expired user.expiresAt env.utcnow = false

theorem authenticateApiKey_ok {env : AuthEnv} {db db' : AuthDb} {key : List Char}
    {clientIp : String} {user : Web.User}
    (h : authenticateApiKey env db key clientIp = .ok (user, db')) :
    ∃ apiKey, Authenticated env db key apiKey user ∧
      db' = { db with
        apiKeys := db.apiKeys.update (touch apiKey.id env.utcnow clientIp)
          (touch_id apiKey.id env.utcnow clientIp) } := by
  unfold authenticateApiKey at h
  split at h
  next => cases h
  next keyPrefix secret hparse =>
    split at h
    next => cases h
    next apiKey hfound =>
      obtain ⟨hactive, h⟩ := ite_error_eq_ok.mp h
      obtain ⟨hlive, h⟩ := ite_error_eq_ok.mp h
      obtain ⟨hverify, h⟩ := ite_error_eq_ok.mp h
      split at h
      next => cases h
      next account haccount =>
        obtain ⟨haccountActive, h⟩ := ite_error_eq_ok.mp h
        obtain ⟨haccountLive, h⟩ := ite_error_eq_ok.mp h
        obtain ⟨rfl, rfl⟩ := ok_pair_inj h
        have hhead : apiKey.keyPrefix = keyPrefix := by
          have hmem : apiKey ∈ db.apiKeys.rows.filter (fun k => k.keyPrefix = keyPrefix) := by
            rw [hfound]
            exact List.mem_cons_self
          simpa using (List.mem_filter.mp hmem).2
        rw [verifyApiKey_of_parse hparse] at hverify
        subst hhead
        exact ⟨apiKey, ⟨⟨secret, hparse, by simpa using hverify⟩, hfound, by simpa using hactive,
          by simpa using hlive, haccount, by simpa using haccountActive,
          by simpa using haccountLive⟩, rfl⟩
    next => cases h

theorem authenticateApiKey_of {env : AuthEnv} {db : AuthDb} {key : List Char} (clientIp : String)
    {apiKey : Web.ApiKey} {user : Web.User} (h : Authenticated env db key apiKey user) :
    ∃ db', authenticateApiKey env db key clientIp = .ok (user, db') := by
  obtain ⟨secret, hparse, hcheck⟩ := h.parsed
  have hverify : verifyApiKey env key apiKey.keyHash = true :=
    (verifyApiKey_of_parse hparse).trans hcheck
  unfold authenticateApiKey
  simp only [hparse, h.found, h.active, h.live, hverify, h.account, h.accountActive, h.accountLive]
  exact ⟨_, rfl⟩

/-! ## §3. Runs. -/

/-- A request for a new key, with what is drawn for it. -/
structure CreateKey where
  env : DirectoryEnv
  ctx : RequestContext := {}
  credential : Credential
  accountId : String
  id : String
  generated : GeneratedKey checkpw
  data : ApiKeyCreate

variable {checkpw} in
def CreateKey.request (c : CreateKey checkpw) : DirectoryRequest where
  env := c.env
  ctx := c.ctx
  credential := c.credential
  op := .createApiKey c.accountId ⟨c.id, c.generated.keyPrefix, c.generated.keyHash⟩ c.data

def DirectoryOp.isCreateApiKey : DirectoryOp → Bool
  | .createApiKey .. => true
  | _ => false

/-- What happens to the accounts and their keys. -/
inductive KeyEvent where
  | create (c : CreateKey checkpw)
  /-- Any other request for accounts, roles, groups and keys. -/
  | request (r : DirectoryRequest) (hop : r.op.isCreateApiKey = false)
  /-- Anything else that writes accounts. -/
  | accounts (db : DB) (columns : String → RoleColumns)
  /-- A write of `ApiKey.is_active`. -/
  | setActive (keyId : String) (isActive : Bool)
  /-- A call of `authenticate_api_key`. -/
  | authenticate (env : AuthEnv) (key : List Char) (clientIp : String)

/-- The tables, with the full key that was returned for each row of `api_keys`. -/
structure KeyStore where
  tables : Directory
  issued : Dict String (List Char) := Table.empty

/-- Write `ApiKey.is_active`. -/
def AccountKey.setActive (keyId : String) (isActive : Bool) (k : AccountKey) : AccountKey :=
  if k.id = keyId then { k with isActive } else k

theorem AccountKey.setActive_id (keyId : String) (isActive : Bool) (k : AccountKey) :
    (k.setActive keyId isActive).keyId = k.keyId := by
  unfold AccountKey.setActive AccountKey.keyId
  split <;> rfl

/-- The row as the gate has left it. -/
def AccountKey.stored (keys : Table Web.ApiKey.id) (k : AccountKey) : AccountKey :=
  match keys.get? k.id with
  | some row => { k with toApiKey := row }
  | none => k

theorem AccountKey.stored_id (keys : Table Web.ApiKey.id) (k : AccountKey) :
    (k.stored keys).keyId = k.keyId := by
  unfold AccountKey.stored AccountKey.keyId
  split
  next row hrow => exact (Table.get?_eq_some_iff.mp hrow).2
  next => rfl

variable {checkpw} in
/-- One event, in a session of its own. -/
def keyStep (s : KeyStore) : KeyEvent checkpw → KeyStore
  | .create c =>
      commitOrRollback s ((performRequest s.tables c.request).map (fun out =>
        (out.1, { tables := out.2, issued := s.issued.set c.id c.generated.fullKey })))
  | .request r _ => { s with tables := commitOrRollback s.tables (performRequest s.tables r) }
  | .accounts db columns => { s with tables := { s.tables with db, columns } }
  | .setActive keyId isActive =>
      { s with tables := { s.tables with
          apiKeys := s.tables.apiKeys.update (AccountKey.setActive keyId isActive)
            (AccountKey.setActive_id keyId isActive) } }
  | .authenticate env key clientIp =>
      match authenticateApiKey env s.tables.authDb key clientIp with
      | .ok (_, db) =>
          { s with tables := { s.tables with
              apiKeys := s.tables.apiKeys.update (AccountKey.stored db.apiKeys)
                (AccountKey.stored_id db.apiKeys) } }
      | .error _ => s

/-! ## §4. Every stored key was returned. -/

/-- **THE INVARIANT**: a stored key is one that was returned, and its prefix is its own. -/
structure KeysOk (s : KeyStore) : Prop where
  returned : ∀ k ∈ s.tables.apiKeys.rows, ∃ g : GeneratedKey checkpw,
    s.issued.get k.id = some g.fullKey ∧ k.keyPrefix = g.keyPrefix ∧ k.keyHash = g.keyHash
  prefixes : (s.tables.apiKeys.rows.map (fun k => k.keyPrefix)).Nodup

section

variable {checkpw} {s : KeyStore}

/-- Rows may go, and change in other columns. -/
theorem KeysOk.mono (hok : KeysOk checkpw s) {tables : Directory}
    (hrows : ∀ k' ∈ tables.apiKeys.rows, ∃ k ∈ s.tables.apiKeys.rows,
      k'.id = k.id ∧ k'.keyPrefix = k.keyPrefix ∧ k'.keyHash = k.keyHash)
    (hheads : (tables.apiKeys.rows.map (fun k => k.keyPrefix)).Sublist
      (s.tables.apiKeys.rows.map (fun k => k.keyPrefix))) :
    KeysOk checkpw { s with tables } := by
  refine ⟨fun k' hk' => ?_, hok.prefixes.sublist hheads⟩
  obtain ⟨k, hk, hid, hhead, hhash⟩ := hrows k' hk'
  obtain ⟨g, hissued, hkp, hkh⟩ := hok.returned k hk
  exact ⟨g, by rw [hid]; exact hissued, hhead.trans hkp, hhash.trans hkh⟩

theorem KeysOk.sublist (hok : KeysOk checkpw s) {tables : Directory}
    (h : tables.apiKeys.rows.Sublist s.tables.apiKeys.rows) : KeysOk checkpw { s with tables } :=
  hok.mono (fun k hk => ⟨k, h.subset hk, rfl, rfl, rfl⟩) (h.map _)

/-- The rows are rewritten, in other columns. -/
theorem KeysOk.update (hok : KeysOk checkpw s) {f : AccountKey → AccountKey}
    {hf : ∀ k, (f k).keyId = k.keyId}
    (hsame : ∀ k ∈ s.tables.apiKeys.rows,
      (f k).keyPrefix = k.keyPrefix ∧ (f k).keyHash = k.keyHash) :
    KeysOk checkpw { s with tables := { s.tables with
      apiKeys := s.tables.apiKeys.update f hf } } := by
  refine hok.mono (fun k' hk' => ?_) ?_
  · obtain ⟨k, hk, rfl⟩ := List.mem_map.mp hk'
    exact ⟨k, hk, hf k, hsame k hk⟩
  · have hmap : (s.tables.apiKeys.update f hf).rows.map (fun k => k.keyPrefix)
        = s.tables.apiKeys.rows.map (fun k => k.keyPrefix) := by
      show (s.tables.apiKeys.rows.map f).map _ = _
      rw [List.map_map]
      exact List.map_congr_left (fun k hk => (hsame k hk).1)
    rw [hmap]

/-- A request that creates no key leaves keys, or revokes them. -/
theorem performRequest_apiKeys {tables tables' : Directory} {r : DirectoryRequest} {x : Unit}
    (hop : r.op.isCreateApiKey = false) (h : performRequest tables r = .ok (x, tables')) :
    tables'.apiKeys.rows.Sublist tables.apiKeys.rows := by
  cases performed h with
  | createUser op actor mem ok => exact List.Sublist.refl _
  | updateUser op actor mem ok => exact List.Sublist.refl _
  | deleteUser op ok => exact List.Sublist.refl _
  | createRole op ok => rw [(createRole_same ok).apiKeys]
  | updateRole op ok => rw [(updateRole_same ok).apiKeys]
  | deleteRole op ok => rw [(deleteRole_same ok).apiKeys]
  | createServiceAccount op ok =>
      obtain ⟨-, -, -, ⟨db, c, rfl, -⟩, -⟩ := createServiceAccount_ok ok
      exact List.Sublist.refl _
  | updateServiceAccount op ok =>
      obtain ⟨_, -, -, -, -, _, c, -, -, rfl, -⟩ := updateServiceAccount_ok ok
      exact List.Sublist.refl _
  | deleteServiceAccount op ok =>
      obtain ⟨db, rfl, -⟩ := deleteServiceAccount_ok ok
      exact List.Sublist.refl _
  | createApiKey op ok =>
      rw [op] at hop
      cases hop
  | revokeApiKey op ok =>
      rw [revokeApiKey_ok ok]
      exact List.filter_sublist
  | editUserGroups op => exact List.Sublist.refl _

/-- A request for a new key was carried out. -/
theorem CreateKey.request_ok {c : CreateKey checkpw} {tables tables' : Directory} {x : Unit}
    (h : performRequest tables c.request = .ok (x, tables')) :
    ∃ key : AccountKey, key.id = c.id ∧ key.keyHash = c.generated.keyHash ∧
      key.keyPrefix = c.generated.keyPrefix ∧
      parseExpiry c.env c.data.expiresAt = .ok key.expiresAt ∧
      (∀ k ∈ tables.apiKeys.rows, k.id ≠ c.id) ∧
      (∀ k ∈ tables.apiKeys.rows, k.keyPrefix ≠ c.generated.keyPrefix) ∧
      ∃ apiKeys, tables' = { tables with apiKeys } ∧
        apiKeys.rows = tables.apiKeys.rows ++ [key] := by
  have h : withPermission c.request tables "update" (fun user =>
      stateOf (createApiKey c.env tables user c.accountId
        ⟨c.id, c.generated.keyPrefix, c.generated.keyHash⟩ c.data)) = .ok (x, tables') := h
  obtain ⟨_, h⟩ := withPermission_ok h
  obtain ⟨key, h⟩ := stateOf_ok h
  obtain ⟨hid, -, hhash, hhead, hexpiry, hnew, apiKeys, rfl, hrows⟩ := createApiKey_ok h
  refine ⟨key, hid, hhash, hhead, hexpiry, ?_, hnew, apiKeys, rfl, hrows⟩
  intro k hk hsame
  have hnodup := apiKeys.nodup
  rw [hrows, List.map_append, List.nodup_append] at hnodup
  exact hnodup.2.2 k.id (List.mem_map.mpr ⟨k, hk, rfl⟩) key.id
    (List.mem_map.mpr ⟨key, List.mem_cons_self, rfl⟩) (hsame.trans hid.symm)

/-- A key is created. -/
theorem KeysOk.create (hok : KeysOk checkpw s) {c : CreateKey checkpw} {x : Unit}
    {tables : Directory} (h : performRequest s.tables c.request = .ok (x, tables)) :
    KeysOk checkpw { tables, issued := s.issued.set c.id c.generated.fullKey } := by
  obtain ⟨key, hid, hhash, hhead, -, hfresh, hnew, apiKeys, rfl, hrows⟩ := c.request_ok h
  constructor
  · intro k hk
    change k ∈ apiKeys.rows at hk
    rw [hrows, List.mem_append, List.mem_singleton] at hk
    rcases hk with hk | rfl
    · obtain ⟨g, hissued, hkp, hkh⟩ := hok.returned k hk
      refine ⟨g, ?_, hkp, hkh⟩
      rw [Dict.get_set, if_neg (hfresh k hk)]
      exact hissued
    · refine ⟨c.generated, ?_, hhead, hhash⟩
      rw [Dict.get_set, if_pos hid]
  · show (apiKeys.rows.map (fun k => k.keyPrefix)).Nodup
    rw [hrows, List.map_append, List.nodup_append]
    refine ⟨hok.prefixes, List.nodup_singleton _, ?_⟩
    intro p hp p' hp' heq
    obtain ⟨k, hk, rfl⟩ := List.mem_map.mp hp
    rw [List.map_singleton, List.mem_singleton, hhead] at hp'
    exact hnew k hk (heq.trans hp')

/-- An authentication writes when a key was used, and no more. -/
theorem stored_authenticated {tables : Directory} {env : AuthEnv} {key : List Char}
    {clientIp : String} {user : Web.User} {db : AuthDb}
    (h : authenticateApiKey env tables.authDb key clientIp = .ok (user, db)) {k : AccountKey}
    (hk : k ∈ tables.apiKeys.rows) :
    ∃ id, k.stored db.apiKeys
      = { k with toApiKey := touch id env.utcnow clientIp k.toApiKey } := by
  obtain ⟨apiKey, -, rfl⟩ := authenticateApiKey_ok h
  have hrow : (tables.authDb.apiKeys.update (touch apiKey.id env.utcnow clientIp)
      (touch_id apiKey.id env.utcnow clientIp)).get? k.id
      = some (touch apiKey.id env.utcnow clientIp k.toApiKey) := by
    rw [Table.get?_eq_some_iff, touch_id]
    exact ⟨List.mem_map.mpr ⟨_, List.mem_map.mpr ⟨k, hk, rfl⟩, rfl⟩, rfl⟩
  refine ⟨apiKey.id, ?_⟩
  unfold AccountKey.stored
  simp only [hrow]

theorem touch_same (id : String) (now : Nat) (clientIp : String) (k : Web.ApiKey) :
    (touch id now clientIp k).keyPrefix = k.keyPrefix ∧
      (touch id now clientIp k).keyHash = k.keyHash ∧
      (touch id now clientIp k).expiresAt = k.expiresAt := by
  unfold touch
  split <;> exact ⟨rfl, rfl, rfl⟩

theorem KeysOk.authenticated (hok : KeysOk checkpw s) {env : AuthEnv} {key : List Char}
    {clientIp : String} {user : Web.User} {db : AuthDb}
    (h : authenticateApiKey env s.tables.authDb key clientIp = .ok (user, db)) :
    KeysOk checkpw { s with tables := { s.tables with
      apiKeys := s.tables.apiKeys.update (AccountKey.stored db.apiKeys)
        (AccountKey.stored_id db.apiKeys) } } := by
  refine hok.update (fun k hk => ?_)
  obtain ⟨id, hstored⟩ := stored_authenticated h hk
  obtain ⟨hhead, hhash, -⟩ := touch_same id env.utcnow clientIp k.toApiKey
  rw [hstored]
  exact ⟨hhead, hhash⟩

/-- Tables without keys. -/
theorem KeysOk.start {tables : Directory} (h : tables.apiKeys.rows = []) :
    KeysOk checkpw { tables } := by
  refine ⟨fun k hk => ?_, ?_⟩
  · rw [h] at hk
    cases hk
  · rw [h]
    exact List.nodup_nil

/-- **EVERY EVENT KEEPS THE INVARIANT.** -/
theorem keysOk_step (s : KeyStore) (e : KeyEvent checkpw) (hok : KeysOk checkpw s) :
    KeysOk checkpw (keyStep s e) := by
  cases e with
  | create c =>
      refine commitOrRollback_preserves hok (fun x s' hout => ?_)
      obtain ⟨⟨y, tables⟩, hperform, heq⟩ := map_eq_ok hout
      obtain ⟨-, rfl⟩ := Prod.mk.inj heq
      exact hok.create hperform
  | request r hop =>
      refine hok.sublist ?_
      show (commitOrRollback s.tables (performRequest s.tables r)).apiKeys.rows.Sublist _
      cases hperform : performRequest s.tables r with
      | error exn => exact List.Sublist.refl _
      | ok out => exact performRequest_apiKeys hop hperform
  | accounts db columns => exact hok.sublist (List.Sublist.refl _)
  | setActive keyId isActive =>
      refine hok.update (fun k _ => ?_)
      unfold AccountKey.setActive
      split <;> exact ⟨rfl, rfl⟩
  | authenticate env key clientIp =>
      unfold keyStep
      cases hauth : authenticateApiKey env s.tables.authDb key clientIp with
      | error exn => simpa only [hauth] using hok
      | ok out =>
          simp only [hauth]
          exact hok.authenticated hauth

/-! ## §5. Which texts authenticate. -/

/-- The account of a key, as it is returned. -/
def Directory.webUser (tables : Directory) (account : User) : Web.User where
  id := account.id
  username := account.username
  role := account.role
  isActive := account.isActive
  expiresAt := (tables.columns account.id).expiresAt

/-- The text is the full key of a stored key that is live, of an account that is live. -/
structure LiveKey (s : KeyStore) (now : Nat) (key : List Char) (k : AccountKey) (account : User) :
    Prop where
  stored : k ∈ s.tables.apiKeys.rows
  issued : s.issued.get k.id = some key
  active : k.isActive = true
  live : ∀ t, k.expiresAt = some t → now ≤ t
  known : account ∈ s.tables.db.users.rows
  holder : account.id = k.serviceAccountId
  accountActive : account.isActive = true
  accountLive : ∀ t, (s.tables.columns account.id).expiresAt = some t → now ≤ t

theorem get?_view {tables : Directory} {id : String} {user : Web.User} :
    tables.authDb.users.get? id = some user ↔
      ∃ account ∈ tables.db.users.rows, account.id = id ∧ user = tables.webUser account := by
  rw [Table.get?_eq_some_iff]
  constructor
  · rintro ⟨hmem, hid⟩
    obtain ⟨account, haccount, rfl⟩ := List.mem_map.mp hmem
    exact ⟨account, haccount, hid, rfl⟩
  · rintro ⟨account, haccount, hid, rfl⟩
    exact ⟨List.mem_map.mpr ⟨account, haccount, rfl⟩, hid⟩

/-- The lookup by prefix finds one row. -/
theorem filter_prefix (hok : KeysOk checkpw s) {k : AccountKey}
    (hk : k ∈ s.tables.apiKeys.rows) :
    s.tables.authDb.apiKeys.rows.filter (fun row => row.keyPrefix = k.keyPrefix)
      = [k.toApiKey] := by
  have hnodup : (s.tables.authDb.apiKeys.rows.map (fun row => row.keyPrefix)).Nodup := by
    show ((s.tables.apiKeys.rows.map AccountKey.toApiKey).map _).Nodup
    rw [List.map_map]
    exact hok.prefixes
  exact Table.filter_eq_singleton hnodup (List.mem_map.mpr ⟨k, hk, rfl⟩)

/-- A full key belongs to one row. -/
theorem issued_unique (hok : KeysOk checkpw s) {k k' : AccountKey}
    (hk : k ∈ s.tables.apiKeys.rows) (hk' : k' ∈ s.tables.apiKeys.rows) {key : List Char}
    (h : s.issued.get k.id = some key) (h' : s.issued.get k'.id = some key) : k = k' := by
  obtain ⟨g, hissued, hhead, -⟩ := hok.returned k hk
  obtain ⟨g', hissued', hhead', -⟩ := hok.returned k' hk'
  have hfull : g.fullKey = g'.fullKey :=
    Option.some.inj ((hissued.symm.trans h).trans (h'.symm.trans hissued'))
  have hparse := g.parse_fullKey
  rw [hfull, g'.parse_fullKey] at hparse
  obtain ⟨hsame, -⟩ := Prod.mk.inj (Option.some.inj hparse)
  exact List.inj_on_of_nodup_map hok.prefixes hk hk'
    ((hhead.trans hsame.symm).trans hhead'.symm)

/-- One state: the texts that authenticate. -/
theorem authenticated_iff (hok : KeysOk checkpw s) {env : AuthEnv} (henv : env.checkpw = checkpw)
    {key : List Char} {user : Web.User} :
    (∃ apiKey, Authenticated env s.tables.authDb key apiKey user) ↔
      ∃ k account, LiveKey s env.utcnow key k account ∧ user = s.tables.webUser account := by
  constructor
  · rintro ⟨apiKey, h⟩
    have hmem : apiKey ∈ s.tables.authDb.apiKeys.rows := by
      have hfound : apiKey ∈ s.tables.authDb.apiKeys.rows.filter
          (fun row => row.keyPrefix = apiKey.keyPrefix) := by
        rw [h.found]
        exact List.mem_cons_self
      exact (List.mem_filter.mp hfound).1
    obtain ⟨k, hk, rfl⟩ := List.mem_map.mp hmem
    obtain ⟨g, hissued, hhead, hhash⟩ := hok.returned k hk
    obtain ⟨secret, hparse, hcheck⟩ := h.parsed
    rw [henv, hhash, g.exact] at hcheck
    have hkey : key = g.fullKey := by
      rw [(parseApiKey_eq_some_iff.mp hparse).1, hhead, hcheck]
      rfl
    obtain ⟨account, haccount, hid, rfl⟩ := get?_view.mp h.account
    exact ⟨k, account, ⟨hk, hkey ▸ hissued, h.active, not_expired_iff.mp h.live, haccount, hid,
      h.accountActive, not_expired_iff.mp h.accountLive⟩, rfl⟩
  · rintro ⟨k, account, h, rfl⟩
    obtain ⟨g, hissued, hhead, hhash⟩ := hok.returned k h.stored
    obtain rfl : g.fullKey = key := Option.some.inj (hissued.symm.trans h.issued)
    refine ⟨k.toApiKey, ⟨⟨g.secret.text, ?_, ?_⟩, filter_prefix hok h.stored, h.active,
      not_expired_iff.mpr h.live, get?_view.mpr ⟨account, h.known, h.holder, rfl⟩,
      h.accountActive, not_expired_iff.mpr h.accountLive⟩⟩
    · rw [hhead]
      exact g.parse_fullKey
    · rw [henv, hhash, g.exact]

/-- **WHICH API KEYS AUTHENTICATE**: after every run from tables without keys, a text
authenticates exactly if it is the full key of a stored and active key, key and account not
over, of an account that is there and active; and the user is this account. -/
theorem api_key_authenticates_iff {tables : Directory} (hstart : tables.apiKeys.rows = [])
    (events : List (KeyEvent checkpw)) {env : AuthEnv} (henv : env.checkpw = checkpw)
    (key : List Char) (clientIp : String) (user : Web.User) :
    (∃ db, authenticateApiKey env (run keyStep { tables } events).tables.authDb key clientIp
        = .ok (user, db)) ↔
      ∃ k account, LiveKey (run keyStep { tables } events) env.utcnow key k account ∧
        user = (run keyStep { tables } events).tables.webUser account := by
  rw [← authenticated_iff (run_invariant' keysOk_step events (KeysOk.start hstart)) henv]
  constructor
  · rintro ⟨db, h⟩
    obtain ⟨apiKey, hauth, -⟩ := authenticateApiKey_ok h
    exact ⟨apiKey, hauth⟩
  · rintro ⟨apiKey, h⟩
    exact authenticateApiKey_of clientIp h

end

/-- A server that checks keys, at a time. -/
def keyEnv (checkpw : List Char → List Char → Bool) (utcnow : Nat) : AuthEnv where
  now := utcnow
  utcnow := utcnow
  checkpw := checkpw
  jwtAvailable := true
  jwtDecode := fun _ => none
  parseInt := fun _ => none
  hasSessionFactory := true

/-- A check for the runs below: the hash is the secret. -/
def plainCheck (password storedHash : List Char) : Bool := password = storedHash

/-- A key of equal digits. -/
def plainKey (digit : Char) (hdigit : digit ∈ hexDigits) : GeneratedKey plainCheck where
  keyId := ⟨List.replicate 8 digit, List.length_replicate,
    fun _ hc => List.eq_of_mem_replicate hc ▸ hdigit⟩
  secret := ⟨List.replicate 48 digit, List.length_replicate,
    fun _ hc => List.eq_of_mem_replicate hc ▸ hdigit⟩
  keyHash := List.replicate 48 digit
  exact := fun _ => decide_eq_true_iff

/-- The tables of a new server. -/
def adminTables : Directory where
  db := { users := ⟨[{ id := "1", username := "admin", passwordHash := "h", role := "admin" }],
    by decide⟩ }

/-- A service account is created, and a key for it. -/
def ciKeyEvents (accountExpiry keyExpiry : Option String) (env : DirectoryEnv) :
    List (KeyEvent plainCheck) :=
  [.request
     { env, credential := .token "1"
       op := .createServiceAccount "2" { username := "ci", expiresAt := accountExpiry } } rfl,
   .create
     { env, credential := .token "1", accountId := "2", id := "k"
       generated := plainKey '0' (by decide +kernel)
       data := { name := "deploy", expiresAt := keyExpiry } }]

/-- The key that was returned authenticates its account. -/
theorem ci_key_authenticates :
    ∃ user db, user.id = "2" ∧
      authenticateApiKey (keyEnv plainCheck 0)
        (run keyStep { tables := adminTables } (ciKeyEvents none none plainEnv)).tables.authDb
        (plainKey '0' (by decide +kernel)).fullKey "10.0.0.9" = .ok (user, db) := by
  have hkey : ∃ k ∈ (run keyStep { tables := adminTables }
      (ciKeyEvents none none plainEnv)).tables.apiKeys.rows,
      k.id = "k" ∧ k.isActive = true ∧ k.expiresAt = none ∧ k.serviceAccountId = "2" := by
    decide +kernel
  have hissued : (run keyStep { tables := adminTables }
      (ciKeyEvents none none plainEnv)).issued.get "k"
        = some (plainKey '0' (by decide +kernel)).fullKey := by
    decide +kernel
  have haccount : ∃ u ∈ (run keyStep { tables := adminTables }
      (ciKeyEvents none none plainEnv)).tables.db.users.rows,
      u.id = "2" ∧ u.isActive = true := by
    decide +kernel
  have hlive : ((run keyStep { tables := adminTables }
      (ciKeyEvents none none plainEnv)).tables.columns "2").expiresAt = none := by
    decide +kernel
  obtain ⟨k, hk, hid, hactive, hexpiry, hholder⟩ := hkey
  obtain ⟨account, hmem, hid', haccountActive⟩ := haccount
  rw [← hid] at hissued
  rw [← hid'] at hlive
  obtain ⟨db, hauth⟩ := (api_key_authenticates_iff rfl (ciKeyEvents none none plainEnv)
    (rfl : (keyEnv plainCheck 0).checkpw = plainCheck) (plainKey '0' (by decide +kernel)).fullKey "10.0.0.9"
    _).mpr ⟨k, account, ⟨hk, hissued, hactive, by simp [hexpiry], hmem, hid'.trans hholder.symm,
      haccountActive, by simp [hlive]⟩, rfl⟩
  exact ⟨_, db, hid', hauth⟩

end PureBoot.Accounts
