/-
  PureBoot.Accounts.Expiry — the EXPIRY of accounts and keys as an instant.

  An expiry is given as an ISO-8601 text, which may name a UTC offset.  The handlers read
  the text into an aware `datetime`; the column has no time zone and keeps what its clock
  shows, without the offset; `authenticate_api_key` compares that with the clock of UTC.
  A text with an offset east of UTC so names an earlier instant than the one that is
  compared, and the key is good for the hours between.

  Beside the tables a run keeps the times that were given, with their offsets.

  Main results:
    * `recorded_step` — what is stored is what the clock of the given time shows;
    * `inTime_iff` — when a state accepts no key too late;
    * `expiry_instant_iff` — the same after every run, and the texts for which it holds.
-/
import PureBoot.Accounts.ApiKeys
import PureBoot.Lib.Text

namespace PureBoot.Accounts

open PureBoot.Lib PureBoot.Web

/-! ## §1. Times. -/

/-- A `datetime`, in microseconds. -/
structure ZonedTime where
  /-- What its clock shows. -/
  wall : Nat
  /-- Its `utcoffset()`, if it has a time zone. -/
  utcoffset : Option Int := none
  deriving DecidableEq, Repr

namespace ZonedTime

/-- The instant it names, in UTC; without a time zone it is in UTC. -/
def instant (d : ZonedTime) : Int := d.wall - d.utcoffset.getD 0

/-- A time of a column. -/
def naive (wall : Nat) : ZonedTime := { wall }

end ZonedTime

variable (fromisoformat : List Char → Option ZonedTime)

/-- `datetime.fromisoformat(text.replace("Z", "+00:00"))`. -/
def readTime (text : String) : Option ZonedTime :=
  fromisoformat (replaceAll ['Z'] "+00:00".toList text.toList)

/-- The expiry that a request for a new account or key gives. -/
def givenExpiry : Option String → Option ZonedTime
  | none | some "" => none
  | some text => readTime fromisoformat text

/-- The handlers read times so; the column takes what the clock shows. -/
def ReadsTimes (env : DirectoryEnv) : Prop :=
  ∀ text, env.parseTime text = (readTime fromisoformat text).map ZonedTime.wall

section

variable {fromisoformat} {env : DirectoryEnv}

theorem givenExpiry_some {text : String} (hne : text ≠ "") :
    givenExpiry fromisoformat (some text) = readTime fromisoformat text := by
  unfold givenExpiry
  split
  next heq => cases heq
  next heq => exact absurd (Option.some.inj heq) hne
  next heq => rw [Option.some.inj heq]

theorem parseExpiry_given (hreads : ReadsTimes fromisoformat env) {text : Option String}
    {expiresAt : Option Nat} (h : parseExpiry env text = .ok expiresAt) :
    expiresAt = (givenExpiry fromisoformat text).map ZonedTime.wall := by
  unfold parseExpiry at h
  split at h
  next => exact (Except.ok.inj h).symm
  next => exact (Except.ok.inj h).symm
  next text hne =>
    rw [hreads text] at h
    rw [givenExpiry_some hne]
    cases hread : readTime fromisoformat text with
    | none =>
        rw [hread] at h
        cases h
    | some d =>
        rw [hread] at h
        exact (Except.ok.inj h).symm

theorem updateExpiry_given (hreads : ReadsTimes fromisoformat env) {before : Option ZonedTime}
    {text : Option String} {expiresAt : Option Nat}
    (h : updateExpiry env (before.map ZonedTime.wall) text = .ok expiresAt) :
    expiresAt = (match text with
      | none => before
      | some text => readTime fromisoformat text).map ZonedTime.wall := by
  unfold updateExpiry at h
  split at h
  next => exact (Except.ok.inj h).symm
  next text =>
    rw [hreads text] at h
    show expiresAt = (readTime fromisoformat text).map ZonedTime.wall
    cases hread : readTime fromisoformat text with
    | none =>
        rw [hread] at h
        cases h
    | some d =>
        rw [hread] at h
        exact (Except.ok.inj h).symm

end

/-! ## §2. Runs. -/

/-- The expiries of the accounts after a request that was carried out. -/
def DirectoryOp.expiries (before : String → Option ZonedTime) :
    DirectoryOp → String → Option ZonedTime
  | .createUser uuid _ => Function.update before uuid none
  | .createServiceAccount uuid data =>
      Function.update before uuid (givenExpiry fromisoformat data.expiresAt)
  | .updateServiceAccount accountId data =>
      Function.update before accountId (match data.expiresAt with
        | none => before accountId
        | some text => readTime fromisoformat text)
  | _ => before

/-- The keys and accounts, with the expiries that were given for them. -/
structure ExpiryWatch where
  store : KeyStore
  keyExpiry : String → Option ZonedTime
  accountExpiry : String → Option ZonedTime

/-- Tables without keys. -/
def ExpiryWatch.start (tables : Directory) : ExpiryWatch where
  store := { tables }
  keyExpiry := fun _ => none
  accountExpiry := fun id => (tables.columns id).expiresAt.map ZonedTime.naive

variable {checkpw : List Char → List Char → Bool}

/-- One event. -/
def expiryStep (w : ExpiryWatch) : KeyEvent checkpw → ExpiryWatch
  | .create c =>
      commitOrRollback w ((performRequest w.store.tables c.request).map (fun out => (out.1,
        { w with
          store := { tables := out.2, issued := w.store.issued.set c.id c.generated.fullKey }
          keyExpiry := Function.update w.keyExpiry c.id
            (givenExpiry fromisoformat c.data.expiresAt) })))
  | .request r _ =>
      commitOrRollback w ((performRequest w.store.tables r).map (fun out => (out.1,
        { w with
          store := { w.store with tables := out.2 }
          accountExpiry := r.op.expiries fromisoformat w.accountExpiry })))
  | .accounts db columns =>
      { w with
        store := keyStep w.store (.accounts db columns : KeyEvent checkpw)
        accountExpiry := fun id => (columns id).expiresAt.map ZonedTime.naive }
  | .setActive keyId isActive =>
      { w with store := keyStep w.store (.setActive keyId isActive : KeyEvent checkpw) }
  | .authenticate env key clientIp =>
      { w with store := keyStep w.store (.authenticate env key clientIp : KeyEvent checkpw) }

/-- The run of the keys goes on below. -/
theorem expiryStep_store (w : ExpiryWatch) (e : KeyEvent checkpw) :
    (expiryStep fromisoformat w e).store = keyStep w.store e := by
  cases e with
  | create c =>
      cases hperform : performRequest w.store.tables c.request <;>
        simp only [expiryStep, keyStep, hperform, Except.map, commitOrRollback]
  | request r hop =>
      cases hperform : performRequest w.store.tables r <;>
        simp only [expiryStep, keyStep, hperform, Except.map, commitOrRollback]
  | accounts db columns => rfl
  | setActive keyId isActive => rfl
  | authenticate env key clientIp => rfl

/-- The environment of the handler of an event. -/
def KeyEvent.env? : KeyEvent checkpw → Option DirectoryEnv
  | .create c => some c.env
  | .request r _ => some r.env
  | _ => none

/-! ## §3. What is stored. -/

/-- **THE INVARIANT**: a column has what the clock of the given time shows. -/
structure ExpiryWatch.Recorded (w : ExpiryWatch) : Prop where
  keys : ∀ k ∈ w.store.tables.apiKeys.rows,
    k.expiresAt = (w.keyExpiry k.id).map ZonedTime.wall
  accounts : ∀ id, (w.store.tables.columns id).expiresAt = (w.accountExpiry id).map ZonedTime.wall

section

variable {fromisoformat} {w : ExpiryWatch} {before : String → Option ZonedTime}
  {tables tables' : Directory} {r : DirectoryRequest} {x : Unit}

/-- The column of one account is written. -/
theorem expiry_setColumns (hbefore : ∀ id, (tables.columns id).expiresAt
      = (before id).map ZonedTime.wall) {userId : String} {c : RoleColumns} {d : Option ZonedTime}
    (hc : c.expiresAt = d.map ZonedTime.wall) (id : String) :
    ((tables.setColumns userId c).columns id).expiresAt
      = (Function.update before userId d id).map ZonedTime.wall := by
  by_cases hid : id = userId
  · subst hid
    rw [setColumns_columns_self, Function.update_self, hc]
  · rw [setColumns_columns_of_ne c hid, Function.update_of_ne hid]
    exact hbefore id

/-- **WHAT A REQUEST DOES TO THE EXPIRIES OF ACCOUNTS.** -/
theorem expiries_of_request (hreads : ReadsTimes fromisoformat r.env)
    (hbefore : ∀ id, (tables.columns id).expiresAt = (before id).map ZonedTime.wall)
    (h : performRequest tables r = .ok (x, tables')) (id : String) :
    (tables'.columns id).expiresAt
      = (r.op.expiries fromisoformat before id).map ZonedTime.wall := by
  unfold DirectoryOp.expiries
  cases performed h with
  | createUser op actor mem ok =>
      rw [op]
      exact expiry_setColumns hbefore (c := {}) rfl id
  | createServiceAccount op ok =>
      obtain ⟨-, -, -, ⟨db, c, rfl, -⟩, -, hexpiry, -⟩ := createServiceAccount_ok ok
      rw [setColumns_columns_self] at hexpiry
      rw [op]
      exact expiry_setColumns hbefore (parseExpiry_given hreads hexpiry) id
  | updateServiceAccount op ok =>
      obtain ⟨account, -, rfl, -, -, _, c, -, -, rfl, hexpiry, -⟩ := updateServiceAccount_ok ok
      rw [hbefore] at hexpiry
      rw [op]
      exact expiry_setColumns hbefore (updateExpiry_given hreads hexpiry) id
  -- the others leave the columns of every account
  | updateUser op actor mem ok =>
      rw [op]
      exact hbefore id
  | deleteUser op ok =>
      rw [op]
      exact hbefore id
  | createRole op ok =>
      rw [(createRole_same ok).columns, op]
      exact hbefore id
  | updateRole op ok =>
      rw [(updateRole_same ok).columns, op]
      exact hbefore id
  | deleteRole op ok =>
      rw [(deleteRole_same ok).columns, op]
      exact hbefore id
  | deleteServiceAccount op ok =>
      obtain ⟨db, rfl, -⟩ := deleteServiceAccount_ok ok
      rw [op]
      exact hbefore id
  | createApiKey op ok =>
      obtain ⟨-, -, -, -, -, -, _, rfl, -⟩ := createApiKey_ok ok
      rw [op]
      exact hbefore id
  | revokeApiKey op ok =>
      rw [revokeApiKey_ok ok, op]
      exact hbefore id
  | editUserGroups op =>
      rw [op]
      exact hbefore id

/-- A key is created. -/
theorem recorded_create {c : CreateKey checkpw} (hreads : ReadsTimes fromisoformat c.env)
    (hrec : w.Recorded) (h : performRequest w.store.tables c.request = .ok (x, tables'))
    {k : AccountKey} (hk : k ∈ tables'.apiKeys.rows) :
    k.expiresAt = (Function.update w.keyExpiry c.id
      (givenExpiry fromisoformat c.data.expiresAt) k.id).map ZonedTime.wall := by
  obtain ⟨key, hid, -, -, hexpiry, hfresh, -, apiKeys, rfl, hrows⟩ := CreateKey.request_ok h
  change k ∈ apiKeys.rows at hk
  rw [hrows, List.mem_append, List.mem_singleton] at hk
  rcases hk with hk | rfl
  · rw [Function.update_of_ne (hfresh k hk)]
    exact hrec.keys k hk
  · rw [hid, Function.update_self]
    exact parseExpiry_given hreads hexpiry

/-- The rows of the keys are rewritten, but for their expiry. -/
theorem ExpiryWatch.Recorded.update (hrec : w.Recorded) {f : AccountKey → AccountKey}
    (hf : ∀ k, (f k).keyId = k.keyId)
    (hsame : ∀ k ∈ w.store.tables.apiKeys.rows, (f k).expiresAt = k.expiresAt) {k : AccountKey}
    (hk : k ∈ (w.store.tables.apiKeys.update f hf).rows) :
    k.expiresAt = (w.keyExpiry k.id).map ZonedTime.wall := by
  obtain ⟨k', hk', rfl⟩ := Table.mem_update.mp hk
  have hid : (f k').id = k'.id := hf k'
  rw [hsame k' hk', hid]
  exact hrec.keys k' hk'

/-- **EVERY EVENT KEEPS THE INVARIANT.** -/
theorem recorded_step (w : ExpiryWatch) (e : KeyEvent checkpw)
    (hreads : ∀ env, e.env? = some env → ReadsTimes fromisoformat env) (hrec : w.Recorded) :
    (expiryStep fromisoformat w e).Recorded := by
  cases e with
  | create c =>
      refine commitOrRollback_preserves hrec (fun x w' hout => ?_)
      obtain ⟨⟨y, tables⟩, hperform, heq⟩ := map_eq_ok hout
      obtain ⟨-, rfl⟩ := Prod.mk.inj heq
      have hreads' : ReadsTimes fromisoformat c.request.env := hreads c.env rfl
      exact ⟨fun k hk => recorded_create hreads' hrec hperform hk,
        expiries_of_request hreads' hrec.accounts hperform⟩
  | request r hop =>
      refine commitOrRollback_preserves hrec (fun x w' hout => ?_)
      obtain ⟨⟨y, tables⟩, hperform, heq⟩ := map_eq_ok hout
      obtain ⟨-, rfl⟩ := Prod.mk.inj heq
      exact ⟨fun k hk => hrec.keys k ((performRequest_apiKeys hop hperform).subset hk),
        expiries_of_request (hreads r.env rfl) hrec.accounts hperform⟩
  | accounts db columns =>
      refine ⟨hrec.keys, fun id => ?_⟩
      show (columns id).expiresAt = ((columns id).expiresAt.map ZonedTime.naive).map ZonedTime.wall
      rw [Option.map_map]
      exact Option.map_id'.symm
  | setActive keyId isActive =>
      refine ⟨fun k hk => hrec.update (AccountKey.setActive_id keyId isActive)
        (fun k _ => ?_) hk, hrec.accounts⟩
      unfold AccountKey.setActive
      split <;> rfl
  | authenticate env key clientIp =>
      unfold expiryStep keyStep
      cases hauth : authenticateApiKey env w.store.tables.authDb key clientIp with
      | error exn => simpa only [hauth] using hrec
      | ok out =>
          simp only [hauth]
          refine ⟨fun k hk => hrec.update (AccountKey.stored_id out.2.apiKeys)
            (fun k' hk' => ?_) hk, hrec.accounts⟩
          obtain ⟨id, hstored⟩ := stored_authenticated hauth hk'
          rw [hstored]
          exact (touch_same id env.utcnow clientIp k'.toApiKey).2.2

end

/-! ## §4. When no key is accepted too late. -/

/-- **THE LAW OF THE EXPIRY**, at one time: a key that is accepted is not after its expiry,
nor after that of its account. -/
def InTime (w : ExpiryWatch) (env : AuthEnv) : Prop :=
  ∀ key clientIp user db,
    authenticateApiKey env w.store.tables.authDb key clientIp = .ok (user, db) →
    ∀ k ∈ w.store.tables.apiKeys.rows, w.store.issued.get k.id = some key →
      (∀ d, w.keyExpiry k.id = some d → env.utcnow ≤ d.instant) ∧
      ∀ d, w.accountExpiry k.serviceAccountId = some d → env.utcnow ≤ d.instant

/-- The expiries that were given for a key and for its account. -/
def ExpiryWatch.given (w : ExpiryWatch) (k : AccountKey) : List ZonedTime :=
  (w.keyExpiry k.id).toList ++ (w.accountExpiry k.serviceAccountId).toList

/-- The key is active, and so is its account. -/
def ExpiryWatch.Usable (w : ExpiryWatch) (k : AccountKey) : Prop :=
  k ∈ w.store.tables.apiKeys.rows ∧ k.isActive = true ∧
    ∃ account ∈ w.store.tables.db.users.rows, account.id = k.serviceAccountId ∧
      account.isActive = true

/-- The clock of one of the two expiries shows no more than the instant of each. -/
def ExpiryWatch.Covered (w : ExpiryWatch) : Prop :=
  ∀ k, w.Usable k → ∀ d ∈ w.given k, ∃ d' ∈ w.given k, (d'.wall : Int) ≤ d.instant

section

variable {w : ExpiryWatch}

theorem mem_given {k : AccountKey} {d : ZonedTime} :
    d ∈ w.given k ↔
      w.keyExpiry k.id = some d ∨ w.accountExpiry k.serviceAccountId = some d := by
  unfold ExpiryWatch.given
  rw [List.mem_append, Option.mem_toList, Option.mem_toList]

/-- A key that can be used is accepted up to what the clocks of its expiries show. -/
theorem exists_liveKey_iff (hok : KeysOk checkpw w.store) (hrec : w.Recorded) {k : AccountKey}
    (hk : k ∈ w.store.tables.apiKeys.rows) {now : Nat} :
    (∃ key account, LiveKey w.store now key k account) ↔
      w.Usable k ∧ ∀ d ∈ w.given k, now ≤ d.wall := by
  constructor
  · rintro ⟨key, account, h⟩
    refine ⟨⟨hk, h.active, account, h.known, h.holder, h.accountActive⟩, fun d hd => ?_⟩
    rcases mem_given.mp hd with hd | hd
    · refine h.live d.wall ?_
      rw [hrec.keys k hk, hd, Option.map_some]
    · refine h.accountLive d.wall ?_
      rw [hrec.accounts, h.holder, hd, Option.map_some]
  · rintro ⟨⟨-, hactive, account, hknown, hholder, haccountActive⟩, hlive⟩
    obtain ⟨g, hissued, -⟩ := hok.returned k hk
    refine ⟨g.fullKey, account, hk, hissued, hactive, ?_, hknown, hholder, haccountActive, ?_⟩
    · intro t ht
      rw [hrec.keys k hk] at ht
      obtain ⟨d, hd, rfl⟩ := Option.map_eq_some_iff.mp ht
      exact hlive d (mem_given.mpr (.inl hd))
    · intro t ht
      rw [hrec.accounts, hholder] at ht
      obtain ⟨d, hd, rfl⟩ := Option.map_eq_some_iff.mp ht
      exact hlive d (mem_given.mpr (.inr hd))

/-- **WHEN A STATE ACCEPTS NO KEY TOO LATE.** -/
theorem inTime_iff (hok : KeysOk checkpw w.store) (hrec : w.Recorded) :
    (∀ env : AuthEnv, env.checkpw = checkpw → InTime w env) ↔ w.Covered := by
  constructor
  · intro hin k husable d hd
    by_contra hnone
    -- at the first microsecond after the instant the key is still accepted
    have hafter : ∀ d' ∈ w.given k, (d.instant + 1).toNat ≤ d'.wall := by
      intro d' hd'
      have hlate : ¬ (d'.wall : Int) ≤ d.instant := fun hle => hnone ⟨d', hd', hle⟩
      omega
    obtain ⟨key, account, hlive⟩ := (exists_liveKey_iff hok hrec husable.1).mpr ⟨husable, hafter⟩
    obtain ⟨apiKey, hauth⟩ := (authenticated_iff hok
      (rfl : (keyEnv checkpw (d.instant + 1).toNat).checkpw = checkpw)).mpr
        ⟨k, account, hlive, rfl⟩
    obtain ⟨db, hdone⟩ := authenticateApiKey_of "" hauth
    have hboth := hin _ rfl key "" _ db hdone k husable.1 hlive.issued
    have hle : ((d.instant + 1).toNat : Int) ≤ d.instant := by
      rcases mem_given.mp hd with hd | hd
      · exact hboth.1 d hd
      · exact hboth.2 d hd
    omega
  · intro hcovered env henv key clientIp user db hdone k hk hissued
    obtain ⟨apiKey, hauth, -⟩ := authenticateApiKey_ok hdone
    obtain ⟨k', account, hlive, -⟩ := (authenticated_iff hok henv).mp ⟨apiKey, hauth⟩
    obtain rfl : k' = k := issued_unique hok hlive.stored hk hlive.issued hissued
    obtain ⟨husable, hwall⟩ := (exists_liveKey_iff hok hrec hk).mp ⟨key, account, hlive⟩
    have hle : ∀ d ∈ w.given k', (env.utcnow : Int) ≤ d.instant := by
      intro d hd
      obtain ⟨d', hd', hcover⟩ := hcovered k' husable d hd
      have hnow := hwall d' hd'
      omega
    exact ⟨fun d hd => hle d (mem_given.mpr (.inl hd)), fun d hd => hle d (mem_given.mpr (.inr hd))⟩

end

/-! ## §5. Texts that are not east of UTC. -/

/-- The expiry that an event gives. -/
def KeyEvent.expiryText : KeyEvent checkpw → Option String
  | .create c => c.data.expiresAt
  | .request { op := .createServiceAccount _ data, .. } _ => data.expiresAt
  | .request { op := .updateServiceAccount _ data, .. } _ => data.expiresAt
  | _ => none

/-- The time has no UTC offset, or one that is not east of UTC. -/
def ZonedTime.NotEast (d : ZonedTime) : Prop := d.utcoffset.getD 0 ≤ 0

/-- The expiry that is given is not east of UTC. -/
def GivesNotEast (e : KeyEvent checkpw) : Prop :=
  ∀ text, e.expiryText = some text → ∀ d, readTime fromisoformat text = some d → d.NotEast

/-- No expiry that was given is east of UTC. -/
structure ExpiryWatch.NotEast (w : ExpiryWatch) : Prop where
  keys : ∀ id d, w.keyExpiry id = some d → d.NotEast
  accounts : ∀ id d, w.accountExpiry id = some d → d.NotEast

section

variable {fromisoformat} {w : ExpiryWatch}

/-- Where no expiry is east of UTC, each covers itself. -/
theorem ExpiryWatch.NotEast.covered (h : w.NotEast) : w.Covered := by
  intro k _ d hd
  refine ⟨d, hd, ?_⟩
  have hoffset : d.NotEast := by
    rcases mem_given.mp hd with hd | hd
    · exact h.keys _ d hd
    · exact h.accounts _ d hd
  unfold ZonedTime.NotEast at hoffset
  unfold ZonedTime.instant
  omega

theorem notEast_update {before : String → Option ZonedTime}
    (hbefore : ∀ id d, before id = some d → d.NotEast) {id₀ : String} {given : Option ZonedTime}
    (hgiven : ∀ d, given = some d → d.NotEast) (id : String) (d : ZonedTime)
    (h : Function.update before id₀ given id = some d) : d.NotEast := by
  by_cases hid : id = id₀
  · subst hid
    rw [Function.update_self] at h
    exact hgiven d h
  · rw [Function.update_of_ne hid] at h
    exact hbefore id d h

theorem notEast_given {text : Option String} (h : ∀ t, text = some t →
      ∀ d, readTime fromisoformat t = some d → d.NotEast) (d : ZonedTime)
    (hd : givenExpiry fromisoformat text = some d) : d.NotEast := by
  unfold givenExpiry at hd
  split at hd
  next => cases hd
  next => cases hd
  next t _ => exact h t rfl d hd

/-- Nothing but a text with an offset to the east makes an expiry so. -/
theorem notEast_step (w : ExpiryWatch) (e : KeyEvent checkpw)
    (hgives : GivesNotEast fromisoformat e) (h : w.NotEast) :
    (expiryStep fromisoformat w e).NotEast := by
  cases e with
  | create c =>
      refine commitOrRollback_preserves h (fun x w' hout => ?_)
      obtain ⟨⟨y, tables⟩, -, heq⟩ := map_eq_ok hout
      obtain ⟨-, rfl⟩ := Prod.mk.inj heq
      exact ⟨notEast_update h.keys (notEast_given hgives), h.accounts⟩
  | request r hop =>
      refine commitOrRollback_preserves h (fun x w' hout => ?_)
      obtain ⟨⟨y, tables⟩, -, heq⟩ := map_eq_ok hout
      obtain ⟨-, rfl⟩ := Prod.mk.inj heq
      refine ⟨h.keys, ?_⟩
      obtain ⟨env, ctx, credential, op⟩ := r
      show ∀ id d, op.expiries fromisoformat w.accountExpiry id = some d → d.NotEast
      cases op with
      | createUser uuid data =>
          exact notEast_update h.accounts (fun d hd => nomatch hd)
      | createServiceAccount uuid data => exact notEast_update h.accounts (notEast_given hgives)
      | updateServiceAccount accountId data =>
          refine notEast_update h.accounts (fun d hd => ?_)
          cases htext : data.expiresAt with
          | none =>
              rw [htext] at hd
              exact h.accounts accountId d hd
          | some text =>
              rw [htext] at hd
              exact hgives text htext d hd
      | _ => exact h.accounts
  | accounts db columns =>
      refine ⟨h.keys, fun id d hd => ?_⟩
      obtain ⟨t, -, rfl⟩ := Option.map_eq_some_iff.mp hd
      exact Int.le_refl 0
  | setActive keyId isActive => exact ⟨h.keys, h.accounts⟩
  | authenticate env key clientIp => exact ⟨h.keys, h.accounts⟩

/-! ## §6. Runs. -/

/-- The invariant of a run. -/
structure ExpiryWatch.Inv (checkpw : List Char → List Char → Bool) (w : ExpiryWatch) : Prop where
  keysOk : KeysOk checkpw w.store
  recorded : w.Recorded

theorem ExpiryWatch.Inv.start {tables : Directory} (h : tables.apiKeys.rows = []) :
    (ExpiryWatch.start tables).Inv checkpw := by
  refine ⟨KeysOk.start h, fun k hk => ?_, fun id => ?_⟩
  · change k ∈ tables.apiKeys.rows at hk
    rw [h] at hk
    cases hk
  · show _ = ((tables.columns id).expiresAt.map ZonedTime.naive).map ZonedTime.wall
    rw [Option.map_map]
    exact Option.map_id'.symm

theorem ExpiryWatch.inv_step (w : ExpiryWatch) (e : KeyEvent checkpw) (h : w.Inv checkpw)
    (hreads : (∀ env, e.env? = some env → ReadsTimes fromisoformat env) ∧ True) :
    (expiryStep fromisoformat w e).Inv checkpw := by
  refine ⟨?_, recorded_step w e hreads.1 h.recorded⟩
  rw [expiryStep_store]
  exact keysOk_step w.store e h.keysOk

/-- **EXPIRY AS AN INSTANT**: after every run from tables without keys, no key is accepted
after the instants that were given, at any time, exactly if for each key that can be used
the clock of one of its expiries shows no more than the instant of each.  It is so after
every run whose texts are not east of UTC. -/
theorem expiry_instant_iff {tables : Directory} (hstart : tables.apiKeys.rows = [])
    {events : List (KeyEvent checkpw)}
    (hreads : ∀ e ∈ events, ∀ env, e.env? = some env → ReadsTimes fromisoformat env) :
    ((∀ env : AuthEnv, env.checkpw = checkpw →
        InTime (run (expiryStep fromisoformat) (.start tables) events) env) ↔
      (run (expiryStep fromisoformat) (.start tables) events).Covered) ∧
    ((∀ e ∈ events, GivesNotEast fromisoformat e) → ∀ env : AuthEnv, env.checkpw = checkpw →
      InTime (run (expiryStep fromisoformat) (.start tables) events) env) := by
  have hinv : (run (expiryStep fromisoformat) (.start tables) events).Inv checkpw :=
    run_invariant ExpiryWatch.inv_step (ExpiryWatch.Inv.start hstart)
      ((along_true (ExpiryWatch.start tables) events).and_label hreads)
  have hiff := inTime_iff hinv.keysOk hinv.recorded
  refine ⟨hiff, fun hwest => hiff.mpr ?_⟩
  have hnotEast : (run (expiryStep fromisoformat) (.start tables) events).NotEast := by
    refine run_invariant (fun w e h he => notEast_step w e he.1 h) ?_
      ((along_true (ExpiryWatch.start tables) events).and_label hwest)
    refine ⟨fun id d hd => (nomatch hd), fun id d hd => ?_⟩
    obtain ⟨t, -, rfl⟩ := Option.map_eq_some_iff.mp hd
    exact Int.le_refl 0
  exact hnotEast.covered

end

/-! A reader of one of the formats, and a key with an offset. -/

def readDigits (text : List Char) : Option Nat :=
  if text ≠ [] ∧ text.all Char.isDigit then
    some (text.foldl (fun n c => 10 * n + (c.toNat - '0'.toNat)) 0)
  else none

/-- The days from 0001-01-01 to this day. -/
def daysBefore (year month day : Nat) : Nat :=
  let y := year - 1
  let leap := year % 4 = 0 ∧ (year % 100 ≠ 0 ∨ year % 400 = 0)
  let months := [31, if leap then 29 else 28, 31, 30, 31, 30, 31, 31, 30, 31, 30, 31]
  y * 365 + y / 4 - y / 100 + y / 400 + (months.take (month - 1)).sum + (day - 1)

/-- `YYYY-MM-DDTHH:MM:SS+HH:MM`, or with `-` before the offset. -/
def readIso (text : List Char) : Option ZonedTime := do
  let part (i n : Nat) : Option Nat := readDigits ((text.drop i).take n)
  let shape := [4, 7, 10, 13, 16, 22].map (fun i => text.getD i ' ')
  if text.length ≠ 25 ∨ shape ≠ ['-', '-', 'T', ':', ':', ':'] then none
  else do
    let sign ← match text.getD 19 ' ' with
      | '+' => some 1
      | '-' => some (-1 : Int)
      | _ => none
    let wall := (((daysBefore (← part 0 4) (← part 5 2) (← part 8 2) * 24 + (← part 11 2)) * 60
      + (← part 14 2)) * 60 + (← part 17 2)) * 1000000
    let offset : Int := ((← part 20 2) * 60 + (← part 23 2)) * 60 * 1000000
    some { wall, utcoffset := some (sign * offset) }

/-- The handlers with this reader. -/
def isoEnv : DirectoryEnv where
  hashPassword := fun password => password
  parseTime := fun text => (readTime readIso text).map ZonedTime.wall
  utcnow := 0

theorem readsTimes_ciKeyEvents (accountExpiry keyExpiry : Option String) :
    ∀ e ∈ ciKeyEvents accountExpiry keyExpiry isoEnv, ∀ env, e.env? = some env →
      ReadsTimes readIso env := by
  intro e he env henv text
  rcases List.mem_cons.mp he with rfl | he
  · rw [← Option.some.inj henv]
    rfl
  · obtain rfl := List.mem_singleton.mp he
    rw [← Option.some.inj henv]
    rfl

/-- A key that expires at noon, five hours east of UTC: seven o'clock in UTC. -/
def eastEvents : List (KeyEvent plainCheck) :=
  ciKeyEvents none (some "2026-01-01T12:00:00+05:00") isoEnv

/-- Its state at the end of the run. -/
def eastState : ExpiryWatch := run (expiryStep readIso) (.start adminTables) eastEvents

/-- The key is accepted at noon in UTC, five hours after it expired. -/
theorem key_outlives_expiry :
    (∀ e ∈ eastEvents, ∀ env, e.env? = some env → ReadsTimes readIso env) ∧
    ¬ ∀ env : AuthEnv, env.checkpw = plainCheck → InTime eastState env := by
  refine ⟨readsTimes_ciKeyEvents none _, fun h => ?_⟩
  have hstate : ∃ k ∈ eastState.store.tables.apiKeys.rows, eastState.store.issued.get k.id
      = some (plainKey '0' (by decide +kernel)).fullKey ∧ k.id = "k" := by
    decide +kernel
  have hexpiry : (eastState.keyExpiry "k").map ZonedTime.instant
      = some (((daysBefore 2026 1 1 * 24 + 7) * 60 * 60 * 1000000 : Nat) : Int) := by
    decide +kernel
  have haccepted : ((authenticateApiKey
      (keyEnv plainCheck ((daysBefore 2026 1 1 * 24 + 12) * 60 * 60 * 1000000))
      eastState.store.tables.authDb (plainKey '0' (by decide +kernel)).fullKey "").isOk)
        = true := by
    decide +kernel
  obtain ⟨k, hk, hissued, hid⟩ := hstate
  obtain ⟨d, hd, hinstant⟩ := Option.map_eq_some_iff.mp hexpiry
  obtain ⟨⟨user, db⟩, hdone⟩ := exists_of_isOk haccepted
  have hlate := (h _ rfl _ _ _ _ hdone k hk hissued).1 d (by rw [hid]; exact hd)
  rw [hinstant] at hlate
  exact absurd hlate (by decide +kernel)

/-- A key that expires at noon, five hours west of UTC, and the noon of UTC. -/
theorem west_key_in_time :
    InTime (run (expiryStep readIso) (.start adminTables)
        (ciKeyEvents none (some "2026-01-01T12:00:00-05:00") isoEnv))
      (keyEnv plainCheck ((daysBefore 2026 1 1 * 24 + 12) * 60 * 60 * 1000000)) := by
  refine (expiry_instant_iff rfl (readsTimes_ciKeyEvents none _)).2 ?_ _ rfl
  intro e he text htext d hd
  rcases List.mem_cons.mp he with rfl | he
  · cases htext
  · obtain rfl := List.mem_singleton.mp he
    obtain rfl := Option.some.inj htext
    have hread : (readTime readIso "2026-01-01T12:00:00-05:00").all
        (fun d => d.utcoffset.getD 0 ≤ 0) = true := by
      decide +kernel
    rw [hd] at hread
    exact of_decide_eq_true (p := d.utcoffset.getD 0 ≤ 0) hread

end PureBoot.Accounts
