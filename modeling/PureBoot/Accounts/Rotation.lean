/-
  PureBoot.Accounts.Rotation — the life of a REFRESH TOKEN.

  Embeds `logout` (`api/routes/auth.py`) and `change_password` (`api/routes/users.py`)
  beside `login`, `refresh_tokens` and `delete_user`.  A login adds a record, a refresh
  rewrites it in place with the hash of the next token, the other three delete records;
  a refresh that finds its token too old, or its user gone, deletes the record and then
  raises, which rolls the deletion back.

  What has happened is kept beside the server, as a list of events, the latest one
  first: which token was issued in which login's chain, which one was accepted, what was
  presented to `logout`, whose password was changed, who was deleted.

  The argument.  A record belongs to the chain of one login, no two records belong to the
  same chain, and the hash in a record is that of the last token issued in its chain
  (`Current`): nothing that happened since took it out of use.  All issued tokens have
  different hashes, so what a refresh finds by the hash is that token.

  Main results:
    * `tokensOk_step` — every request keeps records and events related;
    * `rotates_of_tokensOk` — what a refresh accepts, by the events;
    * `refresh_rotation` — the same in every run.
-/
import PureBoot.Accounts.Login

namespace PureBoot.Accounts

open PureBoot.Lib PureBoot.Web

/-! ## §1. Logging out and changing a password. -/

/-- `select(RefreshToken).where(RefreshToken.token_hash == …)`; the column is unique. -/
def DB.tokenRecord (db : DB) (hash : String) : Option RefreshToken :=
  db.refreshTokens.rows.find? (fun t => t.tokenHash = hash)

/-- `db.delete(token_record)`, if there is one. -/
def DB.forget (db : DB) (hash : String) : DB :=
  match db.tokenRecord hash with
  | none => db
  | some record => { db with refreshTokens := db.refreshTokens.delete (fun t => t.id = record.id) }

/-- `logout`; `cookie` is the refresh token of the request. -/
def logout (sha256 : String → String) (db : DB) (cookie : Option String) : DB :=
  match cookie with
  | none | some "" => db
  | some token => db.forget (sha256 token)

structure PasswordChange where
  currentPassword : Option String := none
  newPassword : String
  deriving DecidableEq, Repr

/-- The check of the old password: an admin changes any password without it, also their
own. -/
def checkCurrentPassword (env : LoginEnv) (current user : User) (password : Option String) :
    Except Exn Unit :=
  if current.role = "admin" then .ok ()
  else
    match password with
    | none | some "" => .error (.http 400 "Current password required")
    | some password =>
        match verifyPassword env password user.passwordHash with
        | .error e => .error e
        | .ok false => .error (.http 400 "Current password incorrect")
        | .ok true => .ok ()

/-- `change_password`. -/
def changePassword (env : LoginEnv) (hashPassword : String → String) (db : DB) (current : User)
    (userId : String) (data : PasswordChange) : Except Exn (Unit × DB) :=
  if current.id ≠ userId ∧ current.role ≠ "admin" then .error (.http 403 "Access denied")
  else
    match db.users.get? userId with
    | none => .error (.http 404 "User not found")
    | some user => do
        checkCurrentPassword env current user data.currentPassword
        if data.newPassword.length < 8 then
          .error (.http 400 "Password must be at least 8 characters")
        else
          .ok ((), { db.save { user with passwordHash := hashPassword data.newPassword } with
            refreshTokens := db.refreshTokens.delete (fun t => t.userId = userId) })

/-! ## §2. What happens. -/

/-- A refresh token as it was given out. -/
structure Issue where
  /-- The login whose chain it is in. -/
  chain : Nat
  userId : String
  token : String
  issuedAt : Int
  deriving DecidableEq, Repr

inductive Event where
  | issued (i : Issue)
  /-- A refresh took this token. -/
  | accepted (token : String)
  /-- This token was presented to `logout`. -/
  | loggedOut (token : String)
  | passwordChanged (userId : String)
  | deleted (userId : String)
  deriving DecidableEq, Repr

def Event.issue? : Event → Option Issue
  | .issued i => some i
  | _ => none

/-- The tokens given out. -/
def issues (history : List Event) : List Issue := history.filterMap Event.issue?

/-- The server, and what has happened. -/
structure Sessions where
  server : Server
  /-- The latest event first. -/
  history : List Event := []
  /-- The login that made a record. -/
  chainOf : String → Nat := fun _ => 0
  logins : Nat := 0

/-- A request about a session. -/
inductive SessionOp where
  | login (l : Login)
  | refresh (env : LoginEnv) (cookie : Option String)
  | logout (cookie : Option String)
  | changePassword (auth : AuthEnv) (authorization : Option (List Char)) (env : LoginEnv)
      (hashPassword : String → String) (userId : String) (data : PasswordChange)
  | deleteUser (auth : AuthEnv) (authorization : Option (List Char)) (ctx : RequestContext)
      (userId : String)

/-- The environment of a request, with the hash function of the server. -/
def LoginEnv.hashing (env : LoginEnv) (sha256 : String → String) : LoginEnv := { env with sha256 }

section Machine

variable (service : AuditService) (sha256 : String → String)

/-- A login. -/
def loginStep (s : Sessions) (l : Login) : Sessions :=
  let env := l.env.hashing sha256
  match login service env l.ctx s.server l.data with
  | (.error e, after) => { s with server := finish s.server (.error e, after) }
  | (.ok tokens, after) =>
      { server := after
        history := .issued ⟨s.logins, tokens.accessToken.sub, tokens.refreshToken, env.now⟩
          :: s.history
        chainOf := fun id => if id = env.uuid then s.logins else s.chainOf id
        logins := s.logins + 1 }

/-- The chain of the record that a token is looked up in. -/
def Sessions.chainFor (s : Sessions) (token : String) : Nat :=
  ((s.server.db.tokenRecord (sha256 token)).map (fun t => s.chainOf t.id)).getD 0

/-- A refresh. -/
def refreshStep (s : Sessions) (env : LoginEnv) (cookie : Option String) : Sessions :=
  match refreshTokens (env.hashing sha256) s.server.db cookie with
  | .error _ => s
  | .ok (tokens, db) =>
      let token := cookie.getD ""
      { s with
        server := { s.server with db }
        history := .issued ⟨s.chainFor sha256 token, tokens.accessToken.sub,
          tokens.refreshToken, env.now⟩ :: .accepted token :: s.history }

/-- The session of a request that answers nothing about tokens. -/
def Sessions.commit (s : Sessions) (event : Event) : Except Exn (Unit × DB) → Sessions
  | .error _ => s
  | .ok (_, db) => { s with server := { s.server with db }, history := event :: s.history }

/-- A logout; an empty cookie is none. -/
def logoutStep (s : Sessions) (cookie : Option String) : Sessions :=
  match cookie with
  | none | some "" => s
  | some token =>
      { s with
        server := { s.server with db := logout sha256 s.server.db (some token) }
        history := .loggedOut token :: s.history }

/-- One request. -/
def sessionStep (s : Sessions) : SessionOp → Sessions
  | .login l => loginStep service sha256 s l
  | .refresh env cookie => refreshStep sha256 s env cookie
  | .logout cookie => logoutStep sha256 s cookie
  | .changePassword auth authorization env hashPassword userId data =>
      s.commit (.passwordChanged userId) (do
        let current ← getCurrentUser auth s.server.db authorization
        changePassword (env.hashing sha256) hashPassword s.server.db current userId data)
  | .deleteUser auth authorization ctx userId =>
      s.commit (.deleted userId) (do
        let current ← getCurrentUser auth s.server.db authorization
        deleteUser ctx s.server.db current userId)

end Machine

/-! ## §3. What a refresh may accept. -/

/-- When an issued token expires. -/
def Issue.expiresAt (i : Issue) : Int := i.issuedAt + refreshTokenExpiryDays * (24 * 60 * minute)

/-- The event takes the token out of use: the next one of its chain, its own acceptance, its
logout, or a change of password or the deletion of its user. -/
def Event.ends (sha256 : String → String) (i : Issue) : Event → Prop
  | .issued j => j.chain = i.chain
  | .accepted token => sha256 token = sha256 i.token
  | .loggedOut token => sha256 token = sha256 i.token
  | .passwordChanged userId => userId = i.userId
  | .deleted userId => userId = i.userId

/-- The token was issued, and nothing that happened since took it out of use. -/
def Current (sha256 : String → String) (history : List Event) (i : Issue) : Prop :=
  ∃ later earlier, history = later ++ .issued i :: earlier ∧ ∀ e ∈ later, ¬ e.ends sha256 i

/-- **A TOKEN THAT MAY BE ACCEPTED**: no refresh has accepted it, and by its hash it is a
token that is in use and not expired; a token that was issued is that one. -/
structure Acceptable (sha256 : String → String) (history : List Event) (now : Int)
    (token : String) : Prop where
  once : Event.accepted token ∉ history
  last : ∃ i, Current sha256 history i ∧ now ≤ i.expiresAt ∧ sha256 token = sha256 i.token ∧
    (token ∈ (issues history).map Issue.token → token = i.token)

/-- A refresh that answers tokens has accepted an acceptable one. -/
def Rotates (sha256 : String → String) (s : Sessions) : SessionOp → Prop
  | .refresh env cookie => ∀ tokens db,
      refreshTokens (env.hashing sha256) s.server.db cookie = .ok (tokens, db) →
        ∃ token, cookie = some token ∧ Acceptable sha256 s.history env.now token
  | _ => True

/-! ## §4. Records and events. -/

/-- The record holds the token that was issued so. -/
structure Holds (sha256 : String → String) (s : Sessions) (t : RefreshToken) (i : Issue) :
    Prop where
  tokenHash : t.tokenHash = sha256 i.token
  chain : i.chain = s.chainOf t.id
  userId : i.userId = t.userId
  expiresAt : t.expiresAt = i.expiresAt
  current : Current sha256 s.history i
  unused : ∀ token, sha256 token = sha256 i.token → Event.accepted token ∉ s.history

/-- **THE INVARIANT**: every record holds a token, the last one of a chain of its own. -/
structure TokensOk (sha256 : String → String) (s : Sessions) : Prop where
  holds : ∀ t ∈ s.server.db.refreshTokens.rows, ∃ i, Holds sha256 s t i
  below : ∀ t ∈ s.server.db.refreshTokens.rows, s.chainOf t.id < s.logins
  apart : ∀ t ∈ s.server.db.refreshTokens.rows, ∀ t' ∈ s.server.db.refreshTokens.rows,
    s.chainOf t.id = s.chainOf t'.id → t = t'
  issued : ∀ token, Event.accepted token ∈ s.history →
    ∃ i ∈ issues s.history, sha256 i.token = sha256 token

/-- All issued tokens have different hashes. -/
def Fresh (sha256 : String → String) (history : List Event) : Prop :=
  ((issues history).map (fun i => sha256 i.token)).Nodup

section Events

variable {sha256 : String → String} {history : List Event} {i j : Issue} {e : Event}

theorem mem_issues : i ∈ issues history ↔ Event.issued i ∈ history := by
  unfold issues
  rw [List.mem_filterMap]
  constructor
  · rintro ⟨e, he, hissue⟩
    cases e with
    | issued j => rwa [Option.some.inj hissue] at he
    | accepted _ => cases hissue
    | loggedOut _ => cases hissue
    | passwordChanged _ => cases hissue
    | deleted _ => cases hissue
  · intro h
    exact ⟨_, h, rfl⟩

theorem issues_issued : issues (.issued i :: history) = i :: issues history := rfl

theorem issues_of_none (h : e.issue? = none) : issues (e :: history) = issues history := by
  unfold issues
  rw [List.filterMap_cons_none h]

theorem Current.mem (h : Current sha256 history i) : i ∈ issues history := by
  obtain ⟨later, earlier, rfl, -⟩ := h
  exact mem_issues.mpr (List.mem_append_right _ List.mem_cons_self)

/-- A token stays in use until an event ends it. -/
theorem Current.push (h : Current sha256 history i) (he : ¬ e.ends sha256 i) :
    Current sha256 (e :: history) i := by
  obtain ⟨later, earlier, rfl, hlater⟩ := h
  exact ⟨e :: later, earlier, rfl, List.forall_mem_cons.mpr ⟨he, hlater⟩⟩

/-- A new token is in use. -/
theorem Current.new (sha256 : String → String) (history : List Event) (i : Issue) :
    Current sha256 (.issued i :: history) i :=
  ⟨[], history, rfl, fun _ h => (nomatch h)⟩

/-- Of all issued tokens, one has a given hash. -/
theorem Fresh.eq_of_hash (h : Fresh sha256 history) (hi : i ∈ issues history)
    (hj : j ∈ issues history) (heq : sha256 i.token = sha256 j.token) : i = j :=
  List.inj_on_of_nodup_map h hi hj heq

/-- A new token has a hash of its own. -/
theorem Fresh.new_hash (h : Fresh sha256 (.issued j :: history)) (hi : i ∈ issues history) :
    sha256 i.token ≠ sha256 j.token := by
  intro heq
  have hnodup := (List.nodup_cons.mp h).1
  exact hnodup (List.mem_map.mpr ⟨i, hi, heq⟩)

theorem Fresh.of_issued (h : Fresh sha256 (.issued j :: history)) : Fresh sha256 history :=
  (List.nodup_cons.mp h).2

end Events

section Records

variable {sha256 : String → String} {s s' : Sessions} {t t' : RefreshToken} {i i' : Issue}
  {e : Event}

/-- A record that is left alone holds its token until an event ends it. -/
theorem Holds.push (h : Holds sha256 s t i) (hchain : s'.chainOf t.id = s.chainOf t.id)
    (hhistory : s'.history = e :: s.history) (he : ¬ e.ends sha256 i) : Holds sha256 s' t i where
  tokenHash := h.tokenHash
  chain := by rw [hchain]; exact h.chain
  userId := h.userId
  expiresAt := h.expiresAt
  current := by
    rw [hhistory]
    exact h.current.push he
  unused := by
    intro token htoken haccepted
    rw [hhistory, List.mem_cons] at haccepted
    rcases haccepted with rfl | haccepted
    · exact he htoken
    · exact h.unused token htoken haccepted

/-- A record that has just been given a token holds it. -/
theorem Holds.new (hinv : TokensOk sha256 s) (hfresh : Fresh sha256 (.issued i :: s.history))
    (hhistory : s'.history = .issued i :: s.history) (htoken : t.tokenHash = sha256 i.token)
    (hchain : i.chain = s'.chainOf t.id) (huser : i.userId = t.userId)
    (hexpires : t.expiresAt = i.expiresAt) : Holds sha256 s' t i where
  tokenHash := htoken
  chain := hchain
  userId := huser
  expiresAt := hexpires
  current := by
    rw [hhistory]
    exact Current.new sha256 s.history i
  unused := by
    -- what was accepted is the hash of a token issued before
    intro token hsame haccepted
    rw [hhistory, List.mem_cons] at haccepted
    rcases haccepted with heq | haccepted
    · cases heq
    · obtain ⟨j, hj, hhash⟩ := hinv.issued token haccepted
      exact hfresh.new_hash hj (hhash.trans hsame)

/-- The record that has this hash is the one that holds the token. -/
theorem TokensOk.eq_of_hash (hinv : TokensOk sha256 s) (hfresh : Fresh sha256 s.history)
    (ht : t ∈ s.server.db.refreshTokens.rows) (ht' : t' ∈ s.server.db.refreshTokens.rows)
    (h : t.tokenHash = t'.tokenHash) : t = t' := by
  obtain ⟨i, hi⟩ := hinv.holds t ht
  obtain ⟨i', hi'⟩ := hinv.holds t' ht'
  have hhash : sha256 i.token = sha256 i'.token := by
    rw [← hi.tokenHash, ← hi'.tokenHash, h]
  have hsame := hfresh.eq_of_hash hi.current.mem hi'.current.mem hhash
  refine hinv.apart t ht t' ht' ?_
  rw [← hi.chain, ← hi'.chain, hsame]

/-- An event that issues and accepts nothing, and that ends no token whose record is left. -/
theorem TokensOk.drop (hinv : TokensOk sha256 s) (hhistory : s'.history = e :: s.history)
    (hchain : s'.chainOf = s.chainOf) (hlogins : s'.logins = s.logins)
    (hissue : e.issue? = none) (haccept : ∀ token, e ≠ .accepted token)
    (hrows : ∀ t ∈ s'.server.db.refreshTokens.rows, t ∈ s.server.db.refreshTokens.rows ∧
      ∀ i, Holds sha256 s t i → ¬ e.ends sha256 i) : TokensOk sha256 s' where
  holds := by
    intro t ht
    obtain ⟨ht, hends⟩ := hrows t ht
    obtain ⟨i, hi⟩ := hinv.holds t ht
    exact ⟨i, hi.push (by rw [hchain]) hhistory (hends i hi)⟩
  below := by
    intro t ht
    rw [hchain, hlogins]
    exact hinv.below t (hrows t ht).1
  apart := by
    intro t ht t' ht'
    rw [hchain]
    exact hinv.apart t (hrows t ht).1 t' (hrows t' ht').1
  issued := by
    intro token h
    rw [hhistory, List.mem_cons] at h
    rcases h with h | h
    · exact absurd h.symm (haccept token)
    · rw [hhistory, issues_of_none hissue]
      exact hinv.issued token h

/-- A record is added, for the first token of a chain of its own. -/
theorem TokensOk.grow {record : RefreshToken} (hinv : TokensOk sha256 s)
    (hinsert : s.server.db.refreshTokens.insert? record = some s'.server.db.refreshTokens)
    (hhistory : s'.history = .issued i :: s.history) (hfresh : Fresh sha256 s'.history)
    (hof : ∀ id, s'.chainOf id = if id = record.id then s.logins else s.chainOf id)
    (hlogins : s'.logins = s.logins + 1) (htoken : record.tokenHash = sha256 i.token)
    (hchain : i.chain = s.logins) (huser : i.userId = record.userId)
    (hexpires : record.expiresAt = i.expiresAt) : TokensOk sha256 s' := by
  obtain ⟨hnew, hrows⟩ := Table.insert?_eq_some_iff.mp hinsert
  have hmem : ∀ t, t ∈ s'.server.db.refreshTokens.rows →
      t ∈ s.server.db.refreshTokens.rows ∧ s'.chainOf t.id = s.chainOf t.id ∨ t = record := by
    intro t ht
    rw [hrows, List.mem_append, List.mem_singleton] at ht
    refine ht.imp_left (fun ht => ⟨ht, ?_⟩)
    rw [hof, if_neg (hnew t ht)]
  have hrecord : s'.chainOf record.id = s.logins := by rw [hof, if_pos rfl]
  refine ⟨?_, ?_, ?_, ?_⟩
  · intro t ht
    rcases hmem t ht with ⟨ht, hsame⟩ | rfl
    · -- the new token is of another chain
      obtain ⟨i', hi'⟩ := hinv.holds t ht
      refine ⟨i', hi'.push hsame hhistory ?_⟩
      intro hends
      have heq : i.chain = i'.chain := hends
      have hlt := hinv.below t ht
      rw [hi'.chain, hchain] at heq
      omega
    · rw [hhistory] at hfresh
      exact ⟨i, Holds.new hinv hfresh hhistory htoken (hchain.trans hrecord.symm) huser hexpires⟩
  · intro t ht
    rcases hmem t ht with ⟨ht, hsame⟩ | rfl
    · have hlt := hinv.below t ht
      omega
    · omega
  · intro t ht t' ht' heq
    rcases hmem t ht with ⟨ht, hsame⟩ | rfl
    · have hlt := hinv.below t ht
      rcases hmem t' ht' with ⟨ht', hsame'⟩ | rfl
      · exact hinv.apart t ht t' ht' (hsame.symm.trans (heq.trans hsame'))
      · omega
    · rcases hmem t' ht' with ⟨ht', hsame'⟩ | rfl
      · have hlt := hinv.below t' ht'
        omega
      · rfl
  · intro token h
    rw [hhistory, List.mem_cons] at h
    rcases h with h | h
    · cases h
    · obtain ⟨j, hj, hhash⟩ := hinv.issued token h
      rw [hhistory, issues_issued]
      exact ⟨j, List.mem_cons_of_mem _ hj, hhash⟩

/-- A record is rewritten: its token is accepted and the next one of its chain is issued. -/
theorem TokensOk.rotate {record record' : RefreshToken} {token : String}
    (hinv : TokensOk sha256 s) (hrecord : record ∈ s.server.db.refreshTokens.rows)
    (hid : record'.id = record.id)
    (hput : s'.server.db.refreshTokens = s.server.db.refreshTokens.put record')
    (hhistory : s'.history = .issued i :: .accepted token :: s.history)
    (hfresh : Fresh sha256 s'.history) (hof : s'.chainOf = s.chainOf)
    (hlogins : s'.logins = s.logins) (hfound : record.tokenHash = sha256 token)
    (htoken : record'.tokenHash = sha256 i.token) (hchain : i.chain = s.chainOf record.id)
    (huser : i.userId = record'.userId) (hexpires : record'.expiresAt = i.expiresAt) :
    TokensOk sha256 s' := by
  have hmem : ∀ t ∈ s'.server.db.refreshTokens.rows, t = record' ∨
      t ∈ s.server.db.refreshTokens.rows ∧ t ≠ record := by
    intro t ht
    rw [hput] at ht
    refine ((Table.mem_put_iff ⟨record, hrecord, hid.symm⟩).mp ht).imp_right ?_
    rintro ⟨ht, hne⟩
    exact ⟨ht, fun heq => hne (by rw [heq, hid])⟩
  obtain ⟨i₀, hi₀⟩ := hinv.holds record hrecord
  -- the record before, with its token accepted
  let mid : Sessions := { s with history := .accepted token :: s.history }
  rw [hhistory] at hfresh
  have hbefore : Fresh sha256 s.history := hfresh.of_issued
  -- whatever was accepted had been issued, this token as the last one of the chain
  have hissued : ∀ x, Event.accepted x ∈ .accepted token :: s.history →
      ∃ j ∈ issues s.history, sha256 j.token = sha256 x := by
    intro x hx
    rcases List.mem_cons.mp hx with heq | hx
    · cases heq
      exact ⟨i₀, hi₀.current.mem, by rw [← hi₀.tokenHash, hfound]⟩
    · exact hinv.issued x hx
  refine ⟨?_, ?_, ?_, ?_⟩
  · intro t ht
    rcases hmem t ht with rfl | ⟨ht, hne⟩
    · refine ⟨i, htoken, ?_, huser, hexpires, ?_, ?_⟩
      · rw [hchain, hof, hid]
      · rw [hhistory]
        exact Current.new sha256 _ i
      · intro x hx haccepted
        rw [hhistory, List.mem_cons] at haccepted
        rcases haccepted with heq | haccepted
        · cases heq
        · obtain ⟨j, hj, hhash⟩ := hissued x haccepted
          exact hfresh.new_hash hj (hhash.trans hx)
    · -- another record: neither its token nor its chain
      obtain ⟨i', hi'⟩ := hinv.holds t ht
      have hnot : ¬ (Event.accepted token).ends sha256 i' := by
        intro hends
        refine hne (hinv.eq_of_hash hbefore ht hrecord ?_)
        rw [hi'.tokenHash, hfound]
        exact hends.symm
      have hnext : ¬ (Event.issued i).ends sha256 i' := by
        intro hends
        have heq : i.chain = i'.chain := hends
        rw [hchain, hi'.chain] at heq
        exact hne (hinv.apart t ht record hrecord heq.symm)
      have hstep : Holds sha256 mid t i' := hi'.push rfl rfl hnot
      exact ⟨i', hstep.push (by rw [hof]) hhistory hnext⟩
  · intro t ht
    rw [hof, hlogins]
    rcases hmem t ht with rfl | ⟨ht, -⟩
    · rw [hid]
      exact hinv.below record hrecord
    · exact hinv.below t ht
  · intro t ht t' ht'
    rw [hof]
    rcases hmem t ht with rfl | ⟨ht, hne⟩
    · rcases hmem t' ht' with rfl | ⟨ht', hne'⟩
      · exact fun _ => rfl
      · rw [hid]
        exact fun heq => absurd (hinv.apart record hrecord t' ht' heq).symm hne'
    · rcases hmem t' ht' with rfl | ⟨ht', -⟩
      · rw [hid]
        exact fun heq => absurd (hinv.apart t ht record hrecord heq) hne
      · exact hinv.apart t ht t' ht'
  · intro x hx
    rw [hhistory, List.mem_cons] at hx
    rcases hx with heq | hx
    · cases heq
    · obtain ⟨j, hj, hhash⟩ := hissued x hx
      rw [hhistory, issues_issued, issues_of_none rfl]
      exact ⟨j, List.mem_cons_of_mem _ hj, hhash⟩

end Records

/-! ## §5. The requests. -/

section Requests

variable {service : AuditService} {sha256 : String → String} {s : Sessions}

theorem mem_of_tokenRecord {db : DB} {hash : String} {record : RefreshToken}
    (h : db.tokenRecord hash = some record) :
    record ∈ db.refreshTokens.rows ∧ record.tokenHash = hash :=
  ⟨List.mem_of_find?_eq_some h, by simpa using List.find?_some h⟩

theorem issueTokens_stored {env : LoginEnv} {ctx : RequestContext} {s s' : Server} {user : User}
    {authSource : String} {tokens : Tokens}
    (h : issueTokens service env ctx s user authSource = (.ok tokens, s')) :
    s'.db.users = s.db.users ∧
      s.db.refreshTokens.insert? (refreshRecord env user) = some s'.db.refreshTokens ∧
      tokens = ⟨createAccessToken env user, env.refreshToken⟩ := by
  unfold issueTokens at h
  split at h
  next => cases h
  next =>
    split at h
    next => cases h
    next refreshTokens hinsert =>
      cases h
      exact ⟨rfl, hinsert, rfl⟩

/-- One row is written anew, with the id and the status it had. -/
def Rewritten (db db' : DB) (user' : User) : Prop :=
  ∃ user ∈ db.users.rows, user'.id = user.id ∧ user'.isActive = user.isActive ∧
    db'.users = (db.save user').users

/-- **WHAT A LOGIN STORES.** -/
theorem login_stored {env : LoginEnv} {ctx : RequestContext} {s s' : Server}
    {data : LoginRequest} {tokens : Tokens}
    (h : login service env ctx s data = (.ok tokens, s')) :
    ∃ user, Rewritten s.db s'.db user ∧
      (∃ before ∈ s.db.users.rows, user.id = before.id ∧ SameLogin before user) ∧
      s.db.refreshTokens.insert? (refreshRecord env user) = some s'.db.refreshTokens ∧
      tokens = ⟨createAccessToken env user, env.refreshToken⟩ := by
  unfold login at h
  split at h
  next =>
    unfold loginLdap at h
    split at h
    next => cases h
    next user huser =>
      obtain ⟨husers, hstored⟩ := issueTokens_stored h
      have hmem := mem_of_userByName huser
      refine ⟨_, ?_, ?_, hstored⟩
      · exact ⟨user, hmem, rfl, rfl, husers⟩
      · exact ⟨user, hmem, rfl, rfl, rfl, rfl, rfl⟩
  next =>
    unfold loginLocal refuse at h
    split at h
    next => cases h
    next user huser =>
      split at h
      next => cases h
      next =>
        split at h
        next => cases h
        next =>
          split at h
          next => cases h
          next =>
            split at h
            next => cases h
            next => cases h
            next =>
              obtain ⟨husers, hstored⟩ := issueTokens_stored h
              have hmem := mem_of_userByName huser
              refine ⟨_, ?_, ?_, hstored⟩
              · exact ⟨user, hmem, rfl, rfl, husers⟩
              · exact ⟨user, hmem, rfl, rfl, rfl, rfl, rfl⟩

theorem tokensOk_login {l : Login} (hinv : TokensOk sha256 s)
    (hfresh : Fresh sha256 (loginStep service sha256 s l).history) :
    TokensOk sha256 (loginStep service sha256 s l) := by
  cases hlogin : login service (l.env.hashing sha256) l.ctx s.server l.data with
  | mk result after =>
      cases result with
      | error e =>
          have hstep : loginStep service sha256 s l
              = { s with server := finish s.server (.error e, after) } := by
            simp only [loginStep, hlogin]
          rw [hstep]
          refine ⟨fun t ht => ?_, hinv.below, hinv.apart, hinv.issued⟩
          obtain ⟨i, hi⟩ := hinv.holds t ht
          exact ⟨i, hi.tokenHash, hi.chain, hi.userId, hi.expiresAt, hi.current, hi.unused⟩
      | ok tokens =>
          obtain ⟨user, -, -, hinsert, rfl⟩ := login_stored hlogin
          unfold loginStep at hfresh ⊢
          simp only [hlogin] at hfresh ⊢
          exact hinv.grow hinsert rfl hfresh (fun _ => rfl) rfl rfl rfl rfl rfl

theorem tokensOk_refresh {env : LoginEnv} {cookie : Option String} (hinv : TokensOk sha256 s)
    (hfresh : Fresh sha256 (refreshStep sha256 s env cookie).history) :
    TokensOk sha256 (refreshStep sha256 s env cookie) := by
  cases hrefresh : refreshTokens (env.hashing sha256) s.server.db cookie with
  | error e =>
      have hstep : refreshStep sha256 s env cookie = s := by simp only [refreshStep, hrefresh]
      rw [hstep]
      exact hinv
  | ok out =>
      obtain ⟨tokens, db⟩ := out
      obtain ⟨token, record, user, rfl, hfind, -, huser, -, rfl, rfl⟩ :=
        refreshTokens_inv hrefresh
      change s.server.db.tokenRecord (sha256 token) = some record at hfind
      obtain ⟨hrecord, hhash⟩ := mem_of_tokenRecord hfind
      have hchain : s.chainFor sha256 token = s.chainOf record.id := by
        unfold Sessions.chainFor
        rw [hfind]
        rfl
      have hid : (record.rotate (env.hashing sha256)).id = record.id := rfl
      unfold refreshStep at hfresh ⊢
      simp only [hrefresh] at hfresh ⊢
      refine hinv.rotate hrecord hid rfl rfl hfresh rfl rfl hhash rfl hchain ?_ rfl
      exact (Table.get?_eq_some_iff.mp huser).2

theorem logout_some {db : DB} {token : String} (h : token ≠ "") :
    logout sha256 db (some token) = db.forget (sha256 token) := by
  unfold logout
  split
  next heq => cases heq
  next heq => exact absurd (Option.some.inj heq) h
  next heq => rw [Option.some.inj heq]

/-- What is left after a logout. -/
theorem mem_forget {db : DB} {hash : String} {t : RefreshToken}
    (h : t ∈ (db.forget hash).refreshTokens.rows) :
    t ∈ db.refreshTokens.rows ∧ ∀ record, db.tokenRecord hash = some record → t ≠ record := by
  unfold DB.forget at h
  split at h
  next hnone =>
    refine ⟨h, fun record hrecord => ?_⟩
    rw [hnone] at hrecord
    cases hrecord
  next found hfound =>
    obtain ⟨ht, hne⟩ := Table.mem_delete.mp h
    refine ⟨ht, fun record hrecord heq => ?_⟩
    rw [hfound] at hrecord
    cases hrecord
    rw [heq] at hne
    simp at hne

/-- A hash that some record has is found. -/
theorem tokenRecord_isSome {db : DB} {t : RefreshToken} (h : t ∈ db.refreshTokens.rows) :
    ∃ record, db.tokenRecord t.tokenHash = some record := by
  rw [← Option.isSome_iff_exists]
  unfold DB.tokenRecord
  rw [List.find?_isSome]
  exact ⟨t, h, by simp⟩

theorem tokensOk_logout {cookie : Option String} (hinv : TokensOk sha256 s)
    (hfresh : Fresh sha256 s.history) : TokensOk sha256 (logoutStep sha256 s cookie) := by
  unfold logoutStep
  split
  next => exact hinv
  next => exact hinv
  next token hne =>
    refine hinv.drop rfl rfl rfl rfl (fun _ => Event.noConfusion) ?_
    intro t ht
    change t ∈ (logout sha256 s.server.db (some token)).refreshTokens.rows at ht
    rw [logout_some (fun heq => hne (by rw [heq]))] at ht
    obtain ⟨ht, hgone⟩ := mem_forget ht
    refine ⟨ht, fun i hi hends => ?_⟩
    -- the record with the hash of the token is the one that is gone
    have hhash : t.tokenHash = sha256 token := hi.tokenHash.trans (Eq.symm hends)
    obtain ⟨record, hrecord⟩ := tokenRecord_isSome ht
    obtain ⟨hmem, hsame⟩ := mem_of_tokenRecord hrecord
    rw [hhash] at hrecord
    exact hgone record hrecord (hinv.eq_of_hash hfresh ht hmem hsame.symm)

theorem commit_suffix (event : Event) (result : Except Exn (Unit × DB)) :
    s.history <:+ (s.commit event result).history := by
  cases result with
  | error e => exact List.suffix_rfl
  | ok out => exact List.suffix_cons _ _

theorem changePassword_stored {env : LoginEnv} {hashPassword : String → String} {db db' : DB}
    {current : User} {userId : String} {data : PasswordChange} {ans : Unit}
    (h : changePassword env hashPassword db current userId data = .ok (ans, db')) :
    (∃ user, Rewritten db db' user) ∧
      db'.refreshTokens = db.refreshTokens.delete (fun t => t.userId = userId) := by
  unfold changePassword at h
  obtain ⟨-, h⟩ := ite_error_eq_ok.mp h
  split at h
  next => cases h
  next user hget =>
    obtain ⟨-, -, h⟩ := bind_eq_ok.mp h
    obtain ⟨-, h⟩ := ite_error_eq_ok.mp h
    obtain ⟨-, rfl⟩ := ok_pair_inj h
    exact ⟨⟨{ user with passwordHash := hashPassword data.newPassword }, user,
      (Table.get?_eq_some_iff.mp hget).1, rfl, rfl, rfl⟩, rfl⟩

theorem deleteUser_tokens {ctx : RequestContext} {db db' : DB} {current : User} {userId : String}
    {ans : Unit} (h : deleteUser ctx db current userId = .ok (ans, db')) :
    db'.refreshTokens = db.refreshTokens.delete (fun t => t.userId = userId) := by
  unfold deleteUser at h
  obtain ⟨-, h⟩ := ite_error_eq_ok.mp h
  obtain ⟨-, h⟩ := ite_error_eq_ok.mp h
  split at h
  next => cases h
  next =>
    obtain ⟨-, h⟩ := ite_error_eq_ok.mp h
    obtain ⟨-, rfl⟩ := ok_pair_inj h
    rfl

/-- The tokens of one user are deleted, with an event that ends the tokens of that user. -/
theorem tokensOk_revoke {event : Event} {userId : String} {result : Except Exn (Unit × DB)}
    (hinv : TokensOk sha256 s) (hissue : event.issue? = none)
    (haccept : ∀ token, event ≠ .accepted token)
    (hends : ∀ i, event.ends sha256 i → i.userId = userId)
    (hrows : ∀ ans db, result = .ok (ans, db) →
      db.refreshTokens = s.server.db.refreshTokens.delete (fun t => t.userId = userId)) :
    TokensOk sha256 (s.commit event result) := by
  cases result with
  | error e => exact hinv
  | ok out =>
      refine hinv.drop rfl rfl rfl hissue haccept (fun t ht => ?_)
      change t ∈ out.2.refreshTokens.rows at ht
      rw [hrows out.1 out.2 rfl] at ht
      obtain ⟨ht, hne⟩ := Table.mem_delete.mp ht
      refine ⟨ht, fun i hi hend => ?_⟩
      have huser : t.userId = userId := hi.userId.symm.trans (hends i hend)
      simp [huser] at hne

/-- The events only grow. -/
theorem history_suffix (op : SessionOp) :
    s.history <:+ (sessionStep service sha256 s op).history := by
  cases op with
  | login l =>
      show s.history <:+ (loginStep service sha256 s l).history
      unfold loginStep
      dsimp only
      split
      next => exact List.suffix_rfl
      next => exact List.suffix_cons _ _
  | refresh env cookie =>
      show s.history <:+ (refreshStep sha256 s env cookie).history
      unfold refreshStep
      split
      next => exact List.suffix_rfl
      next => exact List.suffix_append [_, _] _
  | logout cookie =>
      show s.history <:+ (logoutStep sha256 s cookie).history
      unfold logoutStep
      split
      next => exact List.suffix_rfl
      next => exact List.suffix_rfl
      next => exact List.suffix_cons _ _
  | changePassword auth authorization env hashPassword userId data =>
      exact commit_suffix _ _
  | deleteUser auth authorization ctx userId => exact commit_suffix _ _

theorem fresh_of_step (s : Sessions) (op : SessionOp)
    (h : Fresh sha256 (sessionStep service sha256 s op).history) : Fresh sha256 s.history := by
  have hsuffix : s.history <:+ (sessionStep service sha256 s op).history := history_suffix op
  exact h.sublist ((hsuffix.filterMap _).map _).sublist

/-- **EVERY REQUEST** keeps records and events related. -/
theorem tokensOk_step (op : SessionOp) (hinv : TokensOk sha256 s)
    (hfresh : Fresh sha256 (sessionStep service sha256 s op).history) :
    TokensOk sha256 (sessionStep service sha256 s op) := by
  cases op with
  | login l => exact tokensOk_login hinv hfresh
  | refresh env cookie => exact tokensOk_refresh hinv hfresh
  | logout cookie => exact tokensOk_logout hinv (fresh_of_step s _ hfresh)
  | changePassword auth authorization env hashPassword userId data =>
      refine tokensOk_revoke hinv rfl (fun _ => Event.noConfusion) (fun _ => Eq.symm)
        (fun ans db h => ?_)
      obtain ⟨current, -, h⟩ := bind_eq_ok.mp h
      exact (changePassword_stored h).2
  | deleteUser auth authorization ctx userId =>
      refine tokensOk_revoke hinv rfl (fun _ => Event.noConfusion) (fun _ => Eq.symm)
        (fun ans db h => ?_)
      obtain ⟨current, -, h⟩ := bind_eq_ok.mp h
      exact deleteUser_tokens h

/-- **WHAT A REFRESH ACCEPTS**, by the events. -/
theorem rotates_of_tokensOk (op : SessionOp) (hinv : TokensOk sha256 s)
    (hfresh : Fresh sha256 s.history) : Rotates sha256 s op := by
  cases op with
  | login l => exact trivial
  | logout cookie => exact trivial
  | changePassword auth authorization env hashPassword userId data => exact trivial
  | deleteUser auth authorization ctx userId => exact trivial
  | refresh env cookie =>
      intro tokens db h
      obtain ⟨token, record, user, rfl, hfind, hexpired, -⟩ := refreshTokens_inv h
      change s.server.db.tokenRecord (sha256 token) = some record at hfind
      obtain ⟨hrecord, hhash⟩ := mem_of_tokenRecord hfind
      obtain ⟨i, hi⟩ := hinv.holds record hrecord
      have hsame : sha256 token = sha256 i.token := hhash.symm.trans hi.tokenHash
      refine ⟨token, rfl, hi.unused token hsame, i, hi.current, ?_, hsame, ?_⟩
      · rw [← hi.expiresAt]
        exact hexpired
      · intro hissued
        obtain ⟨j, hj, rfl⟩ := List.mem_map.mp hissued
        rw [hfresh.eq_of_hash hj hi.current.mem hsame]

end Requests

/-! ## §6. Runs. -/

/-- A server before its first login. -/
def Sessions.start (server : Server) : Sessions := { server }

theorem tokensOk_start {sha256 : String → String} {server : Server}
    (h : server.db.refreshTokens = Table.empty) : TokensOk sha256 (Sessions.start server) := by
  have hnone : ∀ t, t ∉ (Sessions.start server).server.db.refreshTokens.rows := by
    intro t ht
    change t ∈ server.db.refreshTokens.rows at ht
    rw [h] at ht
    cases ht
  exact ⟨fun t ht => absurd ht (hnone t), fun t ht => absurd ht (hnone t),
    fun t ht => absurd ht (hnone t), fun _ h => (nomatch h)⟩

/-- **REFRESH TOKENS ROTATE**: in every run from a server without refresh tokens, in which the
issued tokens are all different and the hash is injective on them, a refresh accepts only a
token that no refresh has accepted before and that is, by its hash, the last one of its chain,
not expired, and neither logged out nor, since it was issued, of a user whose password was
changed or who was deleted. -/
theorem refresh_rotation (service : AuditService) (sha256 : String → String) (server : Server)
    (ops : List SessionOp) (hempty : server.db.refreshTokens = Table.empty)
    (hdifferent : ((issues (run (sessionStep service sha256) (Sessions.start server)
      ops).history).map Issue.token).Nodup)
    (hinjective : Set.InjOn sha256 {token | token ∈ (issues (run (sessionStep service sha256)
      (Sessions.start server) ops).history).map Issue.token}) :
    Along (sessionStep service sha256) (Rotates sha256) (Sessions.start server) ops := by
  have hfresh : Fresh sha256 (run (sessionStep service sha256) (Sessions.start server)
      ops).history := by
    have hhashes := hdifferent.map_on (fun x hx y hy heq => hinjective hx hy heq)
    rw [List.map_map] at hhashes
    exact hhashes
  have halong := along_of_last (P := fun s : Sessions => Fresh sha256 s.history)
    fresh_of_step hfresh
  exact Along.of_step (fun s op hinv hf => tokensOk_step op hinv hf)
    (fun s op hinv hf => rotates_of_tokensOk op hinv (fresh_of_step s op hf))
    (tokensOk_start hempty) halong

/-- SHA-256 of three tokens. -/
def threeDigests (token : String) : String :=
  if token = "r1" then "82f3e9c695dc6b8d1b11818d5701919e286de8d47f7c3eb3100c485f79e57828"
  else if token = "r2" then "db77fd01af957221a4989b64b3770a83a3c56068405b9f0e9408feae57fd17e4"
  else if token = "r3" then "e49d63b2a8a78f048bafc4b4590029603a5a4165ee8bf98af15d62f24cd83479"
  else ""

/-- The environment of a request that draws this token at this time. -/
def drawing (token uuid : String) (now : Int) : LoginEnv where
  now := now
  ldapServer := fun _ _ _ => none
  checkpw := fun _ _ => some true
  sha256 := threeDigests
  refreshToken := token
  uuid := uuid

/-- Ann has an account. -/
def annServer : Server where
  db := { users := ⟨[{ id := "1", username := "ann", passwordHash := "$2b$12$ann" }], by simp⟩ }

/-- She logs in and refreshes her token; the second time with the old one, which fails. -/
def annSession : List SessionOp :=
  [.login { env := drawing "r1" "a" 0, data := { username := "ann", password := "secret" } },
   .refresh (drawing "r2" "b" 1) (some "r1"),
   .refresh (drawing "r3" "c" 2) (some "r1")]

/-- The tokens of her session. -/
theorem annSession_issues :
    (issues (run (sessionStep {} threeDigests) (Sessions.start annServer) annSession).history).map
      Issue.token = ["r2", "r1"] := by decide +kernel

/-- Her session rotates. -/
theorem refresh_rotation_ann :
    (issues (run (sessionStep {} threeDigests) (Sessions.start annServer) annSession).history).map
        Issue.token = ["r2", "r1"]
    ∧ Along (sessionStep {} threeDigests) (Rotates threeDigests) (Sessions.start annServer)
        annSession := by
  refine ⟨annSession_issues, refresh_rotation {} threeDigests annServer annSession rfl ?_ ?_⟩
  · rw [annSession_issues]
    decide
  · rw [annSession_issues]
    intro x hx y hy
    simp only [Set.mem_ofPred_eq, List.mem_cons, List.not_mem_nil, or_false] at hx hy
    rcases hx with rfl | rfl <;> rcases hy with rfl | rfl <;> decide

end PureBoot.Accounts
