/-
  PureBoot.Sites.Agents — the AGENTS of the sites, as the central controller sees them.

  Embeds `api/routes/agents.py` (registration, heartbeat, status), `generate_agent_token`
  of `api/routes/sites.py` and `core/agent_status_job.py`.  A site is a row of
  `device_groups` with `is_site`.  The three modules share four of its columns: the hash
  of the registration token, the status of the agent, when it was last seen, and its URL.

  `hashlib.sha256` is a parameter; times count microseconds.
-/
import PureBoot.Lib.Run
import PureBoot.Lib.Table

namespace PureBoot.Sites

open PureBoot.Lib

/-! ## §1. Rows. -/

/-- `DeviceGroup.agent_status`. -/
inductive AgentStatus where
  | online
  | degraded
  | offline
  deriving DecidableEq, Repr

/-- The columns of `DeviceGroup` that are used here. -/
structure Site where
  id : String
  name : String
  isSite : Bool := true
  agentUrl : Option String := none
  agentTokenHash : Option String := none
  agentStatus : Option AgentStatus := none
  agentLastSeen : Option Int := none
  autonomyLevel : Option String := none
  cachePolicy : Option String := none
  cacheMaxSizeGb : Option Int := none
  cacheRetentionDays : Option Int := none
  deriving DecidableEq, Repr

abbrev SiteDb : Type := Table Site.id

/-- `HTTPException(status_code=…, detail=…)`. -/
inductive Exn where
  | http (statusCode : Nat) (detail : String)
  deriving DecidableEq, Repr

/-- `select(DeviceGroup).where(DeviceGroup.id == …, DeviceGroup.is_site == True)`, with the
404 of every handler. -/
def siteOf (db : SiteDb) (siteId : String) : Except Exn Site :=
  match db.get? siteId with
  | some site => if site.isSite then .ok site else .error (.http 404 "Site not found")
  | none => .error (.http 404 "Site not found")

theorem siteOf_eq_ok {db : SiteDb} {siteId : String} {site : Site} :
    siteOf db siteId = .ok site ↔ site ∈ db.rows ∧ site.id = siteId ∧ site.isSite = true := by
  unfold siteOf
  rw [← and_assoc, ← Table.get?_eq_some_iff]
  cases db.get? siteId with
  | none => simp
  | some row =>
      by_cases hrow : row.isSite = true
      · simp only [if_pos hrow, Except.ok.injEq, Option.some.injEq]
        constructor
        · rintro rfl
          exact ⟨rfl, hrow⟩
        · exact fun h => h.1
      · simp only [if_neg hrow, Option.some.injEq]
        constructor
        · exact fun h => (nomatch h)
        · rintro ⟨rfl, h⟩
          exact absurd h hrow

/-! ## §2. Tokens (`sites.py`). -/

structure AgentTokenResponse where
  token : String
  expiresInHours : Nat := 24
  message : String
  deriving DecidableEq, Repr

/-- `generate_agent_token`, with the token that is drawn. -/
def generateAgentToken (hashToken : String → String) (token : String) (db : SiteDb)
    (siteId : String) : Except Exn (AgentTokenResponse × SiteDb) := do
  let site ← siteOf db siteId
  .ok ({ token, message := "Token generated. Save it now - it will not be shown again." },
    db.put { site with agentTokenHash := some (hashToken token) })

/-! ## §3. Registration, heartbeat and status (`agents.py`). -/

structure AgentRegistration where
  siteId : String
  token : String
  agentUrl : String
  deriving DecidableEq, Repr

structure AgentConfig where
  siteId : String
  siteName : String
  autonomyLevel : Option String
  cachePolicy : Option String
  cacheMaxSizeGb : Option Int
  cacheRetentionDays : Option Int
  heartbeatInterval : Nat := 60
  syncEnabled : Bool := true
  deriving DecidableEq, Repr

/-- `verify_token`. -/
def verifyToken (hashToken : String → String) (token tokenHash : String) : Bool :=
  hashToken token = tokenHash

/-- `register_agent`. -/
def registerAgent (hashToken : String → String) (now : Int) (db : SiteDb)
    (registration : AgentRegistration) : Except Exn (AgentConfig × SiteDb) := do
  let site ← siteOf db registration.siteId
  let tokenHash := site.agentTokenHash.getD ""
  if tokenHash = "" then
    .error (.http 400 "No registration token configured for this site. Generate one first.")
  else if !verifyToken hashToken registration.token tokenHash then
    .error (.http 401 "Invalid registration token")
  else
    let config : AgentConfig :=
      { siteId := site.id
        siteName := site.name
        autonomyLevel := site.autonomyLevel
        cachePolicy := site.cachePolicy
        cacheMaxSizeGb := site.cacheMaxSizeGb
        cacheRetentionDays := site.cacheRetentionDays }
    -- the stored hash stays
    .ok (config, db.put { site with
      agentUrl := some registration.agentUrl
      agentStatus := some .online
      agentLastSeen := some now })

/-- The answer to a heartbeat; no command is ever pending. -/
structure HeartbeatResponse where
  acknowledged : Bool
  serverTime : Int
  deriving DecidableEq, Repr

/-- `agent_heartbeat`; the clock is read once more for the answer. -/
def agentHeartbeat (now serverTime : Int) (db : SiteDb) (siteId : String) :
    Except Exn (HeartbeatResponse × SiteDb) := do
  let site ← siteOf db siteId
  .ok ({ acknowledged := true, serverTime }, db.put { site with
    agentStatus := some .online
    agentLastSeen := some now })

/-- `AgentStatusResponse`, but for the fields that are always `None` or 0. -/
structure AgentStatusResponse where
  siteId : String
  siteName : String
  agentUrl : Option String
  agentStatus : Option AgentStatus
  agentLastSeen : Option Int
  deriving DecidableEq, Repr

/-- `timedelta(seconds=…)`. -/
def seconds (n : Int) : Int := n * 1000000

/-- `timedelta(minutes=…)`. -/
def minutes (n : Int) : Int := seconds (n * 60)

/-- `timedelta(hours=…)`. -/
def hours (n : Int) : Int := minutes (n * 60)

/-- The status that `get_agent_status` reports. -/
def reportedStatus (now : Int) (site : Site) : Option AgentStatus :=
  match site.agentLastSeen with
  | none => site.agentStatus
  | some seen =>
      if minutes 5 < now - seen then some .offline
      else if minutes 2 < now - seen then some .degraded
      else site.agentStatus

/-- `get_agent_status`. -/
def getAgentStatus (now : Int) (db : SiteDb) (siteId : String) :
    Except Exn AgentStatusResponse := do
  let site ← siteOf db siteId
  .ok { siteId := site.id
        siteName := site.name
        agentUrl := site.agentUrl
        agentStatus := reportedStatus now site
        agentLastSeen := site.agentLastSeen }

/-! ## §4. The job (`agent_status_job.py`). -/

/-- `HEARTBEAT_INTERVAL`, in seconds. -/
def heartbeatInterval : Int := 60

/-- `DEGRADED_THRESHOLD`, in intervals. -/
def degradedThreshold : Int := 2

/-- `OFFLINE_THRESHOLD`, in intervals. -/
def offlineThreshold : Int := 5

/-- The status after a time without a heartbeat. -/
def statusAfter (timeSinceHeartbeat : Int) : AgentStatus :=
  if seconds (heartbeatInterval * offlineThreshold) < timeSinceHeartbeat then .offline
  else if seconds (heartbeatInterval * degradedThreshold) < timeSinceHeartbeat then .degraded
  else .online

/-- `get_status_for_last_seen`. -/
def getStatusForLastSeen (now : Int) : Option Int → AgentStatus
  | none => .offline
  | some lastSeen => statusAfter (now - lastSeen)

/-- What `update_agent_statuses` does with one row of the table. -/
def updateAgentStatus (now : Int) (site : Site) : Site :=
  match site.agentLastSeen with
  | none => site
  | some seen =>
      if site.isSite then { site with agentStatus := some (statusAfter (now - seen)) } else site

section

variable (now : Int) (site : Site)

@[simp] theorem updateAgentStatus_id : (updateAgentStatus now site).id = site.id := by
  unfold updateAgentStatus
  split
  · rfl
  · split <;> rfl

@[simp] theorem updateAgentStatus_isSite :
    (updateAgentStatus now site).isSite = site.isSite := by
  unfold updateAgentStatus
  split
  · rfl
  · split <;> rfl

@[simp] theorem updateAgentStatus_agentLastSeen :
    (updateAgentStatus now site).agentLastSeen = site.agentLastSeen := by
  unfold updateAgentStatus
  split
  · rfl
  · split <;> rfl

theorem updateAgentStatus_agentTokenHash :
    (updateAgentStatus now site).agentTokenHash = site.agentTokenHash := by
  unfold updateAgentStatus
  split
  · rfl
  · split <;> rfl

end

theorem updateAgentStatus_agentStatus {now seen : Int} {site : Site} (hsite : site.isSite = true)
    (hseen : site.agentLastSeen = some seen) :
    (updateAgentStatus now site).agentStatus = some (statusAfter (now - seen)) := by
  unfold updateAgentStatus
  rw [hseen]
  simp only [if_pos hsite]

theorem updateAgentStatus_of_not_site (now : Int) {site : Site} (hsite : ¬ site.isSite = true) :
    updateAgentStatus now site = site := by
  unfold updateAgentStatus
  split
  · rfl
  · exact if_neg hsite

/-- `update_agent_statuses`. -/
def updateAgentStatuses (now : Int) (db : SiteDb) : SiteDb :=
  db.update (updateAgentStatus now) (updateAgentStatus_id now)

/-! ## §5. What each operation does to the table. -/

section

variable {hashToken : String → String} {db db' : SiteDb}

theorem generateAgentToken_ok {token siteId : String} {response : AgentTokenResponse}
    (h : generateAgentToken hashToken token db siteId = .ok (response, db')) :
    response.token = token ∧ ∃ site, siteOf db siteId = .ok site ∧
      db' = db.put { site with agentTokenHash := some (hashToken token) } := by
  obtain ⟨site, hsite, hok⟩ := bind_eq_ok.mp h
  obtain ⟨rfl, rfl⟩ := ok_pair_inj hok
  exact ⟨rfl, site, hsite, rfl⟩

/-- A registration that is accepted presents the token whose hash is stored. -/
theorem registerAgent_ok {now : Int} {r : AgentRegistration} {config : AgentConfig}
    (h : registerAgent hashToken now db r = .ok (config, db')) :
    ∃ site, siteOf db r.siteId = .ok site ∧ site.agentTokenHash = some (hashToken r.token) ∧
      db' = db.put { site with
        agentUrl := some r.agentUrl
        agentStatus := some .online
        agentLastSeen := some now } := by
  obtain ⟨site, hsite, hok⟩ := bind_eq_ok.mp h
  obtain ⟨hne, hok⟩ := ite_error_eq_ok.mp hok
  obtain ⟨hverify, hok⟩ := ite_error_eq_ok.mp hok
  refine ⟨site, hsite, ?_, (ok_pair_inj hok).2.symm⟩
  have hsame : hashToken r.token = site.agentTokenHash.getD "" := by
    simpa only [verifyToken, Bool.not_eq_true', decide_eq_false_iff_not, not_not] using hverify
  cases hhash : site.agentTokenHash with
  | none =>
      rw [hhash] at hne
      exact absurd rfl hne
  | some tokenHash =>
      rw [hhash] at hsame
      rw [hsame, Option.getD_some]

theorem exists_registerAgent {now : Int} {r : AgentRegistration} {site : Site}
    (hsite : siteOf db r.siteId = .ok site) (hhash : site.agentTokenHash = some (hashToken r.token))
    (hne : hashToken r.token ≠ "") :
    ∃ config db', registerAgent hashToken now db r = .ok (config, db') := by
  have hverify : ¬ (!verifyToken hashToken r.token (hashToken r.token)) = true := by
    simp [verifyToken]
  unfold registerAgent
  rw [hsite, ok_bind, hhash, Option.getD_some, if_neg hne, if_neg hverify]
  exact ⟨_, _, rfl⟩

theorem agentHeartbeat_ok {now serverTime : Int} {siteId : String} {response : HeartbeatResponse}
    (h : agentHeartbeat now serverTime db siteId = .ok (response, db')) :
    ∃ site, siteOf db siteId = .ok site ∧ db' = db.put { site with
        agentStatus := some .online
        agentLastSeen := some now } := by
  obtain ⟨site, hsite, hok⟩ := bind_eq_ok.mp h
  exact ⟨site, hsite, (ok_pair_inj hok).2.symm⟩

end

/-! ## §6. The operations of a run. -/

/-- An operation on the sites. -/
inductive AgentOp where
  | generateAgentToken (siteId token : String)
  | registerAgent (registration : AgentRegistration)
  | agentHeartbeat (siteId : String) (serverTime : Int)
  | updateAgentStatuses
  deriving DecidableEq, Repr

/-- An operation, and when it runs. -/
structure AgentEvent where
  now : Int
  op : AgentOp
  deriving DecidableEq, Repr

/-- The table after an operation; a refused one leaves it as it is. -/
def execOp (hashToken : String → String) (db : SiteDb) (e : AgentEvent) : SiteDb :=
  match e.op with
  | .generateAgentToken siteId token =>
      commitOrRollback db (generateAgentToken hashToken token db siteId)
  | .registerAgent registration =>
      commitOrRollback db (registerAgent hashToken e.now db registration)
  | .agentHeartbeat siteId serverTime =>
      commitOrRollback db (agentHeartbeat e.now serverTime db siteId)
  | .updateAgentStatuses => updateAgentStatuses e.now db

/-- What an operation may make of a row. -/
inductive SiteStep (hashToken : String → String) (e : AgentEvent) (site : Site) : Site → Prop where
  | kept : SiteStep hashToken e site site
  | drawn {token : String} (hop : e.op = .generateAgentToken site.id token) :
      SiteStep hashToken e site { site with agentTokenHash := some (hashToken token) }
  | registered (agentUrl : String) : SiteStep hashToken e site
      { site with
        agentUrl := some agentUrl
        agentStatus := some .online
        agentLastSeen := some e.now }
  | heartbeat : SiteStep hashToken e site
      { site with agentStatus := some .online, agentLastSeen := some e.now }
  | passed : SiteStep hashToken e site (updateAgentStatus e.now site)

/-- **WHAT AN OPERATION DOES TO THE SITES.** -/
theorem execOp_becomes (hashToken : String → String) (db : SiteDb) (e : AgentEvent) :
    Table.Becomes (SiteStep hashToken e) (fun _ => False) db (execOp hashToken db e) := by
  have hkept : ∀ site, SiteStep hashToken e site site := fun _ => .kept
  have hrefl : Table.Becomes (SiteStep hashToken e) (fun _ => False) db db :=
    Table.Becomes.refl hkept db
  unfold execOp
  split
  next siteId token hop =>
    refine commitOrRollback_preserves hrefl (fun _ db' hok => ?_)
    obtain ⟨-, site, hsite, rfl⟩ := generateAgentToken_ok hok
    obtain ⟨hmem, rfl, -⟩ := siteOf_eq_ok.mp hsite
    exact Table.Becomes.put hkept hmem rfl (.drawn hop)
  next registration hop =>
    refine commitOrRollback_preserves hrefl (fun _ db' hok => ?_)
    obtain ⟨site, hsite, -, rfl⟩ := registerAgent_ok hok
    exact Table.Becomes.put hkept (siteOf_eq_ok.mp hsite).1 rfl (.registered _)
  next siteId serverTime hop =>
    refine commitOrRollback_preserves hrefl (fun _ db' hok => ?_)
    obtain ⟨site, hsite, rfl⟩ := agentHeartbeat_ok hok
    exact Table.Becomes.put hkept (siteOf_eq_ok.mp hsite).1 rfl .heartbeat
  next hop => exact Table.Becomes.update (updateAgentStatus_id e.now) (fun _ => .passed)

/-- A site stays what it is. -/
theorem SiteStep.same {hashToken : String → String} {e : AgentEvent} {site site' : Site}
    (h : SiteStep hashToken e site site') : site'.id = site.id ∧ site'.isSite = site.isSite := by
  cases h <;> simp

/-- Its hash changes only when a token is drawn for it. -/
theorem SiteStep.hash_kept {hashToken : String → String} {e : AgentEvent} {site site' : Site}
    (h : SiteStep hashToken e site site')
    (hop : ∀ siteId token, e.op ≠ .generateAgentToken siteId token) :
    site'.agentTokenHash = site.agentTokenHash := by
  cases h with
  | kept => rfl
  | drawn hdrawn => exact absurd hdrawn (hop _ _)
  | registered => rfl
  | heartbeat => rfl
  | passed => exact updateAgentStatus_agentTokenHash e.now site

end PureBoot.Sites
