/-
  PureBoot.Lifecycle.CloneApi — the clone-session endpoints.

  Embeds `api/routes/clone.py`: `create_clone_session`, `update_clone_session`,
  `delete_clone_session`, `start_clone_session`, `clone_source_ready`,
  `clone_progress`, `clone_complete` and `clone_failed`.  Starting a session and
  a direct-mode source becoming ready also prepare a NODE for its next boot
  (`bootForClone`): they assign a clone workflow and, from three states, put the
  node in `pending` without going through the state service.

  Main results:
    * one `NodesKept` lemma per endpoint that touches no node, and one `Write` lemma for
      the two that prepare one, under the condition that its state is left alone;
    * `not_auditOk_bootForClone` — where it is not left alone, the audit rows no
      longer explain the node's state.
-/
import PureBoot.Lib.Run
import PureBoot.Lifecycle.NodeApi

namespace PureBoot.Lifecycle

open PureBoot.Lib

/-! ## §1. Requests. -/

/-- `CloneSessionCreate`, with what its model validator checks. -/
structure CloneSessionCreate where
  name : Option String := none
  sourceNodeId : String
  targetNodeId : Option String := none
  sourceDevice : String := "/dev/sda"
  targetDevice : String := "/dev/sda"
  cloneMode : CloneMode := .staged
  stagingBackendId : Option String := none
  resizeMode : ResizeMode := .none
  /-- "staging_backend_id required for staged mode". -/
  backendGiven : cloneMode = .staged → truthy stagingBackendId = true
  /-- "target_node_id required for direct mode". -/
  targetGiven : cloneMode = .direct → truthy targetNodeId = true

/-- `CloneSessionUpdate`. -/
structure CloneSessionUpdate where
  name : Option String := none
  targetNodeId : Option String := none
  targetDevice : Option String := none
  resizeMode : Option ResizeMode := none
  deriving DecidableEq, Repr

/-- `CloneSourceReady`. -/
structure CloneSourceReady where
  ip : String
  port : Int := 9999
  sizeBytes : Int
  device : String
  deriving DecidableEq, Repr

/-- `CloneProgressUpdate`, without the display status. -/
structure CloneProgressUpdate where
  bytesTransferred : Nat
  transferRateBps : Option Nat := none
  deriving DecidableEq, Repr

/-! ## §2. Preparing a node for its clone boot. -/

/-- `state in ("discovered", "active", "installed")`. -/
def cloneBootable (s : NodeState) : Bool :=
  s = .discovered || s = .active || s = .installed

/-- The node part of `start_clone_session` and of a direct `clone_source_ready`:
the workflow is assigned, and a node in one of three states is put in `pending`
by assigning the column. -/
def bootForClone (now : Timestamp) (workflowId : String) (node : Node) : Node :=
  let node₁ := { node with workflowId := some workflowId }
  if cloneBootable node₁.state
  then { node₁ with state := .pending, stateChangedAt := some now } else node₁

/-- Prepare the node with this id, if the relationship finds one. -/
def DB.bootForClone (db : DB) (now : Timestamp) (nodeId workflowId : String) : DB :=
  match db.nodes.get? nodeId with
  | none => db
  | some node => db.save (Lifecycle.bootForClone now workflowId node) [] []

/-! ## §3. The endpoints. -/

/-- `create_clone_session`; the certificates are issued before the row has an id. -/
def createCloneSession (env : Env) (db : DB) (uuid : String) (request : CloneSessionCreate) :
    Except Exn (CloneSession × DB) :=
  if db.nodes.get? request.sourceNodeId = none then
    .error (.http 404 "Source node not found")
  else if truthy request.targetNodeId = true
      ∧ (request.targetNodeId.bind db.nodes.get?) = none then
    .error (.http 404 "Target node not found")
  else if request.cloneMode = .staged ∧ truthy request.stagingBackendId = true
      ∧ (request.stagingBackendId.map env.storageBackendExists) ≠ some true then
    .error (.http 404 "Storage backend not found")
  else
    let issue := if request.cloneMode = .direct then env.issueSessionCert else none
    let session : CloneSession :=
      { id := uuid, name := request.name, cloneMode := request.cloneMode,
        sourceNodeId := request.sourceNodeId, targetNodeId := request.targetNodeId,
        sourceDevice := request.sourceDevice, targetDevice := request.targetDevice,
        stagingBackendId := request.stagingBackendId, resizeMode := request.resizeMode,
        sourceCert := issue.map (fun f => f none "source"),
        targetCert := issue.map (fun f => f none "target") }
    match db.sessions.insert? session with
    | some sessions => .ok (session, { db with sessions })
    | none => .error .integrityError

/-- `update_clone_session`. -/
def updateCloneSession (db : DB) (sessionId : String) (request : CloneSessionUpdate) :
    Except Exn (CloneSession × DB) :=
  match db.sessions.get? sessionId with
  | none => .error (.http 404 "Clone session not found")
  | some session =>
      if session.status ≠ .pending then
        .error (.http 400 ("Cannot update session in " ++ session.status.name ++ " status"))
      else if request.targetNodeId ≠ none
          ∧ (request.targetNodeId.bind db.nodes.get?) = none then
        .error (.http 404 "Target node not found")
      else
        let session' := { session with
          name := request.name.or session.name
          targetNodeId := request.targetNodeId.or session.targetNodeId
          targetDevice := request.targetDevice.getD session.targetDevice
          resizeMode := request.resizeMode.getD session.resizeMode }
        .ok (session', db.saveSession session')

/-- `delete_clone_session`: a running session is cancelled, any other one deleted. -/
def deleteCloneSession (now : Timestamp) (db : DB) (sessionId : String) :
    Except Exn (String × DB) :=
  match db.sessions.get? sessionId with
  | none => .error (.http 404 "Clone session not found")
  | some session =>
      if session.status = .cloning then
        .ok ("Clone session cancelled",
          db.saveSession { session with status := .cancelled, completedAt := some now })
      else
        .ok ("Clone session deleted",
          { db with sessions := db.sessions.delete (fun s => s.id = sessionId) })

/-- `start_clone_session`; the answer is `source_boot_mode`. -/
def startCloneSession (env : Env) (now : Timestamp) (db : DB) (sessionId : String) :
    Except Exn (String × DB) :=
  match db.sessions.get? sessionId with
  | none => .error (.http 404 "Clone session not found")
  | some session =>
      if session.status ≠ .pending then
        .error (.http 400 ("Cannot start session in '" ++ session.status.name
          ++ "' status. Must be 'pending'."))
      else
        let session' := { session with
          sourceCert := match env.issueSessionCert with
            | some issue => some (issue (some session.id) "source")
            | none => session.sourceCert
          targetCert := match env.issueSessionCert with
            | some issue =>
                if truthy session.targetNodeId then some (issue (some session.id) "target")
                else session.targetCert
            | none => session.targetCert
          startedAt := some now }
        let db₁ := db.bootForClone now session.sourceNodeId
          ("clone-source:" ++ session.id ++ ":" ++ session.sourceDevice)
        let bootMode := match db.nodes.get? session.sourceNodeId with
          | some node => if node.bootMode = "" then "bios" else node.bootMode
          | none => "bios"
        .ok (bootMode, db₁.saveSession session')

/-- `clone_source_ready`; the answer says whether a target node was prepared. -/
def cloneSourceReady (now : Timestamp) (db : DB) (sessionId : String)
    (request : CloneSourceReady) : Except Exn ((Bool × String) × DB) :=
  match db.sessions.get? sessionId with
  | none => .error (.http 404 "Clone session not found")
  | some session =>
      let session' := { session with
        status := .sourceReady
        sourceIp := some request.ip
        sourcePort := request.port
        bytesTotal := some request.sizeBytes
        startedAt := session.startedAt.or (some now) }
      let at_ := request.ip ++ ":" ++ toString request.port
      let target := if session.cloneMode = .direct ∧ truthy session.targetNodeId = true
        then session.targetNodeId.bind db.nodes.get? else none
      match target with
      | some node =>
          let db₁ := db.bootForClone now node.id
            ("clone-target:" ++ session.id ++ ":" ++ session.targetDevice ++ ":" ++ at_)
          .ok ((true, "Source ready at " ++ at_ ++ ". "
            ++ "Target node configured for clone boot - reboot target to begin transfer."),
            db₁.saveSession session')
      | none => .ok ((false, "Source ready at " ++ at_), db.saveSession session')

/-- `clone_progress`. -/
def cloneProgress (db : DB) (sessionId : String) (request : CloneProgressUpdate) :
    Except Exn (CloneSession × DB) :=
  match db.sessions.get? sessionId with
  | none => .error (.http 404 "Clone session not found")
  | some session =>
      let session' := { session with
        bytesTransferred := request.bytesTransferred
        transferRateBps := (request.transferRateBps.map Int.ofNat).or session.transferRateBps
        status := if session.status = .sourceReady then .cloning else session.status }
      .ok (session', db.saveSession session')

/-- `clone_complete`; the answer is the duration in whole seconds. -/
def cloneComplete (env : Env) (now : Timestamp) (db : DB) (sessionId : String) :
    Except Exn (Int × DB) :=
  match db.sessions.get? sessionId with
  | none => .error (.http 404 "Clone session not found")
  | some session =>
      let session' := { session with
        status := .completed
        completedAt := some now
        bytesTransferred := match session.bytesTotal with
          | some total => if total ≠ 0 then total else session.bytesTransferred
          | none => session.bytesTransferred }
      match session.startedAt with
      | some started => do
          let micros ← now.sub (env.readback started)
          .ok (micros.tdiv 1000000, db.saveSession session')
      | none => .ok (0, db.saveSession session')

/-- `clone_failed`. -/
def cloneFailed (now : Timestamp) (db : DB) (sessionId errorMessage : String) :
    Except Exn (String × DB) :=
  match db.sessions.get? sessionId with
  | none => .error (.http 404 "Clone session not found")
  | some session =>
      .ok ("Clone failed: " ++ errorMessage,
        db.saveSession { session with
          status := .failed, errorMessage := some errorMessage, completedAt := some now })

/-! ## §4. What preparing a node writes. -/

theorem bootForClone_id (now : Timestamp) (workflowId : String) (node : Node) :
    (bootForClone now workflowId node).id = node.id := by
  unfold bootForClone
  dsimp only
  split <;> rfl

theorem bootForClone_state (now : Timestamp) (workflowId : String) (node : Node) :
    (bootForClone now workflowId node).state
      = if cloneBootable node.state = true then .pending else node.state := by
  unfold bootForClone
  dsimp only
  split <;> rfl

/-- The node a clone boot would push to `pending` behind the state service's back. -/
def pushed (db : DB) (nodeId : String) : Bool :=
  match db.nodes.get? nodeId with
  | some node => cloneBootable node.state
  | none => false

theorem Write.saveSession {db db' : DB} (h : Write db db') (session : CloneSession) :
    Write db (db'.saveSession session) := by
  cases h with
  | frame hn hl => exact .frame hn hl
  | created node hst hins hl => exact .created node hst hins hl
  | saved node node' logs hmem hid haud hn hl => exact .saved node node' logs hmem hid haud hn hl

/-- Preparing a node whose state is left alone only assigns its workflow. -/
theorem bootForClone_write {db : DB} {now : Timestamp} {nodeId workflowId : String}
    (h : pushed db nodeId = false) : Write db (db.bootForClone now nodeId workflowId) := by
  unfold DB.bootForClone
  unfold pushed at h
  cases hget : db.nodes.get? nodeId with
  | none => exact .frame rfl rfl
  | some node =>
      rw [hget] at h
      dsimp only at h
      refine .savedSame (Table.get?_eq_some_iff.mp hget).1 (bootForClone_id ..) ?_
      rw [bootForClone_state, if_neg (by simp [h])]

/-- **A PUSHED NODE IS NOT EXPLAINED**: its audit rows still end at the state it
had before. -/
theorem not_auditOk_bootForClone {db : DB} {now : Timestamp} {nodeId workflowId : String}
    (hok : AuditOk db) (h : pushed db nodeId = true) :
    ¬ AuditOk (db.bootForClone now nodeId workflowId) := by
  unfold DB.bootForClone
  unfold pushed at h
  cases hget : db.nodes.get? nodeId with
  | none => rw [hget] at h; cases h
  | some node =>
      rw [hget] at h
      dsimp only at h ⊢
      intro hok'
      obtain ⟨hmem, -⟩ := Table.get?_eq_some_iff.mp hget
      have hid := bootForClone_id now workflowId node
      have hnew := hok' _ (Table.mem_put_self hmem hid.symm)
      -- no row was added, so both states are the one the rows lead to
      unfold NodeExplained DB.logsOf DB.save at hnew
      simp only [List.append_nil, hid] at hnew
      have hst := (hok node hmem).unique hnew
      rw [bootForClone_state, if_pos h] at hst
      rw [hst] at h
      exact absurd h (by decide)

/-! ## §5. What the clone endpoints write. -/

/-- Neither a node nor an audit row is touched. -/
structure NodesKept (db db' : DB) : Prop where
  nodes : db'.nodes = db.nodes
  logs : db'.logs = db.logs

section Writes

variable {env : Env} {now : Timestamp} {db db' : DB} {sessionId : String}

theorem NodesKept.write (h : NodesKept db db') : Write db db' := .frame h.nodes h.logs

theorem createCloneSession_frame {uuid : String} {request : CloneSessionCreate}
    {a : CloneSession} (h : createCloneSession env db uuid request = .ok (a, db')) :
    NodesKept db db' := by
  unfold createCloneSession at h
  obtain ⟨-, h⟩ := ite_error_eq_ok.mp h
  obtain ⟨-, h⟩ := ite_error_eq_ok.mp h
  obtain ⟨-, h⟩ := ite_error_eq_ok.mp h
  dsimp only at h
  split at h
  next =>
    obtain ⟨-, rfl⟩ := ok_pair_inj h
    exact ⟨rfl, rfl⟩
  next => cases h

theorem updateCloneSession_frame {request : CloneSessionUpdate} {a : CloneSession}
    (h : updateCloneSession db sessionId request = .ok (a, db')) : NodesKept db db' := by
  unfold updateCloneSession at h
  split at h
  next => cases h
  next =>
    obtain ⟨-, h⟩ := ite_error_eq_ok.mp h
    obtain ⟨-, h⟩ := ite_error_eq_ok.mp h
    obtain ⟨-, rfl⟩ := ok_pair_inj h
    exact ⟨rfl, rfl⟩

theorem deleteCloneSession_frame {a : String}
    (h : deleteCloneSession now db sessionId = .ok (a, db')) : NodesKept db db' := by
  unfold deleteCloneSession at h
  split at h
  next => cases h
  next =>
    split at h
    next =>
      obtain ⟨-, rfl⟩ := ok_pair_inj h
      exact ⟨rfl, rfl⟩
    next =>
      obtain ⟨-, rfl⟩ := ok_pair_inj h
      exact ⟨rfl, rfl⟩

theorem cloneProgress_frame {request : CloneProgressUpdate} {a : CloneSession}
    (h : cloneProgress db sessionId request = .ok (a, db')) : NodesKept db db' := by
  unfold cloneProgress at h
  split at h
  next => cases h
  next =>
    obtain ⟨-, rfl⟩ := ok_pair_inj h
    exact ⟨rfl, rfl⟩

theorem cloneComplete_frame {a : Int}
    (h : cloneComplete env now db sessionId = .ok (a, db')) : NodesKept db db' := by
  unfold cloneComplete at h
  split at h
  next => cases h
  next =>
    dsimp only at h
    split at h
    next =>
      obtain ⟨micros, -, h⟩ := bind_eq_ok.mp h
      obtain ⟨-, rfl⟩ := ok_pair_inj h
      exact ⟨rfl, rfl⟩
    next =>
      obtain ⟨-, rfl⟩ := ok_pair_inj h
      exact ⟨rfl, rfl⟩

theorem cloneFailed_frame {errorMessage a : String}
    (h : cloneFailed now db sessionId errorMessage = .ok (a, db')) : NodesKept db db' := by
  unfold cloneFailed at h
  split at h
  next => cases h
  next =>
    obtain ⟨-, rfl⟩ := ok_pair_inj h
    exact ⟨rfl, rfl⟩

/-- The node a session's start prepares: the source of a session still pending. -/
def startPushes (db : DB) (sessionId : String) : Bool :=
  match db.sessions.get? sessionId with
  | some session => session.status = .pending && pushed db session.sourceNodeId
  | none => false

/-- The node a source-ready message prepares: the target of a direct session. -/
def sourceReadyPushes (db : DB) (sessionId : String) : Bool :=
  match db.sessions.get? sessionId with
  | some session =>
      session.cloneMode = .direct && truthy session.targetNodeId
        && session.targetNodeId.any (pushed db)
  | none => false

/-- **A START THAT SUCCEEDS** finds its session pending, prepares the source node and sets the
start time. -/
theorem startCloneSession_eq_ok {a : String}
    (h : startCloneSession env now db sessionId = .ok (a, db')) :
    ∃ s ∈ db.sessions.rows, s.id = sessionId ∧ s.status = .pending ∧
      ∃ s', db' = (db.bootForClone now s.sourceNodeId
          ("clone-source:" ++ s.id ++ ":" ++ s.sourceDevice)).saveSession s'
        ∧ s'.id = s.id ∧ s'.status = .pending ∧ s'.startedAt = some now
        ∧ s'.completedAt = s.completedAt := by
  unfold startCloneSession at h
  split at h
  next => cases h
  next s hget =>
    obtain ⟨hs, hid⟩ := Table.get?_eq_some_iff.mp hget
    obtain ⟨hpending, h⟩ := ite_error_eq_ok.mp h
    obtain ⟨-, rfl⟩ := ok_pair_inj h
    have hst : s.status = .pending := not_not.mp hpending
    exact ⟨s, hs, hid, hst, _, rfl, rfl, hst, rfl, rfl⟩

/-- **A SOURCE-READY MESSAGE** writes its session, and prepares the target node of a direct one
if it is found. -/
theorem cloneSourceReady_eq_ok {request : CloneSourceReady} {a : Bool × String}
    (h : cloneSourceReady now db sessionId request = .ok (a, db')) :
    ∃ s ∈ db.sessions.rows, s.id = sessionId ∧
      ∃ s', (db' = db.saveSession s' ∨
          ∃ nodeId, s.cloneMode = .direct ∧ s.targetNodeId = some nodeId
            ∧ truthy (some nodeId) = true
            ∧ db' = (db.bootForClone now nodeId ("clone-target:" ++ s.id ++ ":" ++ s.targetDevice
              ++ ":" ++ (request.ip ++ ":" ++ toString request.port))).saveSession s')
        ∧ s'.id = s.id ∧ s'.status = .sourceReady ∧ s'.completedAt = s.completedAt := by
  unfold cloneSourceReady at h
  split at h
  next => cases h
  next s hget =>
    obtain ⟨hs, hid⟩ := Table.get?_eq_some_iff.mp hget
    dsimp only at h
    split at h
    next node htarget =>
      obtain ⟨-, rfl⟩ := ok_pair_inj h
      split at htarget
      next hdirect =>
        obtain ⟨nodeId, htargetId, hnode⟩ := Option.bind_eq_some_iff.mp htarget
        obtain rfl : node.id = nodeId := (Table.get?_eq_some_iff.mp hnode).2
        have htruthy : truthy (some node.id) = true := htargetId ▸ hdirect.2
        exact ⟨s, hs, hid, _, .inr ⟨node.id, hdirect.1, htargetId, htruthy, rfl⟩, rfl, rfl, rfl⟩
      next => cases htarget
    next =>
      obtain ⟨-, rfl⟩ := ok_pair_inj h
      exact ⟨s, hs, hid, _, .inl rfl, rfl, rfl, rfl⟩

theorem startCloneSession_write {a : String} (hg : startPushes db sessionId = false)
    (h : startCloneSession env now db sessionId = .ok (a, db')) : Write db db' := by
  obtain ⟨s, hs, hid, hst, s', rfl, -⟩ := startCloneSession_eq_ok h
  unfold startPushes at hg
  rw [Table.get?_eq_some_iff.mpr ⟨hs, hid⟩] at hg
  refine (bootForClone_write ?_).saveSession _
  simpa [hst] using hg

/-- A start that pushes its source node commits, and leaves the node unexplained. -/
theorem startCloneSession_breaks (hok : AuditOk db) (hg : startPushes db sessionId = true) :
    ¬ AuditOk (commitOrRollback db (startCloneSession env now db sessionId)) := by
  unfold startPushes at hg
  cases hget : db.sessions.get? sessionId with
  | none => rw [hget] at hg; cases hg
  | some session =>
      rw [hget] at hg
      simp only [Bool.and_eq_true, decide_eq_true_eq] at hg
      unfold startCloneSession
      rw [hget]
      simp only [hg.1, ne_eq, not_true_eq_false, if_false, commitOrRollback_ok]
      exact not_auditOk_bootForClone hok hg.2

theorem cloneSourceReady_write {request : CloneSourceReady} {a : Bool × String}
    (hg : sourceReadyPushes db sessionId = false)
    (h : cloneSourceReady now db sessionId request = .ok (a, db')) : Write db db' := by
  obtain ⟨s, hs, hid, s', rfl | ⟨nodeId, hdirect, htarget, htruthy, rfl⟩, -⟩ :=
    cloneSourceReady_eq_ok h
  · exact .frame rfl rfl
  · unfold sourceReadyPushes at hg
    rw [Table.get?_eq_some_iff.mpr ⟨hs, hid⟩] at hg
    dsimp only at hg
    rw [hdirect, htarget] at hg
    refine (bootForClone_write ?_).saveSession _
    simpa [htruthy] using hg

/-- A source-ready message that pushes the target node commits, and leaves the
node unexplained. -/
theorem cloneSourceReady_breaks {request : CloneSourceReady} (hok : AuditOk db)
    (hg : sourceReadyPushes db sessionId = true) :
    ¬ AuditOk (commitOrRollback db (cloneSourceReady now db sessionId request)) := by
  unfold sourceReadyPushes at hg
  cases hget : db.sessions.get? sessionId with
  | none => rw [hget] at hg; cases hg
  | some session =>
      rw [hget] at hg
      simp only [Bool.and_eq_true, decide_eq_true_eq] at hg
      obtain ⟨⟨hdirect, htruthy⟩, hany⟩ := hg
      obtain ⟨id, hid, hpush⟩ := (Option.any_eq_true ..).mp hany
      -- a pushed target is in particular found
      cases hnode : db.nodes.get? id with
      | none => unfold pushed at hpush; rw [hnode] at hpush; cases hpush
      | some node =>
          have hkey := (Table.get?_eq_some_iff.mp hnode).2
          unfold cloneSourceReady
          rw [hget]
          simp only [hdirect, hid, Option.bind_some, hnode]
          rw [hid] at htruthy
          simp only [htruthy]
          exact not_auditOk_bootForClone hok (hkey ▸ hpush)

end Writes

end PureBoot.Lifecycle
