/-
  PureBoot.Lifecycle.AuditChain — the lifecycle endpoints as ONE MACHINE, and
  when its audit table explains every node.

  A request is an operation with the clock reading it sees; `exec` runs its
  handler in a session of its own (`get_db`: commit on success, roll back on any
  exception).  The property is `AuditOk` in every state of a run; the runs that
  have it are exactly those in which no clone request pushes a node to `pending`
  by assigning the column (`clonePushes`).

  Main results:
    * `auditInv_exec` — every request but a push keeps the audit invariant;
    * `audit_chain_iff` — the runs that keep every node explained.
-/
import PureBoot.Lifecycle.CloneApi

namespace PureBoot.Lifecycle

open PureBoot.Lib

/-! ## §1. Requests and their execution. -/

/-- The lifecycle operations of the API, with what the client sends. -/
inductive Op where
  | createNode (uuid : String) (data : NodeCreate)
  | updateNode (nodeId : String) (data : NodeUpdate)
  | transitionNodeState (nodeId : String) (state : NodeState) (comment : Option String)
      (force : Bool)
  | bulkChangeState (nodeIds : List String) (newState : NodeState)
  | retireNode (nodeId : String)
  | reportNodeStatus (report : NodeReport) (clientHost : Option String)
  | nodeCloneSourceReady (nodeId : String) (body : Option CloneReadyBody)
      (clientHost : Option String)
  | nodeInstalledCallback (nodeId : String) (success : Option JsonValue)
      (clientHost : Option String)
  | nodeInstallFailedCallback (nodeId : String) (error : Option JsonValue)
  | getBootScript (uuid : String) (req : BootRequest)
  | createCloneSession (uuid : String) (request : CloneSessionCreate)
  | updateCloneSession (sessionId : String) (request : CloneSessionUpdate)
  | deleteCloneSession (sessionId : String)
  | startCloneSession (sessionId : String)
  | cloneSourceReady (sessionId : String) (request : CloneSourceReady)
  | cloneProgress (sessionId : String) (request : CloneProgressUpdate)
  | cloneComplete (sessionId : String)
  | cloneFailed (sessionId errorMessage : String)

/-- An operation and the time its handler reads. -/
structure Request where
  now : Timestamp
  op : Op

/-- Every operation but a forced state change. -/
def Op.unforced : Op → Bool
  | .transitionNodeState _ _ _ force => !force
  | _ => true

/-- One request in its own session. -/
def exec (env : Env) (db : DB) (r : Request) : DB :=
  match r.op with
  | .createNode uuid data => commitOrRollback db (createNode db uuid data)
  | .updateNode nodeId data => commitOrRollback db (updateNode db nodeId data)
  | .transitionNodeState nodeId state comment force =>
      commitOrRollback db (transitionNodeState r.now db nodeId state comment force)
  | .bulkChangeState nodeIds newState =>
      commitOrRollback db (bulkChangeState r.now db nodeIds newState)
  | .retireNode nodeId => commitOrRollback db (retireNode r.now db nodeId)
  | .reportNodeStatus report clientHost =>
      commitOrRollback db (reportNodeStatus r.now db report clientHost)
  | .nodeCloneSourceReady nodeId body clientHost =>
      commitOrRollback db (nodeCloneSourceReady db nodeId body clientHost)
  | .nodeInstalledCallback nodeId success clientHost =>
      commitOrRollback db (nodeInstalledCallback r.now db nodeId success clientHost)
  | .nodeInstallFailedCallback nodeId error =>
      commitOrRollback db (nodeInstallFailedCallback r.now db nodeId error)
  | .getBootScript uuid req => commitOrRollback db (getBootScript env r.now db uuid req)
  | .createCloneSession uuid request =>
      commitOrRollback db (createCloneSession env db uuid request)
  | .updateCloneSession sessionId request =>
      commitOrRollback db (updateCloneSession db sessionId request)
  | .deleteCloneSession sessionId =>
      commitOrRollback db (deleteCloneSession r.now db sessionId)
  | .startCloneSession sessionId =>
      commitOrRollback db (startCloneSession env r.now db sessionId)
  | .cloneSourceReady sessionId request =>
      commitOrRollback db (cloneSourceReady r.now db sessionId request)
  | .cloneProgress sessionId request =>
      commitOrRollback db (cloneProgress db sessionId request)
  | .cloneComplete sessionId => commitOrRollback db (cloneComplete env r.now db sessionId)
  | .cloneFailed sessionId errorMessage =>
      commitOrRollback db (cloneFailed r.now db sessionId errorMessage)

/-- The request is a clone request that puts a node in `pending` by assignment:
the start of a pending session whose source node, or a source-ready message of a
direct session whose target node, is discovered, active or installed. -/
def clonePushes (db : DB) (r : Request) : Bool :=
  match r.op with
  | .startCloneSession sessionId => startPushes db sessionId
  | .cloneSourceReady sessionId _ => sourceReadyPushes db sessionId
  | _ => false

/-! ## §2. One request. -/

/-- **ONE REQUEST**: without force and without a push, the audit invariant is
kept. -/
theorem auditInv_exec (env : Env) (db : DB) (r : Request) (hforce : r.op.unforced = true)
    (hinv : AuditInv db) (hpush : clonePushes db r = false) : AuditInv (exec env db r) := by
  obtain ⟨now, op⟩ := r
  -- a handler that made one of the `Write`s of the store
  have hwrite : ∀ {α : Type} {h : Except Exn (α × DB)},
      (∀ a db', h = .ok (a, db') → Write db db') → AuditInv (commitOrRollback db h) :=
    fun hh => commitOrRollback_preserves hinv (fun a db' he => auditInv_write hinv (hh a db' he))
  -- a node endpoint
  have hdoes : ∀ {α : Type} {h : Except Exn (α × DB)},
      (∀ a db', h = .ok (a, db') → EndpointStep now false db db') →
      AuditInv (commitOrRollback db h) :=
    fun hh => hwrite (fun a db' he => (hh a db' he).write)
  cases op with
  | createNode uuid data => exact hdoes (fun _ _ h => createNode_does h)
  | updateNode nodeId data => exact hdoes (fun _ _ h => updateNode_does h)
  | transitionNodeState nodeId state comment force =>
      cases force with
      | true => cases hforce
      | false => exact hdoes (fun _ _ h => transitionNodeState_does id h)
  | bulkChangeState nodeIds newState =>
      exact commitOrRollback_preserves hinv (fun _ _ h => bulkChangeState_auditInv hinv h)
  | retireNode nodeId => exact hdoes (fun _ _ h => retireNode_does h)
  | reportNodeStatus report clientHost => exact hdoes (fun _ _ h => reportNodeStatus_does h)
  | nodeCloneSourceReady nodeId body clientHost =>
      exact hdoes (fun _ _ h => nodeCloneSourceReady_does h)
  | nodeInstalledCallback nodeId success clientHost =>
      exact hdoes (fun _ _ h => nodeInstalledCallback_does h)
  | nodeInstallFailedCallback nodeId error =>
      exact hdoes (fun _ _ h => nodeInstallFailedCallback_does h)
  | getBootScript uuid req => exact hdoes (fun _ _ h => getBootScript_does h)
  | createCloneSession uuid request =>
      exact hwrite (fun _ _ h => (createCloneSession_frame h).write)
  | updateCloneSession sessionId request =>
      exact hwrite (fun _ _ h => (updateCloneSession_frame h).write)
  | deleteCloneSession sessionId =>
      exact hwrite (fun _ _ h => (deleteCloneSession_frame h).write)
  | startCloneSession sessionId =>
      exact hwrite (fun _ _ h => startCloneSession_write hpush h)
  | cloneSourceReady sessionId request =>
      exact hwrite (fun _ _ h => cloneSourceReady_write hpush h)
  | cloneProgress sessionId request =>
      exact hwrite (fun _ _ h => (cloneProgress_frame h).write)
  | cloneComplete sessionId => exact hwrite (fun _ _ h => (cloneComplete_frame h).write)
  | cloneFailed sessionId errorMessage =>
      exact hwrite (fun _ _ h => (cloneFailed_frame h).write)

/-- A push leaves a node its audit rows do not explain. -/
theorem not_auditOk_exec (env : Env) (db : DB) (r : Request) (hok : AuditOk db)
    (hpush : clonePushes db r = true) : ¬ AuditOk (exec env db r) := by
  obtain ⟨now, op⟩ := r
  cases op with
  | startCloneSession sessionId => exact startCloneSession_breaks hok hpush
  | cloneSourceReady sessionId request => exact cloneSourceReady_breaks hok hpush
  | _ => cases hpush

/-! ## §3. Whole runs. -/

/-- **THE AUDIT CHAIN, EXACTLY**: over any sequence of requests without force, the
audit rows explain every node in every state reached if and only if no clone
request of the sequence pushes a node to `pending` by assignment. -/
theorem audit_chain_iff (env : Env) (reqs : List Request)
    (hforce : ∀ r ∈ reqs, r.op.unforced = true) :
    Always (exec env) AuditOk DB.empty reqs
      ↔ Along (exec env) (fun db r => clonePushes db r = false) DB.empty reqs := by
  have hstep : ∀ db r, r.op.unforced = true → AuditInv db → clonePushes db r = false →
      AuditInv (exec env db r) := fun db r hr hinv hg => auditInv_exec env db r hr hinv hg
  have hbreak : ∀ db r, r.op.unforced = true → AuditInv db → ¬ clonePushes db r = false →
      ¬ AuditOk (exec env db r) := by
    intro db r _ hinv hg
    exact not_auditOk_exec env db r hinv.explained (by simpa using hg)
  exact always_iff_along hstep (fun _ hinv => hinv.explained) hbreak hforce auditInv_empty

/-- SQLite without workflow files and without a certificate authority. -/
def sqliteEnv : Env where
  readback := fun t => { t with aware := false }
  getWorkflow := fun _ => .notFound

/-- Two nodes are registered, one is sent to install, and a direct session with
the other one as its source is created. -/
def preparedClone : List Request :=
  [⟨⟨0, true⟩, .createNode "n" { macAddress := "00:11:22:33:44:55" }⟩,
   ⟨⟨1, true⟩, .createNode "m" { macAddress := "00:11:22:33:44:66" }⟩,
   ⟨⟨2, true⟩, .transitionNodeState "n" .pending none false⟩,
   ⟨⟨3, true⟩, .createCloneSession "s"
     { sourceNodeId := "m", targetNodeId := some "n", cloneMode := .direct,
       backendGiven := by decide, targetGiven := by decide }⟩]

/-- A source-ready message that finds the target node already `pending` pushes
nothing, and the audit rows explain both nodes throughout. -/
theorem audit_chain_iff_target_pending :
    (∀ r ∈ preparedClone ++ [⟨⟨4, true⟩, .cloneSourceReady "s"
        { ip := "10.0.0.7", sizeBytes := 64, device := "/dev/sda" }⟩], r.op.unforced = true)
      ∧ Always (exec sqliteEnv) AuditOk DB.empty (preparedClone ++ [⟨⟨4, true⟩,
          .cloneSourceReady "s" { ip := "10.0.0.7", sizeBytes := 64, device := "/dev/sda" }⟩]) :=
  ⟨by decide, (audit_chain_iff sqliteEnv _ (by decide)).mpr (by decide)⟩

/-- Starting the session moves its source node from `discovered` to `pending`
with no audit row. -/
theorem audit_chain_broken_by_start :
    (∀ r ∈ preparedClone ++ [⟨⟨4, true⟩, .startCloneSession "s"⟩], r.op.unforced = true)
      ∧ ¬ Always (exec sqliteEnv) AuditOk DB.empty
          (preparedClone ++ [⟨⟨4, true⟩, .startCloneSession "s"⟩]) := by
  refine ⟨by decide, fun h => ?_⟩
  have hsource := h.last
    { id := "m", macAddress := "00:11:22:33:44:66", state := .pending,
      workflowId := some "clone-source:s:/dev/sda", stateChangedAt := some ⟨4, true⟩ }
    (by decide)
  exact absurd hsource.last (by decide)

end PureBoot.Lifecycle
