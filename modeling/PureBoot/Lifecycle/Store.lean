/-
  PureBoot.Lifecycle.Store — the tables the node and clone endpoints share, and
  the KINDS OF WRITE an endpoint makes to them.

  `Node` and `CloneSession` rows live in keyed tables; `NodeStateLog` and
  `NodeEvent` rows are only ever appended and are kept in creation order.  Every
  handler of the next two modules that leaves the lifecycle to the state service
  ends in one of three writes, collected in `Write`: nothing that concerns a node,
  a new node, or a node saved together with the audit rows for it.

  Main results:
    * `Write` — what one handler may do to `nodes` and `logs`;
    * `AuditInv`, `auditInv_write` — the audit invariant, kept by every `Write`.
-/
import PureBoot.Lib.Table
import PureBoot.Lib.Trail
import PureBoot.Lifecycle.StateMachine

namespace PureBoot.Lifecycle

open PureBoot.Lib

/-! ## §1. Rows. -/

/-- `NodeReport.event`. -/
inductive ReportEvent where
  | bootStarted
  | installStarted
  | installProgress
  | installComplete
  | installFailed
  | firstBoot
  | heartbeat
  deriving DecidableEq, Repr

/-- `NodeEvent.event_type`: a reported event or one of the server's own. -/
inductive EventType where
  | report (event : ReportEvent)
  | deployComplete
  | cloneSourceReady
  deriving DecidableEq, Repr

/-- `NodeEvent.status`. -/
inductive EventStatus where
  | success
  | failed
  | inProgress
  | ready
  deriving DecidableEq, Repr

/-- `db/models.py: NodeEvent`. -/
structure NodeEvent where
  nodeId : String
  eventType : EventType
  status : EventStatus := .success
  message : Option String := none
  progress : Option Nat := none
  metadataJson : Option JsonDict := none
  ipAddress : Option String := none
  deriving DecidableEq, Repr

/-- `CloneSession.status`. -/
inductive CloneStatus where
  | pending
  | sourceReady
  | cloning
  | completed
  | failed
  | cancelled
  deriving DecidableEq, Repr

/-- The text stored in the `status` column. -/
def CloneStatus.name : CloneStatus → String
  | pending => "pending"
  | sourceReady => "source_ready"
  | cloning => "cloning"
  | completed => "completed"
  | failed => "failed"
  | cancelled => "cancelled"

/-- `CloneSession.clone_mode`. -/
inductive CloneMode where
  | staged
  | direct
  deriving DecidableEq, Repr

/-- `CloneSession.resize_mode`. -/
inductive ResizeMode where
  | none
  | shrinkSource
  | growTarget
  deriving DecidableEq, Repr

/-- `db/models.py: CloneSession`, without the staging area and the partition
plan. -/
structure CloneSession where
  id : String
  name : Option String := none
  status : CloneStatus := .pending
  cloneMode : CloneMode := .staged
  sourceNodeId : String
  targetNodeId : Option String := none
  sourceDevice : String := "/dev/sda"
  targetDevice : String := "/dev/sda"
  sourceIp : Option String := none
  sourcePort : Int := 9999
  /-- `(source_cert_pem, source_key_pem)`. -/
  sourceCert : Option (String × String) := none
  /-- `(target_cert_pem, target_key_pem)`. -/
  targetCert : Option (String × String) := none
  stagingBackendId : Option String := none
  resizeMode : ResizeMode := .none
  bytesTotal : Option Int := none
  bytesTransferred : Int := 0
  transferRateBps : Option Int := none
  errorMessage : Option String := none
  startedAt : Option Timestamp := none
  completedAt : Option Timestamp := none
  deriving DecidableEq, Repr

/-- The part of the database the lifecycle endpoints work on. -/
structure DB where
  nodes : Table Node.id
  logs : List NodeStateLog
  events : List NodeEvent
  sessions : Table CloneSession.id
  deriving DecidableEq

namespace DB

/-- The database `init_db` creates. -/
def empty : DB where
  nodes := Table.empty
  logs := []
  events := []
  sessions := Table.empty

/-- `select(Node).where(Node.mac_address == mac)`. -/
def nodeByMac (db : DB) (mac : String) : Option Node :=
  db.nodes.rows.find? (fun n => n.macAddress = mac)

/-- Flush a node together with the audit rows and events added for it. -/
def save (db : DB) (node : Node) (logs : List NodeStateLog) (events : List NodeEvent) : DB :=
  { db with
    nodes := db.nodes.put node, logs := db.logs ++ logs, events := db.events ++ events }

/-- Flush a session. -/
def saveSession (db : DB) (session : CloneSession) : DB :=
  { db with sessions := db.sessions.put session }

/-- Flush a new row of `nodes`; its key must be free. -/
def addNode (db : DB) (node : Node) : Except Exn DB :=
  match db.nodes.insert? node with
  | some nodes => .ok { db with nodes }
  | none => .error .integrityError

theorem addNode_eq_ok {db db' : DB} {node : Node} (h : db.addNode node = .ok db') :
    db.nodes.insert? node = some db'.nodes ∧ db'.logs = db.logs ∧ db'.sessions = db.sessions := by
  unfold addNode at h
  split at h
  next nodes hins =>
    injection h with h
    subst h
    exact ⟨hins, rfl, rfl⟩
  next => cases h

/-- The audit rows of a node, in creation order. -/
def logsOf (db : DB) (nodeId : String) : List NodeStateLog :=
  db.logs.filter (fun l => l.nodeId = nodeId)

theorem mem_of_nodeByMac {db : DB} {mac : String} {node : Node}
    (h : db.nodeByMac mac = some node) : node ∈ db.nodes.rows :=
  List.mem_of_find?_eq_some h

/-- A node that keeps its address is found again after it is saved. -/
theorem nodeByMac_save {db : DB} {mac : String} {node node' : Node} {logs : List NodeStateLog}
    {events : List NodeEvent} (h : db.nodeByMac mac = some node) (hid : node'.id = node.id)
    (hmac : node'.macAddress = node.macAddress) :
    (db.save node' logs events).nodeByMac mac = some node' := by
  have hfound : node.macAddress = mac := by simpa using List.find?_some h
  have hmac' : node'.macAddress = mac := hmac.trans hfound
  exact Table.find?_put h hid (by simp [hmac'])

end DB

/-! ## §2. The kinds of write. -/

/-- **What one request may write** to `nodes` and `logs`. -/
inductive Write (db db' : DB) : Prop where
  /-- No node and no audit row is touched. -/
  | frame : db'.nodes = db.nodes → db'.logs = db.logs → Write db db'
  /-- A new node, in its default state. -/
  | created (node : Node) : node.state = .discovered →
      db.nodes.insert? node = some db'.nodes → db'.logs = db.logs → Write db db'
  /-- A node and the audit rows for what happened to its state. -/
  | saved (node node' : Node) (logs : List NodeStateLog) : node ∈ db.nodes.rows →
      node'.id = node.id → Audited node node' logs →
      db'.nodes = db.nodes.put node' → db'.logs = db.logs ++ logs → Write db db'

/-- A node written by one request with no change of its state. -/
theorem Write.savedSame {db : DB} {node node' : Node} {events : List NodeEvent}
    (hmem : node ∈ db.nodes.rows) (hid : node'.id = node.id) (hst : node'.state = node.state) :
    Write db (db.save node' [] events) :=
  .saved node node' [] hmem hid (.same hst) rfl rfl

/-- What a new node's flush writes. -/
theorem write_addNode {db db' : DB} {node : Node} (hst : node.state = .discovered)
    (h : db.addNode node = .ok db') : Write db db' := by
  obtain ⟨hins, hlogs, -⟩ := DB.addNode_eq_ok h
  exact .created node hst hins hlogs

/-! ## §3. The audit invariant. -/

/-- The audit rows of a node explain its state. -/
def NodeExplained (db : DB) (node : Node) : Prop :=
  Explains NodeStateLog.fromState NodeStateLog.toState
    (fun a b => canTransition a b = true) .discovered (db.logsOf node.id) node.state

/-- Every node's state is explained by its audit rows. -/
def AuditOk (db : DB) : Prop :=
  ∀ node ∈ db.nodes.rows, NodeExplained db node

/-- The invariant behind `AuditOk`: a node that does not exist yet has no audit
rows. -/
structure AuditInv (db : DB) : Prop where
  explained : AuditOk db
  owned : ∀ log ∈ db.logs, ∃ node ∈ db.nodes.rows, node.id = log.nodeId

theorem auditInv_empty : AuditInv DB.empty := by
  refine ⟨?_, ?_⟩
  · intro node hmem
    simp [DB.empty] at hmem
  · intro log hmem
    simp [DB.empty] at hmem

theorem logsOf_append (db : DB) (logs : List NodeStateLog) (nodeId : String) :
    (db.logs ++ logs).filter (fun l => l.nodeId = nodeId)
      = db.logsOf nodeId ++ logs.filter (fun l => l.nodeId = nodeId) := by
  unfold DB.logsOf
  exact List.filter_append ..

/-- The audit rows added for `node` are rows of `node`. -/
theorem Audited.nodeId_eq {node node' : Node} {logs : List NodeStateLog}
    (h : Audited node node' logs) : ∀ log ∈ logs, log.nodeId = node.id := by
  cases h with
  | same _ => simp
  | moved log hid _ _ _ =>
      intro l hl
      rw [List.mem_singleton.mp hl]
      exact hid

/-- The audit rows of a node, followed by the rows an audited move adds, explain
the state it moved to. -/
theorem Audited.explains {db : DB} {node node' : Node} {logs : List NodeStateLog}
    (h : Audited node node' logs) (hex : NodeExplained db node) :
    Explains NodeStateLog.fromState NodeStateLog.toState
      (fun a b => canTransition a b = true) .discovered (db.logsOf node.id ++ logs)
      node'.state := by
  cases h with
  | same hst =>
      rw [List.append_nil, hst]
      exact hex
  | moved log hid hfrom hto hcan =>
      rw [← hto]
      refine hex.snoc hfrom ?_
      rw [hfrom, hto]
      exact hcan

/-- **A WRITE KEEPS THE AUDIT TRAIL.** -/
theorem auditInv_write {db db' : DB} (hinv : AuditInv db) (h : Write db db') :
    AuditInv db' := by
  cases h with
  | frame hn hl =>
      refine ⟨?_, ?_⟩
      · intro node hmem
        unfold NodeExplained DB.logsOf
        rw [hl]
        exact hinv.explained node (hn ▸ hmem)
      · rw [hl, hn]
        exact hinv.owned
  | created node hst hins hl =>
      obtain ⟨hfresh, hrows⟩ := Table.insert?_eq_some_iff.mp hins
      have hold : ∀ n ∈ db.nodes.rows, n ∈ db'.nodes.rows := by
        intro n hn
        rw [hrows]
        exact List.mem_append_left _ hn
      refine ⟨?_, ?_⟩
      · intro n hmem
        unfold NodeExplained DB.logsOf
        rw [hl]
        rw [hrows] at hmem
        rcases List.mem_append.mp hmem with hmem | hmem
        · exact hinv.explained n hmem
        · -- the new node: no audit row can name it
          obtain rfl := List.mem_singleton.mp hmem
          have hnone : db.logs.filter (fun l => l.nodeId = n.id) = [] := by
            rw [List.filter_eq_nil_iff]
            intro l hlog
            obtain ⟨owner, hown, hid⟩ := hinv.owned l hlog
            have hne := hfresh owner hown
            rw [hid] at hne
            simpa using hne
          rw [hnone, hst]
          exact Explains.nil
      · intro log hlog
        rw [hl] at hlog
        obtain ⟨owner, hown, hid⟩ := hinv.owned log hlog
        exact ⟨owner, hold owner hown, hid⟩
  | saved node node' logs hmem hid haud hn hl =>
      have hput := fun x => Table.mem_put_iff (x := x) ⟨node, hmem, hid.symm⟩
      refine ⟨?_, ?_⟩
      · intro n hn'
        unfold NodeExplained
        unfold DB.logsOf
        rw [hl, logsOf_append]
        rw [hn, hput] at hn'
        rcases hn' with rfl | ⟨hn', hne⟩
        · -- the saved node: its new rows follow its old ones
          have hall : logs.filter (fun l => l.nodeId = n.id) = logs := by
            rw [List.filter_eq_self]
            intro l hlog
            simp [haud.nodeId_eq l hlog, hid]
          rw [hall, hid]
          exact haud.explains (hinv.explained node hmem)
        · -- any other node: none of the new rows is its own
          have hnone : logs.filter (fun l => l.nodeId = n.id) = [] := by
            rw [List.filter_eq_nil_iff]
            intro l hlog
            rw [hid] at hne
            simpa [haud.nodeId_eq l hlog] using fun h => hne h.symm
          rw [hnone, List.append_nil]
          exact hinv.explained n hn'
      · intro log hlog
        have howner : ∃ owner ∈ db.nodes.rows, owner.id = log.nodeId := by
          rw [hl] at hlog
          rcases List.mem_append.mp hlog with hlog | hlog
          · exact hinv.owned log hlog
          · exact ⟨node, hmem, (haud.nodeId_eq log hlog).symm⟩
        obtain ⟨owner, hown, hoid⟩ := howner
        rw [hn]
        by_cases heq : owner.id = node'.id
        · exact ⟨node', (hput node').mpr (.inl rfl), heq ▸ hoid⟩
        · exact ⟨owner, (hput owner).mpr (.inr ⟨hown, heq⟩), hoid⟩

end PureBoot.Lifecycle
