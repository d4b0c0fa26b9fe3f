/-
  PureBoot.Lifecycle.NodeSteps — what one request can do to a NODE.

  `NodeStep` says once what a request may do to the state and the installation
  counter of a node: leave them alone, move the state through the state service,
  start or fail an installation, or prepare the node for a clone boot.  Every
  endpoint of the lifecycle machine makes such steps and nothing else.

  Main results:
    * `exec_nodes` — a request rewrites nodes by `NodeStep` or adds fresh ones.
-/
import PureBoot.Lifecycle.AuditChain

namespace PureBoot.Lifecycle

open PureBoot.Lib

/-! ## §1. Steps of a node. -/

/-- **What one request may do to a node**, after it refreshed other columns. -/
inductive NodeStep (now : Timestamp) (node : Node) : Node → Prop where
  /-- State and counter are left alone. -/
  | kept {node' : Node} : Kept node node' → NodeStep now node node'
  /-- The state service moves it, forced or not. -/
  | moved {node₁ node' : Node} {toState : NodeState} {tb : TriggeredBy} {c : Option String}
      {m : JsonDict} {force : Bool} {log : NodeStateLog} : Kept node node₁ →
      transition now node₁ toState tb c m force = .ok (node', log) → NodeStep now node node'
  /-- A started installation restarts the counter. -/
  | started {node₁ node' : Node} {log : NodeStateLog} : Kept node node₁ →
      transition now node₁ .installing .nodeReport none [] false = .ok (node', log) →
      NodeStep now node { node' with installAttempts := 0 }
  /-- A failed installation is counted. -/
  | failed {node₁ node' : Node} {error : JsonValue} {logs : List NodeStateLog} :
      Kept node node₁ → node₁.state = .pending ∨ node₁.state = .installing →
      handleInstallFailure now node₁ error = .ok (node', logs) → NodeStep now node node'
  /-- A clone request prepares it by assigning the column. -/
  | pushed (workflowId : String) : NodeStep now node (bootForClone now workflowId node)

theorem NodeStep.refl (now : Timestamp) (node : Node) : NodeStep now node node :=
  .kept (.refl node)

theorem NodeStep.id_eq {now : Timestamp} {node node' : Node} (h : NodeStep now node node') :
    node'.id = node.id := by
  cases h with
  | kept hk => exact hk.id
  | moved hk ht => exact (transition_ok ht).1.trans hk.id
  | started hk ht => exact (transition_ok ht).1.trans hk.id
  | failed hk _ ht => exact (handleInstallFailure_audited ht).1.trans hk.id
  | pushed workflowId => exact bootForClone_id ..

theorem transition_lastSeenAt {now : Timestamp} {node node' : Node} {toState : NodeState}
    {tb : TriggeredBy} {c : Option String} {m : JsonDict} {force : Bool} {log : NodeStateLog}
    (h : transition now node toState tb c m force = .ok (node', log)) :
    node'.lastSeenAt = node.lastSeenAt := by
  obtain ⟨-, h⟩ := ite_error_eq_ok.mp h
  obtain ⟨-, h⟩ := ite_error_eq_ok.mp h
  obtain ⟨rfl, -⟩ := ok_pair_inj h
  split <;> rfl

theorem handleInstallFailure_lastSeenAt {now : Timestamp} {node node' : Node}
    {error : JsonValue} {logs : List NodeStateLog}
    (h : handleInstallFailure now node error = .ok (node', logs)) :
    node'.lastSeenAt = node.lastSeenAt := by
  unfold handleInstallFailure at h
  dsimp only at h
  split at h
  next =>
    split at h
    next ht =>
      obtain ⟨rfl, -⟩ := ok_pair_inj h
      have hkept := transition_lastSeenAt ht
      exact hkept
    next => cases h
  next =>
    obtain ⟨rfl, -⟩ := ok_pair_inj h
    rfl

/-- A node that was seen is not forgotten. -/
theorem NodeStep.seen {now : Timestamp} {node node' : Node} (h : NodeStep now node node')
    (hseen : node.lastSeenAt ≠ none) : node'.lastSeenAt ≠ none := by
  cases h with
  | kept hk => exact hk.seen hseen
  | moved hk ht =>
      rw [transition_lastSeenAt ht]
      exact hk.seen hseen
  | started hk ht =>
      show _ ≠ none
      rw [transition_lastSeenAt ht]
      exact hk.seen hseen
  | failed hk _ ht =>
      rw [handleInstallFailure_lastSeenAt ht]
      exact hk.seen hseen
  | pushed workflowId =>
      unfold bootForClone
      dsimp only
      split <;> exact hseen

/-- **What one request may do to the `nodes` table.** -/
abbrev NodesBecome (now : Timestamp) (db db' : DB) : Prop :=
  Table.Becomes (NodeStep now) Fresh db.nodes db'.nodes

section Becomes

variable {now : Timestamp} {db db' : DB}

theorem nodesBecome_refl (h : db'.nodes = db.nodes) : NodesBecome now db db' := by
  unfold NodesBecome
  rw [h]
  exact Table.Becomes.refl (NodeStep.refl now) db.nodes

theorem nodesBecome_save {node node' : Node} {logs : List NodeStateLog}
    {events : List NodeEvent} (hmem : node ∈ db.nodes.rows) (h : NodeStep now node node') :
    NodesBecome now db (db.save node' logs events) :=
  Table.Becomes.put (NodeStep.refl now) hmem h.id_eq h

theorem nodesBecome_addNode {node : Node} (hfresh : Fresh node)
    (h : db.addNode node = .ok db') : NodesBecome now db db' :=
  Table.Becomes.insert? (NodeStep.refl now) hfresh (DB.addNode_eq_ok h).1

theorem nodesBecome_bootForClone (nodeId workflowId : String) :
    NodesBecome now db (db.bootForClone now nodeId workflowId) := by
  unfold DB.bootForClone
  cases hget : db.nodes.get? nodeId with
  | none => exact nodesBecome_refl rfl
  | some node =>
      exact nodesBecome_save (Table.get?_eq_some_iff.mp hget).1 (.pushed workflowId)

end Becomes

/-! ## §2. Every request makes such steps. -/

section Handlers

variable {env : Env} {now : Timestamp} {forced : Bool} {db db' : DB}

theorem NodeChange.step {node node' : Node} {logs : List NodeStateLog}
    (h : NodeChange now forced node node' logs) : NodeStep now node node' := by
  cases h with
  | kept hk => exact .kept hk
  | moved hk ht _ => exact .moved hk ht
  | started hk ht => exact .started hk ht
  | failed hk hst ht => exact .failed hk hst ht

/-- The nodes after a node endpoint. -/
theorem EndpointStep.nodes (h : EndpointStep now forced db db') : NodesBecome now db db' := by
  cases h with
  | untouched hnodes _ _ => exact nodesBecome_refl hnodes
  | added hfresh hadd => exact nodesBecome_addNode hfresh hadd
  | saved hmem hchange => exact nodesBecome_save hmem hchange.step

/-- **THE BULK LOOP**: each node visited makes one step; the rows still to come are the ones
the loop started from. -/
theorem bulkChangeState_nodes {nodeIds : List String} {newState : NodeState}
    {res : BulkChangeStateResult}
    (h : bulkChangeState now db nodeIds newState = .ok (res, db')) : NodesBecome now db db' := by
  unfold bulkChangeState at h
  refine (bulkLoop_rule (P := fun nodes d => NodesBecome now db d
    ∧ (∀ n ∈ nodes, n ∈ db.nodes.rows ∧ n ∈ d.nodes.rows) ∧ (nodes.map Node.id).Nodup)
    ?_ ?_ _ ⟨nodesBecome_refl rfl, ?_, ?_⟩ h).1
  · rintro node rest d ⟨hbec, hmem, hnodup⟩
    rw [List.map_cons, List.nodup_cons] at hnodup
    exact ⟨hbec, fun n hn => hmem n (List.mem_cons_of_mem node hn), hnodup.2⟩
  · rintro node rest d node' log ⟨hbec, hmem, hnodup⟩ ht
    rw [List.map_cons, List.nodup_cons] at hnodup
    have hstep : NodeStep now node node' := .moved (.refl node) ht
    obtain ⟨horig, hcur⟩ := hmem node List.mem_cons_self
    refine ⟨hbec.put_again (fun _ _ hs => hs.id_eq) horig hcur hstep, ?_, hnodup.2⟩
    -- a row still to come has another id than the row just written
    intro x hx
    obtain ⟨hxorig, hxcur⟩ := hmem x (List.mem_cons_of_mem node hx)
    refine ⟨hxorig, Table.mem_put_of_ne hxcur ?_⟩
    intro hxid
    exact hnodup.1 (List.mem_map.mpr ⟨x, hx, hxid.trans hstep.id_eq⟩)
  · exact fun n hn => ⟨List.mem_of_mem_filter hn, List.mem_of_mem_filter hn⟩
  · exact db.nodes.nodup.sublist (List.filter_sublist.map Node.id)

theorem startCloneSession_nodes {sessionId a : String}
    (h : startCloneSession env now db sessionId = .ok (a, db')) : NodesBecome now db db' := by
  obtain ⟨s, -, -, -, s', rfl, -⟩ := startCloneSession_eq_ok h
  exact nodesBecome_bootForClone s.sourceNodeId _

theorem cloneSourceReady_nodes {sessionId : String} {request : CloneSourceReady}
    {a : Bool × String} (h : cloneSourceReady now db sessionId request = .ok (a, db')) :
    NodesBecome now db db' := by
  obtain ⟨s, -, -, s', rfl | ⟨nodeId, -, -, -, rfl⟩, -⟩ := cloneSourceReady_eq_ok h
  · exact nodesBecome_refl rfl
  · exact nodesBecome_bootForClone nodeId _

end Handlers

/-- **WHAT A REQUEST DOES TO THE NODES**: each one makes a step, and a new one is fresh. -/
theorem exec_nodes (env : Env) (db : DB) (r : Request) : NodesBecome r.now db (exec env db r) := by
  obtain ⟨now, op⟩ := r
  -- a request that raised, or that wrote no node
  have hrefl : NodesBecome now db db := nodesBecome_refl rfl
  have hframe : ∀ {α : Type} {h : Except Exn (α × DB)},
      (∀ a db', h = .ok (a, db') → NodesKept db db') →
      NodesBecome now db (commitOrRollback db h) :=
    fun hh => commitOrRollback_preserves hrefl
      (fun a db' he => nodesBecome_refl (hh a db' he).nodes)
  have hdoes : ∀ {α : Type} {h : Except Exn (α × DB)},
      (∀ a db', h = .ok (a, db') → EndpointStep now true db db') →
      NodesBecome now db (commitOrRollback db h) :=
    fun hh => commitOrRollback_preserves hrefl (fun a db' he => (hh a db' he).nodes)
  cases op with
  | createNode uuid data => exact hdoes (fun _ _ h => createNode_does h)
  | updateNode nodeId data => exact hdoes (fun _ _ h => updateNode_does h)
  | transitionNodeState nodeId state comment force =>
      exact hdoes (fun _ _ h => transitionNodeState_does (fun _ => rfl) h)
  | bulkChangeState nodeIds newState =>
      exact commitOrRollback_preserves hrefl (fun _ _ h => bulkChangeState_nodes h)
  | retireNode nodeId => exact hdoes (fun _ _ h => retireNode_does h)
  | reportNodeStatus report clientHost => exact hdoes (fun _ _ h => reportNodeStatus_does h)
  | nodeCloneSourceReady nodeId body clientHost =>
      exact hdoes (fun _ _ h => nodeCloneSourceReady_does h)
  | nodeInstalledCallback nodeId success clientHost =>
      exact hdoes (fun _ _ h => nodeInstalledCallback_does h)
  | nodeInstallFailedCallback nodeId error =>
      exact hdoes (fun _ _ h => nodeInstallFailedCallback_does h)
  | getBootScript uuid req => exact hdoes (fun _ _ h => getBootScript_does h)
  | createCloneSession uuid request =>
      exact hframe (fun _ _ h => createCloneSession_frame h)
  | updateCloneSession sessionId request =>
      exact hframe (fun _ _ h => updateCloneSession_frame h)
  | deleteCloneSession sessionId =>
      exact hframe (fun _ _ h => deleteCloneSession_frame h)
  | startCloneSession sessionId =>
      exact commitOrRollback_preserves hrefl (fun _ _ h => startCloneSession_nodes h)
  | cloneSourceReady sessionId request =>
      exact commitOrRollback_preserves hrefl (fun _ _ h => cloneSourceReady_nodes h)
  | cloneProgress sessionId request => exact hframe (fun _ _ h => cloneProgress_frame h)
  | cloneComplete sessionId => exact hframe (fun _ _ h => cloneComplete_frame h)
  | cloneFailed sessionId errorMessage => exact hframe (fun _ _ h => cloneFailed_frame h)

end PureBoot.Lifecycle
