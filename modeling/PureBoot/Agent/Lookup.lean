/-
  PureBoot.Agent.Lookup — how an agent LOOKS UP A NODE at central.

  Embeds `list_nodes` of `api/routes/nodes.py` with the envelope of its answer, behind the
  gate, and puts `get_node_by_mac` of the agent before it.

  The two do not fit.  `_request` sends no token, so the gate refuses the lookup and the
  agent takes the refusal for a node that is not there.  A token would not help:
  `list_nodes` has no filter `mac`, and the agent takes the envelope of the list for the
  node, in which it finds none of the fields it reads.

  Main results:
    * `lookup_of_list` — what the agent makes of the list of central's nodes;
    * `lookup_agrees_iff` — the lookups that agree with central.
-/
import PureBoot.Agent.Proxy

namespace PureBoot.Agent

open PureBoot.Lib PureBoot.Web PureBoot.Lifecycle

/-! ## §1. The list of nodes. -/

structure NodeTag where
  nodeId : String
  tag : String

/-- What `list_nodes` reads. -/
structure Inventory where
  db : DB
  tags : List NodeTag := []
  isoformat : Timestamp → String
  /-- The columns of `NodeResponse` that are not modelled: `created_at`, `updated_at`,
  `health_status` and `health_score`. -/
  otherColumns : Node → Dict := fun _ => []

/-- The nodes that pass the filters of the query. -/
def Inventory.selected (inv : Inventory) (query : List (String × String)) : List Node :=
  inv.db.nodes.rows.filter (fun node =>
    (truthy (query.lookup "state")).all (fun state => node.state.name = state)
    && (truthy (query.lookup "group_id")).all (fun groupId => node.groupId = some groupId)
    && (truthy (query.lookup "tag")).all (fun tag =>
      inv.tags.any (fun t => t.nodeId = node.id && t.tag = tag.toLower)))

/-- `NodeResponse.from_node`, as JSON. -/
def Inventory.nodeResponse (inv : Inventory) (node : Node) : Json :=
  let time := fun (t : Option Timestamp) => jsonText (t.map inv.isoformat)
  let tags := inv.tags.filter (fun t => t.nodeId = node.id)
  .obj ([("id", .str node.id), ("mac_address", .str node.macAddress),
    ("hostname", jsonText node.hostname), ("ip_address", jsonText node.ipAddress),
    ("state", .str node.state.name), ("workflow_id", jsonText node.workflowId),
    ("vendor", jsonText node.vendor), ("model", jsonText node.model),
    ("serial_number", jsonText node.serialNumber), ("system_uuid", jsonText node.systemUuid),
    ("arch", .str node.arch), ("boot_mode", .str node.bootMode),
    ("pi_model", jsonText node.piModel), ("group_id", jsonText node.groupId),
    ("tags", .arr (tags.map (fun t => .str t.tag))),
    ("install_attempts", .num (toString node.installAttempts)),
    ("last_install_error", jsonText node.lastInstallError),
    ("state_changed_at", time node.stateChangedAt), ("last_seen_at", time node.lastSeenAt)]
    ++ inv.otherColumns node)

/-- `list_nodes`, in its envelope. -/
def listNodes (inv : Inventory) (query : List (String × String)) : Json :=
  let nodes := inv.selected query
  .obj [("success", .bool true), ("data", .arr (nodes.map inv.nodeResponse)),
    ("total", .num (toString nodes.length))]

/-- Central answers `GET /api/v1/nodes` of an agent. -/
def answerNodes (auth : AuthEnv) (authDb : AuthDb) (host : Authority) (client : Option String)
    (inv : Inventory) (query : List (String × String)) : CentralReply :=
  let request : Web.Request :=
    { method := "GET", path := "/api/v1/nodes".toList, host := host.text, client }
  match (dispatch auth authDb request).1 with
  | .passed _ => .replied ⟨200, some (listNodes inv query)⟩
  | .refused status text => .replied ⟨status, detail text⟩
  | .raised => .replied ⟨500, none⟩

/-! ## §2. The lookup. -/

/-- The agent answers and caches what central has stored under the address. -/
structure Agrees (db : DB) (cache : StateCache) (mac : String)
    (answer : Except Raised (Option CachedNode × StateCache)) : Prop where
  found : ∀ node ∈ db.nodes.rows, node.macAddress = normalizeMac mac →
    ∃ cached cache', answer = .ok (some cached, cache') ∧
      getNode cache' mac = some cached ∧ cached.nodeId = some node.id ∧
      cached.state = node.state.name ∧ cached.workflowId = node.workflowId ∧
      cached.groupId = node.groupId
  missing : (∀ node ∈ db.nodes.rows, node.macAddress ≠ normalizeMac mac) →
    answer = .ok (none, cache)

/-- No entry for the address is live. -/
def NoneLive (cache : StateCache) (mac : String) (now : Nat) : Prop :=
  ∀ cached, getNode cache (normalizeMac mac) = some cached → cached.isExpired now = true

section Lookup

variable {ttl : Int} {now later : Nat} {cache : StateCache} {mac : String}
  {central : List (String × String) → CentralReply}

/-- Without a live entry, central is asked. -/
theorem getNodeByMac_of_reply {reply : Reply} (hlive : NoneLive cache mac now)
    (hreply : central [("mac", normalizeMac mac)] = .replied reply) :
    getNodeByMac ttl now later cache central mac
      = takeReply ttl later cache (normalizeMac mac) reply := by
  have hnone : (getNode cache (normalizeMac mac)).filter (fun node => !node.isExpired now)
      = none := by
    rw [Option.filter_eq_none_iff]
    intro cached hcached
    rw [hlive cached hcached]
    exact Bool.false_ne_true
  unfold getNodeByMac
  dsimp only
  rw [hnone]
  dsimp only
  rw [hreply]

/-- **THE ENVELOPE IS TAKEN FOR THE NODE**: from the list of central's nodes, whatever they
are, the agent makes a node that has been discovered, without an id, a workflow or a
group. -/
theorem lookup_of_list (inv : Inventory) (hlive : NoneLive cache mac now)
    (hreply : central [("mac", normalizeMac mac)]
      = .replied ⟨200, some (listNodes inv [("mac", normalizeMac mac)])⟩) :
    ∃ cached, getNodeByMac ttl now later cache central mac
        = .ok (some cached, cache.upsert cached) ∧
      cached.nodeId = none ∧ cached.state = "discovered" ∧ cached.workflowId = none ∧
      cached.groupId = none := by
  rw [getNodeByMac_of_reply hlive hreply]
  exact ⟨_, rfl, rfl, rfl, rfl, rfl⟩

end Lookup

/-- The gate refuses the lookup of an agent. -/
theorem answerNodes_refused (auth : AuthEnv) (authDb : AuthDb) (host : Authority)
    (client : Option String) (inv : Inventory) (query : List (String × String)) :
    answerNodes auth authDb host client inv query = .replied ⟨401, detail "Not authenticated"⟩ := by
  have hpath : pathOf (host.text ++ "/api/v1/nodes".toList) = "/api/v1/nodes".toList :=
    pathOf_clean host (by decide)
  have hclosed : isPublicPath "/api/v1/nodes".toList = false := by decide
  unfold answerNodes dispatch Request.urlPath
  dsimp only
  rw [hpath, hclosed]
  rfl

/-- **A LOOKUP AGREES WITH CENTRAL, EXACTLY IF** central has no node with the address. -/
theorem lookup_agrees_iff (auth : AuthEnv) (authDb : AuthDb) (host : Authority)
    (client : Option String) (inv : Inventory) (ttl : Int) (now later : Nat)
    (cache : StateCache) (mac : String) (hlive : NoneLive cache mac now) :
    Agrees inv.db cache mac
        (getNodeByMac ttl now later cache (answerNodes auth authDb host client inv) mac) ↔
      ∀ node ∈ inv.db.nodes.rows, node.macAddress ≠ normalizeMac mac := by
  have hanswer : getNodeByMac ttl now later cache (answerNodes auth authDb host client inv) mac
      = .ok (none, cache) := by
    rw [getNodeByMac_of_reply hlive (answerNodes_refused auth authDb host client inv _)]
    rfl
  rw [hanswer]
  constructor
  · intro hagrees node hnode hmac
    obtain ⟨cached, cache', hfound, -⟩ := hagrees.found node hnode hmac
    cases hfound
  · intro hmissing
    exact ⟨fun node hnode hmac => absurd hmac (hmissing node hnode), fun _ => rfl⟩

/-- Central with one node. -/
def oneNode : Inventory where
  db := { DB.empty with
    nodes := ⟨[{ id := "n1", macAddress := "00:11:22:33:44:55", state := .active }], by decide⟩ }
  isoformat := fun _ => ""

theorem normalizeMac_oneNode : normalizeMac "00:11:22:33:44:55" = "00:11:22:33:44:55" := by
  unfold normalizeMac
  rw [← String.toList_inj, String.toList_map]
  decide

/-- Another node is looked up. -/
theorem lookup_agrees_iff_other :
    NoneLive Table.empty "66-11" 0 ∧
      Agrees oneNode.db Table.empty "66-11"
        (getNodeByMac 300 0 0 Table.empty (answerNodes oneTokenEnv {} centralHost none oneNode)
          "66-11") := by
  have hlive : NoneLive Table.empty "66-11" 0 := fun _ h => by cases h
  refine ⟨hlive, (lookup_agrees_iff oneTokenEnv {} centralHost none oneNode 300 0 0 Table.empty
    "66-11" hlive).mpr ?_⟩
  intro node hnode
  obtain rfl := List.mem_singleton.mp hnode
  unfold normalizeMac
  rw [Ne, ← String.toList_inj, String.toList_map]
  decide

/-- The node is looked up, and the agent finds none. -/
theorem node_not_found :
    getNodeByMac 300 0 0 Table.empty (answerNodes oneTokenEnv {} centralHost none oneNode)
        "00:11:22:33:44:55" = .ok (none, Table.empty) ∧
      ¬ Agrees oneNode.db Table.empty "00:11:22:33:44:55"
        (getNodeByMac 300 0 0 Table.empty (answerNodes oneTokenEnv {} centralHost none oneNode)
          "00:11:22:33:44:55") := by
  have hanswer : getNodeByMac 300 0 0 Table.empty
      (answerNodes oneTokenEnv {} centralHost none oneNode) "00:11:22:33:44:55"
        = .ok (none, Table.empty) := by
    rw [getNodeByMac_of_reply (fun _ h => by cases h) (answerNodes_refused _ _ _ _ _ _)]
    rfl
  refine ⟨hanswer, ?_⟩
  rw [hanswer]
  intro hagrees
  obtain ⟨cached, cache', hfound, -⟩ :=
    hagrees.found _ List.mem_cons_self normalizeMac_oneNode.symm
  cases hfound

end PureBoot.Agent
