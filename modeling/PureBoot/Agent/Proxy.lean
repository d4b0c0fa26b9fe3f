/-
  PureBoot.Agent.Proxy — the PROXY of an agent.

  Embeds `get_node`, `get_all_nodes` and `set_node` of `agent/cache/state_cache.py` and,
  of `agent/proxy.py`, `proxy_request` and the methods `get_node_by_mac`,
  `register_node`, `update_node_state` and `report_node_event` of `CentralProxy` with
  what they return: a cached node, or a `dict`.

  What central answers is a parameter, with its errors: `_request` turns a
  `ClientError` into `CentralUnavailableError` and lets everything else pass, such as
  the timeout of the session or JSON that does not parse.

  Main results:
    * `registerNode_dict`, `updateNodeState_dict`, `reportNodeEvent_dict` — a method that
      returns, returns a `dict`.
-/
import PureBoot.Agent.HandOff

namespace PureBoot.Agent

open PureBoot.Lib PureBoot.Web PureBoot.Lifecycle

/-! ## §1. The state cache. -/

/-- What a method raises. -/
inductive Raised where
  | attributeError
  | valueError
  /-- `pydantic.ValidationError`. -/
  | validationError
  | integrityError
  /-- A time without a zone is compared with one that has a zone. -/
  | typeError
  /-- The session's `asyncio.TimeoutError`. -/
  | timeout
  | jsonDecodeError
  deriving DecidableEq

/-- `CachedNode`; times are in seconds, and have a time zone: the agent itself makes no others
(see `StoredNode`). -/
structure CachedNode where
  macAddress : String
  nodeId : Option String := none
  state : String
  workflowId : Option String := none
  groupId : Option String := none
  ipAddress : Option String := none
  vendor : Option String := none
  model : Option String := none
  cachedAt : Nat
  expiresAt : Int
  rawData : Dict := []

/-- `is_expired`. -/
def CachedNode.isExpired (node : CachedNode) (now : Nat) : Bool := node.expiresAt < now

/-- The `nodes` table of the agent. -/
abbrev StateCache : Type := Table CachedNode.macAddress

/-- `get_node`, which also returns expired entries. -/
def getNode (cache : StateCache) (mac : String) : Option CachedNode :=
  cache.get? (normalizeMac mac)

/-- A field of type `str | None`. -/
def optionalText : Option Json → Except Raised (Option String)
  | none | some .null => .ok none
  | some (.str s) => .ok (some s)
  | some _ => .error .validationError

/-- A field of type `str`. -/
def requiredText : Json → Except Raised String
  | .str s => .ok s
  | _ => .error .validationError

/-- The arguments of `set_node`; `None` and a missing key are the same. -/
structure NodeFields where
  nodeId : Option Json := none
  state : Option Json := none
  workflowId : Option Json := none
  groupId : Option Json := none
  ipAddress : Option Json := none
  vendor : Option Json := none
  model : Option Json := none

/-- `CachedNode(…)`, with its validation. -/
def cachedNode (ttl : Int) (now : Nat) (mac : String) (state : Json) (fields : NodeFields)
    (rawData : Dict) : Except Raised CachedNode := do
  return {
    macAddress := normalizeMac mac
    nodeId := ← optionalText fields.nodeId
    state := ← requiredText state
    workflowId := ← optionalText fields.workflowId
    groupId := ← optionalText fields.groupId
    ipAddress := ← optionalText fields.ipAddress
    vendor := ← optionalText fields.vendor
    model := ← optionalText fields.model
    cachedAt := now
    expiresAt := now + ttl
    rawData }

/-- The node that `set_node` makes of single fields. -/
def nodeOfFields (ttl : Int) (now : Nat) (macAddress : Option Json) (fields : NodeFields)
    (rawData : Dict) : Except Raised CachedNode :=
  match macAddress, fields.state with
  | none, _ | some .null, _ | _, none | _, some .null => .error .valueError
  | some (.str mac), some state => cachedNode ttl now mac state fields rawData
  -- `mac_address.lower()`
  | some _, some _ => .error .attributeError

/-- `set_node`, for its single fields. -/
def setNode (ttl : Int) (now : Nat) (cache : StateCache) (macAddress : Option Json)
    (fields : NodeFields) (rawData : Dict) : Except Raised (CachedNode × StateCache) := do
  let node ← nodeOfFields ttl now macAddress fields rawData
  return (node, cache.upsert node)

/-! ## §2. Central's answers. -/

/-- How a request to central ends. -/
inductive CentralReply where
  /-- `aiohttp.ClientError`. -/
  | unavailable (text : String)
  /-- What `_request` does not catch. -/
  | raised (e : Raised)
  | replied (reply : Reply)

structure ProxyResponse where
  statusCode : Nat
  data : Option Json := none
  error : Option String := none
  fromCache : Bool := false
  /-- As text. -/
  cachedAt : Option String := none

/-- `proxy_request`. -/
def proxyRequest : CentralReply → Except Raised ProxyResponse
  | .unavailable text => .ok { statusCode := 503, error := some ("Central unavailable: " ++ text) }
  | .raised e => .error e
  | .replied reply =>
      match reply.data with
      | none | some .null => .ok { statusCode := reply.status }
      | some (.obj fields) => .ok { statusCode := reply.status, data := some (.obj fields) }
      | some (.arr items) => .ok { statusCode := reply.status, data := some (.arr items) }
      -- `data: dict | list | None`
      | some _ => .error .validationError

/-! ## §3. Looking up a node. -/

/-- The node in an answer with status 200: the first of a list, or the `dict` itself. -/
def nodeData : Option Json → Except Raised (Option Dict)
  | none => .ok none
  | some data =>
      if !data.truthy then .ok none
      else
        match data with
        | .arr (.obj fields :: _) => .ok (some fields)
        | .arr (_ :: _) => .error .attributeError
        | .obj fields => .ok (some fields)
        | _ => .ok none

/-- What the agent reads of it. -/
def fieldsOf (node : Dict) : NodeFields where
  nodeId := node.get? "id"
  state := some ((node.get? "state").getD (.str "discovered"))
  workflowId := node.get? "workflow_id"
  groupId := node.get? "group_id"
  ipAddress := node.get? "ip_address"
  vendor := node.get? "vendor"
  model := node.get? "model"

/-- What the agent makes of central's answer for an address. -/
def takeReply (ttl : Int) (later : Nat) (cache : StateCache) (mac : String) (reply : Reply) :
    Except Raised (Option CachedNode × StateCache) :=
  if reply.status = 200 then do
    match ← nodeData reply.data with
    | none => return (none, cache)
    | some node =>
        let (node', cache') ← setNode ttl later cache (some (.str mac)) (fieldsOf node) node
        return (some node', cache')
  else .ok (none, cache)

/-- `get_node_by_mac`.  `central` answers `GET /api/v1/nodes` for a query; it is asked at
`now` and has answered at `later`. -/
def getNodeByMac (ttl : Int) (now later : Nat) (cache : StateCache)
    (central : List (String × String) → CentralReply) (mac : String) :
    Except Raised (Option CachedNode × StateCache) :=
  let mac := normalizeMac mac
  let cached := getNode cache mac
  match cached.filter (fun node => !node.isExpired now) with
  | some node => .ok (some node, cache)
  | none =>
      match central [("mac", mac)] with
      -- a stale entry is better than none
      | .unavailable _ => .ok (cached, cache)
      | .raised e => .error e
      | .replied reply => takeReply ttl later cache mac reply

/-! ## §4. Calls that change something. -/

/-- What a method returns. -/
inductive PyObject where
  | dict (d : Dict)
  | response (r : ProxyResponse)

/-- What the agent keeps. -/
structure Local where
  cache : StateCache
  /-- `None` without offline operation. -/
  queue : Option SyncQueue
  /-- The `payload` column of each item. -/
  columns : List (String × Dict) := []

/-- What is outside at the time of a call. -/
structure CallEnv where
  ttl : Int := 300
  siteId : String
  /-- `is_online` of the connectivity monitor, if there is one. -/
  connectivity : Option Bool
  now : Nat
  uuid : Uuid
  central : CentralReply
  /-- Central performs the operation, if it is asked to. -/
  applies : Bool

/-- What comes of a call. -/
structure Called where
  result : Except Raised PyObject
  agent : Local
  applied : Bool := false
  queued : Bool := false

/-- `is_online`. -/
def CallEnv.isOnline (env : CallEnv) : Bool := env.connectivity.getD true

/-- The queue that takes a call now. -/
def Local.offlineQueue (x : Local) (env : CallEnv) : Option SyncQueue :=
  if env.isOnline then none else x.queue

/-- A call is put into the queue; `none` is the integrity error of its id. -/
def Local.enqueue (x : Local) (env : CallEnv) (q : SyncQueue) (call : OfflineCall) :
    Option Local :=
  (q.enqueue env.uuid (Agent.queued env.uuid call.itemType call.payload env.now)).map
    (fun (id, q') =>
      { x with queue := some q', columns := x.columns ++ [(id, call.column env.siteId)] })

def queuedResult (env : CallEnv) : PyObject :=
  .dict [("status", .str "queued"), ("offline", .bool true), ("queue_id", .str env.uuid.text)]

def failedResult (response : ProxyResponse) : PyObject :=
  .dict [("success", .bool false), ("status_code", .num (toString response.statusCode)),
    ("error", jsonText response.error)]

/-- The cached node with this address gets the new state. -/
def Local.moveCached (x : Local) (env : CallEnv) (macAddress : Option String)
    (nodeId newState : String) : Except Raised Local :=
  match truthy macAddress with
  | none => .ok x
  | some mac =>
      match getNode x.cache mac with
      | none => .ok x
      | some cached => do
          let fields : NodeFields :=
            { nodeId := some (.str nodeId), state := some (.str newState)
              workflowId := cached.workflowId.map .str, groupId := cached.groupId.map .str
              ipAddress := cached.ipAddress.map .str, vendor := cached.vendor.map .str
              model := cached.model.map .str }
          let (_, cache) ← setNode env.ttl env.now x.cache (some (.str mac)) fields cached.rawData
          return { x with cache }

/-- A method after `proxy_request`, with what it does to the agent. -/
def Local.finish (x : Local) (env : CallEnv)
    (onResponse : ProxyResponse → Except Raised (PyObject × Local)) : Called :=
  match (proxyRequest env.central).bind onResponse with
  | .ok (result, agent) => { result := .ok result, agent, applied := env.applies }
  | .error e => { result := .error e, agent := x, applied := env.applies }

/-- `register_node`, from its single arguments. -/
def Local.registerNode (x : Local) (env : CallEnv)
    (macAddress ipAddress vendor model serialNumber systemUuid : Option String) : Called :=
  let call : OfflineCall :=
    .registerNode none macAddress ipAddress vendor model serialNumber systemUuid
  let registration := buildRegistration env.siteId macAddress ipAddress vendor model
    serialNumber systemUuid
  let mac := (registration.get? "mac_address").getD (jsonText macAddress)
  match x.offlineQueue env with
  | some q =>
      match x.enqueue env q call with
      | none => { result := .error .integrityError, agent := x }
      | some agent => { result := .ok (queuedResult env), agent, queued := true }
  | none =>
      x.finish env (fun response =>
        match response.data with
        | some data =>
            if (response.statusCode = 200 ∨ response.statusCode = 201) ∧ data.truthy then
              match data with
              | .obj node => do
                  let fields := { fieldsOf node with
                    ipAddress := registration.get? "ip_address"
                    vendor := registration.get? "vendor"
                    model := registration.get? "model" }
                  let (_, cache) ← setNode env.ttl env.now x.cache (some mac) fields node
                  -- `{"success": True, **response.data}`
                  let success := (Dict.get? node "success").getD (.bool true)
                  return (.dict (("success", success) :: node.filter (fun f => f.1 ≠ "success")),
                    { x with cache })
              -- a list has no method `get`
              | _ => .error .attributeError
            else .ok (failedResult response, x)
        | none => .ok (failedResult response, x))

/-- `update_node_state`.  The cached node is moved at once, also offline. -/
def Local.updateNodeState (x : Local) (env : CallEnv) (nodeId newState : String)
    (macAddress : Option String) : Called :=
  let call : OfflineCall := .updateNodeState nodeId newState macAddress
  match x.offlineQueue env with
  | some q =>
      match x.enqueue env q call with
      | none => { result := .error .integrityError, agent := x }
      | some agent =>
          match agent.moveCached env macAddress nodeId newState with
          | .error e => { result := .error e, agent, queued := true }
          | .ok agent' => { result := .ok (queuedResult env), agent := agent', queued := true }
  | none =>
      x.finish env (fun response =>
        if response.statusCode = 200 then do
          let agent ← x.moveCached env macAddress nodeId newState
          return (.dict [("success", .bool true)], agent)
        else .ok (failedResult response, x))

/-- `report_node_event`. -/
def Local.reportNodeEvent (x : Local) (env : CallEnv) (nodeId : String)
    (eventType : Option String) (eventData : Option Dict) : Called :=
  let call : OfflineCall := .reportNodeEvent nodeId none eventType eventData
  match x.offlineQueue env with
  | some q =>
      match x.enqueue env q call with
      | none => { result := .error .integrityError, agent := x }
      | some agent => { result := .ok (queuedResult env), agent, queued := true }
  | none =>
      x.finish env (fun response =>
        if response.statusCode = 200 ∨ response.statusCode = 201 then
          .ok (.dict [("success", .bool true)], x)
        else .ok (failedResult response, x))

/-! ## §5. The methods return a `dict`. -/

/-- Nothing but a `dict` is returned. -/
def Called.ReturnsDict (c : Called) : Prop := ∀ o, c.result = .ok o → ∃ d, o = .dict d

theorem Called.returnsDict_error {c : Called} {e : Raised} (h : c.result = .error e) :
    c.ReturnsDict := by
  intro o ho
  rw [h] at ho
  cases ho

theorem Called.returnsDict_queued {c : Called} {env : CallEnv}
    (h : c.result = .ok (queuedResult env)) : c.ReturnsDict := by
  intro o ho
  rw [h] at ho
  exact ⟨_, (Except.ok.inj ho).symm⟩

theorem finish_dict {x : Local} {env : CallEnv}
    {onResponse : ProxyResponse → Except Raised (PyObject × Local)}
    (h : ∀ response o agent, onResponse response = .ok (o, agent) → ∃ d, o = .dict d) :
    (x.finish env onResponse).ReturnsDict := by
  intro o ho
  unfold Local.finish at ho
  cases hresponse : proxyRequest env.central with
  | error e =>
      rw [hresponse] at ho
      cases ho
  | ok response =>
      rw [hresponse] at ho
      simp only [Except.bind] at ho
      cases hdone : onResponse response with
      | error e =>
          rw [hdone] at ho
          cases ho
      | ok done =>
          obtain ⟨o', agent⟩ := done
          rw [hdone] at ho
          injection ho with ho
          exact ho ▸ h response o' agent hdone

theorem registerNode_dict (x : Local) (env : CallEnv)
    (macAddress ipAddress vendor model serialNumber systemUuid : Option String) :
    (x.registerNode env macAddress ipAddress vendor model serialNumber systemUuid).ReturnsDict := by
  unfold Local.registerNode
  dsimp only
  split
  next q _ =>
    split
    next => exact Called.returnsDict_error rfl
    next => exact Called.returnsDict_queued rfl
  next =>
    refine finish_dict ?_
    intro response o agent ho
    split at ho
    next data _ =>
      split at ho
      next =>
        split at ho
        next node =>
          obtain ⟨stored, -, ho⟩ := bind_eq_ok.mp ho
          exact ⟨_, (ok_pair_inj ho).1.symm⟩
        next => cases ho
      next => exact ⟨_, (ok_pair_inj ho).1.symm⟩
    next => exact ⟨_, (ok_pair_inj ho).1.symm⟩

theorem updateNodeState_dict (x : Local) (env : CallEnv) (nodeId newState : String)
    (macAddress : Option String) :
    (x.updateNodeState env nodeId newState macAddress).ReturnsDict := by
  unfold Local.updateNodeState
  dsimp only
  split
  next q _ =>
    split
    next => exact Called.returnsDict_error rfl
    next agent _ =>
      split
      next => exact Called.returnsDict_error rfl
      next => exact Called.returnsDict_queued rfl
  next =>
    refine finish_dict ?_
    intro response o agent ho
    split at ho
    next =>
      obtain ⟨moved, -, ho⟩ := bind_eq_ok.mp ho
      exact ⟨_, (ok_pair_inj ho).1.symm⟩
    next => exact ⟨_, (ok_pair_inj ho).1.symm⟩

theorem reportNodeEvent_dict (x : Local) (env : CallEnv) (nodeId : String)
    (eventType : Option String) (eventData : Option Dict) :
    (x.reportNodeEvent env nodeId eventType eventData).ReturnsDict := by
  unfold Local.reportNodeEvent
  dsimp only
  split
  next q _ =>
    split
    next => exact Called.returnsDict_error rfl
    next => exact Called.returnsDict_queued rfl
  next =>
    refine finish_dict ?_
    intro response o agent ho
    split at ho
    next => exact ⟨_, (ok_pair_inj ho).1.symm⟩
    next => exact ⟨_, (ok_pair_inj ho).1.symm⟩

/-! ## §6. A call is sent to central, or put into the queue. -/

theorem finish_queued (x : Local) (env : CallEnv)
    (onResponse : ProxyResponse → Except Raised (PyObject × Local)) :
    (x.finish env onResponse).queued = false := by
  unfold Local.finish
  split <;> rfl

theorem registerNode_not_both (x : Local) (env : CallEnv)
    (macAddress ipAddress vendor model serialNumber systemUuid : Option String) :
    (x.registerNode env macAddress ipAddress vendor model serialNumber systemUuid).applied = false ∨
      (x.registerNode env macAddress ipAddress vendor model serialNumber systemUuid).queued
        = false := by
  unfold Local.registerNode
  dsimp only
  split
  next => split <;> exact .inl rfl
  next => exact .inr (finish_queued x env _)

theorem updateNodeState_not_both (x : Local) (env : CallEnv) (nodeId newState : String)
    (macAddress : Option String) :
    (x.updateNodeState env nodeId newState macAddress).applied = false ∨
      (x.updateNodeState env nodeId newState macAddress).queued = false := by
  unfold Local.updateNodeState
  dsimp only
  split
  next =>
    split
    next => exact .inl rfl
    next => split <;> exact .inl rfl
  next => exact .inr (finish_queued x env _)

theorem reportNodeEvent_not_both (x : Local) (env : CallEnv) (nodeId : String)
    (eventType : Option String) (eventData : Option Dict) :
    (x.reportNodeEvent env nodeId eventType eventData).applied = false ∨
      (x.reportNodeEvent env nodeId eventType eventData).queued = false := by
  unfold Local.reportNodeEvent
  dsimp only
  split
  next => split <;> exact .inl rfl
  next => exact .inr (finish_queued x env _)

end PureBoot.Agent
