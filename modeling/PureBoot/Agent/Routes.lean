/-
  PureBoot.Agent.Routes — the NODE ENDPOINTS of an agent.

  Embeds `register_node`, `update_node_state` and `report_node_event` of
  `agent/routes/nodes.py`.  Each calls the method of the proxy with its name and then
  reads the attribute `status_code` of what that returns.  The methods return a `dict`,
  which has no attributes, so once there is a proxy every request ends in an
  `AttributeError`, after the operation was sent to central or put into the queue.

  Main results:
    * `serve_unhandled` — with a proxy, no request is answered;
    * `once_of_truthful` — where answers are true, a client that retries acts once;
    * `reports_iff` — the agents whose answers are true.
-/
import PureBoot.Agent.Proxy

namespace PureBoot.Agent

open PureBoot.Lib PureBoot.Web

/-! ## §1. The handlers. -/

/-- What ends a handler other than its answer. -/
inductive Failure where
  /-- `HTTPException`. -/
  | http (status : Nat) (detail : String)
  | raised (e : Raised)

/-- The attributes of an object (`status_code`, `error`, `data`, `from_cache`,
`cached_at`): a `dict` has none of them. -/
def PyObject.attributes : PyObject → Except Raised ProxyResponse
  | .dict _ => .error .attributeError
  | .response r => .ok r

/-- A handler once the proxy has returned: a status from 400 on is passed on. -/
def answerFrom (failure : String) (c : Called) (body : ProxyResponse → Except Raised Json) :
    Except Failure Json :=
  match c.result.bind PyObject.attributes with
  | .error e => .error (.raised e)
  | .ok response =>
      if 400 ≤ response.statusCode then
        .error (.http response.statusCode ((truthy response.error).getD failure))
      else (body response).mapError .raised

/-- `response.data or {}`, of which keys are read. -/
def responseData (response : ProxyResponse) : Except Raised Dict :=
  match response.data with
  | none => .ok []
  | some data =>
      if !data.truthy then .ok []
      else
        match data with
        | .obj fields => .ok fields
        | _ => .error .attributeError

/-- `NodeResponse` of the agent, with its validation. -/
def nodeResponse (fields : NodeFields) (macAddress state : Json) (fromCache : Bool)
    (cachedAt : Option String) : Except Raised Json := do
  return .obj [("id", jsonText (← optionalText fields.nodeId)),
    ("mac_address", .str (← requiredText macAddress)),
    ("state", .str (← requiredText state)),
    ("workflow_id", jsonText (← optionalText fields.workflowId)),
    ("group_id", jsonText (← optionalText fields.groupId)),
    ("ip_address", jsonText (← optionalText fields.ipAddress)),
    ("vendor", jsonText (← optionalText fields.vendor)),
    ("model", jsonText (← optionalText fields.model)),
    ("from_cache", .bool fromCache), ("cached_at", jsonText cachedAt)]

/-- `NodeRegistration`. -/
structure NodeRegistration where
  macAddress : String
  ipAddress : Option String := none
  vendor : Option String := none
  model : Option String := none
  serialNumber : Option String := none
  systemUuid : Option String := none

inductive NodeRequest where
  | registerNode (registration : NodeRegistration) (clientHost : Option String)
  | updateNodeState (nodeId state : String)
  | reportNodeEvent (nodeId eventType : String) (eventData : Dict)

/-- The call of the proxy. -/
def NodeRequest.call (x : Local) (env : CallEnv) : NodeRequest → Called
  | .registerNode reg clientHost =>
      x.registerNode env (some reg.macAddress) ((truthy reg.ipAddress).or clientHost) reg.vendor
        reg.model reg.serialNumber reg.systemUuid
  | .updateNodeState nodeId state =>
      x.updateNodeState env nodeId state
        ((x.cache.rows.find? (fun node => node.nodeId = some nodeId)).map CachedNode.macAddress)
  | .reportNodeEvent nodeId eventType eventData =>
      x.reportNodeEvent env nodeId (some eventType) (some eventData)

/-- `register_node`. -/
def registerNodeAnswer (reg : NodeRegistration) (c : Called) : Except Failure Json :=
  answerFrom "Registration failed" c (fun response => do
    let data ← responseData response
    nodeResponse
      { nodeId := data.get? "id", workflowId := data.get? "workflow_id"
        groupId := data.get? "group_id", ipAddress := reg.ipAddress.map .str
        vendor := reg.vendor.map .str, model := reg.model.map .str }
      (.str reg.macAddress) ((data.get? "state").getD (.str "discovered"))
      response.fromCache response.cachedAt)

/-- `update_node_state`. -/
def updateNodeStateAnswer (x : Local) (nodeId state : String) (c : Called) :
    Except Failure Json :=
  let macAddress :=
    (x.cache.rows.find? (fun node => node.nodeId = some nodeId)).map CachedNode.macAddress
  answerFrom "State update failed" c (fun response => do
    let data ← responseData response
    nodeResponse
      { nodeId := some ((data.get? "id").getD (.str nodeId))
        workflowId := data.get? "workflow_id", groupId := data.get? "group_id" }
      ((data.get? "mac_address").getD (.str (macAddress.getD "")))
      ((data.get? "state").getD (.str state)) false none)

/-- `report_node_event`. -/
def reportNodeEventAnswer (eventType : String) (c : Called) : Except Failure Json :=
  answerFrom "Event report failed" c (fun _ =>
    .ok (.obj [("status", .str "accepted"), ("event_type", .str eventType)]))

/-- A request, and what came of it. -/
structure Served where
  answer : Except Failure Json
  proxy : Option Local
  applied : Bool := false
  queued : Bool := false

/-- The answer of the handler to what its call has come to. -/
def NodeRequest.answer (x : Local) (c : Called) : NodeRequest → Except Failure Json
  | .registerNode reg _ => registerNodeAnswer reg c
  | .updateNodeState nodeId state => updateNodeStateAnswer x nodeId state c
  | .reportNodeEvent _ eventType _ => reportNodeEventAnswer eventType c

/-- The agent gets a request; without a proxy it answers 503 (`get_proxy`). -/
def serveNode (proxy : Option Local) (env : CallEnv) (r : NodeRequest) : Served :=
  match proxy with
  | none => { answer := .error (.http 503 "Proxy not initialized"), proxy }
  | some x =>
      let c := r.call x env
      { answer := r.answer x c, proxy := some c.agent, applied := c.applied, queued := c.queued }

/-! ## §2. Answers. -/

/-- The operation was applied at central or is in the queue. -/
def Served.Performed (s : Served) : Prop := s.applied = true ∨ s.queued = true

/-- The answer says what has happened: a success if the operation was performed, an error
status if it was not. -/
structure Truthful (s : Served) : Prop where
  success : (∃ body, s.answer = .ok body) ↔ s.Performed
  error : (∃ status detail, s.answer = .error (.http status detail) ∧ 400 ≤ status) ↔ ¬ s.Performed

theorem answerFrom_unhandled {failure : String} {c : Called}
    {body : ProxyResponse → Except Raised Json} (h : c.ReturnsDict) :
    ∃ e, answerFrom failure c body = .error (.raised e) := by
  unfold answerFrom
  cases hresult : c.result with
  | error e => exact ⟨e, rfl⟩
  | ok o =>
      obtain ⟨d, rfl⟩ := h o hresult
      exact ⟨.attributeError, rfl⟩

theorem call_dict (x : Local) (env : CallEnv) (r : NodeRequest) : (r.call x env).ReturnsDict := by
  cases r with
  | registerNode reg clientHost => exact registerNode_dict x env _ _ _ _ _ _
  | updateNodeState nodeId state => exact updateNodeState_dict x env _ _ _
  | reportNodeEvent nodeId eventType eventData => exact reportNodeEvent_dict x env _ _ _

/-- **NO REQUEST IS ANSWERED** once there is a proxy. -/
theorem serve_unhandled (x : Local) (env : CallEnv) (r : NodeRequest) :
    ∃ e, (serveNode (some x) env r).answer = .error (.raised e) := by
  have hdict := call_dict x env r
  cases r with
  | registerNode reg clientHost => exact answerFrom_unhandled hdict
  | updateNodeState nodeId state => exact answerFrom_unhandled hdict
  | reportNodeEvent nodeId eventType eventData => exact answerFrom_unhandled hdict

theorem truthful_iff (proxy : Option Local) (env : CallEnv) (r : NodeRequest) :
    Truthful (serveNode proxy env r) ↔ proxy = none := by
  cases proxy with
  | none =>
      refine ⟨fun _ => rfl, fun _ => ⟨?_, ?_⟩⟩
      · simp [serveNode, Served.Performed]
      · simp [serveNode, Served.Performed]
  | some x =>
      refine ⟨fun htruthful => ?_, fun h => by cases h⟩
      obtain ⟨e, he⟩ := serve_unhandled x env r
      -- such an answer is neither a success nor an error status
      by_cases hperformed : (serveNode (some x) env r).Performed
      · obtain ⟨body, hbody⟩ := htruthful.success.mpr hperformed
        rw [he] at hbody
        cases hbody
      · obtain ⟨status, detail, hanswer, -⟩ := htruthful.error.mpr hperformed
        rw [he] at hanswer
        cases hanswer

/-! ## §3. A client that retries. -/

/-- A client that repeats a request until it succeeds. -/
structure Client where
  proxy : Option Local
  /-- How often the operation was applied or queued. -/
  performed : Nat := 0
  done : Bool := false

/-- One attempt. -/
def Client.attempt (r : NodeRequest) (c : Client) (env : CallEnv) : Client :=
  if c.done then c
  else
    let s := serveNode c.proxy env r
    { proxy := s.proxy
      performed := c.performed + s.applied.toNat + s.queued.toNat
      done := s.answer.isOk }

/-- The answers to all attempts are true, and the operation is performed once at most. -/
structure ReportsWhatHappened (proxy : Option Local) (r : NodeRequest) (envs : List CallEnv) :
    Prop where
  truthful : Along (Client.attempt r) (fun c env => c.done = false →
    Truthful (serveNode c.proxy env r)) { proxy } envs
  once : (run (Client.attempt r) { proxy } envs).performed ≤ 1

theorem serve_not_both (proxy : Option Local) (env : CallEnv) (r : NodeRequest) :
    (serveNode proxy env r).applied = false ∨ (serveNode proxy env r).queued = false := by
  cases proxy with
  | none => exact .inl rfl
  | some x =>
      cases r with
      | registerNode reg clientHost => exact registerNode_not_both x env _ _ _ _ _ _
      | updateNodeState nodeId state => exact updateNodeState_not_both x env _ _ _
      | reportNodeEvent nodeId eventType eventData => exact reportNodeEvent_not_both x env _ _ _

/-- An operation that is performed is answered with a success. -/
theorem Truthful.count {s : Served} (h : Truthful s)
    (hnot : s.applied = false ∨ s.queued = false) :
    s.applied.toNat + s.queued.toNat ≤ s.answer.isOk.toNat := by
  by_cases hperformed : s.Performed
  · obtain ⟨body, hbody⟩ := h.success.mpr hperformed
    have hok : s.answer.isOk.toNat = 1 := by
      rw [hbody]
      rfl
    rw [hok]
    rcases hnot with happlied | hqueued
    · rw [happlied]
      have := s.queued.toNat_le
      simpa using this
    · rw [hqueued]
      have := s.applied.toNat_le
      simpa using this
  · have hnone : s.applied = false ∧ s.queued = false := by
      simpa [Served.Performed] using hperformed
    rw [hnone.1, hnone.2]
    exact Nat.zero_le _

/-- A true answer ends the attempts as soon as the operation is performed. -/
theorem attempt_truthful {r : NodeRequest} (c : Client) (env : CallEnv)
    (hinv : c.performed ≤ c.done.toNat)
    (htruthful : c.done = false → Truthful (serveNode c.proxy env r)) :
    (c.attempt r env).performed ≤ (c.attempt r env).done.toNat := by
  unfold Client.attempt
  by_cases hdone : c.done = true
  · rw [if_pos hdone]
    exact hinv
  · rw [if_neg hdone]
    have hopen : c.done = false := by simpa using hdone
    have hcount := (htruthful hopen).count (serve_not_both c.proxy env r)
    rw [hopen] at hinv
    have hzero : c.performed = 0 := Nat.le_zero.mp hinv
    dsimp only
    omega

/-- **TRUE ANSWERS ARE ENOUGH**: where all answers are true, the operation is performed once
at most. -/
theorem once_of_truthful {proxy : Option Local} {r : NodeRequest} {envs : List CallEnv}
    (h : Along (Client.attempt r) (fun c env => c.done = false →
      Truthful (serveNode c.proxy env r)) { proxy } envs) :
    (run (Client.attempt r) { proxy } envs).performed ≤ 1 := by
  have hstart : ({ proxy } : Client).performed ≤ ({ proxy } : Client).done.toNat := Nat.le_refl 0
  have hend := run_invariant attempt_truthful hstart h
  exact hend.trans (Bool.toNat_le _)

/-- An agent without a proxy stays one. -/
theorem attempt_no_proxy {r : NodeRequest} (c : Client) (env : CallEnv) (h : c.proxy = none) :
    (c.attempt r env).proxy = none := by
  unfold Client.attempt
  split
  next => exact h
  next =>
    dsimp only
    rw [h]
    rfl

/-- **THE AGENT REPORTS WHAT HAPPENED, EXACTLY IF** it has no proxy yet: for every request,
and every first attempt and further ones. -/
theorem reports_iff (proxy : Option Local) (r : NodeRequest) (env : CallEnv)
    (retries : List CallEnv) :
    ReportsWhatHappened proxy r (env :: retries) ↔ proxy = none := by
  constructor
  · intro h
    exact (truthful_iff proxy env r).mp (h.truthful.1 rfl)
  · rintro rfl
    have hguard : ∀ (c : Client) (env : CallEnv), c.proxy = none → c.done = false →
        Truthful (serveNode c.proxy env r) :=
      fun c env h _ => (truthful_iff c.proxy env r).mpr h
    have htruthful : Along (Client.attempt r) (fun c env => c.done = false →
        Truthful (serveNode c.proxy env r)) { proxy := none } (env :: retries) :=
      Along.of_step (fun c env h _ => attempt_no_proxy c env h)
        (fun c env h _ => hguard c env h) rfl (along_true _ _)
    exact ⟨htruthful, once_of_truthful htruthful⟩

/-- An agent with an empty queue. -/
def freshAgent : Local where
  cache := Table.empty
  queue := some Table.empty

/-- Central performs what it is asked for. -/
def appliedEnv : CallEnv where
  siteId := "site"
  connectivity := some true
  now := 0
  uuid := rowUuid
  central := .replied ⟨200, some (.obj [("success", .bool true)])⟩
  applies := true

/-- A heartbeat that central has taken is not answered, and the client sends it again. -/
theorem event_applied_twice :
    ¬ ReportsWhatHappened (some freshAgent) (.reportNodeEvent "n1" "heartbeat" []) [appliedEnv] ∧
      (run (Client.attempt (.reportNodeEvent "n1" "heartbeat" [])) { proxy := some freshAgent }
        [appliedEnv, appliedEnv]).performed = 2 := by
  refine ⟨fun h => ?_, rfl⟩
  have hnone := (truthful_iff (some freshAgent) appliedEnv
    (.reportNodeEvent "n1" "heartbeat" [])).mp (h.truthful.1 rfl)
  cases hnone

end PureBoot.Agent
