/-
  PureBoot.Agent.HandOff — from the agent's queue to the HANDLERS OF CENTRAL.

  Joins the two sides: what `CentralProxy` stores for a call while it is offline
  (`register_node`, `update_node_state`, `report_node_event`), the requests that
  `QueueProcessor` makes of the stored payloads, how central answers them, and which
  answers count as a success.  A pass of `process_queue` is followed together with the
  requests that central got (`Visit`); central may be in any state whenever a request
  arrives.  The URL library of the agent is a parameter.

  The session of the proxy sets no header, so every request meets the gate without a
  token: what it asks for must be public.  There is no route for `…/nodes/register` nor
  for `…/nodes/{id}/event` either.  What gets through are calls with an id that changes
  the path of the URL: an event that leads to the reports, and a state update whose path
  the gate sees cut off.

  Main results:
    * `Visits.of_run` — every request central got during a pass is one of a stored item;
    * `hand_off_iff` — what is handed off.
-/
import PureBoot.Agent.Pass
import PureBoot.Web.Central

namespace PureBoot.Agent

open PureBoot.Lib PureBoot.Web

/-! ## §1. What is stored. -/

/-- A call of the proxy. -/
inductive OfflineCall where
  | registerNode (registration : Option Dict)
      (macAddress ipAddress vendor model serialNumber systemUuid : Option String)
  | updateNodeState (nodeId newState : String) (macAddress : Option String)
  | reportNodeEvent (nodeId : String) (event : Option Dict) (eventType : Option String)
      (eventData : Option Dict)

def jsonText (text : Option String) : Json := text.elim .null .str

/-- The registration that is built from the arguments, without those that are `None`. -/
def buildRegistration (siteId : String)
    (macAddress ipAddress vendor model serialNumber systemUuid : Option String) : Dict :=
  let given := [("mac_address", macAddress), ("ip_address", ipAddress), ("vendor", vendor),
    ("model", model), ("serial_number", serialNumber), ("system_uuid", systemUuid),
    ("site_id", some siteId)]
  given.filterMap (fun (key, value) => value.map (fun text => (key, .str text)))

/-- The event of `report_node_event`: as it is given, or built, and with its site. -/
def eventOf (siteId : String) (event : Option Dict) (eventType : Option String)
    (eventData : Option Dict) : Dict :=
  Dict.setDefault
    (event.getD [("event_type", jsonText eventType), ("event_data", .obj (eventData.getD [])),
      ("site_id", .str siteId)])
    "site_id" (.str siteId)

namespace OfflineCall

def itemType : OfflineCall → ItemType
  | registerNode .. => .registration
  | updateNodeState .. => .stateUpdate
  | reportNodeEvent .. => .event

/-- What goes into the `payload` column. -/
def column (siteId : String) : OfflineCall → Dict
  | registerNode registration macAddress ipAddress vendor model serialNumber systemUuid =>
      registration.getD
        (buildRegistration siteId macAddress ipAddress vendor model serialNumber systemUuid)
  | updateNodeState nodeId newState macAddress =>
      [("node_id", .str nodeId), ("new_state", .str newState), ("mac_address", jsonText macAddress)]
  | reportNodeEvent nodeId event eventType eventData =>
      [("node_id", .str nodeId), ("event", .obj (eventOf siteId event eventType eventData))]

/-- The keys of it that the agent reads. -/
def payload : OfflineCall → Payload
  | registerNode .. => {}
  | updateNodeState nodeId newState _ => { nodeId := some nodeId, newState := some newState }
  | reportNodeEvent nodeId .. => { nodeId := some nodeId }

end OfflineCall

/-! ## §2. The requests of `QueueProcessor`. -/

/-- The settings of the proxy. -/
structure Link where
  siteId : String
  /-- Without slashes at its end. -/
  centralUrl : String
  /-- The path that is requested for a URL, as central decodes it. -/
  urlPath : String → List Char
  /-- The `Host` header that is sent. -/
  host : Authority := ⟨[], fun _ h => absurd h List.not_mem_nil⟩
  /-- The address central sees. -/
  client : Option String := none

/-- The event of a queued payload; `none` is an exception. -/
def queuedEvent (siteId : String) (column : Dict) : Option Dict :=
  match column.get? "event" with
  -- `payload.get("event", {})`
  | none => some (Dict.setDefault [] "site_id" (.str siteId))
  | some .null => some (eventOf siteId none none none)
  | some (.obj event) => some (Dict.setDefault event "site_id" (.str siteId))
  | some _ => none

/-- The method, path and body of the request for an item (`_process_registration`,
`_process_state_update`, `_process_event`). -/
def requestFor (siteId : String) (itemType : ItemType) (payload : Payload) (column : Dict) :
    Option (String × String × Json) :=
  match itemType with
  | .registration => some ("POST", "/api/v1/nodes/register", .obj column)
  -- `if not node_id or not new_state`: no request
  | .stateUpdate =>
      match truthy payload.nodeId, truthy payload.newState with
      | some nodeId, some newState =>
          some ("PATCH", "/api/v1/nodes/" ++ nodeId ++ "/state", .obj [("state", .str newState)])
      | _, _ => none
  | .event =>
      match truthy payload.nodeId, queuedEvent siteId column with
      | some nodeId, some event =>
          some ("POST", "/api/v1/nodes/" ++ nodeId ++ "/event", .obj event)
      | _, _ => none
  | .other _ => none

/-- The request as central gets it: `_request` sets no header. -/
def Link.submission (link : Link) (itemType : ItemType) (payload : Payload) (column : Dict) :
    Option Submission :=
  (requestFor link.siteId itemType payload column).map (fun (method, path, body) =>
    { method, path := link.urlPath (link.centralUrl ++ path), host := link.host.text
      client := link.client, body })

/-- Whether the answer counts as a success. -/
def succeeded : ItemType → Reply → Bool
  | .registration, reply =>
      if reply.status = 200 ∨ reply.status = 201 then
        match reply.data with
        | some (.obj (field :: fields)) =>
            -- `{"success": True, **response.data}`
            let data : Dict := field :: fields
            if (data.get? "status").bind Json.text? = some "queued" then false
            else ((data.get? "success").getD (.bool true)).truthy || (data.get? "id").isSome
        | _ => false
      else false
  -- here the body of the answer is not looked at
  | .stateUpdate, reply => reply.status = 200
  | .event, reply => reply.status = 200 ∨ reply.status = 201
  | .other _, _ => false

/-! ## §3. A pass with central at the other end. -/

/-- A request that central got: for which item, on which database, and the answer. -/
structure Visit where
  id : String
  before : Lifecycle.DB
  answer : Answer

/-- The handler does what the item asks for, unless it rejects it. -/
def Visit.performs (v : Visit) : ItemType → Prop
  | .registration => v.answer.taken = .registerPi ∨ ∃ data, v.answer.taken = .createNode data
  | .stateUpdate => ∃ nodeId data, v.answer.taken = .transitionNodeState nodeId data
  | .event => ∃ report, v.answer.taken = .reportNodeStatus report ∧ records report = true ∧
      (v.answer.rejected = false → ∃ e, v.answer.db.events = v.before.events ++ [e])
  | .other _ => False

structure Site where
  pass : Pass
  visits : List Visit := []

/-- An event of the agent, and central when the request of that event arrives. -/
structure Tick where
  event : Event
  central : Central

/-- The item was delivered to a handler that performs it, and is gone unless every delivery
was rejected. -/
structure Site.HasHandedOff (x : Site) (id : String) (itemType : ItemType) : Prop where
  performed : ∃ v ∈ x.visits, v.id = id ∧ v.performs itemType
  removed : (∀ row ∈ x.pass.state.queue.rows, row.id ≠ id) ∨
    ∀ v ∈ x.visits, v.id = id → v.answer.rejected = true

section Sites

variable (cfg : Config) (link : Link) (env : CentralEnv) (column : String → Dict)

/-- The request that a pass is about to make. -/
def Site.request (x : Site) : Option (QueueItem × Submission) :=
  match x.pass.state.pc with
  | .sending item _ _ =>
      (link.submission item.itemType item.payload (column item.id)).map (fun r => (item, r))
  | _ => none

/-- The outcome that the agent hears of. -/
def Site.outcome (x : Site) (central : Central) : Outcome :=
  match x.request link column with
  | some (item, r) =>
      if succeeded item.itemType (serve env central r).reply then .accepted else .refused
  | none => .refused

/-- The event with the answer of central. -/
def Site.heard (x : Site) (t : Tick) : Event :=
  match t.event with
  | .passStep now _ => .passStep now (x.outcome link env column t.central)
  | e => e

def Site.visited (x : Site) (t : Tick) : List Visit :=
  match t.event with
  | .passStep _ _ =>
      (x.request link column).toList.map (fun (item, r) =>
        ⟨item.id, t.central.db, serve env t.central r⟩)
  | _ => []

def Site.exec (x : Site) (t : Tick) : Site where
  pass := Pass.exec cfg x.pass (x.heard link env column t)
  visits := x.visits ++ x.visited link env column t

/-- The agent is running and online, and the pass is left alone. -/
def Site.undisturbed (x : Site) (t : Tick) : Prop := uninterrupted x.pass t.event

/-- **WHAT A HAND-OFF IS**: once a pass over the queue of `s` has taken enough steps, the
item has been handed off. -/
def HandedOff (s : State) (id : String) (itemType : ItemType) : Prop :=
  ∃ n, ∀ ts, Along (Site.exec cfg link env column) Site.undisturbed { pass := Pass.start s } ts →
    n ≤ ts.countP (fun t => t.event.isStep) →
      (run (Site.exec cfg link env column) { pass := Pass.start s } ts).HasHandedOff id itemType

end Sites

/-- Events that get through: the URL for the node id is that of the reports, and the event is a
report as well. -/
def TakenAsReport (link : Link) (env : CentralEnv) : OfflineCall → Prop
  | .reportNodeEvent nodeId event eventType eventData =>
      nodeId ≠ "" ∧
      endpointFor "POST"
          (link.urlPath (link.centralUrl ++ ("/api/v1/nodes/" ++ nodeId ++ "/event")))
        = some .reportNodeStatus ∧
      ∃ report, env.nodeReport (.obj (eventOf link.siteId event eventType eventData))
        = some report ∧ records report = true
  | _ => False

/-- State updates that get through: the router has a route for the path that is requested, and
the path that the gate sees of it is public. -/
def TakenAsTransition (link : Link) (env : CentralEnv) : OfflineCall → Prop
  | .updateNodeState nodeId newState _ =>
      nodeId ≠ "" ∧ newState ≠ "" ∧
      endpointFor "PATCH"
          (link.urlPath (link.centralUrl ++ ("/api/v1/nodes/" ++ nodeId ++ "/state")))
        = some .transitionNodeState ∧
      isPublicPath (pathOf (link.host.text
        ++ link.urlPath (link.centralUrl ++ ("/api/v1/nodes/" ++ nodeId ++ "/state")))) = true ∧
      (env.stateTransition (.obj [("state", .str newState)])).isSome = true
  | _ => False

/-! ## §4. Items during a pass. -/

/-- The item is one of the rows the pass started with, as far as requests go. -/
def Origin (q₀ : SyncQueue) (item : QueueItem) : Prop :=
  ∃ r ∈ q₀.rows, r.id = item.id ∧ r.itemType = item.itemType ∧ r.payload = item.payload

/-- The rows and the items in hand are rows the pass started with. -/
structure Inherited (q₀ : SyncQueue) (a : Place) : Prop where
  rows : ∀ x ∈ a.queue.rows, Origin q₀ x
  held : ∀ item ∈ a.pc.held, Origin q₀ item

theorem origin_set {q₀ q : SyncQueue} {id : String} {f : QueueItem → QueueItem}
    (hf : ∀ r, (f r).itemType = r.itemType ∧ (f r).payload = r.payload)
    (h : ∀ x ∈ q.rows, Origin q₀ x) :
    ∀ x ∈ (q.update (SyncQueue.set id f) (SyncQueue.set_id id f)).rows, Origin q₀ x := by
  intro x hx
  obtain ⟨y, hy, rfl⟩ := Table.mem_update.mp hx
  obtain ⟨r, hr, hid, htype, hpayload⟩ := h y hy
  refine ⟨r, hr, ?_⟩
  by_cases hset : y.id = id
  · unfold SyncQueue.set
    rw [if_pos hset]
    exact ⟨hid, htype.trans (hf y).1.symm, hpayload.trans (hf y).2.symm⟩
  · rw [SyncQueue.set_of_ne hset]
    exact ⟨hid, htype, hpayload⟩

theorem inherited_moves {cfg : Config} {on : Bool} {q₀ : SyncQueue} {a a' : Place}
    {d : List Delivery} (h : Inherited q₀ a) (hmove : Moves cfg on a a' d) : Inherited q₀ a' := by
  cases hmove with
  | @fetch q item items result last hon hpeek =>
      refine ⟨h.rows, ?_⟩
      intro x hx
      have hx : x ∈ item :: items := hx
      rw [← hpeek] at hx
      exact h.rows x (SyncQueue.mem_peek hx).1
  | drained | stopped | halted | again | close =>
      refine ⟨h.rows, ?_⟩
      intro x hx
      cases hx
  | mark now => exact ⟨origin_set (fun _ => ⟨rfl, rfl⟩) h.rows, h.held⟩
  | answer success => exact ⟨h.rows, h.held⟩
  | remove =>
      refine ⟨?_, fun x hx => h.held x (List.mem_cons_of_mem _ hx)⟩
      intro x hx
      exact h.rows x (mem_dequeue.mp hx).1
  | @store q item rest result last =>
      refine ⟨?_, fun x hx => h.held x (List.mem_cons_of_mem _ hx)⟩
      show ∀ x ∈ (storeFailure cfg q item).rows, Origin q₀ x
      unfold storeFailure storeAttempt
      split
      next => exact origin_set (fun _ => ⟨rfl, rfl⟩) h.rows
      next => exact origin_set (fun _ => ⟨rfl, rfl⟩) h.rows

/-- A pending row is not that of the current item, which is in `processing`. -/
theorem Hand.ne_current {a : Place} {item r : QueueItem} (h : Hand a)
    (hcurrent : a.pc.current = some item) (hr : r ∈ a.queue.rows) (hpending : r.status = .pending) :
    r.id ≠ item.id := by
  intro hsame
  obtain ⟨x, hx, hid, hproc, -⟩ := h.current item hcurrent
  rw [a.queue.eq_of_key_eq hr hx (hsame.trans hid.symm), hproc] at hpending
  cases hpending

theorem held_of_current {pc : Pc} {item : QueueItem} (h : pc.current = some item) :
    item ∈ pc.held := by
  cases pc with
  | sending current rest result =>
      rw [← Option.some.inj h]
      exact List.mem_cons_self
  | answered current rest success result =>
      rw [← Option.some.inj h]
      exact List.mem_cons_self
  | idle | loop | batch | closing => cases h

/-- The item that is on its way. -/
def Pc.onItsWay : Pc → Option String
  | .sending item _ _ => some item.id
  | _ => none

/-- A pending row stays as it is until it is delivered. -/
def Waits (q₀ : SyncQueue) (a : Place) (log : List Delivery) : Prop :=
  ∀ r ∈ q₀.rows, r.status = .pending →
    (∃ success, (r.id, success) ∈ log) ∨ r ∈ a.queue.rows ∨ a.pc.onItsWay = some r.id

theorem waits_moves {cfg : Config} {on : Bool} {q₀ : SyncQueue} {a a' : Place}
    {d log : List Delivery} (hhand : Hand a) (h : Waits q₀ a log) (hmove : Moves cfg on a a' d) :
    Waits q₀ a' (log ++ d) := by
  intro r hr hpending
  rcases h r hr hpending with ⟨success, hlog⟩ | hrow | hway
  · exact .inl ⟨success, List.mem_append_left d hlog⟩
  · -- still in the table: only a step that sets or deletes this row matters
    cases hmove with
    | fetch | drained | stopped | halted | again | answer | close => exact .inr (.inl hrow)
    | @mark q item rest result last now =>
        by_cases hid : r.id = item.id
        · right
          right
          show some item.id = some r.id
          rw [hid]
        · exact .inr (.inl (mem_set_of_ne hrow hid))
    | @remove q item rest result last =>
        have hne : r.id ≠ item.id := hhand.ne_current rfl hrow hpending
        exact .inr (.inl (mem_dequeue.mpr ⟨hrow, hne⟩))
    | @store q item rest result last =>
        have hne : r.id ≠ item.id := hhand.ne_current rfl hrow hpending
        obtain ⟨f, hstore, -⟩ := storeFailure_eq cfg q item
        right
        left
        show r ∈ (storeFailure cfg q item).rows
        rw [hstore]
        exact mem_set_of_ne hrow hne
  · -- on its way: the next step is its answer
    cases hmove with
    | @answer q item rest result last success =>
        have hid : item.id = r.id := Option.some.inj hway
        left
        refine ⟨success, List.mem_append_right log ?_⟩
        rw [hid]
        exact List.mem_singleton_self _
    | fetch | drained | stopped | halted | again | mark | remove | store | close => cases hway

/-! ## §5. Requests during a pass. -/

section Sites

variable {cfg : Config} {link : Link} {env : CentralEnv} {column : String → Dict}

/-- An item with a request makes it. -/
theorem sends_of_submission {item : QueueItem} {sub : Submission} {column : Dict}
    (h : link.submission item.itemType item.payload column = some sub) : item.sends = true := by
  obtain ⟨request, hrequest, -⟩ := Option.map_eq_some_iff.mp h
  unfold requestFor at hrequest
  unfold QueueItem.sends
  cases htype : item.itemType with
  | registration => rfl
  | stateUpdate =>
      rw [htype] at hrequest
      dsimp only at hrequest
      split at hrequest
      next nodeId newState hnode hstate =>
        show item.call?.isSome = true
        unfold QueueItem.call?
        rw [htype, hnode, hstate]
        rfl
      next => cases hrequest
  | event =>
      rw [htype] at hrequest
      dsimp only at hrequest
      split at hrequest
      next nodeId event hnode hevent =>
        show (truthy item.payload.nodeId).isSome = true
        rw [hnode]
        rfl
      next => cases hrequest
  | other name =>
      rw [htype] at hrequest
      cases hrequest

theorem Site.request_sending {x : Site} {item : QueueItem} {rest : List QueueItem}
    {result : ProcessResult} (hpc : x.pass.state.pc = .sending item rest result) :
    x.request link column = (link.submission item.itemType item.payload (column item.id)).map
      (fun r => (item, r)) := by
  unfold Site.request
  rw [hpc]

/-- **WHAT ONE STEP ADDS** to the deliveries and to the requests: nothing, a failure without
a request, or a request and its answer. -/
theorem Site.exec_cases (link : Link) (env : CentralEnv) (column : String → Dict) (x : Site)
    (t : Tick) :
    (x.visited link env column t = [] ∧
      deliveries x.pass.state (x.heard link env column t) = []) ∨
    ∃ item, x.pass.state.pc.current = some item ∧
      ((link.submission item.itemType item.payload (column item.id) = none ∧
          x.visited link env column t = [] ∧
          deliveries x.pass.state (x.heard link env column t) = [(item.id, false)]) ∨
        ∃ sub, link.submission item.itemType item.payload (column item.id) = some sub ∧
          x.visited link env column t
            = [⟨item.id, t.central.db, serve env t.central sub⟩] ∧
          deliveries x.pass.state (x.heard link env column t)
            = [(item.id, succeeded item.itemType (serve env t.central sub).reply)]) := by
  unfold Site.visited Site.heard
  split
  next now outcome hevent =>
    -- only in `sending` does a step make a delivery
    cases hpc : x.pass.state.pc with
    | sending item rest result =>
        right
        refine ⟨item, rfl, ?_⟩
        cases hsub : link.submission item.itemType item.payload (column item.id) with
        | none =>
            left
            have hrequest : x.request link column = none := by
              rw [Site.request_sending hpc, hsub]
              rfl
            refine ⟨rfl, ?_, ?_⟩
            · rw [hrequest]
              rfl
            · unfold deliveries Site.outcome
              rw [hpc, hrequest]
              simp
        | some sub =>
            right
            have hrequest : x.request link column = some (item, sub) := by
              rw [Site.request_sending hpc, hsub]
              rfl
            refine ⟨sub, rfl, ?_, ?_⟩
            · rw [hrequest]
              rfl
            · unfold deliveries Site.outcome
              rw [hpc, hrequest]
              dsimp only
              rw [sends_of_submission hsub, Bool.true_and]
              cases succeeded item.itemType (serve env t.central sub).reply <;> rfl
    | idle | loop | batch | answered | closing =>
        left
        have hrequest : x.request link column = none := by
          unfold Site.request
          rw [hpc]
        refine ⟨?_, ?_⟩
        · rw [hrequest]
          rfl
        · unfold deliveries
          rw [hpc]
  next hevent =>
    left
    refine ⟨rfl, ?_⟩
    unfold deliveries
    split
    next now outcome heq => exact absurd heq (hevent now outcome)
    next => rfl

/-- The request for a row of the table the pass started with. -/
def rowSubmission (link : Link) (column : String → Dict) (r : QueueItem) : Option Submission :=
  link.submission r.itemType r.payload (column r.id)

/-- The requests that central got are those of rows, an answer that counts as a success is
known as one, and a delivery of a row that has a request is a request. -/
structure Visits (link : Link) (env : CentralEnv) (column : String → Dict) (q₀ : SyncQueue)
    (x : Site) : Prop where
  ofRow : ∀ v ∈ x.visits, ∃ r ∈ q₀.rows, r.id = v.id ∧ ∃ c sub,
    rowSubmission link column r = some sub ∧ v.before = c.db ∧ v.answer = serve env c sub ∧
    (succeeded r.itemType v.answer.reply = true → (v.id, true) ∈ x.pass.log)
  ofLog : ∀ d ∈ x.pass.log, ∀ r ∈ q₀.rows, r.id = d.1 →
    (rowSubmission link column r).isSome = true → ∃ v ∈ x.visits, v.id = d.1

theorem rowSubmission_of_origin (link : Link) (column : String → Dict) {item r : QueueItem}
    (hid : r.id = item.id) (htype : r.itemType = item.itemType)
    (hpayload : r.payload = item.payload) :
    rowSubmission link column r = link.submission item.itemType item.payload (column item.id) := by
  unfold rowSubmission
  rw [hid, htype, hpayload]

/-- What is known about the requests so far stays true when the logs grow. -/
theorem Visits.ofRow_append {q₀ : SyncQueue} {x : Site} (h : Visits link env column q₀ x)
    (d : List Delivery) : ∀ v ∈ x.visits, ∃ r ∈ q₀.rows, r.id = v.id ∧ ∃ c sub,
      rowSubmission link column r = some sub ∧ v.before = c.db ∧ v.answer = serve env c sub ∧
      (succeeded r.itemType v.answer.reply = true → (v.id, true) ∈ x.pass.log ++ d) := by
  intro v hv
  obtain ⟨r, hr, hid, c, sub, hsub, hbefore, hanswer, hlog⟩ := h.ofRow v hv
  exact ⟨r, hr, hid, c, sub, hsub, hbefore, hanswer,
    fun hs => List.mem_append_left d (hlog hs)⟩

theorem visits_exec {q₀ : SyncQueue} {x : Site} {t : Tick}
    (hinherited : Inherited q₀ x.pass.state.place) (h : Visits link env column q₀ x) :
    Visits link env column q₀ (Site.exec cfg link env column x t) := by
  have hlog : (Site.exec cfg link env column x t).pass.log
      = x.pass.log ++ deliveries x.pass.state (x.heard link env column t) := rfl
  have hvisits : (Site.exec cfg link env column x t).visits
      = x.visits ++ x.visited link env column t := rfl
  rcases Site.exec_cases link env column x t with
    ⟨hvisited, hdelivered⟩ | ⟨item, hcurrent, hcase⟩
  · rw [hdelivered, List.append_nil] at hlog
    rw [hvisited, List.append_nil] at hvisits
    exact ⟨by rw [hlog, hvisits]; exact h.ofRow, by rw [hlog, hvisits]; exact h.ofLog⟩
  · -- the item that is delivered is a row
    have hheld : item ∈ x.pass.state.place.pc.held := held_of_current hcurrent
    obtain ⟨r, hr, hid, htype, hpayload⟩ := hinherited.held item hheld
    have hrow := rowSubmission_of_origin link column hid htype hpayload
    rcases hcase with ⟨hnone, hvisited, hdelivered⟩ | ⟨sub, hsome, hvisited, hdelivered⟩
    · rw [hdelivered] at hlog
      rw [hvisited, List.append_nil] at hvisits
      refine ⟨?_, ?_⟩
      · rw [hlog, hvisits]
        exact h.ofRow_append _
      · rw [hlog, hvisits]
        intro d hd r' hr' hid' hrequest
        rcases List.mem_append.mp hd with hold | hnew
        · exact h.ofLog d hold r' hr' hid' hrequest
        · rw [List.mem_singleton] at hnew
          subst hnew
          -- the new entry is that of the item, which has no request
          rw [q₀.eq_of_key_eq hr' hr (hid'.trans hid.symm), hrow, hnone] at hrequest
          cases hrequest
    · rw [hdelivered] at hlog
      rw [hvisited] at hvisits
      refine ⟨?_, ?_⟩
      · rw [hlog, hvisits]
        intro v hv
        rcases List.mem_append.mp hv with hold | hnew
        · exact h.ofRow_append _ v hold
        · rw [List.mem_singleton] at hnew
          subst hnew
          refine ⟨r, hr, hid, t.central, sub, hrow.trans hsome, rfl, rfl, ?_⟩
          intro hsucceeded
          rw [htype] at hsucceeded
          refine List.mem_append_right _ ?_
          rw [hsucceeded]
          exact List.mem_singleton_self _
      · rw [hlog, hvisits]
        intro d hd r' hr' hid' hrequest
        rcases List.mem_append.mp hd with hold | hnew
        · obtain ⟨v, hv, hvid⟩ := h.ofLog d hold r' hr' hid' hrequest
          exact ⟨v, List.mem_append_left _ hv, hvid⟩
        · rw [List.mem_singleton] at hnew
          subst hnew
          exact ⟨_, List.mem_append_right _ (List.mem_singleton_self _), rfl⟩

/-! ## §6. Whole passes. -/

/-- The pass inside a site hears what central answers. -/
theorem heard_isStep (x : Site) (t : Tick) :
    (x.heard link env column t).isStep = t.event.isStep := by
  unfold Site.heard
  split
  next hevent => rw [hevent]; rfl
  next => rfl

theorem heard_uninterrupted (x : Site) (t : Tick) (h : x.undisturbed t) :
    uninterrupted x.pass (x.heard link env column t) := by
  unfold Site.undisturbed at h
  unfold Site.heard
  split
  next => exact ⟨trivial, h.2⟩
  next => exact h

variable {s : State} {ts : List Tick}

/-- The site after a pass over the queue of `s`. -/
abbrev afterPass (cfg : Config) (link : Link) (env : CentralEnv) (column : String → Dict)
    (s : State) (ts : List Tick) : Site :=
  run (Site.exec cfg link env column) { pass := Pass.start s } ts

/-- The events of the agent in that pass. -/
abbrev eventsOf (cfg : Config) (link : Link) (env : CentralEnv) (column : String → Dict)
    (s : State) (ts : List Tick) : List Event :=
  labels (Site.exec cfg link env column) (Site.heard link env column) { pass := Pass.start s } ts

theorem pass_afterPass : (afterPass cfg link env column s ts).pass
    = run (Pass.exec cfg) (Pass.start s) (eventsOf cfg link env column s ts) :=
  run_labels (fun _ _ => rfl) _ ts

theorem along_eventsOf
    (hts : Along (Site.exec cfg link env column) Site.undisturbed { pass := Pass.start s } ts) :
    Along (Pass.exec cfg) uninterrupted (Pass.start s) (eventsOf cfg link env column s ts) :=
  along_labels (fun _ _ => rfl) heard_uninterrupted hts

theorem inherited_exec {q₀ : SyncQueue} {p : Pass} {e : Event}
    (h : Inherited q₀ p.state.place) (he : undisturbed p e) :
    Inherited q₀ (Pass.exec cfg p e).state.place :=
  exec_preserves (P := fun a _ => Inherited q₀ a) inherited_moves h he

/-- **EVERY REQUEST OF A PASS IS ONE OF A ROW.** -/
theorem Visits.of_run (hidle : s.pc = .idle)
    (hts : Along (Site.exec cfg link env column) Site.undisturbed { pass := Pass.start s } ts) :
    Visits link env column s.queue (afterPass cfg link env column s ts) := by
  have hstep : ∀ x t, Inherited s.queue x.pass.state.place ∧ Visits link env column s.queue x →
      x.undisturbed t →
      Inherited s.queue (Site.exec cfg link env column x t).pass.state.place ∧
        Visits link env column s.queue (Site.exec cfg link env column x t) := by
    intro x t ⟨hinherited, hvisits⟩ ht
    exact ⟨inherited_exec hinherited (heard_uninterrupted x t ht).1,
      visits_exec hinherited hvisits⟩
  refine (run_invariant hstep ⟨?_, ?_⟩ hts).2
  · show Inherited s.queue (processQueue s).place
    rw [processQueue_idle hidle]
    refine ⟨fun r hr => ⟨r, hr, rfl, rfl, rfl⟩, ?_⟩
    intro item hitem
    cases hitem
  · constructor
    · intro v hv
      cases hv
    · intro d hd
      cases hd

/-- **A PENDING ROW IS DELIVERED** by the time a pass that is left alone is over. -/
theorem delivered_of_run (hbatch : 1 ≤ cfg.batchSize) (hidle : s.pc = .idle) {es : List Event}
    (hes : Along (Pass.exec cfg) uninterrupted (Pass.start s) es)
    (hend : (run (Pass.exec cfg) (Pass.start s) es).state.pc = .idle) {r : QueueItem}
    (hr : r ∈ s.queue.rows) (hpending : r.status = .pending) :
    ∃ success, (r.id, success) ∈ (run (Pass.exec cfg) (Pass.start s) es).log := by
  have hstep : ∀ p e, Hand p.state.place ∧ Waits s.queue p.state.place p.log → uninterrupted p e →
      Hand (Pass.exec cfg p e).state.place ∧
        Waits s.queue (Pass.exec cfg p e).state.place (Pass.exec cfg p e).log := by
    intro p e h he
    refine exec_preserves (P := fun a log => Hand a ∧ Waits s.queue a log) ?_ h he.1
    intro a a' d ⟨hhand, hwaits⟩ hmove
    exact ⟨hand_moves hhand hmove, waits_moves hhand hwaits hmove⟩
  have hstart : Waits s.queue (Pass.start s).state.place (Pass.start s).log := by
    intro x hx _
    right
    left
    show x ∈ (processQueue s).queue.rows
    rw [processQueue_idle hidle]
    exact hx
  have hwaits := (run_invariant hstep ⟨(ongoing_start cfg hidle).hand, hstart⟩ hes).2
  have hdrained := drained_run hbatch hidle hes
  -- at the end it cannot wait in the table, which is drained, nor be on its way
  rcases hwaits r hr hpending with hlog | hrow | hway
  · exact hlog
  · refine absurd hpending (hdrained ?_ r hrow)
    show (run (Pass.exec cfg) (Pass.start s) es).state.pc.over = true
    rw [hend]
    rfl
  · have hway : (run (Pass.exec cfg) (Pass.start s) es).state.pc.onItsWay = some r.id := hway
    rw [hend] at hway
    cases hway

/-- A pass that is left alone, with central as it is. -/
theorem along_ticks (c : Central) : ∀ (n : Nat) {x : Site},
    x.pass.state.running = true → x.pass.state.online = true →
    Along (Site.exec cfg link env column) Site.undisturbed x
      (List.replicate n ⟨.passStep 0 .refused, c⟩) := by
  intro n
  induction n with
  | zero => intro x _ _; trivial
  | succ n ih =>
      intro x hrunning honline
      -- the flags do not depend on the answer
      obtain ⟨hrunning', honline'⟩ :=
        passStep_flags cfg x.pass.state 0 (x.outcome link env column c)
      refine ⟨⟨trivial, hrunning, honline⟩, ih ?_ ?_⟩
      · exact hrunning'.trans hrunning
      · exact honline'.trans honline

/-! ## §7. What is handed off. -/

theorem submission_no_token {itemType : ItemType} {payload : Payload} {column : Dict}
    {sub : Submission} (h : link.submission itemType payload column = some sub) :
    sub.host = link.host.text ∧ sub.authorization = none := by
  obtain ⟨request, -, rfl⟩ := Option.map_eq_some_iff.mp h
  exact ⟨rfl, rfl⟩

/-- A key that has been set stays as it is. -/
theorem Dict.setDefault_self (d : Dict) (key : String) (value value' : Json) :
    Dict.setDefault (Dict.setDefault d key value) key value' = Dict.setDefault d key value := by
  have hset : (Dict.get? (Dict.setDefault d key value) key).isSome = true := by
    unfold Dict.setDefault
    split
    next hkey => exact hkey
    next hkey =>
      unfold Dict.get? at hkey ⊢
      rw [Bool.not_eq_true, Option.isSome_eq_false_iff, Option.isNone_iff_eq_none] at hkey
      rw [List.lookup_append, hkey]
      simp
  rw [Dict.setDefault, if_pos hset]

/-- The request for an event. -/
def Link.eventSubmission (link : Link) (nodeId : String) (event : Dict) : Submission where
  method := "POST"
  path := link.urlPath (link.centralUrl ++ ("/api/v1/nodes/" ++ nodeId ++ "/event"))
  host := link.host.text
  client := link.client
  body := .obj event

/-- The request for a state update. -/
def Link.stateSubmission (link : Link) (nodeId newState : String) : Submission where
  method := "PATCH"
  path := link.urlPath (link.centralUrl ++ ("/api/v1/nodes/" ++ nodeId ++ "/state"))
  host := link.host.text
  client := link.client
  body := .obj [("state", .str newState)]

theorem submission_state (link : Link) (nodeId newState : String) (column : Dict) :
    link.submission .stateUpdate { nodeId := some nodeId, newState := some newState } column
      = if nodeId = "" ∨ newState = "" then none
        else some (link.stateSubmission nodeId newState) := by
  unfold Link.submission requestFor
  dsimp only
  by_cases hid : nodeId = ""
  · rw [if_pos (.inl hid), hid]
    rfl
  · have hnode : truthy (some nodeId) = some nodeId := by simp [truthy, hid]
    rw [hnode]
    by_cases hstate : newState = ""
    · rw [if_pos (.inr hstate), hstate]
      rfl
    · have hnew : truthy (some newState) = some newState := by simp [truthy, hstate]
      rw [if_neg (not_or.mpr ⟨hid, hstate⟩), hnew]
      rfl

theorem submission_event (link : Link) (nodeId : String) (event : Option Dict)
    (eventType : Option String) (eventData : Option Dict) :
    link.submission .event { nodeId := some nodeId }
        ((OfflineCall.reportNodeEvent nodeId event eventType eventData).column link.siteId)
      = if nodeId = "" then none
        else some
          (link.eventSubmission nodeId (eventOf link.siteId event eventType eventData)) := by
  -- the site was set when the call was stored, so it is not set again
  have hevent : queuedEvent link.siteId
      ((OfflineCall.reportNodeEvent nodeId event eventType eventData).column link.siteId)
      = some (eventOf link.siteId event eventType eventData) := by
    show some (Dict.setDefault (eventOf link.siteId event eventType eventData) _ _) = _
    unfold eventOf
    rw [Dict.setDefault_self]
  unfold Link.submission requestFor
  dsimp only
  rw [hevent]
  by_cases hid : nodeId = ""
  · rw [if_pos hid, hid]
    rfl
  · have htruthy : truthy (some nodeId) = some nodeId := by simp [truthy, hid]
    rw [if_neg hid, htruthy]
    rfl

/-- A row that holds the call, with its payload in the column. -/
structure Holds (link : Link) (column : String → Dict) (r : QueueItem) (call : OfflineCall) :
    Prop where
  itemType : r.itemType = call.itemType
  payload : r.payload = call.payload
  column : column r.id = call.column link.siteId

variable {r : QueueItem} {call : OfflineCall}

theorem rowSubmission_event {nodeId : String} {event : Option Dict} {eventType : Option String}
    {eventData : Option Dict}
    (hholds : Holds link column r (.reportNodeEvent nodeId event eventType eventData)) :
    rowSubmission link column r = if nodeId = "" then none
      else some (link.eventSubmission nodeId (eventOf link.siteId event eventType eventData)) := by
  unfold rowSubmission
  rw [hholds.itemType, hholds.payload, hholds.column]
  exact submission_event link nodeId event eventType eventData

theorem rowSubmission_state {nodeId newState : String} {macAddress : Option String}
    (hholds : Holds link column r (.updateNodeState nodeId newState macAddress)) :
    rowSubmission link column r = if nodeId = "" ∨ newState = "" then none
      else some (link.stateSubmission nodeId newState) := by
  unfold rowSubmission
  rw [hholds.itemType, hholds.payload]
  exact submission_state link nodeId newState _

/-- **WHICH CALLS GET TO A HANDLER THAT PERFORMS THEM**: without a token, nothing but reports
and transitions whose path is cut off. -/
theorem taken_of_performs {v : Visit} {c : Central} {sub : Submission}
    (hholds : Holds link column r call) (hsub : rowSubmission link column r = some sub)
    (hanswer : v.answer = serve env c sub) (h : v.performs call.itemType) :
    TakenAsReport link env call ∨ TakenAsTransition link env call := by
  obtain ⟨hhost, hnone⟩ := submission_no_token hsub
  have hallowed := taken_of_no_token env c sub hhost hnone
  rw [← hanswer] at hallowed
  cases call with
  | registerNode =>
      rcases h with htaken | ⟨data, htaken⟩
      · rw [htaken] at hallowed
        exact hallowed.elim
      · rw [htaken] at hallowed
        exact hallowed.elim
  | updateNodeState nodeId newState macAddress =>
      obtain ⟨target, data, htaken⟩ := h
      rw [htaken] at hallowed
      obtain ⟨hendpoint, hpublic, hdata⟩ := hallowed
      rw [rowSubmission_state hholds] at hsub
      split at hsub
      next => cases hsub
      next hgiven =>
        obtain rfl := Option.some.inj hsub
        rw [not_or] at hgiven
        exact .inr ⟨hgiven.1, hgiven.2, hendpoint, hpublic, Option.isSome_of_eq_some hdata⟩
  | reportNodeEvent nodeId event eventType eventData =>
      obtain ⟨report, htaken, hrecords, -⟩ := h
      rw [htaken] at hallowed
      obtain ⟨hendpoint, hreport⟩ := hallowed
      rw [rowSubmission_event hholds] at hsub
      split at hsub
      next => cases hsub
      next hid =>
        obtain rfl := Option.some.inj hsub
        exact .inl ⟨hid, hendpoint, report, hreport, hrecords⟩

theorem taken_of_handedOff (hidle : s.pc = .idle) (hrunning : s.running = true)
    (honline : s.online = true) (hr : r ∈ s.queue.rows) (hholds : Holds link column r call)
    (c : Central) (h : HandedOff cfg link env column s r.id call.itemType) :
    TakenAsReport link env call ∨ TakenAsTransition link env call := by
  obtain ⟨n, hn⟩ := h
  -- one pass is enough: the agent is left alone for as long as it takes
  have hts : Along (Site.exec cfg link env column) Site.undisturbed { pass := Pass.start s }
      (List.replicate n ⟨.passStep 0 .refused, c⟩) := by
    refine along_ticks c n ?_ ?_
    · show (processQueue s).running = true
      rw [processQueue_idle hidle]
      exact hrunning
    · show (processQueue s).online = true
      rw [processQueue_idle hidle]
      exact honline
  obtain ⟨v, hv, hvid, hperforms⟩ :=
    (hn _ hts (by simp [List.countP_replicate, Event.isStep])).performed
  obtain ⟨r', hr', hid, c', sub, hsub, -, hanswer, -⟩ := (Visits.of_run hidle hts).ofRow v hv
  rw [s.queue.eq_of_key_eq hr' hr (hid.trans hvid)] at hsub
  exact taken_of_performs hholds hsub hanswer hperforms

/-- Whatever state central is in, the request is performed, and the agent hears of a success
unless it is rejected. -/
def GetsThrough (env : CentralEnv) (itemType : ItemType) (sub : Submission) : Prop :=
  ∀ (c : Central) (v : Visit), v.before = c.db → v.answer = serve env c sub →
    v.performs itemType ∧
      (v.answer.rejected = true ∨ succeeded itemType v.answer.reply = true)

/-- What central does with an event that is a report: it records it, or rejects it. -/
theorem getsThrough_of_report (host : Authority) {sub : Submission} {report : Lifecycle.NodeReport}
    (hhost : sub.host = host.text)
    (hendpoint : endpointFor sub.method sub.path = some .reportNodeStatus)
    (hreport : env.nodeReport sub.body = some report) (hrecords : records report = true) :
    GetsThrough env .event sub := by
  intro c v hbefore hanswer
  rw [serve_report env c sub hhost hendpoint hreport] at hanswer
  cases hresult : Lifecycle.reportNodeStatus c.now c.db report env.clientHost with
  | ok result =>
      obtain ⟨message, db⟩ := result
      rw [hresult] at hanswer
      obtain ⟨e, he⟩ := events_of_report hrecords hresult
      refine ⟨⟨report, ?_, hrecords, fun _ => ⟨e, ?_⟩⟩, .inr ?_⟩
      · rw [hanswer]
        rfl
      · rw [hanswer, hbefore]
        exact he
      · rw [hanswer]
        simp [succeeded, answerOf]
  -- a report that raises is rejected, and then it need not be recorded
  | error exn =>
      rw [hresult] at hanswer
      have hrejected : v.answer.rejected = true := by
        rw [hanswer]
        rfl
      refine ⟨⟨report, ?_, hrecords, fun h => ?_⟩, .inl hrejected⟩
      · rw [hanswer]
        rfl
      · rw [hrejected] at h
        cases h

/-- What it does with a state update that gets through. -/
theorem getsThrough_of_transition {sub : Submission} {data : StateTransition}
    (hendpoint : endpointFor sub.method sub.path = some .transitionNodeState)
    (hpublic : isPublicPath sub.urlPath = true)
    (hdata : env.stateTransition sub.body = some data) : GetsThrough env .stateUpdate sub := by
  intro c v _ hanswer
  rw [serve_transition env c sub hendpoint hpublic hdata] at hanswer
  refine ⟨⟨pathComponent sub.path 3, data, ?_⟩, ?_⟩
  · rw [hanswer, taken_answerOf]
  · cases hresult : Lifecycle.transitionNodeState c.now c.db (pathComponent sub.path 3)
        data.state data.comment data.force with
    | ok result =>
        right
        rw [hanswer, hresult]
        simp [succeeded, answerOf]
    | error exn =>
        left
        rw [hanswer, hresult]
        rfl

/-- Each delivery of an item whose request gets through. -/
theorem visit_of_getsThrough {q₀ : SyncQueue} {x : Site} {v : Visit} {sub : Submission}
    (hvisits : Visits link env column q₀ x) (hr : r ∈ q₀.rows)
    (hsub : rowSubmission link column r = some sub) (hthrough : GetsThrough env r.itemType sub)
    (hv : v ∈ x.visits) (hvid : v.id = r.id) :
    v.performs r.itemType ∧ (v.answer.rejected = true ∨ (r.id, true) ∈ x.pass.log) := by
  obtain ⟨r', hr', hid', c, sub', hsub', hbefore, hanswer, hlog⟩ := hvisits.ofRow v hv
  obtain rfl := q₀.eq_of_key_eq hr' hr (hid'.trans hvid)
  obtain rfl := Option.some.inj (hsub'.symm.trans hsub)
  obtain ⟨hperforms, hrejected | hsucceeded⟩ := hthrough c v hbefore hanswer
  · exact ⟨hperforms, .inl hrejected⟩
  · rw [← hvid]
    exact ⟨hperforms, .inr (hlog hsucceeded)⟩

/-- **AN ITEM WHOSE REQUEST GETS THROUGH IS HANDED OFF.** -/
theorem handedOff_of_getsThrough {sub : Submission} (hbatch : 1 ≤ cfg.batchSize)
    (hidle : s.pc = .idle) (hr : r ∈ s.queue.rows) (hpending : r.status = .pending)
    (hsub : rowSubmission link column r = some sub) (hthrough : GetsThrough env r.itemType sub) :
    HandedOff cfg link env column s r.id r.itemType := by
  obtain ⟨n, hn⟩ := terminates_run cfg hidle
  refine ⟨n, ?_⟩
  intro ts hts hcount
  have hes := along_eventsOf hts
  have hsteps : n ≤ (eventsOf cfg link env column s ts).countP Event.isStep := by
    rw [countP_labels heard_isStep]
    exact hcount
  have hend := hn _ (undisturbed_of_uninterrupted hes) hsteps
  have hvisits := Visits.of_run hidle hts
  have hvisit : ∀ v ∈ (afterPass cfg link env column s ts).visits, v.id = r.id → _ :=
    fun v hv hvid => visit_of_getsThrough hvisits hr hsub hthrough hv hvid
  -- the row was delivered, so central got its request
  obtain ⟨success, hlog⟩ := delivered_of_run hbatch hidle hes hend hr hpending
  rw [← pass_afterPass] at hlog
  obtain ⟨v, hv, hvid⟩ := hvisits.ofLog _ hlog r hr rfl (by rw [hsub]; rfl)
  refine ⟨⟨v, hv, hvid, (hvisit v hv hvid).1⟩, ?_⟩
  -- one delivery that is not rejected counts as a success, and the row is removed
  by_cases hrejected : ∀ v ∈ (afterPass cfg link env column s ts).visits, v.id = r.id →
      v.answer.rejected = true
  · exact .inr hrejected
  · left
    push Not at hrejected
    obtain ⟨w, hw, hwid, haccepted⟩ := hrejected
    have htrue := (hvisit w hw hwid).2.resolve_left haccepted
    rw [pass_afterPass] at htrue ⊢
    exact (removed_run hidle (undisturbed_of_uninterrupted hes) hend hr).mpr htrue

theorem handedOff_of_taken (hbatch : 1 ≤ cfg.batchSize) (hidle : s.pc = .idle)
    (hr : r ∈ s.queue.rows) (hpending : r.status = .pending) (hholds : Holds link column r call)
    (h : TakenAsReport link env call ∨ TakenAsTransition link env call) :
    HandedOff cfg link env column s r.id call.itemType := by
  have htype := hholds.itemType
  rw [← htype]
  cases call with
  | registerNode => exact (h.elim id id).elim
  | updateNodeState nodeId newState macAddress =>
      obtain ⟨hid, hstate, hendpoint, hpublic, hvalid⟩ := h.resolve_left id
      obtain ⟨data, hdata⟩ := Option.isSome_iff_exists.mp hvalid
      have hsub := (rowSubmission_state hholds).trans (if_neg (not_or.mpr ⟨hid, hstate⟩))
      refine handedOff_of_getsThrough hbatch hidle hr hpending hsub ?_
      rw [htype]
      exact getsThrough_of_transition hendpoint hpublic hdata
  | reportNodeEvent nodeId event eventType eventData =>
      obtain ⟨hid, hendpoint, report, hreport, hrecords⟩ := h.resolve_right id
      have hsub := (rowSubmission_event hholds).trans (if_neg hid)
      refine handedOff_of_getsThrough hbatch hidle hr hpending hsub ?_
      rw [htype]
      exact getsThrough_of_report link.host rfl hendpoint hreport hrecords

/-- **A CALL MADE OFFLINE IS HANDED OFF TO CENTRAL, EXACTLY IF** it is an event whose request
is taken for a report, or a state update whose path the gate does not see to its end. -/
theorem hand_off_iff (cfg : Config) (link : Link) (env : CentralEnv) (column : String → Dict)
    (s : State) (r : QueueItem) (call : OfflineCall) (hbatch : 1 ≤ cfg.batchSize)
    (hidle : s.pc = .idle) (hrunning : s.running = true) (honline : s.online = true)
    (hr : r ∈ s.queue.rows) (hpending : r.status = .pending)
    (hholds : Holds link column r call) :
    HandedOff cfg link env column s r.id call.itemType ↔
      TakenAsReport link env call ∨ TakenAsTransition link env call :=
  ⟨taken_of_handedOff hidle hrunning honline hr hholds default,
    handedOff_of_taken hbatch hidle hr hpending hholds⟩

end Sites

/-! ## §8. Calls that are handed off, and calls that are not. -/

/-- The path of an `http` URL: without its query, with `..` resolved and without escapes. -/
def httpPath (url : String) : List Char :=
  let path := cutQuery ((url.toList.drop 7).dropWhile (fun c => c ≠ '/'))
  unquote (AbsPath.top.resolveFrom path).text

/-- The address that the agent calls. -/
def centralHost : Authority := ⟨"central:8080".toList, by decide⟩

def siteLink : Link where
  siteId := "site"
  centralUrl := "http://central:8080"
  urlPath := httpPath
  host := centralHost

def bodyText (body : Json) (key : String) : Option String :=
  match body with
  | .obj fields => (Dict.get? fields key).bind Json.text?
  | _ => none

/-- A server whose schemas know a few of their fields. -/
def smallEnv : CentralEnv where
  nodeCreate := fun body => (bodyText body "mac_address").map (fun macAddress => { macAddress })
  stateTransition := fun body =>
    if bodyText body "state" = some "active" then some { state := .active } else none
  nodeReport := fun body => (bodyText body "mac_address").map (fun macAddress =>
    { macAddress
      event := if bodyText body "event" = some "heartbeat" then some .heartbeat else none })
  otherHandler := fun _ _ _ db => (⟨404, none⟩, db)
  otherRoutes := fun _ _ _ db => (⟨404, none⟩, db)

/-- The agent is back online with one call in its queue. -/
def queuedCall (call : OfflineCall) : QueueItem where
  id := "1"
  itemType := call.itemType
  payload := call.payload
  createdAt := 0

def backOnline (call : OfflineCall) : State where
  queue := ⟨[queuedCall call], List.nodup_singleton _⟩
  running := true

def callColumn (call : OfflineCall) (_ : String) : Dict := call.column siteLink.siteId

theorem holds_queuedCall (call : OfflineCall) :
    Holds siteLink (callColumn call) (queuedCall call) call :=
  ⟨rfl, rfl, rfl⟩

/-- A heartbeat whose node id leads to the reports. -/
def strayHeartbeat : OfflineCall :=
  .reportNodeEvent "../report?"
    (some [("mac_address", .str "00:11:22:33:44:55"), ("event", .str "heartbeat")]) none none

/-- A state update for a node id whose escape is a `?`. -/
def cutUpdate : OfflineCall := .updateNodeState "x.png%3F" "active" none

/-- The heartbeat is recorded; the update gets to its handler, which knows no such node. -/
theorem hand_off_iff_stray_calls :
    HandedOff {} siteLink smallEnv (callColumn strayHeartbeat) (backOnline strayHeartbeat) "1"
      .event ∧
    HandedOff {} siteLink smallEnv (callColumn cutUpdate) (backOnline cutUpdate) "1"
      .stateUpdate :=
  ⟨(hand_off_iff {} siteLink smallEnv (callColumn strayHeartbeat) (backOnline strayHeartbeat)
      (queuedCall strayHeartbeat) strayHeartbeat (by decide) rfl rfl rfl List.mem_cons_self rfl
      (holds_queuedCall strayHeartbeat)).mpr (.inl ⟨by decide, by decide, _, rfl, rfl⟩),
    (hand_off_iff {} siteLink smallEnv (callColumn cutUpdate) (backOnline cutUpdate)
      (queuedCall cutUpdate) cutUpdate (by decide) rfl rfl rfl List.mem_cons_self rfl
      (holds_queuedCall cutUpdate)).mpr
      (.inr ⟨by decide, by decide, by decide, by decide, rfl⟩)⟩

def nodeRegistration : OfflineCall :=
  .registerNode none (some "00:11:22:33:44:55") (some "10.0.0.7") none none none none

def nodeActivation : OfflineCall := .updateNodeState "n1" "active" (some "00:11:22:33:44:55")

def nodeHeartbeat : OfflineCall := .reportNodeEvent "n1" none (some "heartbeat") none

/-- A registration, a state update and an event, each alone in the queue: none is handed
off. -/
theorem offline_calls_not_handed_off :
    ¬ HandedOff {} siteLink smallEnv (callColumn nodeRegistration) (backOnline nodeRegistration) "1"
        .registration ∧
    ¬ HandedOff {} siteLink smallEnv (callColumn nodeActivation) (backOnline nodeActivation) "1"
        .stateUpdate ∧
    ¬ HandedOff {} siteLink smallEnv (callColumn nodeHeartbeat) (backOnline nodeHeartbeat) "1"
        .event := by
  refine ⟨fun h => ?_, fun h => ?_, fun h => ?_⟩
  · exact (taken_of_handedOff rfl rfl rfl List.mem_cons_self
      (holds_queuedCall nodeRegistration) default h).elim id id
  · have htaken := taken_of_handedOff rfl rfl rfl List.mem_cons_self
      (holds_queuedCall nodeActivation) default h
    -- the gate sees the whole path, which is not public
    exact absurd (htaken.resolve_left id).2.2.2.1 (by decide)
  · have htaken := taken_of_handedOff rfl rfl rfl List.mem_cons_self
      (holds_queuedCall nodeHeartbeat) default h
    exact absurd (htaken.resolve_right id).2.1 (by decide)

end PureBoot.Agent
