/-
  PureBoot.Web.Central — how CENTRAL ANSWERS a request.

  Embeds the way of a `POST` or `PATCH` through the server: the gate, the routes in the
  order in which `main.py` includes them (up to those of `api/routes/nodes.py`; the
  routers after it are a parameter), the validation of the body, and the handlers
  `create_node`, `transition_node_state` and `report_node_status`.

  The routes that create a node have no parameter and are not public, so a request
  without a token does not get there.  A report does, and so does a state transition
  whose path is cut off for the gate, as that of a node `x.png?` is.

  Main results:
    * `taken_of_no_token` — the handlers that a request without a token reaches;
    * `serve_report`, `serve_transition` — such a request gets there;
    * `events_of_report` — a report that is accepted is recorded.
-/
import PureBoot.Lifecycle.NodeApi
import PureBoot.Web.Routes

namespace PureBoot.Web

open PureBoot.Lib PureBoot.Lifecycle

/-! ## §1. Bodies. -/

/-- A JSON value, as it is sent and as it is stored. -/
inductive Json where
  | null
  | bool (b : Bool)
  | num (text : String)
  | str (s : String)
  | arr (items : List Json)
  | obj (fields : List (String × Json))

/-- A `dict` with texts as keys, in insertion order. -/
abbrev Dict : Type := List (String × Json)

/-- `d.get(key)`. -/
def Dict.get? (d : Dict) (key : String) : Option Json := d.lookup key

/-- `d.setdefault(key, value)`, without its value. -/
def Dict.setDefault (d : Dict) (key : String) (value : Json) : Dict :=
  if (d.get? key).isSome then d else d ++ [(key, value)]

/-- The text in a JSON string. -/
def Json.text? : Json → Option String
  | .str s => some s
  | _ => none

/-- `bool(value)`. -/
def Json.truthy : Json → Bool
  | .null => false
  | .bool b => b
  | .num text => text ≠ "0" ∧ text ≠ "0.0" ∧ text ≠ "-0.0"
  | .str s => s ≠ ""
  | .arr items => !items.isEmpty
  | .obj fields => !fields.isEmpty

/-! ## §2. Routes. -/

inductive Endpoint where
  | registerPi
  | createNode
  | transitionNodeState
  | reportNodeStatus
  | other (name : String)
  deriving DecidableEq

structure Route where
  method : String
  pattern : String
  endpoint : Endpoint

/-- The routes for `POST` and `PATCH` of the routers `boot_pi`, `ipxe` and `nodes`, in the
order in which they are tried. -/
def routes : List Route :=
  [⟨"POST", "/api/v1/nodes/register-pi", .registerPi⟩,
   ⟨"POST", "/api/v1/ipxe/build", .other "build_ipxe"⟩,
   ⟨"POST", "/api/v1/nodes/bulk/assign-group", .other "bulk_assign_group"⟩,
   ⟨"POST", "/api/v1/nodes/bulk/assign-workflow", .other "bulk_assign_workflow"⟩,
   ⟨"POST", "/api/v1/nodes/bulk/add-tag", .other "bulk_add_tag"⟩,
   ⟨"POST", "/api/v1/nodes/bulk/remove-tag", .other "bulk_remove_tag"⟩,
   ⟨"POST", "/api/v1/nodes/bulk/change-state", .other "bulk_change_state"⟩,
   ⟨"POST", "/api/v1/nodes", .createNode⟩,
   ⟨"PATCH", "/api/v1/nodes/\x7bnode_id\x7d", .other "update_node"⟩,
   ⟨"PATCH", "/api/v1/nodes/\x7bnode_id\x7d/state", .transitionNodeState⟩,
   ⟨"POST", "/api/v1/nodes/\x7bnode_id\x7d/tags", .other "add_node_tag"⟩,
   ⟨"POST", "/api/v1/report", .reportNodeStatus⟩,
   ⟨"POST", "/api/v1/nodes/\x7bnode_id\x7d/clone-ready", .other "clone_source_ready"⟩,
   ⟨"POST", "/api/v1/nodes/\x7bnode_id\x7d/installed", .other "node_installed_callback"⟩,
   ⟨"POST", "/api/v1/nodes/\x7bnode_id\x7d/install-failed", .other "node_install_failed_callback"⟩,
   ⟨"POST", "/api/v1/nodes/\x7bnode_id\x7d/command", .other "send_node_command"⟩]

/-- The route takes a request of this method for this path. -/
def Route.takes (route : Route) (method : String) (path : List Char) : Bool :=
  route.method = method && routeMatches (parsePattern route.pattern) path

/-- The first route that takes the request. -/
def endpointFor (method : String) (path : List Char) : Option Endpoint :=
  (routes.find? (fun route => route.takes method path)).map Route.endpoint

/-! ## §3. Answers. -/

/-- `StateTransition`, after validation. -/
structure StateTransition where
  state : NodeState
  comment : Option String := none
  force : Bool := false

/-- A status code, and the body if it is JSON. -/
structure Reply where
  status : Nat
  data : Option Json := none

/-- The handler that took a request, with the validated body. -/
inductive Taken where
  /-- The gate, the routing or the validation has refused the request. -/
  | nobody
  | registerPi
  | createNode (data : NodeCreate)
  | transitionNodeState (nodeId : String) (data : StateTransition)
  | reportNodeStatus (report : NodeReport)
  | other (name : String)

structure Answer where
  taken : Taken
  reply : Reply
  /-- The database afterwards. -/
  db : DB
  /-- The handler has refused. -/
  rejected : Bool := false

/-- What the server gets from elsewhere. -/
structure CentralEnv where
  /-- The validation of a body against its schema; `none` is status 422. -/
  nodeCreate : Json → Option NodeCreate
  stateTransition : Json → Option StateTransition
  nodeReport : Json → Option NodeReport
  /-- `request.client.host`. -/
  clientHost : Option String := none
  /-- The handlers of other endpoints. -/
  otherHandler : String → List Char → Json → DB → Reply × DB
  /-- The routers that are included later. -/
  otherRoutes : String → List Char → Json → DB → Reply × DB

/-- The server when a request arrives. -/
structure Central where
  db : DB
  auth : AuthEnv
  authDb : AuthDb := {}
  now : Timestamp
  /-- The primary key of a node that is created. -/
  uuid : String

/-- A new server, which accepts no token. -/
instance : Inhabited Central where
  default :=
    { db := DB.empty
      auth :=
        { now := 0, utcnow := 0, checkpw := fun _ _ => false, jwtAvailable := true
          jwtDecode := fun _ => none, parseInt := fun _ => none, hasSessionFactory := true }
      now := ⟨0, true⟩
      uuid := "" }

/-- A request with its body. -/
structure Submission extends Request where
  body : Json

/-- `{"detail": …}`. -/
def detail (text : String) : Option Json := some (.obj [("detail", .str text)])

/-- The answer to an exception. -/
def exnReply : Exn → Reply
  | .http statusCode text => ⟨statusCode, detail text⟩
  | _ => ⟨500, none⟩

/-- `ApiResponse`, without the node in its `data`. -/
def apiResponse (message : String) : Option Json :=
  some (.obj [("success", .bool true), ("message", .str message)])

/-- The answer of a handler; a failed request leaves the database as it was. -/
def answerOf (taken : Taken) (db : DB) (status : Nat) : Except Exn (String × DB) → Answer
  | .ok (message, db') => { taken, reply := ⟨status, apiResponse message⟩, db := db' }
  | .error e => { taken, reply := exnReply e, db, rejected := true }

/-- Component `i` of the path. -/
def pathComponent (path : List Char) (i : Nat) : String :=
  String.ofList (((path.drop 1).splitOn '/').getD i [])

/-- The body is not valid. -/
def unprocessable (db : DB) : Answer :=
  { taken := .nobody, reply := ⟨422, detail "Validation error"⟩, db }

/-- The answer of a handler that is not modelled. -/
def answerOther (taken : Taken) (result : Reply × DB) : Answer :=
  { taken, reply := result.1, db := result.2, rejected := 400 ≤ result.1.status }

/-- What a request that is passed on gets. -/
def handle (env : CentralEnv) (c : Central) (r : Submission) : Answer :=
  match endpointFor r.method r.path with
  | some .createNode =>
      match env.nodeCreate r.body with
      | none => unprocessable c.db
      | some data => answerOf (.createNode data) c.db 201 (createNode c.db c.uuid data)
  | some .transitionNodeState =>
      match env.stateTransition r.body with
      | none => unprocessable c.db
      | some data =>
          let nodeId := pathComponent r.path 3
          answerOf (.transitionNodeState nodeId data) c.db 200
            (transitionNodeState c.now c.db nodeId data.state data.comment data.force)
  | some .reportNodeStatus =>
      match env.nodeReport r.body with
      | none => unprocessable c.db
      | some report =>
          answerOf (.reportNodeStatus report) c.db 200
            (reportNodeStatus c.now c.db report env.clientHost)
  | some .registerPi =>
      answerOther .registerPi (env.otherHandler "register_pi_node" r.path r.body c.db)
  | some (.other name) => answerOther (.other name) (env.otherHandler name r.path r.body c.db)
  | none => answerOther (.other "") (env.otherRoutes r.method r.path r.body c.db)

/-- Central answers a request. -/
def serve (env : CentralEnv) (c : Central) (r : Submission) : Answer :=
  match (dispatch c.auth c.authDb r.toRequest).1 with
  | .passed _ => handle env c r
  | .refused status text => { taken := .nobody, reply := ⟨status, detail text⟩, db := c.db }
  | .raised => { taken := .nobody, reply := ⟨500, none⟩, db := c.db }

/-! ## §4. Requests without a token. -/

/-- Which routes the endpoints have. -/
theorem route_of_endpoint : ∀ route ∈ routes,
    (route.endpoint = .registerPi → route.pattern = "/api/v1/nodes/register-pi") ∧
    (route.endpoint = .createNode → route.pattern = "/api/v1/nodes") ∧
    (route.endpoint = .reportNodeStatus → route.pattern = "/api/v1/report") := by
  decide

theorem route_of_endpointFor {method : String} {path : List Char} {endpoint : Endpoint}
    (h : endpointFor method path = some endpoint) :
    ∃ route ∈ routes, route.endpoint = endpoint ∧ route.method = method ∧
      routeMatches (parsePattern route.pattern) path = true := by
  obtain ⟨route, hfind, hendpoint⟩ := Option.map_eq_some_iff.mp h
  have htakes : route.takes method path = true := by simpa using List.find?_some hfind
  unfold Route.takes at htakes
  rw [Bool.and_eq_true, decide_eq_true_eq] at htakes
  exact ⟨route, List.mem_of_find?_eq_some hfind, hendpoint, htakes⟩

section Gate

variable {host : Authority} {method : String} {path : List Char} {endpoint : Endpoint}

/-- What the gate sees of a path that a route without parameters takes. -/
theorem urlPath_of_literal (ts : List (List Char)) {text : String}
    (hpattern : parsePattern text = ts.map Segment.lit)
    (htext : flat '/' ts = '/' :: text.toList.drop 1) (hclean : Clean ('/' :: text.toList.drop 1))
    (h : routeMatches (parsePattern text) path = true) :
    pathOf (host.text ++ path) = '/' :: text.toList.drop 1 := by
  rw [hpattern] at h
  rcases routeMatches_lits h with hpath | hpath
  · rw [hpath, htext, pathOf_clean host hclean]
  · have hcut := hclean.cut_append ['\n']
    rw [hpath, htext, List.cons_append, pathOf_authority]
    exact hcut.trans (List.append_nil _)

/-- The routes that create a node are not public. -/
theorem not_public_of_endpoint (h : endpointFor method path = some endpoint)
    (hkind : endpoint = .registerPi ∨ endpoint = .createNode) :
    isPublicPath (pathOf (host.text ++ path)) = false := by
  obtain ⟨route, hmem, rfl, -, hmatches⟩ := route_of_endpointFor h
  obtain ⟨hpi, hcreate, -⟩ := route_of_endpoint route hmem
  rcases hkind with hkind | hkind
  · rw [hpi hkind] at hmatches
    rw [urlPath_of_literal ["api".toList, "v1".toList, "nodes".toList, "register-pi".toList]
      (by decide) (by decide) (by decide) hmatches]
    decide
  · rw [hcreate hkind] at hmatches
    rw [urlPath_of_literal ["api".toList, "v1".toList, "nodes".toList]
      (by decide) (by decide) (by decide) hmatches]
    decide

/-- That of the reports is. -/
theorem public_of_report (h : endpointFor method path = some .reportNodeStatus) :
    isPublicPath (pathOf (host.text ++ path)) = true := by
  obtain ⟨route, hmem, hkind, -, hmatches⟩ := route_of_endpointFor h
  rw [(route_of_endpoint route hmem).2.2 hkind] at hmatches
  rw [urlPath_of_literal ["api".toList, "v1".toList, "report".toList]
    (by decide) (by decide) (by decide) hmatches]
  decide

end Gate

/-- What is passed on without a token is public. -/
theorem public_of_passed {env : AuthEnv} {db : AuthDb} {r : Request} {who : Option Identity}
    (hnone : r.authorization = none) (h : (dispatch env db r).1 = .passed who) :
    isPublicPath r.urlPath = true := by
  by_contra hclosed
  rw [Bool.not_eq_true] at hclosed
  exact not_carriesToken_of_none hnone (carriesToken_of_passed hclosed h)

/-- What a request without a token may ask of a handler. -/
def allowedWithoutToken (env : CentralEnv) (r : Submission) : Taken → Prop
  | .registerPi => False
  | .createNode _ => False
  | .transitionNodeState _ data =>
      endpointFor r.method r.path = some .transitionNodeState ∧
        isPublicPath r.urlPath = true ∧ env.stateTransition r.body = some data
  | .reportNodeStatus report =>
      endpointFor r.method r.path = some .reportNodeStatus ∧ env.nodeReport r.body = some report
  | _ => True

theorem taken_answerOf (taken : Taken) (db : DB) (status : Nat)
    (result : Except Exn (String × DB)) : (answerOf taken db status result).taken = taken := by
  unfold answerOf
  split <;> rfl

/-- **THE HANDLERS THAT A REQUEST WITHOUT A TOKEN REACHES.** -/
theorem taken_of_no_token (env : CentralEnv) (c : Central) (r : Submission) {host : Authority}
    (hhost : r.host = host.text) (hnone : r.authorization = none) :
    allowedWithoutToken env r (serve env c r).taken := by
  unfold serve
  split
  next who hpassed =>
    have hpublic := public_of_passed hnone hpassed
    have hclosed : ∀ {endpoint : Endpoint}, endpointFor r.method r.path = some endpoint →
        ¬ (endpoint = .registerPi ∨ endpoint = .createNode) := by
      intro endpoint hendpoint hkind
      unfold Request.urlPath at hpublic
      rw [hhost, not_public_of_endpoint hendpoint hkind] at hpublic
      cases hpublic
    -- the cases of `handle`, in its order
    unfold handle
    split
    next hendpoint => exact absurd (.inr rfl) (hclosed hendpoint)
    next hendpoint =>
      split
      next => trivial
      next data hdata =>
        dsimp only
        rw [taken_answerOf]
        exact ⟨hendpoint, hpublic, hdata⟩
    next hendpoint =>
      split
      next => trivial
      next report hreport =>
        rw [taken_answerOf]
        exact ⟨hendpoint, hreport⟩
    next hendpoint => exact absurd (.inl rfl) (hclosed hendpoint)
    next => trivial
    next => trivial
  next => trivial
  next => trivial

/-- A request for a public path gets to its handler. -/
theorem serve_of_public (env : CentralEnv) (c : Central) (r : Submission)
    (h : isPublicPath r.urlPath = true) : serve env c r = handle env c r := by
  unfold serve
  rw [dispatch_public h]

/-- A valid report needs no token. -/
theorem serve_report (env : CentralEnv) (c : Central) (r : Submission) {host : Authority}
    (hhost : r.host = host.text) {report : NodeReport}
    (hendpoint : endpointFor r.method r.path = some .reportNodeStatus)
    (hreport : env.nodeReport r.body = some report) :
    serve env c r = answerOf (.reportNodeStatus report) c.db 200
      (reportNodeStatus c.now c.db report env.clientHost) := by
  have hpublic : isPublicPath r.urlPath = true := by
    unfold Request.urlPath
    rw [hhost]
    exact public_of_report hendpoint
  rw [serve_of_public env c r hpublic]
  unfold handle
  rw [hendpoint]
  dsimp only
  rw [hreport]

/-- Nor does a valid transition whose path is cut off. -/
theorem serve_transition (env : CentralEnv) (c : Central) (r : Submission)
    {data : StateTransition}
    (hendpoint : endpointFor r.method r.path = some .transitionNodeState)
    (hpublic : isPublicPath r.urlPath = true) (hdata : env.stateTransition r.body = some data) :
    serve env c r = answerOf (.transitionNodeState (pathComponent r.path 3) data) c.db 200
      (transitionNodeState c.now c.db (pathComponent r.path 3) data.state data.comment
        data.force) := by
  rw [serve_of_public env c r hpublic]
  unfold handle
  rw [hendpoint]
  dsimp only
  rw [hdata]

/-! ## §5. What a report records. -/

/-- The report has something to record. -/
def records (report : NodeReport) : Bool :=
  report.event.isSome || report.installationStatus.isSome

section Reports

variable {now : Timestamp} {node : Node} {report : NodeReport} {clientIp : Option String}
  {w : NodeWrite}

/-- Every event is logged, whatever else it does. -/
theorem events_of_handleEvent {event : ReportEvent}
    (h : handleEvent now node report event clientIp = .ok w) : ∃ e, w.events = [e] := by
  cases event with
  | bootStarted | installProgress | heartbeat =>
      cases h
      exact ⟨_, rfl⟩
  | installStarted | installComplete | installFailed | firstBoot =>
      unfold handleEvent at h
      dsimp only at h
      split at h
      next =>
        obtain ⟨⟨node', logs⟩, -, h⟩ := bind_eq_ok.mp h
        cases h
        exact ⟨_, rfl⟩
      next =>
        cases h
        exact ⟨_, rfl⟩

theorem events_of_legacy {status : InstallationStatus}
    (h : handleLegacyInstallationStatus now node report status clientIp = .ok w) :
    ∃ e, w.events = [e] := by
  unfold handleLegacyInstallationStatus at h
  dsimp only at h
  split at h
  next =>
    obtain ⟨⟨node', logs⟩, -, h⟩ := bind_eq_ok.mp h
    cases h
    exact ⟨_, rfl⟩
  next =>
    split at h
    next =>
      obtain ⟨⟨node', logs⟩, -, h⟩ := bind_eq_ok.mp h
      cases h
      exact ⟨_, rfl⟩
    next =>
      split at h
      next =>
        obtain ⟨⟨node', logs⟩, -, h⟩ := bind_eq_ok.mp h
        cases h
        exact ⟨_, rfl⟩
      next =>
        cases h
        exact ⟨_, rfl⟩

/-- **A REPORT THAT IS ACCEPTED IS RECORDED.** -/
theorem events_of_report {db db' : DB} {clientHost : Option String} {message : String}
    (hrecords : records report = true)
    (h : reportNodeStatus now db report clientHost = .ok (message, db')) :
    ∃ e, db'.events = db.events ++ [e] := by
  unfold reportNodeStatus at h
  split at h
  next => cases h
  next node hnode =>
    dsimp only at h
    split at h
    next event hevent =>
      obtain ⟨w, hw, h⟩ := bind_eq_ok.mp h
      cases h
      obtain ⟨e, he⟩ := events_of_handleEvent hw
      exact ⟨e, congrArg (db.events ++ ·) he⟩
    next status hevent hstatus =>
      obtain ⟨w, hw, h⟩ := bind_eq_ok.mp h
      cases h
      obtain ⟨e, he⟩ := events_of_legacy hw
      exact ⟨e, congrArg (db.events ++ ·) he⟩
    next hevent hstatus =>
      unfold records at hrecords
      rw [hevent, hstatus] at hrecords
      cases hrecords

end Reports

end PureBoot.Web
