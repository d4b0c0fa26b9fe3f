/-
  PureBoot.Lifecycle.NodeApi — the node endpoints that read or write
  `node.state`.

  Embeds `api/routes/nodes.py` (`create_node`, `update_node`,
  `transition_node_state`, `bulk_change_state`, `retire_node`,
  `report_node_status` with `_handle_event` and
  `_handle_legacy_installation_status`, the clone-ready and the two deploy
  callbacks) and `api/routes/boot.py` (`validate_mac`, `get_boot_script`).  A
  handler takes the database it sees and returns its answer with the database it
  flushed, or the exception it raised.

  Main results: one `EndpointStep` lemma per handler (§5) — what it did to the database
  when it returned, once and for all that is proved about it.
    * `getBootScript_case` — the cases of `GET /boot`;
    * `EndpointStep.write` — without force, one of the writes of `Lifecycle.Store`;
    * `EndpointStep.sessions` — clone sessions are left alone.
-/
import PureBoot.Lib.Run
import PureBoot.Lifecycle.Store

namespace PureBoot.Lifecycle

open PureBoot.Lib

/-! ## §1. Settings and helpers. -/

/-- What loading, resolving and rendering a workflow file gives: a script, an
exception the boot endpoint catches, or one it does not. -/
inductive WorkflowResult where
  | found
  | notFound
  | raised (e : Exn)
  deriving DecidableEq, Repr

/-- Settings, and the parts of the world a handler asks: the workflow files on
disk, the database driver and the certificate authority. -/
structure Env where
  /-- `settings.registration.auto_register`. -/
  autoRegister : Bool := true
  /-- `settings.registration.default_group_id`. -/
  defaultGroupId : Option String := none
  /-- `settings.install_timeout_minutes`. -/
  installTimeoutMinutes : Int := 60
  /-- The value a stored datetime has when it is read back (SQLite drops the time
  zone, other drivers keep it). -/
  readback : Timestamp → Timestamp
  /-- `workflow_service.get_workflow` and `resolve_variables`. -/
  getWorkflow : String → WorkflowResult
  /-- `ca_service.issue_session_cert(session_id, role)`, if the CA is initialized. -/
  issueSessionCert : Option (Option String → String → String × String) := none
  /-- Whether a row of `storage_backends` has this id. -/
  storageBackendExists : String → Bool := fun _ => false

/-- `bool(s)` of an optional text. -/
def truthy : Option String → Bool
  | some s => s ≠ ""
  | none => false

/-- `new if new else old`, the way a handler copies an optional field. -/
def orKeep (new old : Option String) : Option String :=
  if truthy new then new else old

/-- `str(v)` of an optional text inside an f-string. -/
def showOpt : Option String → String
  | some s => s
  | none => "None"

/-- `str(xs)` of a list of states. -/
def showStates (xs : List NodeState) : String :=
  "[" ++ String.intercalate ", " (xs.map (fun s => "'" ++ s.name ++ "'")) ++ "]"

/-- What a helper hands back to its endpoint: a message, the node, and the audit
rows and events it added. -/
structure NodeWrite where
  message : String
  node : Node
  logs : List NodeStateLog
  events : List NodeEvent

/-! ## §2. Registration and administration (`nodes.py`). -/

/-- `NodeCreate`, after its validators. -/
structure NodeCreate where
  macAddress : String
  hostname : Option String := none
  arch : String := "x86_64"
  bootMode : String := "bios"
  groupId : Option String := none
  vendor : Option String := none
  model : Option String := none
  serialNumber : Option String := none
  systemUuid : Option String := none
  piModel : Option String := none
  deriving DecidableEq, Repr

/-- `create_node`; `uuid` is the primary key the column default draws. -/
def createNode (db : DB) (uuid : String) (data : NodeCreate) : Except Exn (String × DB) :=
  match db.nodeByMac data.macAddress with
  | some _ =>
      .error (.http 409 ("Node with MAC " ++ data.macAddress ++ " already exists"))
  | none => do
      let db' ← db.addNode
        { id := uuid, macAddress := data.macAddress, hostname := data.hostname,
          arch := data.arch, bootMode := data.bootMode, groupId := data.groupId,
          vendor := data.vendor, model := data.model, serialNumber := data.serialNumber,
          systemUuid := data.systemUuid, piModel := data.piModel }
      .ok ("Node registered successfully", db')

/-- `NodeUpdate`: `none` is a field the request did not set. -/
structure NodeUpdate where
  hostname : Option (Option String) := none
  workflowId : Option (Option String) := none
  groupId : Option (Option String) := none
  vendor : Option (Option String) := none
  model : Option (Option String) := none
  serialNumber : Option (Option String) := none
  systemUuid : Option (Option String) := none
  piModel : Option (Option String) := none
  deriving DecidableEq, Repr

/-- `update_node`. -/
def updateNode (db : DB) (nodeId : String) (data : NodeUpdate) : Except Exn (String × DB) :=
  match db.nodes.get? nodeId with
  | none => .error (.http 404 "Node not found")
  | some node =>
      let node' := { node with
        hostname := data.hostname.getD node.hostname
        workflowId := data.workflowId.getD node.workflowId
        groupId := data.groupId.getD node.groupId
        vendor := data.vendor.getD node.vendor
        model := data.model.getD node.model
        serialNumber := data.serialNumber.getD node.serialNumber
        systemUuid := data.systemUuid.getD node.systemUuid
        piModel := data.piModel.getD node.piModel }
      .ok ("Node updated successfully", db.save node' [] [])

/-- `transition_node_state`. -/
def transitionNodeState (now : Timestamp) (db : DB) (nodeId : String) (state : NodeState)
    (comment : Option String) (force : Bool) : Except Exn (String × DB) :=
  match db.nodes.get? nodeId with
  | none => .error (.http 404 "Node not found")
  | some node =>
      match transition now node state .admin comment [] force with
      | .ok (node', log) =>
          .ok ("Node transitioned to " ++ state.name, db.save node' [log] [])
      | .error (.invalidStateTransition f t) =>
          .error (.http 400 (invalidTransitionText f t ++ ". Valid transitions: "
            ++ showStates (getValidTransitions node.state)))
      | .error (.valueError detail) => .error (.http 400 detail)
      | .error e => .error e

/-- `retire_node`; the clean-up of a Pi's TFTP directory is outside the database.  The row
is written, which expires `updated_at`; only the tags are refreshed, so the answer cannot
be built and the session is rolled back. -/
def retireNode (now : Timestamp) (db : DB) (nodeId : String) : Except Exn (String × DB) :=
  match db.nodes.get? nodeId with
  | none => .error (.http 404 "Node not found")
  | some node =>
      match transition now node .retired .admin none [] false with
      | .ok _ => .error .missingGreenlet
      | .error (.invalidStateTransition f t) =>
          .error (.http 400 (invalidTransitionText f t))
      | .error e => .error e

/-- `BulkChangeStateResult`. -/
structure BulkChangeStateResult where
  updated : Nat
  errors : List (String × String)
  deriving DecidableEq, Repr

/-- `str(e)` of an exception `bulk_change_state` catches, if it catches it. -/
def bulkErrorText : Exn → Option String
  | .invalidStateTransition f t => some (invalidTransitionText f t)
  | .valueError detail => some detail
  | _ => none

/-- The loop of `bulk_change_state` over the selected rows. -/
def bulkLoop (now : Timestamp) (newState : NodeState) :
    DB → BulkChangeStateResult → List Node → Except Exn (BulkChangeStateResult × DB)
  | db, acc, [] => .ok (acc, db)
  | db, acc, node :: rest =>
      match transition now node newState .bulkOperation none [] false with
      | .ok (node', log) =>
          bulkLoop now newState (db.save node' [log] []) { acc with updated := acc.updated + 1 } rest
      | .error e =>
          match bulkErrorText e with
          | some text =>
              bulkLoop now newState db { acc with errors := acc.errors ++ [(node.id, text)] } rest
          -- what is not caught ends the request, and with it the nodes already moved
          | none => .error e

/-- `bulk_change_state`: `WHERE id IN (...)` selects each node once. -/
def bulkChangeState (now : Timestamp) (db : DB) (nodeIds : List String) (newState : NodeState) :
    Except Exn (BulkChangeStateResult × DB) :=
  bulkLoop now newState db ⟨0, []⟩ (db.nodes.rows.filter (fun n => n.id ∈ nodeIds))

/-! ## §3. Reports and callbacks (`nodes.py`). -/

/-- `NodeReport.installation_status`. -/
inductive InstallationStatus where
  | started
  | progress
  | complete
  | failed
  deriving DecidableEq, Repr

/-- `NodeReport`, after its validators. -/
structure NodeReport where
  macAddress : String
  event : Option ReportEvent := none
  status : EventStatus := .success
  message : Option String := none
  eventMetadata : Option JsonDict := none
  ipAddress : Option String := none
  hostname : Option String := none
  vendor : Option String := none
  model : Option String := none
  serialNumber : Option String := none
  systemUuid : Option String := none
  installationStatus : Option InstallationStatus := none
  installationProgress : Option Nat := none
  installationError : Option String := none
  deriving DecidableEq, Repr

/-- The answer to a failed installation, shared by events and legacy reports. -/
def installFailureMessage (node : Node) : String :=
  if node.state = .installFailed
  then "Installation failed after " ++ toString node.installAttempts ++ " attempts"
  else "Installation failed (attempt " ++ toString node.installAttempts ++ "), will retry"

/-- `_handle_event`. -/
def handleEvent (now : Timestamp) (node : Node) (report : NodeReport) (event : ReportEvent)
    (clientIp : Option String) : Except Exn NodeWrite :=
  let events : List NodeEvent :=
    [{ nodeId := node.id, eventType := .report event, status := report.status,
       message := report.message, progress := report.installationProgress,
       metadataJson := dumps (report.eventMetadata.getD []), ipAddress := clientIp }]
  let ignored : NodeWrite := { message := "Event logged", node, logs := [], events }
  match event with
  | .bootStarted =>
      .ok { message := "Boot started event logged",
            node := { node with bootCount := node.bootCount + 1, lastBootAt := some now },
            logs := [], events }
  | .installStarted =>
      if node.state = .pending then do
        let (node', log) ← transition now node .installing .nodeReport none [] false
        .ok { message := "Installation started", node := { node' with installAttempts := 0 },
              logs := [log], events }
      else .ok ignored
  | .installProgress =>
      .ok { ignored with
        message := "Installation progress: " ++ toString (report.installationProgress.getD 0) ++ "%" }
  | .installComplete =>
      if node.state = .installing then do
        let (node', log) ← transition now node .installed .nodeReport none [] false
        .ok { message := "Installation completed", node := node', logs := [log], events }
      else .ok ignored
  | .installFailed =>
      if node.state = .installing then do
        let (node', logs) ←
          handleInstallFailure now node (.ofText (orKeep report.message report.installationError))
        .ok { message := installFailureMessage node', node := node', logs, events }
      else .ok ignored
  | .firstBoot =>
      if node.state = .installed then do
        let (node', log) ←
          transition now node .active .nodeReport none (report.eventMetadata.getD []) false
        .ok { message := "First boot - node now active", node := node', logs := [log], events }
      else .ok ignored
  | .heartbeat => .ok { ignored with message := "Heartbeat received" }

/-- `event_type_map` of the legacy handler. -/
def InstallationStatus.event : InstallationStatus → ReportEvent
  | started => .installStarted
  | progress => .installProgress
  | complete => .installComplete
  | failed => .installFailed

/-- `_handle_legacy_installation_status`. -/
def handleLegacyInstallationStatus (now : Timestamp) (node : Node) (report : NodeReport)
    (installationStatus : InstallationStatus) (clientIp : Option String) :
    Except Exn NodeWrite :=
  let events : List NodeEvent :=
    [{ nodeId := node.id, eventType := .report installationStatus.event,
       status := if installationStatus ≠ .failed then .success else .failed,
       message := report.installationError, progress := report.installationProgress,
       ipAddress := clientIp }]
  if installationStatus = .started ∧ node.state = .pending then do
    let (node', log) ← transition now node .installing .nodeReport none [] false
    .ok { message := "Installation started", node := { node' with installAttempts := 0 },
          logs := [log], events }
  else if installationStatus = .complete ∧ node.state = .installing then do
    let (node', log) ← transition now node .installed .nodeReport none [] false
    .ok { message := "Installation completed", node := node', logs := [log], events }
  else if installationStatus = .failed ∧ node.state = .installing then do
    let (node', logs) ← handleInstallFailure now node (.ofText report.installationError)
    .ok { message := installFailureMessage node', node := node', logs, events }
  else .ok { message := "Status reported successfully", node, logs := [], events }

/-- The fields `report_node_status` copies before it looks at the event. -/
def touchReported (now : Timestamp) (node : Node) (report : NodeReport) : Node :=
  let moved := truthy report.ipAddress ∧ node.ipAddress ≠ report.ipAddress
  { node with
    lastSeenAt := some now
    previousIpAddress := if moved then node.ipAddress else node.previousIpAddress
    lastIpChangeAt := if moved then some now else node.lastIpChangeAt
    ipAddress := orKeep report.ipAddress node.ipAddress
    hostname := orKeep report.hostname node.hostname
    vendor := orKeep report.vendor node.vendor
    model := orKeep report.model node.model
    serialNumber := orKeep report.serialNumber node.serialNumber
    systemUuid := orKeep report.systemUuid node.systemUuid }

/-- `report_node_status`; the health columns and alerts it updates at the end are
not part of this model. -/
def reportNodeStatus (now : Timestamp) (db : DB) (report : NodeReport)
    (clientHost : Option String) : Except Exn (String × DB) :=
  match db.nodeByMac report.macAddress with
  | none => .error (.http 404 ("Node with MAC " ++ report.macAddress ++ " not found"))
  | some node =>
      let clientIp := match clientHost with
        | some host => some host
        | none => report.ipAddress
      let node₁ := touchReported now node report
      match report.event, report.installationStatus with
      -- an event is looked at first: a legacy status beside it is ignored
      | some event, _ => do
          let w ← handleEvent now node₁ report event clientIp
          .ok (w.message, db.save w.node w.logs w.events)
      | none, some status => do
          let w ← handleLegacyInstallationStatus now node₁ report status clientIp
          .ok (w.message, db.save w.node w.logs w.events)
      | none, none => .ok ("Status reported successfully", db.save node₁ [] [])

/-- The JSON body of the clone-ready callback. -/
structure CloneReadyBody where
  ip : Option String := none
  port : Int := 9999
  size : JsonValue := .null
  device : JsonValue := .null
  deriving DecidableEq, Repr

/-- `nodes.py: clone_source_ready` (`POST /nodes/{id}/clone-ready`): the source is
only logged; an unreadable body falls back to the caller's address. -/
def nodeCloneSourceReady (db : DB) (nodeId : String) (body : Option CloneReadyBody)
    (clientHost : Option String) : Except Exn (String × DB) :=
  match db.nodes.get? nodeId with
  | none => .error (.http 404 "Node not found")
  | some node =>
      let b := body.getD { ip := clientHost }
      let at_ := showOpt b.ip ++ ":" ++ toString b.port
      let event : NodeEvent :=
        { nodeId := node.id, eventType := .cloneSourceReady, status := .ready,
          message := some ("Clone source ready at " ++ at_),
          metadataJson := dumps
            [("clone_ip", b.ip.elim .null .str), ("clone_port", .int b.port),
             ("clone_size", b.size), ("clone_device", b.device)],
          ipAddress := b.ip }
      .ok ("Clone source registered at " ++ at_, { db with events := db.events ++ [event] })

/-- `node_installed_callback`; `success` is the body's field, `none` when there is
no readable body or no such field. -/
def nodeInstalledCallback (now : Timestamp) (db : DB) (nodeId : String)
    (success : Option JsonValue) (clientHost : Option String) : Except Exn (String × DB) :=
  match db.nodes.get? nodeId with
  | none => .error (.http 404 "Node not found")
  | some node =>
      if (success.getD (.bool true)).truthy = true
          ∧ (node.state = .pending ∨ node.state = .installing) then do
        let (node', log) ← transition now node .installed .deployCallback none [] false
        .ok ("Node marked as installed", db.save node' [log]
          [{ nodeId := node.id, eventType := .deployComplete,
             message := some "Image deployment completed", ipAddress := clientHost }])
      else .ok ("Callback received", db)

/-- `node_install_failed_callback`; `error` is the body's field, any JSON value, and `none`
when there is no readable body or no such field. -/
def nodeInstallFailedCallback (now : Timestamp) (db : DB) (nodeId : String)
    (error : Option JsonValue) : Except Exn (String × DB) :=
  match db.nodes.get? nodeId with
  | none => .error (.http 404 "Node not found")
  | some node =>
      let error := error.getD (.str "Unknown error")
      let message := "Install failure recorded: " ++ error.text
      if node.state = .pending ∨ node.state = .installing then do
        let (node', logs) ← handleInstallFailure now node error
        -- the flush hands the value to the driver
        if error.binds = false then .error .other
        else .ok (message, db.save node' logs [])
      else .ok (message, db)

/-! ## §4. The boot endpoint (`boot.py`). -/

/-- `[0-9A-Fa-f]`. -/
def isHex (c : Char) : Bool :=
  c.isDigit || ('a' ≤ c && c ≤ 'f') || ('A' ≤ c && c ≤ 'F')

/-- `k` more groups of two digits and a separator, then two digits; `$` also
matches before a final newline. -/
def matchMacGroups : Nat → List Char → Bool
  | 0, [a, b] => isHex a && isHex b
  | 0, [a, b, c] => isHex a && isHex b && c = '\n'
  | k + 1, a :: b :: s :: rest =>
      isHex a && isHex b && (s = ':' || s = '-') && matchMacGroups k rest
  | _, _ => false

/-- `MAC_PATTERN.match`. -/
def macPatternMatches (mac : String) : Bool :=
  matchMacGroups 5 mac.toList

/-- `normalize_mac`. -/
def normalizeMac (mac : String) : String :=
  mac.map (fun c => if c = '-' then ':' else c.toLower)

/-- `validate_mac`. -/
def validateMac (mac : String) : Except Exn String :=
  if macPatternMatches mac then .ok (normalizeMac mac)
  else .error (.http 400 ("Invalid MAC address: " ++ mac))

/-- The scripts `get_boot_script` answers with. -/
inductive BootScript where
  | localBoot
  | pendingNoWorkflow (nodeId : String)
  | install (nodeId workflowId : String)
  | workflowError (nodeId text : String)
  | installRetry (nodeId : String)
  deriving DecidableEq, Repr

/-- The query parameters and the client address of `GET /boot`. -/
structure BootRequest where
  mac : String
  vendor : Option String := none
  model : Option String := none
  serial : Option String := none
  uuid : Option String := none
  clientHost : Option String := none
  deriving DecidableEq, Repr

/-- The fields `get_boot_script` refreshes: hardware facts only where they are
missing. -/
def touchBooted (now : Timestamp) (node : Node) (req : BootRequest) : Node :=
  { node with
    lastSeenAt := some now
    ipAddress := orKeep req.clientHost node.ipAddress
    vendor := orKeep node.vendor (orKeep req.vendor node.vendor)
    model := orKeep node.model (orKeep req.model node.model)
    serialNumber := orKeep node.serialNumber (orKeep req.serial node.serialNumber)
    systemUuid := orKeep node.systemUuid (orKeep req.uuid node.systemUuid) }

/-- The `pending` branch of `get_boot_script`. -/
def bootPending (env : Env) (node : Node) : Except Exn BootScript :=
  match node.workflowId with
  | none => .ok (.pendingNoWorkflow node.id)
  | some workflowId =>
      if workflowId = "" then .ok (.pendingNoWorkflow node.id)
      else match env.getWorkflow workflowId with
        | .found => .ok (.install node.id workflowId)
        | .notFound =>
            .ok (.workflowError node.id ("Workflow '" ++ workflowId ++ "' not found"))
        | .raised e => .error e

/-- The `installing` branch of `get_boot_script`: the timeout check. -/
def bootInstalling (env : Env) (now : Timestamp) (node : Node) :
    Except Exn (BootScript × Node × List NodeStateLog) :=
  match node.stateChangedAt with
  | none => .ok (.localBoot, node, [])
  | some changed =>
      if 0 < env.installTimeoutMinutes then do
        let elapsed ← now.sub (env.readback changed)
        if env.installTimeoutMinutes * 60 * 1000000 < elapsed then do
          let (node', logs) ← handleInstallFailure now node
            (.str ("Installation timed out after " ++ toString env.installTimeoutMinutes
              ++ " minutes"))
          if node'.state = .installFailed then
            .ok (.workflowError node'.id
              ("Timeout after " ++ toString env.installTimeoutMinutes ++ "m"), node', logs)
          else .ok (.installRetry node'.id, node', logs)
        else .ok (.localBoot, node, [])
      else .ok (.localBoot, node, [])

/-- `get_boot_script`; `uuid` is the primary key of an auto-registered node. -/
def getBootScript (env : Env) (now : Timestamp) (db : DB) (uuid : String) (req : BootRequest) :
    Except Exn (BootScript × DB) := do
  let mac ← validateMac req.mac
  match db.nodeByMac mac with
  | none =>
      if env.autoRegister then do
        let db' ← db.addNode
          { id := uuid, macAddress := mac, ipAddress := req.clientHost, vendor := req.vendor,
            model := req.model, serialNumber := req.serial, systemUuid := req.uuid,
            groupId := env.defaultGroupId }
        .ok (.localBoot, db')
      else .ok (.localBoot, db)
  | some node =>
      let node₁ := touchBooted now node req
      match node₁.state with
      | .pending => do
          let script ← bootPending env node₁
          .ok (script, db.save node₁ [] [])
      | .installing => do
          let (script, node', logs) ← bootInstalling env now node₁
          .ok (script, db.save node' logs [])
      | _ => .ok (.localBoot, db.save node₁ [] [])

/-! ## §5. What the node endpoints do. -/

/-- The row has the state and the counter it had, and it was not forgotten. -/
structure Kept (node node' : Node) : Prop where
  id : node'.id = node.id
  state : node'.state = node.state
  installAttempts : node'.installAttempts = node.installAttempts
  seen : node.lastSeenAt ≠ none → node'.lastSeenAt ≠ none

theorem Kept.refl (node : Node) : Kept node node := ⟨rfl, rfl, rfl, fun h => h⟩

theorem kept_touchReported (now : Timestamp) (node : Node) (report : NodeReport) :
    Kept node (touchReported now node report) :=
  ⟨rfl, rfl, rfl, fun _ => Option.some_ne_none now⟩

theorem kept_touchBooted (now : Timestamp) (node : Node) (req : BootRequest) :
    Kept node (touchBooted now node req) :=
  ⟨rfl, rfl, rfl, fun _ => Option.some_ne_none now⟩

/-- A row no request has written yet. -/
structure Fresh (node : Node) : Prop where
  state : node.state = .discovered
  installAttempts : node.installAttempts = 0

/-- **WHAT A NODE ENDPOINT MAKES OF A NODE**, after it refreshed other columns, and the audit
rows it adds. -/
inductive NodeChange (now : Timestamp) (forced : Bool) (node : Node) :
    Node → List NodeStateLog → Prop where
  /-- State and counter are left alone. -/
  | kept {node' : Node} : Kept node node' → NodeChange now forced node node' []
  /-- The state service moves it. -/
  | moved {node₁ node' : Node} {toState : NodeState} {tb : TriggeredBy} {c : Option String}
      {m : JsonDict} {force : Bool} {log : NodeStateLog} : Kept node node₁ →
      transition now node₁ toState tb c m force = .ok (node', log) →
      (force = true → forced = true) → NodeChange now forced node node' [log]
  /-- A started installation restarts the counter. -/
  | started {node₁ node' : Node} {log : NodeStateLog} : Kept node node₁ →
      transition now node₁ .installing .nodeReport none [] false = .ok (node', log) →
      NodeChange now forced node { node' with installAttempts := 0 } [log]
  /-- A failed installation is counted. -/
  | failed {node₁ node' : Node} {error : JsonValue} {logs : List NodeStateLog} :
      Kept node node₁ → node₁.state = .pending ∨ node₁.state = .installing →
      handleInstallFailure now node₁ error = .ok (node', logs) →
      NodeChange now forced node node' logs

/-- **WHAT A NODE ENDPOINT DOES** to the database when it returns. -/
inductive EndpointStep (now : Timestamp) (forced : Bool) (db : DB) : DB → Prop where
  /-- At most an event is added. -/
  | untouched {db' : DB} : db'.nodes = db.nodes → db'.logs = db.logs →
      db'.sessions = db.sessions → EndpointStep now forced db db'
  /-- A new node, in its default state. -/
  | added {node : Node} {db' : DB} : Fresh node → db.addNode node = .ok db' →
      EndpointStep now forced db db'
  /-- A stored node and the audit rows for what happened to it. -/
  | saved {node node' : Node} {logs : List NodeStateLog} {events : List NodeEvent} :
      node ∈ db.nodes.rows → NodeChange now forced node node' logs →
      EndpointStep now forced db (db.save node' logs events)

section Endpoints

variable {env : Env} {now : Timestamp} {forced : Bool} {db db' : DB} {node node₁ : Node}

theorem handleEvent_change {report : NodeReport} {event : ReportEvent}
    {clientIp : Option String} {w : NodeWrite} (hk : Kept node node₁)
    (h : handleEvent now node₁ report event clientIp = .ok w) :
    NodeChange now forced node w.node w.logs := by
  unfold handleEvent at h
  cases event with
  | bootStarted =>
      injection h with h
      subst h
      exact .kept ⟨hk.id, hk.state, hk.installAttempts, hk.seen⟩
  | installProgress | heartbeat =>
      injection h with h
      subst h
      exact .kept hk
  | installStarted =>
      dsimp only at h
      split at h
      next =>
        obtain ⟨⟨n, l⟩, ht, h⟩ := bind_eq_ok.mp h
        injection h with h
        subst h
        exact .started hk ht
      next => injection h with h; subst h; exact .kept hk
  | installComplete | firstBoot =>
      dsimp only at h
      split at h
      next =>
        obtain ⟨⟨n, l⟩, ht, h⟩ := bind_eq_ok.mp h
        injection h with h
        subst h
        exact .moved hk ht (fun hno => nomatch hno)
      next => injection h with h; subst h; exact .kept hk
  | installFailed =>
      dsimp only at h
      split at h
      next hst =>
        obtain ⟨⟨n, ls⟩, ht, h⟩ := bind_eq_ok.mp h
        injection h with h
        subst h
        exact .failed hk (.inr hst) ht
      next => injection h with h; subst h; exact .kept hk

theorem handleLegacyInstallationStatus_change {report : NodeReport}
    {status : InstallationStatus} {clientIp : Option String} {w : NodeWrite}
    (hk : Kept node node₁)
    (h : handleLegacyInstallationStatus now node₁ report status clientIp = .ok w) :
    NodeChange now forced node w.node w.logs := by
  unfold handleLegacyInstallationStatus at h
  dsimp only at h
  split at h
  next =>
    obtain ⟨⟨n, l⟩, ht, h⟩ := bind_eq_ok.mp h
    injection h with h
    subst h
    exact .started hk ht
  next =>
    split at h
    next =>
      obtain ⟨⟨n, l⟩, ht, h⟩ := bind_eq_ok.mp h
      injection h with h
      subst h
      exact .moved hk ht (fun hno => nomatch hno)
    next =>
      split at h
      next hst =>
        obtain ⟨⟨n, ls⟩, ht, h⟩ := bind_eq_ok.mp h
        injection h with h
        subst h
        exact .failed hk (.inr hst.2) ht
      next => injection h with h; subst h; exact .kept hk

theorem createNode_does {uuid : String} {data : NodeCreate} {m : String}
    (h : createNode db uuid data = .ok (m, db')) : EndpointStep now forced db db' := by
  unfold createNode at h
  split at h
  next => cases h
  next =>
    obtain ⟨d, hadd, h⟩ := bind_eq_ok.mp h
    obtain ⟨-, rfl⟩ := ok_pair_inj h
    exact .added ⟨rfl, rfl⟩ hadd

theorem updateNode_does {nodeId : String} {data : NodeUpdate} {m : String}
    (h : updateNode db nodeId data = .ok (m, db')) : EndpointStep now forced db db' := by
  unfold updateNode at h
  split at h
  next => cases h
  next node hget =>
    obtain ⟨-, rfl⟩ := ok_pair_inj h
    exact .saved (Table.get?_eq_some_iff.mp hget).1 (.kept ⟨rfl, rfl, rfl, fun h => h⟩)

theorem transitionNodeState_does {nodeId : String} {state : NodeState}
    {comment : Option String} {force : Bool} {m : String} (hforce : force = true → forced = true)
    (h : transitionNodeState now db nodeId state comment force = .ok (m, db')) :
    EndpointStep now forced db db' := by
  unfold transitionNodeState at h
  split at h
  next => cases h
  next node hget =>
    split at h
    next n l ht =>
      obtain ⟨-, rfl⟩ := ok_pair_inj h
      exact .saved (Table.get?_eq_some_iff.mp hget).1 (.moved (.refl node) ht hforce)
    next => cases h
    next => cases h
    next => cases h

/-- A node is never retired. -/
theorem retireNode_ne_ok {nodeId : String} {r : String × DB} :
    retireNode now db nodeId ≠ .ok r := by
  unfold retireNode
  split
  next => exact fun h => nomatch h
  next => split <;> exact fun h => nomatch h

theorem retireNode_does {nodeId : String} {m : String}
    (h : retireNode now db nodeId = .ok (m, db')) : EndpointStep now forced db db' :=
  absurd h retireNode_ne_ok

theorem reportNodeStatus_does {report : NodeReport} {clientHost : Option String} {m : String}
    (h : reportNodeStatus now db report clientHost = .ok (m, db')) :
    EndpointStep now forced db db' := by
  unfold reportNodeStatus at h
  split at h
  next => cases h
  next node hget =>
    have hmem := DB.mem_of_nodeByMac hget
    have htouch := kept_touchReported now node report
    dsimp only at h
    split at h
    next =>
      obtain ⟨w, hw, h⟩ := bind_eq_ok.mp h
      obtain ⟨-, rfl⟩ := ok_pair_inj h
      exact .saved hmem (handleEvent_change htouch hw)
    next =>
      obtain ⟨w, hw, h⟩ := bind_eq_ok.mp h
      obtain ⟨-, rfl⟩ := ok_pair_inj h
      exact .saved hmem (handleLegacyInstallationStatus_change htouch hw)
    next =>
      obtain ⟨-, rfl⟩ := ok_pair_inj h
      exact .saved hmem (.kept htouch)

theorem nodeCloneSourceReady_does {nodeId : String} {body : Option CloneReadyBody}
    {clientHost : Option String} {m : String}
    (h : nodeCloneSourceReady db nodeId body clientHost = .ok (m, db')) :
    EndpointStep now forced db db' := by
  unfold nodeCloneSourceReady at h
  split at h
  next => cases h
  next =>
    obtain ⟨-, rfl⟩ := ok_pair_inj h
    exact .untouched rfl rfl rfl

theorem nodeInstalledCallback_does {nodeId : String} {success : Option JsonValue}
    {clientHost : Option String} {m : String}
    (h : nodeInstalledCallback now db nodeId success clientHost = .ok (m, db')) :
    EndpointStep now forced db db' := by
  unfold nodeInstalledCallback at h
  split at h
  next => cases h
  next node hget =>
    split at h
    next =>
      obtain ⟨⟨n, l⟩, ht, h⟩ := bind_eq_ok.mp h
      obtain ⟨-, rfl⟩ := ok_pair_inj h
      exact .saved (Table.get?_eq_some_iff.mp hget).1
        (.moved (.refl node) ht (fun hno => nomatch hno))
    next =>
      obtain ⟨-, rfl⟩ := ok_pair_inj h
      exact .untouched rfl rfl rfl

theorem nodeInstallFailedCallback_does {nodeId : String} {error : Option JsonValue}
    {m : String} (h : nodeInstallFailedCallback now db nodeId error = .ok (m, db')) :
    EndpointStep now forced db db' := by
  unfold nodeInstallFailedCallback at h
  split at h
  next => cases h
  next node hget =>
    dsimp only at h
    split at h
    next hst =>
      obtain ⟨⟨n, ls⟩, ht, h⟩ := bind_eq_ok.mp h
      obtain ⟨-, h⟩ := ite_error_eq_ok.mp h
      obtain ⟨-, rfl⟩ := ok_pair_inj h
      exact .saved (Table.get?_eq_some_iff.mp hget).1 (.failed (.refl node) hst ht)
    next =>
      obtain ⟨-, rfl⟩ := ok_pair_inj h
      exact .untouched rfl rfl rfl

/-- **THE TIMEOUT CHECK** leaves the node alone, which then boots from its disk, or counts a
failed installation. -/
theorem bootInstalling_cases {node' : Node} {script : BootScript} {logs : List NodeStateLog}
    (h : bootInstalling env now node = .ok (script, node', logs)) :
    (script = .localBoot ∧ node' = node ∧ logs = []) ∨
      (∃ error, handleInstallFailure now node error = .ok (node', logs)) ∧
        ((∃ text, script = .workflowError node'.id text) ∨ script = .installRetry node'.id) := by
  have hleft : ∀ {r : BootScript × Node × List NodeStateLog},
      (.ok (.localBoot, node, []) : Except Exn (BootScript × Node × List NodeStateLog)) = .ok r →
      r.1 = .localBoot ∧ r.2.1 = node ∧ r.2.2 = [] := by
    rintro r hr
    rw [← Except.ok.inj hr]
    exact ⟨rfl, rfl, rfl⟩
  unfold bootInstalling at h
  split at h
  next => exact .inl (hleft h)
  next =>
    split at h
    next =>
      obtain ⟨elapsed, -, h⟩ := bind_eq_ok.mp h
      dsimp only at h
      split at h
      next =>
        obtain ⟨⟨n, ls⟩, hfail, h⟩ := bind_eq_ok.mp h
        dsimp only at h
        split at h
        next =>
          obtain ⟨rfl, rfl, rfl⟩ := by simpa using h
          exact .inr ⟨⟨_, hfail⟩, .inl ⟨_, rfl⟩⟩
        next =>
          obtain ⟨rfl, rfl, rfl⟩ := by simpa using h
          exact .inr ⟨⟨_, hfail⟩, .inr rfl⟩
      next => exact .inl (hleft h)
    next => exact .inl (hleft h)

theorem bootInstalling_change {node' : Node} {script : BootScript} {logs : List NodeStateLog}
    (hk : Kept node node₁) (hst : node₁.state = .installing)
    (h : bootInstalling env now node₁ = .ok (script, node', logs)) :
    NodeChange now forced node node' logs := by
  obtain ⟨-, rfl, rfl⟩ | ⟨⟨error, hfail⟩, -⟩ := bootInstalling_cases h
  · exact .kept hk
  · exact .failed hk (.inr hst) hfail

theorem validateMac_eq_ok {mac mac' : String} (h : validateMac mac = .ok mac') :
    mac' = normalizeMac mac := by
  unfold validateMac at h
  split at h
  next => exact (Except.ok.inj h).symm
  next => cases h

/-- **WHAT `GET /boot` DOES** when it returns a script. -/
inductive BootCase (env : Env) (now : Timestamp) (db : DB) (uuid : String) (req : BootRequest) :
    BootScript → DB → Prop where
  /-- The machine is unknown, and is not registered. -/
  | unknown : db.nodeByMac (normalizeMac req.mac) = none →
      BootCase env now db uuid req .localBoot db
  /-- The machine is registered. -/
  | registered {db' : DB} : db.nodeByMac (normalizeMac req.mac) = none →
      db.addNode
        { id := uuid, macAddress := normalizeMac req.mac, ipAddress := req.clientHost,
          vendor := req.vendor, model := req.model, serialNumber := req.serial,
          systemUuid := req.uuid, groupId := env.defaultGroupId } = .ok db' →
      BootCase env now db uuid req .localBoot db'
  /-- Its workflow is looked up. -/
  | pending {node : Node} {script : BootScript} :
      db.nodeByMac (normalizeMac req.mac) = some node → node.state = .pending →
      bootPending env (touchBooted now node req) = .ok script →
      BootCase env now db uuid req script (db.save (touchBooted now node req) [] [])
  /-- The timeout is checked. -/
  | installing {node node' : Node} {script : BootScript} {logs : List NodeStateLog} :
      db.nodeByMac (normalizeMac req.mac) = some node → node.state = .installing →
      bootInstalling env now (touchBooted now node req) = .ok (script, node', logs) →
      BootCase env now db uuid req script (db.save node' logs [])
  /-- It boots from its disk. -/
  | other {node : Node} : db.nodeByMac (normalizeMac req.mac) = some node →
      node.state ≠ .pending → node.state ≠ .installing →
      BootCase env now db uuid req .localBoot (db.save (touchBooted now node req) [] [])

theorem getBootScript_case {uuid : String} {req : BootRequest} {script : BootScript}
    (h : getBootScript env now db uuid req = .ok (script, db')) :
    BootCase env now db uuid req script db' := by
  unfold getBootScript at h
  obtain ⟨mac, hmac, h⟩ := bind_eq_ok.mp h
  rw [validateMac_eq_ok hmac] at h
  dsimp only at h
  split at h
  next hget =>
    split at h
    next =>
      obtain ⟨d, hadd, h⟩ := bind_eq_ok.mp h
      obtain ⟨rfl, rfl⟩ := ok_pair_inj h
      exact .registered hget hadd
    next =>
      obtain ⟨rfl, rfl⟩ := ok_pair_inj h
      exact .unknown hget
  next node hget =>
    split at h
    next hst =>
      obtain ⟨s, hscript, h⟩ := bind_eq_ok.mp h
      obtain ⟨rfl, rfl⟩ := ok_pair_inj h
      exact .pending hget hst hscript
    next hst =>
      obtain ⟨⟨s, n, ls⟩, hboot, h⟩ := bind_eq_ok.mp h
      obtain ⟨rfl, rfl⟩ := ok_pair_inj h
      exact .installing hget hst hboot
    next hpending hinstalling =>
      obtain ⟨rfl, rfl⟩ := ok_pair_inj h
      exact .other hget hpending hinstalling

theorem getBootScript_does {uuid : String} {req : BootRequest} {script : BootScript}
    (h : getBootScript env now db uuid req = .ok (script, db')) :
    EndpointStep now forced db db' := by
  cases getBootScript_case h with
  | unknown hget => exact .untouched rfl rfl rfl
  | registered hget hadd => exact .added ⟨rfl, rfl⟩ hadd
  | @pending node script hget hst hscript =>
      exact .saved (DB.mem_of_nodeByMac hget) (.kept (kept_touchBooted now node req))
  | @installing node node' script logs hget hst hboot =>
      exact .saved (DB.mem_of_nodeByMac hget)
        (bootInstalling_change (kept_touchBooted now node req) hst hboot)
  | @other node hget _ _ =>
      exact .saved (DB.mem_of_nodeByMac hget) (.kept (kept_touchBooted now node req))

/-- **THE LOOP RULE**: what each pass of the bulk loop keeps, the loop keeps; a pass moves one
node, or skips it. -/
theorem bulkLoop_rule {newState : NodeState} {P : List Node → DB → Prop}
    (hskip : ∀ node rest db, P (node :: rest) db → P rest db)
    (hmove : ∀ node rest db node' log, P (node :: rest) db →
      transition now node newState .bulkOperation none [] false = .ok (node', log) →
      P rest (db.save node' [log] [])) :
    ∀ (nodes : List Node) {db db' : DB} {acc acc' : BulkChangeStateResult}, P nodes db →
      bulkLoop now newState db acc nodes = .ok (acc', db') → P [] db'
  | [], db, db', acc, acc', hP, h => by
      obtain ⟨-, rfl⟩ := ok_pair_inj h
      exact hP
  | node :: rest, db, db', acc, acc', hP, h => by
      unfold bulkLoop at h
      split at h
      next node' log ht =>
        exact bulkLoop_rule hskip hmove rest (hmove node rest db node' log hP ht) h
      next =>
        split at h
        next => exact bulkLoop_rule hskip hmove rest (hskip node rest db hP) h
        next => cases h

end Endpoints

/-! ## §6. Audit rows and sessions. -/

section Writes

variable {now : Timestamp} {forced : Bool} {db db' : DB}

/-- Refreshing other fields first does not matter to the audit trail. -/
theorem Audited.of_touched {node node₁ node' : Node} {logs : List NodeStateLog}
    (h : Audited node₁ node' logs) (hk : Kept node node₁) : Audited node node' logs := by
  cases h with
  | same h => exact .same (h.trans hk.state)
  | moved log hlid hfrom hto hcan =>
      exact .moved log (hlid.trans hk.id) (hfrom.trans hk.state) hto (hk.state ▸ hcan)

/-- Nor does what is written to them afterwards. -/
theorem Audited.of_state {node node' node₂ : Node} {logs : List NodeStateLog}
    (h : Audited node node' logs) (hst : node₂.state = node'.state) : Audited node node₂ logs := by
  cases h with
  | same h => exact .same (hst.trans h)
  | moved log hlid hfrom hto hcan =>
      exact .moved log hlid hfrom (hto.trans hst.symm) (hst ▸ hcan)

/-- **WITHOUT FORCE** every change is audited. -/
theorem NodeChange.audited {node node' : Node} {logs : List NodeStateLog}
    (h : NodeChange now false node node' logs) :
    node'.id = node.id ∧ Audited node node' logs := by
  cases h with
  | kept hk => exact ⟨hk.id, .same hk.state⟩
  | @moved _ _ _ _ _ _ force _ hk ht hforce =>
      cases force with
      | true => cases hforce rfl
      | false =>
          obtain ⟨hid, haud⟩ := transition_audited ht
          exact ⟨hid.trans hk.id, haud.of_touched hk⟩
  | started hk ht =>
      -- the counter reset after the transition leaves id and state alone
      obtain ⟨hid, haud⟩ := transition_audited ht
      refine ⟨hid.trans hk.id, (haud.of_touched hk).of_state ?_⟩
      rfl
  | failed hk _ ht =>
      obtain ⟨hid, haud⟩ := handleInstallFailure_audited ht
      exact ⟨hid.trans hk.id, haud.of_touched hk⟩

/-- **WHAT A NODE ENDPOINT WRITES.** -/
theorem EndpointStep.write (h : EndpointStep now false db db') : Write db db' := by
  cases h with
  | untouched hnodes hlogs _ => exact .frame hnodes hlogs
  | added hfresh hadd => exact write_addNode hfresh.state hadd
  | saved hmem hchange =>
      obtain ⟨hid, haud⟩ := hchange.audited
      exact .saved _ _ _ hmem hid haud rfl rfl

/-- The node endpoints leave the sessions alone. -/
theorem EndpointStep.sessions (h : EndpointStep now forced db db') :
    db'.sessions = db.sessions := by
  cases h with
  | untouched _ _ hsessions => exact hsessions
  | added _ hadd => exact (DB.addNode_eq_ok hadd).2.2
  | saved _ _ => rfl

/-- **THE BULK LOOP KEEPS THE AUDIT TRAIL**: each pass is one audited write, and
it leaves the rows still to be visited where they were. -/
theorem bulkChangeState_auditInv {nodeIds : List String} {newState : NodeState}
    {res : BulkChangeStateResult} (hinv : AuditInv db)
    (h : bulkChangeState now db nodeIds newState = .ok (res, db')) : AuditInv db' := by
  unfold bulkChangeState at h
  refine (bulkLoop_rule (P := fun nodes d => AuditInv d ∧ (∀ n ∈ nodes, n ∈ d.nodes.rows)
    ∧ (nodes.map Node.id).Nodup) ?_ ?_ _ ⟨hinv, ?_, ?_⟩ h).1
  · rintro node rest d ⟨hinv, hmem, hnodup⟩
    rw [List.map_cons, List.nodup_cons] at hnodup
    exact ⟨hinv, fun n hn => hmem n (List.mem_cons_of_mem node hn), hnodup.2⟩
  · rintro node rest d node' log ⟨hinv, hmem, hnodup⟩ ht
    rw [List.map_cons, List.nodup_cons] at hnodup
    obtain ⟨hid, haud⟩ := transition_audited ht
    have hw : Write d (d.save node' [log] []) :=
      .saved node node' [log] (hmem node List.mem_cons_self) hid haud rfl rfl
    refine ⟨auditInv_write hinv hw, ?_, hnodup.2⟩
    -- the ids differ, so the rows to come are not the one just written
    intro x hx
    refine Table.mem_put_of_ne (hmem x (List.mem_cons_of_mem node hx)) ?_
    intro hxid
    exact hnodup.1 (List.mem_map.mpr ⟨x, hx, hxid.trans hid⟩)
  · exact fun n hn => List.mem_of_mem_filter hn
  · exact db.nodes.nodup.sublist (List.filter_sublist.map Node.id)

end Writes

end PureBoot.Lifecycle
