/-
  PureBoot.Web.DeployCallbacks — the CALLBACKS of a deployment, and who is told about them.

  `GET /boot` (through the GRUB it chains to) and `GET /boot/pi` give a pending node the URL
  under which it reports that its image is written.  Neither of them moves the node to
  `installing`, although the answer to a Pi says so, and the state machine knows no way from
  `pending` to `installed`: the callback accepts the report of a pending node and raises.
  Embeds `api/routes/boot_pi.py`; the callbacks are those of `Lifecycle.NodeApi`.

  Main results:
    * `nodeInstalledCallback_returns_iff`, `nodeInstallFailedCallback_returns_iff` — when a
      callback returns;
    * `deploy_callbacks_iff` — the runs in which every callback does what it is for.
-/
import PureBoot.Tftp.Paths
import PureBoot.Web.CloneBoot

namespace PureBoot.Web

open PureBoot.Lib PureBoot.Lifecycle

/-! ## §1. The boot endpoint of a Raspberry Pi (`boot_pi.py`). -/

/-- The settings the endpoint reads. -/
structure PiSettings where
  /-- The address in `get_server_url`. -/
  address : String
  /-- `get_primary_ip() if settings.host == "0.0.0.0" else settings.host`. -/
  nfsServer : String
  /-- `str(settings.nfs.root_path)`. -/
  nfsRootPath : String

/-- `PiBootResponse.action`. -/
inductive PiAction where
  | deployImage
  | nfsBoot
  | localBoot
  | wait
  deriving DecidableEq, Repr

/-- `PiBootResponse`. -/
structure PiBootResponse where
  state : String
  message : Option String := none
  action : Option PiAction := none
  imageUrl : Option String := none
  targetDevice : Option String := none
  callbackUrl : Option String := none
  nfsServer : Option String := none
  nfsPath : Option String := none
  deriving DecidableEq, Repr

/-- The URL under which a node reports that it is installed. -/
def callbackUrl (server nodeId : String) : String :=
  server ++ "/api/v1/nodes/" ++ nodeId ++ "/installed"

/-- `_get_workflow_response`; a workflow has no boot parameters left once its variables are
resolved, so the NFS values are those of the settings. -/
def getWorkflowResponse (pi : PiSettings) (node : Node) (w : Workflow) : PiBootResponse :=
  let callbackUrl := callbackUrl (serverUrl pi.address) node.id
  if w.installMethod = "image" then
    { state := "installing", message := some ("Deploying " ++ w.name),
      action := some .deployImage, imageUrl := some w.imageUrl,
      targetDevice := some w.targetDevice, callbackUrl := some callbackUrl }
  else if w.installMethod = "nfs" then
    { state := "installing", message := some ("NFS boot: " ++ w.name), action := some .nfsBoot,
      nfsServer := some pi.nfsServer, nfsPath := some pi.nfsRootPath,
      callbackUrl := some callbackUrl }
  else
    { state := "pending",
      message := some ("Workflow method '" ++ w.installMethod ++ "' not supported for Pi"),
      action := some .localBoot }

/-- The query parameters and the client address of `GET /boot/pi`. -/
structure PiBootRequest where
  serial : String
  mac : Option String := none
  mode : Option String := none
  clientHost : Option String := none
  /-- `min_length=8, max_length=8`. -/
  serialLength : serial.length = 8

/-- `select(Node).where(Node.serial_number == serial)`; serial numbers need not be unique. -/
def nodeBySerial (db : DB) (serial : String) : Except Exn (Option Node) :=
  scalarOneOrNone (db.nodes.rows.filter (fun n => n.serialNumber = some serial))

/-- `if mac: ...`: the address that is used, if it is well formed. -/
def checkPiMac (mac : Option String) : Except Exn (Option String) :=
  match mac with
  | none => .ok none
  | some mac =>
      if mac = "" then .ok (some mac)
      else if macPatternMatches mac then .ok (some (normalizeMac mac))
      else .error (.http 400 ("Invalid MAC address format: " ++ mac))

/-- Another node has this address: the database refuses it. -/
def macTaken (db : DB) (node : Option Node) (mac : String) : Bool :=
  db.nodes.rows.any (fun n => n.macAddress = mac && some n.id ≠ node.map Node.id)

/-- The fields that are refreshed; a placeholder address is replaced. -/
def touchPi (now : Timestamp) (node : Node) (mac clientHost : Option String) : Node :=
  { node with
    lastSeenAt := some now
    ipAddress := orKeep clientHost node.ipAddress
    macAddress :=
      if truthy mac ∧ (node.macAddress = "" ∨ "pi-".toList <+: node.macAddress.toList)
      then mac.getD "" else node.macAddress }

/-- The `pending` branch. -/
def piBootPending (pi : PiSettings) (load : String → WorkflowLoad) (node : Node) :
    Except Exn PiBootResponse :=
  if truthy node.workflowId then
    let workflowId := node.workflowId.getD ""
    match load workflowId with
    | .found w => .ok (getWorkflowResponse pi node (resolveVariables (serverUrl pi.address) node w))
    | .notFound =>
        .ok { state := "pending", message := some ("Workflow '" ++ workflowId ++ "' not found"),
              action := some .localBoot }
    | .raised e => .error e
  else
    .ok { state := "pending", message := some "Pending but no workflow assigned",
          action := some .localBoot }

/-- The answer to a known node. -/
def piBootKnown (pi : PiSettings) (load : String → WorkflowLoad) (node : Node) :
    Except Exn PiBootResponse :=
  match node.state with
  | .discovered =>
      .ok { state := "discovered", message := some "Awaiting workflow assignment" }
  | .pending => piBootPending pi load node
  | .installing =>
      .ok { state := "installing", message := some "Installation in progress",
            action := some .wait }
  | .installed | .active =>
      .ok { state := node.state.name, message := some "Boot from local storage",
            action := some .localBoot }
  | state =>
      .ok { state := state.name, message := some ("State: " ++ state.name),
            action := some .localBoot }

/-- `get_pi_boot_instructions`; the TFTP directory of a new node is made at best effort,
outside the database. -/
def getPiBootInstructions (u : Tftp.Unicode) (pi : PiSettings) (load : String → WorkflowLoad)
    (env : Env) (now : Timestamp) (db : DB) (uuid : String) (req : PiBootRequest) :
    Except Exn (PiBootResponse × DB) := do
  let serial := String.ofList (u.lower req.serial.toList)
  if Tftp.validateSerial u serial.toList = false then
    .error (.http 400 ("Invalid Pi serial number: " ++ serial
      ++ ". Must be 8 hexadecimal characters."))
  else do
    let mac ← checkPiMac req.mac
    match ← nodeBySerial db serial with
    | none =>
        if req.mode = some "discovery" ∨ env.autoRegister = true then
          let macAddress := if truthy mac then mac.getD "" else "pi-" ++ serial
          if macTaken db none macAddress then .error .integrityError
          else do
            let db' ← db.addNode
              { id := uuid, macAddress, serialNumber := some serial, ipAddress := req.clientHost,
                arch := "aarch64", bootMode := "pi", piModel := some "pi4",
                groupId := env.defaultGroupId }
            .ok ({ state := "discovered",
                   message := some "Node registered. Awaiting workflow assignment." }, db')
        else
          .ok ({ state := "unknown",
                 message := some "Node not registered. Auto-registration disabled.",
                 action := some .localBoot }, db)
    | some node =>
        let node₁ := touchPi now node mac req.clientHost
        if macTaken db (some node) node₁.macAddress then .error .integrityError
        else do
          let response ← piBootKnown pi load node₁
          .ok (response, db.save node₁ [] [])

/-- `PiRegisterRequest`, after its validators. -/
structure PiRegisterRequest where
  serial : String
  mac : String
  model : String := "pi4"
  ipAddress : Option String := none
  deriving DecidableEq, Repr

/-- `register_pi_node`.  A node that is known has its address, model and time of the last
sight written, which expires `updated_at`; only the tags are refreshed, so the answer cannot
be built and the session is rolled back. -/
def registerPiNode (env : Env) (db : DB) (uuid : String)
    (registration : PiRegisterRequest) (clientHost : Option String) :
    Except Exn (String × DB) := do
  let ip := orKeep registration.ipAddress clientHost
  match ← nodeBySerial db registration.serial with
  | some node =>
      if macTaken db (some node) registration.mac then .error .integrityError
      else .error .missingGreenlet
  | none =>
      if macTaken db none registration.mac then .error .integrityError
      else do
        let db' ← db.addNode
          { id := uuid, macAddress := registration.mac, serialNumber := some registration.serial,
            ipAddress := ip, arch := "aarch64", bootMode := "pi",
            piModel := some registration.model, groupId := env.defaultGroupId }
        .ok ("Pi node " ++ registration.serial ++ " registered", db')

/-! ## §2. Who is handed the URL. -/

/-- A line has the machine or its kernel use this URL. -/
def Line.names (url : String) : Line → Bool
  | .say _ => false
  | .fetch _ target rest =>
      decide (url.toList <:+: target.toList) || decide (url.toList <:+: rest.toList)

/-- The node that `GET /boot` hands its callback URL, by itself or through GRUB. -/
def bootHands (pi : PiSettings) (load : String → WorkflowLoad) (env : Env) (now : Timestamp)
    (db : DB) (uuid : String) (req : BootRequest) : Option String :=
  match db.nodeByMac (normalizeMac req.mac),
      answerBoot pi.address load env now db uuid req with
  | some node, .ok script =>
      let url := callbackUrl (serverUrl pi.address) node.id
      let db' := commitOrRollback db
        (getBootScript { env with getWorkflow := fun id => (load id).result } now db uuid req)
      let throughGrub := match answerGrub pi.address load db' req.mac with
        | .ok config => (defaultEntry config).any (Line.names url)
        | .error _ => false
      if script.any (Line.names url)
          || script.any (Line.chainsGrub (serverUrl pi.address)) && throughGrub
      then some node.id else none
  | _, _ => none

/-- The node that `GET /boot/pi` hands its callback URL. -/
def piBootHands (u : Tftp.Unicode) (pi : PiSettings) (load : String → WorkflowLoad) (env : Env)
    (now : Timestamp) (db : DB) (uuid : String) (req : PiBootRequest) : Option String :=
  match nodeBySerial db (String.ofList (u.lower req.serial.toList)),
      getPiBootInstructions u pi load env now db uuid req with
  | .ok (some node), .ok (response, _) =>
      if response.callbackUrl = some (callbackUrl (serverUrl pi.address) node.id)
      then some node.id else none
  | _, _ => none

/-! ## §3. Boots, reports and callbacks in any order. -/

/-- The requests. -/
inductive DeployOp where
  /-- Every operation of the lifecycle machine, `GET /boot` and the callbacks included. -/
  | request (r : Lifecycle.Request)
  | piBoot (now : Timestamp) (uuid : String) (req : PiBootRequest)
  | registerPi (uuid : String) (registration : PiRegisterRequest) (clientHost : Option String)

/-- The database, and the nodes that have been handed their callback URL and are still
pending or installing since. -/
structure Deploy where
  db : DB
  handed : List String

/-- A deployment of this node can be going on. -/
def deploying (db : DB) (nodeId : String) : Bool :=
  match db.nodes.get? nodeId with
  | some node => node.state = .pending || node.state = .installing
  | none => false

section Machine

variable (u : Tftp.Unicode) (pi : PiSettings) (load : String → WorkflowLoad) (env : Env)

/-- What a request stores. -/
def deployDb (db : DB) : DeployOp → DB
  | .request r => exec { env with getWorkflow := fun id => (load id).result } db r
  | .piBoot now uuid req =>
      commitOrRollback db (getPiBootInstructions u pi load env now db uuid req)
  | .registerPi uuid registration clientHost =>
      commitOrRollback db (registerPiNode env db uuid registration clientHost)

/-- The node that a request hands its callback URL. -/
def deployHands (db : DB) : DeployOp → Option String
  | .request ⟨now, .getBootScript uuid req⟩ => bootHands pi load env now db uuid req
  | .piBoot now uuid req => piBootHands u pi load env now db uuid req
  | _ => none

/-- One request. -/
def deployStep (s : Deploy) (op : DeployOp) : Deploy where
  db := deployDb u pi load env s.db op
  handed := ((deployHands u pi load env s.db op).toList ++ s.handed).filter
    (deploying (deployDb u pi load env s.db op))

/-- `bool(body.get("success", True))`. -/
def reportsSuccess (success : Option JsonValue) : Bool := (success.getD (.bool true)).truthy

/-- **WHAT A CALLBACK IS FOR**: it returns for every node there is, and a successful one of a
node that has been handed the URL leaves the node installed. -/
def CallbackLaw (s : Deploy) : DeployOp → Prop
  | .request ⟨now, .nodeInstalledCallback nodeId success clientHost⟩ =>
      s.db.nodes.get? nodeId ≠ none →
        (∃ r, nodeInstalledCallback now s.db nodeId success clientHost = .ok r) ∧
        (reportsSuccess success = true → nodeId ∈ s.handed →
          ∃ node, (deployDb u pi load env s.db
              (.request ⟨now, .nodeInstalledCallback nodeId success clientHost⟩)).nodes.get? nodeId
            = some node ∧ node.state = .installed)
  | .request ⟨now, .nodeInstallFailedCallback nodeId error⟩ =>
      s.db.nodes.get? nodeId ≠ none →
        ∃ r, nodeInstallFailedCallback now s.db nodeId error = .ok r
  | _ => True

end Machine

/-- The error reported of a node can be stored, if it is, and is not the third of a pending
node. -/
def failureMeets (node : Node) (error : Option JsonValue) : Bool :=
  (node.state ≠ .pending || node.installAttempts + 1 < maxInstallAttempts)
    && ((node.state ≠ .pending && node.state ≠ .installing)
      || (error.getD (.str "Unknown error")).binds)

/-- No success is reported for a pending node, no failure that would be its third, and of a
node with a deployment going on no error that the driver does not take. -/
def callbackMeets (db : DB) : DeployOp → Bool
  | .request ⟨_, .nodeInstalledCallback nodeId success _⟩ =>
      match db.nodes.get? nodeId with
      | some node => !reportsSuccess success || node.state ≠ .pending
      | none => true
  | .request ⟨_, .nodeInstallFailedCallback nodeId error⟩ =>
      match db.nodes.get? nodeId with
      | some node => failureMeets node error
      | none => true
  | _ => true

/-! ## §4. When a callback returns. -/

section Callbacks

variable {now : Timestamp} {db : DB} {nodeId : String} {node : Node}

/-- A pending node cannot be marked installed. -/
theorem transition_pending_installed {tb : TriggeredBy} (hst : node.state = .pending) :
    transition now node .installed tb none [] false
      = .error (.invalidStateTransition .pending .installed) := by
  unfold transition
  rw [hst]
  rfl

/-- One that is being installed can. -/
theorem transition_installing_installed {tb : TriggeredBy} (hst : node.state = .installing) :
    ∃ r, transition now node .installed tb none [] false = .ok r := by
  unfold transition
  rw [hst]
  exact ⟨_, rfl⟩

/-- **THE SUCCESS CALLBACK** of a node that is there. -/
theorem nodeInstalledCallback_returns_iff {success : Option JsonValue}
    {clientHost : Option String} (hget : db.nodes.get? nodeId = some node) :
    (∃ r, nodeInstalledCallback now db nodeId success clientHost = .ok r)
      ↔ (!reportsSuccess success || node.state ≠ .pending) = true := by
  unfold nodeInstalledCallback
  rw [hget]
  show (∃ r, (if reportsSuccess success = true ∧ _ then _ else _) = Except.ok r) ↔ _
  by_cases hs : reportsSuccess success = true
  · by_cases hp : node.state = .pending
    · simp [hs, hp, transition_pending_installed hp, bind, Except.bind]
    · by_cases hi : node.state = .installing
      · obtain ⟨r, hr⟩ : ∃ r, transition now node .installed .deployCallback none [] false = .ok r :=
          transition_installing_installed hi
        simp [hs, hi, hr, bind, Except.bind]
      · simp [hs, hp, hi]
  · simp [hs]

/-- **THE FAILURE CALLBACK** of a node that is there. -/
theorem nodeInstallFailedCallback_returns_iff {error : Option JsonValue}
    (hget : db.nodes.get? nodeId = some node) :
    (∃ r, nodeInstallFailedCallback now db nodeId error = .ok r)
      ↔ failureMeets node error = true := by
  unfold nodeInstallFailedCallback failureMeets
  rw [hget]
  dsimp only
  generalize error.getD (.str "Unknown error") = error
  by_cases hp : node.state = .pending
  · unfold handleInstallFailure transition
    by_cases hmax : maxInstallAttempts ≤ node.installAttempts + 1
    · have hlt : ¬ node.installAttempts + 1 < maxInstallAttempts := by omega
      simp [hp, hmax, hlt, bind, Except.bind, canTransition, NodeState.transitions]
    · have hlt : node.installAttempts + 1 < maxInstallAttempts := by omega
      cases error.binds <;> simp [hp, hmax, hlt, bind, Except.bind]
  · by_cases hi : node.state = .installing
    · obtain ⟨r, hr⟩ : ∃ r, handleInstallFailure now node error = .ok r :=
        handleInstallFailure_installing hi
      cases error.binds <;> simp [hi, hr, bind, Except.bind]
    · simp [hp, hi]

/-- A success that is reported while the node is being installed leaves it installed. -/
theorem nodeInstalledCallback_installed {success : Option JsonValue}
    {clientHost : Option String} {a : String} {db' : DB}
    (hget : db.nodes.get? nodeId = some node) (hst : node.state = .installing)
    (hs : reportsSuccess success = true)
    (h : nodeInstalledCallback now db nodeId success clientHost = .ok (a, db')) :
    ∃ node', db'.nodes.get? nodeId = some node' ∧ node'.state = .installed := by
  obtain ⟨hmem, hkey⟩ := Table.get?_eq_some_iff.mp hget
  unfold nodeInstalledCallback at h
  rw [hget] at h
  dsimp only at h
  rw [if_pos ⟨hs, .inr hst⟩] at h
  obtain ⟨⟨node', log⟩, ht, h⟩ := bind_eq_ok.mp h
  obtain ⟨-, rfl⟩ := ok_pair_inj h
  obtain ⟨hid, hinstalled, -⟩ := transition_ok ht
  refine ⟨node', Table.get?_eq_some_iff.mpr ⟨?_, hid.trans hkey⟩, hinstalled⟩
  exact Table.mem_put_self hmem hid.symm

end Callbacks

/-! ## §5. The law and its condition. -/

section Law

variable {u : Tftp.Unicode} {pi : PiSettings} {load : String → WorkflowLoad} {env : Env}
  {s : Deploy}

/-- Only nodes with a deployment going on are kept. -/
def HandedInv (s : Deploy) : Prop := ∀ nodeId ∈ s.handed, deploying s.db nodeId = true

theorem handedInv_step (op : DeployOp) : HandedInv (deployStep u pi load env s op) := by
  intro nodeId hmem
  exact (List.mem_filter.mp hmem).2

/-- **THE SUCCESS CALLBACK** does what it is for, if the node is not pending. -/
theorem callbackLaw_installed_iff {now : Timestamp} {nodeId : String}
    {success : Option JsonValue} {clientHost : Option String} (hinv : HandedInv s) :
    CallbackLaw u pi load env s (.request ⟨now, .nodeInstalledCallback nodeId success clientHost⟩)
      ↔ callbackMeets s.db (.request ⟨now, .nodeInstalledCallback nodeId success clientHost⟩)
        = true := by
  unfold CallbackLaw callbackMeets
  dsimp only
  cases hget : s.db.nodes.get? nodeId with
  | none => simp
  | some node =>
      have hiff : (∃ r, nodeInstalledCallback now s.db nodeId success clientHost = .ok r)
          ↔ (!reportsSuccess success || node.state ≠ .pending) = true :=
        nodeInstalledCallback_returns_iff hget
      rw [← hiff]
      simp only [ne_eq, reduceCtorEq, not_false_eq_true, true_implies]
      refine ⟨fun h => h.1, fun h => ⟨h, fun hs hhanded => ?_⟩⟩
      -- a node with a deployment going on that is not pending is being installed
      have hst : node.state = .installing := by
        have hdep := hinv nodeId hhanded
        unfold deploying at hdep
        rw [hget] at hdep
        have hnot := hiff.mp h
        simp only [hs, Bool.not_true, Bool.false_or, decide_eq_true_eq] at hnot
        simpa [hnot] using hdep
      obtain ⟨⟨a, db'⟩, hok⟩ := h
      have hdb : deployDb u pi load env s.db
          (.request ⟨now, .nodeInstalledCallback nodeId success clientHost⟩) = db' := by
        show commitOrRollback s.db (nodeInstalledCallback now s.db nodeId success clientHost) = db'
        rw [hok, commitOrRollback_ok]
      rw [hdb]
      exact nodeInstalledCallback_installed hget hst hs hok

/-- **THE FAILURE CALLBACK** does, if the node is not pending or has a try left, and its error
can be stored. -/
theorem callbackLaw_failed_iff {now : Timestamp} {nodeId : String}
    {error : Option JsonValue} :
    CallbackLaw u pi load env s (.request ⟨now, .nodeInstallFailedCallback nodeId error⟩)
      ↔ callbackMeets s.db (.request ⟨now, .nodeInstallFailedCallback nodeId error⟩) = true := by
  unfold CallbackLaw callbackMeets
  dsimp only
  cases hget : s.db.nodes.get? nodeId with
  | none => simp
  | some node =>
      have hiff : (∃ r, nodeInstallFailedCallback now s.db nodeId error = .ok r)
          ↔ failureMeets node error = true := nodeInstallFailedCallback_returns_iff hget
      rw [← hiff]
      simp

theorem callbackLaw_iff (hinv : HandedInv s) (op : DeployOp) :
    CallbackLaw u pi load env s op ↔ callbackMeets s.db op = true := by
  cases op with
  | piBoot => exact iff_of_true trivial rfl
  | registerPi => exact iff_of_true trivial rfl
  | request r =>
      obtain ⟨now, op⟩ := r
      cases op with
      | nodeInstalledCallback nodeId success clientHost => exact callbackLaw_installed_iff hinv
      | nodeInstallFailedCallback nodeId error => exact callbackLaw_failed_iff
      | _ => exact iff_of_true trivial rfl

end Law

/-- **DEPLOY CALLBACKS SUCCEED EXACTLY IF** no success is reported for a node that is
pending, no failure for a pending node that has used up its tries, and none with an error
that cannot be stored for one with a deployment going on: over every run of boots, reports
and callbacks from an empty database. -/
theorem deploy_callbacks_iff (u : Tftp.Unicode) (pi : PiSettings) (load : String → WorkflowLoad)
    (env : Env) (ops : List DeployOp) :
    Along (deployStep u pi load env) (CallbackLaw u pi load env) ⟨DB.empty, []⟩ ops
      ↔ Along (deployStep u pi load env) (fun s op => callbackMeets s.db op = true)
          ⟨DB.empty, []⟩ ops := by
  have hempty : HandedInv ⟨DB.empty, []⟩ := by
    intro nodeId hmem
    cases hmem
  exact along_iff_of_step (fun s op _ _ => handedInv_step op)
    (fun s op hinv => callbackLaw_iff hinv op) hempty

/-- An image for the card of a Pi. -/
def cardWorkflow : Workflow where
  id := "card"
  name := "Card"
  installMethod := "image"
  imageUrl := "i"

def piSettings : PiSettings where
  address := "s"
  nfsServer := "s"
  nfsRootPath := "/srv/nfsroot"

def piSerial : String := "d83add36"

theorem piSerial_length : piSerial.length = 8 := rfl

/-- A Pi is registered, gets a workflow and is sent to install; then it asks what to do. -/
def piDeployment : List DeployOp :=
  [.request ⟨⟨0, true⟩, .createNode "n"
     { macAddress := "m", serialNumber := some piSerial, bootMode := "pi" }⟩,
   .request ⟨⟨1, true⟩, .updateNode "n" { workflowId := some (some "card") }⟩,
   .request ⟨⟨2, true⟩, .transitionNodeState "n" .pending none false⟩,
   .piBoot ⟨3, true⟩ "u" { serial := piSerial, serialLength := piSerial_length }]

/-- **THE CALLBACK THAT WAS JUST HANDED OUT RAISES**: the Pi has its URL, is still pending,
and its report of a success is refused. -/
theorem pi_success_raises :
    (run (deployStep Tftp.asciiCase piSettings (fun _ => .found cardWorkflow) bootEnv)
      ⟨DB.empty, []⟩ piDeployment).handed = ["n"] ∧
    ¬ Along (deployStep Tftp.asciiCase piSettings (fun _ => .found cardWorkflow) bootEnv)
        (CallbackLaw Tftp.asciiCase piSettings (fun _ => .found cardWorkflow) bootEnv)
        ⟨DB.empty, []⟩ (piDeployment
          ++ [.request ⟨⟨4, true⟩, .nodeInstalledCallback "n" none none⟩]) := by
  refine ⟨by decide +kernel, ?_⟩
  rintro ⟨-, -, -, -, hlaw, -⟩
  have hmeets := (callbackLaw_iff (handedInv_step _) _).mp hlaw
  exact absurd hmeets (by decide +kernel)

end PureBoot.Web
