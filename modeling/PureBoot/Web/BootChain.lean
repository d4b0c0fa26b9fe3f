/-
  PureBoot.Web.BootChain — what a BOOTING MACHINE is told to fetch.

  Embeds the answers of `GET /boot` and `GET /grub` (`get_boot_script`, `get_grub_config`
  of `api/routes/boot.py`).  Neither the firmware nor the deploy environment holds a
  token, so every URL of this server in them should be public.  The boot files are served
  under `/api/v1/files`, and the callbacks of the deploy environment are under
  `/api/v1/nodes`; the gate lists neither.

  Main results:
    * `getBootScript_pending` — what is decided about a pending node;
    * `boot_chain_iff` — the answers whose URLs are all public.
-/
import PureBoot.Web.Scripts

namespace PureBoot.Web

open PureBoot.Lib PureBoot.Lifecycle

/-! ## §1. The answers of `GET /boot` and `GET /grub`. -/

def WorkflowLoad.result : WorkflowLoad → WorkflowResult
  | .found _ => .found
  | .notFound => .notFound
  | .raised e => .raised e

/-- The script for what `get_boot_script` has decided about the node. -/
def kindScript (server : String) (load : String → WorkflowLoad) (node : Node) :
    BootScript → Script
  | .localBoot => generateLocalBootScript
  | .pendingNoWorkflow _ => generatePendingNoWorkflowScript server node
  | .install _ workflowId =>
      -- decided only if the workflow was found
      match load workflowId with
      | .found w => generateInstallScript server node (resolveVariables server node w)
      | _ => generateLocalBootScript
  | .workflowError _ text => generateWorkflowErrorScript node text
  | .installRetry _ => generateInstallRetryScript node

/-- The answer to `GET /boot`; the node is the one that was just saved. -/
def answerBoot (address : String) (load : String → WorkflowLoad) (env : Env) (now : Timestamp)
    (db : DB) (uuid : String) (req : BootRequest) : Except Exn Script := do
  let mac ← validateMac req.mac
  let (kind, db') ← getBootScript { env with getWorkflow := fun id => (load id).result } now db
    uuid req
  match db'.nodeByMac mac with
  | some node => .ok (kindScript (serverUrl address) load node kind)
  | none => .ok generateLocalBootScript

/-- The answer to `GET /grub` (`get_grub_config`). -/
def answerGrub (address : String) (load : String → WorkflowLoad) (db : DB) (mac : String) :
    Except Exn Script := do
  let mac ← validateMac mac
  match db.nodeByMac mac with
  | none => .ok grubLocal
  | some node =>
      if truthy node.workflowId then
        let workflowId := node.workflowId.getD ""
        match load workflowId with
        | .found w =>
            .ok (grubInstall (serverUrl address) node
              (resolveVariables (serverUrl address) node w))
        | .notFound => .ok (grubError workflowId)
        | .raised e => .error e
      else .ok (grubPending (serverUrl address) node)

/-- A request of a booting machine. -/
inductive BootCall where
  /-- `GET /boot`; `uuid` is the key of a node that is registered by it. -/
  | boot (uuid : String) (req : BootRequest)
  | grub (mac : String)

def answer (address : String) (load : String → WorkflowLoad) (env : Env) (now : Timestamp)
    (db : DB) : BootCall → Except Exn Script
  | .boot uuid req => answerBoot address load env now db uuid req
  | .grub mac => answerGrub address load db mac

/-! ## §2. When everything is public. -/

section Reachable

variable {address : String} (m : Machine (serverUrl address)) (load : String → WorkflowLoad)

/-- What the workflow assigned to a node says, if there is one. -/
def workflowReachable (node : Node) (check : Machine (serverUrl address) → Workflow → Bool) :
    Bool :=
  if truthy node.workflowId then
    match load (node.workflowId.getD "") with
    | .found w => check m (resolveVariables (serverUrl address) node w)
    | _ => true
  else false

/-- The machine is told about public URLs of this server only. -/
def reachable (now : Timestamp) (db : DB) : BootCall → Bool
  | .boot _ req =>
      match db.nodeByMac (normalizeMac req.mac) with
      | none => true
      | some node =>
          if node.state = .pending then
            workflowReachable m load (touchBooted now node req) installReachable
          else true
  | .grub mac =>
      match db.nodeByMac (normalizeMac mac) with
      | none => true
      | some node => workflowReachable m load node grubReachable

end Reachable

/-! ## §3. What the answers fetch. -/

/-- The scripts that fetch nothing. -/
def fetchesNothing : BootScript → Bool
  | .localBoot | .workflowError _ _ | .installRetry _ => true
  | .pendingNoWorkflow _ | .install _ _ => false

theorem publicOnly_of_fetchesNothing {server : String} (m : Machine server)
    {load : String → WorkflowLoad} {node : Node} {kind : BootScript}
    (h : fetchesNothing kind = true) :
    publicOnly m (kindScript server load node kind) = true := by
  cases kind with
  | localBoot => exact publicOnly_sayAll m _
  | workflowError => exact publicOnly_sayAll m _
  | installRetry => exact publicOnly_sayAll m _
  | pendingNoWorkflow => cases h
  | install => cases h

section Requests

variable {env : Env} {now : Timestamp} {db db' : DB} {uuid : String} {req : BootRequest}
  {node : Node} {kind : BootScript}

/-- A node that is being installed boots from its disk, whether it has run out of time or
not. -/
theorem bootInstalling_fetchesNothing {node' : Node} {logs : List NodeStateLog}
    (h : bootInstalling env now node = .ok (kind, node', logs)) : fetchesNothing kind = true := by
  obtain ⟨rfl, -⟩ | ⟨-, ⟨text, rfl⟩ | rfl⟩ := bootInstalling_cases h
  · rfl
  · rfl
  · rfl

/-- **WHAT `GET /boot` DECIDES ABOUT A PENDING NODE**, and that the node is saved. -/
theorem getBootScript_pending (hnode : db.nodeByMac (normalizeMac req.mac) = some node)
    (hpending : node.state = .pending)
    (h : getBootScript env now db uuid req = .ok (kind, db')) :
    bootPending env (touchBooted now node req) = .ok kind ∧
      db'.nodeByMac (normalizeMac req.mac) = some (touchBooted now node req) := by
  -- it is the node that is found
  have hfound : ∀ {n}, db.nodeByMac (normalizeMac req.mac) = some n → n = node :=
    fun hn => Option.some.inj (hn.symm.trans hnode)
  cases getBootScript_case h with
  | unknown hnone => cases hnode.symm.trans hnone
  | registered hnone _ => cases hnode.symm.trans hnone
  | pending hn _ hscript =>
      obtain rfl := hfound hn
      exact ⟨hscript, DB.nodeByMac_save hnode rfl rfl⟩
  | installing hn hst _ =>
      obtain rfl := hfound hn
      cases hst.symm.trans hpending
  | other hn hst _ =>
      obtain rfl := hfound hn
      exact absurd hpending hst

/-- Nothing is fetched by a machine whose node is unknown or not pending. -/
theorem getBootScript_fetchesNothing
    (hother : ∀ node, db.nodeByMac (normalizeMac req.mac) = some node → node.state ≠ .pending)
    (h : getBootScript env now db uuid req = .ok (kind, db')) : fetchesNothing kind = true := by
  cases getBootScript_case h with
  | unknown _ => rfl
  | registered _ _ => rfl
  | pending hn hst _ => exact absurd hst (hother _ hn)
  | installing _ _ hboot => exact bootInstalling_fetchesNothing hboot
  | other _ _ _ => rfl

end Requests

section Answers

variable {address : String} (m : Machine (serverUrl address)) {load : String → WorkflowLoad}
  {env : Env} {now : Timestamp} {db : DB} {script : Script}

/-- The script of a pending node. -/
theorem publicOnly_bootPending {node : Node} {kind : BootScript}
    (h : bootPending { env with getWorkflow := fun id => (load id).result } node = .ok kind) :
    publicOnly m (kindScript (serverUrl address) load node kind)
      = workflowReachable m load node installReachable := by
  unfold bootPending at h
  unfold workflowReachable
  cases hworkflow : node.workflowId with
  | none =>
      rw [hworkflow] at h
      cases h
      exact publicOnly_pending m node
  | some id =>
      rw [hworkflow] at h
      dsimp only at h
      -- an empty workflow id is falsy, as none is
      by_cases hid : id = ""
      · rw [if_pos hid] at h
        cases h
        rw [hid]
        exact publicOnly_pending m node
      · rw [if_neg hid] at h
        have htruthy : truthy (some id) = true := by simp [truthy, hid]
        rw [if_pos htruthy]
        show _ = (match load id with
          | .found w => installReachable m (resolveVariables (serverUrl address) node w)
          | _ => true)
        cases hload : load id with
        | found w =>
            rw [hload] at h
            cases h
            show publicOnly m (match load id with | .found w => _ | _ => _) = _
            rw [hload]
            exact publicOnly_generateInstallScript m node _
        -- the script only says that there is no such workflow
        | notFound =>
            rw [hload] at h
            cases h
            exact publicOnly_sayAll m _
        | raised e =>
            rw [hload] at h
            cases h

theorem publicOnly_answerBoot {uuid : String} {req : BootRequest}
    (h : answerBoot address load env now db uuid req = .ok script) :
    publicOnly m script = reachable m load now db (.boot uuid req) := by
  unfold answerBoot at h
  obtain ⟨mac, hmac, h⟩ := bind_eq_ok.mp h
  obtain ⟨⟨kind, db'⟩, hkind, h⟩ := bind_eq_ok.mp h
  have hmac' := validateMac_eq_ok hmac
  subst hmac'
  -- whichever node is found afterwards
  have hnothing : fetchesNothing kind = true → publicOnly m script = true := by
    intro hnothing
    dsimp only at h
    split at h
    next =>
      cases h
      exact publicOnly_of_fetchesNothing m hnothing
    next =>
      cases h
      exact publicOnly_sayAll m _
  unfold reachable
  dsimp only
  cases hnode : db.nodeByMac (normalizeMac req.mac) with
  | none =>
      refine hnothing (getBootScript_fetchesNothing ?_ hkind)
      intro node hsome
      rw [hnode] at hsome
      cases hsome
  | some node =>
      dsimp only
      by_cases hpending : node.state = .pending
      · obtain ⟨hboot, hsaved⟩ := getBootScript_pending hnode hpending hkind
        dsimp only at h
        rw [hsaved] at h
        cases h
        rw [if_pos hpending]
        exact publicOnly_bootPending m hboot
      · rw [if_neg hpending]
        refine hnothing (getBootScript_fetchesNothing ?_ hkind)
        intro node' hsome
        rw [hnode] at hsome
        cases hsome
        exact hpending

theorem publicOnly_answerGrub {mac : String} (now : Timestamp)
    (h : answerGrub address load db mac = .ok script) :
    publicOnly m script = reachable m load now db (.grub mac) := by
  unfold answerGrub at h
  obtain ⟨mac', hmac, h⟩ := bind_eq_ok.mp h
  rw [validateMac_eq_ok hmac] at h
  unfold reachable workflowReachable
  dsimp only
  cases hnode : db.nodeByMac (normalizeMac mac) with
  | none =>
      rw [hnode] at h
      cases h
      unfold grubLocal grubLocalEntry
      simp only [publicOnly_append, publicOnly_sayAll, Bool.and_self]
  | some node =>
      rw [hnode] at h
      dsimp only at h ⊢
      by_cases hworkflow : truthy node.workflowId = true
      · rw [if_pos hworkflow] at h ⊢
        cases hload : load (node.workflowId.getD "") with
        | found w =>
            rw [hload] at h
            cases h
            exact publicOnly_grubInstall m node _
        | notFound =>
            rw [hload] at h
            cases h
            exact publicOnly_sayAll m _
        | raised e =>
            rw [hload] at h
            cases h
      · rw [if_neg hworkflow] at h ⊢
        cases h
        exact publicOnly_grubPending m node

end Answers

/-- What a URL or a path asks this server for. -/
def fetchPath (server url : List Char) : Option (List Char) :=
  if server <+: url then
    match url.drop server.length with
    | '/' :: rest => some (unquote (cutQuery ('/' :: rest)))
    -- nothing, a query or a fragment right after the address
    | [] | '?' :: _ | '#' :: _ => some ['/']
    | _ => none
  else
    match url with
    | '/' :: '/' :: _ => none
    | '/' :: rest => some (unquote (cutQuery ('/' :: rest)))
    | _ => none

/-- A machine that knows absolute URLs and absolute paths. -/
def firmware : Machine (serverUrl "10.0.0.1:8080") where
  host := ⟨"10.0.0.1:8080".toList, by decide⟩
  resolve := fetchPath (serverUrl "10.0.0.1:8080").toList
  plain := by decide
  own := by
    intro rest _
    unfold fetchPath
    rw [if_pos (List.prefix_append _ _), List.drop_left]
    rfl

/-- A pending node with this workflow. -/
def pendingNode (workflowId : Option String) : Node where
  id := "n"
  macAddress := "00:11:22:33:44:55"
  state := .pending
  workflowId := workflowId

def pendingDb (workflowId : Option String) : DB :=
  { DB.empty with nodes := ⟨[pendingNode workflowId], List.nodup_singleton _⟩ }

/-- An installation from a mirror. -/
def mirrorWorkflow : Workflow where
  id := "iso"
  name := "ISO"
  installMethod := "sanboot"
  bootUrl := "http://mirror/$\x7bmac\x7d.iso"

def bootRequest : BootRequest where
  mac := "00-11-22-33-44-55"

def bootEnv : Env where
  readback := fun t => t
  getWorkflow := fun _ => .notFound

theorem normalizeMac_bootRequest : normalizeMac bootRequest.mac = "00:11:22:33:44:55" := by
  rw [← String.toList_inj]
  unfold normalizeMac
  rw [String.toList_map]
  decide

theorem validateMac_bootRequest : validateMac bootRequest.mac = .ok "00:11:22:33:44:55" := by
  unfold validateMac
  rw [if_pos (by decide), normalizeMac_bootRequest]

/-- The script for a pending node. -/
theorem answer_bootRequest {load : String → WorkflowLoad} {workflowId : Option String}
    {kind : BootScript}
    (h : bootPending { bootEnv with getWorkflow := fun id => (load id).result }
      (touchBooted ⟨0, true⟩ (pendingNode workflowId) bootRequest) = .ok kind) :
    answer "10.0.0.1:8080" load bootEnv ⟨0, true⟩ (pendingDb workflowId) (.boot "u" bootRequest)
      = .ok (kindScript (serverUrl "10.0.0.1:8080") load
          (touchBooted ⟨0, true⟩ (pendingNode workflowId) bootRequest) kind) := by
  have hkind : getBootScript { bootEnv with getWorkflow := fun id => (load id).result } ⟨0, true⟩
      (pendingDb workflowId) "u" bootRequest = .ok (kind, (pendingDb workflowId).save
        (touchBooted ⟨0, true⟩ (pendingNode workflowId) bootRequest) [] []) := by
    unfold getBootScript
    rw [validateMac_bootRequest]
    show (bootPending _ _ >>= fun script => _) = _
    rw [h]
    rfl
  show answerBoot _ _ _ _ _ _ _ = _
  unfold answerBoot
  rw [validateMac_bootRequest, hkind]
  rfl

end PureBoot.Web
