/-
  PureBoot.Web.CloneBoot — the hand-off of a CLONE BOOT from the clone endpoints to the
  boot endpoints.

  `start_clone_session` and a direct `clone_source_ready` put the instruction for the next
  boot in the node's `workflow_id`: `clone-source:<session>:<device>` and
  `clone-target:<session>:<device>:<ip>:<port>`.  The boot endpoints do not take it apart:
  they pass the text to the workflow service as the id of a workflow, and boot what the
  store has under that id.  The deploy environment reads its orders from the kernel's
  command line (`parse_cmdline` of `deploy/scripts/pureboot-common.sh`).

  Main results:
    * `handsOver_iff` — what a node that was prepared is booted into;
    * `clone_boot_handoff_iff` — the workflow stores with which the hand-off works.
-/
import PureBoot.Lifecycle.AuditChain
import PureBoot.Web.GrubBoot

namespace PureBoot.Web

open PureBoot.Lib PureBoot.Lifecycle

/-! ## §1. The command line of the deploy environment. -/

def isBlank (c : Char) : Bool := c = ' ' || c = '\t' || c = '\n'

/-- The words of a command line that are for the deploy environment. -/
def orders (cmdline : String) : List (List Char) :=
  (cmdline.toList.splitOnP isBlank).filter (fun word => "pureboot.".toList.isPrefixOf word)

/-- `parse_cmdline`: the value of a parameter, where the last word that gives one wins. -/
def param (key : String) (words : List (List Char)) : Option (List Char) :=
  ((words.filter (fun word => key.toList.isPrefixOf word)).getLast?).map
    (fun word => word.drop key.toList.length)

/-- A clone-source boot for this session and device. -/
def isCloneSource (sessionId device : String) (words : List (List Char)) : Bool :=
  (param "pureboot.mode=" words = some "clone_source".toList
    || param "pureboot.mode=" words = some "clone_source_direct".toList
    || param "pureboot.mode=" words = some "clone_source_staged".toList)
  && param "pureboot.session_id=" words = some sessionId.toList
  && (param "pureboot.device=" words = some device.toList
    || param "pureboot.source_device=" words = some device.toList)

/-- A clone-target boot for this session and device, from this address. -/
def isCloneTarget (sessionId device ip : String) (port : Int) (words : List (List Char)) : Bool :=
  (param "pureboot.mode=" words = some "clone_target".toList
    || param "pureboot.mode=" words = some "clone_target_direct".toList
    || param "pureboot.mode=" words = some "clone_target_staged".toList)
  && param "pureboot.session_id=" words = some sessionId.toList
  && (param "pureboot.device=" words = some device.toList
    || param "pureboot.target=" words = some device.toList)
  && param "pureboot.target_ip=" words = some ip.toList
  && param "pureboot.target_port=" words = some (toString port).toList

/-! ## §2. The hand-off. -/

/-- A line that loads a kernel with such a command line. -/
def Line.boots (p : List (List Char) → Bool) : Line → Bool
  | .say _ => false
  | .fetch command _ rest => (command = "kernel" || command = "    linux") && p (orders rest)

/-- A line that goes on with GRUB, which asks `GET /grub`. -/
def Line.chainsGrub (server : String) : Line → Bool
  | .say _ => false
  | .fetch command url _ => command = "chain" && url = grubEfi server

/-- **THE NEXT BOOT**: the script of `GET /boot`, or the configuration of the GRUB it chains
to, loads a kernel with such a command line. -/
def HandsOver (p : List (List Char) → Bool) (address : String) (load : String → WorkflowLoad) (env : Env)
    (now : Timestamp) (db : DB) (uuid : String) (req : BootRequest) : Prop :=
  ∃ script, answerBoot address load env now db uuid req = .ok script ∧
    (script.any (Line.boots p) = true ∨
      script.any (Line.chainsGrub (serverUrl address)) = true ∧
        ∃ config, answerGrub address load
            (commitOrRollback db (getBootScript
              { env with getWorkflow := fun id => (load id).result } now db uuid req)) req.mac
            = .ok config ∧
          (defaultEntry config).any (Line.boots p) = true)

/-- The command line that the workflow of a pending node is booted with, if it loads a
kernel through this server. -/
def bootCmdline (server : String) (node : Node) (w : Workflow) : Option String :=
  if w.installMethod = "sanboot" then none
  else if w.installMethod = "chain" then
    if w.bootUrl = grubEfi server then some w.cmdline else none
  else if w.installMethod = "image" then
    if w.imageUrl = "" then none else some (imageCmdline server node w)
  else if w.installMethod = "clone" then some (cloneCmdline server node w)
  else some w.cmdline

/-- The store has a workflow under this very id, and its command line is such a one. -/
def storeSpells (p : List (List Char) → Bool) (address : String) (load : String → WorkflowLoad)
    (node : Node) (workflowId : String) : Bool :=
  match load workflowId with
  | .found w =>
      (bootCmdline (serverUrl address) node (resolveVariables (serverUrl address) node w)).any
        (fun cmdline => p (orders cmdline))
  | _ => false

/-- The ids that the clone endpoints write. -/
def cloneSourceId (session : CloneSession) : String :=
  "clone-source:" ++ session.id ++ ":" ++ session.sourceDevice

def cloneTargetId (session : CloneSession) (request : CloneSourceReady) : String :=
  "clone-target:" ++ session.id ++ ":" ++ session.targetDevice ++ ":"
    ++ (request.ip ++ ":" ++ toString request.port)

/-! ## §3. What a script boots. -/

theorem orders_append (a b : String) : orders (a ++ " " ++ b) = orders a ++ orders b := by
  unfold orders
  have hblank : isBlank ' ' = true := rfl
  rw [String.toList_append, String.toList_append, List.append_assoc]
  show ((a.toList ++ ' ' :: b.toList).splitOnP isBlank).filter _ = _
  rw [List.splitOnP_append_cons _ _ hblank, List.filter_append]

theorem orders_blank (cmdline : String) : orders (" " ++ cmdline) = orders cmdline := by
  have h := orders_append "" cmdline
  rw [String.empty_append] at h
  rw [h]
  rfl

/-- Where a failing command goes on is no order. -/
theorem orders_goto (cmdline : String) {rest words : String} (hrest : rest = " " ++ words)
    (h : orders words = []) : orders (" " ++ cmdline ++ rest) = orders cmdline := by
  rw [hrest, ← String.append_assoc, orders_append, h, List.append_nil, orders_blank]

section Scripts

variable (p : List (List Char) → Bool) (server : String) (node : Node) (w : Workflow)

@[simp] theorem any_boots_sayAll (lines : List String) :
    (sayAll lines).any (Line.boots p) = false := by
  induction lines with
  | nil => rfl
  | cons text lines ih => exact ih

@[simp] theorem any_chainsGrub_sayAll (lines : List String) :
    (sayAll lines).any (Line.chainsGrub server) = false := by
  induction lines with
  | nil => rfl
  | cons text lines ih => exact ih

/-- The kernel that a configuration loads. -/
theorem boots_grubConfig (title loading kernel cmdline initrd : String) :
    (defaultEntry (grubConfig title loading kernel cmdline initrd)).any (Line.boots p)
      = p (orders cmdline) := by
  rw [defaultEntry_grubConfig]
  simp [Line.boots, orders_blank]

theorem boots_kernelCommands :
    (kernelCommands server w).any (Line.boots p) = p (orders w.cmdline) := by
  have hrest : orders (" " ++ w.cmdline ++ " || goto error") = orders w.cmdline :=
    orders_goto w.cmdline (by decide : _ = " " ++ "|| goto error") (by decide)
  unfold kernelCommands failedLines
  simp [Line.boots, hrest]

theorem boots_cloneCommands :
    (cloneCommands server node w).any (Line.boots p) = p (orders (cloneCmdline server node w)) := by
  have hrest : orders (" " ++ cloneCmdline server node w ++ " || goto kerror")
      = orders (cloneCmdline server node w) :=
    orders_goto (cloneCmdline server node w) (by decide : _ = " " ++ "|| goto kerror") (by decide)
  unfold cloneCommands cloneGreeting cloneFallback cloneErrors shellLines
  simp [Line.boots, hrest]

/-- **A WORKFLOW OF A PENDING NODE** boots the kernel of its command line, by itself or
through GRUB. -/
theorem boots_generateInstallScript :
    ((generateInstallScript server node w).any (Line.boots p) = true ∨
        (generateInstallScript server node w).any (Line.chainsGrub server) = true ∧
          (defaultEntry (grubInstall server node w)).any (Line.boots p) = true)
      ↔ (bootCmdline server node w).any (fun cmdline => p (orders cmdline)) = true := by
  have hheader : (installHeader node w).any (Line.boots p) = false := any_boots_sayAll p _
  have hheader' : (installHeader node w).any (Line.chainsGrub server) = false :=
    any_chainsGrub_sayAll server _
  have herror : ∀ text, (generateWorkflowErrorScript node text).any (Line.boots p) = false :=
    fun text => any_boots_sayAll p _
  have herror' : ∀ text,
      (generateWorkflowErrorScript node text).any (Line.chainsGrub server) = false :=
    fun text => any_chainsGrub_sayAll server _
  -- the methods in the order of the tests
  unfold generateInstallScript bootCmdline grubInstall
  by_cases hs : w.installMethod = "sanboot"
  · have hboots : (sanbootCommands w).any (Line.boots p) = false := by
      unfold sanbootCommands failedLines
      simp [Line.boots]
    have hchains : (sanbootCommands w).any (Line.chainsGrub server) = false := by
      unfold sanbootCommands failedLines
      simp [Line.chainsGrub]
    by_cases hurl : w.bootUrl = "" <;>
      simp [hs, hurl, herror, herror', hheader, hheader', hboots, hchains]
  by_cases hc : w.installMethod = "chain"
  · have hboots : (chainCommands w).any (Line.boots p) = false := by
      unfold chainCommands failedLines
      simp [Line.boots]
    have hchains : (chainCommands w).any (Line.chainsGrub server)
        = decide (w.bootUrl = grubEfi server) := by
      unfold chainCommands failedLines
      simp [Line.chainsGrub]
    by_cases hurl : w.bootUrl = ""
    · have hne : "" ≠ grubEfi server := by
        intro h
        have hlist := congrArg String.toList h
        simp [grubEfi] at hlist
      simp [hc, hurl, hne, herror, herror']
    · have hclone : w.installMethod ≠ "clone" := by rw [hc]; decide
      have himage : w.installMethod ≠ "image" := by rw [hc]; decide
      rw [if_neg hs, if_pos hc, if_neg hurl, if_neg hs, if_pos hc, if_neg hclone, if_neg himage,
        List.any_append, List.any_append, hheader, hheader', hboots, hchains, boots_grubConfig]
      by_cases hgrub : w.bootUrl = grubEfi server <;> simp [hgrub]
  by_cases hi : w.installMethod = "image"
  · have hboots : (imageCommands server w).any (Line.boots p) = false := by
      unfold imageCommands shellLines
      simp [Line.boots]
    have hchains : (imageCommands server w).any (Line.chainsGrub server) = true := by
      unfold imageCommands
      simp [Line.chainsGrub]
    by_cases hurl : w.imageUrl = "" <;>
      simp [hi, hurl, herror, herror', hheader, hheader', hboots, hchains, boots_grubConfig]
  by_cases hk : w.installMethod = "clone"
  · simp [hk, hheader, boots_cloneCommands, boots_grubConfig]
  · have hchains : (kernelCommands server w).any (Line.chainsGrub server) = false := by
      unfold kernelCommands failedLines
      simp [Line.chainsGrub]
    simp [hs, hc, hi, hk, hheader, hheader', boots_kernelCommands, hchains]

end Scripts

/-! ## §4. A node that was prepared. -/

section Prepared

variable {p : List (List Char) → Bool} {address : String} {load : String → WorkflowLoad}
  {env : Env} {now later : Timestamp} {db : DB} {uuid : String} {req : BootRequest} {node : Node}

/-- `GET /boot` for a pending node saves it as it was refreshed. -/
theorem getBootScript_of_pending {kind : BootScript} (hmac : macPatternMatches req.mac = true)
    (hnode : db.nodeByMac (normalizeMac req.mac) = some node) (hst : node.state = .pending)
    (h : bootPending env (touchBooted now node req) = .ok kind) :
    getBootScript env now db uuid req = .ok (kind, db.save (touchBooted now node req) [] []) := by
  have htouch : (touchBooted now node req).state = .pending := hst
  unfold getBootScript
  rw [validateMac_of_matches hmac]
  simp only [bind, Except.bind, hnode, htouch, h]

/-- **A PENDING NODE IS BOOTED INTO ITS WORKFLOW**, whatever its id says. -/
theorem handsOver_iff {workflowId : String} (hmac : macPatternMatches req.mac = true)
    (hnode : db.nodeByMac (normalizeMac req.mac) = some node) (hst : node.state = .pending)
    (hid : node.workflowId = some workflowId) (hne : workflowId ≠ "") :
    HandsOver p address load env now db uuid req
      ↔ storeSpells p address load (touchBooted now node req) workflowId = true := by
  have htruthy : truthy node.workflowId = true := by simp [hid, truthy, hne]
  have hget : node.workflowId.getD "" = workflowId := by rw [hid]; rfl
  unfold HandsOver storeSpells
  rw [answerBoot_pending hmac hnode hst, if_pos htruthy, hget]
  cases hload : load workflowId with
  | found w =>
      -- GRUB asks after the boot endpoint has saved the node
      have hpending : bootPending { env with getWorkflow := fun id => (load id).result }
          (touchBooted now node req) = .ok (.install node.id workflowId) := by
        have hwf : (touchBooted now node req).workflowId = some workflowId := hid
        unfold bootPending
        simp only [hwf, if_neg hne, hload, WorkflowLoad.result]
        rfl
      have hsaved : (db.save (touchBooted now node req) [] []).nodeByMac (normalizeMac req.mac)
          = some (touchBooted now node req) := DB.nodeByMac_save hnode rfl rfl
      have hgrub : answerGrub address load (db.save (touchBooted now node req) [] []) req.mac
          = .ok (grubInstall (serverUrl address) (touchBooted now node req)
              (resolveVariables (serverUrl address) (touchBooted now node req) w)) := by
        rw [answerGrub_known hmac hsaved]
        have hwf : (touchBooted now node req).workflowId = node.workflowId := rfl
        rw [hwf, if_pos htruthy, hget, hload]
      rw [getBootScript_of_pending hmac hnode hst hpending, commitOrRollback_ok, hgrub]
      have hboots := boots_generateInstallScript p (serverUrl address) (touchBooted now node req)
        (resolveVariables (serverUrl address) (touchBooted now node req) w)
      simp only [Except.ok.injEq, exists_eq_left']
      exact hboots
  | notFound =>
      have herror : ∀ text, (generateWorkflowErrorScript (touchBooted now node req) text).any
          (Line.boots p) = false := fun text => any_boots_sayAll p _
      have herror' : ∀ text, (generateWorkflowErrorScript (touchBooted now node req) text).any
          (Line.chainsGrub (serverUrl address)) = false := fun text => any_chainsGrub_sayAll _ _
      simp only [Except.ok.injEq, exists_eq_left', herror, herror']
      simp
  | raised e => simp

theorem bootForClone_workflowId (workflowId : String) :
    (bootForClone now workflowId node).workflowId = some workflowId := by
  unfold bootForClone
  dsimp only
  split <;> rfl

theorem bootForClone_macAddress (workflowId : String) :
    (bootForClone now workflowId node).macAddress = node.macAddress := by
  unfold bootForClone
  dsimp only
  split <;> rfl

/-- The node is found by its address as it was prepared. -/
theorem nodeByMac_bootForClone {mac nodeId workflowId : String}
    (hnode : db.nodeByMac mac = some node) (hid : node.id = nodeId) :
    (db.bootForClone now nodeId workflowId).nodeByMac mac
      = some (bootForClone now workflowId node) := by
  unfold DB.bootForClone
  rw [Table.get?_eq_some_iff.mpr ⟨DB.mem_of_nodeByMac hnode, hid⟩]
  exact DB.nodeByMac_save hnode (bootForClone_id ..) (bootForClone_macAddress _)

/-- **THE NEXT BOOT OF A PREPARED NODE.** -/
theorem handsOver_bootForClone {nodeId workflowId : String} {session' : CloneSession}
    (hmac : macPatternMatches req.mac = true)
    (hnode : db.nodeByMac (normalizeMac req.mac) = some node) (hid : node.id = nodeId)
    (hst : cloneBootable node.state = true) (hne : workflowId ≠ "") :
    HandsOver p address load env later
        ((db.bootForClone now nodeId workflowId).saveSession session') uuid req
      ↔ storeSpells p address load
          (touchBooted later (bootForClone now workflowId node) req) workflowId = true := by
  have hfound : ((db.bootForClone now nodeId workflowId).saveSession session').nodeByMac
      (normalizeMac req.mac) = some (bootForClone now workflowId node) :=
    nodeByMac_bootForClone hnode hid
  have hpending : (bootForClone now workflowId node).state = .pending := by
    rw [bootForClone_state, if_pos hst]
  exact handsOver_iff hmac hfound hpending (bootForClone_workflowId _) hne

end Prepared

/-! ## §5. The two hand-offs. -/

theorem cloneSourceId_ne (session : CloneSession) : cloneSourceId session ≠ "" := by
  unfold cloneSourceId
  simp only [ne_eq, String.append_eq_empty_iff]
  simp

theorem cloneTargetId_ne (session : CloneSession) (request : CloneSourceReady) :
    cloneTargetId session request ≠ "" := by
  unfold cloneTargetId
  simp only [ne_eq, String.append_eq_empty_iff]
  simp

/-- **THE CLONE BOOT HAND-OFF WORKS EXACTLY IF** the workflow store has a workflow under the
very text that was written to the node, with a command line that spells out the clone: after
a start, the source node's next boot is a clone-source boot of the session, and after a
direct source-ready message the target node's next boot is a clone-target boot of it, only
then. -/
theorem clone_boot_handoff_iff (address : String) (load : String → WorkflowLoad) (env : Env)
    (now later : Timestamp) (db : DB) (session : CloneSession) (node : Node) (uuid : String)
    (req : BootRequest) (hsession : session ∈ db.sessions.rows)
    (hmac : macPatternMatches req.mac = true)
    (hnode : db.nodeByMac (normalizeMac req.mac) = some node)
    (hst : cloneBootable node.state = true) :
    (∀ bootMode db', startCloneSession env now db session.id = .ok (bootMode, db') →
      session.sourceNodeId = node.id →
      (HandsOver (isCloneSource session.id session.sourceDevice) address load env later db' uuid req
        ↔ storeSpells (isCloneSource session.id session.sourceDevice) address load
            (touchBooted later (bootForClone now (cloneSourceId session) node) req)
            (cloneSourceId session) = true)) ∧
    (∀ request answer db', cloneSourceReady now db session.id request = .ok (answer, db') →
      session.cloneMode = .direct → session.targetNodeId = some node.id → node.id ≠ "" →
      (HandsOver (isCloneTarget session.id session.targetDevice request.ip request.port)
          address load env later db' uuid req
        ↔ storeSpells (isCloneTarget session.id session.targetDevice request.ip request.port)
            address load
            (touchBooted later (bootForClone now (cloneTargetId session request) node) req)
            (cloneTargetId session request) = true)) := by
  have hget : db.sessions.get? session.id = some session :=
    Table.get?_eq_some_iff.mpr ⟨hsession, rfl⟩
  -- either request leaves the node with a workflow id and a pending boot, nothing else
  refine ⟨fun bootMode db' h hsource => ?_, fun request answer db' h hdirect htarget hne => ?_⟩
  · obtain ⟨s, hs, hid, -, s', rfl, -⟩ := startCloneSession_eq_ok h
    obtain rfl : s = session := db.sessions.eq_of_key_eq hs hsession hid
    exact handsOver_bootForClone hmac hnode hsource.symm hst (cloneSourceId_ne _)
  · unfold cloneSourceReady at h
    rw [hget] at h
    have hfound : db.nodes.get? node.id = some node :=
      Table.get?_eq_some_iff.mpr ⟨DB.mem_of_nodeByMac hnode, rfl⟩
    have htruthy : truthy (some node.id) = true := by simp [truthy, hne]
    simp only [hdirect, htarget, htruthy, and_self, if_true, Option.bind_some, hfound] at h
    obtain ⟨-, rfl⟩ := ok_pair_inj h
    exact handsOver_bootForClone hmac hnode rfl hst (cloneTargetId_ne session request)

/-- A session that clones the disk of the node in service. -/
def sourceSession : CloneSession where
  id := "s"
  sourceNodeId := "n"
  sourceDevice := "sda"

/-- A session that clones to it. -/
def targetSession : CloneSession where
  id := "t"
  cloneMode := .direct
  sourceNodeId := "m"
  targetNodeId := some "n"
  targetDevice := "sda"

theorem nodup_cloneSessions : ([sourceSession, targetSession].map CloneSession.id).Nodup := by
  decide

def cloneDb : DB :=
  { activeDb with sessions := ⟨[sourceSession, targetSession], nodup_cloneSessions⟩ }

def sourceReady : CloneSourceReady where
  ip := "::1"
  port := 80
  sizeBytes := 64
  device := "sda"

theorem nodeByMac_cloneDb :
    cloneDb.nodeByMac (normalizeMac bootRequest.mac) = some activeNode := by
  rw [normalizeMac_bootRequest]
  rfl

/-- Workflows written for these two boots, and a store that has them. -/
def sourceWorkflow : Workflow where
  id := "clone-source:s:sda"
  name := "Clone source"
  cmdline := "pureboot.mode=clone_source pureboot.session_id=s pureboot.device=sda"

def targetWorkflow : Workflow where
  id := "clone-target:t:sda:::1:80"
  name := "Clone target"
  cmdline := "pureboot.mode=clone_target pureboot.session_id=t pureboot.device=sda "
    ++ "pureboot.target_ip=::1 pureboot.target_port=80"

def cloneStore (id : String) : WorkflowLoad :=
  if id = sourceWorkflow.id then .found sourceWorkflow
  else if id = targetWorkflow.id then .found targetWorkflow
  else .notFound

/-- A text without a variable is left as it is. -/
theorem resolveText_plain (server : String) (node : Node) {text : String}
    (h : '$' ∉ text.toList) : resolveText server node text = text := by
  have hsub : ∀ name value, substitute name value text = text := by
    intro name value
    unfold substitute
    show String.ofList (replaceAll ('$' :: _) _ _) = text
    rw [replaceAll_of_not_mem h, String.ofList_toList]
  unfold resolveText
  simp only [hsub]
  cases node.ipAddress with
  | none => rfl
  | some ip => exact ite_self _

/-- The store spells out the boot of a workflow with a plain command line of its own. -/
theorem storeSpells_plain {p : List (List Char) → Bool} {address : String}
    {load : String → WorkflowLoad} {node : Node} {workflowId : String} {w : Workflow}
    (hload : load workflowId = .found w) (hmethod : w.installMethod = "kernel")
    (h : '$' ∉ w.cmdline.toList) (hp : p (orders w.cmdline) = true) :
    storeSpells p address load node workflowId = true := by
  unfold storeSpells
  rw [hload]
  simp [bootCmdline, resolveVariables, hmethod, resolveText_plain _ _ h, hp]

/-- With workflows written for the session, both hand-offs work. -/
theorem clone_boot_handoff_iff_store :
    (∃ bootMode db', startCloneSession bootEnv ⟨0, true⟩ cloneDb "s" = .ok (bootMode, db') ∧
      HandsOver (isCloneSource "s" "sda") "10.0.0.1:8080" cloneStore bootEnv ⟨1, true⟩ db' "u"
        bootRequest) ∧
    (∃ answer db', cloneSourceReady ⟨0, true⟩ cloneDb "t" sourceReady = .ok (answer, db') ∧
      HandsOver (isCloneTarget "t" "sda" "::1" 80) "10.0.0.1:8080" cloneStore bootEnv
        ⟨1, true⟩ db' "u" bootRequest) :=
  ⟨⟨_, _, rfl, ((clone_boot_handoff_iff _ _ _ _ _ _ sourceSession activeNode _ _ (by decide)
      (by decide) nodeByMac_cloneDb rfl).1 _ _ rfl rfl).mpr
        (storeSpells_plain (w := sourceWorkflow) rfl rfl (by decide +kernel) (by decide +kernel))⟩,
    ⟨_, _, rfl, ((clone_boot_handoff_iff _ _ _ _ _ _ targetSession activeNode _ _ (by decide)
      (by decide) nodeByMac_cloneDb rfl).2 sourceReady _ _ rfl rfl rfl (by decide)).mpr
        (storeSpells_plain (w := targetWorkflow) rfl rfl (by decide +kernel) (by decide +kernel))⟩⟩

/-- With the workflows of the repository, which have none of these ids, the source node is
told that its workflow was not found, and so is the target node. -/
theorem clone_boot_not_handed_over :
    (∃ bootMode db', startCloneSession bootEnv ⟨0, true⟩ cloneDb "s" = .ok (bootMode, db') ∧
      ¬ HandsOver (isCloneSource "s" "sda") "10.0.0.1:8080" (fun _ => .notFound) bootEnv
        ⟨1, true⟩ db' "u" bootRequest) ∧
    (∃ answer db', cloneSourceReady ⟨0, true⟩ cloneDb "t" sourceReady = .ok (answer, db') ∧
      ¬ HandsOver (isCloneTarget "t" "sda" "::1" 80) "10.0.0.1:8080"
        (fun _ => .notFound) bootEnv ⟨1, true⟩ db' "u" bootRequest) := by
  have hmac : macPatternMatches bootRequest.mac = true := by decide
  refine ⟨⟨_, _, rfl, fun h => ?_⟩, ⟨_, _, rfl, fun h => ?_⟩⟩
  · have hspells := (handsOver_bootForClone hmac nodeByMac_cloneDb rfl rfl
      (cloneSourceId_ne sourceSession)).mp h
    cases hspells
  · have hspells := (handsOver_bootForClone hmac nodeByMac_cloneDb rfl rfl
      (cloneTargetId_ne targetSession sourceReady)).mp h
    cases hspells

end PureBoot.Web
