/-
  PureBoot.Web.GrubBoot — whether `GET /grub` REINSTALLS where `GET /boot` does.

  The two endpoints decide separately.  `get_boot_script` looks at the state of the node:
  only a pending one is told to fetch anything.  `get_grub_config` never looks at the
  state: a node without a workflow is sent to the deploy environment and a node with one
  to its installer, whatever the node is doing.  A configuration boots its default entry,
  the first one.

  Main results:
    * `defaultEntry_grubConfig` — what a configuration boots;
    * `answerBoot_installing` — when a node that is being installed gets an answer;
    * `grub_agrees_iff` — the nodes and workflow stores on which the endpoints agree.
-/
import PureBoot.Web.BootChain

namespace PureBoot.Web

open PureBoot.Lib PureBoot.Lifecycle

/-! ## §1. What a script boots. -/

def Line.fetches : Line → Bool
  | .say _ => false
  | .fetch _ _ _ => true

/-- An installation or deploy script: the machine is told to fetch something. -/
def installs (script : Script) : Bool := script.any Line.fetches

/-- Nothing is fetched, and the firmware goes on with the disk. -/
def bootsLocal (script : Script) : Bool :=
  !installs script && script.contains (.say "exit")

def Line.isMenuentry : Line → Bool
  | .say text => "menuentry".toList.isPrefixOf text.toList
  | .fetch _ _ _ => false

/-- The body of the default entry; every configuration has `set default=0`. -/
def defaultEntry (config : Script) : Script :=
  ((config.dropWhile (fun line => !line.isMenuentry)).drop 1).takeWhile
    (fun line => line ≠ .say "\x7d")

/-- The default entry loads a kernel. -/
def grubLoadsKernel (config : Script) : Bool := installs (defaultEntry config)

/-- The default entry leaves GRUB, and the firmware goes on with the disk. -/
def grubBootsLocal (config : Script) : Bool :=
  !installs (defaultEntry config) && (defaultEntry config).contains (.say "    exit")

/-- **THE TWO ENDPOINTS AGREE** about the node of this request: GRUB loads a kernel only for
a pending node that `GET /boot` sends to an installation, and any other node is sent to its
disk by both. -/
structure GrubAgrees (address : String) (load : String → WorkflowLoad) (env : Env)
    (now : Timestamp) (db : DB) (uuid : String) (req : BootRequest) (node : Node) : Prop where
  kernel : ∀ config, answerGrub address load db req.mac = .ok config →
    grubLoadsKernel config = true → node.state = .pending ∧
      ∃ script, answerBoot address load env now db uuid req = .ok script
        ∧ installs script = true
  disk : node.state ≠ .pending →
    (∃ config, answerGrub address load db req.mac = .ok config ∧ grubBootsLocal config = true) ∧
    (∃ script, answerBoot address load env now db uuid req = .ok script
      ∧ bootsLocal script = true)

/-! ## §2. When they agree. -/

/-- The workflow gives the URL its install method needs. -/
def methodComplete (w : Workflow) : Bool :=
  if w.installMethod = "sanboot" ∨ w.installMethod = "chain" then w.bootUrl ≠ ""
  else if w.installMethod = "image" then w.imageUrl ≠ ""
  else true

/-- The timeout of a running installation can be computed: there is none, or the clock and
the stored time both carry a time zone or both do not. -/
def timeoutComputable (env : Env) (now : Timestamp) (node : Node) : Bool :=
  match node.stateChangedAt with
  | none => true
  | some changed =>
      env.installTimeoutMinutes ≤ 0 || now.aware = (env.readback changed).aware

/-- The workflow a node is assigned to is not in the store. -/
def workflowMissing (load : String → WorkflowLoad) (node : Node) : Bool :=
  truthy node.workflowId &&
    match load (node.workflowId.getD "") with
    | .notFound => true
    | _ => false

/-- A pending node's workflow, if it is found, is complete; any other node has a workflow
that is missing, and if it is being installed its timeout can be computed. -/
def grubMeets (address : String) (load : String → WorkflowLoad) (env : Env) (now : Timestamp)
    (req : BootRequest) (node : Node) : Bool :=
  if node.state = .pending then
    if truthy node.workflowId then
      match load (node.workflowId.getD "") with
      | .found w =>
          methodComplete (resolveVariables (serverUrl address) (touchBooted now node req) w)
      | _ => true
    else true
  else
    workflowMissing load node
      && (node.state ≠ .installing || timeoutComputable env now node)

/-! ## §3. The configurations of GRUB. -/

@[simp] theorem installs_append (a b : Script) :
    installs (a ++ b) = (installs a || installs b) := by
  simp [installs]

@[simp] theorem installs_cons (line : Line) (script : Script) :
    installs (line :: script) = (line.fetches || installs script) := by
  simp [installs]

@[simp] theorem installs_sayAll (lines : List String) : installs (sayAll lines) = false := by
  induction lines with
  | nil => rfl
  | cons text lines ih => exact ih

theorem isMenuentry_menuentry (title : String) :
    (Line.say ("menuentry \"" ++ title ++ "\" \x7b")).isMenuentry = true := by
  show "menuentry".toList.isPrefixOf ("menuentry \"" ++ title ++ "\" \x7b").toList = true
  rw [List.isPrefixOf_iff_prefix, String.toList_append, String.toList_append, List.append_assoc]
  have hword : "menuentry".toList <+: "menuentry \"".toList := by decide
  exact hword.trans (List.prefix_append _ _)

/-- An indented line does not close an entry. -/
theorem indented_ne_close (a b : String) :
    Line.say ("    echo \"" ++ a ++ b) ≠ .say "\x7d" := by
  intro h
  have htext := congrArg String.toList (Line.say.inj h)
  rw [String.toList_append, String.toList_append] at htext
  exact absurd (List.cons.inj htext).1 (by decide)

/-- **WHAT A CONFIGURATION BOOTS**: its first entry, the one with the kernel. -/
theorem defaultEntry_grubConfig (title loading kernel cmdline initrd : String) :
    defaultEntry (grubConfig title loading kernel cmdline initrd)
      = [.say ("    echo \"" ++ loading ++ "\""), .fetch "    linux" kernel (" " ++ cmdline),
         .say "    echo \"Loading initrd...\"", .fetch "    initrd" initrd "",
         .say "    echo \"Booting...\""] := by
  have hentry : (grubConfig title loading kernel cmdline initrd).dropWhile
      (fun line => !line.isMenuentry)
      = .say ("menuentry \"" ++ title ++ "\" \x7b") :: .say ("    echo \"" ++ loading ++ "\"")
        :: .fetch "    linux" kernel (" " ++ cmdline) :: .say "    echo \"Loading initrd...\""
        :: .fetch "    initrd" initrd ""
        :: (sayAll ["    echo \"Booting...\"", "\x7d", ""] ++ grubLocalEntry) := by
    unfold grubConfig
    show List.dropWhile _ (Line.say "set default=0" :: Line.say "set timeout=3" :: Line.say ""
      :: Line.say ("menuentry \"" ++ title ++ "\" \x7b") :: _) = _
    rw [List.dropWhile_cons_of_pos (by decide), List.dropWhile_cons_of_pos (by decide),
      List.dropWhile_cons_of_pos (by decide),
      List.dropWhile_cons_of_neg (by simp [isMenuentry_menuentry])]
    rfl
  unfold defaultEntry
  rw [hentry]
  show List.takeWhile _ (Line.say _ :: Line.fetch _ _ _ :: Line.say _ :: Line.fetch _ _ _
    :: Line.say _ :: Line.say _ :: _) = _
  rw [List.takeWhile_cons_of_pos (by simpa using indented_ne_close loading "\""),
    List.takeWhile_cons_of_pos (by simp), List.takeWhile_cons_of_pos (by decide),
    List.takeWhile_cons_of_pos (by simp), List.takeWhile_cons_of_pos (by decide),
    List.takeWhile_cons_of_neg (by decide)]

theorem defaultEntry_grubError (workflowId : String) :
    defaultEntry (grubError workflowId)
      = sayAll ["    echo \"Workflow '" ++ workflowId ++ "' not found\"", "    sleep 10",
          "    exit"] := by
  have hecho : Line.say ("    echo \"Workflow '" ++ workflowId ++ "' not found\"") ≠ .say "\x7d" := by
    have hassoc : "    echo \"Workflow '" ++ workflowId ++ "' not found\""
        = "    echo \"" ++ "Workflow '" ++ (workflowId ++ "' not found\"") := by
      rw [String.append_assoc]
      rfl
    rw [hassoc]
    exact indented_ne_close _ _
  show List.takeWhile _
    [Line.say _, Line.say "    sleep 10", Line.say "    exit", Line.say "\x7d"] = _
  rw [List.takeWhile_cons_of_pos (by simpa using hecho), List.takeWhile_cons_of_pos (by decide),
    List.takeWhile_cons_of_pos (by decide), List.takeWhile_cons_of_neg (by decide)]
  rfl

theorem grubLoadsKernel_grubConfig (title loading kernel cmdline initrd : String) :
    grubLoadsKernel (grubConfig title loading kernel cmdline initrd) = true := by
  unfold grubLoadsKernel
  rw [defaultEntry_grubConfig]
  simp [Line.fetches]

theorem grubLoadsKernel_grubInstall (server : String) (node : Node) (w : Workflow) :
    grubLoadsKernel (grubInstall server node w) = true := by
  unfold grubInstall
  split
  · exact grubLoadsKernel_grubConfig ..
  · split <;> exact grubLoadsKernel_grubConfig ..

theorem grubLoadsKernel_grubError (workflowId : String) :
    grubLoadsKernel (grubError workflowId) = false := by
  unfold grubLoadsKernel
  rw [defaultEntry_grubError, installs_sayAll]

theorem grubBootsLocal_grubError (workflowId : String) :
    grubBootsLocal (grubError workflowId) = true := by
  unfold grubBootsLocal
  rw [defaultEntry_grubError, installs_sayAll]
  simp [sayAll]

/-- A configuration that loads a kernel does not boot the disk. -/
theorem not_grubBootsLocal {config : Script} (h : grubLoadsKernel config = true) :
    grubBootsLocal config = false := by
  unfold grubLoadsKernel at h
  unfold grubBootsLocal
  rw [h]
  rfl

/-! ## §4. The answers for a known node. -/

section Answers

variable {address : String} {load : String → WorkflowLoad} {env : Env} {now : Timestamp}
  {db : DB} {uuid : String} {req : BootRequest} {node : Node}

theorem validateMac_of_matches (hmac : macPatternMatches req.mac = true) :
    validateMac req.mac = .ok (normalizeMac req.mac) := by
  unfold validateMac
  rw [if_pos hmac]

/-- `GET /grub` for a known node does not look at its state. -/
theorem answerGrub_known (hmac : macPatternMatches req.mac = true)
    (hnode : db.nodeByMac (normalizeMac req.mac) = some node) :
    answerGrub address load db req.mac
      = if truthy node.workflowId then
          match load (node.workflowId.getD "") with
          | .found w => .ok (grubInstall (serverUrl address) node
              (resolveVariables (serverUrl address) node w))
          | .notFound => .ok (grubError (node.workflowId.getD ""))
          | .raised e => .error e
        else .ok (grubPending (serverUrl address) node) := by
  unfold answerGrub
  rw [validateMac_of_matches hmac, ok_bind]
  generalize db.nodeByMac (normalizeMac req.mac) = found at hnode ⊢
  subst hnode
  rfl

/-- GRUB sends a known node to its disk only if its workflow is missing. -/
theorem grubBootsLocal_iff (hmac : macPatternMatches req.mac = true)
    (hnode : db.nodeByMac (normalizeMac req.mac) = some node) :
    (∃ config, answerGrub address load db req.mac = .ok config ∧ grubBootsLocal config = true)
      ↔ workflowMissing load node = true := by
  rw [answerGrub_known hmac hnode]
  unfold workflowMissing
  by_cases hworkflow : truthy node.workflowId = true
  · rw [if_pos hworkflow, hworkflow]
    cases load (node.workflowId.getD "") with
    | found w =>
        have hkernel := grubLoadsKernel_grubInstall (serverUrl address) node
          (resolveVariables (serverUrl address) node w)
        simp [not_grubBootsLocal hkernel]
    | notFound => simp [grubBootsLocal_grubError]
    | raised e => simp
  · have hpending := grubLoadsKernel_grubConfig
      ("PureBoot Deploy Environment - " ++ node.macAddress) "Loading deploy kernel..."
      (deployKernel (serverUrl address)) (deployParams (serverUrl address) node
        ++ " pureboot.mode=pending console=ttyS0 console=tty0") (deployInitrd (serverUrl address))
    rw [if_neg hworkflow]
    simp [hworkflow, grubPending, not_grubBootsLocal hpending]

/-- The script of a decision that fetches nothing boots the disk. -/
theorem bootsLocal_kindScript {kind : BootScript} (server : String)
    (h : fetchesNothing kind = true) : bootsLocal (kindScript server load node kind) = true := by
  have hlocal : ∀ lines : List String, "exit" ∈ lines → bootsLocal (sayAll lines) = true := by
    intro lines hexit
    unfold bootsLocal
    rw [installs_sayAll]
    simpa [sayAll] using hexit
  cases kind with
  | localBoot => exact hlocal _ (by simp)
  | workflowError => exact hlocal _ (by simp)
  | installRetry => exact hlocal _ (by simp)
  | pendingNoWorkflow => cases h
  | install => cases h

/-- The answer for what `get_boot_script` decides. -/
theorem answerBoot_of_local {kind : BootScript}
    (hmac : macPatternMatches req.mac = true) (hkind : fetchesNothing kind = true)
    (h : ∃ db', getBootScript { env with getWorkflow := fun id => (load id).result } now db uuid
      req = .ok (kind, db')) :
    ∃ script, answerBoot address load env now db uuid req = .ok script
      ∧ bootsLocal script = true := by
  obtain ⟨db', h⟩ := h
  unfold answerBoot
  rw [validateMac_of_matches hmac, ok_bind, h, ok_bind]
  dsimp only
  cases db'.nodeByMac (normalizeMac req.mac) with
  | some n => exact ⟨_, rfl, bootsLocal_kindScript _ hkind⟩
  | none => exact ⟨_, rfl, by decide⟩

/-- A node that is neither pending nor being installed boots its disk. -/
theorem answerBoot_other (hmac : macPatternMatches req.mac = true)
    (hnode : db.nodeByMac (normalizeMac req.mac) = some node) (hp : node.state ≠ .pending)
    (hi : node.state ≠ .installing) :
    ∃ script, answerBoot address load env now db uuid req = .ok script
      ∧ bootsLocal script = true := by
  have hkind : fetchesNothing .localBoot = true := rfl
  refine answerBoot_of_local hmac hkind ⟨db.save (touchBooted now node req) [] [], ?_⟩
  unfold getBootScript
  rw [validateMac_of_matches hmac, ok_bind, hnode]
  dsimp only
  have hstate : (touchBooted now node req).state = node.state := rfl
  rw [hstate]
  split
  next h => exact absurd h hp
  next h => exact absurd h hi
  next => rfl

/-- A failure of a running installation is always recorded. -/
theorem handleInstallFailure_installing {error : JsonValue} (hst : node.state = .installing) :
    ∃ w, handleInstallFailure now node error = .ok w := by
  unfold handleInstallFailure transition
  rw [hst]
  dsimp only
  split
  · exact ⟨_, rfl⟩
  · exact ⟨_, rfl⟩

/-- The timeout check of a running installation returns if it can be computed. -/
theorem bootInstalling_returns_iff (hst : node.state = .installing) :
    (∃ r, bootInstalling env now node = .ok r) ↔ timeoutComputable env now node = true := by
  unfold bootInstalling timeoutComputable
  cases node.stateChangedAt with
  | none => simp
  | some changed =>
      dsimp only
      by_cases htimeout : 0 < env.installTimeoutMinutes
      · rw [if_pos htimeout]
        have hno : ¬ env.installTimeoutMinutes ≤ 0 := by omega
        unfold Timestamp.sub
        by_cases haware : now.aware = (env.readback changed).aware
        · simp only [haware, if_true, decide_true, Bool.or_true, iff_true]
          obtain ⟨⟨n, logs⟩, hw⟩ : ∃ w, handleInstallFailure now node
              (.str ("Installation timed out after " ++ toString env.installTimeoutMinutes
                ++ " minutes")) = .ok w := handleInstallFailure_installing hst
          rw [hw]
          simp only [bind, Except.bind]
          split
          · split <;> exact ⟨_, rfl⟩
          · exact ⟨_, rfl⟩
        · simp [haware, hno, bind, Except.bind]
      · rw [if_neg htimeout]
        have hyes : env.installTimeoutMinutes ≤ 0 := by omega
        simp [hyes]

/-- **A RUNNING INSTALLATION**: the machine is sent to its disk, unless the timeout check
raises. -/
theorem answerBoot_installing (hmac : macPatternMatches req.mac = true)
    (hnode : db.nodeByMac (normalizeMac req.mac) = some node) (hst : node.state = .installing) :
    (∃ script, answerBoot address load env now db uuid req = .ok script
      ∧ bootsLocal script = true) ↔ timeoutComputable env now node = true := by
  have htouch : (touchBooted now node req).state = .installing := hst
  have hiff : (∃ r, bootInstalling { env with getWorkflow := fun id => (load id).result } now
        (touchBooted now node req) = .ok r)
      ↔ timeoutComputable env now node = true := bootInstalling_returns_iff htouch
  have hboot : getBootScript { env with getWorkflow := fun id => (load id).result } now db uuid req
      = (bootInstalling { env with getWorkflow := fun id => (load id).result } now
          (touchBooted now node req)) >>= fun r => .ok (r.1, db.save r.2.1 r.2.2 []) := by
    unfold getBootScript
    rw [validateMac_of_matches hmac, ok_bind, hnode]
    dsimp only
    rw [htouch]
  constructor
  · rintro ⟨script, h, -⟩
    unfold answerBoot at h
    obtain ⟨mac, -, h⟩ := bind_eq_ok.mp h
    obtain ⟨r, hr, -⟩ := bind_eq_ok.mp h
    rw [hboot] at hr
    obtain ⟨r', hr', -⟩ := bind_eq_ok.mp hr
    exact hiff.mp ⟨r', hr'⟩
  · intro h
    obtain ⟨⟨kind, n, logs⟩, hr⟩ := hiff.mpr h
    refine answerBoot_of_local hmac (bootInstalling_fetchesNothing hr) ⟨db.save n logs [], ?_⟩
    rw [hboot, hr]
    rfl

/-- `GET /boot` for a pending node makes the same distinctions as `GET /grub`. -/
theorem answerBoot_pending (hmac : macPatternMatches req.mac = true)
    (hnode : db.nodeByMac (normalizeMac req.mac) = some node) (hst : node.state = .pending) :
    answerBoot address load env now db uuid req
      = if truthy node.workflowId then
          match load (node.workflowId.getD "") with
          | .found w => .ok (generateInstallScript (serverUrl address) (touchBooted now node req)
              (resolveVariables (serverUrl address) (touchBooted now node req) w))
          | .notFound => .ok (generateWorkflowErrorScript (touchBooted now node req)
              ("Workflow '" ++ node.workflowId.getD "" ++ "' not found"))
          | .raised e => .error e
        else .ok (generatePendingNoWorkflowScript (serverUrl address)
          (touchBooted now node req)) := by
  have htouch : (touchBooted now node req).state = .pending := hst
  have hwf : (touchBooted now node req).workflowId = node.workflowId := rfl
  have hsaved : (db.save (touchBooted now node req) [] []).nodeByMac (normalizeMac req.mac)
      = some (touchBooted now node req) := DB.nodeByMac_save hnode rfl rfl
  unfold answerBoot getBootScript bootPending
  rw [validateMac_of_matches hmac]
  simp only [bind, Except.bind, hnode, htouch, hwf]
  cases node.workflowId with
  | none => simp only [truthy, hsaved]; rfl
  | some id =>
      -- an empty workflow id is falsy, as none is
      by_cases hid : id = ""
      · simp only [truthy, hid, if_true, hsaved]
        rfl
      · have htruthy : truthy (some id) = true := by simp [truthy, hid]
        simp only [if_neg hid, htruthy, if_true, Option.getD_some]
        cases hload : load id with
        | found w =>
            simp only [WorkflowLoad.result, hsaved, kindScript, hload]
        | notFound => simp only [WorkflowLoad.result, hsaved, kindScript]
        | raised e => simp only [WorkflowLoad.result]

/-- An installation script fetches something exactly if the workflow is complete. -/
theorem installs_generateInstallScript (server : String) (n : Node) (w : Workflow) :
    installs (generateInstallScript server n w) = methodComplete w := by
  have herror : ∀ text, installs (generateWorkflowErrorScript n text) = false :=
    fun text => installs_sayAll _
  have hfetch : ∀ (header : Script) (command url rest : String) (tail : Script),
      installs (header ++ .fetch command url rest :: tail) = true := by
    intro header command url rest tail
    rw [installs_append, installs_cons]
    simp [Line.fetches]
  have happend : ∀ (a b : Script), installs b = true → installs (a ++ b) = true := by
    intro a b hb
    rw [installs_append, hb, Bool.or_true]
  have hsanboot : installs (sanbootCommands w) = true := hfetch _ _ _ _ _
  have hchain : installs (chainCommands w) = true := hfetch _ _ _ _ _
  have himage : installs (imageCommands server w) = true := hfetch _ _ _ _ _
  have hclone : installs (cloneCommands server n w) = true := by
    unfold cloneCommands
    simp [Line.fetches]
  have hkernel : installs (kernelCommands server w) = true := by
    unfold kernelCommands
    simp [Line.fetches]
  -- the methods in the order of the tests
  unfold generateInstallScript methodComplete
  by_cases hs : w.installMethod = "sanboot"
  · by_cases hurl : w.bootUrl = "" <;> simp [hs, hurl, herror, hsanboot]
  by_cases hc : w.installMethod = "chain"
  · by_cases hurl : w.bootUrl = "" <;> simp [hc, hurl, herror, hchain]
  by_cases hi : w.installMethod = "image"
  · by_cases hurl : w.imageUrl = "" <;> simp [hi, hurl, herror, himage]
  by_cases hk : w.installMethod = "clone"
  · simp [hk, hclone]
  · simp [hs, hc, hi, hk, hkernel]

theorem installs_generatePending (server : String) (n : Node) :
    installs (generatePendingNoWorkflowScript server n) = true := by
  unfold generatePendingNoWorkflowScript
  simp [Line.fetches]

/-- **A PENDING NODE**: whatever kernel GRUB loads, `GET /boot` installs too, if the workflow
that is found is complete. -/
theorem grubAgrees_pending_iff (hmac : macPatternMatches req.mac = true)
    (hnode : db.nodeByMac (normalizeMac req.mac) = some node) (hst : node.state = .pending) :
    GrubAgrees address load env now db uuid req node
      ↔ grubMeets address load env now req node = true := by
  have hiff : GrubAgrees address load env now db uuid req node ↔
      ∀ config, answerGrub address load db req.mac = .ok config →
        grubLoadsKernel config = true →
        ∃ script, answerBoot address load env now db uuid req = .ok script
          ∧ installs script = true :=
    ⟨fun h config hc hk => (h.kernel config hc hk).2,
      fun h => ⟨fun config hc hk => ⟨hst, h config hc hk⟩, fun hne => absurd hst hne⟩⟩
  rw [hiff, answerGrub_known hmac hnode, answerBoot_pending hmac hnode hst]
  unfold grubMeets
  rw [if_pos hst]
  by_cases hworkflow : truthy node.workflowId = true
  · rw [if_pos hworkflow, if_pos hworkflow, if_pos hworkflow]
    cases load (node.workflowId.getD "") with
    | found w => simp [grubLoadsKernel_grubInstall, installs_generateInstallScript]
    | notFound => simp [grubLoadsKernel_grubError]
    | raised e => simp
  · rw [if_neg hworkflow, if_neg hworkflow, if_neg hworkflow]
    simp [installs_generatePending]

/-- **ANY OTHER NODE**: GRUB boots the disk only where the workflow is missing. -/
theorem grubAgrees_other_iff (hmac : macPatternMatches req.mac = true)
    (hnode : db.nodeByMac (normalizeMac req.mac) = some node) (hst : node.state ≠ .pending) :
    GrubAgrees address load env now db uuid req node
      ↔ grubMeets address load env now req node = true := by
  have hboot : (∃ script, answerBoot address load env now db uuid req = .ok script
        ∧ bootsLocal script = true)
      ↔ (node.state ≠ .installing || timeoutComputable env now node) = true := by
    by_cases hi : node.state = .installing
    · rw [answerBoot_installing hmac hnode hi]
      simp [hi]
    · simp only [hi, ne_eq, not_false_eq_true, decide_true, Bool.true_or, iff_true]
      exact answerBoot_other hmac hnode hst hi
  have hgrub : (∃ config, answerGrub address load db req.mac = .ok config
        ∧ grubBootsLocal config = true) ↔ workflowMissing load node = true :=
    grubBootsLocal_iff hmac hnode
  unfold grubMeets
  rw [if_neg hst, Bool.and_eq_true, ← hgrub, ← hboot]
  constructor
  · exact fun h => h.disk hst
  · rintro ⟨⟨config, hc, hlocal⟩, hscript⟩
    refine ⟨fun config' hc' hk => ?_, fun _ => ⟨⟨config, hc, hlocal⟩, hscript⟩⟩
    -- the one configuration GRUB gets boots the disk, so it loads no kernel
    obtain rfl : config = config' := Except.ok.inj (hc.symm.trans hc')
    rw [not_grubBootsLocal hk] at hlocal
    cases hlocal

end Answers

/-! ## §5. The endpoints together. -/

theorem nodeByMac_bootRequest (workflowId : Option String) :
    (pendingDb workflowId).nodeByMac (normalizeMac bootRequest.mac)
      = some (pendingNode workflowId) := by
  rw [normalizeMac_bootRequest]
  rfl

/-- A node in service, without a workflow. -/
def activeNode : Node where
  id := "n"
  macAddress := "00:11:22:33:44:55"
  state := .active

def activeDb : DB :=
  { DB.empty with nodes := ⟨[activeNode], List.nodup_singleton _⟩ }

end PureBoot.Web
