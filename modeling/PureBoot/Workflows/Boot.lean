/-
  PureBoot.Workflows.Boot — do the WORKFLOWS OF THE DATABASE boot?

  The workflows that are made through `/workflows` are rows; what a pending node boots is a
  definition file that `GET /boot` looks up under the node's `workflow_id`.  No handler of
  `workflows.py` writes a file and no boot reads a row, so a workflow of the database boots
  as it says exactly if such a file happens to say the same.

  With the session that `get_db` yields no request is carried out, so that there is no such
  workflow; with the one that the handlers declare there are.

  What a row says is in the configuration of its boot step (`kernel`, `initrd`, `cmdline`);
  it is installed with the method of a definition that names none.

  Main results:
    * `definition?_perform` — the workflows that the requests have made;
    * `installs_generateInstallScript_iff` — the definitions with the script of another one;
    * `api_workflows_boot_iff` — the runs whose workflows boot.
-/
import PureBoot.Web.GrubBoot
import PureBoot.Workflows.Api

namespace PureBoot.Workflows

open PureBoot.Lib
open PureBoot.Lifecycle (DB Env JsonDict Node Timestamp BootRequest macPatternMatches normalizeMac
  touchBooted)
open PureBoot.Web (Script Line WorkflowLoad answerBoot answerBoot_pending generateInstallScript
  resolveText resolveVariables sayAll serverUrl)

/-! ## §1. What a workflow of the database says. -/

/-- A text of a configuration; a definition that does not give it has the empty one. -/
def configText (config : JsonDict) (key : String) : String :=
  match config.lookup key with
  | some (.str text) => text
  | _ => ""

/-- The configuration of the first boot step. -/
def bootConfig (steps : List StepSpec) : JsonDict :=
  (((steps.mergeSort (fun a b => a.sequence ≤ b.sequence)).find?
    (fun s => s.type = .boot)).map StepSpec.config).getD []

/-- The definition of a workflow with these steps. -/
def definition (id name : String) (steps : List StepSpec) : Web.Workflow where
  id := id
  name := name
  kernelPath := configText (bootConfig steps) "kernel"
  initrdPath := configText (bootConfig steps) "initrd"
  cmdline := configText (bootConfig steps) "cmdline"

/-- The workflows in use. -/
def WorkflowDb.definition? (db : WorkflowDb) (id : String) : Option Web.Workflow :=
  (db.active? id).map (fun w => definition w.id w.name (db.specs w.id))

/-- The workflow that a request makes. -/
def WorkflowRequest.makes (r : WorkflowRequest) : Option Web.Workflow :=
  r.gives.map (fun data => definition r.id data.name data.specs)

/-- **THE WORKFLOWS OF THE DATABASE**: after a request that was carried out, its workflow is
what the request makes, and every other one what it was. -/
theorem definition?_perform {session : SessionKind} {db db' : WorkflowDb} {r : WorkflowRequest}
    {x : Unit} (hknown : StepsKnown db) (h : perform session db r = .ok (x, db')) (id : String) :
    db'.definition? id = if id = r.id then r.makes else db.definition? id := by
  have hspecs := specs_perform hknown h
  unfold WorkflowDb.definition?
  rw [active?_perform h]
  by_cases hid : id = r.id
  · rw [if_pos hid, if_pos hid]
    unfold WorkflowRequest.makes
    cases hgives : r.gives with
    | none => rfl
    | some data =>
        have hnew : db'.specs r.id = data.specs := by
          rw [hspecs, hgives]
          exact if_pos rfl
        show some (definition r.id data.name (db'.specs r.id)) = _
        rw [hnew]
        rfl
  · rw [if_neg hid, if_neg hid]
    refine Option.map_congr (fun w hw => ?_)
    obtain ⟨-, rfl, -⟩ := WorkflowDb.active?_eq_some_iff.mp hw
    have hsame : db'.specs w.id = db.specs w.id := by
      rw [hspecs]
      cases r.gives with
      | none => rfl
      | some data => exact if_neg hid
    rw [hsame]

/-! ## §2. The scripts that install a workflow. -/

/-- The methods of `generate_install_script` that do not load the kernel of the definition. -/
def otherMethods : List String := ["sanboot", "chain", "image", "clone"]

/-- The script loads this kernel and this initrd, with this command line. -/
structure Installs (server : String) (w : Web.Workflow) (script : Script) : Prop where
  kernel : Line.fetch "kernel" (server ++ "/api/v1/files" ++ w.kernelPath)
    (" " ++ w.cmdline ++ " || goto error") ∈ script
  initrd : Line.fetch "initrd" (server ++ "/api/v1/files" ++ w.initrdPath) " || goto error" ∈ script

section

variable {server : String} {machine : Node} {w d : Web.Workflow}

theorem fetch_not_mem_sayAll (command url rest : String) (lines : List String) :
    Line.fetch command url rest ∉ sayAll lines := by
  intro h
  obtain ⟨text, -, heq⟩ := List.mem_map.mp h
  cases heq

/-- A script without such an initrd line. -/
theorem not_installs {script : Script}
    (h : ∀ url, Line.fetch "initrd" url " || goto error" ∉ script) : ¬ Installs server d script :=
  fun hinstalls => h _ hinstalls.initrd

/-- The lines of the kernel method. -/
theorem mem_kernelCommands {command url rest : String} :
    Line.fetch command url rest ∈ Web.kernelCommands server w
      ↔ Line.fetch command url rest = .fetch "kernel" (server ++ "/api/v1/files" ++ w.kernelPath)
          (" " ++ w.cmdline ++ " || goto error") ∨
        Line.fetch command url rest
          = .fetch "initrd" (server ++ "/api/v1/files" ++ w.initrdPath) " || goto error" := by
  unfold Web.kernelCommands Web.failedLines
  simp [fetch_not_mem_sayAll]

/-- **THE SCRIPT OF ONE DEFINITION INSTALLS ANOTHER ONE** exactly if its method loads the
kernel and both have the same kernel, initrd and command line. -/
theorem installs_generateInstallScript_iff :
    Installs server d (generateInstallScript server machine w)
      ↔ w.installMethod ∉ otherMethods ∧ w.kernelPath = d.kernelPath ∧
        w.initrdPath = d.initrdPath ∧ w.cmdline = d.cmdline := by
  have hheader : ∀ {command url rest} {script : Script}, Line.fetch command url rest
      ∈ Web.installHeader machine w ++ script ↔ Line.fetch command url rest ∈ script := by
    intro command url rest script
    rw [List.mem_append]
    exact or_iff_right (fetch_not_mem_sayAll command url rest _)
  -- the error scripts fetch nothing, and the other methods load no initrd with this ending
  have herror : ∀ text, ¬ Installs server d (Web.generateWorkflowErrorScript machine text) :=
    fun text => not_installs (fun url => fetch_not_mem_sayAll _ _ _ _)
  have hsanboot : ¬ Installs server d (Web.installHeader machine w ++ Web.sanbootCommands w) := by
    refine not_installs (fun url => ?_)
    rw [hheader]
    unfold Web.sanbootCommands Web.failedLines
    simp [fetch_not_mem_sayAll]
  have hchain : ¬ Installs server d (Web.installHeader machine w ++ Web.chainCommands w) := by
    refine not_installs (fun url => ?_)
    rw [hheader]
    unfold Web.chainCommands Web.failedLines
    simp [fetch_not_mem_sayAll]
  have himage : ¬ Installs server d (Web.installHeader machine w ++ Web.imageCommands server w) := by
    refine not_installs (fun url => ?_)
    rw [hheader]
    unfold Web.imageCommands Web.shellLines
    simp [fetch_not_mem_sayAll]
  have hclone : ¬ Installs server d
      (Web.installHeader machine w ++ Web.cloneCommands server machine w) := by
    refine not_installs (fun url => ?_)
    rw [hheader]
    unfold Web.cloneCommands Web.cloneGreeting Web.cloneFallback Web.cloneErrors Web.shellLines
    simp [fetch_not_mem_sayAll]
  have hkernel : Installs server d (Web.installHeader machine w ++ Web.kernelCommands server w)
      ↔ w.kernelPath = d.kernelPath ∧ w.initrdPath = d.initrdPath ∧ w.cmdline = d.cmdline := by
    constructor
    · rintro ⟨hk, hi⟩
      rw [hheader, mem_kernelCommands] at hk hi
      rcases hk with hk | hk
      · rcases hi with hi | hi
        · exact absurd (Line.fetch.inj hi).1 (by decide)
        · obtain ⟨-, hurl, hrest⟩ := Line.fetch.inj hk
          obtain ⟨-, hinitrd, -⟩ := Line.fetch.inj hi
          rw [String.append_left_inj, String.append_right_inj] at hrest
          exact ⟨(String.append_right_inj _).mp hurl.symm,
            (String.append_right_inj _).mp hinitrd.symm, hrest.symm⟩
      · exact absurd (Line.fetch.inj hk).1 (by decide)
    · rintro ⟨hk, hi, hc⟩
      refine ⟨?_, ?_⟩
      · rw [hheader, mem_kernelCommands, hk, hc]
        exact .inl rfl
      · rw [hheader, mem_kernelCommands, hi]
        exact .inr rfl
  -- the methods in the order of the tests
  unfold generateInstallScript otherMethods
  by_cases hs : w.installMethod = "sanboot"
  · by_cases hurl : w.bootUrl = "" <;> simp [hs, hurl, herror, hsanboot]
  by_cases hc : w.installMethod = "chain"
  · by_cases hurl : w.bootUrl = "" <;> simp [hc, hurl, herror, hchain]
  by_cases hi : w.installMethod = "image"
  · by_cases hurl : w.imageUrl = "" <;> simp [hi, hurl, herror, himage]
  by_cases hk : w.installMethod = "clone"
  · simp [hk, hclone]
  · simp [hs, hc, hi, hk, hkernel]

end

/-! ## §3. The boot of a pending node. -/

/-- A `GET /boot` for a pending node to which a workflow is assigned. -/
structure PendingBoot (workflowId : String) where
  env : Env
  now : Timestamp
  db : DB
  uuid : String
  req : BootRequest
  node : Node
  valid : macPatternMatches req.mac = true
  found : db.nodeByMac (normalizeMac req.mac) = some node
  pending : node.state = .pending
  assigned : node.workflowId = some workflowId

namespace PendingBoot

variable {workflowId : String} (b : PendingBoot workflowId) (address : String)
  (load : String → WorkflowLoad)

/-- The node as it is saved. -/
def machine : Node := touchBooted b.now b.node b.req

/-- It is told to install this workflow, with its variables resolved. -/
def BootsInto (d : Web.Workflow) : Prop :=
  ∃ script, answerBoot address load b.env b.now b.db b.uuid b.req = .ok script ∧
    Installs (serverUrl address) (resolveVariables (serverUrl address) b.machine d) script

/-- There is a definition file with this id that says the same to this node. -/
def FileSays (d : Web.Workflow) : Prop :=
  ∃ w, load workflowId = .found w ∧ w.installMethod ∉ otherMethods ∧
    w.kernelPath = d.kernelPath ∧ w.initrdPath = d.initrdPath ∧
    resolveText (serverUrl address) b.machine w.cmdline
      = resolveText (serverUrl address) b.machine d.cmdline

/-- **A PENDING NODE BOOTS INTO A WORKFLOW** exactly if the file of its id says the same. -/
theorem bootsInto_iff (hne : workflowId ≠ "") (d : Web.Workflow) :
    b.BootsInto address load d ↔ b.FileSays address load d := by
  have htruthy : Lifecycle.truthy b.node.workflowId = true := by
    rw [b.assigned]
    exact decide_eq_true hne
  have hid : b.node.workflowId.getD "" = workflowId := by
    rw [b.assigned]
    rfl
  unfold BootsInto FileSays
  rw [answerBoot_pending b.valid b.found b.pending, if_pos htruthy, hid]
  cases hload : load workflowId with
  | found w =>
      simp only [Except.ok.injEq, exists_eq_left', WorkflowLoad.found.injEq]
      exact installs_generateInstallScript_iff
  | notFound =>
      constructor
      · rintro ⟨script, hscript, hinstalls⟩
        obtain rfl := Except.ok.inj hscript
        exact absurd hinstalls (not_installs (fun url => fetch_not_mem_sayAll _ _ _ _))
      · rintro ⟨w, hw, -⟩
        cases hw
  | raised e =>
      constructor
      · rintro ⟨script, hscript, -⟩
        cases hscript
      · rintro ⟨w, hw, -⟩
        cases hw

end PendingBoot

/-! ## §4. Runs. -/

/-- **THE LAW**: every workflow in use is the one that boots. -/
def WorkflowsBoot (address : String) (load : String → WorkflowLoad) (db : WorkflowDb) : Prop :=
  ∀ id d, db.definition? id = some d → ∀ b : PendingBoot id, b.BootsInto address load d

/-- A request that is carried out makes no workflow but one that the file of its id has. -/
def MakesFile (session : SessionKind) (address : String) (load : String → WorkflowLoad)
    (db : WorkflowDb) (r : WorkflowRequest) : Prop :=
  (∃ out, perform session db r = .ok out) → ∀ d, r.makes = some d →
    ∀ b : PendingBoot r.id, b.FileSays address load d

/-- The invariant of a run. -/
structure WorkflowDb.Inv (db : WorkflowDb) : Prop where
  known : StepsKnown db
  ids : ∀ id w, db.active? id = some w → id ≠ ""

theorem Uuid.ne_empty (uuid : Uuid) : uuid.text ≠ "" := by
  intro h
  have hlength := uuid.length
  rw [h] at hlength
  cases hlength

section

variable {session : SessionKind} {address : String} {load : String → WorkflowLoad}
  {db db' : WorkflowDb} {r : WorkflowRequest}

theorem WorkflowDb.Inv.empty : WorkflowDb.empty.Inv where
  known := fun _ hs => (nomatch hs)
  ids := fun _ _ hw => (nomatch (WorkflowDb.active?_eq_some_iff.mp hw).1)

/-- The workflow of a request that was carried out has an id. -/
theorem perform_id {x : Unit} (h : perform session db r = .ok (x, db')) (hinv : db.Inv) :
    r.id ≠ "" := by
  cases r with
  | create workflowId uuid data => exact workflowId.ne_empty
  | update workflowId uuid data =>
      obtain ⟨response, hupdate⟩ := map_state_eq_ok h
      obtain ⟨w, -, hw, -⟩ := updateWorkflow_ok hupdate
      exact hinv.ids workflowId w hw
  | delete workflowId =>
      obtain ⟨message, hdelete⟩ := map_state_eq_ok h
      obtain ⟨w, hw, -⟩ := deleteWorkflow_ok hdelete
      exact hinv.ids workflowId w hw

/-- **EVERY REQUEST KEEPS THE INVARIANT.** -/
theorem WorkflowDb.Inv.exec (hinv : db.Inv) (r : WorkflowRequest) :
    (execWorkflow session db r).Inv := by
  refine ⟨stepsKnown_exec db r hinv.known, ?_⟩
  have hids : ∀ x db', perform session db r = .ok (x, db') →
      ∀ id w, db'.active? id = some w → id ≠ "" := by
    intro x db' h id w hw
    rw [active?_perform h] at hw
    by_cases hid : id = r.id
    · rw [hid]
      exact perform_id h hinv
    · rw [if_neg hid] at hw
      exact hinv.ids id w hw
  exact commitOrRollback_preserves
    (P := fun db : WorkflowDb => ∀ id w, db.active? id = some w → id ≠ "") hinv.ids hids

/-- **ONE REQUEST**: the law is kept by a request that makes what a file has. -/
theorem workflowsBoot_exec (hinv : db.Inv) (hboot : WorkflowsBoot address load db)
    (hmakes : MakesFile session address load db r) :
    WorkflowsBoot address load (execWorkflow session db r) := by
  cases h : perform session db r with
  | error e =>
      unfold execWorkflow
      rw [h]
      exact hboot
  | ok out =>
      obtain ⟨x, db'⟩ := out
      unfold execWorkflow
      rw [h]
      intro id d hd b
      have hd : db'.definition? id = some d := hd
      rw [definition?_perform hinv.known h] at hd
      by_cases hid : id = r.id
      · subst hid
        rw [if_pos rfl] at hd
        exact (b.bootsInto_iff address load (perform_id h hinv) d).mpr (hmakes ⟨_, h⟩ d hd b)
      · rw [if_neg hid] at hd
        exact hboot id d hd b

/-- Any other request breaks it. -/
theorem not_workflowsBoot_exec (hinv : db.Inv) (hmakes : ¬ MakesFile session address load db r) :
    ¬ WorkflowsBoot address load (execWorkflow session db r) := by
  intro hboot
  refine hmakes (fun hout d hd b => ?_)
  obtain ⟨⟨x, db'⟩, h⟩ := hout
  unfold execWorkflow at hboot
  rw [h] at hboot
  have hmade : db'.definition? r.id = some d := by
    rw [definition?_perform hinv.known h, if_pos rfl, hd]
  exact (b.bootsInto_iff address load (perform_id h hinv) d).mp (hboot r.id d hmade b)

/-- **WORKFLOWS OF THE API THAT BOOT**: after every request of a run each workflow in use is
what a pending node boots into, exactly if every request makes what the file of its id has. -/
theorem api_workflows_boot_iff (session : SessionKind) (address : String)
    (load : String → WorkflowLoad) (requests : List WorkflowRequest) :
    Always (execWorkflow session) (WorkflowsBoot address load) .empty requests
      ↔ Along (execWorkflow session) (MakesFile session address load) .empty requests := by
  have hstart : WorkflowDb.empty.Inv ∧ WorkflowsBoot address load .empty :=
    ⟨.empty, fun id d hd => (nomatch (Option.map_eq_some_iff.mp hd).choose_spec.1)⟩
  have hstep : ∀ db r, True → (db.Inv ∧ WorkflowsBoot address load db) →
      MakesFile session address load db r →
      (execWorkflow session db r).Inv ∧ WorkflowsBoot address load (execWorkflow session db r) :=
    fun db r _ h hmakes => ⟨h.1.exec r, workflowsBoot_exec h.1 h.2 hmakes⟩
  exact always_iff_along (L := fun _ => True) hstep (fun db h => h.2)
    (fun db r _ h hmakes => not_workflowsBoot_exec h.1 hmakes) (fun _ _ => trivial) hstart

end

/-! A workflow with one boot step, and no file that is named after its id. -/

def ubuntuId : Uuid := ⟨"5b3d6c1e-8a52-4f7a-9d55-3c1f0a2b4e60", rfl⟩

def ubuntuInput : WorkflowInput where
  name := "ubuntu-2404"
  osFamily := .linux
  steps := [{
    sequence := 1
    name := "PXE Boot"
    type := .boot
    config := some [("kernel", .str "/vmlinuz"), ("initrd", .str "/initrd")]
    sequence_pos := by decide
    name_length := by decide
    timeout_pos := by decide }]
  name_length := by decide

def ubuntuRequest : WorkflowRequest := .create ubuntuId (fun _ => ubuntuId) ubuntuInput

/-- A node to which it is assigned asks what to boot. -/
def ubuntuBoot : PendingBoot ubuntuRequest.id where
  env := Web.bootEnv
  now := ⟨0, true⟩
  db := Web.pendingDb (some ubuntuRequest.id)
  uuid := "u"
  req := Web.bootRequest
  node := Web.pendingNode (some ubuntuRequest.id)
  valid := by decide
  found := by
    rw [Web.normalizeMac_bootRequest]
    decide
  pending := rfl
  assigned := rfl

/-- It is told that there is no such workflow. -/
theorem api_workflow_not_found :
    ¬ Always (execWorkflow .sync) (WorkflowsBoot "10.0.0.1:8080" (fun _ => .notFound)) .empty
      [ubuntuRequest] := by
  intro h
  refine @not_workflowsBoot_exec .sync _ _ _ _ WorkflowDb.Inv.empty ?_ h.2
  intro hmakes
  have hout : ∃ out, perform .sync .empty ubuntuRequest = .ok out := ⟨_, rfl⟩
  obtain ⟨w, hw, -⟩ := hmakes hout _ rfl ubuntuBoot
  cases hw

end PureBoot.Workflows
