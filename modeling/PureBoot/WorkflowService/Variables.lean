/-
  PureBoot.WorkflowService.Variables — the VARIABLES of a workflow, resolved.

  Embeds `Workflow` and `resolve_variables` of `core/workflow_service.py`, and
  `_get_workflow_response` of `api/routes/boot_pi.py` with the boot parameters it reads.
  `resolve_variables` writes the record anew, field by field, and leaves out two of the
  fields; in each text it replaces the variables in turn, so a value that was put in is
  searched for the variables after it.

  Main results:
    * `resolveVariables_forScripts`, `getWorkflowResponse_resolved` — what the boot scripts
      and the Pi see of the resolved workflow;
    * `resolveVariables_atOnce` — the workflows that are resolved as they should be.
-/
import PureBoot.Lib.Dict
import PureBoot.Lib.Marks
import PureBoot.Web.DeployCallbacks

namespace PureBoot.WorkflowService

open PureBoot.Lib PureBoot.Lifecycle
open PureBoot.Web (PiSettings PiBootResponse callbackUrl serverUrl substitute)

/-! ## §1. The record. -/

/-- `Workflow`. -/
structure Workflow where
  id : String
  name : String
  description : String := ""
  kernelPath : String := ""
  initrdPath : String := ""
  cmdline : String := ""
  architecture : String := "x86_64"
  bootMode : String := "bios"
  installMethod : String := "kernel"
  bootUrl : String := ""
  imageUrl : String := ""
  targetDevice : String := "/dev/sda"
  sourceDevice : String := "/dev/sda"
  postScriptUrl : String := ""
  bootParams : Dict String String := Table.empty

/-- The fields that the boot scripts use. -/
def Workflow.forScripts (w : Workflow) : Web.Workflow where
  id := w.id
  name := w.name
  kernelPath := w.kernelPath
  initrdPath := w.initrdPath
  cmdline := w.cmdline
  installMethod := w.installMethod
  bootUrl := w.bootUrl
  imageUrl := w.imageUrl
  targetDevice := w.targetDevice
  sourceDevice := w.sourceDevice

/-- The texts whose variables are resolved. -/
def Workflow.texts (w : Workflow) : List String :=
  [w.cmdline, w.bootUrl, w.imageUrl, w.postScriptUrl]

/-! ## §2. `resolve_variables`. -/

section Resolve

variable (server nodeId mac : String) (ip : Option String)

/-- The replacements that are made in each of the texts. -/
def resolveText (text : String) : String :=
  let text := substitute "server" server text
  let text := substitute "node_id" nodeId text
  let text := substitute "mac" mac text
  if truthy ip then substitute "ip" (ip.getD "") text else text

/-- `resolve_variables`: `description` and `boot_params` are not passed on. -/
def resolveVariables (w : Workflow) : Workflow where
  id := w.id
  name := w.name
  kernelPath := w.kernelPath
  initrdPath := w.initrdPath
  cmdline := resolveText server nodeId mac ip w.cmdline
  architecture := w.architecture
  bootMode := w.bootMode
  installMethod := w.installMethod
  bootUrl := if w.bootUrl = "" then w.bootUrl else resolveText server nodeId mac ip w.bootUrl
  imageUrl := if w.imageUrl = "" then w.imageUrl else resolveText server nodeId mac ip w.imageUrl
  targetDevice := w.targetDevice
  sourceDevice := w.sourceDevice
  postScriptUrl :=
    if w.postScriptUrl = "" then w.postScriptUrl
    else resolveText server nodeId mac ip w.postScriptUrl

end Resolve

/-- For a node, the texts are those of the boot scripts. -/
theorem resolveText_node (server : String) (node : Node) (text : String) :
    resolveText server node.id node.macAddress node.ipAddress text
      = Web.resolveText server node text := by
  unfold resolveText Web.resolveText
  cases node.ipAddress with
  | none => rfl
  | some ip =>
      by_cases hip : ip = ""
      · simp [truthy, hip]
      · simp [truthy, hip]

theorem resolveVariables_forScripts (server : String) (node : Node) (w : Workflow) :
    (resolveVariables server node.id node.macAddress node.ipAddress w).forScripts
      = Web.resolveVariables server node w.forScripts := by
  simp only [resolveVariables, Workflow.forScripts, Web.resolveVariables, resolveText_node]
  rfl

/-! ## §3. The answer to a Raspberry Pi. -/

/-- `a or b`. -/
def orText (a : Option String) (b : String) : String := if truthy a then a.getD "" else b

/-- `_get_workflow_response`; a `Workflow` has no attributes `nfs_server` and
`nfs_base_path`, so `getattr` finds none. -/
def getWorkflowResponse (pi : PiSettings) (node : Node) (w : Workflow) : PiBootResponse :=
  let callbackUrl := callbackUrl (serverUrl pi.address) node.id
  if w.installMethod = "image" then
    { state := "installing", message := some ("Deploying " ++ w.name),
      action := some .deployImage, imageUrl := some w.imageUrl,
      targetDevice := some w.targetDevice, callbackUrl := some callbackUrl }
  else if w.installMethod = "nfs" then
    { state := "installing", message := some ("NFS boot: " ++ w.name), action := some .nfsBoot,
      nfsServer := some (orText (Dict.get w.bootParams "nfs_server") pi.nfsServer),
      nfsPath := some (orText (Dict.get w.bootParams "nfs_path")
        (orText (Dict.get w.bootParams "nfs_base_path") pi.nfsRootPath)),
      callbackUrl := some callbackUrl }
  else
    { state := "pending",
      message := some ("Workflow method '" ++ w.installMethod ++ "' not supported for Pi"),
      action := some .localBoot }

/-- **THE BOOT PARAMETERS** never reach the Pi: its answer is made from the settings. -/
theorem getWorkflowResponse_resolved (pi : PiSettings) (node : Node) (server : String)
    (w : Workflow) :
    getWorkflowResponse pi node
        (resolveVariables server node.id node.macAddress node.ipAddress w)
      = Web.getWorkflowResponse pi node (Web.resolveVariables server node w.forScripts) := by
  rw [← resolveVariables_forScripts]
  rfl

/-! ## §4. The variables replaced at once. -/

inductive Variable where
  | server
  | nodeId
  | mac
  | ip
  deriving DecidableEq, Repr

def Variable.name : Variable → String
  | .server => "server"
  | .nodeId => "node_id"
  | .mac => "mac"
  | .ip => "ip"

/-- `${name}`. -/
def placeholders : Marks Char Variable where
  first := '$'
  rest x := '{' :: (x.name.toList ++ ['}'])
  first_not_mem := by
    intro x
    cases x <;> decide +kernel
  eq_of_prefix := by
    intro x y h
    revert h
    cases x <;> cases y <;> decide +kernel

section AtOnce

variable (server nodeId mac : String) (ip : Option String)

/-- The variables that have a value; an empty text is no address. -/
def given : List Variable :=
  [.server, .nodeId, .mac] ++ if truthy ip then [.ip] else []

def value : Variable → List Char
  | .server => server.toList
  | .nodeId => nodeId.toList
  | .mac => mac.toList
  | .ip => (ip.getD "").toList

/-- The text with its variables replaced at once. -/
def substituted (text : String) : String :=
  String.ofList (placeholders.atOnce (value server nodeId mac ip) (given ip) text.toList)

/-- The workflow with the variables of its texts replaced, and the rest as it was. -/
def resolvedAtOnce (w : Workflow) : Workflow :=
  { w with
    cmdline := substituted server nodeId mac ip w.cmdline
    bootUrl := substituted server nodeId mac ip w.bootUrl
    imageUrl := substituted server nodeId mac ip w.imageUrl
    postScriptUrl := substituted server nodeId mac ip w.postScriptUrl }

/-- In the text no variable arises from the values of those before it. -/
def NothingArises (text : String) : Prop :=
  placeholders.NoneArises (value server nodeId mac ip) (given ip) text.toList

end AtOnce

variable {server nodeId mac : String} {ip : Option String}

theorem nodup_given : (given ip).Nodup := by
  unfold given
  split <;> decide

theorem substitute_name (x : Variable) (value text : String) :
    substitute x.name value text
      = String.ofList (replaceAll (placeholders.word x) value.toList text.toList) := by
  unfold substitute
  rw [List.append_assoc]
  rfl

/-- The code replaces the variables in turn. -/
theorem resolveText_eq_inTurn (text : String) :
    resolveText server nodeId mac ip text
      = String.ofList (placeholders.inTurn (value server nodeId mac ip) (given ip)
          text.toList) := by
  have hserver := substitute_name .server server
  have hnode := substitute_name .nodeId nodeId
  have hmac := substitute_name .mac mac
  have hip := substitute_name .ip (ip.getD "")
  simp only [Variable.name] at hserver hnode hmac hip
  simp only [resolveText, hserver, hnode, hmac, hip, String.toList_ofList]
  unfold given
  split
  next h => rfl
  next h => rfl

/-- The texts that the code does not look at are empty. -/
theorem ite_resolveText (text : String) :
    (if text = "" then text else resolveText server nodeId mac ip text)
      = resolveText server nodeId mac ip text := by
  split
  next h =>
    subst h
    rw [resolveText_eq_inTurn]
    exact (congrArg String.ofList (placeholders.inTurn_nil (given ip))).symm
  next h => rfl

theorem resolveText_of_nothingArises {text : String}
    (h : NothingArises server nodeId mac ip text) :
    resolveText server nodeId mac ip text = substituted server nodeId mac ip text := by
  rw [resolveText_eq_inTurn, placeholders.inTurn_eq_atOnce nodup_given h]
  rfl

/-- A variable that has arisen is gone: no value after the server's brings its `$` back. -/
theorem nothingArises_of_resolveText_eq {text : String}
    (hnode : '$' ∉ nodeId.toList) (hmac : '$' ∉ mac.toList) (hip : ∀ a ∈ ip, '$' ∉ a.toList)
    (h : resolveText server nodeId mac ip text = substituted server nodeId mac ip text) :
    NothingArises server nodeId mac ip text := by
  rw [resolveText_eq_inTurn] at h
  refine placeholders.noneArises_of_inTurn_eq nodup_given ?_ (String.ofList_injective h)
  intro x hx
  cases x with
  | server =>
      unfold given at hx
      split at hx <;> simp at hx
  | nodeId => exact hnode
  | mac => exact hmac
  | ip =>
      cases ip with
      | none => exact List.not_mem_nil
      | some a => exact hip a rfl

/-! ## §5. The workflows that are resolved as they should be. -/

/-- What is not passed on had its default. -/
def NothingLost (w : Workflow) : Prop := w.description = "" ∧ w.bootParams = Table.empty

theorem nothingLost_iff (server nodeId mac : String) (ip : Option String) (w : Workflow) :
    NothingLost w ↔ (resolveVariables server nodeId mac ip w).description = w.description
      ∧ (resolveVariables server nodeId mac ip w).bootParams = w.bootParams := by
  constructor
  · rintro ⟨hdesc, hparams⟩
    exact ⟨hdesc.symm, hparams.symm⟩
  · rintro ⟨hdesc, hparams⟩
    exact ⟨hdesc.symm, hparams.symm⟩

/-- The two workflows agree exactly if they agree on each text, and nothing is lost. -/
theorem resolveVariables_eq_iff (w : Workflow) :
    resolveVariables server nodeId mac ip w = resolvedAtOnce server nodeId mac ip w ↔
      NothingLost w ∧ ∀ text ∈ w.texts,
        resolveText server nodeId mac ip text = substituted server nodeId mac ip text := by
  rw [nothingLost_iff server nodeId mac ip]
  simp only [resolveVariables, resolvedAtOnce, ite_resolveText, Workflow.mk.injEq, Workflow.texts,
    List.forall_mem_cons, true_and]
  constructor
  · rintro ⟨hdesc, hcmdline, hboot, himage, hpost, hparams⟩
    exact ⟨⟨hdesc, hparams⟩, hcmdline, hboot, himage, hpost, fun _ h => absurd h List.not_mem_nil⟩
  · rintro ⟨⟨hdesc, hparams⟩, hcmdline, hboot, himage, hpost, -⟩
    exact ⟨hdesc, hcmdline, hboot, himage, hpost, hparams⟩

/-- **A WORKFLOW IS RESOLVED** as it should be if it has neither a description nor boot
parameters and in none of its texts a variable arises from the values of those before it;
and only then, as far as the values after the server's have no `$`. -/
theorem resolveVariables_atOnce (server nodeId mac : String) (ip : Option String)
    (w : Workflow) :
    (NothingLost w → (∀ text ∈ w.texts, NothingArises server nodeId mac ip text) →
      resolveVariables server nodeId mac ip w = resolvedAtOnce server nodeId mac ip w)
    ∧ (resolveVariables server nodeId mac ip w = resolvedAtOnce server nodeId mac ip w →
      NothingLost w
        ∧ ('$' ∉ nodeId.toList → '$' ∉ mac.toList → (∀ a ∈ ip, '$' ∉ a.toList) →
          ∀ text ∈ w.texts, NothingArises server nodeId mac ip text)) := by
  constructor
  · intro hlost harises
    exact (resolveVariables_eq_iff w).mpr
      ⟨hlost, fun text htext => resolveText_of_nothingArises (harises text htext)⟩
  · intro h
    obtain ⟨hlost, htexts⟩ := (resolveVariables_eq_iff w).mp h
    refine ⟨hlost, fun hnode hmac hip text htext => ?_⟩
    exact nothingArises_of_resolveText_eq hnode hmac hip (htexts text htext)

/-- An installation from a kernel. -/
def installWorkflow : Workflow where
  id := "ubuntu-2404"
  name := "Ubuntu Server"
  kernelPath := "/ubuntu/vmlinuz"
  cmdline := "ip=dhcp url=${server}/autoinstall?mac=${mac}"

theorem installWorkflow_resolved :
    resolveVariables "http://10.0.0.1" "n1" "aa:bb:cc:dd:ee:ff" none installWorkflow
        = resolvedAtOnce "http://10.0.0.1" "n1" "aa:bb:cc:dd:ee:ff" none installWorkflow
      ∧ NothingArises "http://10.0.0.1" "n1" "aa:bb:cc:dd:ee:ff" none installWorkflow.cmdline := by
  have hlost : NothingLost installWorkflow := ⟨rfl, rfl⟩
  have harises : ∀ text ∈ installWorkflow.texts,
      NothingArises "http://10.0.0.1" "n1" "aa:bb:cc:dd:ee:ff" none text := by
    unfold NothingArises Marks.NoneArises
    decide +kernel
  have heq := (resolveVariables_atOnce _ _ _ _ installWorkflow).1 hlost harises
  refine ⟨heq, ?_⟩
  exact ((resolveVariables_atOnce _ _ _ _ installWorkflow).2 heq).2 (by decide) (by decide)
    (by decide) _ List.mem_cons_self

/-- A Pi that boots from a share of its own, with its address on the command line. -/
def nfsWorkflow : Workflow where
  id := "pi-nfs"
  name := "Pi"
  cmdline := "id=${node_id}"
  installMethod := "nfs"
  bootParams := Dict.set Table.empty "nfs_server" "10.0.0.9"

/-- The share of the Pi is lost. -/
theorem nfsWorkflow_not_resolved :
    ¬ ∀ (server nodeId mac : String) (ip : Option String) (w : Workflow),
      resolveVariables server nodeId mac ip w = resolvedAtOnce server nodeId mac ip w := by
  intro h
  have hparams := congrArg Workflow.bootParams (h "http://10.0.0.1" "n1" "aa:bb" none nfsWorkflow)
  have hget := congrArg (fun d => Dict.get d "nfs_server") hparams
  revert hget
  decide +kernel

/-- The values are searched. -/
example :
    resolveText "http://10.0.0.1" "$\x7bmac\x7d" "aa:bb" none "id=$\x7bnode_id\x7d" = "id=aa:bb"
      ∧ substituted "http://10.0.0.1" "$\x7bmac\x7d" "aa:bb" none "id=$\x7bnode_id\x7d"
        = "id=$\x7bmac\x7d" := by
  decide +kernel

/-- A variable arises, and its own name is its value: nothing has changed in the end. -/
example :
    resolveText "" "${mac}" "${mac}" none "${node_id}"
        = substituted "" "${mac}" "${mac}" none "${node_id}"
      ∧ ¬ NothingArises "" "${mac}" "${mac}" none "${node_id}" := by
  unfold NothingArises Marks.NoneArises
  decide +kernel

end PureBoot.WorkflowService
