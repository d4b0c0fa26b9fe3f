/-
  PureBoot.Web.Scripts — the BOOT SCRIPTS and what they fetch.

  Embeds the script generators of `api/routes/boot.py` (`generate_install_script`,
  `generate_pending_no_workflow_script`, the scripts without downloads and the
  configurations of `get_grub_config`) and `resolve_variables` of
  `core/workflow_service.py`.  A script is a list of lines; a line either has the machine
  fetch something (`kernel`, `initrd`, `chain`, `sanboot`, `linux`) or does not (comments,
  output, labels).  What is fetched from this server is read off the words of the lines:
  the URL of the command, absolute or relative, and the URLs on the command line that the
  booted kernel is given.  What a machine makes of a URL is a parameter; the server
  decodes the path, and the gate looks at what is left of it in `request.url`.

  Main results:
    * `publicOnly_generateInstallScript`, `publicOnly_grubInstall` — the workflows whose
      script has public URLs only;
    * `publicOnly_pending`, `publicOnly_grubPending` — a node without a workflow is never
      told about public URLs only.
-/
import PureBoot.Lib.Url
import PureBoot.Lifecycle.NodeApi
import PureBoot.Web.Auth

namespace PureBoot.Web

open PureBoot.Lib PureBoot.Lifecycle

/-! ## §1. Scripts and what they fetch. -/

inductive Line where
  /-- Nothing is fetched. -/
  | say (text : String)
  /-- The URL after the command is fetched; what follows it is for the kernel that is
  loaded, or tells where to go on. -/
  | fetch (command url rest : String)
  deriving DecidableEq

abbrev Script : Type := List Line

def Line.text : Line → String
  | .say text => text ++ "\n"
  | .fetch command url rest => command ++ " " ++ url ++ rest ++ "\n"

/-- The text that is sent. -/
def renderScript (script : Script) : String := String.join (script.map Line.text)

/-- A machine that boots from this server, and what it makes of URLs. -/
structure Machine (server : String) where
  /-- The `Host` header that it sends. -/
  host : Authority
  /-- The path that this server is asked for, decoded, when the machine fetches a URL of the
  script; `none` is another server. -/
  resolve : List Char → Option (List Char)
  plain : ∀ c ∈ server.toList, c.isWhitespace = false
  /-- The path of an absolute URL is requested as it is written. -/
  own : ∀ rest : List Char, (∀ c ∈ rest, c.isWhitespace = false) →
    resolve (server.toList ++ '/' :: rest) = some (unquote (cutQuery ('/' :: rest)))

/-- The first word of a text that begins with one. -/
def firstWord (t : List Char) : List Char := t.takeWhile (fun c => !c.isWhitespace)

/-- What stands behind it. -/
def afterWord (t : List Char) : List Char := t.dropWhile (fun c => !c.isWhitespace)

/-- `text.lstrip()`. -/
def lstripBlank (t : List Char) : List Char := t.dropWhile Char.isWhitespace

section Machines

variable {server : String} (m : Machine server)

/-- The path that the gate looks at when a URL is fetched. -/
def Machine.pathOn (url : List Char) : Option (List Char) :=
  if url = [] then none else (m.resolve url).map (fun path => pathOf (m.host.text ++ path))

/-- The paths of this server on a command line: wherever a word has its address. -/
def Machine.pathsIn (cmdline : List Char) : List (List Char) :=
  (cmdline.splitOnP Char.isWhitespace).flatMap (fun word =>
    word.tails.filterMap (fun url => if server.toList <+: url then m.pathOn url else none))

def Line.paths : Line → List (List Char)
  | .say _ => []
  | .fetch _ url rest =>
      let url := lstripBlank url.toList
      (m.pathOn (firstWord url)).toList ++ m.pathsIn (afterWord url ++ rest.toList)

def scriptPaths (script : Script) : List (List Char) :=
  script.flatMap (Line.paths m)

/-- Every URL of this server in the script is public. -/
def publicOnly (script : Script) : Bool :=
  (scriptPaths m script).all isPublicPath

end Machines

/-! ## §2. Workflows. -/

/-- The fields of `Workflow` that the scripts use. -/
structure Workflow where
  id : String
  name : String
  kernelPath : String := ""
  initrdPath : String := ""
  cmdline : String := ""
  installMethod : String := "kernel"
  bootUrl : String := ""
  imageUrl : String := ""
  targetDevice : String := "/dev/sda"
  sourceDevice : String := "/dev/sda"
  deriving DecidableEq

/-- What `get_workflow` gives. -/
inductive WorkflowLoad where
  | found (workflow : Workflow)
  /-- `WorkflowNotFoundError` or `ValueError`. -/
  | notFound
  | raised (e : Exn)

/-- `text.replace("${name}", value)`. -/
def substitute (name : String) (value : String) (text : String) : String :=
  String.ofList (replaceAll ("$\x7b".toList ++ name.toList ++ "\x7d".toList) value.toList
    text.toList)

/-- The replacements of `resolve_variables`, in their order. -/
def resolveText (server : String) (node : Node) (text : String) : String :=
  let text := substitute "server" server text
  let text := substitute "node_id" node.id text
  let text := substitute "mac" node.macAddress text
  match node.ipAddress with
  | some ip => if ip = "" then text else substitute "ip" ip text
  | none => text

/-- `resolve_variables`. -/
def resolveVariables (server : String) (node : Node) (w : Workflow) : Workflow :=
  { w with
    cmdline := resolveText server node w.cmdline
    bootUrl := if w.bootUrl = "" then w.bootUrl else resolveText server node w.bootUrl
    imageUrl := if w.imageUrl = "" then w.imageUrl else resolveText server node w.imageUrl }

/-! ## §3. The generators. -/

/-- `mac.replace(":", "")[-6:].upper()`. -/
def shortId (mac : String) : String :=
  let digits := mac.toList.filter (fun c => c ≠ ':')
  String.ofList ((digits.drop (digits.length - 6)).map Char.toUpper)

/-- `${net0/ip}`. -/
def netIp : String := "$\x7bnet0/ip\x7d"

/-- Lines that fetch nothing. -/
def sayAll (lines : List String) : Script := lines.map Line.say

/-- `generate_local_boot_script`. -/
def generateLocalBootScript : Script :=
  sayAll ["#!ipxe", "# PureBoot - Boot from local disk", "echo Booting from local disk...", "exit"]

example : renderScript generateLocalBootScript
    = "#!ipxe\n# PureBoot - Boot from local disk\necho Booting from local disk...\nexit\n" := by
  decide +kernel

/-- `generate_workflow_error_script`. -/
def generateWorkflowErrorScript (node : Node) (errorMessage : String) : Script :=
  sayAll ["#!ipxe", "# PureBoot - Installation Error", "# MAC: " ++ node.macAddress,
    "# Error: " ++ errorMessage, "echo", "echo *** ERROR ***", "echo",
    "echo Node: " ++ node.macAddress, "echo Error: " ++ errorMessage, "echo",
    "echo Manual intervention may be required.", "echo",
    "echo Booting from local disk in 30 seconds...",
    "echo Press any key to enter iPXE shell.", "sleep 30 || shell", "exit"]

/-- `generate_install_retry_script`. -/
def generateInstallRetryScript (node : Node) : Script :=
  sayAll ["#!ipxe", "# PureBoot - Installation Retry", "# MAC: " ++ node.macAddress,
    "# Attempt: " ++ toString node.installAttempts, "echo",
    "echo Previous installation attempt timed out.",
    "echo Retrying installation (attempt " ++ toString node.installAttempts ++ ")...",
    "echo", "echo Booting from local disk...",
    "echo Installation will restart on next provisioning cycle.", "sleep 5", "exit"]

/-- The header of an installation script. -/
def installHeader (node : Node) (w : Workflow) : Script :=
  sayAll ["#!ipxe", "# PureBoot - Installing " ++ w.name, "# Node: " ++ node.macAddress,
    "# Workflow: " ++ w.id, "# Method: " ++ w.installMethod, "echo",
    "echo ========================================", "echo   PureBoot - OS Installation",
    "echo ========================================", "echo",
    "echo   Node ID:  " ++ shortId node.macAddress, "echo   MAC:      " ++ node.macAddress,
    "echo   IP:       " ++ netIp, "echo   Workflow: " ++ w.name,
    "echo   Method:   " ++ w.installMethod, "echo"]

/-- The lines after a boot command that fails. -/
def failedLines (title reason : String) : Script :=
  sayAll ["", ":error", "echo", "echo *** " ++ title ++ " ***", "echo " ++ reason,
    "echo Press any key to enter iPXE shell.", "sleep 30 || shell", "exit"]

/-- A label with two messages and a shell. -/
def shellLines (label title reason : String) : Script :=
  sayAll ["", ":" ++ label, "echo", "echo *** " ++ title ++ " ***", "echo " ++ reason,
    "echo Press any key for shell...", "prompt", "shell"]

/-- The boot files of the deploy environment. -/
def grubEfi (server : String) : String := server ++ "/api/v1/files/tftp/uefi/grubx64.efi"

def deployKernel (server : String) : String := server ++ "/api/v1/files/tftp/deploy/vmlinuz-virt"

def deployInitrd (server : String) : String :=
  server ++ "/api/v1/files/tftp/deploy/initramfs-virt"

/-- The command lines of the deploy environment begin with this. -/
def deployParams (server : String) (node : Node) : String :=
  "ip=dhcp pureboot.server=" ++ server ++ " pureboot.node_id=" ++ node.id
    ++ " pureboot.mac=" ++ node.macAddress

/-- The kernel command line of a clone source. -/
def cloneCmdline (server : String) (node : Node) (w : Workflow) : String :=
  deployParams server node ++ " pureboot.mode=clone_source pureboot.source_device="
    ++ w.sourceDevice ++ " pureboot.callback=" ++ server ++ "/api/v1/nodes/" ++ node.id
    ++ "/clone-ready console=ttyS0 console=tty0"

/-- The `image` method. -/
def imageCommands (server : String) (w : Workflow) : Script :=
  sayAll ["echo Image-based deployment", "echo", "echo   Image:  " ++ w.imageUrl,
    "echo   Target: " ++ w.targetDevice, "echo", "echo Chainloading GRUB bootloader...",
    "echo GRUB will load the Linux kernel.", "echo"]
  ++ .fetch "chain" (grubEfi server) " || goto grub_error"
  :: shellLines "grub_error" "GRUB LOAD FAILED" "Could not chainload GRUB EFI bootloader."

/-- The `clone` method: GRUB, then the kernel itself. -/
def cloneGreeting (w : Workflow) : Script :=
  sayAll ["echo Clone Source Mode", "echo", "echo   This node will serve its disk for cloning",
    "echo   Source: " ++ w.sourceDevice, "echo", "echo   Other nodes can clone from this machine.",
    "echo   Do NOT shut down until cloning is complete.", "echo",
    "echo Chainloading GRUB bootloader...", "echo GRUB will load the Linux kernel.", "echo"]

def cloneFallback : Script :=
  sayAll ["", ":grub_error", "echo", "echo *** GRUB LOAD FAILED ***",
    "echo Could not chainload GRUB EFI bootloader.", "echo",
    "echo Trying direct kernel boot (may not work on all UEFI)...", "echo"]

def cloneErrors (server : String) : Script :=
  shellLines "kerror" "KERNEL LOAD FAILED" ("Could not load: " ++ deployKernel server)
  ++ shellLines "ierror" "INITRD LOAD FAILED" ("Could not load: " ++ deployInitrd server)
  ++ shellLines "booterror" "BOOT FAILED" "Failed to start kernel."

def cloneCommands (server : String) (node : Node) (w : Workflow) : Script :=
  cloneGreeting w
  ++ .fetch "chain" (grubEfi server) " || goto grub_error"
  :: cloneFallback
  ++ .fetch "kernel" (deployKernel server)
      (" " ++ cloneCmdline server node w ++ " || goto kerror")
  :: .fetch "initrd" (deployInitrd server) " || goto ierror"
  :: .say "boot || goto booterror"
  :: cloneErrors server

/-- Every other method. -/
def kernelCommands (server : String) (w : Workflow) : Script :=
  .say "echo Loading kernel..."
  :: .fetch "kernel" (server ++ "/api/v1/files" ++ w.kernelPath)
      (" " ++ w.cmdline ++ " || goto error")
  :: .say "echo Loading initrd..."
  :: .fetch "initrd" (server ++ "/api/v1/files" ++ w.initrdPath) " || goto error"
  :: sayAll ["echo", "echo Starting installation...", "boot"]
  ++ failedLines "BOOT FAILED" "Failed to load kernel or initrd."

/-- The `sanboot` method. -/
def sanbootCommands (w : Workflow) : Script :=
  sayAll ["echo Booting from ISO: " ++ w.bootUrl, "echo",
    "echo This may take several minutes to download...", "echo"]
  ++ .fetch "sanboot" w.bootUrl " || goto error"
  :: failedLines "BOOT FAILED" "Failed to boot from ISO."

/-- The `chain` method. -/
def chainCommands (w : Workflow) : Script :=
  sayAll ["echo Chainloading: " ++ w.bootUrl, "echo"]
  ++ .fetch "chain" w.bootUrl " || goto error"
  :: failedLines "CHAIN FAILED" "Failed to chainload boot script."

/-- `generate_install_script`. -/
def generateInstallScript (server : String) (node : Node) (w : Workflow) : Script :=
  if w.installMethod = "sanboot" then
    if w.bootUrl = "" then generateWorkflowErrorScript node "sanboot method requires boot_url"
    else installHeader node w ++ sanbootCommands w
  else if w.installMethod = "chain" then
    if w.bootUrl = "" then generateWorkflowErrorScript node "chain method requires boot_url"
    else installHeader node w ++ chainCommands w
  else if w.installMethod = "image" then
    if w.imageUrl = "" then generateWorkflowErrorScript node "image method requires image_url"
    else installHeader node w ++ imageCommands server w
  else if w.installMethod = "clone" then installHeader node w ++ cloneCommands server node w
  else installHeader node w ++ kernelCommands server w

/-- The status lines of a node that waits for its workflow. -/
def pendingStatus (server : String) (node : Node) : Script :=
  let ipAddr := if truthy node.ipAddress then node.ipAddress.getD "" else netIp
  sayAll ["echo   Node ID:  " ++ shortId node.macAddress, "echo   MAC:      " ++ node.macAddress,
    "echo   IP:       " ++ ipAddr, "echo   Status:   Pending", "echo   Server:   " ++ server,
    "echo"]

def pendingGreeting (node : Node) : Script :=
  sayAll ["#!ipxe", "# PureBoot - Pending (no workflow assigned)", "# Node: " ++ node.macAddress,
    "# Booting into deploy environment for disk discovery", "", "console --x 800 --y 600 ||",
    "clear ||", "", "echo", "echo ========================================",
    "echo   PureBoot - Booting Deploy Environment",
    "echo ========================================", "echo"]

def pendingPoll : Script :=
  sayAll ["echo Booting deploy environment...", "boot || goto poll", "", ":poll",
    "console --x 800 --y 600 ||", "clear ||", "echo",
    "echo ========================================", "echo   PureBoot - Awaiting Workflow",
    "echo ========================================", "echo"]

def pendingAdvice : Script :=
  sayAll ["echo   Assign a workflow in the PureBoot UI.", "echo",
    "echo ========================================", "echo", "echo Deploy environment boot failed.",
    "echo Falling back to iPXE polling mode...", "echo", ""]

/-- The kernel command line of a node that waits for its workflow. -/
def pendingCmdline (server : String) (node : Node) : String :=
  "pureboot.mode=pending pureboot.server=" ++ server ++ " pureboot.mac=" ++ node.macAddress
    ++ " pureboot.node_id=" ++ node.id ++ " ip=dhcp console=tty0 console=ttyS0,115200"

/-- `generate_pending_no_workflow_script`. -/
def generatePendingNoWorkflowScript (server : String) (node : Node) : Script :=
  pendingGreeting node ++ pendingStatus server node
  ++ sayAll ["echo ========================================", "echo", "echo Loading kernel..."]
  ++ .fetch "kernel" (deployKernel server)
      (" " ++ pendingCmdline server node ++ " || goto poll")
  :: .say "echo Loading initrd..."
  :: .fetch "initrd" (deployInitrd server) " || goto poll"
  :: pendingPoll ++ pendingStatus server node ++ pendingAdvice
  ++ .fetch "chain" (server ++ "/api/v1/boot/status?mac=" ++ node.macAddress) " || goto retry"
  :: sayAll ["goto poll", "", ":retry", "sleep 5", "goto poll"]

/-- `get_server_url`: the scheme and the address of the server. -/
def serverUrl (address : String) : String := "http://" ++ address

/-- The entry that every GRUB configuration ends with. -/
def grubLocalEntry : Script :=
  sayAll ["menuentry \"Boot from local disk\" \x7b", "    exit", "\x7d"]

/-- A configuration that loads a kernel. -/
def grubConfig (title loading kernel cmdline initrd : String) : Script :=
  sayAll ["set default=0", "set timeout=3", "", "menuentry \"" ++ title ++ "\" \x7b",
    "    echo \"" ++ loading ++ "\""]
  ++ .fetch "    linux" kernel (" " ++ cmdline)
  :: .say "    echo \"Loading initrd...\""
  :: .fetch "    initrd" initrd ""
  :: sayAll ["    echo \"Booting...\"", "\x7d", ""]
  ++ grubLocalEntry

/-- For an unknown node. -/
def grubLocal : Script := sayAll ["set default=0", "set timeout=5", ""] ++ grubLocalEntry

/-- For a workflow that is not found. -/
def grubError (workflowId : String) : Script :=
  sayAll ["set default=0", "set timeout=5", "", "menuentry \"Error: Workflow not found\" \x7b",
    "    echo \"Workflow '" ++ workflowId ++ "' not found\"", "    sleep 10", "    exit", "\x7d"]

/-- For a node without a workflow. -/
def grubPending (server : String) (node : Node) : Script :=
  grubConfig ("PureBoot Deploy Environment - " ++ node.macAddress) "Loading deploy kernel..."
    (deployKernel server)
    (deployParams server node ++ " pureboot.mode=pending console=ttyS0 console=tty0")
    (deployInitrd server)

/-- The kernel command line of an image deployment. -/
def imageCmdline (server : String) (node : Node) (w : Workflow) : String :=
  deployParams server node ++ " pureboot.image_url=" ++ w.imageUrl ++ " pureboot.target="
    ++ w.targetDevice ++ " pureboot.callback=" ++ server ++ "/api/v1/nodes/" ++ node.id
    ++ "/installed console=ttyS0 console=tty0"

/-- For a node with a workflow. -/
def grubInstall (server : String) (node : Node) (w : Workflow) : Script :=
  if w.installMethod = "clone" then
    grubConfig ("PureBoot Clone Source - " ++ node.macAddress) "Loading kernel..."
      (deployKernel server) (cloneCmdline server node w) (deployInitrd server)
  else if w.installMethod = "image" then
    grubConfig ("PureBoot Image Deploy - " ++ node.macAddress) "Loading kernel..."
      (deployKernel server) (imageCmdline server node w) (deployInitrd server)
  else
    grubConfig ("PureBoot Install - " ++ w.name) "Loading kernel..."
      (server ++ "/api/v1/files" ++ w.kernelPath) w.cmdline
      (server ++ "/api/v1/files" ++ w.initrdPath)

/-! ## §4. Paths of this server. -/

section Paths

variable {server : String} (m : Machine server)

@[simp] theorem publicOnly_append (a b : Script) :
    publicOnly m (a ++ b) = (publicOnly m a && publicOnly m b) := by
  simp [publicOnly, scriptPaths]

@[simp] theorem publicOnly_say (text : String) (rest : Script) :
    publicOnly m (.say text :: rest) = publicOnly m rest := rfl

@[simp] theorem publicOnly_sayAll (lines : List String) : publicOnly m (sayAll lines) = true := by
  induction lines with
  | nil => rfl
  | cons text lines ih => exact ih

/-- The words of two parts are looked at one after the other. -/
theorem pathsIn_append (a b : List Char) :
    m.pathsIn (a ++ ' ' :: b) = m.pathsIn a ++ m.pathsIn b := by
  unfold Machine.pathsIn
  rw [List.splitOnP_append_cons a b rfl, List.flatMap_append]

/-- Words without a letter of the server's URL do not have its URL. -/
theorem pathsIn_eq_nil {c : Char} {text : List Char} (hc : c ∈ server.toList)
    (h : ∀ word ∈ text.splitOnP Char.isWhitespace, c ∉ word) : m.pathsIn text = [] := by
  unfold Machine.pathsIn
  rw [List.flatMap_eq_nil_iff]
  intro word hword
  rw [List.filterMap_eq_nil_iff]
  intro url hurl
  -- a URL of the server would bring its letters with it
  have hsuffix : url <:+ word := (List.mem_tails url word).mp hurl
  have hno : ¬ server.toList <+: url := by
    intro hserver
    exact h word hword (hsuffix.subset (hserver.subset hc))
  rw [if_neg hno]

theorem firstWord_append {a : List Char} (b : List Char) (h : ∀ c ∈ a, c.isWhitespace = false) :
    firstWord (a ++ b) = a ++ firstWord b := by
  unfold firstWord
  rw [List.takeWhile_append_of_pos]
  intro c hc
  rw [h c hc]
  rfl

theorem afterWord_append {a : List Char} (b : List Char) (h : ∀ c ∈ a, c.isWhitespace = false) :
    afterWord (a ++ b) = afterWord b := by
  unfold afterWord
  rw [List.dropWhile_append_of_pos]
  intro c hc
  rw [h c hc]
  rfl

theorem firstWord_plain (t : List Char) : ∀ c ∈ firstWord t, c.isWhitespace = false := by
  intro c hc
  simpa using List.all_eq_true.mp List.all_takeWhile c hc

/-- Nothing stands before the first word. -/
theorem lstripBlank_of_plain {c : Char} (t : List Char) (h : c.isWhitespace = false) :
    lstripBlank (c :: t) = c :: t := by
  unfold lstripBlank
  rw [List.dropWhile_cons_of_neg]
  rw [h]
  exact Bool.false_ne_true

/-- An ending that begins with a letter foreign to the front is an ending of the rest. -/
theorem suffix_append_iff {c : Char} {ext front p : List Char} (hc : c ∉ front) :
    c :: ext <:+ front ++ p ↔ c :: ext <:+ p := by
  constructor
  · intro h
    rcases List.suffix_or_suffix_of_suffix h (List.suffix_append front p) with hp | hp
    · exact hp
    · obtain ⟨t, ht⟩ := hp
      cases t with
      | nil => exact ⟨[], ht.symm⟩
      | cons d t =>
          -- then `c` is a letter of the front
          obtain ⟨u, hu⟩ := h
          rw [← ht, ← List.append_assoc, List.append_left_inj] at hu
          obtain ⟨rfl, -⟩ := List.cons.inj ht
          exact absurd (hu ▸ List.mem_append_right u List.mem_cons_self) hc
  · exact fun h => h.trans (List.suffix_append front p)

theorem publicExtensions_dot : ∀ ext ∈ publicExtensions, ∃ rest, ext = '.' :: rest := by
  intro ext hext
  simp only [publicExtensions, List.mem_cons, List.not_mem_nil, or_false] at hext
  rcases hext with rfl | rfl | rfl | rfl | rfl | rfl | rfl | rfl | rfl | rfl | rfl | rfl <;>
    exact ⟨_, rfl⟩

/-- What stands before a path without a dot of its own does not matter. -/
theorem hasPublicExtension_append {front : List Char} (p : List Char) (h : '.' ∉ front) :
    hasPublicExtension (front ++ p) = hasPublicExtension p := by
  have hsame : ∀ ext ∈ publicExtensions, (ext <:+ front ++ p ↔ ext <:+ p) := by
    intro ext hext
    obtain ⟨rest, rfl⟩ := publicExtensions_dot ext hext
    exact suffix_append_iff h
  rw [Bool.eq_iff_iff, hasPublicExtension_iff, hasPublicExtension_iff]
  exact exists_congr (fun ext => and_congr_right (hsame ext))

/-- Under `/api/v1/files` only the extension makes a path public. -/
theorem isPublicPath_files (p : List Char) :
    isPublicPath ("/api/v1/files".toList ++ p) = hasPublicExtension p := by
  have hprotected : Protected ("/api/v1/files".toList ++ p) :=
    protected_of_letter ("iles".toList ++ p) (by decide)
  rw [isPublicPath_protected hprotected]
  exact hasPublicExtension_append p (by decide)

/-- A URL behind the address of the server: its first word and what follows it. -/
theorem Machine.lstripBlank_own (m : Machine server) (rest : List Char) :
    lstripBlank (server.toList ++ '/' :: rest) = server.toList ++ '/' :: rest := by
  cases h : server.toList with
  | nil => exact lstripBlank_of_plain rest (by decide)
  | cons c cs => exact lstripBlank_of_plain _ (m.plain c (by rw [h]; exact List.mem_cons_self))

/-- The path of a file, as the gate sees it. -/
def servedPath (path : List Char) : List Char :=
  cutQuery (dropNoise (unquote (cutQuery path)))

/-- The place of the files. -/
def filesPath : List Char := "/api/v1/files".toList

theorem pathOf_files (host : Authority) (path : List Char) :
    pathOf (host.text ++ unquote (cutQuery (filesPath ++ path)))
      = filesPath ++ servedPath path := by
  have hclean : Clean filesPath := by decide
  have hcut : cutQuery (filesPath ++ path) = filesPath ++ cutQuery path :=
    cutQuery_append path (fun c hc => ⟨(hclean c hc).1, (hclean c hc).2.1⟩)
  have hpath := pathOf_authority host ("api/v1/files".toList ++ unquote (cutQuery path))
  rw [hcut, unquote_append _ (by decide)]
  exact hpath.trans (hclean.cut_append _)

/-- **A FILE OF THE SERVER IS PUBLIC** if its path ends like a static file when the gate sees
it. -/
theorem pathOn_files {path : List Char} (h : ∀ c ∈ path, c.isWhitespace = false) :
    (m.pathOn (server.toList ++ (filesPath ++ path))).all isPublicPath
      = hasPublicExtension (servedPath path) := by
  have hfiles : ∀ c ∈ "api/v1/files".toList, c.isWhitespace = false := by decide
  have hplain : ∀ c ∈ "api/v1/files".toList ++ path, c.isWhitespace = false := by
    intro c hc
    rcases List.mem_append.mp hc with hc | hc
    · exact hfiles c hc
    · exact h c hc
  have hown : m.resolve (server.toList ++ (filesPath ++ path))
      = some (unquote (cutQuery (filesPath ++ path))) := m.own _ hplain
  have hne : server.toList ++ (filesPath ++ path) ≠ [] := List.append_ne_nil_of_right_ne_nil _
    (List.append_ne_nil_of_left_ne_nil (by decide) _)
  unfold Machine.pathOn
  rw [if_neg hne, hown, Option.map_some, pathOf_files, Option.all_some]
  exact isPublicPath_files _

theorem publicOnly_fetch (command url rest : String) (script : Script) :
    publicOnly m (.fetch command url rest :: script)
      = ((m.pathOn (firstWord (lstripBlank url.toList))).all isPublicPath
        && (m.pathsIn (afterWord (lstripBlank url.toList) ++ rest.toList)).all isPublicPath
        && publicOnly m script) := by
  unfold publicOnly scriptPaths
  rw [List.flatMap_cons, List.all_append]
  simp only [Line.paths, List.all_append]
  cases m.pathOn (firstWord (lstripBlank url.toList)) <;> simp

/-- What a line fetches from the files of this server. -/
def fileReachable (path : List Char) : Bool :=
  hasPublicExtension (servedPath (firstWord path)) && (m.pathsIn (afterWord path)).all isPublicPath

/-- A command for a file. -/
theorem publicOnly_fetch_file (command path rest : String) (script : Script) :
    publicOnly m (.fetch command (server ++ "/api/v1/files" ++ path) rest :: script)
      = (hasPublicExtension (servedPath (firstWord path.toList))
        && (m.pathsIn (afterWord path.toList ++ rest.toList)).all isPublicPath
        && publicOnly m script) := by
  have hurl : (server ++ "/api/v1/files" ++ path).toList
      = server.toList ++ (filesPath ++ path.toList) := by
    rw [String.toList_append, String.toList_append, List.append_assoc]
    rfl
  have hstrip : lstripBlank (server.toList ++ (filesPath ++ path.toList))
      = server.toList ++ (filesPath ++ path.toList) :=
    m.lstripBlank_own ("api/v1/files".toList ++ path.toList)
  have hfiles : ∀ c ∈ filesPath, c.isWhitespace = false := by decide
  rw [publicOnly_fetch, hurl, hstrip, firstWord_append _ m.plain, firstWord_append _ hfiles,
    afterWord_append _ m.plain, afterWord_append _ hfiles, pathOn_files m (firstWord_plain _)]

/-- Words after the URL that are looked at by themselves. -/
theorem publicOnly_fetch_words (command path : String) {rest more : String} (script : Script)
    (hrest : m.pathsIn (afterWord path.toList ++ rest.toList)
      = m.pathsIn (afterWord path.toList) ++ m.pathsIn more.toList) :
    publicOnly m (.fetch command (server ++ "/api/v1/files" ++ path) rest :: script)
      = (fileReachable m path.toList && (m.pathsIn more.toList).all isPublicPath
        && publicOnly m script) := by
  rw [publicOnly_fetch_file, hrest, List.all_append]
  unfold fileReachable
  simp only [Bool.and_assoc]

/-- A file that does not end like a static file. -/
theorem publicOnly_closed (path : String) {url : String} (command rest : String) (script : Script)
    (hurl : url = server ++ "/api/v1/files" ++ path)
    (h : hasPublicExtension (servedPath (firstWord path.toList)) = false) :
    publicOnly m (.fetch command url rest :: script) = false := by
  rw [hurl, publicOnly_fetch_file, h]
  rfl

end Paths

theorem mem_serverUrl (address : String) : 'h' ∈ (serverUrl address).toList := by
  simp [serverUrl]

/-! ## §5. Workflows whose URLs are public. -/

section Generators

variable {address : String} (m : Machine (serverUrl address)) (node : Node) (w : Workflow)

/-- The kernel, the initrd and the URLs of the command line. -/
def kernelReachable : Bool :=
  fileReachable m w.kernelPath.toList && fileReachable m w.initrdPath.toList
    && (m.pathsIn w.cmdline.toList).all isPublicPath

/-- The URL that the workflow boots from. -/
def bootReachable : Bool :=
  let url := lstripBlank w.bootUrl.toList
  (m.pathOn (firstWord url)).all isPublicPath && (m.pathsIn (afterWord url)).all isPublicPath

/-- The installation script of a workflow with its variables resolved. -/
def installReachable : Bool :=
  if w.installMethod = "sanboot" ∨ w.installMethod = "chain" then
    w.bootUrl = "" || bootReachable m w
  else if w.installMethod = "image" then w.imageUrl = ""
  else if w.installMethod = "clone" then false
  else kernelReachable m w

/-- The GRUB configuration of such a workflow. -/
def grubReachable : Bool :=
  if w.installMethod = "clone" ∨ w.installMethod = "image" then false
  else kernelReachable m w

/-- What a failing command goes on with has no URL. -/
theorem pathsIn_goto {t : List Char}
    (h : ∀ word ∈ t.splitOnP Char.isWhitespace, 'h' ∉ word) : m.pathsIn t = [] :=
  pathsIn_eq_nil m (mem_serverUrl address) h

theorem publicOnly_failedLines (title reason : String) :
    publicOnly m (failedLines title reason) = true :=
  publicOnly_sayAll m _

/-- A blank and a command line. -/
theorem pathsIn_cmdline (a : List Char) (cmdline : String) :
    m.pathsIn (a ++ (" " ++ cmdline).toList) = m.pathsIn a ++ m.pathsIn cmdline.toList := by
  rw [String.toList_append]
  exact pathsIn_append m a cmdline.toList

/-- What comes after the URL when the command fails. -/
theorem pathsIn_onError {t : String} (a : List Char)
    (h : ∀ word ∈ t.toList.splitOnP Char.isWhitespace, 'h' ∉ word) :
    m.pathsIn (a ++ (" " ++ t).toList) = m.pathsIn a := by
  rw [pathsIn_cmdline, pathsIn_goto m h, List.append_nil]

theorem publicOnly_kernelCommands :
    publicOnly m (kernelCommands (serverUrl address) w) = kernelReachable m w := by
  have hcmdline : m.pathsIn (afterWord w.kernelPath.toList
        ++ (" " ++ w.cmdline ++ " || goto error").toList)
      = m.pathsIn (afterWord w.kernelPath.toList) ++ m.pathsIn w.cmdline.toList := by
    have happend : (" " ++ w.cmdline ++ " || goto error").toList
        = (" " ++ w.cmdline).toList ++ ' ' :: "|| goto error".toList := by
      rw [String.toList_append]
      rfl
    rw [happend, ← List.append_assoc, pathsIn_append, pathsIn_cmdline,
      pathsIn_goto m (t := "|| goto error".toList) (by decide), List.append_nil]
  have hgoto : m.pathsIn (afterWord w.initrdPath.toList ++ " || goto error".toList)
      = m.pathsIn (afterWord w.initrdPath.toList) ++ m.pathsIn "".toList := by
    rw [pathsIn_goto m (t := "".toList) (by decide), List.append_nil]
    exact pathsIn_onError m (t := "|| goto error") _ (by decide)
  have hnone : m.pathsIn "".toList = [] := pathsIn_goto m (by decide)
  unfold kernelCommands kernelReachable
  simp only [publicOnly_say, publicOnly_append, publicOnly_fetch_words m _ _ _ hcmdline,
    publicOnly_fetch_words m _ _ _ hgoto, publicOnly_sayAll, publicOnly_failedLines, hnone,
    List.all_nil, Bool.and_true]
  exact Bool.and_right_comm _ _ _

/-- The boot files of the deploy environment are files of the server. -/
theorem publicOnly_deployKernel (command rest : String) (script : Script) :
    publicOnly m (.fetch command (deployKernel (serverUrl address)) rest :: script) = false := by
  refine publicOnly_closed m "/tftp/deploy/vmlinuz-virt" command rest script ?_ (by decide)
  unfold deployKernel
  rw [String.append_assoc]
  rfl

theorem publicOnly_grubEfi (command rest : String) (script : Script) :
    publicOnly m (.fetch command (grubEfi (serverUrl address)) rest :: script) = false := by
  refine publicOnly_closed m "/tftp/uefi/grubx64.efi" command rest script ?_ (by decide)
  unfold grubEfi
  rw [String.append_assoc]
  rfl

/-- The kernel of the deploy environment is not public. -/
theorem publicOnly_pending :
    publicOnly m (generatePendingNoWorkflowScript (serverUrl address) node) = false := by
  unfold generatePendingNoWorkflowScript
  simp only [publicOnly_append, publicOnly_deployKernel, List.append_assoc, List.cons_append,
    Bool.and_false]

/-- Nor is GRUB. -/
theorem publicOnly_imageCommands :
    publicOnly m (imageCommands (serverUrl address) w) = false := by
  unfold imageCommands
  simp only [publicOnly_append, publicOnly_grubEfi, Bool.and_false]

theorem publicOnly_cloneCommands :
    publicOnly m (cloneCommands (serverUrl address) node w) = false := by
  unfold cloneCommands
  simp only [publicOnly_append, publicOnly_grubEfi, List.append_assoc, List.cons_append,
    Bool.and_false]

/-- A script that boots from a URL of the workflow. -/
theorem publicOnly_bootUrl (command title reason : String) (lines : List String) :
    publicOnly m
        (sayAll lines ++ .fetch command w.bootUrl " || goto error" :: failedLines title reason)
      = bootReachable m w := by
  have hgoto : m.pathsIn (afterWord (lstripBlank w.bootUrl.toList) ++ " || goto error".toList)
      = m.pathsIn (afterWord (lstripBlank w.bootUrl.toList)) :=
    pathsIn_onError m (t := "|| goto error") _ (by decide)
  unfold bootReachable
  simp only [publicOnly_append, publicOnly_sayAll, publicOnly_fetch, publicOnly_failedLines,
    hgoto, Bool.and_true, Bool.true_and]

theorem publicOnly_generateInstallScript :
    publicOnly m (generateInstallScript (serverUrl address) node w) = installReachable m w := by
  have hheader : publicOnly m (installHeader node w) = true := publicOnly_sayAll m _
  have herror : ∀ text, publicOnly m (generateWorkflowErrorScript node text) = true :=
    fun text => publicOnly_sayAll m _
  have hsanboot : publicOnly m (sanbootCommands w) = bootReachable m w :=
    publicOnly_bootUrl m w _ _ _ _
  have hchain : publicOnly m (chainCommands w) = bootReachable m w :=
    publicOnly_bootUrl m w _ _ _ _
  -- the methods in the order of the tests
  unfold generateInstallScript installReachable
  by_cases hs : w.installMethod = "sanboot"
  · by_cases hurl : w.bootUrl = "" <;> simp [hs, hurl, herror, hheader, hsanboot]
  by_cases hc : w.installMethod = "chain"
  · by_cases hurl : w.bootUrl = "" <;> simp [hc, hurl, herror, hheader, hchain]
  by_cases hi : w.installMethod = "image"
  · by_cases hurl : w.imageUrl = "" <;>
      simp [hi, hurl, herror, hheader, publicOnly_imageCommands]
  by_cases hk : w.installMethod = "clone"
  · simp [hk, publicOnly_cloneCommands]
  · simp [hs, hc, hi, hk, hheader, publicOnly_kernelCommands]

/-- A GRUB configuration with the deploy kernel. -/
theorem publicOnly_grubConfig_deploy (title loading cmdline initrd : String) :
    publicOnly m (grubConfig title loading (deployKernel (serverUrl address)) cmdline initrd)
      = false := by
  unfold grubConfig
  simp only [publicOnly_append, publicOnly_deployKernel, List.append_assoc, List.cons_append,
    Bool.and_false]

theorem publicOnly_grubPending : publicOnly m (grubPending (serverUrl address) node) = false :=
  publicOnly_grubConfig_deploy m _ _ _ _

/-- A GRUB configuration with files of a workflow. -/
theorem publicOnly_grubConfig_files (title loading : String) :
    publicOnly m (grubConfig title loading (serverUrl address ++ "/api/v1/files" ++ w.kernelPath)
        w.cmdline (serverUrl address ++ "/api/v1/files" ++ w.initrdPath))
      = kernelReachable m w := by
  have hcmdline := pathsIn_cmdline m (afterWord w.kernelPath.toList) w.cmdline
  have hnone : m.pathsIn "".toList = [] := pathsIn_goto m (by decide)
  have hend : m.pathsIn (afterWord w.initrdPath.toList ++ "".toList)
      = m.pathsIn (afterWord w.initrdPath.toList) ++ m.pathsIn "".toList := by
    rw [hnone, List.append_nil]
    exact congrArg m.pathsIn (List.append_nil _)
  unfold grubConfig grubLocalEntry kernelReachable
  simp only [publicOnly_say, publicOnly_append, publicOnly_sayAll,
    publicOnly_fetch_words m _ _ _ hcmdline, publicOnly_fetch_words m _ _ _ hend, hnone,
    List.all_nil, Bool.and_true, Bool.true_and]
  exact Bool.and_right_comm _ _ _

theorem publicOnly_grubInstall :
    publicOnly m (grubInstall (serverUrl address) node w) = grubReachable m w := by
  unfold grubInstall grubReachable
  by_cases hk : w.installMethod = "clone"
  · simp [hk, publicOnly_grubConfig_deploy]
  by_cases hi : w.installMethod = "image"
  · simp [hi, publicOnly_grubConfig_deploy]
  rw [if_neg hk, if_neg hi, if_neg (not_or.mpr ⟨hk, hi⟩), publicOnly_grubConfig_files]

end Generators

end PureBoot.Web
