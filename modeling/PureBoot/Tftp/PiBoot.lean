/-
  PureBoot.Tftp.PiBoot — the files a Raspberry Pi is given when it boots.

  Embeds, from `pxe/pi_manager.py`, the two managers that lay out directories
  (`PiManager.create_node_directory`, `PiDiscoveryManager.ensure_discovery_directory`)
  and `pxe/tftp_server.py: TFTPHandler.read_file`, over a file system with links.
  The managers put links to the firmware and the deploy files into the directory of a
  node and into the discovery directory; `config.txt` and `cmdline.txt` are written.

  The two sides do not meet.  For a serial number with a node directory the handler
  reads from its own root, `R/s/f`, and never from the node directory.  For one
  without, it follows the link in the discovery directory first and refuses the
  request because the target lies outside.

  Main results:
    * `readFile_eq_ok` — what a request reads;
    * `pi_boots_iff` — the requests that read the file laid out for them.
-/
import PureBoot.Lib.Files
import PureBoot.Tftp.Paths

namespace PureBoot.Tftp

open PureBoot.Lib

/-! ## §1. The managers. -/

/-- An entry of `PI_MODELS`. -/
structure PiModel where
  name : String
  firmwareFiles : List String
  dtb : String
  arm64bit : Bool

/-- `PI_MODELS`. -/
def piModels : List PiModel :=
  [⟨"pi3", ["bootcode.bin", "start.elf", "fixup.dat"], "bcm2710-rpi-3-b.dtb", true⟩,
   ⟨"pi3b+", ["bootcode.bin", "start.elf", "fixup.dat"], "bcm2710-rpi-3-b-plus.dtb", true⟩,
   ⟨"cm3", ["bootcode.bin", "start.elf", "fixup.dat"], "bcm2710-rpi-cm3.dtb", true⟩,
   ⟨"pi4", ["start4.elf", "fixup4.dat"], "bcm2711-rpi-4-b.dtb", true⟩,
   ⟨"pi5", ["start4.elf", "fixup4.dat"], "bcm2712-rpi-5-b.dtb", true⟩]

/-- What the managers raise. -/
inductive PiError where
  | valueError (message : List Char)
  /-- Of the operating system. -/
  | osError
  deriving DecidableEq

/-- The directories of the settings: distinct directories below the root of the TFTP
server. -/
structure PiLayout where
  root : AbsPath
  firmwareDir : AbsPath
  deployDir : AbsPath
  nodesDir : AbsPath
  discoveryDir : AbsPath
  below : ∀ d ∈ [firmwareDir, deployDir, nodesDir, discoveryDir], root.Under d ∧ d ≠ root
  distinct : [firmwareDir, deployDir, nodesDir, discoveryDir].Nodup

/-- The TFTP handler of the application. -/
def PiLayout.handler (lay : PiLayout) : Handler where
  root := lay.root
  piDiscoveryEnabled := true
  piDiscoveryDir := some lay.discoveryDir
  piNodesDir := some lay.nodesDir

/-- `text.strip()`. -/
def strip (u : Unicode) (text : List Char) : List Char :=
  ((text.dropWhile u.isSpace).reverse.dropWhile u.isSpace).reverse

/-- `_validate_serial`. -/
def checkSerial (u : Unicode) (serial : List Char) : Except PiError (List Char) :=
  let serial := strip u (u.lower serial)
  if validateSerial u serial then .ok serial
  else .error (.valueError ("Invalid serial number: '".toList ++ serial
    ++ "'. Must be 8 lowercase hex characters.".toList))

/-- `"\n".join(lines) + "\n"` and `" ".join(params) + "\n"`. -/
def joinLines (sep : Char) (lines : List (List Char)) : List Char :=
  [sep].intercalate lines ++ ['\n']

/-- `generate_config_txt`. -/
def generateConfigTxt (serial : List Char) (m : PiModel) : List Char :=
  joinLines '\n'
    (["# PureBoot auto-generated config.txt".toList,
      "# Pi Serial: ".toList ++ serial,
      "# Pi Model: ".toList ++ m.name.toList,
      [],
      "# Boot configuration".toList]
    ++ (if m.arm64bit then ["arm_64bit=1".toList] else [])
    ++ [[], "# Kernel".toList, "kernel=kernel8.img".toList,
        "initramfs initramfs.img followkernel".toList,
        [], "# Device tree".toList, "device_tree=".toList ++ m.dtb.toList,
        [], "# UART console (for debugging)".toList, "enable_uart=1".toList,
        "uart_2ndstage=1".toList,
        [], "# GPU memory (minimal for headless)".toList, "gpu_mem=16".toList,
        [], "# Fast boot".toList, "disable_splash=1".toList, "boot_delay=0".toList])

/-- `pureboot.url=…`, if there is a controller URL. -/
def urlParam : Option (List Char) → List (List Char)
  | some (c :: url) => ["pureboot.url=".toList ++ c :: url]
  | _ => []

/-- The parameters both command lines end with. -/
def rootParams : List (List Char) :=
  ["root=/dev/ram0".toList, "rootfstype=ramfs".toList, "quiet".toList, "loglevel=4".toList]

/-- `generate_cmdline_txt`. -/
def generateCmdlineTxt (serial : List Char) (controllerUrl : Option (List Char)) : List Char :=
  joinLines ' '
    (["console=serial0,115200".toList, "console=tty1".toList, "ip=dhcp".toList,
      "pureboot.serial=".toList ++ serial] ++ urlParam controllerUrl ++ rootParams)

/-- `_generate_discovery_config`. -/
def generateDiscoveryConfig : List Char :=
  joinLines '\n'
    ["# PureBoot Discovery Mode config.txt".toList,
     "# This configuration supports Pi 3, 4, and 5 models".toList,
     [], "# Boot configuration".toList, "arm_64bit=1".toList,
     [], "# Kernel".toList, "kernel=kernel8.img".toList,
     "initramfs initramfs.img followkernel".toList,
     [], "# UART console (for debugging)".toList, "enable_uart=1".toList, "uart_2ndstage=1".toList,
     [], "# GPU memory (minimal for headless)".toList, "gpu_mem=16".toList,
     [], "# Fast boot".toList, "disable_splash=1".toList, "boot_delay=0".toList]

/-- `_generate_discovery_cmdline`. -/
def generateDiscoveryCmdline (controllerUrl : Option (List Char)) : List Char :=
  joinLines ' '
    (["console=serial0,115200".toList, "console=tty1".toList, "ip=dhcp".toList,
      "pureboot.mode=discovery".toList, "pureboot.state=discovered".toList]
      ++ urlParam controllerUrl ++ rootParams)

section Managers

-- `encode` is the text encoding of `write_text`
variable {β : Type} (u : Unicode) (encode : List Char → β) (lay : PiLayout)

/-- A step of the operating system, or its error. -/
def orOsError {α : Type} : Option α → Except PiError α
  | some a => .ok a
  | none => .error .osError

/-- `if src.exists() and not dst.exists(): dst.symlink_to(src)`. -/
def linkIfMissing (dir : AbsPath) (fs : Files β) (src : AbsPath) (name : List Char) :
    Except PiError (Files β) :=
  if fs.isThere src && !fs.isThere (dir.enter name) then orOsError (fs.symlinkTo dir name src)
  else .ok fs

/-- The same for several files of one directory. -/
def linkAll (srcDir dir : AbsPath) (fs : Files β) (names : List String) :
    Except PiError (Files β) :=
  names.foldlM (fun fs name => linkIfMissing dir fs (srcDir.enter name.toList) name.toList) fs

/-- The kernel and the initramfs. -/
def deployFiles : List String := ["kernel8.img", "initramfs.img"]

/-- The message for a model that is not in `PI_MODELS`. -/
def unknownModel (piModel : String) : List Char :=
  "Unknown Pi model: '".toList ++ piModel.toList
    ++ "'. Valid models: ['pi3', 'pi3b+', 'cm3', 'pi4', 'pi5']".toList

/-- `create_node_directory`: the file system after it and the node directory. -/
def createNodeDirectory (fs : Files β) (serial : List Char) (piModel : String)
    (controllerUrl : Option (List Char)) : Except PiError (Files β × AbsPath) := do
  let serial ← checkSerial u serial
  match piModels.find? (fun m => m.name = piModel) with
  | none => .error (.valueError (unknownModel piModel))
  | some m =>
      let nodeDir := lay.nodesDir.enter serial
      let fs ← orOsError (fs.mkdirs nodeDir)
      -- a file that is missing from the source directory is no error: the node goes without it
      let fs ← linkAll lay.firmwareDir nodeDir fs m.firmwareFiles
      let fs ← linkAll lay.firmwareDir nodeDir fs [m.dtb]
      let fs ← linkAll lay.deployDir nodeDir fs deployFiles
      let fs ← orOsError (fs.writeText (nodeDir.enter "config.txt".toList)
        (encode (generateConfigTxt serial m)))
      let fs ← orOsError (fs.writeText (nodeDir.enter "cmdline.txt".toList)
        (encode (generateCmdlineTxt serial controllerUrl)))
      .ok (fs, nodeDir)

/-- A link to a device tree file, unless something is there. -/
def linkDtb (fs : Files β) (name : List Char) : Except PiError (Files β) :=
  if fs.isThere (lay.discoveryDir.enter name) then .ok fs
  else orOsError (fs.symlinkTo lay.discoveryDir name (lay.firmwareDir.enter name))

/-- `ensure_discovery_directory`. -/
def ensureDiscoveryDirectory (fs : Files β) (controllerUrl : Option (List Char)) :
    Except PiError (Files β) :=
  if fs.isThere lay.discoveryDir then .ok fs
  else do
    let dir := lay.discoveryDir
    let fs ← orOsError (fs.mkdirs dir)
    let fs ← linkAll lay.firmwareDir dir fs ["bootcode.bin", "start.elf", "fixup.dat"]
    let fs ← linkAll lay.firmwareDir dir fs ["start4.elf", "fixup4.dat"]
    -- `self.firmware_dir.glob("*.dtb")`
    let fs ← ((fs.names lay.firmwareDir).filter (fun n => ".dtb".toList <:+ n)).foldlM
      (linkDtb lay) fs
    let fs ← linkAll lay.deployDir dir fs deployFiles
    let fs ← orOsError (fs.writeText (dir.enter "config.txt".toList)
      (encode generateDiscoveryConfig))
    orOsError (fs.writeText (dir.enter "cmdline.txt".toList)
      (encode (generateDiscoveryCmdline controllerUrl)))

end Managers

/-! ## §2. Reading. -/

section Reading

variable {β : Type}

/-- What the handler sees of the file system. -/
def view (fs : Files β) : View where
  isThere := fs.isThere
  resolve := fs.resolve

/-- What `read_file` raises. -/
inductive ReadError where
  | denied (e : PermissionError)
  | notFound (message : List Char)
  | notAFile (message : List Char)
  deriving DecidableEq

/-- `read_file`, all chunks together. -/
def readFile (u : Unicode) (h : Handler) (fs : Files β) (filename : List Char) :
    Except ReadError β :=
  match resolvePath u (view fs) h filename with
  | .error e => .error (.denied e)
  | .ok p =>
      match fs.stat p with
      | some (.file c) => .ok c
      | some _ => .error (.notAFile ("Not a file: ".toList ++ filename))
      | none => .error (.notFound ("File not found: ".toList ++ filename))

/-- A serial number in the form the managers use. -/
structure Serial where
  text : List Char
  valid : text.length = 8 ∧ text.all isHex = true

/-- The name of a boot file. -/
structure BootFile (u : Unicode) where
  text : List Char
  noSlash : '/' ∉ text
  known : isPiBootFile u text = true

/-- The path a Pi asks for. -/
def request {u : Unicode} (s : Serial) (f : BootFile u) : List Char := s.text ++ '/' :: f.text

theorem isHex_range {c : Char} (h : isHex c = true) :
    (48 ≤ c.toNat ∧ c.toNat ≤ 57) ∨ (97 ≤ c.toNat ∧ c.toNat ≤ 102) := by
  unfold isHex at h
  simpa [Char.le_def, UInt32.le_iff_toNat_le] using h

theorem Serial.hex (s : Serial) : ∀ c ∈ s.text, isHex c = true :=
  List.all_eq_true.mp s.valid.2

/-- The digits of a serial number are their own lower case. -/
theorem Serial.lower (u : Unicode) (s : Serial) : u.lower s.text = s.text := by
  have hrange : ∀ c ∈ s.text, c.toNat < 128 ∧ Char.toLower c = c := by
    intro c hc
    have hc := isHex_range (s.hex c hc)
    refine ⟨by omega, ?_⟩
    unfold Char.toLower
    rw [dif_neg]
    intro hupper
    have hlow : 65 ≤ c.toNat := UInt32.le_iff_toNat_le.mp hupper.1
    have hhigh : c.toNat ≤ 90 := UInt32.le_iff_toNat_le.mp hupper.2
    omega
  rw [u.lower_ascii s.text (fun c hc => (hrange c hc).1)]
  calc s.text.map Char.toLower
      = s.text.map id := List.map_congr_left (fun c hc => (hrange c hc).2)
    _ = s.text := List.map_id s.text

theorem Serial.isName (s : Serial) : isName s.text = true := by
  have hhex := s.hex
  have hlen := s.valid.1
  rw [isName_iff]
  refine ⟨?_, ?_, ?_, ?_⟩
  · intro hnil
    rw [hnil] at hlen
    cases hlen
  · intro hslash
    exact absurd (hhex '/' hslash) (by decide)
  · intro hdot
    rw [hdot] at hlen
    cases hlen
  · intro hdots
    rw [hdots] at hlen
    cases hlen

theorem BootFile.isName {u : Unicode} (f : BootFile u) : isName f.text = true :=
  isName_of_isPiBootFile f.noSlash f.known

theorem splitOn_request {u : Unicode} (s : Serial) (f : BootFile u) :
    (request s f).splitOn '/' = [s.text, f.text] := by
  have hs : '/' ∉ s.text := (isName_iff.mp s.isName).2.1
  unfold request
  rw [List.splitOn_append_cons_self_of_not_mem hs]
  rw [AbsPath.splitOn_name f.isName]

theorem lstrip_request {u : Unicode} (s : Serial) (f : BootFile u) :
    lstrip (request s f) = request s f := by
  obtain ⟨c, rest, hs⟩ := List.exists_cons_of_ne_nil (isName_iff.mp s.isName).1
  have hslash : '/' ∉ s.text := (isName_iff.mp s.isName).2.1
  have hc : c ≠ '/' := by
    rintro rfl
    rw [hs] at hslash
    exact hslash List.mem_cons_self
  unfold lstrip request
  rw [hs]
  show List.dropWhile _ (c :: (rest ++ _)) = _
  rw [List.dropWhile_cons_of_neg (by simpa using hc)]
  rfl

theorem isPiSerialRequest_request {u : Unicode} (s : Serial) (f : BootFile u) :
    isPiSerialRequest u (request s f) = some (s.text, f.text) := by
  have hserial : validateSerial u s.text = true := by
    unfold validateSerial serialPattern endsLine
    rw [s.lower]
    simp [s.valid.1, s.valid.2]
  unfold isPiSerialRequest
  rw [lstrip_request, splitOn_request]
  dsimp only
  rw [s.lower, hserial, List.getLast_singleton, f.known]
  rfl

/-- Where the handler looks for a file of a registered Pi. -/
def PiLayout.rootFile (lay : PiLayout) {u : Unicode} (s : Serial) (f : BootFile u) : AbsPath :=
  (lay.root.enter s.text).enter f.text

/-- Where the file of a node is laid out. -/
def PiLayout.nodeFile (lay : PiLayout) {u : Unicode} (s : Serial) (f : BootFile u) : AbsPath :=
  (lay.nodesDir.enter s.text).enter f.text

/-- Where the file of an unknown Pi is laid out. -/
def PiLayout.discoveryFile (lay : PiLayout) {u : Unicode} (f : BootFile u) : AbsPath :=
  lay.discoveryDir.enter f.text

/-- The serial number has a node directory. -/
def PiLayout.isRegistered (lay : PiLayout) (fs : Files β) (s : Serial) : Bool :=
  fs.isThere (lay.nodesDir.enter s.text)

theorem resolve_rootFile (lay : PiLayout) (fs : Files β) {u : Unicode} (s : Serial)
    (f : BootFile u) :
    fs.resolve lay.root (request s f)
      = (fs.real (lay.rootFile s f)).getD (lay.rootFile s f) := by
  have hparts : (lay.rootFile s f).parts = lay.root.parts ++ [s.text, f.text] := by
    unfold PiLayout.rootFile
    rw [AbsPath.parts_enter_name f.isName, AbsPath.parts_enter_name s.isName, List.append_assoc]
    rfl
  unfold Files.resolve Files.real AbsPath.resolveFrom
  rw [splitOn_request, hparts]
  rfl

theorem resolve_discoveryFile (lay : PiLayout) (fs : Files β) {u : Unicode} (f : BootFile u) :
    fs.resolve lay.discoveryDir f.text
      = (fs.real (lay.discoveryFile f)).getD (lay.discoveryFile f) := by
  have hparts : (lay.discoveryFile f).parts = lay.discoveryDir.parts ++ [f.text] :=
    AbsPath.parts_enter_name f.isName
  unfold Files.resolve Files.real AbsPath.resolveFrom
  rw [AbsPath.splitOn_name f.isName, hparts]
  rfl

/-- The path of a Pi's request: from the root if the Pi is registered, otherwise from the
discovery directory. -/
theorem resolvePath_request (lay : PiLayout) (fs : Files β) {u : Unicode} (s : Serial)
    (f : BootFile u) :
    resolvePath u (view fs) lay.handler (request s f) =
      if lay.isRegistered fs s then
        checkWithin lay.root ((fs.real (lay.rootFile s f)).getD (lay.rootFile s f)) (request s f)
      else
        checkWithin lay.discoveryDir
          ((fs.real (lay.discoveryFile f)).getD (lay.discoveryFile f)) f.text := by
  unfold resolvePath
  dsimp only
  rw [lstrip_request, isPiSerialRequest_request]
  show (if lay.isRegistered fs s then
      checkWithin lay.root (fs.resolve lay.root (request s f)) (request s f)
    else checkWithin lay.discoveryDir (fs.resolve lay.discoveryDir f.text) f.text) = _
  rw [resolve_rootFile, resolve_discoveryFile]

/-- The text of where `p` leads begins with the text of `base`. -/
def LeadsInto (fs : Files β) (base p : AbsPath) : Prop :=
  base.text <+: ((fs.real p).getD p).text

/-- A request that is checked against `base` and reads `p`. -/
theorem readFile_of_checked {u : Unicode} {h : Handler} {fs : Files β} {filename name : List Char}
    {base p : AbsPath} {c : β}
    (hpath : resolvePath u (view fs) h filename
      = checkWithin base ((fs.real p).getD p) name) :
    readFile u h fs filename = .ok c ↔ LeadsInto fs base p ∧ fs.content p = some c := by
  have hcontent := fs.content_resolved p
  unfold readFile LeadsInto
  rw [hpath, ← hcontent]
  unfold checkWithin Files.content
  split
  next e herr =>
    split at herr
    next => cases herr
    next hout => simp [hout]
  next q hok =>
    split at hok
    next hin =>
      injection hok with hok
      rw [← hok]
      simp only [hin, true_and]
      split <;> simp_all
    next => cases hok

/-- **WHAT A PI'S REQUEST READS.** -/
theorem readFile_eq_ok (lay : PiLayout) (fs : Files β) {u : Unicode} (s : Serial) (f : BootFile u)
    {c : β} :
    readFile u lay.handler fs (request s f) = .ok c ↔
      if lay.isRegistered fs s then
        LeadsInto fs lay.root (lay.rootFile s f) ∧ fs.content (lay.rootFile s f) = some c
      else
        LeadsInto fs lay.discoveryDir (lay.discoveryFile f) ∧
          fs.content (lay.discoveryFile f) = some c := by
  have hpath := resolvePath_request lay fs s f
  split
  next hreg =>
    rw [if_pos hreg] at hpath
    exact readFile_of_checked hpath
  next hreg =>
    rw [if_neg hreg] at hpath
    exact readFile_of_checked hpath

end Reading

/-! ## §3. Which requests read what was laid out. -/

section PiBoots

variable {β : Type} (u : Unicode) (encode : List Char → β) (lay : PiLayout) (fs : Files β)
  (s : Serial) (f : BootFile u) (piModel : String) (controllerUrl : Option (List Char))

/-- A Pi reads the file that is laid out for it: the file of its node directory once that
is created, and without a node directory the file of the discovery directory. -/
structure PiBoots : Prop where
  node : ∀ fs' dir, createNodeDirectory u encode lay fs s.text piModel controllerUrl
      = .ok (fs', dir) →
    ∀ c, fs'.content (lay.nodeFile s f) = some c →
      readFile u lay.handler fs' (request s f) = .ok c
  discovery : ∀ fs', ensureDiscoveryDirectory encode lay fs controllerUrl = .ok fs' →
    lay.isRegistered fs' s = false →
    ∀ c, fs'.content (lay.discoveryFile f) = some c →
      readFile u lay.handler fs' (request s f) = .ok c

/-- What the code needs for this: the file of a node is also below the root, under the
serial number itself; the file of the discovery directory leads to no other directory. -/
structure InReach : Prop where
  node : ∀ fs' dir, createNodeDirectory u encode lay fs s.text piModel controllerUrl
      = .ok (fs', dir) →
    ∀ c, fs'.content (lay.nodeFile s f) = some c →
      LeadsInto fs' lay.root (lay.rootFile s f) ∧ fs'.content (lay.rootFile s f) = some c
  discovery : ∀ fs', ensureDiscoveryDirectory encode lay fs controllerUrl = .ok fs' →
    lay.isRegistered fs' s = false →
    ∀ c, fs'.content (lay.discoveryFile f) = some c →
      LeadsInto fs' lay.discoveryDir (lay.discoveryFile f)

/-- The file of a node is read exactly if it is found from the root. -/
theorem node_read_iff {lay : PiLayout} {u : Unicode} {fs : Files β} {s : Serial}
    {f : BootFile u} {c : β}
    (hfile : fs.content (lay.nodeFile s f) = some c) :
    readFile u lay.handler fs (request s f) = .ok c ↔
      LeadsInto fs lay.root (lay.rootFile s f) ∧ fs.content (lay.rootFile s f) = some c := by
  -- a node directory with a file in it is there
  have hreg : lay.isRegistered fs s = true := Files.exists_of_content f.isName hfile
  rw [readFile_eq_ok, if_pos hreg]

/-- The file of the discovery directory is read exactly if it leads to no other directory. -/
theorem discovery_read_iff {lay : PiLayout} {u : Unicode} {fs : Files β} {s : Serial}
    {f : BootFile u} {c : β} (hunknown : lay.isRegistered fs s = false)
    (hfile : fs.content (lay.discoveryFile f) = some c) :
    readFile u lay.handler fs (request s f) = .ok c ↔
      LeadsInto fs lay.discoveryDir (lay.discoveryFile f) := by
  rw [readFile_eq_ok, if_neg (by rw [hunknown]; exact Bool.false_ne_true)]
  simp only [hfile, and_true]

/-- **A PI READS WHAT WAS LAID OUT FOR IT, EXACTLY IF** the handler can reach it. -/
theorem pi_boots_iff :
    PiBoots u encode lay fs s f piModel controllerUrl ↔
      InReach u encode lay fs s f piModel controllerUrl := by
  constructor
  · intro h
    constructor
    · intro fs' dir hcreate c hfile
      exact (node_read_iff hfile).mp (h.node fs' dir hcreate c hfile)
    · intro fs' hensure hunknown c hfile
      exact (discovery_read_iff hunknown hfile).mp (h.discovery fs' hensure hunknown c hfile)
  · intro h
    constructor
    · intro fs' dir hcreate c hfile
      exact (node_read_iff hfile).mpr (h.node fs' dir hcreate c hfile)
    · intro fs' hensure hunknown c hfile
      exact (discovery_read_iff hunknown hfile).mpr (h.discovery fs' hensure hunknown c hfile)

/-- With nothing under its serial number in the root itself, a registered Pi reads
nothing, whatever is in its node directory. -/
theorem registered_reads_nothing {lay : PiLayout} {u : Unicode} {fs : Files β} {s : Serial}
    (hroot : fs.Plain lay.root) (hnone : fs.entryAt (lay.root.enter s.text) = none)
    (hreg : lay.isRegistered fs s = true) (f : BootFile u) (c : β) :
    readFile u lay.handler fs (request s f) ≠ .ok c := by
  intro hread
  rw [readFile_eq_ok, if_pos hreg] at hread
  have hthere : fs.isThere (lay.root.enter s.text) = true :=
    Files.exists_of_content f.isName hread.2
  have hplain : fs.Plain (lay.root.enter s.text) :=
    hroot.enter (fun target => by rw [hnone]; exact nofun)
  unfold Files.isThere Files.stat at hthere
  rw [Files.real_of_plain hplain] at hthere
  dsimp only at hthere
  rw [hnone] at hthere
  cases hthere

/-- A link of the discovery directory to a file whose path does not begin with the text of
that directory is refused. -/
theorem discovery_link_refused {lay : PiLayout} {u : Unicode} {fs : Files β} {s : Serial}
    {f : BootFile u} {target : AbsPath} (hdir : fs.Plain lay.discoveryDir)
    (hunknown : lay.isRegistered fs s = false)
    (hlink : fs.entryAt (lay.discoveryFile f) = some (.link target)) (htarget : fs.Plain target)
    (hout : ¬ lay.discoveryDir.text <+: target.text) (c : β) :
    readFile u lay.handler fs (request s f) ≠ .ok c := by
  intro hread
  rw [readFile_eq_ok, if_neg (by rw [hunknown]; exact Bool.false_ne_true)] at hread
  have hreal : fs.real (lay.discoveryFile f) = some target :=
    Files.real_of_link f.isName hdir hlink htarget
  have hinto := hread.1
  unfold LeadsInto at hinto
  rw [hreal] at hinto
  exact hout hinto

end PiBoots

/-- Directories in `/t`. -/
def smallLayout : PiLayout where
  root := ⟨["t".toList], by decide⟩
  firmwareDir := ⟨["t".toList, "rpi-firmware".toList], by decide⟩
  deployDir := ⟨["t".toList, "deploy-arm64".toList], by decide⟩
  nodesDir := ⟨["t".toList, "pi-nodes".toList], by decide⟩
  discoveryDir := ⟨["t".toList, "pi-discovery".toList], by decide⟩
  below := by decide
  distinct := by decide

/-- A firmware directory with one file. -/
def smallFiles : Files String where
  table := ⟨[⟨⟨["t".toList], by decide⟩, .dir⟩,
    ⟨⟨["t".toList, "rpi-firmware".toList], by decide⟩, .dir⟩,
    ⟨⟨["t".toList, "rpi-firmware".toList, "start4.elf".toList], by decide⟩, .file "firmware"⟩],
    by decide⟩
  valid := by decide

def smallSerial : Serial where
  text := "1000abcd".toList
  valid := by decide

def smallFile : BootFile asciiCase where
  text := "start4.elf".toList
  noSlash := by decide
  known := by decide

/-- The node directory has its link to `start4.elf`, and the Pi is told that the file is
not found. -/
theorem node_file_not_found :
    ¬ PiBoots asciiCase String.ofList smallLayout smallFiles smallSerial smallFile "pi4" none := by
  intro h
  have hrun : (createNodeDirectory asciiCase String.ofList smallLayout smallFiles
        smallSerial.text "pi4" none).toOption.map (fun r =>
          ((r.1.content (smallLayout.nodeFile smallSerial smallFile)).isSome,
            (readFile asciiCase smallLayout.handler r.1
              (request smallSerial smallFile)).toOption.isSome)) = some (true, false) := by
    decide +kernel
  obtain ⟨⟨fs', dir⟩, hcreate, hsees⟩ := Option.map_eq_some_iff.mp hrun
  rw [Prod.mk.injEq] at hsees
  obtain ⟨c, hc⟩ := Option.isSome_iff_exists.mp hsees.1
  have hcreate : createNodeDirectory asciiCase String.ofList smallLayout smallFiles
      smallSerial.text "pi4" none = .ok (fs', dir) := by
    revert hcreate
    cases createNodeDirectory asciiCase String.ofList smallLayout smallFiles
      smallSerial.text "pi4" none with
    | error e => intro hcreate; cases hcreate
    | ok r => intro hcreate; injection hcreate with hcreate; rw [hcreate]
  have hread := h.node fs' dir hcreate c hc
  rw [hread] at hsees
  cases hsees.2

end PureBoot.Tftp
