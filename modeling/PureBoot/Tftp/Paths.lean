/-
  PureBoot.Tftp.Paths — which file a TFTP request reads.

  Embeds `pxe/tftp_server.py: TFTPHandler._resolve_path` and, from
  `pxe/pi_manager.py`, the tests that recognise the request of a Raspberry Pi
  (`is_pi_serial_request`, `validate_serial`, `is_pi_boot_file`).  What the handler
  sees of the file system is a parameter (`View`): which paths exist, and how
  `resolve` ends.

  The handler makes sure that a request stays below its root by comparing the texts
  of the two paths.  A directory beside the root whose name begins with the root's
  name passes this test.

  Main results:
    * `contained_iff` — without links, the requests that stay where they belong are
      exactly those that do not lead into such a directory.
-/
import PureBoot.Lib.Posix
import PureBoot.Lib.Text

namespace PureBoot.Tftp

open PureBoot.Lib

/-! ## §1. Requests of a Raspberry Pi. -/

/-- The white space among the ASCII characters. -/
def asciiSpace (c : Char) : Bool :=
  c = ' ' || (9 ≤ c.toNat && c.toNat ≤ 13) || (28 ≤ c.toNat && c.toNat ≤ 31)

/-- What the code uses of Unicode: `str.lower`, the digits that `\d` matches and the white
space that `strip` removes. -/
structure Unicode where
  lower : List Char → List Char
  isDecimal : Char → Bool
  isSpace : Char → Bool
  lower_ascii : ∀ t, (∀ c ∈ t, c.toNat < 128) → lower t = t.map Char.toLower
  isDecimal_ascii : ∀ c : Char, c.toNat < 128 → isDecimal c = c.isDigit
  isSpace_ascii : ∀ c : Char, c.toNat < 128 → isSpace c = asciiSpace c

/-- `path.lstrip("/")`. -/
def lstrip (path : List Char) : List Char :=
  path.dropWhile (fun c => c = '/')

/-- `[0-9a-f]`. -/
def isHex (c : Char) : Bool :=
  ('0' ≤ c && c ≤ '9') || ('a' ≤ c && c ≤ 'f')

/-- `SERIAL_PATTERN`: `^[0-9a-f]{8}$`. -/
def serialPattern : List Char → Bool :=
  endsLine (fun t => t.length = 8 && t.all isHex)

/-- `DTB_PATTERN`: `^bcm27\d{2}.*\.dtb$`. -/
def dtbPattern (u : Unicode) : List Char → Bool :=
  endsLine (fun t =>
    decide ("bcm27".toList <+: t)
      && ((t.drop 5).take 2).length = 2 && ((t.drop 5).take 2).all u.isDecimal
      && decide (".dtb".toList <:+ t.drop 7) && !(t.drop 7).contains '\n')

/-- `PI_BOOT_FILES`. -/
def piBootFiles : List (List Char) :=
  ["bootcode.bin".toList,
   "start.elf".toList, "start4.elf".toList, "start_x.elf".toList, "start4x.elf".toList,
   "start_db.elf".toList, "start4db.elf".toList, "start_cd.elf".toList, "start4cd.elf".toList,
   "fixup.dat".toList, "fixup4.dat".toList, "fixup_x.dat".toList, "fixup4x.dat".toList,
   "fixup_db.dat".toList, "fixup4db.dat".toList, "fixup_cd.dat".toList, "fixup4cd.dat".toList,
   "config.txt".toList, "cmdline.txt".toList,
   "kernel.img".toList, "kernel7.img".toList, "kernel7l.img".toList, "kernel8.img".toList,
   "initramfs.img".toList, "initrd.img".toList,
   "bcm2710-rpi-3-b.dtb".toList, "bcm2710-rpi-3-b-plus.dtb".toList,
   "bcm2710-rpi-cm3.dtb".toList, "bcm2711-rpi-4-b.dtb".toList,
   "bcm2712-rpi-5-b.dtb".toList]

def validateSerial (u : Unicode) (serial : List Char) : Bool :=
  serialPattern (u.lower serial)

def isPiBootFile (u : Unicode) (filename : List Char) : Bool :=
  piBootFiles.contains (u.lower filename) || dtbPattern u (u.lower filename)

/-- `is_pi_serial_request`: the serial number and the file, if it is such a request. -/
def isPiSerialRequest (u : Unicode) (path : List Char) : Option (List Char × List Char) :=
  match (lstrip path).splitOn '/' with
  | first :: second :: rest =>
      let potentialSerial := u.lower first
      let filename := (second :: rest).getLast (List.cons_ne_nil second rest)
      if validateSerial u potentialSerial && isPiBootFile u filename then
        some (potentialSerial, filename)
      else none
  | _ => none

/-! ## §2. The path of a request. -/

/-- What the handler sees of the file system: `path.exists()` and `(path / text).resolve()`. -/
structure View where
  isThere : AbsPath → Bool
  resolve : AbsPath → List Char → AbsPath

/-- The file system without links. -/
def View.plain (isThere : AbsPath → Bool) : View where
  isThere := isThere
  resolve := AbsPath.resolveFrom

/-- `TFTPHandler`; its callback has no say in the path. -/
structure Handler where
  root : AbsPath
  piDiscoveryEnabled : Bool := false
  piDiscoveryDir : Option AbsPath := none
  piNodesDir : Option AbsPath := none

/-- `PermissionError`. -/
structure PermissionError where
  message : List Char
  deriving DecidableEq

/-- `str(requested).startswith(str(root))`, or the error. -/
def checkWithin (root requested : AbsPath) (filename : List Char) :
    Except PermissionError AbsPath :=
  if root.text <+: requested.text then .ok requested
  else .error ⟨"Access denied: ".toList ++ filename⟩

/-- The serial number has a node directory. -/
def Handler.isRegistered (h : Handler) (v : View) (serial : List Char) : Bool :=
  match h.piNodesDir with
  | some nodesDir => v.isThere (nodesDir.enter serial)
  | none => false

/-- `self.pi_discovery_enabled and self.pi_discovery_dir`. -/
def Handler.discovery (h : Handler) : Option AbsPath :=
  if h.piDiscoveryEnabled then h.piDiscoveryDir else none

/-- `_resolve_path`. -/
def resolvePath (u : Unicode) (v : View) (h : Handler) (filename : List Char) :
    Except PermissionError AbsPath :=
  let originalFilename := filename
  let filename := lstrip filename
  match h.discovery, isPiSerialRequest u originalFilename with
  | some discoveryDir, some (serial, bootFile) =>
      if h.isRegistered v serial then
        -- the node exists: from the root, like every other file
        checkWithin h.root (v.resolve h.root filename) filename
      else
        checkWithin discoveryDir (v.resolve discoveryDir bootFile) bootFile
  | _, _ => checkWithin h.root (v.resolve h.root filename) filename

/-- The request of an unknown Pi: the discovery directory and the file it is given from
there. -/
def fallback (u : Unicode) (v : View) (h : Handler) (filename : List Char) :
    Option (AbsPath × List Char) :=
  match h.discovery, isPiSerialRequest u filename with
  | some discoveryDir, some (serial, bootFile) =>
      if h.isRegistered v serial then none else some (discoveryDir, bootFile)
  | _, _ => none

/-- A request goes to the discovery directory or to the root. -/
theorem resolvePath_eq (u : Unicode) (v : View) (h : Handler) (filename : List Char) :
    resolvePath u v h filename =
      match fallback u v h filename with
      | some (dir, bootFile) => checkWithin dir (v.resolve dir bootFile) bootFile
      | none => checkWithin h.root (v.resolve h.root (lstrip filename)) (lstrip filename) := by
  unfold resolvePath fallback
  dsimp only
  split
  next dir serial bootFile _ _ =>
    split
    next => rfl
    next => rfl
  next => rfl

/-! ## §3. Containment. -/

/-- A path that is returned is the root or below it, component by component; for a
discovery fallback, the discovery directory. -/
def Contained (u : Unicode) (v : View) (h : Handler) (filename : List Char) : Prop :=
  ∀ p, resolvePath u v h filename = .ok p →
    match fallback u v h filename with
    | some (dir, _) => AbsPath.Under dir p
    | none => AbsPath.Under h.root p

theorem checkWithin_ok {root requested p : AbsPath} {filename : List Char} :
    checkWithin root requested filename = .ok p ↔
      requested = p ∧ (AbsPath.Under root requested ∨
        nameExtends root.parts requested.parts = true) := by
  unfold checkWithin
  rw [← AbsPath.text_isPrefix_iff]
  split
  next h => simp [h]
  next h => simp [h]

/-- No boot file is the empty text, `.` or `..`. -/
theorem isName_of_isPiBootFile {u : Unicode} {filename : List Char} (hslash : '/' ∉ filename)
    (h : isPiBootFile u filename = true) : isName filename = true := by
  have hdots : ∀ t ∈ [[], ['.'], ['.', '.']], isPiBootFile u t = false := by
    intro t ht
    have hascii : ∀ c ∈ t, c.toNat < 128 := by
      revert ht t
      simp
    unfold isPiBootFile
    rw [u.lower_ascii t hascii]
    simp only [List.mem_cons, List.not_mem_nil, or_false] at ht
    rcases ht with rfl | rfl | rfl
    · rfl
    · rfl
    · rfl
  have hne : ∀ t ∈ [[], ['.'], ['.', '.']], filename ≠ t := by
    rintro t ht rfl
    rw [hdots filename ht] at h
    cases h
  rw [isName_iff]
  exact ⟨hne [] (by simp), hslash, hne ['.'] (by simp), hne ['.', '.'] (by simp)⟩

theorem isPiSerialRequest_eq_some {u : Unicode} {path serial bootFile : List Char}
    (h : isPiSerialRequest u path = some (serial, bootFile)) : isName bootFile = true := by
  unfold isPiSerialRequest at h
  split at h
  next first second rest hsplit =>
    dsimp only at h
    split at h
    next hboth =>
      rw [Option.some.injEq, Prod.mk.injEq] at h
      obtain ⟨-, hfile⟩ := h
      have hmem : bootFile ∈ (lstrip path).splitOn '/' := by
        rw [hsplit, ← hfile]
        exact List.mem_cons_of_mem first (List.getLast_mem _)
      rw [hfile, Bool.and_eq_true] at hboth
      exact isName_of_isPiBootFile (no_slash_of_mem_splitOn hmem) hboth.2
    next => cases h
  next => cases h

theorem fallback_eq_some {u : Unicode} {v : View} {h : Handler} {filename bootFile : List Char}
    {dir : AbsPath} (hf : fallback u v h filename = some (dir, bootFile)) :
    isName bootFile = true := by
  unfold fallback at hf
  split at hf
  next discoveryDir serial file hdir hreq =>
    split at hf
    next => cases hf
    next =>
      rw [Option.some.injEq, Prod.mk.injEq] at hf
      rw [← hf.2]
      exact isPiSerialRequest_eq_some hreq
  next => cases hf

/-- **A REQUEST STAYS WHERE IT BELONGS, EXACTLY IF** it is given from the discovery
directory or does not lead into a directory beside the root whose name begins with the
root's name. -/
theorem contained_iff (u : Unicode) (isThere : AbsPath → Bool) (h : Handler)
    (filename : List Char) :
    Contained u (View.plain isThere) h filename ↔
      (fallback u (View.plain isThere) h filename = none →
        nameExtends h.root.parts (h.root.resolveFrom (lstrip filename)).parts = false) := by
  unfold Contained
  rw [resolvePath_eq]
  cases hf : fallback u (View.plain isThere) h filename with
  | some target =>
      obtain ⟨dir, bootFile⟩ := target
      -- a boot file is one name, so it stays below the directory of the fallback
      have hname := fallback_eq_some hf
      refine ⟨fun _ hnone => absurd hnone (Option.some_ne_none _), ?_⟩
      intro _ p hp
      dsimp only at hp ⊢
      obtain ⟨rfl, -⟩ := checkWithin_ok.mp hp
      show AbsPath.Under dir (dir.resolveFrom bootFile)
      rw [AbsPath.resolveFrom_name hname]
      exact dir.under_child hname
  | none =>
      dsimp only
      show (∀ p, checkWithin h.root (h.root.resolveFrom (lstrip filename)) _ = .ok p → _) ↔ _
      generalize h.root.resolveFrom (lstrip filename) = requested
      constructor
      -- `startswith` also lets through what begins with the root's name
      · intro hall _
        rw [← Bool.not_eq_true]
        intro hext
        have hunder := hall requested (checkWithin_ok.mpr ⟨rfl, .inr hext⟩)
        exact not_prefix_of_nameExtends hext hunder
      · intro hcond p hp
        obtain ⟨rfl, hunder | hext⟩ := checkWithin_ok.mp hp
        · exact hunder
        · rw [hcond rfl] at hext
          cases hext

/-- Lower case, digits and white space of ASCII texts, and nothing else. -/
def asciiCase : Unicode where
  lower := fun t => t.map Char.toLower
  isDecimal := Char.isDigit
  isSpace := asciiSpace
  lower_ascii := fun _ _ => rfl
  isDecimal_ascii := fun _ _ => rfl
  isSpace_ascii := fun _ _ => rfl

/-- A handler for `/srv/tftp`. -/
def srvTftp : Handler where
  root := ⟨["srv".toList, "tftp".toList], by decide⟩

/-- `../tftp-secret/key` is served: its text begins with that of `/srv/tftp`. -/
theorem sibling_not_contained :
    ¬ Contained asciiCase (View.plain (fun _ => true)) srvTftp "../tftp-secret/key".toList := by
  intro h
  have hunder := h ⟨["srv".toList, "tftp-secret".toList, "key".toList], by decide⟩ (by decide)
  have hout : ¬ AbsPath.Under srvTftp.root
      ⟨["srv".toList, "tftp-secret".toList, "key".toList], by decide⟩ := by
    decide
  exact hout hunder

end PureBoot.Tftp
