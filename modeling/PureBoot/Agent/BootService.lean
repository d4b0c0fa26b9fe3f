/-
  PureBoot.Agent.BootService — the BOOT SERVICE of a site agent, its requests INTERLEAVED.

  Embeds `AgentBootService.get_boot_script` and `serve_tftp_file`, `CacheManager.cache_file`
  and the counters of `BootMetrics`, of `agent/boot_service.py`.  Between two awaits a
  request has the service for itself, and the lock of the counters is never held across one;
  what central answers, and what a thread does to the disk, comes in any order.  A file that
  central sends is written beside its place and renamed.  The name it is written under lacks
  the suffix of the file: two downloads can have it in common, and a file of that name can
  itself be asked for.

  What central has sent, and what was served to whom, is kept beside.

  Main results:
    * `CacheOk.turn`, `CacheOk.asks` — what one step keeps of the files, if no two downloads
      write to one file;
    * `tftp_files_are_centrals` — then every file that is cached or served is one that
      central sent for it, and what is cached at any time stays cached;
    * `boot_counters_exact` — the counters are those of the requests, one by one, in every
      run.
-/
import Mathlib.Data.Finset.Lattice.Lemmas
import PureBoot.Agent.CacheMap
import PureBoot.Lib.Run

namespace PureBoot.Agent

open PureBoot.Lib AbsPath

/-! ## §1. The state. -/

/-- `BootMetrics`. -/
structure BootMetrics where
  nodesSeen : Finset (List Char) := ∅
  activeBoots : Nat := 0
  cacheHits : Nat := 0
  cacheMisses : Nat := 0

namespace BootMetrics

/-- `record_boot_request`. -/
def recordBootRequest (m : BootMetrics) (mac : List Char) : BootMetrics :=
  { m with nodesSeen := insert mac m.nodesSeen, activeBoots := m.activeBoots + 1 }

/-- `complete_boot_request`: `max(0, active_boots - 1)`. -/
def completeBootRequest (m : BootMetrics) : BootMetrics :=
  { m with activeBoots := m.activeBoots - 1 }

/-- `record_cache_hit`. -/
def recordCacheHit (m : BootMetrics) : BootMetrics := { m with cacheHits := m.cacheHits + 1 }

/-- `record_cache_miss`. -/
def recordCacheMiss (m : BootMetrics) : BootMetrics := { m with cacheMisses := m.cacheMisses + 1 }

end BootMetrics

/-- What `AgentBootService` is made with. -/
structure BootConfig where
  cacheDir : AbsPath
  /-- Without its slashes at the end. -/
  centralUrl : List Char
  /-- `http://{settings.host}:{settings.port}`. -/
  localServer : List Char
  /-- There is a `connectivity`. -/
  monitored : Bool
  /-- There is an `offline_generator`. -/
  hasGenerator : Bool

namespace BootConfig

/-- `is_online`, where the monitor says `monitor`. -/
def isOnline (cfg : BootConfig) (monitor : Bool) : Bool := !cfg.monitored || monitor

/-- `_rewrite_urls`. -/
def rewriteUrls (cfg : BootConfig) (script : List Char) : List Char :=
  replaceAll (cfg.centralUrl ++ "/tftp/".toList) (cfg.localServer ++ "/tftp/".toList) script

/-- Where the file of a request is cached. -/
def fileOf (cfg : BootConfig) (path : List Char) : AbsPath :=
  getCachedPath cfg.cacheDir "tftp".toList path

end BootConfig

/-- Where a request for a script is. -/
inductive BootPc where
  /-- Central is asked. -/
  | central
  /-- `offline_generator.generate_script`. -/
  | generating
  deriving DecidableEq

structure BootTask where
  id : Nat
  pc : BootPc

inductive BootAnswer where
  | central (script : List Char)
  /-- `_generate_fallback_script`. -/
  | fallback
  /-- The script of the generator. -/
  | generated
  /-- `_generate_offline_script`. -/
  | offline
  | raised

/-- Where a request for a file is.  What is to be written is handed to a thread. -/
inductive FilePc where
  | fetching
  /-- `temp_path.write_bytes(content)`. -/
  | writing (content : Bytes)
  /-- `temp_path.rename(path)`. -/
  | renaming (content : Bytes)
  /-- One of them has raised. -/
  | failed
  deriving DecidableEq

structure FileTask where
  id : Nat
  path : List Char
  pc : FilePc

/-- A request for a file, and whether it was found in the cache. -/
structure FileAsked where
  id : Nat
  path : List Char
  hit : Bool
  deriving DecidableEq

structure BootService where
  tree : Lib.Tree Bytes
  metrics : BootMetrics := {}
  boots : Table BootTask.id := Table.empty
  files : Table FileTask.id := Table.empty
  /-- The requests for scripts: their numbers and MAC addresses. -/
  asked : List (Nat × List Char) := []
  answers : List (Nat × BootAnswer) := []
  askedFiles : List FileAsked := []
  /-- What central has sent, for which path. -/
  sent : List (List Char × Bytes) := []
  /-- What was served: to which request, for which path. -/
  served : List (Nat × List Char × Bytes) := []

namespace BootService

/-- The service after its start. -/
def start (tree : Lib.Tree Bytes) : BootService := { tree }

/-! ## §2. Scripts. -/

/-- A request ends, however it ends: `complete_boot_request` is in a `finally`. -/
def endBoot (s : BootService) (t : BootTask) (answer : BootAnswer) : BootService :=
  { s with
    boots := s.boots.delete (fun r => r.id = t.id)
    metrics := s.metrics.completeBootRequest
    answers := s.answers ++ [(t.id, answer)] }

/-- `get_boot_script` as far as its first await; the number of a request is not given twice. -/
def askScript (cfg : BootConfig) (s : BootService) (id : Nat) (mac : List Char)
    (monitor : Bool) : BootService :=
  let offline := !cfg.isOnline monitor && cfg.hasGenerator
  if id ∈ s.asked.map Prod.fst then s
  else
    match s.boots.insert? ⟨id, if offline then .generating else .central⟩ with
    | none => s
    | some boots =>
        { s with
          boots
          metrics := s.metrics.recordBootRequest mac
          asked := s.asked ++ [(id, mac)] }

/-- What a request for a script waits for. -/
inductive BootTurn where
  | answered (status : Nat) (script : List Char)
  /-- `aiohttp.ClientError`. -/
  | clientError
  | generated
  /-- Any other exception. -/
  | raises

def bootTurn (cfg : BootConfig) (s : BootService) (t : BootTask) : BootTurn → BootService
  | .answered status script =>
      if t.pc = .central then
        s.endBoot t (if status = 200 then .central (cfg.rewriteUrls script) else .fallback)
      else s
  | .clientError =>
      if t.pc = .central then
        if cfg.hasGenerator then { s with boots := s.boots.put { t with pc := .generating } }
        else s.endBoot t .offline
      else s
  | .generated => if t.pc = .generating then s.endBoot t .generated else s
  | .raises => s.endBoot t .raised

/-! ## §3. Files. -/

def endFile (s : BootService) (t : FileTask) : BootService :=
  { s with files := s.files.delete (fun r => r.id = t.id) }

def setPc (s : BootService) (t : FileTask) (pc : FilePc) : BootService :=
  { s with files := s.files.put { t with pc } }

/-- `serve_tftp_file` as far as its first await. -/
def askFile (cfg : BootConfig) (s : BootService) (id : Nat) (path : List Char) : BootService :=
  if id ∈ s.askedFiles.map FileAsked.id then s
  else
    match s.tree.content? (cfg.fileOf path) with
    | some content =>
        { s with
          metrics := s.metrics.recordCacheHit
          askedFiles := s.askedFiles ++ [⟨id, path, true⟩]
          served := s.served ++ [(id, path, content)] }
    | none =>
        match s.files.insert? ⟨id, path, .fetching⟩ with
        | none => s
        | some files =>
            { s with
              files
              metrics := s.metrics.recordCacheMiss
              askedFiles := s.askedFiles ++ [⟨id, path, false⟩] }

/-- `cache_file` as far as its first await.  The directory is made, and the temporary name is
taken, outside of the `try`. -/
def cacheFile (cfg : BootConfig) (s : BootService) (t : FileTask) (content : Bytes) :
    BootService :=
  match s.tree.mkdirs (cfg.fileOf t.path).parent with
  | none => s.endFile t
  | some tree =>
      match tempPath (cfg.fileOf t.path) with
      | none => { s with tree }.endFile t
      | some _ => { s with tree }.setPc t (.writing content)

/-- What a request for a file waits for. -/
inductive FileTurn where
  | answered (status : Nat) (content : Bytes)
  /-- `aiohttp.ClientError` or any other exception. -/
  | raises
  | written
  /-- The write raises, after it has written something or nothing. -/
  | writeRaises (part : Option Bytes)
  | renamed
  /-- The renaming raises. -/
  | renameRaises
  /-- The handler of the exception. -/
  | handled

/-- `write_bytes`, or as much of it as was done. -/
def writeTemp (s : BootService) (temp : AbsPath) (content : Bytes) : BootService :=
  match s.tree.write temp content with
  | some tree => { s with tree }
  | none => s

/-- `if temp_path.exists(): temp_path.unlink()`. -/
def unlinkTemp (s : BootService) (temp : AbsPath) : BootService :=
  match s.tree.unlink temp with
  | some tree => { s with tree }
  | none => s

/-- The thread has written. -/
def wrote (s : BootService) (t : FileTask) (temp : AbsPath) (content : Bytes) : BootService :=
  match s.tree.write temp content with
  | some tree => { s with tree }.setPc t (.renaming content)
  | none => s.setPc t .failed

/-- The thread has renamed, and the request is answered. -/
def renamed (cfg : BootConfig) (s : BootService) (t : FileTask) (temp : AbsPath)
    (content : Bytes) : BootService :=
  match s.tree.rename temp (cfg.fileOf t.path) with
  | some tree => { s with tree, served := s.served ++ [(t.id, t.path, content)] }.endFile t
  | none => s.setPc t .failed

def fileTurn (cfg : BootConfig) (s : BootService) (t : FileTask) (turn : FileTurn) :
    BootService :=
  match tempPath (cfg.fileOf t.path), t.pc, turn with
  | _, .fetching, .answered status content =>
      if status = 200 then { s with sent := s.sent ++ [(t.path, content)] }.cacheFile cfg t content
      else s.endFile t
  | _, .fetching, .raises => s.endFile t
  | some temp, .writing content, .written => s.wrote t temp content
  | some temp, .writing _, .writeRaises part =>
      match part with
      | some part => (s.writeTemp temp part).setPc t .failed
      | none => s.setPc t .failed
  | some temp, .renaming content, .renamed => s.renamed cfg t temp content
  | some _, .renaming _, .renameRaises => s.setPc t .failed
  | some temp, .failed, .handled => (s.unlinkTemp temp).endFile t
  | _, _, _ => s

end BootService

inductive BootStep where
  | bootAsks (id : Nat) (mac : List Char) (monitor : Bool)
  | bootTurn (id : Nat) (turn : BootService.BootTurn)
  | fileAsks (id : Nat) (path : List Char)
  | fileTurn (id : Nat) (turn : BootService.FileTurn)

namespace BootService

def exec (cfg : BootConfig) (s : BootService) : BootStep → BootService
  | .bootAsks id mac monitor => s.askScript cfg id mac monitor
  | .bootTurn id turn =>
      match s.boots.get? id with
      | some t => s.bootTurn cfg t turn
      | none => s
  | .fileAsks id path => s.askFile cfg id path
  | .fileTurn id turn =>
      match s.files.get? id with
      | some t => s.fileTurn cfg t turn
      | none => s

/-! ## §4. What the files are. -/

/-- Where a file was written: it was there at the start, or central has sent it for a path
that is cached there. -/
def Genuine (cfg : BootConfig) (tree : Lib.Tree Bytes) (sent : List (List Char × Bytes))
    (file : AbsPath) (content : Bytes) : Prop :=
  tree.content? file = some content ∨ ∃ path, (path, content) ∈ sent ∧ cfg.fileOf path = file

/-- No file is written under the name of this one. -/
def Plain (file : AbsPath) : Prop := tempPath file ≠ some file

/-- **NO TWO DOWNLOADS WRITE TO ONE FILE**, and nobody asks for a file that has the name of a
temporary one. -/
def Undisturbed (cfg : BootConfig) (s : BootService) : BootStep → Prop
  | .fileAsks _ path => Plain (cfg.fileOf path)
  | .fileTurn id (.answered _ _) =>
      ∀ t ∈ s.files.rows, t.id = id → ∀ t' ∈ s.files.rows, t'.pc ≠ .fetching →
        tempPath (cfg.fileOf t'.path) ≠ tempPath (cfg.fileOf t.path)
  | _ => True

instance (file : AbsPath) : Decidable (Plain file) := inferInstanceAs (Decidable (_ ≠ _))

instance (cfg : BootConfig) (s : BootService) : ∀ step, Decidable (Undisturbed cfg s step)
  | .fileAsks _ path => inferInstanceAs (Decidable (Plain (cfg.fileOf path)))
  | .fileTurn id (.answered _ _) =>
      inferInstanceAs (Decidable (∀ t ∈ s.files.rows, t.id = id → ∀ t' ∈ s.files.rows,
        t'.pc ≠ .fetching → tempPath (cfg.fileOf t'.path) ≠ tempPath (cfg.fileOf t.path)))
  | .bootAsks _ _ _ | .bootTurn _ _ | .fileTurn _ .raises | .fileTurn _ .written
  | .fileTurn _ (.writeRaises _) | .fileTurn _ .renamed | .fileTurn _ .renameRaises
  | .fileTurn _ .handled => .isTrue trivial

variable {cfg : BootConfig} {tree base : Lib.Tree Bytes} {s : BootService} {t : FileTask}

/-- What holds of the files of a service that started with the files of `tree`, and had those of
`base` once since. -/
structure CacheOk (cfg : BootConfig) (tree base : Lib.Tree Bytes) (s : BootService) : Prop where
  cached : ∀ file content, Plain file → s.tree.content? file = some content →
    Genuine cfg tree s.sent file content
  served : ∀ id path content, (id, path, content) ∈ s.served →
    Genuine cfg tree s.sent (cfg.fileOf path) content
  plain : ∀ t ∈ s.files.rows, Plain (cfg.fileOf t.path)
  /-- What is being written was sent. -/
  sent : ∀ t ∈ s.files.rows, ∀ content, t.pc = .writing content ∨ t.pc = .renaming content →
    (t.path, content) ∈ s.sent
  /-- What is being renamed was written. -/
  written : ∀ t ∈ s.files.rows, ∀ content, t.pc = .renaming content →
    ∀ temp, tempPath (cfg.fileOf t.path) = some temp → s.tree.content? temp = some content
  apart : ∀ t ∈ s.files.rows, ∀ t' ∈ s.files.rows, t.pc ≠ .fetching → t'.pc ≠ .fetching →
    tempPath (cfg.fileOf t.path) = tempPath (cfg.fileOf t'.path) → t.id = t'.id
  /-- What was cached stays cached. -/
  kept : ∀ file, Plain file → (base.content? file).isSome → (s.tree.content? file).isSome

/-- The files there are now are remembered. -/
theorem CacheOk.rebase (h : CacheOk cfg tree base s) : CacheOk cfg tree s.tree s :=
  { h with kept := fun _ _ hthere => hthere }

theorem Genuine.mono {sent sent' : List (List Char × Bytes)} {file : AbsPath} {content : Bytes}
    (h : Genuine cfg tree sent file content) (hsent : ∀ x ∈ sent, x ∈ sent') :
    Genuine cfg tree sent' file content :=
  h.imp_right (fun ⟨path, hmem, hfile⟩ => ⟨path, hsent _ hmem, hfile⟩)

/-- The suffix of a temporary file is replaced by itself. -/
theorem stem_temp {name : List Char} (h : name ≠ []) :
    stem (stem name ++ ".tmp".toList) = stem name := by
  have hne : stem name ≠ [] := by
    unfold stem
    dsimp only
    split
    next hdot =>
      intro hnil
      rcases List.take_eq_nil_iff.mp hnil with hzero | hname
      · omega
      · exact h hname
    next => exact h
  have hext : (stem name ++ ".tmp".toList).reverse.takeWhile (fun c => c ≠ '.')
      = "pmt".toList := by
    rw [List.reverse_append]
    rfl
  have hpos : 0 < (stem name).length := List.length_pos_iff.mpr hne
  have hlength : (stem name ++ ".tmp".toList).length = (stem name).length + 4 :=
    List.length_append
  have hthree : "pmt".toList.length = 3 := rfl
  generalize hn : stem name = front at *
  unfold stem
  dsimp only
  rw [hext, hlength, hthree]
  rw [if_pos ⟨by omega, by omega, by decide⟩]
  rw [show front.length + 4 - 3 - 1 = front.length by omega]
  exact List.take_left

/-- **WHAT IS WRITTEN TO** is written to under its own name. -/
theorem tempPath_temp {file temp : AbsPath} (h : tempPath file = some temp) :
    tempPath temp = some temp := by
  unfold tempPath withSuffix at h ⊢
  obtain ⟨name, hname, rfl⟩ := Option.map_eq_some_iff.mp h
  have hvalid : isName name = true := file.valid name (List.mem_of_getLast? hname)
  have htemp : isName (stem name ++ ".tmp".toList) = true := isName_stem hvalid
  have hlast : (file.parent.enter (stem name ++ ".tmp".toList)).parts.getLast?
      = some (stem name ++ ".tmp".toList) := by
    rw [parts_enter_name htemp, List.getLast?_concat]
  rw [hlast, Option.map_some, parent_enter htemp, stem_temp (isName_iff.mp hvalid).1]

theorem not_plain_temp {file temp : AbsPath} (h : tempPath file = some temp) : ¬ Plain temp :=
  fun hplain => hplain (tempPath_temp h)

/-! ## §5. One step of a download. -/

variable {s' : BootService}

/-- A download changes its own temporary file, and then perhaps puts what was sent in its
place. -/
def TreeStep (cfg : BootConfig) (tree : Lib.Tree Bytes) (t : FileTask) (s s' : BootService) :
    Prop :=
  ∀ q, tempPath (cfg.fileOf t.path) ≠ some q → s'.tree.content? q = s.tree.content? q ∨
    q = cfg.fileOf t.path ∧ ∃ content, s'.tree.content? q = some content ∧
      Genuine cfg tree s'.sent q content

/-- The other downloads find their files as they left them. -/
theorem CacheOk.others (h : CacheOk cfg tree base s) (ht : t ∈ s.files.rows)
    (hpc : t.pc ≠ .fetching) (htree : TreeStep cfg tree t s s') {r : FileTask}
    (hr : r ∈ s.files.rows) (hid : r.id ≠ t.id) (hrpc : r.pc ≠ .fetching) {temp : AbsPath}
    (htemp : tempPath (cfg.fileOf r.path) = some temp) :
    s'.tree.content? temp = s.tree.content? temp := by
  have hne : tempPath (cfg.fileOf t.path) ≠ some temp := fun heq =>
    hid (h.apart r hr t ht hrpc hpc (htemp.trans heq.symm))
  rcases htree temp hne with hsame | ⟨hfile, -⟩
  · exact hsame
  · exact absurd (hfile ▸ h.plain t ht) (not_plain_temp htemp)

/-- **THE STEP OF A DOWNLOAD.**  It goes on to `pc`, or is over. -/
theorem CacheOk.move (h : CacheOk cfg tree base s) (pc : FilePc) (ht : t ∈ s.files.rows)
    (htree : TreeStep cfg tree t s s')
    (hfiles : ∀ r ∈ s'.files.rows, r = { t with pc } ∨ r ∈ s.files.rows ∧ r.id ≠ t.id)
    (hsent : ∀ x ∈ s.sent, x ∈ s'.sent)
    (hserved : ∀ id path content, (id, path, content) ∈ s'.served →
      (id, path, content) ∈ s.served ∨ Genuine cfg tree s'.sent (cfg.fileOf path) content)
    (hnew : ∀ content, pc = .writing content ∨ pc = .renaming content →
      (t.path, content) ∈ s'.sent)
    (hwritten : ∀ content, pc = .renaming content → ∀ temp,
      tempPath (cfg.fileOf t.path) = some temp → s'.tree.content? temp = some content)
    (hapart : pc ≠ .fetching → ∀ r ∈ s.files.rows, r.id ≠ t.id → r.pc ≠ .fetching →
      tempPath (cfg.fileOf r.path) ≠ tempPath (cfg.fileOf t.path))
    (hothers : ∀ r ∈ s.files.rows, r.id ≠ t.id → r.pc ≠ .fetching → ∀ temp,
      tempPath (cfg.fileOf r.path) = some temp → s'.tree.content? temp = s.tree.content? temp) :
    CacheOk cfg tree base s' := by
  have hown : ∀ file, Plain file → tempPath (cfg.fileOf t.path) ≠ some file :=
    fun file hplain htemp => not_plain_temp htemp hplain
  constructor
  case cached =>
    intro file content hplain hcontent
    rcases htree file (hown file hplain) with hsame | ⟨rfl, content', hcontent', hgenuine⟩
    · exact (h.cached file content hplain (hsame ▸ hcontent)).mono hsent
    · obtain rfl := Option.some.inj (hcontent'.symm.trans hcontent)
      exact hgenuine
  case served =>
    intro id path content hmem
    rcases hserved id path content hmem with hmem | hgenuine
    · exact (h.served id path content hmem).mono hsent
    · exact hgenuine
  case plain =>
    intro r hr
    rcases hfiles r hr with rfl | ⟨hr, -⟩
    · exact h.plain t ht
    · exact h.plain r hr
  case sent =>
    intro r hr content hpc
    rcases hfiles r hr with rfl | ⟨hr, -⟩
    · exact hnew content hpc
    · exact hsent _ (h.sent r hr content hpc)
  case written =>
    intro r hr content hpc temp htemp
    rcases hfiles r hr with rfl | ⟨hr, hid⟩
    · exact hwritten content hpc temp htemp
    · rw [hothers r hr hid (hpc ▸ nofun) temp htemp]
      exact h.written r hr content hpc temp htemp
  case apart =>
    intro r hr r' hr' hpc hpc' heq
    rcases hfiles r hr with rfl | ⟨hr, hid⟩
    · rcases hfiles r' hr' with rfl | ⟨hr', hid'⟩
      · rfl
      · exact absurd heq.symm (hapart hpc r' hr' hid' hpc')
    · rcases hfiles r' hr' with rfl | ⟨hr', -⟩
      · exact absurd heq (hapart hpc' r hr hid hpc)
      · exact h.apart r hr r' hr' hpc hpc' heq
  case kept =>
    intro file hplain hthere
    have hbefore := h.kept file hplain hthere
    rcases htree file (hown file hplain) with hsame | ⟨-, content, hcontent, -⟩
    · rwa [hsame]
    · rw [hcontent]
      rfl

theorem files_setPc (ht : t ∈ s.files.rows) (pc : FilePc) {r : FileTask}
    (hr : r ∈ (s.setPc t pc).files.rows) :
    r = { t with pc } ∨ r ∈ s.files.rows ∧ r.id ≠ t.id :=
  (Table.mem_put_iff (r := { t with pc }) ⟨t, ht, rfl⟩).mp hr

theorem files_endFile {r : FileTask} (hr : r ∈ (s.endFile t).files.rows) :
    r ∈ s.files.rows ∧ r.id ≠ t.id := by
  obtain ⟨hr, hid⟩ := Table.mem_delete.mp hr
  exact ⟨hr, of_decide_eq_false hid⟩

/-- A request that waits for central ends, or its directory is made. -/
theorem CacheOk.ends (h : CacheOk cfg tree base s) (ht : t ∈ s.files.rows)
    (hsame : ∀ q, s'.tree.content? q = s.tree.content? q)
    (hfiles : ∀ r ∈ s'.files.rows, r ∈ s.files.rows ∧ r.id ≠ t.id)
    (hsent : ∀ x ∈ s.sent, x ∈ s'.sent) (hserved : s'.served = s.served) :
    CacheOk cfg tree base s' := by
  refine h.move .fetching ht (fun q _ => .inl (hsame q))
    (fun r hr => .inr (hfiles r hr)) hsent (fun _ _ _ hmem => .inl (hserved ▸ hmem)) ?_ nofun
    (fun hne => absurd rfl hne) (fun _ _ _ _ temp _ => hsame temp)
  rintro content (hpc | hpc) <;> cases hpc

/-- A download that has begun goes on. -/
theorem CacheOk.goes (h : CacheOk cfg tree base s) (pc : FilePc) (ht : t ∈ s.files.rows)
    (hpc : t.pc ≠ .fetching) (htree : TreeStep cfg tree t s s')
    (hfiles : ∀ r ∈ s'.files.rows, r = { t with pc } ∨ r ∈ s.files.rows ∧ r.id ≠ t.id)
    (hsent : s'.sent = s.sent)
    (hserved : ∀ id path content, (id, path, content) ∈ s'.served →
      (id, path, content) ∈ s.served ∨ Genuine cfg tree s'.sent (cfg.fileOf path) content)
    (hnew : ∀ content, pc = .writing content ∨ pc = .renaming content →
      (t.path, content) ∈ s.sent)
    (hwritten : ∀ content, pc = .renaming content → ∀ temp,
      tempPath (cfg.fileOf t.path) = some temp → s'.tree.content? temp = some content) :
    CacheOk cfg tree base s' := by
  refine h.move pc ht htree hfiles (fun x hx => hsent ▸ hx) hserved
    (fun content hor => hsent ▸ hnew content hor) hwritten ?_
    (fun r hr hid hrpc temp => h.others ht hpc htree hr hid hrpc)
  exact fun _ r hr hid hrpc heq => hid (h.apart r hr t ht hrpc hpc heq)

/-- It is over, or only its exception is left to handle. -/
theorem CacheOk.fails (h : CacheOk cfg tree base s) (ht : t ∈ s.files.rows) (hpc : t.pc ≠ .fetching)
    (htree : TreeStep cfg tree t s s')
    (hfiles : ∀ r ∈ s'.files.rows, r = { t with pc := .failed } ∨ r ∈ s.files.rows ∧ r.id ≠ t.id)
    (hsent : s'.sent = s.sent)
    (hserved : ∀ id path content, (id, path, content) ∈ s'.served →
      (id, path, content) ∈ s.served ∨ Genuine cfg tree s'.sent (cfg.fileOf path) content) :
    CacheOk cfg tree base s' := by
  refine h.goes .failed ht hpc htree hfiles hsent hserved ?_ nofun
  rintro content (hpc | hpc) <;> cases hpc

/-- What is written to the temporary file is its own step. -/
theorem treeStep_of (h : ∀ q, tempPath (cfg.fileOf t.path) ≠ some q →
    s'.tree.content? q = s.tree.content? q) : TreeStep cfg tree t s s' :=
  fun q hne => .inl (h q hne)

theorem treeStep_same (h : s'.tree = s.tree) : TreeStep cfg tree t s s' :=
  treeStep_of (fun q _ => congrArg (fun tree => tree.content? q) h)

theorem CacheOk.cacheFile (h : CacheOk cfg tree base s) (ht : t ∈ s.files.rows)
    (hcalm : ∀ r ∈ s.files.rows, r.pc ≠ .fetching →
      tempPath (cfg.fileOf r.path) ≠ tempPath (cfg.fileOf t.path)) (content : Bytes) :
    CacheOk cfg tree base ({ s with sent := s.sent ++ [(t.path, content)] }.cacheFile cfg t content)
    := by
  have hsent : ∀ x ∈ s.sent, x ∈ s.sent ++ [(t.path, content)] :=
    fun x hx => List.mem_append_left _ hx
  unfold BootService.cacheFile
  cases hmkdirs : s.tree.mkdirs (cfg.fileOf t.path).parent with
  | none => exact h.ends ht (fun _ => rfl) (fun r hr => files_endFile (s := s) hr) hsent rfl
  | some made =>
      have hsame := Tree.content?_mkdirs hmkdirs
      dsimp only
      cases tempPath (cfg.fileOf t.path) with
      | none => exact h.ends ht hsame (fun r hr => files_endFile (s := s) hr) hsent rfl
      | some temp =>
          refine h.move (.writing content) ht (fun q _ => .inl (hsame q))
            (fun r hr => files_setPc (s := s) ht (.writing content) hr) hsent
            (fun _ _ _ hmem => .inl hmem) ?_ nofun (fun _ r hr _ hrpc => hcalm r hr hrpc)
            (fun _ _ _ _ temp _ => hsame temp)
          rintro written (hpc | hpc)
          · cases hpc
            exact List.mem_append_right _ (List.mem_singleton_self _)
          · cases hpc

/-- The write succeeds, or not even in part. -/
theorem CacheOk.wrote {temp : AbsPath} {content : Bytes} (h : CacheOk cfg tree base s)
    (ht : t ∈ s.files.rows) (htemp : tempPath (cfg.fileOf t.path) = some temp)
    (hpc : t.pc = .writing content) : CacheOk cfg tree base (s.wrote t temp content) := by
  have hbegun : t.pc ≠ .fetching := hpc ▸ nofun
  unfold BootService.wrote
  cases hwrite : s.tree.write temp content with
  | none =>
      exact h.fails ht hbegun (treeStep_same rfl) (fun r hr => files_setPc ht .failed hr) rfl
        (fun _ _ _ hmem => .inl hmem)
  | some written =>
      have hcontent := Tree.content?_write hwrite
      refine h.goes (.renaming content) ht hbegun (treeStep_of ?_)
        (fun r hr => files_setPc (s := s) ht (.renaming content) hr) rfl
        (fun _ _ _ hmem => .inl hmem) ?_ ?_
      · intro q hq
        show written.content? q = _
        rw [hcontent q, if_neg (fun heq : q = temp => hq (heq ▸ htemp))]
      · rintro sent (hsent | hsent)
        · cases hsent
        · cases hsent
          exact h.sent t ht content (.inl hpc)
      · intro sent hsent temp' htemp'
        cases hsent
        obtain rfl := Option.some.inj (htemp.symm.trans htemp')
        show written.content? temp = _
        rw [hcontent temp, if_pos rfl]

/-- What is left of a write that fails is in the temporary file. -/
theorem CacheOk.writeTemp {temp : AbsPath} (h : CacheOk cfg tree base s) (ht : t ∈ s.files.rows)
    (htemp : tempPath (cfg.fileOf t.path) = some temp) (hpc : t.pc ≠ .fetching) (part : Bytes) :
    CacheOk cfg tree base ((s.writeTemp temp part).setPc t .failed) := by
  unfold BootService.writeTemp
  cases hwrite : s.tree.write temp part with
  | none =>
      exact h.fails ht hpc (treeStep_same rfl) (fun r hr => files_setPc ht .failed hr) rfl
        (fun _ _ _ hmem => .inl hmem)
  | some written =>
      refine h.fails ht hpc (treeStep_of ?_) (fun r hr => files_setPc (s := s) ht .failed hr) rfl
        (fun _ _ _ hmem => .inl hmem)
      intro q hq
      show written.content? q = _
      rw [Tree.content?_write hwrite q, if_neg (fun heq : q = temp => hq (heq ▸ htemp))]

/-- **WHAT WAS SENT GETS ITS NAME.** -/
theorem CacheOk.renamed {temp : AbsPath} {content : Bytes} (h : CacheOk cfg tree base s)
    (ht : t ∈ s.files.rows) (htemp : tempPath (cfg.fileOf t.path) = some temp)
    (hpc : t.pc = .renaming content) : CacheOk cfg tree base (s.renamed cfg t temp content) := by
  have hbegun : t.pc ≠ .fetching := hpc ▸ nofun
  have hgenuine : Genuine cfg tree s.sent (cfg.fileOf t.path) content :=
    .inr ⟨t.path, h.sent t ht content (.inr hpc), rfl⟩
  unfold BootService.renamed
  cases hrename : s.tree.rename temp (cfg.fileOf t.path) with
  | none =>
      exact h.fails ht hbegun (treeStep_same rfl) (fun r hr => files_setPc ht .failed hr) rfl
        (fun _ _ _ hmem => .inl hmem)
  | some made =>
      have hcontent := Tree.content?_rename hrename
      refine h.fails ht hbegun ?_ (fun r hr => .inr (files_endFile (s := s) hr)) rfl ?_
      · intro q hq
        show made.content? q = _ ∨ _
        rw [hcontent q]
        by_cases hfile : q = cfg.fileOf t.path
        · refine .inr ⟨hfile, content, ?_, hfile ▸ hgenuine⟩
          show made.content? q = _
          rw [hcontent q, if_pos hfile]
          exact h.written t ht content hpc temp htemp
        · rw [if_neg hfile, if_neg (fun heq : q = temp => hq (heq ▸ htemp))]
          exact .inl rfl
      · intro id path served hmem
        rcases List.mem_append.mp hmem with hmem | hmem
        · exact .inl hmem
        · cases List.mem_singleton.mp hmem
          exact .inr hgenuine

/-- The handler deletes the temporary file. -/
theorem CacheOk.handled {temp : AbsPath} (h : CacheOk cfg tree base s) (ht : t ∈ s.files.rows)
    (htemp : tempPath (cfg.fileOf t.path) = some temp) (hpc : t.pc ≠ .fetching) :
    CacheOk cfg tree base ((s.unlinkTemp temp).endFile t) := by
  unfold BootService.unlinkTemp
  cases hunlink : s.tree.unlink temp with
  | none =>
      exact h.fails ht hpc (treeStep_same rfl) (fun r hr => .inr (files_endFile hr)) rfl
        (fun _ _ _ hmem => .inl hmem)
  | some left =>
      refine h.fails ht hpc (treeStep_of ?_) (fun r hr => .inr (files_endFile (s := s) hr)) rfl
        (fun _ _ _ hmem => .inl hmem)
      exact fun q hq => Tree.content?_unlink_of_ne hunlink (fun heq : q = temp => hq (heq ▸ htemp))

theorem CacheOk.turn (h : CacheOk cfg tree base s) (ht : t ∈ s.files.rows) (turn : FileTurn)
    (hcalm : ∀ status content, turn = .answered status content →
      ∀ r ∈ s.files.rows, r.pc ≠ .fetching →
        tempPath (cfg.fileOf r.path) ≠ tempPath (cfg.fileOf t.path)) :
    CacheOk cfg tree base (s.fileTurn cfg t turn) := by
  have hends : CacheOk cfg tree base (s.endFile t) :=
    h.ends ht (fun _ => rfl) (fun _ => files_endFile) (fun _ hx => hx) rfl
  have hfails : t.pc ≠ .fetching → CacheOk cfg tree base (s.setPc t .failed) := fun hpc =>
    h.fails ht hpc (treeStep_same rfl) (fun r hr => files_setPc ht .failed hr) rfl
      (fun _ _ _ hmem => .inl hmem)
  unfold BootService.fileTurn
  split
  next status content hpc =>
    by_cases hok : status = 200
    · rw [if_pos hok]
      exact h.cacheFile ht (hcalm status content rfl) content
    · rw [if_neg hok]
      exact hends
  next => exact hends
  next temp content htemp hpc => exact h.wrote ht htemp hpc
  next temp content part htemp hpc =>
    cases part with
    | none => exact hfails (hpc ▸ nofun)
    | some part => exact h.writeTemp ht htemp (hpc ▸ nofun) part
  next temp content htemp hpc => exact h.renamed ht htemp hpc
  next content htemp hpc => exact hfails (hpc ▸ nofun)
  next temp htemp hpc => exact h.handled ht htemp (hpc ▸ nofun)
  next => exact h

/-! ## §6. Runs. -/

/-- Requests for scripts have nothing to do with files. -/
theorem CacheOk.congr (h : CacheOk cfg tree base s) (htree : s'.tree = s.tree)
    (hfiles : s'.files = s.files) (hsent : s'.sent = s.sent) (hserved : s'.served = s.served) :
    CacheOk cfg tree base s' where
  cached := by rw [htree, hsent]; exact h.cached
  served := by rw [hserved, hsent]; exact h.served
  plain := by rw [hfiles]; exact h.plain
  sent := by rw [hfiles, hsent]; exact h.sent
  written := by rw [hfiles, htree]; exact h.written
  apart := by rw [hfiles]; exact h.apart
  kept := by rw [htree]; exact h.kept

theorem CacheOk.askScript (h : CacheOk cfg tree base s) (id : Nat) (mac : List Char)
    (monitor : Bool) : CacheOk cfg tree base (s.askScript cfg id mac monitor) := by
  unfold BootService.askScript
  dsimp only
  split
  next => exact h
  next =>
    split
    next => exact h
    next => exact h.congr rfl rfl rfl rfl

/-- **WHAT A TURN OF A REQUEST FOR A SCRIPT CAN DO.** -/
theorem bootTurn_cases (cfg : BootConfig) (s : BootService) (t : BootTask) (turn : BootTurn) :
    s.bootTurn cfg t turn = s ∨
      s.bootTurn cfg t turn = { s with boots := s.boots.put { t with pc := .generating } } ∨
      ∃ answer, s.bootTurn cfg t turn = s.endBoot t answer ∧
        ∀ script, answer = .central script → ∃ sent, turn = .answered 200 sent := by
  unfold BootService.bootTurn
  cases turn with
  | answered status sent =>
      dsimp only
      split
      next =>
        refine .inr (.inr ⟨_, rfl, fun script hanswer => ?_⟩)
        split at hanswer
        next hstatus => exact ⟨sent, by rw [hstatus]⟩
        next => cases hanswer
      next => exact .inl rfl
  | clientError =>
      dsimp only
      split_ifs
      next => exact .inr (.inl rfl)
      next => exact .inr (.inr ⟨_, rfl, fun _ hanswer => nomatch hanswer⟩)
      next => exact .inl rfl
  | generated =>
      dsimp only
      split
      next => exact .inr (.inr ⟨_, rfl, fun _ hanswer => nomatch hanswer⟩)
      next => exact .inl rfl
  | raises => exact .inr (.inr ⟨_, rfl, fun _ hanswer => nomatch hanswer⟩)

theorem CacheOk.bootTurn (h : CacheOk cfg tree base s) (t : BootTask) (turn : BootTurn) :
    CacheOk cfg tree base (s.bootTurn cfg t turn) := by
  rcases bootTurn_cases cfg s t turn with heq | heq | ⟨answer, heq, -⟩
  · rw [heq]
    exact h
  · rw [heq]
    exact h.congr rfl rfl rfl rfl
  · rw [heq]
    exact h.congr rfl rfl rfl rfl

/-- What is cached is served as it is. -/
theorem CacheOk.askFile (h : CacheOk cfg tree base s) (id : Nat) {path : List Char}
    (hplain : Plain (cfg.fileOf path)) : CacheOk cfg tree base (s.askFile cfg id path) := by
  unfold BootService.askFile
  split
  next => exact h
  cases hcontent : s.tree.content? (cfg.fileOf path) with
  | some content =>
      refine { h with served := ?_ }
      intro id' path' content' hmem
      rcases List.mem_append.mp hmem with hmem | hmem
      · exact h.served id' path' content' hmem
      · cases List.mem_singleton.mp hmem
        exact h.cached _ content hplain hcontent
  | none =>
      dsimp only
      split
      next => exact h
      next files hinsert =>
        obtain ⟨-, hrows⟩ := Table.insert?_eq_some_iff.mp hinsert
        have hfiles : ∀ r ∈ files.rows, r ∈ s.files.rows ∨ r = ⟨id, path, .fetching⟩ := by
          intro r hr
          rw [hrows, List.mem_append, List.mem_singleton] at hr
          exact hr
        constructor
        case cached => exact h.cached
        case served => exact h.served
        case kept => exact h.kept
        case plain =>
          intro r hr
          rcases hfiles r hr with hr | rfl
          · exact h.plain r hr
          · exact hplain
        case sent =>
          intro r hr content hpc
          rcases hfiles r hr with hr | rfl
          · exact h.sent r hr content hpc
          · rcases hpc with hpc | hpc <;> cases hpc
        case written =>
          intro r hr content hpc
          rcases hfiles r hr with hr | rfl
          · exact h.written r hr content hpc
          · cases hpc
        case apart =>
          intro r hr r' hr' hpc hpc'
          rcases hfiles r hr with hr | rfl
          · rcases hfiles r' hr' with hr' | rfl
            · exact h.apart r hr r' hr' hpc hpc'
            · exact absurd rfl hpc'
          · exact absurd rfl hpc

theorem CacheOk.exec (h : CacheOk cfg tree base s) (step : BootStep)
    (hcalm : s.Undisturbed cfg step) : CacheOk cfg tree base (s.exec cfg step) := by
  cases step with
  | bootAsks id mac monitor => exact h.askScript id mac monitor
  | bootTurn id turn =>
      unfold BootService.exec
      dsimp only
      split
      next t _ => exact h.bootTurn t turn
      next => exact h
  | fileAsks id path => exact h.askFile id hcalm
  | fileTurn id turn =>
      unfold BootService.exec
      dsimp only
      split
      next t hget =>
        obtain ⟨ht, hid⟩ := Table.get?_eq_some_iff.mp hget
        refine h.turn ht turn ?_
        rintro status content rfl
        exact hcalm t ht hid
      next => exact h

theorem cacheOk_run (h : CacheOk cfg tree base s) {steps : List BootStep}
    (hcalm : Along (exec cfg) (Undisturbed cfg) s steps) :
    CacheOk cfg tree base (run (exec cfg) s steps) :=
  run_invariant (fun _ step h hcalm => h.exec step hcalm) h hcalm

theorem cacheOk_start (cfg : BootConfig) (tree : Lib.Tree Bytes) :
    CacheOk cfg tree tree (start tree) where
  cached := fun _ _ _ h => .inl h
  served := fun _ _ _ h => absurd h List.not_mem_nil
  plain := fun _ h => absurd h List.not_mem_nil
  sent := fun _ h => absurd h List.not_mem_nil
  written := fun _ h => absurd h List.not_mem_nil
  apart := fun _ h => absurd h List.not_mem_nil
  kept := fun _ _ h => h

/-- **THE CACHE HOLDS WHAT CENTRAL SENT.**  If no two downloads that overlap write to one
file, and nobody asks for a file that has the name of a temporary one, then whatever is
cached or served for such a path was there at the start or was sent by central for a path
with the same cached file; and a file that is cached at any time stays cached. -/
theorem tftp_files_are_centrals (cfg : BootConfig) (tree : Lib.Tree Bytes)
    (steps : List BootStep) (hcalm : Along (exec cfg) (Undisturbed cfg) (start tree) steps) :
    let s := run (exec cfg) (start tree) steps
    (∀ path content, Plain (cfg.fileOf path) →
      s.tree.content? (cfg.fileOf path) = some content →
      Genuine cfg tree s.sent (cfg.fileOf path) content) ∧
    (∀ id path content, (id, path, content) ∈ s.served →
      Genuine cfg tree s.sent (cfg.fileOf path) content) ∧
    (∀ before between after, steps = before ++ between ++ after →
      ∀ path, Plain (cfg.fileOf path) →
        ((run (exec cfg) (start tree) before).tree.content? (cfg.fileOf path)).isSome →
        ((run (exec cfg) (start tree) (before ++ between)).tree.content?
          (cfg.fileOf path)).isSome) := by
  have hok := cacheOk_run (cacheOk_start cfg tree) hcalm
  refine ⟨fun path content => hok.cached _ content, hok.served, ?_⟩
  rintro before between after rfl path hplain hthere
  obtain ⟨hbefore, hbetween⟩ := along_append.mp (along_append.mp hcalm).1
  have hsince := cacheOk_run (cacheOk_run (cacheOk_start cfg tree) hbefore).rebase hbetween
  rw [run_append]
  exact hsince.kept _ hplain hthere

/-- An agent that caches in `/cache`. -/
def agentConfig : BootConfig where
  cacheDir := agentCache
  centralUrl := "http://central:8080".toList
  localServer := "http://agent:8080".toList
  monitored := true
  hasGenerator := true

/-- Its empty cache. -/
def emptyTree : Lib.Tree Bytes := fun p => if Under p agentCache then some .dir else none

/-- Two files are asked for and downloaded, one beside the other. -/
def overlapping (a b : String) : List BootStep :=
  [.fileAsks 1 a.toList, .fileAsks 2 b.toList, .fileTurn 2 (.answered 200 [2]),
   .fileTurn 1 (.answered 200 [1]), .fileTurn 1 .written, .fileTurn 2 .written,
   .fileTurn 1 .renamed, .fileTurn 2 .renamed, .fileAsks 3 a.toList]

theorem tftp_files_are_centrals_two :
    let steps := overlapping "start4.elf" "fixup4.dat"
    let s := run (exec agentConfig) (start emptyTree) steps
    (∀ path content, Plain (agentConfig.fileOf path) →
      s.tree.content? (agentConfig.fileOf path) = some content →
      Genuine agentConfig emptyTree s.sent (agentConfig.fileOf path) content) ∧
    (∀ id path content, (id, path, content) ∈ s.served →
      Genuine agentConfig emptyTree s.sent (agentConfig.fileOf path) content) ∧
    (∀ before between after, steps = before ++ between ++ after →
      ∀ path, Plain (agentConfig.fileOf path) →
        ((run (exec agentConfig) (start emptyTree) before).tree.content?
          (agentConfig.fileOf path)).isSome →
        ((run (exec agentConfig) (start emptyTree) (before ++ between)).tree.content?
          (agentConfig.fileOf path)).isSome) :=
  tftp_files_are_centrals agentConfig emptyTree _ (by decide)

/-- Two files that differ in their suffix alone: the first is cached, and served from then on,
with what central sent for the second. -/
example :
    (run (exec agentConfig) (start emptyTree) (overlapping "start4.elf" "start4.dat")).served
      = [(1, "start4.elf".toList, [1]), (3, "start4.elf".toList, [2])] := by
  decide +kernel

/-! ## §7. The counters. -/

/-- Each request for a script runs or has one answer, and the counter is that of those that
run. -/
structure ScriptsCounted (s : BootService) : Prop where
  once : (s.asked.map Prod.fst).Nodup
  each : (s.asked.map Prod.fst).Perm (s.boots.rows.map BootTask.id ++ s.answers.map Prod.fst)
  active : s.metrics.activeBoots = s.boots.rows.length
  seen : s.metrics.nodesSeen = (s.asked.map Prod.snd).toFinset

/-- Each request for a file is a hit, which is served at once, or a miss, which is served when its
download ends. -/
structure FilesCounted (s : BootService) : Prop where
  once : (s.askedFiles.map FileAsked.id).Nodup
  hits : s.metrics.cacheHits = s.askedFiles.countP FileAsked.hit
  misses : s.metrics.cacheMisses = s.askedFiles.countP (fun f => !f.hit)
  servedOnce : (s.served.map Prod.fst).Nodup
  served : ∀ id path content, (id, path, content) ∈ s.served → ∃ hit, ⟨id, path, hit⟩ ∈ s.askedFiles
  hitServed : ∀ f ∈ s.askedFiles, f.hit → f.id ∈ s.served.map Prod.fst
  running : ∀ t ∈ s.files.rows, ⟨t.id, t.path, false⟩ ∈ s.askedFiles ∧ t.id ∉ s.served.map Prod.fst

/-- The requests for scripts are left alone, and so are their counters. -/
structure SameScripts (s s' : BootService) : Prop where
  asked : s'.asked = s.asked
  boots : s'.boots = s.boots
  answers : s'.answers = s.answers
  active : s'.metrics.activeBoots = s.metrics.activeBoots
  seen : s'.metrics.nodesSeen = s.metrics.nodesSeen

theorem ScriptsCounted.congr (h : ScriptsCounted s) (hsame : SameScripts s s') :
    ScriptsCounted s' where
  once := hsame.asked ▸ h.once
  each := by rw [hsame.asked, hsame.boots, hsame.answers]; exact h.each
  active := by rw [hsame.active, hsame.boots]; exact h.active
  seen := by rw [hsame.seen, hsame.asked]; exact h.seen

/-- A step that leaves the requests for files alone. -/
theorem FilesCounted.congr (h : FilesCounted s) (hasked : s'.askedFiles = s.askedFiles)
    (hserved : s'.served = s.served) (hfiles : s'.files = s.files)
    (hhits : s'.metrics.cacheHits = s.metrics.cacheHits)
    (hmisses : s'.metrics.cacheMisses = s.metrics.cacheMisses) : FilesCounted s' where
  once := hasked ▸ h.once
  hits := by rw [hhits, hasked]; exact h.hits
  misses := by rw [hmisses, hasked]; exact h.misses
  servedOnce := hserved ▸ h.servedOnce
  served := by rw [hserved, hasked]; exact h.served
  hitServed := by rw [hserved, hasked]; exact h.hitServed
  running := by rw [hserved, hasked, hfiles]; exact h.running

/-! ### The requests for scripts. -/

/-- The counter is never 0 when a request ends. -/
theorem ScriptsCounted.endBoot (h : ScriptsCounted s) {t : BootTask} (ht : t ∈ s.boots.rows)
    (answer : BootAnswer) : ScriptsCounted (s.endBoot t answer) := by
  have hrows := Table.rows_perm_delete ht
  refine ⟨h.once, ?_, ?_, h.seen⟩
  · have hids := hrows.map BootTask.id
    show (s.asked.map Prod.fst).Perm
      ((s.boots.delete (fun r => r.id = t.id)).rows.map BootTask.id
        ++ (s.answers ++ [(t.id, answer)]).map Prod.fst)
    rw [List.map_append, ← List.append_assoc]
    refine (h.each.trans (hids.append_right _)).trans ?_
    exact (List.perm_append_singleton t.id _).symm
  · show s.metrics.activeBoots - 1 = _
    rw [h.active, hrows.length_eq]
    rfl

theorem ScriptsCounted.bootTurn (h : ScriptsCounted s) {t : BootTask} (ht : t ∈ s.boots.rows)
    (turn : BootTurn) : ScriptsCounted (s.bootTurn cfg t turn) := by
  rcases bootTurn_cases cfg s t turn with heq | heq | ⟨answer, heq, -⟩
  · rw [heq]
    exact h
  · have hids : (s.boots.put { t with pc := .generating }).rows.map BootTask.id
        = s.boots.rows.map BootTask.id := Table.map_put ht rfl rfl
    have hlength := Table.length_put s.boots { t with pc := .generating }
    rw [heq]
    refine ⟨h.once, ?_, h.active.trans hlength.symm, h.seen⟩
    rw [hids]
    exact h.each
  · rw [heq]
    exact h.endBoot ht answer

theorem ScriptsCounted.askScript (h : ScriptsCounted s) (id : Nat) (mac : List Char)
    (monitor : Bool) : ScriptsCounted (s.askScript cfg id mac monitor) := by
  unfold BootService.askScript
  dsimp only
  split
  next => exact h
  next hfresh =>
    split
    next => exact h
    next boots hinsert =>
      obtain ⟨-, hrows⟩ := Table.insert?_eq_some_iff.mp hinsert
      refine ⟨?_, ?_, ?_, ?_⟩
      · exact Table.nodup_map_append_one h.once hfresh
      · have hone : (s.asked.map Prod.fst ++ [id]).Perm
            (s.boots.rows.map BootTask.id ++ s.answers.map Prod.fst ++ [id]) :=
          h.each.append_right _
        show ((s.asked ++ [(id, mac)]).map Prod.fst).Perm
          (boots.rows.map BootTask.id ++ s.answers.map Prod.fst)
        rw [hrows, List.map_append, List.map_append, List.append_assoc]
        refine hone.trans ?_
        rw [List.append_assoc]
        exact List.perm_append_comm.append_left _
      · show s.metrics.activeBoots + 1 = boots.rows.length
        rw [hrows, List.length_append, h.active]
        rfl
      · show insert mac s.metrics.nodesSeen = ((s.asked ++ [(id, mac)]).map Prod.snd).toFinset
        rw [h.seen, List.map_append, List.toFinset_append, Finset.insert_eq, Finset.union_comm]
        rfl

/-- **WHAT A TURN OF A DOWNLOAD CAN DO** apart from the disk and what is sent. -/
theorem fileTurn_cases (cfg : BootConfig) (s : BootService) (t : FileTask) (turn : FileTurn) :
    ∃ tree sent,
      s.fileTurn cfg t turn = { s with tree, sent } ∨
      (∃ pc, s.fileTurn cfg t turn = BootService.setPc { s with tree, sent } t pc) ∨
      s.fileTurn cfg t turn = BootService.endFile { s with tree, sent } t ∨
      ∃ content, s.fileTurn cfg t turn = BootService.endFile
        { s with tree, sent, served := s.served ++ [(t.id, t.path, content)] } t := by
  unfold BootService.fileTurn
  split
  next status content hpc =>
    split
    next =>
      unfold BootService.cacheFile
      cases s.tree.mkdirs (cfg.fileOf t.path).parent with
      | none => exact ⟨_, _, .inr (.inr (.inl rfl))⟩
      | some made =>
          dsimp only
          cases tempPath (cfg.fileOf t.path) with
          | none => exact ⟨_, _, .inr (.inr (.inl rfl))⟩
          | some temp => exact ⟨_, _, .inr (.inl ⟨_, rfl⟩)⟩
    next => exact ⟨s.tree, s.sent, .inr (.inr (.inl rfl))⟩
  next => exact ⟨s.tree, s.sent, .inr (.inr (.inl rfl))⟩
  next temp content htemp hpc =>
    unfold BootService.wrote
    cases s.tree.write temp content with
    | none => exact ⟨s.tree, s.sent, .inr (.inl ⟨_, rfl⟩)⟩
    | some made => exact ⟨made, s.sent, .inr (.inl ⟨_, rfl⟩)⟩
  next temp content part htemp hpc =>
    cases part with
    | none => exact ⟨s.tree, s.sent, .inr (.inl ⟨_, rfl⟩)⟩
    | some part =>
        unfold BootService.writeTemp
        dsimp only
        cases s.tree.write temp part with
        | none => exact ⟨s.tree, s.sent, .inr (.inl ⟨_, rfl⟩)⟩
        | some made => exact ⟨made, s.sent, .inr (.inl ⟨_, rfl⟩)⟩
  next temp content htemp hpc =>
    unfold BootService.renamed
    cases s.tree.rename temp (cfg.fileOf t.path) with
    | none => exact ⟨s.tree, s.sent, .inr (.inl ⟨_, rfl⟩)⟩
    | some made => exact ⟨made, s.sent, .inr (.inr (.inr ⟨_, rfl⟩))⟩
  next => exact ⟨s.tree, s.sent, .inr (.inl ⟨_, rfl⟩)⟩
  next temp htemp hpc =>
    unfold BootService.unlinkTemp
    cases s.tree.unlink temp with
    | none => exact ⟨s.tree, s.sent, .inr (.inr (.inl rfl))⟩
    | some left => exact ⟨left, s.sent, .inr (.inr (.inl rfl))⟩
  next => exact ⟨s.tree, s.sent, .inl rfl⟩

/-- A download has to do with no script. -/
theorem fileTurn_sameScripts (s : BootService) (t : FileTask) (turn : FileTurn) :
    SameScripts s (s.fileTurn cfg t turn) := by
  obtain ⟨tree, sent, heq | ⟨pc, heq⟩ | heq | ⟨content, heq⟩⟩ := fileTurn_cases cfg s t turn
  · rw [heq]
    exact ⟨rfl, rfl, rfl, rfl, rfl⟩
  · rw [heq]
    exact ⟨rfl, rfl, rfl, rfl, rfl⟩
  · rw [heq]
    exact ⟨rfl, rfl, rfl, rfl, rfl⟩
  · rw [heq]
    exact ⟨rfl, rfl, rfl, rfl, rfl⟩

theorem askFile_sameScripts (s : BootService) (id : Nat) (path : List Char) :
    SameScripts s (s.askFile cfg id path) := by
  unfold BootService.askFile
  split
  next => exact ⟨rfl, rfl, rfl, rfl, rfl⟩
  next =>
    split
    next => exact ⟨rfl, rfl, rfl, rfl, rfl⟩
    next => split <;> exact ⟨rfl, rfl, rfl, rfl, rfl⟩

theorem ScriptsCounted.exec (h : ScriptsCounted s) (step : BootStep) :
    ScriptsCounted (s.exec cfg step) := by
  cases step with
  | bootAsks id mac monitor => exact h.askScript id mac monitor
  | bootTurn id turn =>
      unfold BootService.exec
      dsimp only
      split
      next t hget => exact h.bootTurn (Table.get?_eq_some_iff.mp hget).1 turn
      next => exact h
  | fileAsks id path => exact h.congr (askFile_sameScripts s id path)
  | fileTurn id turn =>
      unfold BootService.exec
      dsimp only
      split
      next t _ => exact h.congr (fileTurn_sameScripts s t turn)
      next => exact h

/-! ### The requests for files. -/

theorem FilesCounted.endFile (h : FilesCounted s) (t : FileTask) : FilesCounted (s.endFile t) :=
  { h with running := fun r hr => h.running r (files_endFile hr).1 }

theorem FilesCounted.setPc (h : FilesCounted s) (ht : t ∈ s.files.rows) (pc : FilePc) :
    FilesCounted (s.setPc t pc) := by
  refine { h with running := ?_ }
  intro r hr
  rcases files_setPc ht pc hr with rfl | ⟨hr, -⟩
  · exact h.running t ht
  · exact h.running r hr

/-- What was sent, and what is on the disk, is not counted. -/
theorem FilesCounted.withTree (h : FilesCounted s) (tree : Lib.Tree Bytes)
    (sent : List (List Char × Bytes)) : FilesCounted { s with tree, sent } :=
  h.congr rfl rfl rfl rfl rfl

/-- A download that ends with its file serves the request that it is for. -/
theorem FilesCounted.serve (h : FilesCounted s) (ht : t ∈ s.files.rows) (content : Bytes) :
    FilesCounted
      (BootService.endFile { s with served := s.served ++ [(t.id, t.path, content)] } t) := by
  obtain ⟨hasked, hfresh⟩ := h.running t ht
  refine ⟨h.once, h.hits, h.misses, ?_, ?_, ?_, ?_⟩
  · exact Table.nodup_map_append_one h.servedOnce hfresh
  · intro id path content' hmem
    rcases List.mem_append.mp hmem with hmem | hmem
    · exact h.served id path content' hmem
    · obtain ⟨rfl, rfl, rfl⟩ : id = t.id ∧ path = t.path ∧ content' = content := by
        simpa using List.mem_singleton.mp hmem
      exact ⟨false, hasked⟩
  · intro f hf hhit
    show f.id ∈ (s.served ++ [(t.id, t.path, content)]).map Prod.fst
    rw [List.map_append]
    exact List.mem_append_left _ (h.hitServed f hf hhit)
  · intro r hr
    obtain ⟨hr, hne⟩ := files_endFile hr
    obtain ⟨hrasked, hrfresh⟩ := h.running r hr
    refine ⟨hrasked, ?_⟩
    show r.id ∉ (s.served ++ [(t.id, t.path, content)]).map Prod.fst
    rw [List.map_append, List.mem_append, not_or]
    exact ⟨hrfresh, fun hmem => hne (List.mem_singleton.mp hmem)⟩

theorem FilesCounted.turn (h : FilesCounted s) (ht : t ∈ s.files.rows) (turn : FileTurn) :
    FilesCounted (s.fileTurn cfg t turn) := by
  obtain ⟨tree, sent, heq | ⟨pc, heq⟩ | heq | ⟨content, heq⟩⟩ := fileTurn_cases cfg s t turn
  · rw [heq]
    exact h.withTree tree sent
  · rw [heq]
    exact (h.withTree tree sent).setPc ht pc
  · rw [heq]
    exact (h.withTree tree sent).endFile t
  · rw [heq]
    exact (h.withTree tree sent).serve ht content

/-- A number that is new was not served. -/
theorem FilesCounted.unserved (h : FilesCounted s) {id : Nat}
    (hfresh : id ∉ s.askedFiles.map FileAsked.id) : id ∉ s.served.map Prod.fst := by
  intro hmem
  obtain ⟨⟨id', path, content⟩, hserved, rfl⟩ := List.mem_map.mp hmem
  obtain ⟨hit, hasked⟩ := h.served id' path content hserved
  exact hfresh (List.mem_map_of_mem hasked)

theorem FilesCounted.hit (h : FilesCounted s) {id : Nat}
    (hfresh : id ∉ s.askedFiles.map FileAsked.id) (path : List Char) (content : Bytes) :
    FilesCounted { s with
      metrics := s.metrics.recordCacheHit
      askedFiles := s.askedFiles ++ [⟨id, path, true⟩]
      served := s.served ++ [(id, path, content)] } := by
  refine ⟨Table.nodup_map_append_one h.once hfresh, ?_, ?_,
    Table.nodup_map_append_one h.servedOnce (h.unserved hfresh), ?_, ?_, ?_⟩
  · show s.metrics.cacheHits + 1 = _
    rw [List.countP_append, h.hits]
    rfl
  · show s.metrics.cacheMisses = _
    rw [List.countP_append, h.misses]
    rfl
  · intro id' path' content' hmem
    rcases List.mem_append.mp hmem with hmem | hmem
    · obtain ⟨hit, hasked⟩ := h.served id' path' content' hmem
      exact ⟨hit, List.mem_append_left _ hasked⟩
    · obtain ⟨rfl, rfl, rfl⟩ : id' = id ∧ path' = path ∧ content' = content := by
        simpa using List.mem_singleton.mp hmem
      exact ⟨true, List.mem_append_right _ List.mem_cons_self⟩
  · intro f hf hhit
    show f.id ∈ (s.served ++ [(id, path, content)]).map Prod.fst
    rw [List.map_append]
    rcases List.mem_append.mp hf with hf | hf
    · exact List.mem_append_left _ (h.hitServed f hf hhit)
    · obtain rfl := List.mem_singleton.mp hf
      exact List.mem_append_right _ List.mem_cons_self
  · intro r hr
    obtain ⟨hrasked, hrfresh⟩ := h.running r hr
    have hne : r.id ≠ id := fun heq => hfresh (heq ▸ List.mem_map_of_mem hrasked)
    refine ⟨List.mem_append_left _ hrasked, ?_⟩
    show r.id ∉ (s.served ++ [(id, path, content)]).map Prod.fst
    rw [List.map_append, List.mem_append, not_or]
    exact ⟨hrfresh, fun hmem => hne (List.mem_singleton.mp hmem)⟩

theorem FilesCounted.miss (h : FilesCounted s) {id : Nat} {path : List Char}
    (hfresh : id ∉ s.askedFiles.map FileAsked.id) {files : Table FileTask.id}
    (hrows : files.rows = s.files.rows ++ [⟨id, path, .fetching⟩]) :
    FilesCounted { s with
      files
      metrics := s.metrics.recordCacheMiss
      askedFiles := s.askedFiles ++ [⟨id, path, false⟩] } := by
  refine ⟨Table.nodup_map_append_one h.once hfresh, ?_, ?_, h.servedOnce, ?_, ?_, ?_⟩
  · show s.metrics.cacheHits = _
    rw [List.countP_append, h.hits]
    rfl
  · show s.metrics.cacheMisses + 1 = _
    rw [List.countP_append, h.misses]
    rfl
  · intro id' path' content' hmem
    obtain ⟨hit, hasked⟩ := h.served id' path' content' hmem
    exact ⟨hit, List.mem_append_left _ hasked⟩
  · intro f hf hhit
    rcases List.mem_append.mp hf with hf | hf
    · exact h.hitServed f hf hhit
    · obtain rfl := List.mem_singleton.mp hf
      exact absurd hhit Bool.false_ne_true
  · intro r hr
    replace hr : r ∈ files.rows := hr
    rw [hrows] at hr
    rcases List.mem_append.mp hr with hr | hr
    · exact (h.running r hr).imp_left (List.mem_append_left _)
    · obtain rfl := List.mem_singleton.mp hr
      exact ⟨List.mem_append_right _ List.mem_cons_self, h.unserved hfresh⟩

theorem FilesCounted.askFile (h : FilesCounted s) (id : Nat) (path : List Char) :
    FilesCounted (s.askFile cfg id path) := by
  unfold BootService.askFile
  split
  next => exact h
  next hfresh =>
    cases s.tree.content? (cfg.fileOf path) with
    | some content => exact h.hit hfresh path content
    | none =>
        dsimp only
        split
        next => exact h
        next files hinsert => exact h.miss hfresh (Table.insert?_eq_some_iff.mp hinsert).2

theorem FilesCounted.askScript (h : FilesCounted s) (id : Nat) (mac : List Char)
    (monitor : Bool) : FilesCounted (s.askScript cfg id mac monitor) := by
  unfold BootService.askScript
  dsimp only
  split
  next => exact h
  next =>
    split
    next => exact h
    next => exact h.congr rfl rfl rfl rfl rfl

theorem FilesCounted.bootTurn (h : FilesCounted s) (t : BootTask) (turn : BootTurn) :
    FilesCounted (s.bootTurn cfg t turn) := by
  rcases bootTurn_cases cfg s t turn with heq | heq | ⟨answer, heq, -⟩
  · rw [heq]
    exact h
  · rw [heq]
    exact h.congr rfl rfl rfl rfl rfl
  · rw [heq]
    exact h.congr rfl rfl rfl rfl rfl

theorem FilesCounted.exec (h : FilesCounted s) (step : BootStep) :
    FilesCounted (s.exec cfg step) := by
  cases step with
  | bootAsks id mac monitor => exact h.askScript id mac monitor
  | bootTurn id turn =>
      unfold BootService.exec
      dsimp only
      split
      next t hget => exact h.bootTurn t turn
      next => exact h
  | fileAsks id path => exact h.askFile id path
  | fileTurn id turn =>
      unfold BootService.exec
      dsimp only
      split
      next t hget => exact h.turn (Table.get?_eq_some_iff.mp hget).1 turn
      next => exact h

/-! ### Runs. -/

/-- What the counters count, request by request. -/
structure CountersExact (s : BootService) : Prop where
  askedOnce : (s.asked.map Prod.fst).Nodup
  answeredOnce : (s.answers.map Prod.fst).Nodup
  answered : ∀ id ∈ s.answers.map Prod.fst, id ∈ s.asked.map Prod.fst
  /-- The boots in progress are the requests without an answer. -/
  active : s.metrics.activeBoots = s.asked.countP (fun request =>
    request.1 ∉ s.answers.map Prod.fst)
  seen : ∀ mac, mac ∈ s.metrics.nodesSeen ↔ ∃ id, (id, mac) ∈ s.asked
  /-- A request for a file is a hit or a miss, never both. -/
  filesOnce : (s.askedFiles.map FileAsked.id).Nodup
  hits : s.metrics.cacheHits = s.askedFiles.countP FileAsked.hit
  misses : s.metrics.cacheMisses = s.askedFiles.countP (fun f => !f.hit)
  /-- No request for a file is served twice. -/
  servedOnce : (s.served.map Prod.fst).Nodup
  served : ∀ id path content, (id, path, content) ∈ s.served →
    ∃ hit, ⟨id, path, hit⟩ ∈ s.askedFiles
  hitServed : ∀ f ∈ s.askedFiles, f.hit → f.id ∈ s.served.map Prod.fst

/-- A request for a script is not answered as long as it runs. -/
theorem ScriptsCounted.active_eq (h : ScriptsCounted s) :
    s.metrics.activeBoots
      = s.asked.countP (fun request => request.1 ∉ s.answers.map Prod.fst) := by
  have hnodup : (s.boots.rows.map BootTask.id ++ s.answers.map Prod.fst).Nodup :=
    h.each.nodup_iff.mp h.once
  have happart := (List.nodup_append.mp hnodup).2.2
  have hrunning : (s.boots.rows.map BootTask.id).countP (· ∉ s.answers.map Prod.fst)
      = (s.boots.rows.map BootTask.id).length :=
    List.countP_eq_length.mpr (fun id hid =>
      decide_eq_true (fun hmem => happart id hid id hmem rfl))
  have hanswered : (s.answers.map Prod.fst).countP (· ∉ s.answers.map Prod.fst) = 0 :=
    List.countP_eq_zero.mpr (fun id hid h => of_decide_eq_true h hid)
  calc s.metrics.activeBoots
      = (s.boots.rows.map BootTask.id ++ s.answers.map Prod.fst).countP
          (· ∉ s.answers.map Prod.fst) := by
        rw [List.countP_append, hrunning, hanswered, List.length_map]
        exact h.active
    _ = (s.asked.map Prod.fst).countP (· ∉ s.answers.map Prod.fst) := (h.each.countP_eq _).symm
    _ = s.asked.countP (fun request => request.1 ∉ s.answers.map Prod.fst) := List.countP_map

theorem countersExact_of (hscripts : ScriptsCounted s) (hfiles : FilesCounted s) :
    CountersExact s where
  askedOnce := hscripts.once
  answeredOnce := (List.nodup_append.mp (hscripts.each.nodup_iff.mp hscripts.once)).2.1
  answered := fun _ hid => hscripts.each.mem_iff.mpr (List.mem_append_right _ hid)
  active := hscripts.active_eq
  seen := by
    intro mac
    rw [hscripts.seen, List.mem_toFinset, List.mem_map]
    exact ⟨fun ⟨⟨id, _⟩, hmem, heq⟩ => ⟨id, heq ▸ hmem⟩, fun ⟨id, hmem⟩ => ⟨_, hmem, rfl⟩⟩
  filesOnce := hfiles.once
  hits := hfiles.hits
  misses := hfiles.misses
  servedOnce := hfiles.servedOnce
  served := hfiles.served
  hitServed := hfiles.hitServed

/-- **THE COUNTERS ARE EXACT**, in every order of steps: the boots in progress are the requests
that have no answer yet, the nodes seen are those that asked, and each request for a file is
one hit or one miss, and is served at most once. -/
theorem boot_counters_exact (cfg : BootConfig) (tree : Lib.Tree Bytes) (steps : List BootStep) :
    CountersExact (run (exec cfg) (start tree) steps) := by
  have hkeep : ∀ (s : BootService) (step : BootStep),
      ScriptsCounted s ∧ FilesCounted s →
        ScriptsCounted (s.exec cfg step) ∧ FilesCounted (s.exec cfg step) :=
    fun _ step h => ⟨h.1.exec step, h.2.exec step⟩
  have hstart : ScriptsCounted (start tree) ∧ FilesCounted (start tree) := by
    refine ⟨⟨List.nodup_nil, .nil, rfl, rfl⟩, List.nodup_nil, rfl, rfl, List.nodup_nil, ?_, ?_, ?_⟩
    · exact fun _ _ _ hmem => absurd hmem List.not_mem_nil
    · exact fun _ hmem => absurd hmem List.not_mem_nil
    · exact fun _ hmem => absurd hmem List.not_mem_nil
  have hcounted := run_invariant' hkeep steps hstart
  exact countersExact_of hcounted.1 hcounted.2

end BootService

end PureBoot.Agent
