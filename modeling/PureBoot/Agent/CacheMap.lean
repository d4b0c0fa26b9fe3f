/-
  PureBoot.Agent.CacheMap — the content cache AS A MAP from keys to contents.

  Beside the cache stands what it should hold: the content of the last `put` of each key
  that no `evict` of it followed.  A run is watched with both.

  The file of a key is not its own: `x` and `/x` have one file, so have `a..b` and
  `ab`, and `x.img` is first written to the file of `x.tmp`.  The cache is a map on every
  set of keys whose files and temporary files are apart.

  Main results:
    * `writeFile_of` — what writing a file does to the tree;
    * `treeOk_effect` — what a call that touches one file leaves as it was;
    * `cache_is_map_run` — the cache is a map, along every run with such keys.
-/
import PureBoot.Agent.ContentCache
import PureBoot.Lib.Run

namespace PureBoot.Agent

open PureBoot.Lib AbsPath

/-! ## §1. The map. -/

inductive CacheCall where
  | get (k : CacheKey) (now : Int)
  | put (k : CacheKey) (content : Bytes) (now : Int) (expiresIn : Option Int)
  | evict (k : CacheKey)

def CacheCall.key : CacheCall → CacheKey
  | get k _ => k
  | put k .. => k
  | evict k => k

/-- What a call returns, and the cache then. -/
def CacheCall.perform (cfg : CacheConfig) (s : ContentCache) :
    CacheCall → CacheAnswer × ContentCache
  | get k now => getCached cfg now s k
  | put k content now expiresIn => putCached cfg now expiresIn s k content
  | evict k => Agent.evict cfg s k

/-- The cache, and what it should hold. -/
structure Watched where
  cache : ContentCache
  held : List (CacheKey × Bytes) := []

/-- What should be held after a call. -/
def CacheCall.heldAfter (held : List (CacheKey × Bytes)) : CacheCall → List (CacheKey × Bytes)
  | get .. => held
  | put k content .. => (k, content) :: held.filter (fun x => x.1 ≠ k)
  | evict k => held.filter (fun x => x.1 ≠ k)

def Watched.exec (cfg : CacheConfig) (w : Watched) (call : CacheCall) : Watched where
  cache := (call.perform cfg w.cache).2
  held := call.heldAfter w.held

/-- What a reader finds at the path that `get` returns: nothing is returned, or a file is
read; a directory is neither. -/
def readBack (s : ContentCache) : CacheAnswer → Option (Option Bytes)
  | .found none => some none
  | .found (some p) =>
      match s.tree p with
      | some (.file content) => some (some content)
      | _ => none
  | _ => none

/-- What a reader of a key finds. -/
def reading (cfg : CacheConfig) (now : Int) (w : Watched) (k : CacheKey) :
    Option (Option Bytes) :=
  readBack (getCached cfg now w.cache k).2 (getCached cfg now w.cache k).1

/-- The entry of the key has not expired. -/
def NotExpired (w : Watched) (k : CacheKey) (now : Int) : Prop :=
  ∀ e ∈ w.cache.metadata.rows, e.key = k.text → e.isExpired now = false

/-- **THE CACHE IS A MAP** on the keys `K`: for each of them a reader finds what is held, and
each entry of the metadata has the size of its file. -/
structure IsMap (cfg : CacheConfig) (K : List CacheKey) (w : Watched) : Prop where
  reads : ∀ k ∈ K, ∀ now, NotExpired w k now → reading cfg now w k = some (w.held.lookup k)
  sizes : ∀ e ∈ w.cache.metadata.rows, ∃ content,
    w.cache.tree (cfg.filePath e.cacheKey) = some (.file content) ∧ content.length = e.sizeBytes

/-- No expiry and no size pressure. -/
def Undisturbed (cfg : CacheConfig) (w : Watched) : CacheCall → Prop
  | .get k now => NotExpired w k now
  | .put _ content _ _ => getTotalSize w.cache.metadata + content.length ≤ cfg.maxSizeBytes
  | .evict _ => True

instance (w : Watched) (k : CacheKey) (now : Int) : Decidable (NotExpired w k now) :=
  inferInstanceAs
    (Decidable (∀ e ∈ w.cache.metadata.rows, e.key = k.text → e.isExpired now = false))

instance (cfg : CacheConfig) (w : Watched) : ∀ call, Decidable (Undisturbed cfg w call)
  | .get k now => inferInstanceAs (Decidable (NotExpired w k now))
  | .put _ content _ _ =>
      inferInstanceAs (Decidable
        (getTotalSize w.cache.metadata + content.length ≤ cfg.maxSizeBytes))
  | .evict _ => .isTrue trivial

/-! ## §2. Keys that are apart. -/

/-- Neither the file nor the temporary file of the one key is the file of the other, or a
directory above it. -/
def apart (cfg : CacheConfig) (k k' : CacheKey) : Bool :=
  !decide (Under (cfg.filePath k) (cfg.filePath k'))
    && (tempPath (cfg.filePath k)).all (fun temp => !decide (Under temp (cfg.filePath k')))

/-- The category never leads up, so that no directory is made on the way that is left again. -/
def CacheKey.leadsDown (k : CacheKey) : Bool :=
  (k.category.splitOn '/').all (fun name => name ≠ ['.', '.'])

/-- Nothing is where the file of the key goes, and it can be written there: the category leads
down, no file stands above it, its temporary file is no directory, and the metadata is
elsewhere. -/
def canHold (cfg : CacheConfig) (t : Lib.Tree Bytes) (k : CacheKey) : Bool :=
  k.leadsDown && (t (cfg.filePath k)).isNone && !t.blockedAt (cfg.filePath k).parent
    && (tempPath (cfg.filePath k)).any (fun temp => !t.isDirAt temp)
    && !decide (Under cfg.metaPath (cfg.filePath k))

/-- Each key can be held by the cache as it is now, and all are apart. -/
structure Separated (cfg : CacheConfig) (t : Lib.Tree Bytes) (K : List CacheKey) : Prop where
  canHold : ∀ k ∈ K, canHold cfg t k = true
  apart : ∀ k ∈ K, ∀ k' ∈ K, k ≠ k' → apart cfg k k' = true

/-- A cache that has been initialized and holds nothing. -/
structure Initialized (cfg : CacheConfig) (s : ContentCache) : Prop where
  noEntries : s.metadata.rows = []
  cacheDir : s.tree cfg.cacheDir = some .dir
  metaPath : s.tree cfg.metaPath ≠ some .dir

/-! ## §3. Writing a file. -/

/-- The temporary file has a name. -/
theorem isName_stem {name : List Char} (h : isName name = true) :
    isName (stem name ++ ".tmp".toList) = true := by
  have hslash : '/' ∉ stem name := by
    have hname : '/' ∉ name := (isName_iff.mp h).2.1
    unfold stem
    dsimp only
    split
    next => exact fun hmem => hname (List.mem_of_mem_take hmem)
    next => exact hname
  have hlength : 4 ≤ (stem name ++ ".tmp".toList).length := by
    rw [List.length_append]
    exact Nat.le_add_left 4 _
  rw [isName_iff]
  refine ⟨?_, ?_, ?_, ?_⟩
  · intro heq
    rw [heq] at hlength
    simp at hlength
  · rw [List.mem_append, not_or]
    exact ⟨hslash, by decide⟩
  · intro heq
    rw [heq] at hlength
    simp at hlength
  · intro heq
    rw [heq] at hlength
    simp at hlength

/-- The temporary file is beside the file. -/
theorem parent_tempPath {file temp : AbsPath} (h : tempPath file = some temp) :
    temp.parent = file.parent ∧ temp.parts.length = file.parent.parts.length + 1 := by
  unfold tempPath withSuffix at h
  obtain ⟨name, hname, rfl⟩ := Option.map_eq_some_iff.mp h
  have hvalid := isName_stem (file.valid name (List.mem_of_getLast? hname))
  refine ⟨parent_enter hvalid, ?_⟩
  rw [parts_enter_name hvalid, List.length_append]
  rfl

theorem not_under_parent {file q : AbsPath} (h : file.parent.parts.length < q.parts.length) :
    ¬ Under q file.parent := by
  intro hunder
  have := hunder.length_le
  omega

theorem parent_lt {file temp : AbsPath} (h : tempPath file = some temp) :
    file.parent.parts.length < file.parts.length := by
  have hnames : file.parts ≠ [] := by
    intro hnil
    unfold tempPath withSuffix at h
    rw [hnil] at h
    cases h
  show file.parts.dropLast.length < _
  rw [List.length_dropLast]
  have := List.length_pos_iff.mpr hnames
  omega

/-- **WRITING A FILE** succeeds if no file is in the way, and no directory where the file or
the temporary file goes.  Afterwards there are directories above the file, and the temporary
file is gone. -/
theorem writeFile_of {t : Lib.Tree Bytes} {file temp : AbsPath} {content : Bytes}
    (htemp : tempPath file = some temp) (hway : t.blockedAt file.parent = false)
    (hfile : t file ≠ some .dir) (hdir : t temp ≠ some .dir) :
    writeFile t file content = (some file,
      Function.update (Function.update (t.withDirs file.parent) temp none) file
        (some (.file content))) := by
  obtain ⟨hparent, hlength⟩ := parent_tempPath htemp
  have hfilelength := parent_lt htemp
  have hopen := Tree.blockedAt_eq_false.mp hway
  -- the directories come first; the two files are beside them, so `mkdir` left both alone
  have hmade : t.withDirs file.parent file.parent = some .dir :=
    Tree.withDirs_under (List.prefix_refl _) (hopen _ (List.prefix_refl _))
  have htemp' : t.withDirs file.parent temp = t temp :=
    Tree.withDirs_of_not_under (not_under_parent (by omega))
  have hfile' : t.withDirs file.parent file = t file :=
    Tree.withDirs_of_not_under (not_under_parent hfilelength)
  have hne : file.parent ≠ temp := by
    intro heq
    rw [heq] at hlength
    omega
  have hwrite : (t.withDirs file.parent).write temp content
      = some (Function.update (t.withDirs file.parent) temp (some (.file content))) :=
    Tree.write_of (by rw [hparent]; exact hmade) (by rw [htemp']; exact hdir)
  have hrename := Tree.rename_of (t := Function.update (t.withDirs file.parent) temp
    (some (.file content))) (p := file) (q := temp)
    (Function.update_self ..) (by rw [Function.update_of_ne hne]; exact hmade) ?_
  · unfold writeFile
    rw [Tree.mkdirs_of hopen]
    dsimp only
    rw [htemp]
    dsimp only
    rw [hwrite]
    dsimp only
    rw [hrename, Function.update_idem]
  -- a key may be its own temporary path: then the file is the one just written
  · by_cases heq : file = temp
    · rw [heq, Function.update_self]
      simp
    · rw [Function.update_of_ne heq, hfile']
      exact hfile

/-! ## §4. One call. -/

theorem lookup_without_self (k : CacheKey) (held : List (CacheKey × Bytes)) :
    (held.filter (fun x => x.1 ≠ k)).lookup k = none := by
  rw [List.lookup_eq_none_iff]
  intro x hx
  have hne := (List.mem_filter.mp hx).2
  rw [decide_eq_true_eq] at hne
  rw [bne_iff_ne]
  exact Ne.symm hne

theorem lookup_without_of_ne {k k' : CacheKey} (hne : k' ≠ k) (held : List (CacheKey × Bytes)) :
    (held.filter (fun x => x.1 ≠ k)).lookup k' = held.lookup k' := by
  induction held with
  | nil => rfl
  | cons x held ih =>
      obtain ⟨k₀, content⟩ := x
      by_cases h : k₀ = k
      · rw [List.filter_cons_of_neg (by simpa using h), ih, List.lookup_cons, h,
          beq_false_of_ne hne]
      · rw [List.filter_cons_of_pos (by simpa using h), List.lookup_cons, List.lookup_cons, ih]

section Step

variable {cfg : CacheConfig} {K : List CacheKey}

/-- The tree holds what it should, and each key can be written. -/
structure TreeOk (cfg : CacheConfig) (K : List CacheKey) (t : Lib.Tree Bytes)
    (held : List (CacheKey × Bytes)) : Prop where
  files : ∀ k ∈ K, t (cfg.filePath k) = (held.lookup k).map .file
  temps : ∀ k ∈ K, ∀ temp ∈ tempPath (cfg.filePath k), t temp ≠ some .dir
  ways : ∀ k ∈ K, ∀ q, Under q (cfg.filePath k).parent → t.isFileAt q = false
  cacheDir : t cfg.cacheDir = some .dir
  metaPath : t cfg.metaPath ≠ some .dir

/-- What a call with the key `k` may do to the tree: its file gets the content `new`, or goes,
the metadata is written, the temporary file goes, and directories are made. -/
structure TreeEffect (cfg : CacheConfig) (k : CacheKey) (t t' : Lib.Tree Bytes)
    (new : Option Bytes) : Prop where
  file : t' (cfg.filePath k) = new.map .file
  elsewhere : ∀ q, q ≠ cfg.filePath k → t' q = t q ∨
    (q = cfg.metaPath ∧ ∃ content, t' q = some (.file content)) ∨
    (q ∈ tempPath (cfg.filePath k) ∧ t' q = none) ∨
    (Under q (cfg.filePath k).parent ∧ t q = none ∧ t' q = some .dir)

/-- What separation means for the files. -/
structure FilesApart (cfg : CacheConfig) (K : List CacheKey) : Prop where
  file : ∀ k ∈ K, ∀ k' ∈ K, k ≠ k' → ¬ Under (cfg.filePath k) (cfg.filePath k')
  temp : ∀ k ∈ K, ∀ k' ∈ K, k ≠ k' → ∀ temp ∈ tempPath (cfg.filePath k),
    ¬ Under temp (cfg.filePath k')
  hasTemp : ∀ k ∈ K, ∃ temp, tempPath (cfg.filePath k) = some temp
  noMeta : ∀ k ∈ K, ¬ Under cfg.metaPath (cfg.filePath k)

theorem Separated.filesApart {t : Lib.Tree Bytes} (h : Separated cfg t K) : FilesApart cfg K := by
  refine ⟨?_, ?_, ?_, ?_⟩
  · intro k hk k' hk' hne
    have hapart := h.apart k hk k' hk' hne
    simp only [Agent.apart, Bool.and_eq_true, Bool.not_eq_true', decide_eq_false_iff_not] at hapart
    exact hapart.1
  · intro k hk k' hk' hne temp htemp
    have hapart := h.apart k hk k' hk' hne
    rw [Option.mem_def] at htemp
    simp only [Agent.apart, htemp, Option.all_some, Bool.and_eq_true, Bool.not_eq_true',
      decide_eq_false_iff_not] at hapart
    exact hapart.2
  · intro k hk
    have hold := h.canHold k hk
    simp only [Agent.canHold, Bool.and_eq_true, Option.any_eq_true] at hold
    obtain ⟨temp, htemp, -⟩ := hold.1.2
    exact ⟨temp, htemp⟩
  · intro k hk
    have hold := h.canHold k hk
    simp only [Agent.canHold, Bool.and_eq_true, Bool.not_eq_true', decide_eq_false_iff_not] at hold
    exact hold.2

/-- A path above the directory of a file is above the file. -/
theorem under_of_under_parent {p q : AbsPath} (h : Under q p.parent) : Under q p :=
  h.trans (List.dropLast_prefix p.parts)

/-- No temporary file is made a directory. -/
theorem temp_not_under (hap : FilesApart cfg K) {k k' : CacheKey} (hk : k ∈ K) (hk' : k' ∈ K)
    {temp : AbsPath} (htemp : temp ∈ tempPath (cfg.filePath k')) :
    ¬ Under temp (cfg.filePath k).parent := by
  by_cases heq : k' = k
  · subst heq
    obtain ⟨-, hlength⟩ := parent_tempPath htemp
    exact not_under_parent (by omega)
  · exact fun hunder =>
      hap.temp k' hk' k hk heq temp htemp (under_of_under_parent hunder)

/-- **A CALL LEAVES THE OTHER KEYS ALONE.** -/
theorem treeOk_effect (hap : FilesApart cfg K) {k : CacheKey} (hk : k ∈ K) {t t' : Lib.Tree Bytes}
    {held held' : List (CacheKey × Bytes)} (hok : TreeOk cfg K t held)
    (heffect : TreeEffect cfg k t t' (held'.lookup k))
    (hheld : ∀ k', k' ≠ k → held'.lookup k' = held.lookup k') : TreeOk cfg K t' held' := by
  refine ⟨?_, ?_, ?_, ?_, ?_⟩
  -- the file of another key is apart from all that the call writes
  · intro k' hk'
    by_cases heq : k' = k
    · rw [heq]
      exact heffect.file
    · rw [hheld k' heq, ← hok.files k' hk']
      have hne : cfg.filePath k' ≠ cfg.filePath k := by
        intro hsame
        exact hap.file k' hk' k hk heq (hsame ▸ List.prefix_refl _)
      rcases heffect.elsewhere _ hne with hsame | ⟨hmeta, -⟩ | ⟨htemp, -⟩ | ⟨hunder, -, -⟩
      · exact hsame
      · exact absurd (hmeta ▸ List.prefix_refl _) (hap.noMeta k' hk')
      · exact absurd (List.prefix_refl _) (hap.temp k hk k' hk' (Ne.symm heq) _ htemp)
      · exact absurd (under_of_under_parent hunder) (hap.file k' hk' k hk heq)
  -- a temporary file may come to be that file or be renamed away, but is no directory
  · intro k' hk' temp htemp
    by_cases hfile : temp = cfg.filePath k
    · rw [hfile, heffect.file]
      cases held'.lookup k <;> simp
    · rcases heffect.elsewhere _ hfile with
        hsame | ⟨-, content, hmeta⟩ | ⟨-, hgone⟩ | ⟨hunder, -, -⟩
      · rw [hsame]
        exact hok.temps k' hk' temp htemp
      · rw [hmeta]
        simp
      · rw [hgone]
        simp
      · exact absurd hunder (temp_not_under hap hk hk' htemp)
  -- no file stands in the way to another one
  · intro k' hk' q hq
    by_cases hfile : q = cfg.filePath k
    · by_cases heq : k' = k
      · rw [heq, hfile] at hq
        obtain ⟨temp, htemp⟩ := hap.hasTemp k hk
        exact absurd hq (not_under_parent (parent_lt htemp))
      · rw [hfile] at hq
        exact absurd (under_of_under_parent hq) (hap.file k hk k' hk' (Ne.symm heq))
    · rcases heffect.elsewhere _ hfile with hsame | ⟨hmeta, -⟩ | ⟨-, hgone⟩ | ⟨-, -, hmade⟩
      · unfold Tree.isFileAt
        rw [hsame]
        exact hok.ways k' hk' q hq
      · rw [hmeta] at hq
        exact absurd (under_of_under_parent hq) (hap.noMeta k' hk')
      · unfold Tree.isFileAt
        rw [hgone]
      · unfold Tree.isFileAt
        rw [hmade]
  -- the directory of the cache and the metadata file are none of the files
  · have hfile : cfg.cacheDir ≠ cfg.filePath k := by
      intro heq
      have hdir := hok.cacheDir
      rw [heq, hok.files k hk] at hdir
      cases hlookup : held.lookup k <;> simp [hlookup] at hdir
    rcases heffect.elsewhere _ hfile with hsame | ⟨hmeta, -⟩ | ⟨htemp, -⟩ | ⟨-, hnone, -⟩
    · rw [hsame]
      exact hok.cacheDir
    · exact absurd hok.cacheDir (hmeta ▸ hok.metaPath)
    · exact absurd hok.cacheDir (hok.temps k hk _ htemp)
    · rw [hok.cacheDir] at hnone
      cases hnone
  · have hfile : cfg.metaPath ≠ cfg.filePath k := by
      intro heq
      exact hap.noMeta k hk (heq ▸ List.prefix_refl _)
    rcases heffect.elsewhere _ hfile with hsame | ⟨-, content, hmeta⟩ | ⟨-, hgone⟩ | ⟨hunder, -, -⟩
    · rw [hsame]
      exact hok.metaPath
    · rw [hmeta]
      simp
    · rw [hgone]
      simp
    · exact absurd (under_of_under_parent hunder) (hap.noMeta k hk)

theorem parent_metaPath (cfg : CacheConfig) : cfg.metaPath.parent = cfg.cacheDir :=
  parent_enter (by decide)

/-- The metadata can be written. -/
theorem saveMetadata_of {t : Lib.Tree Bytes} {m : Metadata} {answer : CacheAnswer}
    (hdir : t cfg.cacheDir = some .dir) (hmeta : t cfg.metaPath ≠ some .dir) :
    saveMetadata cfg ⟨t, m⟩ answer = (answer,
      ⟨Function.update t cfg.metaPath (some (.file (cfg.dumps m))), m⟩) := by
  unfold saveMetadata
  rw [Tree.write_of (by rw [parent_metaPath]; exact hdir) hmeta]

/-- Writing the metadata adds nothing to what a call may do. -/
theorem TreeEffect.save {k : CacheKey} {t t' : Lib.Tree Bytes} {new : Option Bytes}
    (h : TreeEffect cfg k t t' new) (hne : cfg.filePath k ≠ cfg.metaPath) (content : Bytes) :
    TreeEffect cfg k t (Function.update t' cfg.metaPath (some (.file content))) new := by
  refine ⟨?_, ?_⟩
  · rw [Function.update_of_ne hne]
    exact h.file
  · intro q hq
    by_cases hmeta : q = cfg.metaPath
    · right; left
      exact ⟨hmeta, content, by rw [hmeta, Function.update_self]⟩
    · rw [Function.update_of_ne hmeta]
      exact h.elsewhere q hq

theorem not_meta (hap : FilesApart cfg K) {k : CacheKey} (hk : k ∈ K) :
    cfg.filePath k ≠ cfg.metaPath := by
  intro heq
  exact hap.noMeta k hk (heq ▸ List.prefix_refl _)

variable {held : List (CacheKey × Bytes)} {s : ContentCache} {k : CacheKey}

/-- **`put` STORES THE CONTENT.** -/
theorem putCached_of (hap : FilesApart cfg K) (hk : k ∈ K) (hok : TreeOk cfg K s.tree held)
    {content : Bytes} {now : Int} {expiresIn : Option Int} (hpolicy : shouldCache cfg k = true)
    (hspace : getTotalSize s.metadata + content.length ≤ cfg.maxSizeBytes) :
    ∃ t', putCached cfg now expiresIn s k content = (.stored (cfg.filePath k),
        { tree := t', metadata := setEntry s.metadata (newEntry cfg now expiresIn k content) }) ∧
      TreeEffect cfg k s.tree t' (some content) := by
  obtain ⟨temp, htemp⟩ := hap.hasTemp k hk
  have hnot : mustEvict cfg s.metadata content.length = false := by
    unfold mustEvict
    rw [decide_eq_false (Nat.not_lt.mpr hspace), Bool.false_and]
  have hfile : s.tree (cfg.filePath k) ≠ some .dir := by
    rw [hok.files k hk]
    cases held.lookup k <;> simp
  have hwrite : writeFile s.tree (cfg.filePath k) content = _ :=
    writeFile_of htemp (Tree.blockedAt_eq_false.mpr (hok.ways k hk)) hfile
      (hok.temps k hk temp htemp)
  -- what changed: the file, its temporary file, and the directories that were missing
  have heffect : TreeEffect cfg k s.tree
      (Function.update (Function.update (s.tree.withDirs (cfg.filePath k).parent) temp none)
        (cfg.filePath k) (some (.file content))) (some content) := by
    refine ⟨Function.update_self .., ?_⟩
    intro q hq
    rw [Function.update_of_ne hq]
    by_cases hqtemp : q = temp
    · right; right; left
      rw [hqtemp, Function.update_self]
      exact ⟨htemp, rfl⟩
    · rw [Function.update_of_ne hqtemp]
      by_cases hmade : Under q (cfg.filePath k).parent ∧ s.tree q = none
      · right; right; right
        exact ⟨hmade.1, hmade.2, if_pos hmade⟩
      · left
        exact if_neg hmade
  -- the metadata is written to the tree that the file left behind
  have hok' : TreeOk cfg K _ ((k, content) :: held) :=
    treeOk_effect hap hk hok (by rw [List.lookup_cons_self]; exact heffect)
      (fun k' hne => by rw [List.lookup_cons, beq_false_of_ne hne])
  refine ⟨_, ?_, heffect.save (not_meta hap hk)
    (cfg.dumps (setEntry s.metadata (newEntry cfg now expiresIn k content)))⟩
  unfold putCached
  rw [hpolicy, hnot]
  simp only [Bool.not_true, Bool.false_eq_true, if_false]
  rw [hwrite]
  dsimp only
  rw [saveMetadata_of hok'.cacheDir hok'.metaPath]

/-- The tree is as it was, or the metadata was written. -/
theorem forgetEntry_of {deleted : Bool} (hdir : s.tree cfg.cacheDir = some .dir)
    (hmeta : s.tree cfg.metaPath ≠ some .dir) :
    ∃ s', forgetEntry cfg s k deleted = (.evicted deleted, s') ∧
      (∀ e ∈ s'.metadata.rows, e ∈ s.metadata.rows ∧ e.key ≠ k.text) ∧
      (s'.tree = s.tree ∨
        ∃ content, s'.tree = Function.update s.tree cfg.metaPath (some (.file content))) := by
  unfold forgetEntry
  cases hentry : s.metadata.get? k.text with
  | some entry =>
      rw [Option.isSome_some, if_pos rfl, saveMetadata_of hdir hmeta]
      refine ⟨_, rfl, ?_, .inr ⟨_, rfl⟩⟩
      intro e he
      simpa using Table.mem_delete.mp he
  | none =>
      rw [Option.isSome_none, if_neg Bool.false_ne_true]
      refine ⟨s, rfl, ?_, .inl rfl⟩
      intro e he
      refine ⟨he, fun hkey => ?_⟩
      rw [Table.get?_eq_some_iff.mpr ⟨he, hkey⟩] at hentry
      cases hentry

/-- **`evict` REMOVES THE FILE.** -/
theorem evict_of (hap : FilesApart cfg K) (hk : k ∈ K) (hok : TreeOk cfg K s.tree held) :
    ∃ s', evict cfg s k = (.evicted (held.lookup k).isSome, s') ∧
      TreeEffect cfg k s.tree s'.tree none ∧
      ∀ e ∈ s'.metadata.rows, e ∈ s.metadata.rows ∧ e.key ≠ k.text := by
  have hfile := hok.files k hk
  -- whatever the metadata comes to, the file is gone before
  have hforget : ∀ t deleted, TreeEffect cfg k s.tree t none → t cfg.cacheDir = some .dir →
      t cfg.metaPath ≠ some .dir →
      ∃ s', forgetEntry cfg { s with tree := t } k deleted = (.evicted deleted, s') ∧
        TreeEffect cfg k s.tree s'.tree none ∧
        ∀ e ∈ s'.metadata.rows, e ∈ s.metadata.rows ∧ e.key ≠ k.text := by
    intro t deleted heffect hdir hmeta
    obtain ⟨s', hs', hrows, htree⟩ := forgetEntry_of (s := { s with tree := t }) hdir hmeta
    refine ⟨s', hs', ?_, hrows⟩
    rcases htree with htree | ⟨content, htree⟩
    · rw [htree]
      exact heffect
    · rw [htree]
      exact heffect.save (not_meta hap hk) content
  unfold evict
  dsimp only
  cases hlookup : held.lookup k with
  | none =>
      rw [hlookup] at hfile
      rw [hfile]
      exact hforget s.tree false ⟨hfile, fun q _ => .inl rfl⟩ hok.cacheDir hok.metaPath
  | some content =>
      rw [hlookup] at hfile
      have heffect : TreeEffect cfg k s.tree (Function.update s.tree (cfg.filePath k) none) none :=
        ⟨Function.update_self .., fun q hq => .inl (Function.update_of_ne hq ..)⟩
      have hok' : TreeOk cfg K _ (held.filter (fun x => x.1 ≠ k)) :=
        treeOk_effect hap hk hok (by rw [lookup_without_self]; exact heffect)
          (fun k' hne => lookup_without_of_ne hne held)
      rw [hfile, Option.map_some, Option.isSome_some, if_pos rfl, Tree.unlink_of hfile]
      exact hforget _ true heffect hok'.cacheDir hok'.metaPath

/-- **`get` FINDS WHAT IS HELD.** -/
theorem getCached_of (hap : FilesApart cfg K) (hk : k ∈ K) (hok : TreeOk cfg K s.tree held)
    {now : Int} (hlive : ∀ e ∈ s.metadata.rows, e.key = k.text → e.isExpired now = false) :
    ∃ s', getCached cfg now s k = (.found ((held.lookup k).map (fun _ => cfg.filePath k)), s') ∧
      TreeEffect cfg k s.tree s'.tree (held.lookup k) ∧
      ∀ e' ∈ s'.metadata.rows, ∃ e ∈ s.metadata.rows, e'.cacheKey = e.cacheKey ∧
        e'.sizeBytes = e.sizeBytes := by
  have hfile := hok.files k hk
  have hsame : TreeEffect cfg k s.tree s.tree (held.lookup k) := ⟨hfile, fun q _ => .inl rfl⟩
  unfold getCached
  dsimp only
  cases hlookup : held.lookup k with
  -- no file: the entry goes, and the tree stays
  | none =>
      rw [hlookup] at hfile hsame
      rw [hfile]
      exact ⟨_, rfl, hsame, fun e he => ⟨e, (Table.mem_delete.mp he).1, rfl, rfl⟩⟩
  | some content =>
      rw [hlookup] at hfile hsame
      rw [hfile, Option.map_some, Option.isNone_some, if_neg Bool.false_ne_true]
      cases hentry : s.metadata.get? k.text with
      | none => exact ⟨s, rfl, hsame, fun e he => ⟨e, he, rfl, rfl⟩⟩
      | some entry =>
          obtain ⟨hmem, hkey⟩ := Table.get?_eq_some_iff.mp hentry
          dsimp only
          rw [hlive entry hmem hkey, if_neg Bool.false_ne_true,
            saveMetadata_of hok.cacheDir hok.metaPath]
          refine ⟨_, rfl, hsame.save (not_meta hap hk) _, ?_⟩
          -- only the time of the access was written
          intro e' he'
          have hcases := (Table.mem_put_iff (r := { entry with lastAccessed := now })
            ⟨entry, hmem, rfl⟩).mp he'
          rcases hcases with rfl | ⟨he', -⟩
          · exact ⟨entry, hmem, rfl, rfl⟩
          · exact ⟨e', he', rfl, rfl⟩

theorem mem_setEntry {m : Metadata} {e x : CacheEntry} :
    x ∈ (setEntry m e).rows ↔ x = e ∨ (x ∈ m.rows ∧ x.key ≠ e.key) := by
  unfold setEntry
  cases hinsert : m.insert? e with
  | some m' =>
      obtain ⟨hfresh, hrows⟩ := Table.insert?_eq_some_iff.mp hinsert
      rw [hrows, List.mem_append, List.mem_singleton]
      constructor
      · rintro (hx | rfl)
        · exact .inr ⟨hx, hfresh x hx⟩
        · exact .inl rfl
      · rintro (rfl | ⟨hx, -⟩)
        · exact .inr rfl
        · exact .inl hx
  | none =>
      refine Table.mem_put_iff ?_
      by_contra hnone
      push Not at hnone
      unfold Table.insert? at hinsert
      split at hinsert
      next hmem =>
        obtain ⟨y, hy, hkey⟩ := List.mem_map.mp hmem
        exact hnone y hy hkey
      next => cases hinsert

/-! ## §5. Runs. -/

/-- What a run keeps: the tree holds what it should, and the metadata is that of it. -/
structure MapInv (cfg : CacheConfig) (K : List CacheKey) (w : Watched) : Prop where
  tree : TreeOk cfg K w.cache.tree w.held
  entries : ∀ e ∈ w.cache.metadata.rows, e.cacheKey ∈ K ∧
    ∃ content, w.held.lookup e.cacheKey = some content ∧ content.length = e.sizeBytes

/-- The invariant makes the cache a map. -/
theorem MapInv.isMap (hap : FilesApart cfg K) {w : Watched} (h : MapInv cfg K w) :
    IsMap cfg K w := by
  constructor
  · intro k hk now hlive
    obtain ⟨s', hget, heffect, -⟩ := getCached_of hap hk h.tree hlive
    unfold reading
    rw [hget]
    cases hlookup : w.held.lookup k with
    | none => rfl
    | some content =>
        have hfile := heffect.file
        rw [hlookup] at hfile
        show readBack s' (.found (some (cfg.filePath k))) = some (some content)
        unfold readBack
        dsimp only
        rw [hfile]
        rfl
  · intro e he
    obtain ⟨hk, content, hheld, hsize⟩ := h.entries e he
    refine ⟨content, ?_, hsize⟩
    rw [h.tree.files _ hk, hheld]
    rfl

/-- What is held under another key stays. -/
theorem lookup_heldAfter_of_ne {call : CacheCall} {k : CacheKey} (hne : k ≠ call.key)
    (held : List (CacheKey × Bytes)) : (call.heldAfter held).lookup k = held.lookup k := by
  cases call with
  | get k₀ now => rfl
  | put k₀ content now expiresIn =>
      have hne : k ≠ k₀ := hne
      show ((k₀, content) :: held.filter (fun x => x.1 ≠ k₀)).lookup k = held.lookup k
      rw [List.lookup_cons, beq_false_of_ne hne]
      exact lookup_without_of_ne hne held
  | evict k₀ => exact lookup_without_of_ne hne held

/-- **ONE CALL KEEPS THE INVARIANT.** -/
theorem mapInv_exec (hap : FilesApart cfg K) (hpolicy : ∀ k, shouldCache cfg k = true)
    {w : Watched} {call : CacheCall} (hk : call.key ∈ K) (h : MapInv cfg K w)
    (hquiet : Undisturbed cfg w call) : MapInv cfg K (w.exec cfg call) := by
  have hothers : ∀ k', k' ≠ call.key → (call.heldAfter w.held).lookup k' = w.held.lookup k' :=
    fun k' hne => lookup_heldAfter_of_ne hne w.held
  -- an entry of another key has what it had
  have hkept : ∀ e ∈ w.cache.metadata.rows, e.cacheKey ≠ call.key → e.cacheKey ∈ K ∧
      ∃ content, (call.heldAfter w.held).lookup e.cacheKey = some content ∧
        content.length = e.sizeBytes := by
    intro e he hne
    rw [hothers _ hne]
    exact h.entries e he
  cases call with
  | get k now =>
      obtain ⟨s', hget, heffect, hrows⟩ := getCached_of hap hk h.tree hquiet
      have hexec : (w.exec cfg (.get k now)).cache = s' := congrArg Prod.snd hget
      refine ⟨?_, ?_⟩
      · rw [hexec]
        exact treeOk_effect hap hk h.tree heffect hothers
      · rw [hexec]
        intro e' he'
        obtain ⟨e, he, hkey, hsize⟩ := hrows e' he'
        rw [hkey, hsize]
        exact h.entries e he
  | put k content now expiresIn =>
      obtain ⟨t', hput, heffect⟩ := putCached_of hap hk h.tree (hpolicy k) hquiet
      have hexec : (w.exec cfg (.put k content now expiresIn)).cache = _ := congrArg Prod.snd hput
      have hself : ((CacheCall.put k content now expiresIn).heldAfter w.held).lookup k
          = some content := List.lookup_cons_self
      refine ⟨?_, ?_⟩
      · rw [hexec]
        exact treeOk_effect hap hk h.tree (hself.symm ▸ heffect) hothers
      · rw [hexec]
        intro e he
        rcases mem_setEntry.mp he with rfl | ⟨he, hne⟩
        · exact ⟨hk, content, hself, rfl⟩
        · exact hkept e he (fun heq => hne (congrArg CacheKey.text heq))
  | evict k =>
      obtain ⟨s', hevict, heffect, hrows⟩ := evict_of hap hk h.tree
      have hexec : (w.exec cfg (.evict k)).cache = s' := congrArg Prod.snd hevict
      have hself : ((CacheCall.evict k).heldAfter w.held).lookup k = none :=
        lookup_without_self k w.held
      refine ⟨?_, ?_⟩
      · rw [hexec]
        exact treeOk_effect hap hk h.tree (hself.symm ▸ heffect) hothers
      · rw [hexec]
        intro e he
        obtain ⟨he, hne⟩ := hrows e he
        exact hkept e he (fun heq => hne (congrArg CacheKey.text heq))

theorem mapInv_start {s : ContentCache} (hsep : Separated cfg s.tree K)
    (hinit : Initialized cfg s) : MapInv cfg K { cache := s } := by
  have hold : ∀ k ∈ K, s.tree (cfg.filePath k) = none ∧
      s.tree.blockedAt (cfg.filePath k).parent = false ∧
      ∀ temp ∈ tempPath (cfg.filePath k), s.tree.isDirAt temp = false := by
    intro k hk
    have h := hsep.canHold k hk
    simp only [Agent.canHold, Bool.and_eq_true, Option.isNone_iff_eq_none, Bool.not_eq_true',
      Option.any_eq_true] at h
    obtain ⟨⟨⟨⟨-, hnone⟩, hway⟩, temp, htemp, hdir⟩, -⟩ := h
    refine ⟨hnone, hway, fun temp' htemp' => ?_⟩
    rw [Option.mem_def, htemp] at htemp'
    rw [← Option.some.inj htemp']
    exact hdir
  refine ⟨⟨?_, ?_, ?_, hinit.cacheDir, hinit.metaPath⟩, ?_⟩
  · exact fun k hk => (hold k hk).1
  · intro k hk temp htemp hdir
    have hnot := (hold k hk).2.2 temp htemp
    rw [Tree.isDirAt_iff.mpr hdir] at hnot
    cases hnot
  · exact fun k hk => Tree.blockedAt_eq_false.mp (hold k hk).2.1
  · intro e he
    rw [show s.metadata.rows = [] from hinit.noEntries] at he
    cases he

end Step

/-- The law of a map, for a run: in every state the cache is a map on the keys, and no call
changes what another key returns. -/
structure MapRun (cfg : CacheConfig) (K : List CacheKey) (w : Watched) (calls : List CacheCall) :
    Prop where
  always : Always (Watched.exec cfg) (IsMap cfg K) w calls
  others : Along (Watched.exec cfg) (fun w call => ∀ k ∈ K, k ≠ call.key → ∀ now,
    NotExpired w k now → NotExpired (w.exec cfg call) k now →
    reading cfg now (w.exec cfg call) k = reading cfg now w k) w calls

/-- **THE CONTENT CACHE IS A MAP** along every run, without expiry and size pressure and under a
policy that admits every path, whose keys are apart and can be held. -/
theorem cache_is_map_run (cfg : CacheConfig) (hpolicy : ∀ k, shouldCache cfg k = true)
    (s : ContentCache) (hinit : Initialized cfg s) (K : List CacheKey)
    (hsep : Separated cfg s.tree K) (calls : List CacheCall) (hkeys : ∀ call ∈ calls, call.key ∈ K)
    (hquiet : Along (Watched.exec cfg) (Undisturbed cfg) { cache := s } calls) :
    MapRun cfg K { cache := s } calls := by
  have hap := hsep.filesApart
  have hstep : ∀ w call, MapInv cfg K w → call.key ∈ K ∧ Undisturbed cfg w call →
      MapInv cfg K (w.exec cfg call) :=
    fun w call hinv hguard => mapInv_exec hap hpolicy hguard.1 hinv hguard.2
  have halong := hquiet.and_label hkeys
  have hstart := mapInv_start hsep hinit
  refine ⟨(always_of_step hstep hstart halong).mono (fun w hinv => hinv.isMap hap), ?_⟩
  refine Along.of_step hstep ?_ hstart halong
  intro w call hinv hguard k hk hne now hbefore hafter
  rw [((hstep w call hinv hguard).isMap hap).reads k hk now hafter,
    (hinv.isMap hap).reads k hk now hbefore]
  exact congrArg some (lookup_heldAfter_of_ne hne w.held)

/-- A mirror of everything, in `/cache`. -/
def mirrorConfig : CacheConfig where
  cacheDir := agentCache
  maxSizeBytes := 1000
  policy := .mirror
  dumps := fun _ => []

/-- Its empty directory. -/
def emptyCache : ContentCache where
  tree := fun p => if Under p agentCache then some .dir else none

def script (path : String) : CacheKey := ⟨"scripts".toList, path.toList⟩

theorem admits_mirrorConfig (k : CacheKey) : shouldCache mirrorConfig k = true := by
  unfold shouldCache
  split
  next => rfl
  next => rfl

theorem initialized_emptyCache : Initialized mirrorConfig emptyCache :=
  ⟨rfl, by decide, by decide⟩

/-- Two files are stored, and one is evicted. -/
theorem cache_is_map_run_two :
    MapRun mirrorConfig [script "x.img", script "d/y.img"] { cache := emptyCache }
      [.put (script "x.img") [1] 0 none, .put (script "d/y.img") [2, 3] 1 none,
       .get (script "x.img") 2, .evict (script "x.img")] :=
  cache_is_map_run mirrorConfig admits_mirrorConfig emptyCache initialized_emptyCache
    [script "x.img", script "d/y.img"] ⟨by decide, by decide⟩ _ (by decide) (by decide)

/-- `x.img` is written to the file of `x.tmp`, which is lost; and `/x` finds the file of
`x`. -/
theorem keys_share_files :
    ¬ MapRun mirrorConfig [script "x.tmp", script "x.img"] { cache := emptyCache }
        [.put (script "x.tmp") [1] 0 none, .put (script "x.img") [2] 1 none] ∧
      ¬ MapRun mirrorConfig [script "x", script "/x"] { cache := emptyCache }
        [.put (script "x") [1] 0 none] := by
  refine ⟨fun h => ?_, fun h => ?_⟩
  · have hread := h.always.last.reads (script "x.tmp") (by decide) 1 (by decide)
    revert hread
    decide
  · have hread := h.always.last.reads (script "/x") (by decide) 0 (by decide)
    revert hread
    decide

end PureBoot.Agent
