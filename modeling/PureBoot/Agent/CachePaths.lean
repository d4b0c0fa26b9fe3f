/-
  PureBoot.Agent.CachePaths — the PATHS of an agent's caches.

  Embeds `ContentCache._get_file_path` and `CacheManager.get_cached_path`, which are the
  same function, and the paths that `get`, `put` and `evict` of the content cache and
  `serve_tftp_file` make of their arguments.

  The function strips slashes, deletes each `..` and joins what is left to the
  directory of the category.  No `..` is left after that, so `..` never leads up.  But a
  path whose first dots are deleted and that goes on with a slash has become absolute,
  and an absolute path replaces the directory it is joined to.

  Main results:
    * `parts_cachedPath` — the names in the path of a file;
    * `cached_path_contained_iff` — the paths that stay in the directory of the category, and in
      the cache.
-/
import PureBoot.Lib.Posix
import PureBoot.Lib.Text

namespace PureBoot.Agent

open PureBoot.Lib AbsPath

/-! ## §1. Paths. -/

/-- The directory `cache_dir / category`. -/
def categoryDir (cacheDir : AbsPath) (category : List Char) : AbsPath := cacheDir.join category

/-- `cache_dir / category / path.lstrip("/").replace("..", "")`. -/
def cachedPath (cacheDir : AbsPath) (category path : List Char) : AbsPath :=
  (categoryDir cacheDir category).join (replaceAll "..".toList [] (lstripSlash path))

/-- `ContentCache._get_file_path`. -/
def getFilePath (cacheDir : AbsPath) (category path : List Char) : AbsPath :=
  cachedPath cacheDir category path

/-- `CacheManager.get_cached_path`. -/
def getCachedPath (cacheDir : AbsPath) (category filename : List Char) : AbsPath :=
  cachedPath cacheDir category filename

/-- The file that is written before it gets its name. -/
def tempPath (file : AbsPath) : Option AbsPath := file.withSuffix ".tmp".toList

/-- The operations that use the path of a file. -/
inductive CacheOp where
  | get (category path : List Char)
  | put (category path : List Char)
  | evict (category path : List Char)
  | serveTftpFile (path : List Char)

def CacheOp.category : CacheOp → List Char
  | get category _ | put category _ | evict category _ => category
  | serveTftpFile _ => "tftp".toList

def CacheOp.path : CacheOp → List Char
  | get _ path | put _ path | evict _ path | serveTftpFile path => path

/-- A file is written: its directory is made, then a temporary file, which is renamed. -/
def written (file : AbsPath) : List AbsPath := file.parent :: (tempPath file).toList ++ [file]

/-- The paths an operation makes of its arguments, and reads, writes or deletes. -/
def CacheOp.touched (cacheDir : AbsPath) : CacheOp → List AbsPath
  | get category path => [getFilePath cacheDir category path]
  | put category path => written (getFilePath cacheDir category path)
  | evict category path => [getFilePath cacheDir category path]
  -- a file that is not there is fetched from central and written
  | serveTftpFile path =>
      let file := getCachedPath cacheDir "tftp".toList path
      file :: written file

/-! ## §2. The names in a path. -/

/-- The names that are left in a path without pairs of dots. -/
def namesIn (path : List Char) : List (List Char) :=
  ((path.splitOn '/').map (dropPairs '.')).filter isName

/-- The dots at the beginning are deleted, and a slash follows. -/
def exposesSlash (path : List Char) : Bool :=
  let dots := (lstripSlash path).takeWhile (fun c => c = '.')
  let rest := (lstripSlash path).dropWhile (fun c => c = '.')
  dots.length % 2 = 0 && rest.head? = some '/'

/-- No `..` is left. -/
theorem not_up_dropPairs (t : List Char) : ['.', '.'] ∉ (dropPairs '.' t).splitOn '/' := by
  rw [splitOn_dropPairs (by decide)]
  intro hmem
  obtain ⟨c, -, hc⟩ := List.mem_map.mp hmem
  exact dropPairs_ne_pair '.' c hc

/-- What is joined is absolute exactly if the dots at its beginning are deleted before a
slash. -/
theorem absolute_iff (path : List Char) :
    (dropPairs '.' (lstripSlash path)).head? = some '/' ↔ exposesSlash path = true := by
  rw [head?_dropPairs (by decide)]
  unfold exposesSlash
  dsimp only
  rw [Bool.and_eq_true, decide_eq_true_eq, decide_eq_true_eq]

/-- **THE NAMES IN THE PATH OF A FILE.** -/
theorem parts_cachedPath (cacheDir : AbsPath) (category path : List Char) :
    (cachedPath cacheDir category path).parts =
      (if exposesSlash path then [] else (categoryDir cacheDir category).parts)
        ++ namesIn (lstripSlash path) := by
  have hnames : ((dropPairs '.' (lstripSlash path)).splitOn '/').filter isName
      = namesIn (lstripSlash path) := by
    rw [splitOn_dropPairs (by decide)]
    rfl
  have hjoin : replaceAll "..".toList [] (lstripSlash path) = dropPairs '.' (lstripSlash path) :=
    replaceAll_pair '.' _
  unfold cachedPath AbsPath.join
  rw [hjoin]
  by_cases habs : exposesSlash path = true
  · rw [if_pos ((absolute_iff path).mpr habs), if_pos habs,
      parts_resolveFrom _ (not_up_dropPairs _), hnames]
    rfl
  · rw [if_neg (mt (absolute_iff path).mp habs), if_neg habs,
      parts_resolveFrom _ (not_up_dropPairs _), hnames]

/-! ## §3. Containment. -/

/-- The path denotes a file in the directory of the category, in both caches, and no operation
on it touches anything outside that directory or outside the cache. -/
structure Contained (cacheDir : AbsPath) (category path : List Char) : Prop where
  file : Inside (categoryDir cacheDir category) (getFilePath cacheDir category path)
  cached : Inside (categoryDir cacheDir category) (getCachedPath cacheDir category path)
  touched : ∀ op : CacheOp, op.category = category → op.path = path →
    ∀ p ∈ op.touched cacheDir, Under (categoryDir cacheDir category) p ∧ Under cacheDir p

/-- The names that an absolute path has to begin with. -/
def homeNames (cacheDir : AbsPath) (category : List Char) : List (List Char) :=
  if category = "..".toList then cacheDir.parts else (categoryDir cacheDir category).parts

/-- The names that any other path has to begin with: from the category `..` it has to lead back
into the cache. -/
def wayBack (cacheDir : AbsPath) (category : List Char) : List (List Char) :=
  if category = "..".toList then cacheDir.parts.getLast?.toList else []

/-- The path has a name beyond those that it has to begin with. -/
def StaysInside (cacheDir : AbsPath) (category path : List Char) : Prop :=
  let start := if exposesSlash path then homeNames cacheDir category else wayBack cacheDir category
  start <+: namesIn (lstripSlash path) ∧ start ≠ namesIn (lstripSlash path)

instance (cacheDir : AbsPath) (category path : List Char) :
    Decidable (StaysInside cacheDir category path) :=
  inferInstanceAs (Decidable (_ ∧ _))

/-- A category without a slash, other than `..`, has its directory in the cache. -/
theorem under_categoryDir {cacheDir : AbsPath} {category : List Char} (hslash : '/' ∉ category)
    (hup : category ≠ "..".toList) : Under cacheDir (categoryDir cacheDir category) := by
  have hhead : category.head? ≠ some '/' := fun h => hslash (List.mem_of_head? h)
  have hsplit : category.splitOn '/' = [category] := List.splitOn_eq_singleton hslash
  unfold categoryDir AbsPath.join
  rw [if_neg hhead]
  show cacheDir.parts <+: _
  rw [parts_resolveFrom]
  · exact List.prefix_append _ _
  · rw [hsplit, List.mem_singleton]
    exact fun h => hup h.symm

/-- That of `..` is the directory above the cache. -/
theorem categoryDir_up (cacheDir : AbsPath) : categoryDir cacheDir "..".toList = cacheDir.parent :=
  rfl

/-- The names of a path go on from a beginning exactly if those behind it do. -/
theorem inside_iff_parts {base file : AbsPath} {start rest names : List (List Char)}
    (hbase : base.parts = start ++ rest) (hfile : file.parts = start ++ names) :
    Inside base file ↔ rest <+: names ∧ rest ≠ names := by
  have hne : base ≠ file ↔ rest ≠ names := by
    refine not_congr ⟨fun heq => ?_, fun heq => AbsPath.ext (by rw [hbase, hfile, heq])⟩
    exact List.append_cancel_left (hbase.symm.trans ((congrArg AbsPath.parts heq).trans hfile))
  unfold Inside Under
  rw [hne, hbase, hfile, List.prefix_append_right_inj]

/-- The file is in the directory of the category, and in the cache. -/
theorem inside_cachedPath (cacheDir : AbsPath) {category : List Char} (path : List Char)
    (hslash : '/' ∉ category) :
    Inside (categoryDir cacheDir category) (cachedPath cacheDir category path) ∧
        Inside cacheDir (cachedPath cacheDir category path) ↔
      StaysInside cacheDir category path := by
  have hparts := parts_cachedPath cacheDir category path
  unfold StaysInside homeNames wayBack
  by_cases hup : category = "..".toList
  · -- the directory of the category is above the cache, so that the cache is what counts
    subst hup
    have habove : Under cacheDir.parent cacheDir := List.dropLast_prefix cacheDir.parts
    rw [categoryDir_up] at hparts ⊢
    rw [if_pos rfl, if_pos rfl, and_iff_right_of_imp (fun h => h.of_under habove)]
    by_cases habs : exposesSlash path = true
    · rw [if_pos habs] at hparts ⊢
      exact inside_iff_parts (List.nil_append _).symm hparts
    · rw [if_neg habs] at hparts ⊢
      refine inside_iff_parts ?_ hparts
      show cacheDir.parts = cacheDir.parts.dropLast ++ cacheDir.parts.getLast?.toList
      cases hlast : cacheDir.parts.getLast? with
      | none => rw [List.getLast?_eq_none_iff.mp hlast]; rfl
      | some name => exact (List.dropLast_append_getLast? name hlast).symm
  · rw [if_neg hup, if_neg hup, and_iff_left_of_imp
      (fun h => h.of_under (under_categoryDir hslash hup))]
    by_cases habs : exposesSlash path = true
    · rw [if_pos habs] at hparts ⊢
      exact inside_iff_parts (List.nil_append _).symm hparts
    · rw [if_neg habs] at hparts ⊢
      exact inside_iff_parts (List.append_nil _).symm hparts

/-- The temporary file is in the directory of the file. -/
theorem under_tempPath {file temp : AbsPath} (h : tempPath file = some temp) :
    Under file.parent temp := by
  unfold tempPath AbsPath.withSuffix at h
  obtain ⟨name, -, rfl⟩ := Option.map_eq_some_iff.mp h
  refine under_enter ?_
  intro hdots
  have hlength := congrArg List.length hdots
  simp at hlength

theorem under_written {base file : AbsPath} (h : Inside base file) :
    ∀ p ∈ written file, Under base p := by
  intro p hp
  unfold written at hp
  rw [List.cons_append, List.mem_cons, List.mem_append, List.mem_singleton, Option.mem_toList] at hp
  rcases hp with rfl | htemp | rfl
  · exact h.parent
  · exact h.parent.trans (under_tempPath htemp)
  · exact h.1

/-- **A PATH STAYS IN THE DIRECTORY OF ITS CATEGORY, AND IN THE CACHE, EXACTLY IF** it has a name
and no slash is exposed at its beginning (or the absolute path that it then is leads back there);
from the category `..` it also has to lead back into the cache. -/
theorem cached_path_contained_iff (cacheDir : AbsPath) (category path : List Char)
    (h : '/' ∉ category) :
    Contained cacheDir category path ↔ StaysInside cacheDir category path := by
  rw [← inside_cachedPath cacheDir path h]
  constructor
  · intro hcontained
    refine ⟨hcontained.file, ?_⟩
    -- `put` makes the directory of the file, so that this is in the cache too
    have hfile := hcontained.touched (.put category path) rfl rfl
      (getFilePath cacheDir category path).parent List.mem_cons_self
    exact hcontained.file.of_under_parent hfile.2
  · rintro ⟨hinside, hcache⟩
    refine ⟨hinside, hinside, ?_⟩
    rintro op rfl rfl p hp
    have htouched : ∀ base, Inside base (cachedPath cacheDir op.category op.path) →
        Under base p := by
      intro base hbase
      cases op with
      | get category path =>
          rw [List.mem_singleton.mp hp]
          exact hbase.1
      | put category path => exact under_written hbase p hp
      | evict category path =>
          rw [List.mem_singleton.mp hp]
          exact hbase.1
      | serveTftpFile path =>
          rcases List.mem_cons.mp hp with rfl | hp
          · exact hbase.1
          · exact under_written hbase p hp
    exact ⟨htouched _ hinside, htouched _ hcache⟩

/-- The directory of the cache. -/
def agentCache : AbsPath := ⟨["cache".toList], by decide⟩

/-- A path with dots in it. -/
theorem cached_path_contained_iff_dots :
    '/' ∉ "scripts".toList ∧ Contained agentCache "scripts".toList "/a/../b..c/...".toList :=
  ⟨by decide, (cached_path_contained_iff agentCache "scripts".toList "/a/../b..c/...".toList
    (by decide)).mpr (by decide)⟩

/-- A path that leads out of the cache: the file is `/etc/passwd`. -/
theorem path_leads_out :
    (getFilePath agentCache "scripts".toList "../etc/passwd".toList).text
        = "/etc/passwd".toList ∧
      (getCachedPath agentCache "tftp".toList "../etc/passwd".toList).text
        = "/etc/passwd".toList ∧
      ¬ Contained agentCache "scripts".toList "../etc/passwd".toList := by
  refine ⟨by decide, by decide, fun h => ?_⟩
  have hinside := (cached_path_contained_iff _ _ _ (by decide)).mp h
  revert hinside
  decide

end PureBoot.Agent
