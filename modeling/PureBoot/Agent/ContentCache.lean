/-
  PureBoot.Agent.ContentCache — the CONTENT CACHE of an agent.

  Embeds `agent/cache/content_cache.py`: the categories and policies, `get`, `put`,
  `evict`, and what they do to the metadata and to the tree of files below the directory
  of the cache.  A file is written under a temporary name, which is its own name with
  another suffix, and renamed; the metadata is kept by the text `category/path` and
  written to a file of its own after each change.

  A `put` that has to evict does not get on (see `PureBoot.Agent.CacheLocks`).
-/
import PureBoot.Agent.CachePaths
import PureBoot.Lib.Table
import PureBoot.Lib.Tree

namespace PureBoot.Agent

open PureBoot.Lib

/-! ## §1. Settings and metadata. -/

abbrev Bytes : Type := List UInt8

structure CacheCategory where
  alwaysCache : Bool := false
  maxAgeDays : Option Nat := none
  priority : Int := 0

/-- `DEFAULT_CATEGORIES`. -/
def defaultCategories : List (List Char × CacheCategory) :=
  [("bootloaders".toList, { alwaysCache := true, priority := 100 }),
   ("scripts".toList, { maxAgeDays := some 1, priority := 10 }),
   ("templates".toList, { maxAgeDays := some 7, priority := 50 }),
   ("images".toList, { maxAgeDays := some 30, priority := 30 })]

inductive CachePolicy where
  | minimal
  | assigned
  | mirror
  | pattern
  /-- Any other text. -/
  | other
  deriving DecidableEq

/-- What a file is cached under. -/
structure CacheKey where
  category : List Char
  path : List Char
  deriving DecidableEq

/-- `_get_cache_key`. -/
def CacheKey.text (k : CacheKey) : List Char := k.category ++ '/' :: k.path

/-- `CacheEntry`; times are in seconds. -/
structure CacheEntry where
  path : List Char
  category : List Char
  sizeBytes : Nat
  cachedAt : Int
  lastAccessed : Int
  expiresAt : Option Int
  deriving DecidableEq

def CacheEntry.cacheKey (e : CacheEntry) : CacheKey := ⟨e.category, e.path⟩

/-- The key in `_metadata`. -/
def CacheEntry.key (e : CacheEntry) : List Char := e.cacheKey.text

/-- `_metadata`. -/
abbrev Metadata : Type := Table CacheEntry.key

structure CacheConfig where
  cacheDir : AbsPath
  maxSizeBytes : Nat
  policy : CachePolicy
  patterns : List (List Char) := []
  categories : List (List Char × CacheCategory) := defaultCategories
  /-- `fnmatch.fnmatch`. -/
  fnmatch : List Char → List Char → Bool := fun _ _ => false
  /-- The text of the metadata file. -/
  dumps : Metadata → Bytes

/-- `METADATA_FILE`. -/
def CacheConfig.metaPath (cfg : CacheConfig) : AbsPath :=
  cfg.cacheDir.enter ".cache_meta.json".toList

/-- `_get_file_path`, in normal form.  (The path itself keeps a `..` of the category: then `mkdir`
also makes the directories that it leaves again.) -/
def CacheConfig.filePath (cfg : CacheConfig) (k : CacheKey) : AbsPath :=
  getFilePath cfg.cacheDir k.category k.path

/-- `should_cache`. -/
def shouldCache (cfg : CacheConfig) (k : CacheKey) : Bool :=
  if (cfg.categories.lookup k.category).any CacheCategory.alwaysCache then true
  else
    match cfg.policy with
    | .minimal => false
    | .assigned => true
    | .mirror => true
    | .pattern => cfg.patterns.any (fun pattern => cfg.fnmatch k.text pattern)
    | .other => false

structure ContentCache where
  tree : Lib.Tree Bytes
  metadata : Metadata := Table.empty

/-- `get_total_size`. -/
def getTotalSize (m : Metadata) : Nat := (m.rows.map CacheEntry.sizeBytes).sum

/-- An entry that `_ensure_space` may evict. -/
def evictable (cfg : CacheConfig) (e : CacheEntry) : Bool :=
  !(cfg.categories.lookup e.category).any CacheCategory.alwaysCache

/-- `_ensure_space` comes to evict an entry: there is too little space and an entry that may
go.  Entries that must stay are passed over and make no space. -/
def mustEvict (cfg : CacheConfig) (m : Metadata) (neededBytes : Nat) : Bool :=
  cfg.maxSizeBytes < getTotalSize m + neededBytes && m.rows.any (evictable cfg)

/-! ## §2. Operations. -/

/-- What an operation returns, or that it does not. -/
inductive CacheAnswer where
  /-- `get`: the path of a file, or `None`. -/
  | found (path : Option AbsPath)
  | stored (path : AbsPath)
  | evicted (deleted : Bool)
  | raised
  /-- It waits for the lock that it holds. -/
  | waits
  deriving DecidableEq

/-- `self._metadata[key] = entry`. -/
def setEntry (m : Metadata) (e : CacheEntry) : Metadata :=
  match m.insert? e with
  | some m' => m'
  | none => m.put e

/-- `_save_metadata`; the answer stands unless the file cannot be written. -/
def saveMetadata (cfg : CacheConfig) (s : ContentCache) (answer : CacheAnswer) :
    CacheAnswer × ContentCache :=
  match s.tree.write cfg.metaPath (cfg.dumps s.metadata) with
  | some tree => (answer, { s with tree })
  | none => (.raised, s)

/-- The metadata of a key is deleted, if there is any. -/
def forgetEntry (cfg : CacheConfig) (s : ContentCache) (k : CacheKey) (deleted : Bool) :
    CacheAnswer × ContentCache :=
  if (s.metadata.get? k.text).isSome then
    saveMetadata cfg { s with metadata := s.metadata.delete (fun e => e.key = k.text) }
      (.evicted deleted)
  else (.evicted deleted, s)

/-- `evict`. -/
def evict (cfg : CacheConfig) (s : ContentCache) (k : CacheKey) : CacheAnswer × ContentCache :=
  let file := cfg.filePath k
  if (s.tree file).isSome then
    match s.tree.unlink file with
    | some tree => forgetEntry cfg { s with tree } k true
    | none => (.raised, s)
  else forgetEntry cfg s k false

/-- `entry.expires_at and now > entry.expires_at`. -/
def CacheEntry.isExpired (e : CacheEntry) (now : Int) : Bool := e.expiresAt.any (fun t => t < now)

/-- `get`. -/
def getCached (cfg : CacheConfig) (now : Int) (s : ContentCache) (k : CacheKey) :
    CacheAnswer × ContentCache :=
  let file := cfg.filePath k
  if (s.tree file).isNone then
    (.found none, { s with metadata := s.metadata.delete (fun e => e.key = k.text) })
  else
    match s.metadata.get? k.text with
    | none => (.found (some file), s)
    | some entry =>
        if entry.isExpired now then
          match evict cfg s k with
          | (.evicted _, s') => (.found none, s')
          | (_, s') => (.raised, s')
        else
          saveMetadata cfg { s with metadata := s.metadata.put { entry with lastAccessed := now } }
            (.found (some file))

/-- When an entry expires. -/
def expiryOf (cfg : CacheConfig) (now : Int) (k : CacheKey) (expiresIn : Option Int) :
    Option Int :=
  match expiresIn.filter (fun d => d ≠ 0) with
  | some d => some (now + d)
  | none =>
      (((cfg.categories.lookup k.category).bind CacheCategory.maxAgeDays).filter
        (fun days => days ≠ 0)).map (fun days => now + days * 86400)

/-- The metadata of a file that is stored. -/
def newEntry (cfg : CacheConfig) (now : Int) (expiresIn : Option Int) (k : CacheKey)
    (content : Bytes) : CacheEntry where
  path := k.path
  category := k.category
  sizeBytes := content.length
  cachedAt := now
  lastAccessed := now
  expiresAt := expiryOf cfg now k expiresIn

/-- The file is written: its directory is made, then a temporary file, which is renamed.  What
was done before an error stays. -/
def writeFile (t : Lib.Tree Bytes) (file : AbsPath) (content : Bytes) :
    Option AbsPath × Lib.Tree Bytes :=
  match t.mkdirs file.parent with
  | none => (none, t)
  | some t₁ =>
      match tempPath file with
      | none => (none, t₁)
      | some temp =>
          match t₁.write temp content with
          | none => (none, t₁)
          | some t₂ =>
              match t₂.rename temp file with
              | none => (none, t₂)
              | some t₃ => (some file, t₃)

/-- `put`. -/
def putCached (cfg : CacheConfig) (now : Int) (expiresIn : Option Int) (s : ContentCache)
    (k : CacheKey) (content : Bytes) : CacheAnswer × ContentCache :=
  if !shouldCache cfg k then (.raised, s)
  else if mustEvict cfg s.metadata content.length then (.waits, s)
  else
    match writeFile s.tree (cfg.filePath k) content with
    | (none, tree) => (.raised, { s with tree })
    | (some file, tree) =>
        saveMetadata cfg
          { tree, metadata := setEntry s.metadata (newEntry cfg now expiresIn k content) }
          (.stored file)

end PureBoot.Agent
