/-
  PureBoot.Agent.CacheLocks — the LOCKS of the content cache and of the sync service.

  Embeds the public operations of `agent/cache/content_cache.py` and of `agent/sync.py` as
  programs over the two locks: the cache's own, which `put` and `evict` take, and the one
  that a sync takes.  An action of a program is what a task does between two points at
  which it may be suspended; central's answers, the clock and the errors of the file
  system are the input of an action.

  `asyncio.Lock` is not re-entrant.  `put` calls `_ensure_space`, and so `evict`, while it
  holds the lock of the cache, and a manual sync calls the scheduled one while it holds the
  lock of the sync.

  Main results:
    * `alone_evict`, `alone_get`, `alone_put` — a program that runs alone does what the
      operation of `PureBoot.Agent.ContentCache` does;
    * `ensureSpace_waits` — `_ensure_space` requests the lock as soon as it must evict;
    * `ordered_program` — each operation keeps the order of the locks, up to there;
    * `no_self_wait_iff` — the runs in which no task waits for itself.
-/
import PureBoot.Agent.ContentCache
import PureBoot.Lib.Locks
import Mathlib.Data.List.Sort

namespace PureBoot.Agent

open PureBoot.Lib

/-! ## §1. Locks, inputs and actions. -/

inductive CacheLock where
  /-- `ContentCache._lock`. -/
  | cache
  /-- `CacheSyncService._sync_lock`. -/
  | sync
  deriving DecidableEq

/-- What a request to central gives. -/
inductive Fetched (α : Type) where
  | failed
  | raised
  | ok (value : α)

/-- A file as central lists it. -/
structure FileInfo where
  category : Option (List Char)
  path : Option (List Char)

structure CacheInput where
  now : Int
  /-- A call of the file system raises. -/
  ioFails : Bool := false
  download : Fetched Bytes := .failed
  listing : Fetched (List FileInfo) := .failed

inductive CachePoint where
  | plain
  /-- `put` calls `_ensure_space`. -/
  | ensureSpace (neededBytes : Nat)
  /-- A manual sync calls the scheduled one. -/
  | delegate

abbrev CacheProg : Type := Prog CacheLock ContentCache CacheInput CachePoint

/-- A pause of the program: nothing changes, and how it goes on depends on what it finds. -/
def CacheProg.look (next : ContentCache → CacheInput → CacheProg) : CacheProg :=
  .act .plain (fun s _ => s) next

/-- `_save_metadata`. -/
def saveProg (cfg : CacheConfig) (next fail : CacheProg) : CacheProg :=
  .act .plain
    (fun s input => if input.ioFails then s else (saveMetadata cfg s (.found none)).2)
    (fun s input =>
      if input.ioFails || (saveMetadata cfg s (.found none)).1 == .raised then fail else next)

/-! ## §2. The content cache. -/

/-- `_delete`. -/
def unlinkFile (cfg : CacheConfig) (s : ContentCache) (k : CacheKey) : Option ContentCache :=
  if (s.tree (cfg.filePath k)).isSome then
    (s.tree.unlink (cfg.filePath k)).map (fun tree => { s with tree })
  else some s

/-- `del self._metadata[cache_key]`. -/
def dropEntry (s : ContentCache) (k : CacheKey) : ContentCache :=
  { s with metadata := s.metadata.delete (fun e => e.key = k.text) }

/-- `evict`. -/
def evictProg (cfg : CacheConfig) (k : CacheKey) (next fail : CacheProg) : CacheProg :=
  .acquire .cache
    -- the file is deleted in a thread: the task is suspended, and `get` takes no lock
    (.act .plain
      (fun s input => if input.ioFails then s else (unlinkFile cfg s k).getD s)
      (fun s input =>
        if input.ioFails || (unlinkFile cfg s k).isNone then .release .cache fail
        else
          .act .plain (fun s _ => if (s.metadata.get? k.text).isSome then dropEntry s k else s)
            (fun s _ =>
              if (s.metadata.get? k.text).isSome then
                saveProg cfg (.release .cache next) (.release .cache fail)
              else .release .cache next)))

/-- `get`; `next` is told whether a path is returned. -/
def getProg (cfg : CacheConfig) (k : CacheKey) (next : Bool → CacheProg) (fail : CacheProg) :
    CacheProg :=
  -- up to `evict` or `_save_metadata` nothing suspends the task
  .act .plain
    (fun s input =>
      if (s.tree (cfg.filePath k)).isNone then dropEntry s k
      else
        match s.metadata.get? k.text with
        | none => s
        | some entry =>
            if entry.isExpired input.now then s
            else { s with metadata := s.metadata.put { entry with lastAccessed := input.now } })
    (fun s input =>
      if (s.tree (cfg.filePath k)).isNone then next false
      else
        match s.metadata.get? k.text with
        | none => next true
        | some entry =>
            if entry.isExpired input.now then evictProg cfg k (next false) fail
            else saveProg cfg (next true) fail)

/-- What `_ensure_space` sorts by. -/
def evictsBefore (cfg : CacheConfig) (e e' : CacheEntry) : Prop :=
  let priority := fun e : CacheEntry =>
    ((cfg.categories.lookup e.category).map CacheCategory.priority).getD 0
  priority e < priority e' ∨ (priority e = priority e' ∧ e.lastAccessed ≤ e'.lastAccessed)

instance (cfg : CacheConfig) : DecidableRel (evictsBefore cfg) := fun e e' =>
  inferInstanceAs (Decidable (_ < _ ∨ (_ = _ ∧ e.lastAccessed ≤ e'.lastAccessed)))

/-- The loop of `_ensure_space`. -/
def evictLoop (cfg : CacheConfig) (targetSize : Int) (next fail : CacheProg) :
    Int → List CacheEntry → CacheProg
  | _, [] => next
  | currentSize, entry :: entries =>
      if targetSize < currentSize then
        if evictable cfg entry then
          -- the caller holds the lock that `evict` requests
          evictProg cfg entry.cacheKey
            (evictLoop cfg targetSize next fail (currentSize - entry.sizeBytes) entries) fail
        else evictLoop cfg targetSize next fail currentSize entries
      else next

/-- `_ensure_space`. -/
def ensureSpace (cfg : CacheConfig) (m : Metadata) (neededBytes : Nat) (next fail : CacheProg) :
    CacheProg :=
  if getTotalSize m + neededBytes ≤ cfg.maxSizeBytes then next
  else
    evictLoop cfg (cfg.maxSizeBytes - neededBytes) next fail (getTotalSize m)
      (m.rows.insertionSort (evictsBefore cfg))

/-- The rest of `put`, once there is space. -/
def storeProg (cfg : CacheConfig) (k : CacheKey) (content : Bytes) (entry : CacheEntry)
    (next fail : CacheProg) : CacheProg :=
  .act .plain
    (fun s input =>
      if input.ioFails then s
      else { s with tree := (writeFile s.tree (cfg.filePath k) content).2 })
    (fun s input =>
      if input.ioFails || (writeFile s.tree (cfg.filePath k) content).1.isNone then fail
      else
        .act .plain (fun s _ => { s with metadata := setEntry s.metadata entry })
          (fun _ _ => saveProg cfg next fail))

/-- `put`. -/
def putProg (cfg : CacheConfig) (k : CacheKey) (content : Bytes) (expiresIn : Option Int)
    (next fail : CacheProg) : CacheProg :=
  .acquire .cache
    (if shouldCache cfg k then
      -- the time of the entry is read before `_ensure_space`
      .act (.ensureSpace content.length) (fun s _ => s) (fun s input =>
        ensureSpace cfg s.metadata content.length
          (storeProg cfg k content (newEntry cfg input.now expiresIn k content)
            (.release .cache next) (.release .cache fail))
          (.release .cache fail))
    else .release .cache fail)

/-- The loop of `evict_expired` and of `clear`. -/
def evictAll (cfg : CacheConfig) (next fail : CacheProg) : List CacheKey → CacheProg
  | [] => next
  | k :: keys => evictProg cfg k (evictAll cfg next fail keys) fail

def evictExpired (cfg : CacheConfig) (next fail : CacheProg) : CacheProg :=
  CacheProg.look (fun s input =>
    evictAll cfg next fail
      ((s.metadata.rows.filter (fun e => e.isExpired input.now)).map CacheEntry.cacheKey))

/-- The entries that `clear` evicts. -/
def entriesToClear (m : Metadata) (category : Option (List Char)) : List CacheEntry :=
  match category.filter (fun c => c ≠ []) with
  | some category => m.rows.filter (fun e => e.category = category)
  | none => m.rows

def clear (cfg : CacheConfig) (category : Option (List Char)) (next fail : CacheProg) :
    CacheProg :=
  CacheProg.look (fun s _ =>
    evictAll cfg next fail ((entriesToClear s.metadata category).map CacheEntry.cacheKey))

/-! ## §3. The sync service. -/

/-- `ESSENTIAL_BOOTLOADERS`. -/
def essentialBootloaders : List (List Char) :=
  ["ipxe.efi".toList, "undionly.kpxe".toList, "snponly.efi".toList, "grub/grubx64.efi".toList,
   "grub/grub.cfg".toList]

/-- `_sync_file`: an error of `put` is noted, one of `get` is not caught. -/
def syncFile (cfg : CacheConfig) (k : CacheKey) (next fail : CacheProg) : CacheProg :=
  getProg cfg k
    (fun cached =>
      if cached then next
      else
        CacheProg.look (fun _ input =>
          match input.download with
          | .failed => next
          -- only `aiohttp.ClientError` is caught
          | .raised => fail
          | .ok content => putProg cfg k content none next next))
    fail

def syncFiles (cfg : CacheConfig) (next fail : CacheProg) : List CacheKey → CacheProg
  | [] => next
  | k :: keys => syncFile cfg k (syncFiles cfg next fail keys) fail

def syncBootloaders (cfg : CacheConfig) (next fail : CacheProg) : CacheProg :=
  syncFiles cfg next fail (essentialBootloaders.map (fun path => ⟨"bootloaders".toList, path⟩))

/-- A list of files is asked for, and some of them are synced. -/
def syncListed (cfg : CacheConfig) (choose : List FileInfo → List CacheKey)
    (next fail : CacheProg) : CacheProg :=
  CacheProg.look (fun _ input =>
    match input.listing with
    | .failed => next
    | .raised => fail
    | .ok files => syncFiles cfg next fail (choose files))

/-- The key of a file as central lists it. -/
def FileInfo.key (f : FileInfo) : CacheKey :=
  ⟨f.category.getD "templates".toList, f.path.getD []⟩

def syncAssignedContent (cfg : CacheConfig) : CacheProg → CacheProg → CacheProg :=
  syncListed cfg (fun files => (files.map FileInfo.key).filter (fun k => k.path ≠ []))

def syncPatterns (cfg : CacheConfig) : CacheProg → CacheProg → CacheProg :=
  syncListed cfg (fun files =>
    (files.filter (fun f =>
      cfg.patterns.any (fun pattern =>
        cfg.fnmatch (f.category.getD [] ++ '/' :: f.path.getD []) pattern))).map FileInfo.key)

def fullSync (cfg : CacheConfig) (next fail : CacheProg) : CacheProg :=
  syncBootloaders cfg (syncListed cfg (fun files => files.map FileInfo.key) next fail) fail

/-- What `run_scheduled_sync` does while it holds the lock. -/
def syncByPolicy (cfg : CacheConfig) (next fail : CacheProg) : CacheProg :=
  match cfg.policy with
  | .minimal => syncBootloaders cfg next fail
  | .assigned => syncBootloaders cfg (syncAssignedContent cfg next fail) fail
  | .mirror => fullSync cfg next fail
  | .pattern => syncBootloaders cfg (syncPatterns cfg next fail) fail
  | .other => syncBootloaders cfg next fail

def runScheduledSync (cfg : CacheConfig) (next fail : CacheProg) : CacheProg :=
  .acquire .sync (syncByPolicy cfg (.release .sync next) (.release .sync fail))

def clearCategories (cfg : CacheConfig) (next fail : CacheProg) : List (List Char) → CacheProg
  | [] => next
  | category :: categories =>
      clear cfg (some category) (clearCategories cfg next fail categories) fail

/-- The cache is cleared before a manual sync. -/
def clearBefore (cfg : CacheConfig) (force : Bool) (categories : List (List Char))
    (next fail : CacheProg) : CacheProg :=
  if force then
    if categories ≠ [] then clearCategories cfg next fail categories
    else clear cfg none next fail
  else next

def runManualSync (cfg : CacheConfig) (force : Bool) (categories : List (List Char))
    (next fail : CacheProg) : CacheProg :=
  .acquire .sync
    (clearBefore cfg force categories
      (.act .delegate (fun s _ => s) (fun _ _ =>
        runScheduledSync cfg (.release .sync next) (.release .sync fail)))
      (.release .sync fail))

inductive CacheOperation where
  | get (k : CacheKey)
  | put (k : CacheKey) (content : Bytes) (expiresIn : Option Int)
  | evict (k : CacheKey)
  | evictExpired
  | clear (category : Option (List Char))
  | runScheduledSync
  /-- `None` for the categories is the empty list. -/
  | runManualSync (force : Bool) (categories : List (List Char))

/-- What a task does that performs an operation; it ends whether it returns or raises. -/
def CacheOperation.program (cfg : CacheConfig) : CacheOperation → CacheProg
  | get k => getProg cfg k (fun _ => .done) .done
  | put k content expiresIn => putProg cfg k content expiresIn .done .done
  | evict k => evictProg cfg k .done .done
  | evictExpired => Agent.evictExpired cfg .done .done
  | clear category => Agent.clear cfg category .done .done
  | runScheduledSync => Agent.runScheduledSync cfg .done .done
  | runManualSync force categories => Agent.runManualSync cfg force categories .done .done

/-! ## §4. `_ensure_space`. -/

section EnsureSpace

variable {cfg : CacheConfig} {next fail : CacheProg}

/-- Where all entries must stay, the loop ends by itself. -/
theorem evictLoop_of_none {targetSize currentSize : Int} {entries : List CacheEntry}
    (h : ∀ e ∈ entries, evictable cfg e = false) :
    evictLoop cfg targetSize next fail currentSize entries = next := by
  induction entries with
  | nil => rfl
  | cons entry entries ih =>
      have hentry : evictable cfg entry = false := h entry List.mem_cons_self
      have hrest := ih (fun e he => h e (List.mem_cons_of_mem entry he))
      unfold evictLoop
      rw [hentry, hrest]
      simp

/-- The entries that must stay are passed over, then the lock is requested. -/
theorem evictLoop_of_exists {targetSize currentSize : Int} {entries : List CacheEntry}
    (hsize : targetSize < currentSize) (h : ∃ e ∈ entries, evictable cfg e = true) :
    ∃ rest, evictLoop cfg targetSize next fail currentSize entries = .acquire .cache rest := by
  induction entries with
  | nil =>
      obtain ⟨e, he, _⟩ := h
      exact absurd he List.not_mem_nil
  | cons entry entries ih =>
      unfold evictLoop
      rw [if_pos hsize]
      cases hentry : evictable cfg entry with
      | true =>
          rw [if_pos rfl]
          exact ⟨_, rfl⟩
      | false =>
          -- this entry stays, so the one that may go is among the others
          obtain ⟨e, he, hevictable⟩ := h
          have hmem : e ∈ entries := by
            rcases List.mem_cons.mp he with rfl | hmem
            · rw [hentry] at hevictable
              exact Bool.noConfusion hevictable
            · exact hmem
          rw [if_neg Bool.false_ne_true]
          exact ih ⟨e, hmem, hevictable⟩

/-- **`_ensure_space` REQUESTS THE LOCK** as soon as it must evict. -/
theorem ensureSpace_waits {m : Metadata} {neededBytes : Nat}
    (h : mustEvict cfg m neededBytes = true) :
    ∃ rest, ensureSpace cfg m neededBytes next fail = .acquire .cache rest := by
  rw [mustEvict, Bool.and_eq_true, decide_eq_true_eq, List.any_eq_true] at h
  obtain ⟨hsize, e, he, hevictable⟩ := h
  unfold ensureSpace
  rw [if_neg (by omega)]
  refine evictLoop_of_exists (by omega) ⟨e, ?_, hevictable⟩
  exact (List.mem_insertionSort _).mpr he

/-- Without that it does nothing. -/
theorem ensureSpace_returns {m : Metadata} {neededBytes : Nat}
    (h : mustEvict cfg m neededBytes = false) :
    ensureSpace cfg m neededBytes next fail = next := by
  unfold ensureSpace
  split
  next => rfl
  next hsize =>
    have hstay : ∀ e ∈ m.rows, evictable cfg e = false := by
      intro e he
      by_contra hno
      have hmust : mustEvict cfg m neededBytes = true := by
        rw [mustEvict, Bool.and_eq_true, decide_eq_true_eq, List.any_eq_true]
        exact ⟨by omega, e, he, Bool.eq_true_of_not_eq_false hno⟩
      rw [hmust] at h
      exact Bool.noConfusion h
    exact evictLoop_of_none (fun e he => hstay e ((List.mem_insertionSort _).mp he))

end EnsureSpace

/-! ## §5. A program that runs alone. -/

section Alone

variable {cfg : CacheConfig} {s : ContentCache} {k : CacheKey} {input : CacheInput}
  {next fail : CacheProg}

/-- Where a program goes on after a call. -/
def CacheAnswer.goOn (answer : CacheAnswer) (next fail : CacheProg) : CacheProg :=
  if answer = .raised then fail else next

theorem alone_save (hio : input.ioFails = false) (answer : CacheAnswer)
    (hanswer : answer ≠ .raised) :
    (saveProg cfg next fail).alone s input
      = ((saveMetadata cfg s answer).1.goOn next fail).alone (saveMetadata cfg s answer).2
          input := by
  unfold saveProg saveMetadata CacheAnswer.goOn
  rw [alone_act, hio]
  cases s.tree.write cfg.metaPath (cfg.dumps s.metadata) with
  | none => rfl
  | some tree => simp [hanswer]

theorem alone_goOn_release (answer : CacheAnswer) (l : CacheLock) :
    (answer.goOn (.release l next) (.release l fail)).alone s input
      = (answer.goOn next fail).alone s input := by
  unfold CacheAnswer.goOn
  split
  next => exact alone_release l fail s input
  next => exact alone_release l next s input

theorem alone_evict (hio : input.ioFails = false) :
    (evictProg cfg k next fail).alone s input
      = ((evict cfg s k).1.goOn next fail).alone (evict cfg s k).2 input := by
  -- what is left to do once the file is gone
  have hforget (s : ContentCache) (deleted : Bool) :
      (if (s.metadata.get? k.text).isSome then
          saveProg cfg (.release .cache next) (.release .cache fail)
        else .release .cache next : CacheProg).alone
          (if (s.metadata.get? k.text).isSome then dropEntry s k else s) input
        = ((forgetEntry cfg s k deleted).1.goOn next fail).alone (forgetEntry cfg s k deleted).2
            input := by
    unfold forgetEntry
    split
    next =>
      rw [alone_save hio (.evicted deleted) (by simp), alone_goOn_release]
      rfl
    next => rfl
  unfold evictProg
  rw [alone_acquire, alone_act, hio]
  unfold evict unlinkFile
  dsimp only
  cases hfile : (s.tree (cfg.filePath k)).isSome with
  | false => exact hforget s false
  | true =>
      cases hunlink : s.tree.unlink (cfg.filePath k) with
      | none => rfl
      | some tree => exact hforget { s with tree } true

theorem saveMetadata_answer (cfg : CacheConfig) (s : ContentCache) (answer : CacheAnswer) :
    (saveMetadata cfg s answer).1 = .raised ∨ (saveMetadata cfg s answer).1 = answer := by
  unfold saveMetadata
  split
  next => exact .inr rfl
  next => exact .inl rfl

theorem forgetEntry_answer (cfg : CacheConfig) (s : ContentCache) (k : CacheKey)
    (deleted : Bool) : (forgetEntry cfg s k deleted).1 = .raised ∨
      (forgetEntry cfg s k deleted).1 = .evicted deleted := by
  unfold forgetEntry
  split
  next => exact saveMetadata_answer cfg _ _
  next => exact .inr rfl

/-- `evict` returns whether a file was deleted, or raises. -/
theorem evict_answer (cfg : CacheConfig) (s : ContentCache) (k : CacheKey) :
    (evict cfg s k).1 = .raised ∨ ∃ deleted, (evict cfg s k).1 = .evicted deleted := by
  unfold evict
  dsimp only
  split
  next =>
    split
    next => exact (forgetEntry_answer cfg _ k true).imp_right (fun h => ⟨_, h⟩)
    next => exact .inl rfl
  next => exact (forgetEntry_answer cfg s k false).imp_right (fun h => ⟨_, h⟩)

theorem alone_get (hio : input.ioFails = false) :
    (getProg cfg k (fun _ => next) fail).alone s input
      = ((getCached cfg input.now s k).1.goOn next fail).alone
          (getCached cfg input.now s k).2 input := by
  unfold getProg getCached
  rw [alone_act]
  dsimp only
  cases hfile : (s.tree (cfg.filePath k)).isNone with
  | true => rfl
  | false =>
      cases hentry : s.metadata.get? k.text with
      | none => rfl
      | some entry =>
          cases hexpired : entry.isExpired input.now with
          | false =>
              simp only [hexpired]
              exact alone_save hio (.found (some (cfg.filePath k))) (by simp)
          | true =>
              simp only [hexpired, Bool.false_eq_true, ↓reduceIte]
              -- an expired entry is evicted, and `get` ends as `evict` does
              refine (alone_evict hio).trans ?_
              have hanswer := evict_answer cfg s k
              rcases hevict : evict cfg s k with ⟨answer, s'⟩
              rw [hevict] at hanswer
              rcases hanswer with hraised | ⟨deleted, hevicted⟩
              · obtain rfl : answer = .raised := hraised
                rfl
              · obtain rfl : answer = .evicted deleted := hevicted
                rfl

theorem alone_put (hio : input.ioFails = false) (content : Bytes) (expiresIn : Option Int)
    (hspace : mustEvict cfg s.metadata content.length = false) :
    (putProg cfg k content expiresIn next fail).alone s input
      = ((putCached cfg input.now expiresIn s k content).1.goOn next fail).alone
          (putCached cfg input.now expiresIn s k content).2 input := by
  unfold putProg putCached
  rw [alone_acquire]
  cases hcache : shouldCache cfg k with
  | false => rfl
  | true =>
      rw [if_pos rfl, alone_act, ensureSpace_returns hspace, hspace]
      unfold storeProg
      rw [alone_act, hio]
      cases hwrite : writeFile s.tree (cfg.filePath k) content with
      | mk written tree =>
          cases written with
          | none => rfl
          | some file =>
              refine (alone_save hio (.stored file) (by simp)).trans ?_
              rw [alone_goOn_release]
              rfl

end Alone

/-! ## §6. The order of the locks. -/

/-- The lock of the sync is requested first. -/
def CacheLock.rank : CacheLock → Nat
  | sync => 0
  | cache => 1

/-- Where an operation can go on: `_ensure_space` must evict nothing, and a manual sync must
not call the scheduled one. -/
def allowed (cfg : CacheConfig) : CachePoint → ContentCache → Prop
  | .plain, _ => True
  | .ensureSpace neededBytes, s => mustEvict cfg s.metadata neededBytes = false
  | .delegate, _ => False

section Order

variable {cfg : CacheConfig} {held : List CacheLock} {k : CacheKey} {next fail : CacheProg}

/-- The program keeps the order of the locks. -/
abbrev Ordered (cfg : CacheConfig) (prog : CacheProg) (held : List CacheLock) : Prop :=
  Disciplined (allowed cfg) CacheLock.rank prog held

theorem ordered_plain {effect : ContentCache → CacheInput → ContentCache}
    {cont : ContentCache → CacheInput → CacheProg}
    (h : ∀ s input, Ordered cfg (cont s input) held) :
    Ordered cfg (.act .plain effect cont) held :=
  fun s input => ⟨fun _ => h s input, fun hno => absurd trivial hno⟩

theorem ordered_release {l : CacheLock} (h : Ordered cfg next held) :
    Ordered cfg (.release l next) (l :: held) :=
  ⟨held, rfl, h⟩

theorem ordered_save (hnext : Ordered cfg next held) (hfail : Ordered cfg fail held) :
    Ordered cfg (saveProg cfg next fail) held := by
  refine ordered_plain (fun s input => ?_)
  split
  next => exact hfail
  next => exact hnext

theorem ordered_store {content : Bytes} {entry : CacheEntry}
    (hnext : Ordered cfg next held) (hfail : Ordered cfg fail held) :
    Ordered cfg (storeProg cfg k content entry next fail) held := by
  refine ordered_plain (fun s input => ?_)
  split
  next => exact hfail
  next => exact ordered_plain (fun s input => ordered_save hnext hfail)

/-- At most the lock of the sync is held. -/
def OutsideCache (held : List CacheLock) : Prop := CacheLock.cache ∉ held

theorem OutsideCache.rank_lt (h : OutsideCache held) :
    ∀ l ∈ held, CacheLock.rank l < CacheLock.rank .cache := by
  intro l hl
  cases l with
  | sync => decide
  | cache => exact absurd hl h

variable (hheld : OutsideCache held)
include hheld

theorem ordered_evict (hnext : Ordered cfg next held) (hfail : Ordered cfg fail held) :
    Ordered cfg (evictProg cfg k next fail) held := by
  refine ⟨hheld.rank_lt, ordered_plain (fun s input => ?_)⟩
  split
  next => exact ordered_release hfail
  next =>
    refine ordered_plain (fun s input => ?_)
    split
    next => exact ordered_save (ordered_release hnext) (ordered_release hfail)
    next => exact ordered_release hnext

theorem ordered_get {next : Bool → CacheProg} (hnext : ∀ found, Ordered cfg (next found) held)
    (hfail : Ordered cfg fail held) : Ordered cfg (getProg cfg k next fail) held := by
  refine ordered_plain (fun s input => ?_)
  split
  next => exact hnext false
  next =>
    split
    next => exact hnext true
    next =>
      split
      next => exact ordered_evict hheld (hnext false) hfail
      next => exact ordered_save (hnext true) hfail

/-- `put` keeps the order where it must evict nothing, and waits for itself where it must. -/
theorem ordered_put {content : Bytes} {expiresIn : Option Int} (hnext : Ordered cfg next held)
    (hfail : Ordered cfg fail held) :
    Ordered cfg (putProg cfg k content expiresIn next fail) held := by
  refine ⟨hheld.rank_lt, ?_⟩
  split
  next =>
    refine fun s input => ⟨fun hspace => ?_, fun hevict => ?_⟩
    -- there is space, or nothing may go: the file is stored
    · show Ordered cfg (ensureSpace cfg s.metadata content.length _ _) _
      rw [ensureSpace_returns hspace]
      exact ordered_store (ordered_release hnext) (ordered_release hfail)
    -- the lock that `evict` requests is the one that `put` holds
    · obtain ⟨rest, hrest⟩ := ensureSpace_waits (Bool.eq_true_of_not_eq_false hevict)
      exact ⟨.cache, List.mem_cons_self, rest, hrest⟩
  next => exact ordered_release hfail

theorem ordered_evictAll (hnext : Ordered cfg next held) (hfail : Ordered cfg fail held) :
    ∀ keys, Ordered cfg (evictAll cfg next fail keys) held
  | [] => hnext
  | _ :: keys => ordered_evict hheld (ordered_evictAll hnext hfail keys) hfail

theorem ordered_clear {category : Option (List Char)} (hnext : Ordered cfg next held)
    (hfail : Ordered cfg fail held) : Ordered cfg (clear cfg category next fail) held :=
  ordered_plain (fun _ _ => ordered_evictAll hheld hnext hfail _)

theorem ordered_clearBefore {force : Bool} {categories : List (List Char)}
    (hnext : Ordered cfg next held) (hfail : Ordered cfg fail held) :
    Ordered cfg (clearBefore cfg force categories next fail) held := by
  have hcategories : ∀ categories,
      Ordered cfg (clearCategories cfg next fail categories) held := by
    intro categories
    induction categories with
    | nil => exact hnext
    | cons category categories ih => exact ordered_clear hheld ih hfail
  unfold clearBefore
  split
  next =>
    split
    next => exact hcategories categories
    next => exact ordered_clear hheld hnext hfail
  next => exact hnext

theorem ordered_syncFile (hnext : Ordered cfg next held) (hfail : Ordered cfg fail held) :
    Ordered cfg (syncFile cfg k next fail) held := by
  refine ordered_get hheld (fun cached => ?_) hfail
  split
  next => exact hnext
  next =>
    refine ordered_plain (fun s input => ?_)
    split
    next => exact hnext
    next => exact hfail
    next => exact ordered_put hheld hnext hnext

theorem ordered_syncFiles (hnext : Ordered cfg next held) (hfail : Ordered cfg fail held) :
    ∀ keys, Ordered cfg (syncFiles cfg next fail keys) held
  | [] => hnext
  | _ :: keys => ordered_syncFile hheld (ordered_syncFiles hnext hfail keys) hfail

theorem ordered_syncListed {choose : List FileInfo → List CacheKey}
    (hnext : Ordered cfg next held) (hfail : Ordered cfg fail held) :
    Ordered cfg (syncListed cfg choose next fail) held := by
  refine ordered_plain (fun s input => ?_)
  split
  next => exact hnext
  next => exact hfail
  next => exact ordered_syncFiles hheld hnext hfail _

theorem ordered_syncByPolicy (hnext : Ordered cfg next held) (hfail : Ordered cfg fail held) :
    Ordered cfg (syncByPolicy cfg next fail) held := by
  have hboot {next : CacheProg} (hnext : Ordered cfg next held) :
      Ordered cfg (syncBootloaders cfg next fail) held :=
    ordered_syncFiles hheld hnext hfail _
  have hlisted {choose : List FileInfo → List CacheKey} :
      Ordered cfg (syncListed cfg choose next fail) held :=
    ordered_syncListed hheld hnext hfail
  unfold syncByPolicy
  cases cfg.policy with
  | minimal => exact hboot hnext
  | assigned => exact hboot hlisted
  | mirror => exact hboot hlisted
  | pattern => exact hboot hlisted
  | other => exact hboot hnext

end Order

/-- A sync requests its lock first of all, and a manual sync then requests it again. -/
theorem ordered_program (cfg : CacheConfig) (op : CacheOperation) :
    Ordered cfg (op.program cfg) [] := by
  have hdone : Ordered cfg .done [] := rfl
  have hnone : OutsideCache [] := List.not_mem_nil
  have hsync : OutsideCache [.sync] := by simp [OutsideCache]
  have hended : Ordered cfg (.release .sync .done) [.sync] := ordered_release hdone
  have hfree : ∀ l ∈ ([] : List CacheLock), CacheLock.rank l < CacheLock.rank .sync :=
    fun l hl => absurd hl List.not_mem_nil
  cases op with
  | get k => exact ordered_get hnone (fun _ => hdone) hdone
  | put k content expiresIn => exact ordered_put hnone hdone hdone
  | evict k => exact ordered_evict hnone hdone hdone
  | evictExpired => exact ordered_plain (fun _ _ => ordered_evictAll hnone hdone hdone _)
  | clear category => exact ordered_clear hnone hdone hdone
  | runScheduledSync => exact ⟨hfree, ordered_syncByPolicy hsync hended hended⟩
  | runManualSync force categories =>
      refine ⟨hfree, ordered_clearBefore hsync (fun s input => ?_) hended⟩
      -- it is never allowed to go on from there
      exact ⟨False.elim, fun _ => ⟨.sync, List.mem_cons_self, _, rfl⟩⟩

/-! ## §7. The runs in which no task waits for itself. -/

/-- **NO TASK WAITS FOR ITSELF**, and all tasks complete, in exactly those runs in which no
`put` finds that it must evict and no manual sync comes to call the scheduled one: whatever is
cached, and however the tasks take turns. -/
theorem no_self_wait_iff (cfg : CacheConfig) (s : ContentCache)
    (turns : List (TaskTurn CacheOperation CacheInput)) :
    Always (TaskSystem.exec (CacheOperation.program cfg)) Calm { shared := s } turns ↔
      Along (TaskSystem.exec (CacheOperation.program cfg)) (Guarded (allowed cfg))
        { shared := s } turns := by
  have hrank : ∀ l, CacheLock.rank l ≤ 1 := by
    intro l
    cases l <;> decide
  exact calm_iff (ordered_program cfg) hrank s turns

/-- A cache of one gigabyte. -/
def gigabyteConfig : CacheConfig where
  cacheDir := agentCache
  maxSizeBytes := 1073741824
  policy := .assigned
  dumps := fun _ => []

def diskImage : CacheKey := ⟨"images".toList, "disk.img".toList⟩

/-- An image of one gigabyte fills it. -/
def fullCache : ContentCache where
  tree := fun p =>
    if p = gigabyteConfig.filePath diskImage then some (.file (List.replicate 1073741824 0))
    else if AbsPath.Under p (gigabyteConfig.filePath diskImage) then some .dir
    else none
  metadata := ⟨[⟨"disk.img".toList, "images".toList, 1073741824, 0, 0, none⟩], by simp⟩

/-- A `put` of one byte into a cache that is full, and any manual sync. -/
theorem put_and_manual_sync_wait :
    ¬ Always (TaskSystem.exec (CacheOperation.program gigabyteConfig)) Calm
        { shared := fullCache }
        [.start (.put ⟨"templates".toList, "ks.cfg".toList⟩ [0] none),
         .step 0 { now := 1 }, .step 0 { now := 1 }] ∧
      ¬ Always (TaskSystem.exec (CacheOperation.program gigabyteConfig)) Calm
        { shared := fullCache }
        [.start (.runManualSync false []), .step 0 { now := 1 }, .step 0 { now := 1 }] := by
  have hno {sys : TaskSystem CacheLock ContentCache CacheInput CachePoint}
      (hwaits : sys.tasks.any LockTask.selfWaits = true) : ¬ Calm sys := by
    intro hcalm
    obtain ⟨t, ht, htwaits⟩ := List.any_eq_true.mp hwaits
    rw [hcalm.noSelfWait t ht] at htwaits
    exact Bool.noConfusion htwaits
  refine ⟨fun h => ?_, fun h => ?_⟩
  · exact hno (by decide) h.last
  · exact hno (by decide) h.last

end PureBoot.Agent
