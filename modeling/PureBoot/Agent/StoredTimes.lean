/-
  PureBoot.Agent.StoredTimes — the tables of an agent AS THEY ARE STORED, with times as text.

  Embeds `agent/queue.py: SyncQueue` and, of `agent/cache/state_cache.py`, what
  `NodeStateCache` stores and selects.  A column with a time holds `isoformat()` of a time of
  UTC.  SQLite compares such columns byte by byte, in `ORDER BY created_at` as in
  `expires_at < ?`, and gives rows with one value in the order of their insertion.

  Main results:
    * `run_mirrors` — the stored queue is that of `Agent/Queue.lean`, with numbers for times;
    * `peek_mirrors` — and so is what `peek` returns;
    * `stored_times_sort` — byte order is time order, so `peek` returns the oldest pending
      items, and the expired nodes are selected.
-/
import Mathlib.Data.List.Sort
import PureBoot.Agent.StateCache
import PureBoot.Lib.IsoText
import PureBoot.Lib.Mirror

namespace PureBoot.Agent

open PureBoot.Lib PureBoot.Web PureBoot.Lifecycle

/-! ## §1. The rows of the queue. -/

/-- `QueueItem`, with its times in the form `τ`: a `datetime`, or a text in the table. -/
structure TimedItem (τ : Type*) where
  id : String
  itemType : ItemType
  payload : Payload
  createdAt : τ
  attempts : Nat := 0
  lastAttemptAt : Option τ := none
  lastError : Option String := none
  status : Status := .pending

/-- The same item with its times in another form. -/
def TimedItem.mapTimes {τ τ' : Type*} (f : τ → τ') (item : TimedItem τ) : TimedItem τ' where
  id := item.id
  itemType := item.itemType
  payload := item.payload
  createdAt := f item.createdAt
  attempts := item.attempts
  lastAttemptAt := item.lastAttemptAt.map f
  lastError := item.lastError
  status := item.status

/-- The parameters of the `INSERT` of `enqueue`. -/
def itemToRow : TimedItem Datetime → TimedItem (List Char) := TimedItem.mapTimes isoformat

/-- `datetime.fromisoformat(text) if text else None`. -/
def timeOrNone : Option (List Char) → Option (Option Datetime)
  | none | some [] => some none
  | some text => (fromIsoformat text).map some

/-- `_row_to_item`; `none` is a text that is no time. -/
def rowToItem (row : TimedItem (List Char)) : Option (TimedItem Datetime) := do
  let createdAt ← fromIsoformat row.createdAt
  let lastAttemptAt ← timeOrNone row.lastAttemptAt
  return {
    id := row.id
    itemType := row.itemType
    payload := row.payload
    createdAt
    attempts := row.attempts
    lastAttemptAt
    lastError := row.lastError
    status := row.status }

/-- The `sync_queue` table. -/
abbrev QueueTable : Type := Table (TimedItem.id : TimedItem (List Char) → String)

/-- `LIMIT`, of a number of 64 bits; there is none below zero. -/
def sqlLimit {α : Type*} (limit : Int) (l : List α) : List α :=
  if limit < 0 then l else l.take limit.toNat

namespace QueueTable

/-- `enqueue`; `none` is the integrity error of an id already in the table. -/
def enqueue (q : QueueTable) (uuid : Uuid) (item : TimedItem Datetime) :
    Option (String × QueueTable) :=
  let item := if item.id = "" then { item with id := uuid.text } else item
  (q.insert? (itemToRow item)).map (fun q' => (item.id, q'))

/-- `SELECT … WHERE status = 'pending' ORDER BY created_at ASC LIMIT ?`. -/
def selectPending (q : QueueTable) (limit : Int) : List (TimedItem (List Char)) :=
  sqlLimit limit ((q.rows.filter (fun r => r.status = .pending)).insertionSort
    (fun r r' => byteText r.createdAt ≤ byteText r'.createdAt))

/-- `peek`. -/
def peek (q : QueueTable) (limit : Int) : Option (List (TimedItem Datetime)) :=
  (q.selectPending limit).mapM rowToItem

/-- `dequeue`. -/
def dequeue (q : QueueTable) (queueId : String) : QueueTable :=
  q.delete (fun r => r.id = queueId)

/-- `UPDATE sync_queue SET … WHERE id = ?`. -/
def set (queueId : String) (f : TimedItem (List Char) → TimedItem (List Char))
    (r : TimedItem (List Char)) : TimedItem (List Char) :=
  if r.id = queueId then { f r with id := r.id } else r

theorem set_id (queueId : String) (f : TimedItem (List Char) → TimedItem (List Char))
    (r : TimedItem (List Char)) : (set queueId f r).id = r.id := by
  unfold set
  split <;> rfl

/-- `mark_processing`. -/
def markProcessing (q : QueueTable) (queueId : String) (now : Datetime) : QueueTable :=
  q.update (set queueId (fun r =>
    { r with
      status := .processing, lastAttemptAt := some (isoformat now), attempts := r.attempts + 1 }))
    (set_id queueId _)

/-- `mark_pending`. -/
def markPending (q : QueueTable) (queueId : String) : QueueTable :=
  q.update (set queueId (fun r => { r with status := .pending })) (set_id queueId _)

/-- `mark_failed`. -/
def markFailed (q : QueueTable) (queueId : String) (error : String) : QueueTable :=
  q.update (set queueId (fun r => { r with status := .failed, lastError := some error }))
    (set_id queueId _)

/-- `clear_failed`. -/
def clearFailed (q : QueueTable) : QueueTable :=
  q.delete (fun r => r.status = .failed)

/-- What `retry_failed` does to a row. -/
def retried (r : TimedItem (List Char)) : TimedItem (List Char) :=
  if r.status = .failed then { r with status := .pending, lastError := none } else r

theorem retried_id (r : TimedItem (List Char)) : (retried r).id = r.id := by
  unfold retried
  split <;> rfl

/-- `retry_failed`. -/
def retryFailed (q : QueueTable) : QueueTable := q.update retried retried_id

end QueueTable

/-- A call that changes the queue. -/
inductive QueueCall where
  | enqueue (uuid : Uuid) (item : TimedItem Datetime)
  | dequeue (queueId : String)
  | markProcessing (queueId : String) (now : Datetime)
  | markPending (queueId : String)
  | markFailed (queueId : String) (error : String)
  | clearFailed
  | retryFailed

/-- The table after a call. -/
def QueueTable.perform (q : QueueTable) : QueueCall → QueueTable
  | .enqueue uuid item => ((q.enqueue uuid item).map Prod.snd).getD q
  | .dequeue queueId => q.dequeue queueId
  | .markProcessing queueId now => q.markProcessing queueId now
  | .markPending queueId => q.markPending queueId
  | .markFailed queueId error => q.markFailed queueId error
  | .clearFailed => q.clearFailed
  | .retryFailed => q.retryFailed

/-! ## §2. The queue with numbers for times. -/

/-- An item with its times in microseconds since the first of January of year 1. -/
def TimedItem.inMicros (item : TimedItem Datetime) : QueueItem where
  id := item.id
  itemType := item.itemType
  payload := item.payload
  createdAt := item.createdAt.micros
  attempts := item.attempts
  lastAttemptAt := item.lastAttemptAt.map Datetime.micros
  lastError := item.lastError
  status := item.status

/-- The call, on that queue. -/
def SyncQueue.perform (q : SyncQueue) : QueueCall → SyncQueue
  | .enqueue uuid item => ((q.enqueue uuid item.inMicros).map Prod.snd).getD q
  | .dequeue queueId => q.dequeue queueId
  | .markProcessing queueId now => q.markProcessing queueId now.micros
  | .markPending queueId => q.markPending queueId
  | .markFailed queueId error => q.markFailed queueId error
  | .clearFailed => q.clearFailed
  | .retryFailed => q.retryFailed

/-- The two queues hold the same items. -/
abbrev SameItems (q : QueueTable) (q' : SyncQueue) : Prop :=
  Mirrors itemToRow TimedItem.inMicros q q'

theorem timeOrNone_map (t : Option Datetime) : timeOrNone (t.map isoformat) = some t := by
  cases t with
  | none => rfl
  | some t =>
      have hread := fromIsoformat_isoformat t
      show timeOrNone (some (isoformat t)) = some (some t)
      cases htext : isoformat t with
      | nil =>
          -- no time is the empty text, which would be read as `None`
          rw [htext] at hread
          cases hread
      | cons c text =>
          show (fromIsoformat (c :: text)).map some = some (some t)
          rw [← htext, hread]
          rfl

/-- **A ROW** is read as the item that was written. -/
theorem rowToItem_itemToRow (item : TimedItem Datetime) :
    rowToItem (itemToRow item) = some item := by
  unfold rowToItem itemToRow TimedItem.mapTimes
  dsimp only
  rw [fromIsoformat_isoformat, timeOrNone_map]
  rfl

/-- An item gets an id if it has none. -/
theorem SameItems.enqueue {q : QueueTable} {q' : SyncQueue} (h : SameItems q q') (uuid : Uuid)
    (item : TimedItem Datetime) :
    SameItems (q.perform (.enqueue uuid item)) (q'.perform (.enqueue uuid item)) := by
  have hrow : (q.enqueue uuid item).map Prod.snd = q.insert? (itemToRow
      (if item.id = "" then { item with id := uuid.text } else item)) := by
    unfold QueueTable.enqueue
    rw [Option.map_map]
    exact congrFun Option.map_id _
  -- the id does not depend on the form of the times
  have hnumbers : (if item.inMicros.id = "" then { item.inMicros with id := uuid.text }
      else item.inMicros)
        = (if item.id = "" then { item with id := uuid.text } else item).inMicros := by
    show (if item.id = "" then _ else _) = _
    split <;> rfl
  have hitem : (q'.enqueue uuid item.inMicros).map Prod.snd
      = q'.insert? (if item.id = "" then { item with id := uuid.text } else item).inMicros := by
    unfold SyncQueue.enqueue
    dsimp only
    rw [Option.map_map, hnumbers]
    exact congrFun Option.map_id _
  show SameItems (((q.enqueue uuid item).map Prod.snd).getD q)
    (((q'.enqueue uuid item.inMicros).map Prod.snd).getD q')
  rw [hrow, hitem]
  exact h.insert? (fun _ => rfl) _

/-- The row with an id is set. -/
theorem SameItems.set {q : QueueTable} {q' : SyncQueue} (h : SameItems q q') (queueId : String)
    {f : TimedItem (List Char) → TimedItem (List Char)} {f' : QueueItem → QueueItem}
    (change : TimedItem Datetime → TimedItem Datetime)
    (hf : ∀ item, f (itemToRow item) = itemToRow (change item))
    (hf' : ∀ item, f' item.inMicros = (change item).inMicros) :
    SameItems (q.update (QueueTable.set queueId f) (QueueTable.set_id queueId f))
      (q'.update (SyncQueue.set queueId f') (SyncQueue.set_id queueId f')) := by
  refine h.update (QueueTable.set_id queueId f) (SyncQueue.set_id queueId f') (fun item =>
    if item.id = queueId then { change item with id := item.id } else item) ?_ ?_
  · intro item
    show (if item.id = queueId then _ else _) = _
    rw [hf]
    split <;> rfl
  · intro item
    show (if item.id = queueId then _ else _) = _
    rw [hf']
    split <;> rfl

/-- **EVERY CALL** does the same to both queues. -/
theorem SameItems.perform {q : QueueTable} {q' : SyncQueue} (h : SameItems q q')
    (call : QueueCall) : SameItems (q.perform call) (q'.perform call) := by
  cases call with
  | enqueue uuid item => exact h.enqueue uuid item
  | dequeue queueId => exact h.delete (fun _ => rfl)
  | markProcessing queueId now =>
      exact h.set queueId (fun item =>
        { item with
          status := .processing, lastAttemptAt := some now, attempts := item.attempts + 1 })
        (fun _ => rfl) (fun _ => rfl)
  | markPending queueId =>
      exact h.set queueId (fun item => { item with status := .pending })
        (fun _ => rfl) (fun _ => rfl)
  | markFailed queueId error =>
      exact h.set queueId (fun item => { item with status := .failed, lastError := some error })
        (fun _ => rfl) (fun _ => rfl)
  | clearFailed => exact h.delete (fun _ => rfl)
  | retryFailed =>
      refine h.update QueueTable.retried_id SyncQueue.retried_id (fun item =>
        if item.status = .failed then { item with status := .pending, lastError := none }
        else item) ?_ ?_
      · intro item
        show (if item.status = .failed then _ else _) = _
        split <;> rfl
      · intro item
        show (if item.status = .failed then _ else _) = _
        split <;> rfl

/-- **THE STORED QUEUE** is the queue with numbers for times, after any calls. -/
theorem run_mirrors (calls : List QueueCall) :
    SameItems (run QueueTable.perform .empty calls) (run SyncQueue.perform .empty calls) := by
  have hrun : ∀ {q : QueueTable} {q' : SyncQueue}, SameItems q q' →
      SameItems (run QueueTable.perform q calls) (run SyncQueue.perform q' calls) := by
    induction calls with
    | nil => exact id
    | cons call calls ih => exact fun h => ih (h.perform call)
  exact hrun .empty

/-! ## §3. `peek`. -/

/-- The oldest pending items, the oldest first. -/
structure OldestFirst (limit : Int) (pending items : List (TimedItem Datetime)) : Prop where
  sorted : items.Pairwise (fun a b => a.createdAt ≤ b.createdAt)
  oldest : ∃ rest, pending.Perm (items ++ rest) ∧
    ∀ a ∈ items, ∀ b ∈ rest, a.createdAt ≤ b.createdAt
  number : items.length = if limit < 0 then pending.length else min limit.toNat pending.length

/-- **`peek`** returns the oldest pending items of the table, the oldest first. -/
def PeeksOldestFirst (q : QueueTable) : Prop :=
  ∃ stored, q.rows.mapM rowToItem = some stored ∧ ∀ limit, ∃ items, q.peek limit = some items ∧
    OldestFirst limit (stored.filter (fun item => item.status = .pending)) items

theorem map_sqlLimit {α β : Type*} (f : α → β) (limit : Int) (l : List α) :
    sqlLimit limit (l.map f) = (sqlLimit limit l).map f := by
  unfold sqlLimit
  split
  next => rfl
  next => exact List.map_take.symm

theorem sqlLimit_natCast {α : Type*} (limit : Nat) (l : List α) :
    sqlLimit limit l = l.take limit := by
  unfold sqlLimit
  rw [if_neg (Int.not_lt.mpr (Int.natCast_nonneg limit)), Int.toNat_natCast]

/-- Byte order, of texts that need not differ. -/
theorem isoformat_le_iff (s t : Datetime) :
    byteText (isoformat s) ≤ byteText (isoformat t) ↔ s ≤ t := by
  show ¬ byteText (isoformat t) < byteText (isoformat s) ↔ _
  rw [isoformat_lt_iff, not_lt]

/-- The items that `peek` returns. -/
def peeked (limit : Int) (l : List (TimedItem Datetime)) : List (TimedItem Datetime) :=
  sqlLimit limit ((l.filter (fun item => item.status = .pending)).insertionSort
    (fun a b => a.createdAt ≤ b.createdAt))

/-- **THE ORDER OF THE TEXTS** is that of the times. -/
theorem peek_eq {q : QueueTable} {l : List (TimedItem Datetime)} (h : q.rows = l.map itemToRow)
    (limit : Int) : q.peek limit = some (peeked limit l) := by
  have hpending : q.rows.filter (fun r => r.status = .pending)
      = (l.filter (fun item => item.status = .pending)).map itemToRow := by
    rw [h]
    exact filter_map_of (fun _ => rfl) l
  have hselect : q.selectPending limit = (peeked limit l).map itemToRow := by
    unfold QueueTable.selectPending peeked
    rw [hpending, ← map_sqlLimit, List.map_insertionSort _ (fun r r' =>
      byteText r.createdAt ≤ byteText r'.createdAt) itemToRow]
    intro a _ b _
    exact (isoformat_le_iff a.createdAt b.createdAt).symm
  unfold QueueTable.peek
  rw [hselect]
  exact mapM_map_eq_some rowToItem_itemToRow _

/-- What is taken of a sorted list. -/
theorem oldestFirst_peeked (limit : Int) (l : List (TimedItem Datetime)) :
    OldestFirst limit (l.filter (fun item => item.status = .pending)) (peeked limit l) := by
  unfold peeked
  generalize l.filter (fun item => item.status = .pending) = pending
  have hperm := List.perm_insertionSort (fun a b : TimedItem Datetime =>
    a.createdAt ≤ b.createdAt) pending
  have hsorted := List.pairwise_insertionSort (fun a b : TimedItem Datetime =>
    a.createdAt ≤ b.createdAt) pending
  -- what is taken and what is left are the sorted list
  generalize pending.insertionSort (fun a b => a.createdAt ≤ b.createdAt) = sorted at hperm hsorted
  unfold sqlLimit
  by_cases hlimit : limit < 0
  · rw [if_pos hlimit]
    refine ⟨hsorted, ⟨[], ?_, fun _ _ _ hb => (nomatch hb)⟩, ?_⟩
    · rw [List.append_nil]
      exact hperm.symm
    · rw [if_pos hlimit, hperm.length_eq]
  · rw [if_neg hlimit]
    refine ⟨hsorted.sublist (List.take_sublist _ _), ⟨sorted.drop limit.toNat, ?_, ?_⟩, ?_⟩
    · rw [List.take_append_drop]
      exact hperm.symm
    · rw [← List.take_append_drop limit.toNat sorted] at hsorted
      exact (List.pairwise_append.mp hsorted).2.2
    · rw [if_neg hlimit, List.length_take, hperm.length_eq]

/-- **THE STORED QUEUE** gives what the queue with numbers for times gives. -/
theorem peek_mirrors {q : QueueTable} {q' : SyncQueue} (h : SameItems q q') (limit : Nat) :
    (q.peek limit).map (List.map TimedItem.inMicros) = some (q'.peek limit) := by
  obtain ⟨l, hl, hl'⟩ := h
  have hpending : q'.rows.filter (fun r => r.status = .pending)
      = (l.filter (fun item => item.status = .pending)).map TimedItem.inMicros := by
    rw [hl']
    exact filter_map_of (fun _ => rfl) l
  have hsort := List.map_insertionSort (fun a b : TimedItem Datetime => a.createdAt ≤ b.createdAt)
    (fun r r' : QueueItem => r.createdAt ≤ r'.createdAt) TimedItem.inMicros
    (l.filter (fun item => item.status = .pending)) (fun _ _ _ _ => Iff.rfl)
  rw [peek_eq hl, Option.map_some]
  unfold peeked SyncQueue.peek
  rw [sqlLimit_natCast, hpending, ← hsort, List.map_take]

theorem SameItems.peeksOldestFirst {q : QueueTable} {q' : SyncQueue} (h : SameItems q q') :
    PeeksOldestFirst q := by
  obtain ⟨l, hl, -⟩ := h
  refine ⟨l, ?_, fun limit => ⟨peeked limit l, peek_eq hl limit, oldestFirst_peeked limit l⟩⟩
  rw [hl]
  exact mapM_map_eq_some rowToItem_itemToRow l

/-! ## §4. The rows of the cache. -/

/-- `CachedNode`, with its times in the form `τ`. -/
structure TimedNode (τ : Type*) where
  macAddress : String
  nodeId : Option String := none
  state : String
  workflowId : Option String := none
  groupId : Option String := none
  ipAddress : Option String := none
  vendor : Option String := none
  model : Option String := none
  cachedAt : τ
  expiresAt : τ
  rawData : Dict := []

/-- The parameters of the `INSERT OR REPLACE` of `set_node`. -/
def nodeToRow (node : TimedNode Datetime) : TimedNode (List Char) where
  macAddress := node.macAddress
  nodeId := node.nodeId
  state := node.state
  workflowId := node.workflowId
  groupId := node.groupId
  ipAddress := node.ipAddress
  vendor := node.vendor
  model := node.model
  cachedAt := isoformat node.cachedAt
  expiresAt := isoformat node.expiresAt
  rawData := node.rawData

/-- The `CachedNode` that is made of a row. -/
def rowToNode (row : TimedNode (List Char)) : Option (TimedNode Datetime) := do
  let cachedAt ← fromIsoformat row.cachedAt
  let expiresAt ← fromIsoformat row.expiresAt
  return {
    macAddress := row.macAddress
    nodeId := row.nodeId
    state := row.state
    workflowId := row.workflowId
    groupId := row.groupId
    ipAddress := row.ipAddress
    vendor := row.vendor
    model := row.model
    cachedAt
    expiresAt
    rawData := row.rawData }

/-- `is_expired`. -/
def TimedNode.isExpired (node : TimedNode Datetime) (now : Datetime) : Bool :=
  node.expiresAt < now

/-- The `nodes` table. -/
abbrev NodesTable : Type := Table (TimedNode.macAddress : TimedNode (List Char) → String)

/-- What `get_stats` returns. -/
structure CacheStats where
  totalEntries : Nat
  expiredEntries : Nat
  validEntries : Int
  oldestEntry : Option (List Char)
  deriving DecidableEq

/-- `MIN` of a column of texts. -/
def sqlMin : List (List Char) → Option (List Char)
  | [] => none
  | t :: ts => some (ts.foldl (fun least u => if byteText u < byteText least then u else least) t)

namespace NodesTable

/-- `expires_at < ?`. -/
def expires (now : Datetime) (row : TimedNode (List Char)) : Bool :=
  byteText row.expiresAt < byteText (isoformat now)

/-- `set_node`, of the node it stores. -/
def setNode (t : NodesTable) (node : TimedNode Datetime) : NodesTable := t.upsert (nodeToRow node)

/-- `invalidate`. -/
def invalidate (t : NodesTable) (mac : String) : Bool × NodesTable :=
  let mac := normalizeMac mac
  (t.rows.any (fun row => row.macAddress = mac), t.delete (fun row => row.macAddress = mac))

/-- `invalidate_expired`. -/
def invalidateExpired (t : NodesTable) (now : Datetime) : Nat × NodesTable :=
  (t.rows.countP (expires now), t.delete (expires now))

/-- `get_stats`. -/
def getStats (t : NodesTable) (now : Datetime) : CacheStats :=
  let total := t.rows.length
  let expired := t.rows.countP (expires now)
  { totalEntries := total
    expiredEntries := expired
    validEntries := (total : Int) - expired
    oldestEntry := sqlMin (t.rows.map TimedNode.cachedAt) }

/-- `clear`. -/
def clear (t : NodesTable) : Nat × NodesTable := (t.rows.length, t.delete (fun _ => true))

end NodesTable

/-- A call that changes the cache. -/
inductive NodesCall where
  | setNode (node : TimedNode Datetime)
  | invalidate (mac : String)
  | invalidateExpired (now : Datetime)
  | clear

/-- The table after a call. -/
def NodesTable.perform (t : NodesTable) : NodesCall → NodesTable
  | .setNode node => t.setNode node
  | .invalidate mac => (t.invalidate mac).2
  | .invalidateExpired now => (t.invalidateExpired now).2
  | .clear => t.clear.2

/-! ## §5. The cache with numbers for times. -/

/-- A node with its times in microseconds since the first of January of year 1. -/
def TimedNode.inMicros (node : TimedNode Datetime) : CachedNode where
  macAddress := node.macAddress
  nodeId := node.nodeId
  state := node.state
  workflowId := node.workflowId
  groupId := node.groupId
  ipAddress := node.ipAddress
  vendor := node.vendor
  model := node.model
  cachedAt := node.cachedAt.micros
  expiresAt := node.expiresAt.micros
  rawData := node.rawData

/-- The call, on that cache. -/
def StateCache.perform (cache : StateCache) : NodesCall → StateCache
  | .setNode node => cache.upsert node.inMicros
  | .invalidate mac => cache.delete (fun node => node.macAddress = normalizeMac mac)
  | .invalidateExpired now => cache.delete (fun node => node.isExpired now.micros)
  | .clear => cache.delete (fun _ => true)

/-- The two caches hold the same nodes. -/
abbrev SameNodes (t : NodesTable) (cache : StateCache) : Prop :=
  Mirrors nodeToRow TimedNode.inMicros t cache

/-- **A ROW** is read as the node that was written. -/
theorem rowToNode_nodeToRow (node : TimedNode Datetime) :
    rowToNode (nodeToRow node) = some node := by
  unfold rowToNode nodeToRow
  dsimp only
  rw [fromIsoformat_isoformat, fromIsoformat_isoformat]
  rfl

/-- **WHAT IS SELECTED** has expired. -/
theorem expires_nodeToRow (now : Datetime) (node : TimedNode Datetime) :
    NodesTable.expires now (nodeToRow node) = node.isExpired now :=
  decide_eq_decide.mpr (isoformat_lt_iff node.expiresAt now)

theorem isExpired_inMicros (now : Datetime) (node : TimedNode Datetime) :
    node.inMicros.isExpired now.micros = node.isExpired now :=
  decide_eq_decide.mpr (Int.ofNat_lt)

/-- **EVERY CALL** does the same to both caches. -/
theorem SameNodes.perform {t : NodesTable} {cache : StateCache} (h : SameNodes t cache)
    (call : NodesCall) : SameNodes (t.perform call) (cache.perform call) := by
  cases call with
  | setNode node => exact h.upsert (fun _ => rfl) node
  | invalidate mac => exact h.delete (fun _ => rfl)
  | invalidateExpired now =>
      exact h.delete (fun node =>
        (expires_nodeToRow now node).trans (isExpired_inMicros now node).symm)
  | clear => exact h.delete (fun _ => rfl)

/-! ## §6. Expired nodes. -/

/-- `invalidate_expired` and `get_stats` find the expired nodes among those stored. -/
structure SelectsExpired (t : NodesTable) (stored : List (TimedNode Datetime))
    (now : Datetime) : Prop where
  removed : (t.invalidateExpired now).1 = stored.countP (fun node => node.isExpired now)
  kept : (t.invalidateExpired now).2.rows.mapM rowToNode
    = some (stored.filter (fun node => !node.isExpired now))
  counted : t.getStats now =
    { totalEntries := stored.length
      expiredEntries := stored.countP (fun node => node.isExpired now)
      validEntries := stored.countP (fun node => !node.isExpired now)
      oldestEntry := (stored.map TimedNode.cachedAt).min?.map isoformat }

/-- **EXPIRED NODES** of the table are selected, and no others, at any time. -/
def ExpiresExactly (t : NodesTable) : Prop :=
  ∃ stored, t.rows.mapM rowToNode = some stored ∧ ∀ now, SelectsExpired t stored now

theorem foldl_isoformat (t : Datetime) (ts : List Datetime) :
    (ts.map isoformat).foldl
        (fun least u => if byteText u < byteText least then u else least) (isoformat t)
      = isoformat (ts.foldl min t) := by
  induction ts generalizing t with
  | nil => rfl
  | cons u ts ih =>
      have hmin : (if byteText (isoformat u) < byteText (isoformat t) then isoformat u
          else isoformat t) = isoformat (min t u) := by
        rw [if_congr (isoformat_lt_iff u t) rfl rfl]
        split
        next hlt => rw [min_eq_right hlt.le]
        next hge => rw [min_eq_left (not_lt.mp hge)]
      rw [List.map_cons, List.foldl_cons, hmin, ih, List.foldl_cons]

theorem sqlMin_isoformat (ts : List Datetime) :
    sqlMin (ts.map isoformat) = ts.min?.map isoformat := by
  cases ts with
  | nil => rfl
  | cons t ts =>
      rw [List.min?_cons', Option.map_some]
      exact congrArg some (foldl_isoformat t ts)

theorem selectsExpired {t : NodesTable} {l : List (TimedNode Datetime)}
    (h : t.rows = l.map nodeToRow) (now : Datetime) : SelectsExpired t l now := by
  have hcount : t.rows.countP (NodesTable.expires now)
      = l.countP (fun node => node.isExpired now) := by
    rw [h, List.countP_map]
    exact List.countP_congr (fun node _ => by rw [Function.comp_apply, expires_nodeToRow])
  refine ⟨hcount, ?_, ?_⟩
  · have hkept : (t.invalidateExpired now).2.rows
        = (l.filter (fun node => !node.isExpired now)).map nodeToRow := by
      show t.rows.filter (fun row => !NodesTable.expires now row) = _
      rw [h]
      exact filter_map_of (fun node => by rw [expires_nodeToRow]) l
    rw [hkept]
    exact mapM_map_eq_some rowToNode_nodeToRow _
  · have htotal : t.rows.length = l.length := by
      rw [h, List.length_map]
    have hvalid : (l.length : Int) - l.countP (fun node => node.isExpired now)
        = l.countP (fun node => !node.isExpired now) := by
      have hsplit := List.length_eq_countP_add_countP (fun node => node.isExpired now) (l := l)
      have hnot : l.countP (fun node => decide ¬ node.isExpired now = true)
          = l.countP (fun node => !node.isExpired now) :=
        List.countP_congr (fun node _ => by simp)
      omega
    have holdest : t.rows.map TimedNode.cachedAt = (l.map TimedNode.cachedAt).map isoformat := by
      rw [h, List.map_map, List.map_map]
      rfl
    unfold NodesTable.getStats
    dsimp only
    rw [hcount, htotal, holdest, sqlMin_isoformat, hvalid]

theorem SameNodes.expiresExactly {t : NodesTable} {cache : StateCache} (h : SameNodes t cache) :
    ExpiresExactly t := by
  obtain ⟨l, hl, -⟩ := h
  refine ⟨l, ?_, fun now => selectsExpired hl now⟩
  rw [hl]
  exact mapM_map_eq_some rowToNode_nodeToRow l

/-- **STORED TIMES SORT LIKE TIMES.**  One time is before another exactly if its text is so in
byte order; so after any calls `peek` returns the oldest pending items, the oldest first, and
at any time the expired nodes, and no others, are removed and counted. -/
theorem stored_times_sort :
    (∀ s t : Datetime, s.micros < t.micros ↔ byteText (isoformat s) < byteText (isoformat t)) ∧
      (∀ calls, Always QueueTable.perform PeeksOldestFirst .empty calls) ∧
      ∀ calls, Always NodesTable.perform ExpiresExactly .empty calls := by
  refine ⟨fun s t => (isoformat_lt_iff s t).symm, fun calls => ?_, fun calls => ?_⟩
  · have hrun : Always QueueTable.perform (fun q => ∃ q', SameItems q q') .empty calls :=
      always_of_step (fun _ call ⟨q', h⟩ _ => ⟨q'.perform call, h.perform call⟩)
        ⟨.empty, .empty⟩ (along_true _ calls)
    exact hrun.mono (fun _ ⟨_, h⟩ => h.peeksOldestFirst)
  · have hrun : Always NodesTable.perform (fun t => ∃ cache, SameNodes t cache) .empty calls :=
      always_of_step (fun _ call ⟨cache, h⟩ _ => ⟨cache.perform call, h.perform call⟩)
        ⟨.empty, .empty⟩ (along_true _ calls)
    exact hrun.mono (fun _ ⟨_, h⟩ => h.expiresExactly)

end PureBoot.Agent
