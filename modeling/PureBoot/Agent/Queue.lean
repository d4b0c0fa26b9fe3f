/-
  PureBoot.Agent.Queue — the site agent's durable SYNC QUEUE.

  Embeds `agent/queue.py: SyncQueue`: one SQLite table, whose rows survive a
  restart of the agent.  Every operation is one statement that is committed
  before the operation returns, so each is a function on the table.  The one
  connection may be used by the thread that opened it alone; an operation that the
  executor of the event loop gives to another thread raises before it reads or writes
  anything (`passRaises` and `insertRaises` in `Agent/Processor.lean`).

  A point in time is the number of microseconds since the epoch; `created_at` is
  stored as an ISO text of a UTC time, which sorts like the time
  (`Agent/StoredTimes.lean`).
-/
import Mathlib.Data.List.Sort
import PureBoot.Lib.Table

namespace PureBoot.Agent

open PureBoot.Lib

/-! ## §1. Items. -/

/-- `QueueItem.status`. -/
inductive Status where
  | pending
  | processing
  | failed
  deriving DecidableEq, Repr

/-- `QueueItem.item_type`. -/
inductive ItemType where
  | registration
  | stateUpdate
  | event
  | other (name : String)
  deriving DecidableEq, Repr

/-- The keys of the payload that the agent reads; the rest goes to central as it is. -/
structure Payload where
  nodeId : Option String := none
  newState : Option String := none
  deriving DecidableEq, Repr

/-- `QueueItem`. -/
structure QueueItem where
  id : String
  itemType : ItemType
  payload : Payload
  createdAt : Nat
  attempts : Nat := 0
  lastAttemptAt : Option Nat := none
  lastError : Option String := none
  status : Status := .pending
  deriving DecidableEq, Repr

/-- `str(uuid.uuid4())`: a text that is not empty. -/
structure Uuid where
  text : String
  nonempty : text ≠ ""

/-- The `sync_queue` table. -/
abbrev SyncQueue : Type := Table QueueItem.id

/-! ## §2. Operations. -/

namespace SyncQueue

/-- `SyncQueue.initialize`: the table and its indexes are created if they are not there; no row
is touched. -/
def initializeQueue (q : SyncQueue) : SyncQueue := q

/-- `enqueue`; `none` is the integrity error of an id already in the table. -/
def enqueue (q : SyncQueue) (uuid : Uuid) (item : QueueItem) : Option (String × SyncQueue) :=
  let item := if item.id = "" then { item with id := uuid.text } else item
  (q.insert? item).map (fun q' => (item.id, q'))

/-- `peek`: pending items, oldest first.  Rows with one `created_at` come in the order
of their insertion. -/
def peek (q : SyncQueue) (limit : Nat) : List QueueItem :=
  ((q.rows.filter (fun r => r.status = .pending)).insertionSort
    (fun r r' => r.createdAt ≤ r'.createdAt)).take limit

/-- `dequeue`. -/
def dequeue (q : SyncQueue) (queueId : String) : SyncQueue :=
  q.delete (fun r => r.id = queueId)

/-- `UPDATE sync_queue SET … WHERE id = ?`. -/
def set (queueId : String) (f : QueueItem → QueueItem) (r : QueueItem) : QueueItem :=
  if r.id = queueId then { f r with id := r.id } else r

theorem set_id (queueId : String) (f : QueueItem → QueueItem) (r : QueueItem) :
    (set queueId f r).id = r.id := by
  unfold set
  split <;> rfl

/-- `mark_processing`. -/
def markProcessing (q : SyncQueue) (queueId : String) (now : Nat) : SyncQueue :=
  q.update (set queueId (fun r =>
    { r with status := .processing, lastAttemptAt := some now, attempts := r.attempts + 1 }))
    (set_id queueId _)

/-- `mark_pending`. -/
def markPending (q : SyncQueue) (queueId : String) : SyncQueue :=
  q.update (set queueId (fun r => { r with status := .pending })) (set_id queueId _)

/-- `mark_failed`. -/
def markFailed (q : SyncQueue) (queueId : String) (error : String) : SyncQueue :=
  q.update (set queueId (fun r => { r with status := .failed, lastError := some error }))
    (set_id queueId _)

/-- `get_pending_count`. -/
def getPendingCount (q : SyncQueue) : Nat :=
  q.rows.countP (fun r => r.status = .pending)

/-- `clear_failed`. -/
def clearFailed (q : SyncQueue) : SyncQueue :=
  q.delete (fun r => r.status = .failed)

/-- What `retry_failed` does to a row. -/
def retried (r : QueueItem) : QueueItem :=
  if r.status = .failed then { r with status := .pending, lastError := none } else r

theorem retried_id (r : QueueItem) : (retried r).id = r.id := by
  unfold retried
  split <;> rfl

/-- `retry_failed`. -/
def retryFailed (q : SyncQueue) : SyncQueue :=
  q.update retried retried_id

/-! ## §3. What the operations do to the rows. -/

theorem enqueue_eq_some {q q' : SyncQueue} {uuid : Uuid} {item : QueueItem} {id : String}
    (h : q.enqueue uuid item = some (id, q')) :
    ∃ row : QueueItem, q'.rows = q.rows ++ [row] ∧ row.id = id ∧ row.status = item.status
      ∧ (∀ r ∈ q.rows, r.id ≠ id) ∧ (item.id ≠ "" → row = item) := by
  unfold enqueue at h
  obtain ⟨q₁, hins, heq⟩ := Option.map_eq_some_iff.mp h
  obtain ⟨hfresh, hrows⟩ := Table.insert?_eq_some_iff.mp hins
  injection heq with hid hq
  subst hq
  refine ⟨_, hrows, hid, ?_, ?_, ?_⟩
  · split <;> rfl
  · intro r hr
    rw [← hid]
    exact hfresh r hr
  · intro hne
    exact if_neg hne

theorem set_of_ne {queueId : String} {f : QueueItem → QueueItem} {r : QueueItem}
    (hne : r.id ≠ queueId) : set queueId f r = r :=
  if_neg hne

theorem set_status {queueId : String} {f : QueueItem → QueueItem} {r : QueueItem}
    (hid : r.id = queueId) : (set queueId f r).status = (f r).status := by
  unfold set
  rw [if_pos hid]

theorem mem_peek {q : SyncQueue} {limit : Nat} {r : QueueItem} (h : r ∈ q.peek limit) :
    r ∈ q.rows ∧ r.status = .pending := by
  have hmem := (List.mem_insertionSort _).mp (List.mem_of_mem_take h)
  rw [List.mem_filter, decide_eq_true_eq] at hmem
  exact hmem

/-- A batch is empty only if nothing is pending. -/
theorem peek_eq_nil {q : SyncQueue} {limit : Nat} (hlimit : 1 ≤ limit) (h : q.peek limit = []) :
    ∀ r ∈ q.rows, r.status ≠ .pending := by
  intro r hr hpending
  have hmem : r ∈ (q.rows.filter (fun r => r.status = .pending)).insertionSort
      (fun r r' => r.createdAt ≤ r'.createdAt) := by
    rw [List.mem_insertionSort, List.mem_filter, decide_eq_true_eq]
    exact ⟨hr, hpending⟩
  rcases List.take_eq_nil_iff.mp h with hzero | hnil
  · omega
  · rw [hnil] at hmem
    cases hmem

/-- A batch has no id twice. -/
theorem peek_nodup (q : SyncQueue) (limit : Nat) : ((q.peek limit).map QueueItem.id).Nodup := by
  have hpending : ((q.rows.filter (fun r => r.status = .pending)).map QueueItem.id).Nodup :=
    q.nodup.sublist (List.filter_sublist.map _)
  have hsorted := ((List.perm_insertionSort (fun r r' : QueueItem => r.createdAt ≤ r'.createdAt)
    (q.rows.filter (fun r => r.status = .pending))).map QueueItem.id).nodup_iff.mpr hpending
  exact hsorted.sublist ((List.take_sublist limit _).map _)

end SyncQueue

end PureBoot.Agent
