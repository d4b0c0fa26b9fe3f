/-
  PureBoot.Agent.Pass — a pass of `process_queue` ENDS, after a bounded number of
  deliveries.

  A pass is followed from its start together with the deliveries it makes
  (`Pass.log`).  While it runs, connectivity and the running flag may change and calls
  may wait for the lock of the queue; nobody enqueues and no other pass is started
  (`undisturbed`).

  Each pending row is worth the deliveries it may still get, `max_retries - attempts + 1`
  of them; the row that is being delivered is worth the same less the delivery made.
  The sum over the table (`credit`) pays for every delivery, so it bounds the deliveries
  of one item and, with what is left of the current batch, the steps of the pass.

  A row that is in `processing` when the pass starts is in no batch: nothing in the pass
  touches it, and it is neither removed nor marked `failed`.  Where the executor of the
  event loop has other threads than the one that opened the connection, the operations of
  the queue may raise, and a pass that finds something to deliver may end with nothing done.

  Main results:
    * `credit_moves`, `effort_moves` — one step;
    * `pass_ok_iff` — a pass does all that is expected of it exactly if it finds no row
      in `processing` and, where the queue may raise, none that is `pending`.
-/
import PureBoot.Agent.Order

namespace PureBoot.Agent

open PureBoot.Lib

/-! ## §1. A pass and its deliveries. -/

/-- The id of the item that was delivered, and whether the delivery succeeded. -/
abbrev Delivery : Type := String × Bool

/-- The agent and the deliveries of the pass so far. -/
structure Pass where
  state : State
  log : List Delivery := []

/-- The delivery that an event of the pass makes. -/
def deliveries (s : State) : Event → List Delivery
  | .passStep _ outcome =>
      match s.pc with
      | .sending item _ _ => [(item.id, item.sends && decide (outcome = .accepted))]
      | _ => []
  | _ => []

def Pass.exec (cfg : Config) (p : Pass) (e : Event) : Pass where
  state := execEvent cfg p.state e
  log := p.log ++ deliveries p.state e

/-- `process_queue` is called. -/
def Pass.start (s : State) : Pass where
  state := processQueue s

def Event.isStep : Event → Bool
  | .passStep _ _ => true
  | _ => false

/-- Nothing is enqueued and no other pass is started. -/
def undisturbed (_ : Pass) : Event → Prop
  | .insertNext _ => False
  | .processQueue => False
  | _ => True

/-- The same, while the agent is running and online. -/
def uninterrupted (p : Pass) (e : Event) : Prop :=
  undisturbed p e ∧ p.state.running = true ∧ p.state.online = true

/-- The threads of the executor: the one that opened the connection alone, or others too. -/
inductive Executor where
  | oneThread
  | pool
  deriving DecidableEq, Repr

/-- The pass, where the operations of the queue may raise. -/
def Pass.execOp (cfg : Config) (p : Pass) : Op → Pass
  | .event e => Pass.exec cfg p e
  | op => { p with state := PureBoot.Agent.exec cfg p.state op }

def Op.isStep : Op → Bool
  | .event e => e.isStep
  | _ => false

/-- On one thread nothing raises. -/
def undisturbedOn (executor : Executor) (p : Pass) : Op → Prop
  | .event e => undisturbed p e
  | .passRaises _ _ => executor = .pool
  | _ => False

/-- The same, while the agent is running and online. -/
def uninterruptedOn (executor : Executor) (p : Pass) (op : Op) : Prop :=
  undisturbedOn executor p op ∧ p.state.running = true ∧ p.state.online = true

/-- What is expected of a pass that starts in `s`, whatever central answers. -/
structure PassOk (cfg : Config) (executor : Executor) (s : State) : Prop where
  /-- It ends, after a number of steps that does not depend on the answers. -/
  terminates : ∃ n, ∀ ops, Along (Pass.execOp cfg) (undisturbedOn executor) (Pass.start s) ops →
    n ≤ ops.countP Op.isStep → (run (Pass.execOp cfg) (Pass.start s) ops).state.pc = .idle
  /-- No item is delivered more often than it may be. -/
  bounded : ∀ ops, Along (Pass.execOp cfg) (undisturbedOn executor) (Pass.start s) ops →
    ∀ r ∈ s.queue.rows,
      (run (Pass.execOp cfg) (Pass.start s) ops).log.countP (fun d => d.1 = r.id)
        ≤ cfg.maxRetries - r.attempts + 1
  /-- An item is removed exactly when one of its deliveries succeeds. -/
  removed : ∀ ops, Along (Pass.execOp cfg) (undisturbedOn executor) (Pass.start s) ops →
    (run (Pass.execOp cfg) (Pass.start s) ops).state.pc = .idle → ∀ r ∈ s.queue.rows,
      ((∀ x ∈ (run (Pass.execOp cfg) (Pass.start s) ops).state.queue.rows, x.id ≠ r.id) ↔
        (r.id, true) ∈ (run (Pass.execOp cfg) (Pass.start s) ops).log)
  /-- If the agent stays running and online, what is left is `failed`, and the result
  counts the deliveries. -/
  settled : ∀ ops, Along (Pass.execOp cfg) (uninterruptedOn executor) (Pass.start s) ops →
    (run (Pass.execOp cfg) (Pass.start s) ops).state.pc = .idle →
      (∀ x ∈ (run (Pass.execOp cfg) (Pass.start s) ops).state.queue.rows, x.status = .failed) ∧
      ∃ result, (run (Pass.execOp cfg) (Pass.start s) ops).state.lastResult = some result ∧
        result.processed + result.failed
          = (run (Pass.execOp cfg) (Pass.start s) ops).log.length ∧
        result.remaining = 0

/-! ## §2. What a step of the pass does. -/

/-- What the steps of a pass change. -/
structure Place where
  queue : SyncQueue
  pc : Pc
  lastResult : Option ProcessResult

def State.place (s : State) : Place := ⟨s.queue, s.pc, s.lastResult⟩

/-- A step of the pass, with the deliveries it makes; `on` says that the agent is running
and online. -/
inductive Moves (cfg : Config) (on : Bool) : Place → Place → List Delivery → Prop
  | fetch {q item items result last} (hon : on = true)
      (hpeek : q.peek cfg.batchSize = item :: items) :
      Moves cfg on ⟨q, .loop result, last⟩ ⟨q, .batch (item :: items) result, last⟩ []
  | drained {q result last} (hpeek : q.peek cfg.batchSize = []) :
      Moves cfg on ⟨q, .loop result, last⟩ ⟨q, .closing result, last⟩ []
  | stopped {q result last} (hoff : on = false) :
      Moves cfg on ⟨q, .loop result, last⟩ ⟨q, .closing result, last⟩ []
  | halted {q item rest result last} (hoff : on = false) :
      Moves cfg on ⟨q, .batch (item :: rest) result, last⟩ ⟨q, .closing result, last⟩ []
  | again {q result last} :
      Moves cfg on ⟨q, .batch [] result, last⟩ ⟨q, .loop result, last⟩ []
  | mark {q item rest result last} (now : Nat) :
      Moves cfg on ⟨q, .batch (item :: rest) result, last⟩
        ⟨q.markProcessing item.id now, .sending item rest result, last⟩ []
  | answer {q item rest result last} (success : Bool) :
      Moves cfg on ⟨q, .sending item rest result, last⟩
        ⟨q, .answered item rest success result, last⟩ [(item.id, success)]
  | remove {q item rest result last} :
      Moves cfg on ⟨q, .answered item rest true result, last⟩
        ⟨q.dequeue item.id, .batch rest { result with processed := result.processed + 1 }, last⟩ []
  | store {q item rest result last} :
      Moves cfg on ⟨q, .answered item rest false result, last⟩
        ⟨storeFailure cfg q item, .batch rest { result with failed := result.failed + 1 }, last⟩ []
  | close {q result last} :
      Moves cfg on ⟨q, .closing result, last⟩
        ⟨q, .idle, some (result.finish q.getPendingCount)⟩ []

/-- A step of a pass that is not over. -/
theorem moves_passStep (cfg : Config) (s : State) (now : Nat) (outcome : Outcome)
    (hpc : s.pc ≠ .idle) :
    Moves cfg (s.running && s.online) s.place (passStep cfg s now outcome).place
      (deliveries s (.passStep now outcome)) := by
  unfold passStep deliveries State.place
  split
  next hidle => exact absurd hidle hpc
  next result hpc =>
    rw [hpc]
    split
    next hon =>
      split
      next hpeek => exact .drained hpeek
      next item items hpeek => exact .fetch hon hpeek
    next hoff => exact .stopped (by simpa using hoff)
  next result hpc =>
    rw [hpc]
    exact .again
  next item rest result hpc =>
    rw [hpc]
    split
    next => exact .mark now
    next hoff => exact .halted (by simpa using hoff)
  next item rest result hpc =>
    rw [hpc]
    split
    next hsends =>
      dsimp only
      rw [hsends, Bool.true_and]
      -- a delivery changes what central has and what is in flight, not the queue
      have hsame : (deliver s item outcome).queue = s.queue
          ∧ (deliver s item outcome).lastResult = s.lastResult := by
        cases outcome <;> exact ⟨rfl, rfl⟩
      rw [hsame.1, hsame.2]
      exact .answer _
    next hsends =>
      rw [Bool.not_eq_true] at hsends
      dsimp only
      rw [hsends, Bool.false_and]
      exact .answer false
  next item rest result hpc =>
    rw [hpc]
    exact .remove
  next item rest result hpc =>
    rw [hpc]
    exact .store
  next result hpc =>
    rw [hpc]
    exact .close

/-- What an event does to a pass that is left undisturbed. -/
theorem exec_moves (cfg : Config) (p : Pass) (e : Event) (h : undisturbed p e) :
    ((Pass.exec cfg p e).state.place = p.state.place ∧ deliveries p.state e = []
        ∧ (e.isStep = true → p.state.pc = .idle)) ∨
      Moves cfg (p.state.running && p.state.online) p.state.place
        (Pass.exec cfg p e).state.place (deliveries p.state e) := by
  cases e with
  | passStep now outcome =>
      by_cases hpc : p.state.pc = .idle
      · left
        refine ⟨?_, ?_, fun _ => hpc⟩
        · show (passStep cfg p.state now outcome).place = p.state.place
          unfold passStep
          rw [hpc]
        · unfold deliveries
          rw [hpc]
      · exact .inr (moves_passStep cfg p.state now outcome hpc)
  | insertNext uuid => exact h.elim
  | processQueue => exact h.elim
  -- what the agent's other tasks do is not at the place of the pass
  | updateNodeState uuid node state now =>
      refine .inl ⟨?_, rfl, nofun⟩
      show (updateNodeState p.state uuid node state now).place = p.state.place
      unfold updateNodeState
      dsimp only
      split <;> rfl
  | registerNode uuid now =>
      refine .inl ⟨?_, rfl, nofun⟩
      show (enqueueOffline p.state _).place = p.state.place
      unfold enqueueOffline
      split <;> rfl
  | reportNodeEvent uuid node now =>
      refine .inl ⟨?_, rfl, nofun⟩
      show (enqueueOffline p.state _).place = p.state.place
      unfold enqueueOffline
      split <;> rfl
  | arrive i accept =>
      refine .inl ⟨?_, rfl, nofun⟩
      show (arrive p.state i accept).place = p.state.place
      unfold arrive
      split <;> rfl
  | connectivity online => exact .inl ⟨rfl, rfl, nofun⟩
  | setRunning running => exact .inl ⟨rfl, rfl, nofun⟩

/-- **WHAT THE STEPS OF A PASS PRESERVE, EVENTS PRESERVE**: the events between them change
nothing a pass works on. -/
theorem exec_preserves {cfg : Config} {P : Place → List Delivery → Prop} {p : Pass} {e : Event}
    (hmoves : ∀ {a a' d}, P a p.log → Moves cfg (p.state.running && p.state.online) a a' d →
      P a' (p.log ++ d))
    (hP : P p.state.place p.log) (he : undisturbed p e) :
    P (Pass.exec cfg p e).state.place (Pass.exec cfg p e).log := by
  show P (Pass.exec cfg p e).state.place (p.log ++ deliveries p.state e)
  rcases exec_moves cfg p e he with ⟨hplace, hlog, -⟩ | hmove
  · rw [hplace, hlog, List.append_nil]
    exact hP
  · exact hmoves hP hmove

/-! ## §3. What the pass has in hand. -/

/-- The items of the batch whose turn has not come. -/
def Pc.upcoming : Pc → List QueueItem
  | .batch items _ => items
  | .sending _ rest _ => rest
  | .answered _ rest _ _ => rest
  | _ => []

/-- The item that is being delivered. -/
def Pc.current : Pc → Option QueueItem
  | .sending item _ _ => some item
  | .answered item _ _ _ => some item
  | _ => none

/-- The items to come are pending rows; the row of the current item is in `processing`
and has one attempt more than the item, which was read before. -/
structure Hand (a : Place) : Prop where
  nodup : (a.pc.held.map QueueItem.id).Nodup
  upcoming : ∀ item ∈ a.pc.upcoming, item ∈ a.queue.rows ∧ item.status = .pending
  current : ∀ item, a.pc.current = some item → ∃ r ∈ a.queue.rows,
    r.id = item.id ∧ r.status = .processing ∧ r.attempts = item.attempts + 1

theorem mem_set {q : SyncQueue} {id : String} {f : QueueItem → QueueItem} {r : QueueItem}
    (hr : r ∈ q.rows) :
    SyncQueue.set id f r ∈ (q.update (SyncQueue.set id f) (SyncQueue.set_id id f)).rows :=
  Table.mem_update.mpr ⟨r, hr, rfl⟩

/-- A row with another id stays when one row is set. -/
theorem mem_set_of_ne {q : SyncQueue} {id : String} {f : QueueItem → QueueItem} {r : QueueItem}
    (hr : r ∈ q.rows) (hne : r.id ≠ id) :
    r ∈ (q.update (SyncQueue.set id f) (SyncQueue.set_id id f)).rows :=
  Table.mem_update.mpr ⟨r, hr, SyncQueue.set_of_ne hne⟩

theorem exists_id_set (q : SyncQueue) (id k : String) (f : QueueItem → QueueItem) :
    (∃ x ∈ (q.update (SyncQueue.set id f) (SyncQueue.set_id id f)).rows, x.id = k)
      ↔ ∃ x ∈ q.rows, x.id = k :=
  Table.exists_key_update

theorem mem_dequeue {q : SyncQueue} {id : String} {r : QueueItem} :
    r ∈ (q.dequeue id).rows ↔ r ∈ q.rows ∧ r.id ≠ id := by
  unfold SyncQueue.dequeue
  rw [Table.mem_delete, decide_eq_false_iff_not]

/-- What is stored after a failed delivery: the row is `failed` if the item had all its
attempts when it was read, and `pending` otherwise. -/
theorem storeFailure_eq (cfg : Config) (q : SyncQueue) (item : QueueItem) :
    ∃ f : QueueItem → QueueItem,
      storeFailure cfg q item
        = q.update (SyncQueue.set item.id f) (SyncQueue.set_id item.id f) ∧
      ∀ r, (f r).attempts = r.attempts ∧
        (f r).status = if cfg.maxRetries ≤ item.attempts then .failed else .pending := by
  unfold storeFailure storeAttempt
  split
  next => exact ⟨_, rfl, fun r => ⟨rfl, rfl⟩⟩
  next => exact ⟨_, rfl, fun r => ⟨rfl, rfl⟩⟩

theorem ids_apart {item : QueueItem} {rest : List QueueItem}
    (h : ((item :: rest).map QueueItem.id).Nodup) : ∀ x ∈ rest, x.id ≠ item.id := by
  intro x hx hid
  rw [List.map_cons, List.nodup_cons] at h
  exact h.1 (List.mem_map.mpr ⟨x, hx, hid⟩)

theorem nodup_tail {item : QueueItem} {rest : List QueueItem}
    (h : ((item :: rest).map QueueItem.id).Nodup) : (rest.map QueueItem.id).Nodup := by
  rw [List.map_cons, List.nodup_cons] at h
  exact h.2

/-- Between two batches the pass has nothing in hand. -/
theorem Hand.of_nothing {a : Place} (hheld : a.pc.held = []) (hupcoming : a.pc.upcoming = [])
    (hcurrent : a.pc.current = none) : Hand a where
  nodup := by
    rw [hheld]
    exact List.nodup_nil
  upcoming := by
    intro item hitem
    rw [hupcoming] at hitem
    cases hitem
  current := by
    intro item hitem
    rw [hcurrent] at hitem
    cases hitem

theorem hand_moves {cfg : Config} {on : Bool} {a a' : Place} {d : List Delivery} (h : Hand a)
    (hmove : Moves cfg on a a' d) : Hand a' := by
  cases hmove with
  | @fetch q item items result last hon hpeek =>
      refine ⟨?_, ?_, fun _ hcurrent => by cases hcurrent⟩
      · show ((item :: items).map QueueItem.id).Nodup
        rw [← hpeek]
        exact SyncQueue.peek_nodup q cfg.batchSize
      · intro x hx
        have hx : x ∈ item :: items := hx
        rw [← hpeek] at hx
        exact SyncQueue.mem_peek hx
  | drained | stopped | halted | again | close => exact Hand.of_nothing rfl rfl rfl
  | @mark q item rest result last now =>
      -- the ids in the hand differ, so the other rows are still as `peek` has read them
      have hitem := (h.upcoming item List.mem_cons_self).1
      refine ⟨h.nodup, ?_, ?_⟩
      · intro x hx
        obtain ⟨hrow, hpending⟩ := h.upcoming x (List.mem_cons_of_mem item hx)
        exact ⟨mem_set_of_ne hrow (ids_apart h.nodup x hx), hpending⟩
      · rintro _ ⟨rfl⟩
        refine ⟨_, mem_set hitem, ?_⟩
        unfold SyncQueue.set
        rw [if_pos rfl]
        exact ⟨rfl, rfl, rfl⟩
  | answer success => exact ⟨h.nodup, h.upcoming, h.current⟩
  | @remove q item rest result last =>
      refine ⟨nodup_tail h.nodup, ?_, fun _ hcurrent => by cases hcurrent⟩
      intro x hx
      obtain ⟨hrow, hpending⟩ := h.upcoming x hx
      exact ⟨mem_dequeue.mpr ⟨hrow, ids_apart h.nodup x hx⟩, hpending⟩
  | @store q item rest result last =>
      refine ⟨nodup_tail h.nodup, ?_, fun _ hcurrent => by cases hcurrent⟩
      intro x hx
      obtain ⟨hrow, hpending⟩ := h.upcoming x hx
      obtain ⟨f, hstore, -⟩ := storeFailure_eq cfg q item
      rw [hstore]
      exact ⟨mem_set_of_ne hrow (ids_apart h.nodup x hx), hpending⟩

/-! ## §4. The deliveries that are left. -/

/-- The deliveries a row may still get; only the ids that `sel` selects are counted. -/
def mayGet (cfg : Config) (sel : String → Bool) (r : QueueItem) : Nat :=
  if sel r.id = true ∧ r.status = .pending then cfg.maxRetries - r.attempts + 1 else 0

/-- The deliveries left to the item that is being delivered. -/
def leftInHand (cfg : Config) (sel : String → Bool) : Pc → Nat
  | .sending item _ _ => if sel item.id = true then cfg.maxRetries - item.attempts + 1 else 0
  | .answered item _ false _ => if sel item.id = true then cfg.maxRetries - item.attempts else 0
  | _ => 0

def credit (cfg : Config) (sel : String → Bool) (a : Place) : Nat :=
  a.queue.total (mayGet cfg sel) + leftInHand cfg sel a.pc

/-- Setting the row of an item moves the total by that row. -/
theorem total_set {q : SyncQueue} {r : QueueItem} {f : QueueItem → QueueItem} {w : QueueItem → Nat}
    (hr : r ∈ q.rows) :
    (q.update (SyncQueue.set r.id f) (SyncQueue.set_id r.id f)).total w + w r
      = q.total w + w (SyncQueue.set r.id f r) :=
  Table.total_update_one hr (fun _ _ hne => SyncQueue.set_of_ne hne)

theorem mayGet_pending {cfg : Config} {sel : String → Bool} {r : QueueItem}
    (h : r.status = .pending) :
    mayGet cfg sel r = if sel r.id = true then cfg.maxRetries - r.attempts + 1 else 0 := by
  unfold mayGet
  simp only [h, and_true]

theorem mayGet_of_ne {cfg : Config} {sel : String → Bool} {r : QueueItem}
    (h : r.status ≠ .pending) : mayGet cfg sel r = 0 := by
  unfold mayGet
  simp only [h, and_false, if_false]

theorem set_fields {id : String} {f : QueueItem → QueueItem} {r : QueueItem} (hid : r.id = id) :
    (SyncQueue.set id f r).status = (f r).status
      ∧ (SyncQueue.set id f r).attempts = (f r).attempts := by
  unfold SyncQueue.set
  rw [if_pos hid]
  exact ⟨rfl, rfl⟩

/-- Marking an item moves what it may get from the table into the hand. -/
theorem total_mark (cfg : Config) (sel : String → Bool) {q : SyncQueue} {item : QueueItem}
    (now : Nat) (hrow : item ∈ q.rows) (hpending : item.status = .pending) :
    (q.markProcessing item.id now).total (mayGet cfg sel)
        + (if sel item.id = true then cfg.maxRetries - item.attempts + 1 else 0)
      = q.total (mayGet cfg sel) := by
  have hset := total_set (w := mayGet cfg sel) (f := fun r =>
    { r with status := .processing, lastAttemptAt := some now, attempts := r.attempts + 1 }) hrow
  rw [mayGet_pending hpending, mayGet_of_ne (r := SyncQueue.set _ _ _)
    (by rw [(set_fields rfl).1]; exact nofun)] at hset
  exact hset

/-- Storing a failure moves what is left from the hand into the table: the retry test
reads the number of attempts before this one. -/
theorem total_store (cfg : Config) (sel : String → Bool) {q : SyncQueue} {item r : QueueItem}
    (hrow : r ∈ q.rows) (hid : r.id = item.id) (hproc : r.status = .processing)
    (hattempts : r.attempts = item.attempts + 1) :
    (storeFailure cfg q item).total (mayGet cfg sel)
      = q.total (mayGet cfg sel)
        + (if sel item.id = true then cfg.maxRetries - item.attempts else 0) := by
  obtain ⟨f, hstore, hf⟩ := storeFailure_eq cfg q item
  have hset := total_set (w := mayGet cfg sel) (f := f) hrow
  have hold : mayGet cfg sel r = 0 := mayGet_of_ne (by rw [hproc]; exact nofun)
  have hnew : mayGet cfg sel (SyncQueue.set r.id f r)
      = if sel item.id = true then cfg.maxRetries - item.attempts else 0 := by
    obtain ⟨hstatus, hatt⟩ := set_fields (f := f) (r := r) rfl
    by_cases hlast : cfg.maxRetries ≤ item.attempts
    -- given up: nothing is left, and nothing was left to the hand
    · have hfailed : (SyncQueue.set r.id f r).status ≠ .pending := by
        rw [hstatus, (hf r).2, if_pos hlast]
        exact nofun
      rw [mayGet_of_ne hfailed, Nat.sub_eq_zero_of_le hlast, ite_self]
    · have hagain : (SyncQueue.set r.id f r).status = .pending := by
        rw [hstatus, (hf r).2, if_neg hlast]
      rw [mayGet_pending hagain, SyncQueue.set_id, hatt, (hf r).1, hattempts, hid]
      -- `attempts` has already been raised, the retry test has read it before
      have hone : cfg.maxRetries - (item.attempts + 1) + 1 = cfg.maxRetries - item.attempts := by
        omega
      rw [hone]
  rw [hold, hnew, hid] at hset
  rw [hstore]
  exact hset

/-- **A DELIVERY IS PAID FOR**: one step. -/
theorem credit_moves {cfg : Config} {on : Bool} {a a' : Place} {d : List Delivery}
    (sel : String → Bool) (h : Hand a) (hmove : Moves cfg on a a' d) :
    credit cfg sel a' + d.countP (fun x => sel x.1) ≤ credit cfg sel a := by
  cases hmove with
  | fetch | drained | stopped | halted | again | close => exact Nat.le_refl _
  | @mark q item rest result last now =>
      obtain ⟨hrow, hpending⟩ := h.upcoming item List.mem_cons_self
      have hmark := total_mark cfg sel now hrow hpending
      show (q.markProcessing item.id now).total (mayGet cfg sel)
        + (if sel item.id = true then cfg.maxRetries - item.attempts + 1 else 0)
          ≤ q.total (mayGet cfg sel)
      exact Nat.le_of_eq hmark
  | @answer q item rest result last success =>
      -- the one step that delivers: the hand gives up one delivery, or all of them
      have hcount : [(item.id, success)].countP (fun x => sel x.1)
          = if sel item.id = true then 1 else 0 := by
        simp [List.countP_cons]
      rw [hcount]
      unfold credit leftInHand
      cases success with
      | false => dsimp only; split <;> omega
      | true => dsimp only; split <;> omega
  | @remove q item rest result last =>
      have hle : (q.dequeue item.id).total (mayGet cfg sel) ≤ q.total (mayGet cfg sel) :=
        Table.total_delete_le q _
      exact Nat.add_le_add_right hle 0
  | @store q item rest result last =>
      -- what the hand has left goes back to the row
      obtain ⟨r, hrow, hid, hproc, hattempts⟩ := h.current item rfl
      have hstore := total_store cfg sel hrow hid hproc hattempts
      show (storeFailure cfg q item).total (mayGet cfg sel) + 0 + 0 ≤ _
      rw [hstore]
      exact Nat.le_refl _

/-- The steps a pass may still take, if `work` deliveries are left. -/
def Pc.stepsLeft (work : Nat) : Pc → Nat
  | .idle => 0
  | .closing _ => 1
  | .loop _ => 5 * work + 3
  | .batch [] _ => 5 * work + 4
  | .batch (_ :: _) _ => 5 * work + 2
  | .sending _ _ _ => 5 * work + 1
  | .answered _ _ _ _ => 5 * work + 5

def effort (cfg : Config) (a : Place) : Nat :=
  a.pc.stepsLeft (credit cfg (fun _ => true) a)

theorem Pc.stepsLeft_batch (work : Nat) (items : List QueueItem) (result : ProcessResult) :
    (Pc.batch items result).stepsLeft work ≤ 5 * work + 4 := by
  unfold Pc.stepsLeft
  cases items with
  | nil => exact Nat.le_refl _
  | cons item rest =>
      show 5 * work + 2 ≤ 5 * work + 4
      omega

/-- **EVERY STEP USES SOMETHING UP.** -/
theorem effort_moves {cfg : Config} {on : Bool} {a a' : Place} {d : List Delivery} (h : Hand a)
    (hmove : Moves cfg on a a' d) : effort cfg a' < effort cfg a := by
  have hpaid := credit_moves (fun _ => true) h hmove
  unfold effort
  -- a delivery pays for the five steps until the next one
  cases hmove with
  | fetch | again =>
      simp only [Pc.stepsLeft, List.countP_nil] at hpaid ⊢
      omega
  | drained | stopped | halted | close =>
      simp only [Pc.stepsLeft]
      omega
  | mark now =>
      simp only [Pc.stepsLeft, List.countP_nil] at hpaid ⊢
      omega
  | answer success =>
      simp only [Pc.stepsLeft, List.countP_singleton, if_true] at hpaid ⊢
      omega
  | @remove q item rest result last =>
      have hbatch := Pc.stepsLeft_batch (credit cfg (fun _ => true) ⟨q.dequeue item.id,
        .batch rest { result with processed := result.processed + 1 }, last⟩) rest
        { result with processed := result.processed + 1 }
      rw [List.countP_nil] at hpaid
      refine Nat.lt_of_le_of_lt hbatch ?_
      simp only [Pc.stepsLeft]
      omega
  | @store q item rest result last =>
      have hbatch := Pc.stepsLeft_batch (credit cfg (fun _ => true) ⟨storeFailure cfg q item,
        .batch rest { result with failed := result.failed + 1 }, last⟩) rest
        { result with failed := result.failed + 1 }
      rw [List.countP_nil] at hpaid
      refine Nat.lt_of_le_of_lt hbatch ?_
      simp only [Pc.stepsLeft]
      omega

/-! ## §5. What becomes of the rows. -/

/-- The rows that are gone are those of successful deliveries. -/
structure Removed (q₀ : SyncQueue) (a : Place) (log : List Delivery) : Prop where
  kept : ∀ r ∈ q₀.rows, (r.id, true) ∈ log ∨ ∃ x ∈ a.queue.rows, x.id = r.id
  gone : ∀ id, (id, true) ∈ log → a.pc.delivered = some id ∨ ∀ x ∈ a.queue.rows, x.id ≠ id
  delivered : ∀ id, a.pc.delivered = some id → (id, true) ∈ log

/-- A step that keeps the ids in the table. -/
theorem Removed.of_ids {q₀ : SyncQueue} {a a' : Place} {log : List Delivery}
    (h : Removed q₀ a log)
    (hids : ∀ id, (∃ x ∈ a'.queue.rows, x.id = id) ↔ ∃ x ∈ a.queue.rows, x.id = id)
    (hnone : a.pc.delivered = none) (hnone' : a'.pc.delivered = none) :
    Removed q₀ a' (log ++ []) := by
  rw [List.append_nil]
  constructor
  · intro r hr
    rw [hids r.id]
    exact h.kept r hr
  · intro id hid
    rcases h.gone id hid with hdelivered | hgone
    · rw [hnone] at hdelivered
      cases hdelivered
    · right
      intro x hx hxid
      obtain ⟨y, hy, hyid⟩ := (hids id).mp ⟨x, hx, hxid⟩
      exact hgone y hy hyid
  · intro id hid
    rw [hnone'] at hid
    cases hid

theorem removed_moves {cfg : Config} {on : Bool} {q₀ : SyncQueue} {a a' : Place}
    {d log : List Delivery} (h : Removed q₀ a log) (hmove : Moves cfg on a a' d) :
    Removed q₀ a' (log ++ d) := by
  cases hmove with
  | fetch | drained | stopped | halted | again | close =>
      exact h.of_ids (fun _ => Iff.rfl) rfl rfl
  | @mark q item rest result last now =>
      exact h.of_ids (fun k => exists_id_set q item.id k _) rfl rfl
  | @answer q item rest result last success =>
      constructor
      · intro r hr
        rcases h.kept r hr with hlog | hrow
        · exact .inl (List.mem_append_left _ hlog)
        · exact .inr hrow
      · intro id hid
        rcases List.mem_append.mp hid with hold | hnew
        · rcases h.gone id hold with hdelivered | hgone
          · cases hdelivered
          · exact .inr hgone
        · rw [List.mem_singleton, Prod.mk.injEq] at hnew
          obtain ⟨rfl, rfl⟩ := hnew
          exact .inl rfl
      · intro id hid
        cases success with
        | false => cases hid
        | true =>
            injection hid with hid
            rw [hid]
            exact List.mem_append_right _ (List.mem_singleton_self _)
  | @remove q item rest result last =>
      have hitem : (item.id, true) ∈ log := h.delivered item.id rfl
      rw [List.append_nil]
      constructor
      · intro r hr
        rcases h.kept r hr with hlog | ⟨x, hx, hid⟩
        · exact .inl hlog
        -- the only rows that leave the queue are those of the id just delivered
        · by_cases hne : x.id = item.id
          · rw [← hid, hne]
            exact .inl hitem
          · exact .inr ⟨x, mem_dequeue.mpr ⟨hx, hne⟩, hid⟩
      · intro id hid
        right
        intro x hx
        obtain ⟨hx, hne⟩ := mem_dequeue.mp hx
        rcases h.gone id hid with hdelivered | hgone
        · injection hdelivered with hdelivered
          rw [← hdelivered]
          exact hne
        · exact hgone x hx
      · intro id hid
        cases hid
  | @store q item rest result last =>
      obtain ⟨f, hstore, -⟩ := storeFailure_eq cfg q item
      rw [hstore]
      exact h.of_ids (fun k => exists_id_set q item.id k f) rfl rfl

/-- A row that is not pending when the pass starts is none of its business. -/
def Untouched (q₀ : SyncQueue) (a : Place) : Prop :=
  ∀ r ∈ q₀.rows, r.status ≠ .pending →
    r ∈ a.queue.rows ∧ ∀ item, a.pc.current = some item → r.id ≠ item.id

theorem untouched_moves {cfg : Config} {on : Bool} {q₀ : SyncQueue} {a a' : Place}
    {d : List Delivery} (hhand : Hand a) (h : Untouched q₀ a) (hmove : Moves cfg on a a' d) :
    Untouched q₀ a' := by
  intro r hr hstatus
  obtain ⟨hrow, hcurrent⟩ := h r hr hstatus
  cases hmove with
  | fetch | drained | stopped | halted | again | close =>
      refine ⟨hrow, ?_⟩
      intro item hitem
      cases hitem
  | @mark q item rest result last now =>
      obtain ⟨hitem, hpending⟩ := hhand.upcoming item List.mem_cons_self
      -- only a pending row is marked
      have hne : r.id ≠ item.id := by
        intro hid
        rw [q.eq_of_key_eq hrow hitem hid] at hstatus
        exact hstatus hpending
      refine ⟨mem_set_of_ne hrow hne, ?_⟩
      rintro _ ⟨rfl⟩
      exact hne
  | answer success => exact ⟨hrow, hcurrent⟩
  | @remove q item rest result last =>
      refine ⟨mem_dequeue.mpr ⟨hrow, hcurrent item rfl⟩, ?_⟩
      intro x hx
      cases hx
  | @store q item rest result last =>
      obtain ⟨f, hstore, -⟩ := storeFailure_eq cfg q item
      rw [hstore]
      refine ⟨mem_set_of_ne hrow (hcurrent item rfl), ?_⟩
      intro x hx
      cases hx

/-- A row in `processing` is the one the pass is at. -/
def OneMarked (a : Place) : Prop :=
  ∀ x ∈ a.queue.rows, x.status = .processing → a.pc.marked = some x.id

theorem oneMarked_moves {cfg : Config} {on : Bool} {a a' : Place} {d : List Delivery}
    (h : OneMarked a) (hmove : Moves cfg on a a' d) : OneMarked a' := by
  cases hmove with
  | fetch | drained | stopped | halted | again | close | answer => exact h
  | @mark q item rest result last now =>
      intro x hx hproc
      have hx : x ∈ (q.update (SyncQueue.set item.id _) (SyncQueue.set_id item.id _)).rows := hx
      obtain ⟨r, hr, rfl⟩ := Table.mem_update.mp hx
      rw [SyncQueue.set_id]
      by_cases hid : r.id = item.id
      · rw [hid]
        rfl
      · rw [SyncQueue.set_of_ne hid] at hproc
        cases h r hr hproc
  | @remove q item rest result last =>
      intro x hx hproc
      -- the marked row is the one that goes
      obtain ⟨hx, hne⟩ := mem_dequeue.mp hx
      injection h x hx hproc with hid
      exact absurd hid.symm hne
  | @store q item rest result last =>
      intro x hx hproc
      obtain ⟨f, hstore, hf⟩ := storeFailure_eq cfg q item
      have hx : x ∈ (storeFailure cfg q item).rows := hx
      rw [hstore] at hx
      obtain ⟨r, hr, rfl⟩ := Table.mem_update.mp hx
      by_cases hid : r.id = item.id
      · rw [SyncQueue.set_status hid, (hf r).2] at hproc
        split at hproc
        next => cases hproc
        next => cases hproc
      · rw [SyncQueue.set_of_ne hid] at hproc
        injection h r hr hproc with hid'
        exact absurd hid'.symm hid

/-- The loop has ended. -/
def Pc.over : Pc → Bool
  | .closing _ => true
  | .idle => true
  | _ => false

/-- When the loop has ended, nothing is pending. -/
def Drained (a : Place) : Prop :=
  a.pc.over = true → ∀ r ∈ a.queue.rows, r.status ≠ .pending

/-- As long as the agent is running and online, the loop ends for one reason. -/
theorem drained_moves {cfg : Config} {a a' : Place} {d : List Delivery} (hbatch : 1 ≤ cfg.batchSize)
    (h : Drained a) (hmove : Moves cfg true a a' d) : Drained a' := by
  cases hmove with
  | fetch | again | mark | answer | remove | store =>
      intro hover
      cases hover
  | drained hpeek =>
      intro _
      exact SyncQueue.peek_eq_nil hbatch hpeek
  | stopped hoff => cases hoff
  | halted hoff => cases hoff
  | close =>
      intro _
      exact h rfl

/-- The result counts the deliveries; one that is answered is counted when it is stored. -/
def Counted (a : Place) (log : List Delivery) : Prop :=
  match a.pc with
  | .idle => ∃ result, a.lastResult = some result ∧
      result.processed + result.failed = log.length ∧ result.remaining = a.queue.getPendingCount
  | .loop result => result.processed + result.failed = log.length
  | .batch _ result => result.processed + result.failed = log.length
  | .sending _ _ result => result.processed + result.failed = log.length
  | .answered _ _ _ result => result.processed + result.failed + 1 = log.length
  | .closing result => result.processed + result.failed = log.length

theorem counted_moves {cfg : Config} {on : Bool} {a a' : Place} {d log : List Delivery}
    (h : Counted a log) (hmove : Moves cfg on a a' d) : Counted a' (log ++ d) := by
  cases hmove with
  | fetch | drained | stopped | halted | again | mark =>
      rw [List.append_nil]
      exact h
  | @answer q item rest result last success =>
      have h : result.processed + result.failed = log.length := h
      show result.processed + result.failed + 1 = (log ++ [(item.id, success)]).length
      rw [List.length_append, List.length_singleton, h]
  | @remove q item rest result last =>
      have h : result.processed + result.failed + 1 = log.length := h
      show result.processed + 1 + result.failed = (log ++ []).length
      rw [List.append_nil]
      omega
  | @store q item rest result last =>
      have h : result.processed + result.failed + 1 = log.length := h
      show result.processed + (result.failed + 1) = (log ++ []).length
      rw [List.append_nil]
      omega
  | @close q result last =>
      rw [List.append_nil]
      exact ⟨_, rfl, h, rfl⟩

/-! ## §6. Whole passes. -/

/-- What holds throughout a pass that started with the table `q₀`. -/
structure Ongoing (cfg : Config) (q₀ : SyncQueue) (a : Place) (log : List Delivery) : Prop where
  hand : Hand a
  paid : ∀ sel : String → Bool,
    log.countP (fun x => sel x.1) + credit cfg sel a ≤ q₀.total (mayGet cfg sel)
  removed : Removed q₀ a log
  untouched : Untouched q₀ a
  counted : Counted a log

theorem ongoing_moves {cfg : Config} {on : Bool} {q₀ : SyncQueue} {a a' : Place}
    {d log : List Delivery} (h : Ongoing cfg q₀ a log) (hmove : Moves cfg on a a' d) :
    Ongoing cfg q₀ a' (log ++ d) where
  hand := hand_moves h.hand hmove
  paid := by
    intro sel
    have hbefore := h.paid sel
    have hstep := credit_moves sel h.hand hmove
    rw [List.countP_append]
    omega
  removed := removed_moves h.removed hmove
  untouched := untouched_moves h.hand h.untouched hmove
  counted := counted_moves h.counted hmove

theorem processQueue_idle {s : State} (hidle : s.pc = .idle) :
    processQueue s = { s with pc := .loop {} } := by
  unfold processQueue
  rw [hidle]

theorem ongoing_start (cfg : Config) {s : State} (hidle : s.pc = .idle) :
    Ongoing cfg s.queue (Pass.start s).state.place [] := by
  show Ongoing cfg s.queue (processQueue s).place []
  rw [processQueue_idle hidle]
  constructor
  · exact Hand.of_nothing rfl rfl rfl
  · intro sel
    show 0 + (s.queue.total (mayGet cfg sel) + 0) ≤ s.queue.total (mayGet cfg sel)
    omega
  · constructor
    · intro r hr
      exact .inr ⟨r, hr, rfl⟩
    · intro id hid
      cases hid
    · intro id hid
      cases hid
  · intro r hr _
    refine ⟨hr, ?_⟩
    intro item hitem
    cases hitem
  · rfl

variable {cfg : Config} {s : State} {es : List Event}

/-- **THROUGHOUT THE PASS.** -/
theorem ongoing_run (hidle : s.pc = .idle)
    (hes : Along (Pass.exec cfg) undisturbed (Pass.start s) es) :
    Ongoing cfg s.queue (run (Pass.exec cfg) (Pass.start s) es).state.place
      (run (Pass.exec cfg) (Pass.start s) es).log := by
  have hstep : ∀ p e, Ongoing cfg s.queue p.state.place p.log → undisturbed p e →
      Ongoing cfg s.queue (Pass.exec cfg p e).state.place (Pass.exec cfg p e).log :=
    fun p e h he => exec_preserves ongoing_moves h he
  exact run_invariant hstep (ongoing_start cfg hidle) hes

/-- What is left to do when the pass starts bounds its steps. -/
theorem effort_run (hidle : s.pc = .idle)
    (hes : Along (Pass.exec cfg) undisturbed (Pass.start s) es) :
    effort cfg (run (Pass.exec cfg) (Pass.start s) es).state.place
      ≤ effort cfg (Pass.start s).state.place - es.countP Event.isStep := by
  have hstep : ∀ p e, Hand p.state.place → undisturbed p e →
      Hand (Pass.exec cfg p e).state.place :=
    fun p e h he => exec_preserves (P := fun a _ => Hand a) hand_moves h he
  refine run_measure (μ := fun p => effort cfg p.state.place) hstep ?_
    (ongoing_start cfg hidle).hand hes
  · intro p e h he
    rcases exec_moves cfg p e he with ⟨hplace, -, hdone⟩ | hmove
    · rw [hplace]
      split
      next hstep =>
        -- a step of a pass that is over
        have hzero : effort cfg p.state.place = 0 := by
          show p.state.pc.stepsLeft _ = 0
          rw [hdone hstep]
          rfl
        omega
      next => exact Nat.le_refl _
    · have hless := effort_moves h hmove
      split <;> omega

theorem pc_idle_of_effort {a : Place} (h : effort cfg a = 0) : a.pc = .idle := by
  unfold effort at h
  cases hpc : a.pc with
  | idle => rfl
  | loop result => rw [hpc] at h; exact absurd h (Nat.succ_ne_zero _)
  | batch items result =>
      rw [hpc] at h
      cases items <;> exact absurd h (Nat.succ_ne_zero _)
  | sending item rest result => rw [hpc] at h; exact absurd h (Nat.succ_ne_zero _)
  | answered item rest success result => rw [hpc] at h; exact absurd h (Nat.succ_ne_zero _)
  | closing result => rw [hpc] at h; exact absurd h (Nat.succ_ne_zero _)

/-- If the agent stays running and online, a pass that is over leaves nothing pending. -/
theorem drained_run (hbatch : 1 ≤ cfg.batchSize) (hidle : s.pc = .idle)
    (hes : Along (Pass.exec cfg) uninterrupted (Pass.start s) es) :
    Drained (run (Pass.exec cfg) (Pass.start s) es).state.place := by
  have hstep : ∀ p e, Drained p.state.place → uninterrupted p e →
      Drained (Pass.exec cfg p e).state.place := by
    intro p e h ⟨he, hrunning, honline⟩
    refine exec_preserves (P := fun a _ => Drained a) ?_ h he
    intro a a' d hdrained hmove
    rw [hrunning, honline] at hmove
    exact drained_moves hbatch hdrained hmove
  have hstart : Drained (Pass.start s).state.place := by
    show Drained (processQueue s).place
    rw [processQueue_idle hidle]
    intro hover
    cases hover
  exact run_invariant hstep hstart hes

/-- If no row is in `processing` at the start, only the current one ever is. -/
theorem oneMarked_run (hidle : s.pc = .idle)
    (hquiet : ∀ r ∈ s.queue.rows, r.status ≠ .processing)
    (hes : Along (Pass.exec cfg) undisturbed (Pass.start s) es) :
    OneMarked (run (Pass.exec cfg) (Pass.start s) es).state.place := by
  have hstep : ∀ p e, OneMarked p.state.place → undisturbed p e →
      OneMarked (Pass.exec cfg p e).state.place :=
    fun p e h he => exec_preserves (P := fun a _ => OneMarked a) oneMarked_moves h he
  have hstart : OneMarked (Pass.start s).state.place := by
    show OneMarked (processQueue s).place
    rw [processQueue_idle hidle]
    intro x hx hproc
    exact absurd hproc (hquiet x hx)
  exact run_invariant hstep hstart hes

theorem undisturbed_of_uninterrupted
    (h : Along (Pass.exec cfg) uninterrupted (Pass.start s) es) :
    Along (Pass.exec cfg) undisturbed (Pass.start s) es :=
  h.mono (fun _ _ he => he.1)

theorem terminates_run (cfg : Config) (hidle : s.pc = .idle) :
    ∃ n, ∀ es, Along (Pass.exec cfg) undisturbed (Pass.start s) es →
      n ≤ es.countP Event.isStep → (run (Pass.exec cfg) (Pass.start s) es).state.pc = .idle := by
  refine ⟨effort cfg (Pass.start s).state.place, ?_⟩
  intro es hes hn
  have heffort := effort_run hidle hes
  have hzero : effort cfg (run (Pass.exec cfg) (Pass.start s) es).state.place = 0 := by
    omega
  exact pc_idle_of_effort hzero

theorem bounded_run (hidle : s.pc = .idle)
    (hes : Along (Pass.exec cfg) undisturbed (Pass.start s) es) {r : QueueItem}
    (hr : r ∈ s.queue.rows) :
    (run (Pass.exec cfg) (Pass.start s) es).log.countP (fun d => d.1 = r.id)
      ≤ cfg.maxRetries - r.attempts + 1 := by
  have hpaid := (ongoing_run hidle hes).paid (fun id => id = r.id)
  -- one row alone is worth something
  have htotal : s.queue.total (mayGet cfg (fun id => id = r.id))
      = mayGet cfg (fun id => id = r.id) r := by
    refine Table.total_eq_one hr ?_
    intro x _ hne
    unfold mayGet
    rw [if_neg]
    simp [hne]
  have hworth : mayGet cfg (fun id => id = r.id) r ≤ cfg.maxRetries - r.attempts + 1 := by
    unfold mayGet
    split
    next => exact Nat.le_refl _
    next => exact Nat.zero_le _
  omega

theorem removed_run (hidle : s.pc = .idle)
    (hes : Along (Pass.exec cfg) undisturbed (Pass.start s) es)
    (hend : (run (Pass.exec cfg) (Pass.start s) es).state.pc = .idle) {r : QueueItem}
    (hr : r ∈ s.queue.rows) :
    (∀ x ∈ (run (Pass.exec cfg) (Pass.start s) es).state.queue.rows, x.id ≠ r.id) ↔
      (r.id, true) ∈ (run (Pass.exec cfg) (Pass.start s) es).log := by
  have hremoved := (ongoing_run hidle hes).removed
  constructor
  · intro hgone
    rcases hremoved.kept r hr with hlog | ⟨x, hx, hid⟩
    · exact hlog
    · exact absurd hid (hgone x hx)
  · intro hlog
    rcases hremoved.gone r.id hlog with hdelivered | hgone
    · have hdelivered : (run (Pass.exec cfg) (Pass.start s) es).state.pc.delivered = some r.id :=
        hdelivered
      rw [hend] at hdelivered
      cases hdelivered
    · exact hgone

theorem settled_run (hbatch : 1 ≤ cfg.batchSize) (hidle : s.pc = .idle)
    (hquiet : ∀ r ∈ s.queue.rows, r.status ≠ .processing)
    (hes : Along (Pass.exec cfg) uninterrupted (Pass.start s) es)
    (hend : (run (Pass.exec cfg) (Pass.start s) es).state.pc = .idle) :
    (∀ x ∈ (run (Pass.exec cfg) (Pass.start s) es).state.queue.rows, x.status = .failed) ∧
      ∃ result, (run (Pass.exec cfg) (Pass.start s) es).state.lastResult = some result ∧
        result.processed + result.failed = (run (Pass.exec cfg) (Pass.start s) es).log.length ∧
        result.remaining = 0 := by
  have hmarked := oneMarked_run hidle hquiet (undisturbed_of_uninterrupted hes)
  have hdrained := drained_run hbatch hidle hes
  have hcounted := (ongoing_run hidle (undisturbed_of_uninterrupted hes)).counted
  generalize run (Pass.exec cfg) (Pass.start s) es = p at *
  have hnone : ∀ x ∈ p.state.queue.rows, x.status ≠ .pending :=
    hdrained (show p.state.pc.over = true by rw [hend]; rfl)
  refine ⟨?_, ?_⟩
  · intro x hx
    cases hstatus : x.status with
    | failed => rfl
    | pending => exact absurd hstatus (hnone x hx)
    -- at the end no row is marked any more
    | processing =>
        have hpc : p.state.pc.marked = some x.id := hmarked x hx hstatus
        rw [hend] at hpc
        cases hpc
  · unfold Counted at hcounted
    rw [show p.state.place.pc = .idle from hend] at hcounted
    obtain ⟨result, hlast, hsum, hremaining⟩ := hcounted
    refine ⟨result, hlast, hsum, ?_⟩
    rw [hremaining]
    show p.state.queue.rows.countP _ = 0
    rw [List.countP_eq_zero]
    intro x hx
    simpa using hnone x hx

/-- The agent stays as it is during the steps of a pass. -/
theorem passStep_flags (cfg : Config) (s : State) (now : Nat) (outcome : Outcome) :
    (passStep cfg s now outcome).running = s.running
      ∧ (passStep cfg s now outcome).online = s.online := by
  have hdeliver : ∀ item, (deliver s item outcome).running = s.running
      ∧ (deliver s item outcome).online = s.online := by
    intro item
    cases outcome <;> exact ⟨rfl, rfl⟩
  unfold passStep
  split
  next => exact ⟨rfl, rfl⟩
  next =>
    split
    next => split <;> exact ⟨rfl, rfl⟩
    next => exact ⟨rfl, rfl⟩
  next => exact ⟨rfl, rfl⟩
  next => split <;> exact ⟨rfl, rfl⟩
  next item rest result hpc =>
    split
    next => exact hdeliver item
    next => exact ⟨rfl, rfl⟩
  next => exact ⟨rfl, rfl⟩
  next => exact ⟨rfl, rfl⟩
  next => exact ⟨rfl, rfl⟩

/-- A pass that is left alone. -/
theorem along_steps (cfg : Config) (now : Nat) (outcome : Outcome) : ∀ (n : Nat) {p : Pass},
    p.state.running = true → p.state.online = true →
    Along (Pass.exec cfg) uninterrupted p (List.replicate n (.passStep now outcome)) := by
  intro n
  induction n with
  | zero => intro p _ _; trivial
  | succ n ih =>
      intro p hrunning honline
      obtain ⟨hrunning', honline'⟩ := passStep_flags cfg p.state now outcome
      refine ⟨⟨trivial, hrunning, honline⟩, ih ?_ ?_⟩
      · exact hrunning'.trans hrunning
      · exact honline'.trans honline

/-! ## §7. Threads. -/

/-- A run of events, as one of operations. -/
theorem run_events (cfg : Config) (p : Pass) (es : List Event) :
    run (Pass.execOp cfg) p (es.map Op.event) = run (Pass.exec cfg) p es :=
  run_map p es

theorem along_events {executor : Executor} {p : Pass} :
    Along (Pass.execOp cfg) (undisturbedOn executor) p (es.map Op.event)
      ↔ Along (Pass.exec cfg) undisturbed p es :=
  along_map

theorem along_uninterrupted_events {executor : Executor} {p : Pass} :
    Along (Pass.execOp cfg) (uninterruptedOn executor) p (es.map Op.event)
      ↔ Along (Pass.exec cfg) uninterrupted p es :=
  along_map

theorem countP_events (es : List Event) :
    (es.map Op.event).countP Op.isStep = es.countP Event.isStep := by
  rw [List.countP_map]
  rfl

/-- On one thread every operation is an event. -/
theorem events_of_oneThread {p : Pass} {ops : List Op}
    (h : Along (Pass.execOp cfg) (undisturbedOn .oneThread) p ops) :
    ∃ es : List Event, ops = es.map Op.event := by
  induction ops generalizing p with
  | nil => exact ⟨[], rfl⟩
  | cons op ops ih =>
      obtain ⟨es, rfl⟩ := ih h.2
      cases op with
      | event e => exact ⟨e :: es, rfl⟩
      | passRaises error again => cases h.1
      | enqueue item hstatus => exact h.1.elim
      | retryFailed | clearFailed | insertRaises | crash => exact h.1.elim

/-- **ON ONE THREAD**, without rows in `processing`, a pass does all that is expected of
it. -/
theorem passOk_of_quiet (hbatch : 1 ≤ cfg.batchSize) (hidle : s.pc = .idle)
    (hquiet : ∀ r ∈ s.queue.rows, r.status ≠ .processing) : PassOk cfg .oneThread s where
  terminates := by
    obtain ⟨n, hn⟩ := terminates_run cfg hidle
    refine ⟨n, fun ops hops hsteps => ?_⟩
    obtain ⟨es, rfl⟩ := events_of_oneThread hops
    rw [countP_events] at hsteps
    rw [run_events]
    exact hn es (along_events.mp hops) hsteps
  bounded := by
    intro ops hops r hr
    obtain ⟨es, rfl⟩ := events_of_oneThread hops
    rw [run_events]
    exact bounded_run hidle (along_events.mp hops) hr
  removed := by
    intro ops hops hend r hr
    obtain ⟨es, rfl⟩ := events_of_oneThread hops
    rw [run_events] at hend ⊢
    exact removed_run hidle (along_events.mp hops) hend hr
  settled := by
    intro ops hops hend
    obtain ⟨es, rfl⟩ := events_of_oneThread (hops.mono (fun _ _ h => h.1))
    rw [run_events] at hend ⊢
    exact settled_run hbatch hidle hquiet (along_uninterrupted_events.mp hops) hend

/-- A pass with nothing to deliver: the queue is as it was, and the pass is before its first
batch, at its end, or over. -/
structure Nothing (q₀ : SyncQueue) (a : Place) (log : List Delivery) : Prop where
  queue : a.queue = q₀
  log : log = []
  pc : a.pc = .loop {} ∨ a.pc = .closing {} ∨ (a.pc = .idle ∧
    ∃ result, a.lastResult = some result ∧ result.processed + result.failed = 0 ∧
      result.remaining = 0)

/-- The steps that are left to it. -/
def Pc.stepsToEnd : Pc → Nat
  | .loop _ => 2
  | .closing _ => 1
  | _ => 0

/-- A step of such a pass. -/
theorem nothing_moves {on : Bool} {q₀ : SyncQueue} {a a' : Place} {d log : List Delivery}
    (hnone : ∀ r ∈ q₀.rows, r.status ≠ .pending) (h : Nothing q₀ a log)
    (hmove : Moves cfg on a a' d) :
    Nothing q₀ a' (log ++ d) ∧ a'.pc.stepsToEnd < a.pc.stepsToEnd := by
  have hcount : q₀.getPendingCount = 0 := by
    unfold SyncQueue.getPendingCount
    rw [List.countP_eq_zero]
    intro r hr
    simpa using hnone r hr
  obtain ⟨rfl, rfl, hpc⟩ := h
  cases hmove with
  | @fetch q item items result last hon hpeek =>
      obtain ⟨hrow, hpending⟩ : item ∈ q.rows ∧ item.status = .pending :=
        SyncQueue.mem_peek (by rw [hpeek]; exact List.mem_cons_self)
      exact absurd hpending (hnone item hrow)
  | drained | stopped =>
      obtain rfl : _ = ({} : ProcessResult) := by simpa using hpc
      exact ⟨⟨rfl, rfl, .inr (.inl rfl)⟩, Nat.lt_succ_self 1⟩
  | close =>
      obtain rfl : _ = ({} : ProcessResult) := by simpa using hpc
      exact ⟨⟨rfl, rfl, .inr (.inr ⟨rfl, _, rfl, rfl, hcount⟩)⟩, Nat.lt_succ_self 0⟩
  | halted | again | mark | answer | remove | store => simp at hpc

/-- An exception ends it. -/
theorem nothing_passRaises {q₀ : SyncQueue} {p : Pass} (h : Nothing q₀ p.state.place p.log)
    (error : String) (again : Option String) :
    Nothing q₀ (passRaises cfg p.state error again).place p.log ∧
      (passRaises cfg p.state error again).pc.stepsToEnd ≤ p.state.pc.stepsToEnd := by
  obtain ⟨hqueue, hlog, hpc⟩ := h
  have hended : ∀ result : ProcessResult, result = {} →
      Nothing q₀ (abortPass p.state result error).place p.log := by
    rintro _ rfl
    exact ⟨hqueue, hlog, .inr (.inr ⟨rfl, _, rfl, rfl, rfl⟩)⟩
  rcases hpc with hpc | hpc | ⟨hpc, hlast⟩
  · have hpc : p.state.pc = .loop {} := hpc
    unfold passRaises
    simp only [hpc]
    split
    next => exact ⟨hended {} rfl, Nat.zero_le _⟩
    next => exact ⟨⟨hqueue, hlog, .inl hpc⟩, by rw [hpc]⟩
  · have hpc : p.state.pc = .closing {} := hpc
    unfold passRaises
    simp only [hpc]
    exact ⟨hended {} rfl, Nat.zero_le _⟩
  · have hpc : p.state.pc = .idle := hpc
    unfold passRaises
    simp only [hpc]
    exact ⟨⟨hqueue, hlog, .inr (.inr ⟨hpc, hlast⟩)⟩, Nat.le_refl _⟩

/-- **ONE STEP** of a pass with nothing to deliver, also where the queue may raise. -/
theorem nothing_execOp {executor : Executor} {q₀ : SyncQueue}
    (hnone : ∀ r ∈ q₀.rows, r.status ≠ .pending) {p : Pass} {op : Op}
    (h : Nothing q₀ p.state.place p.log) (hop : undisturbedOn executor p op) :
    Nothing q₀ (Pass.execOp cfg p op).state.place (Pass.execOp cfg p op).log ∧
      (Pass.execOp cfg p op).state.pc.stepsToEnd
        ≤ p.state.pc.stepsToEnd - (if op.isStep then 1 else 0) := by
  cases op with
  | event e =>
      show Nothing q₀ (Pass.exec cfg p e).state.place (p.log ++ deliveries p.state e) ∧
        (Pass.exec cfg p e).state.place.pc.stepsToEnd ≤ p.state.place.pc.stepsToEnd
          - (if e.isStep then 1 else 0)
      rcases exec_moves cfg p e hop with ⟨hplace, hlog, hover⟩ | hmove
      · rw [hplace, hlog, List.append_nil]
        refine ⟨h, ?_⟩
        split
        next hstep =>
          have hidle : p.state.place.pc = .idle := hover hstep
          rw [hidle]
          exact Nat.zero_le _
        next => exact Nat.le_refl _
      · obtain ⟨hnothing, hless⟩ := nothing_moves hnone h hmove
        refine ⟨hnothing, ?_⟩
        split <;> omega
  | passRaises error again => exact nothing_passRaises h error again
  | enqueue | retryFailed | clearFailed | insertRaises | crash => exact hop.elim

theorem nothing_start (hidle : s.pc = .idle) :
    Nothing s.queue (Pass.start s).state.place (Pass.start s).log := by
  show Nothing s.queue (processQueue s).place []
  rw [processQueue_idle hidle]
  exact ⟨rfl, rfl, .inl rfl⟩

/-- **ON ANY THREADS**, a pass that finds nothing to deliver does all that is expected of
it. -/
theorem passOk_of_failed (executor : Executor) (hidle : s.pc = .idle)
    (hfailed : ∀ r ∈ s.queue.rows, r.status = .failed) : PassOk cfg executor s := by
  have hnone : ∀ r ∈ s.queue.rows, r.status ≠ .pending := by
    intro r hr
    rw [hfailed r hr]
    exact nofun
  have hstep : ∀ p op, Nothing s.queue p.state.place p.log → undisturbedOn executor p op →
      Nothing s.queue (Pass.execOp cfg p op).state.place (Pass.execOp cfg p op).log :=
    fun _ _ h hop => (nothing_execOp hnone h hop).1
  have hless : ∀ p op, Nothing s.queue p.state.place p.log → undisturbedOn executor p op →
      (Pass.execOp cfg p op).state.pc.stepsToEnd
        ≤ p.state.pc.stepsToEnd - (if op.isStep then 1 else 0) :=
    fun _ _ h hop => (nothing_execOp hnone h hop).2
  have hrun : ∀ ops, Along (Pass.execOp cfg) (undisturbedOn executor) (Pass.start s) ops →
      Nothing s.queue (run (Pass.execOp cfg) (Pass.start s) ops).state.place
        (run (Pass.execOp cfg) (Pass.start s) ops).log :=
    fun _ hops => run_invariant hstep (nothing_start hidle) hops
  refine ⟨⟨2, ?_⟩, ?_, ?_, ?_⟩
  -- two steps are all there is: the loop peeks at nothing, and the pass is closed
  · intro ops hops hsteps
    have hmeasure : (run (Pass.execOp cfg) (Pass.start s) ops).state.pc.stepsToEnd
        ≤ (Pass.start s).state.pc.stepsToEnd - ops.countP Op.isStep :=
      run_measure (μ := fun p : Pass => p.state.pc.stepsToEnd) hstep hless (nothing_start hidle)
        hops
    have hstart : (Pass.start s).state.pc.stepsToEnd = 2 := by
      show (processQueue s).pc.stepsToEnd = 2
      rw [processQueue_idle hidle]
      rfl
    rcases (hrun ops hops).pc with hpc | hpc | ⟨hpc, -⟩
    · have hleft : (run (Pass.execOp cfg) (Pass.start s) ops).state.pc.stepsToEnd ≠ 0 := by
        rw [show (run (Pass.execOp cfg) (Pass.start s) ops).state.pc = .loop {} from hpc]
        exact nofun
      omega
    · have hleft : (run (Pass.execOp cfg) (Pass.start s) ops).state.pc.stepsToEnd ≠ 0 := by
        rw [show (run (Pass.execOp cfg) (Pass.start s) ops).state.pc = .closing {} from hpc]
        exact nofun
      omega
    · exact hpc
  -- no delivery, so no bound is met and no row is removed
  · intro ops hops r _
    rw [(hrun ops hops).log]
    exact Nat.zero_le _
  · intro ops hops _ r hr
    obtain ⟨hqueue, hlog, -⟩ := hrun ops hops
    rw [hlog]
    have hrow : r ∈ (run (Pass.execOp cfg) (Pass.start s) ops).state.queue.rows := by
      rw [show (run (Pass.execOp cfg) (Pass.start s) ops).state.queue = s.queue from hqueue]
      exact hr
    exact iff_of_false (fun hgone => hgone r hrow rfl) List.not_mem_nil
  -- what is left had failed before
  · intro ops hops hend
    obtain ⟨hqueue, hlog, hpc⟩ := hrun ops (hops.mono (fun _ _ h => h.1))
    have hqueue : (run (Pass.execOp cfg) (Pass.start s) ops).state.queue = s.queue := hqueue
    have hplace : (run (Pass.execOp cfg) (Pass.start s) ops).state.place.pc = .idle := hend
    rw [hplace] at hpc
    obtain ⟨-, result, hlast, hsum, hremaining⟩ := (hpc.resolve_left nofun).resolve_left nofun
    refine ⟨?_, result, hlast, ?_, hremaining⟩
    · rw [hqueue]
      exact hfailed
    · rw [hlog]
      exact hsum

/-- A row in `processing` stays as it is, so a pass over such a table falls short. -/
theorem quiet_of_passOk {executor : Executor} (hidle : s.pc = .idle) (hrunning : s.running = true)
    (honline : s.online = true) (h : PassOk cfg executor s) :
    ∀ r ∈ s.queue.rows, r.status ≠ .processing := by
  intro r hr hproc
  obtain ⟨n, hn⟩ := h.terminates
  have hes : Along (Pass.exec cfg) uninterrupted (Pass.start s)
      (List.replicate n (.passStep 0 .refused)) := by
    refine along_steps cfg 0 .refused n ?_ ?_
    · show (processQueue s).running = true
      rw [processQueue_idle hidle]
      exact hrunning
    · show (processQueue s).online = true
      rw [processQueue_idle hidle]
      exact honline
  have hundisturbed := undisturbed_of_uninterrupted hes
  have hend := hn _ (along_events.mpr hundisturbed)
    (by rw [countP_events]; simp [List.countP_replicate, Event.isStep])
  have hsettled := (h.settled _ (along_uninterrupted_events.mpr hes) hend).1
  rw [run_events] at hsettled
  have hrow := ((ongoing_run hidle hundisturbed).untouched r hr (by rw [hproc]; exact nofun)).1
  have hfailed := hsettled r hrow
  rw [hproc] at hfailed
  cases hfailed

/-- Where the queue may raise, it may do so when the pass asks for its first batch. -/
theorem not_pending_of_passOk (hidle : s.pc = .idle) (hrunning : s.running = true)
    (honline : s.online = true) (h : PassOk cfg .pool s) :
    ∀ r ∈ s.queue.rows, r.status ≠ .pending := by
  intro r hr hpending
  have hstart : (Pass.start s).state = { s with pc := .loop {} } := processQueue_idle hidle
  have hraised : passRaises cfg { s with pc := .loop {} } "" none
      = abortPass { s with pc := .loop {} } {} "" := by
    show (if s.running && s.online then _ else _) = _
    rw [if_pos (by rw [hrunning, honline]; rfl)]
  have hops : Along (Pass.execOp cfg) (uninterruptedOn .pool) (Pass.start s)
      [.passRaises "" none] := by
    refine ⟨⟨rfl, ?_, ?_⟩, trivial⟩
    · rw [hstart]
      exact hrunning
    · rw [hstart]
      exact honline
  have hend : (run (Pass.execOp cfg) (Pass.start s) [.passRaises "" none]).state
      = abortPass { s with pc := .loop {} } {} "" := by
    show passRaises cfg (Pass.start s).state "" none = _
    rw [hstart, hraised]
  have hsettled := (h.settled _ hops (by rw [hend]; rfl)).1
  rw [hend] at hsettled
  have hfailed := hsettled r hr
  rw [hpending] at hfailed
  cases hfailed

/-- **A PASS ENDS, AND DOES WHAT IT SHOULD, EXACTLY IF** no row is in `processing` when it
starts and, where the operations of the queue may raise, none is `pending`. -/
theorem pass_ok_iff (cfg : Config) (executor : Executor) (s : State) (hbatch : 1 ≤ cfg.batchSize)
    (hidle : s.pc = .idle) (hrunning : s.running = true) (honline : s.online = true) :
    PassOk cfg executor s ↔
      ∀ r ∈ s.queue.rows, r.status ≠ .processing ∧ (executor = .pool → r.status ≠ .pending) := by
  constructor
  · intro h r hr
    refine ⟨quiet_of_passOk hidle hrunning honline h r hr, ?_⟩
    rintro rfl
    exact not_pending_of_passOk hidle hrunning honline h r hr
  · intro h
    cases executor with
    | oneThread => exact passOk_of_quiet hbatch hidle (fun r hr => (h r hr).1)
    | pool =>
        refine passOk_of_failed .pool hidle (fun r hr => ?_)
        obtain ⟨hprocessing, hpending⟩ := h r hr
        cases hstatus : r.status with
        | failed => rfl
        | processing => exact absurd hstatus hprocessing
        | pending => exact absurd hstatus (hpending rfl)

/-- A table with one row. -/
def oneRow (status : Status) : SyncQueue where
  rows := [{ id := "1", itemType := .registration, payload := {}, createdAt := 0, status }]
  nodup := List.nodup_singleton _

theorem pass_ok_iff_one_pending :
    PassOk {} .oneThread { queue := oneRow .pending, running := true } :=
  (pass_ok_iff {} .oneThread { queue := oneRow .pending, running := true } (by decide) rfl rfl
    rfl).mpr (by decide)

/-- The row an earlier crash left in `processing` is still there, and not `failed`, when
the pass is over; and an item that is delivered stays where `dequeue` and then `mark_pending`
are run on another thread. -/
theorem processing_row_not_settled :
    ¬ PassOk {} .oneThread { queue := oneRow .processing, running := true } ∧
      ¬ PassOk {} .pool { queue := oneRow .pending, running := true } := by
  constructor
  · intro h
    have hops : Along (Pass.execOp {}) (uninterruptedOn .oneThread)
        (Pass.start { queue := oneRow .processing, running := true })
        [.event (.passStep 0 .refused), .event (.passStep 0 .refused)] := by
      refine ⟨⟨trivial, rfl, rfl⟩, ⟨trivial, rfl, rfl⟩, trivial⟩
    have hfailed := (h.settled _ hops (by decide)).1
      { id := "1", itemType := .registration, payload := {}, createdAt := 0,
        status := .processing }
      (by decide)
    cases hfailed
  · intro h
    have hops : Along (Pass.execOp {}) (undisturbedOn .pool)
        (Pass.start { queue := oneRow .pending, running := true })
        [.event (.passStep 0 .accepted), .event (.passStep 1 .accepted),
          .event (.passStep 2 .accepted), .passRaises "dequeue" (some "mark_pending")] :=
      ⟨trivial, trivial, trivial, rfl, trivial⟩
    have hremoved := h.removed _ hops (by decide)
      { id := "1", itemType := .registration, payload := {}, createdAt := 0 } (by decide)
    exact absurd (hremoved.mpr (by decide)) (by decide)

end PureBoot.Agent
