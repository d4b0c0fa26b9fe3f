/-
  PureBoot.Agent.Durable — which runs of the agent lose no queued item.

  An item is out of reach when its row says `processing` and no pass is at work on
  it: `peek` selects `pending` rows only and `retry_failed` resets `failed` rows only,
  and neither `initialize` nor anything else at start-up looks at the rows.  While a pass
  goes on, the row it has marked is the row it is at (`Durable`).  Two steps leave such a
  row: a crash between the mark and what is stored after the delivery, and an operation
  of the queue that raises there, if storing the failure raises as well.

  Main results:
    * `durable_exec` — one step;
    * `queue_durable_iff` — the runs without loss are exactly those in which neither
      finds a row in `processing`.
-/
import PureBoot.Agent.Processor

namespace PureBoot.Agent

open PureBoot.Lib

/-! ## §1. What it means to lose nothing. -/

/-- While no pass is running, every item that is owed is `pending` or `failed`. -/
def NothingLost (s : State) : Prop :=
  s.pc = .idle → ∀ id ∈ s.owed, ∃ r ∈ s.queue.rows,
    r.id = id ∧ (r.status = .pending ∨ r.status = .failed)

/-- The handler of an item has returned. -/
def Pc.hasAnswer : Pc → Bool
  | .answered _ _ _ _ => true
  | _ => false

/-- The step finds a row in `processing` and is a crash, or an exception of the queue after
a delivery that is not stored either. -/
def losesItem (s : State) : Op → Bool
  | .crash => s.queue.rows.any (fun r => r.status = .processing)
  | .passRaises _ again =>
      s.pc.hasAnswer && again.isSome && s.queue.rows.any (fun r => r.status = .processing)
  | _ => false

/-- The id of the item the pass has marked. -/
def Pc.marked : Pc → Option String
  | .sending item _ _ => some item.id
  | .answered item _ _ _ => some item.id
  | _ => none

/-- The ids owed are the ids in the table, and a row in `processing` is the one the pass
is at. -/
structure Durable (s : State) : Prop where
  owed : ∀ id, id ∈ s.owed ↔ ∃ r ∈ s.queue.rows, r.id = id
  processing : ∀ r ∈ s.queue.rows, r.status = .processing → s.pc.marked = some r.id
  waiting : ∀ item ∈ s.waiting, item.status = .pending

theorem Durable.nothingLost {s : State} (h : Durable s) : NothingLost s := by
  intro hidle id hid
  obtain ⟨r, hr, hrid⟩ := (h.owed id).mp hid
  refine ⟨r, hr, hrid, ?_⟩
  cases hstatus : r.status with
  | pending => exact .inl rfl
  | failed => exact .inr rfl
  | processing =>
      have hmarked := h.processing r hr hstatus
      rw [hidle] at hmarked
      cases hmarked

/-! ## §2. One step. -/

/-- A step that leaves the table, the items owed and the marked item alone. -/
theorem Durable.of_same {s s' : State} (h : Durable s) (hqueue : s'.queue = s.queue)
    (howed : s'.owed = s.owed) (hmarked : s'.pc.marked = s.pc.marked)
    (hwaiting : ∀ item ∈ s'.waiting, item ∈ s.waiting ∨ item.status = .pending) :
    Durable s' where
  owed := by
    rw [hqueue, howed]
    exact h.owed
  processing := by
    rw [hqueue, hmarked]
    exact h.processing
  waiting := by
    intro item hitem
    rcases hwaiting item hitem with hold | hnew
    · exact h.waiting item hold
    · exact hnew

/-- One more call waits for the lock. -/
theorem Durable.of_waiting {s s' : State} {item : QueueItem} (h : Durable s)
    (hqueue : s'.queue = s.queue) (howed : s'.owed = s.owed) (hpc : s'.pc = s.pc)
    (hwaiting : s'.waiting = s.waiting ++ [item]) (hitem : item.status = .pending) :
    Durable s' := by
  refine h.of_same hqueue howed (by rw [hpc]) ?_
  intro x hx
  rw [hwaiting] at hx
  rcases List.mem_append.mp hx with hx | hx
  · exact .inl hx
  · rw [List.mem_singleton.mp hx]
    exact .inr hitem

theorem durable_enqueueOffline {s : State} {item : QueueItem} (h : Durable s)
    (hitem : item.status = .pending) : Durable (enqueueOffline s item) := by
  unfold enqueueOffline
  split
  next => exact h
  next => exact h.of_waiting rfl rfl rfl rfl hitem

theorem durable_updateNodeState {s : State} (h : Durable s) (uuid : Uuid) (node state : String)
    (now : Nat) : Durable (updateNodeState s uuid node state now) := by
  unfold updateNodeState
  dsimp only
  split
  next => exact h.of_same rfl rfl rfl (fun x hx => .inl hx)
  next => exact h.of_waiting rfl rfl rfl rfl rfl

theorem durable_insertNext {s : State} (h : Durable s) (uuid : Uuid) :
    Durable (insertNext s uuid) := by
  unfold insertNext
  split
  next => exact h
  next item waiting hwaiting =>
    have hrest : ∀ x ∈ waiting, x ∈ s.waiting := by
      intro x hx
      rw [hwaiting]
      exact List.mem_cons_of_mem item hx
    have hitem : item.status = .pending :=
      h.waiting item (by rw [hwaiting]; exact List.mem_cons_self)
    split
    next id queue henq =>
      obtain ⟨row, hrows, hid, hstatus, -, -⟩ := SyncQueue.enqueue_eq_some henq
      constructor
      · intro k
        show k ∈ s.owed ++ [id] ↔ ∃ r ∈ queue.rows, r.id = k
        rw [hrows, List.mem_append, List.mem_singleton, h.owed k]
        constructor
        · rintro (⟨r, hr, hk⟩ | rfl)
          · exact ⟨r, List.mem_append_left _ hr, hk⟩
          · exact ⟨row, List.mem_append_right _ (List.mem_singleton_self row), hid⟩
        · rintro ⟨r, hr, hk⟩
          rcases List.mem_append.mp hr with hr | hr
          · exact .inl ⟨r, hr, hk⟩
          · rw [List.mem_singleton.mp hr, hid] at hk
            exact .inr hk.symm
      · intro r hr hproc
        rw [hrows] at hr
        rcases List.mem_append.mp hr with hr | hr
        · exact h.processing r hr hproc
        · rw [List.mem_singleton.mp hr, hstatus, hitem] at hproc
          cases hproc
      · exact fun x hx => h.waiting x (hrest x hx)
    -- `enqueue` raised: no id was returned, and nothing is owed for the call
    next => exact h.of_same rfl rfl rfl (fun x hx => .inl (hrest x hx))

/-- Storing a status for the row the pass is at. -/
theorem Durable.of_set {s s' : State} {queueId : String} {f : QueueItem → QueueItem}
    (h : Durable s) (hqueue : s'.queue = s.queue.update (SyncQueue.set queueId f)
      (SyncQueue.set_id queueId f))
    (howed : s'.owed = s.owed) (hwaiting : s'.waiting = s.waiting)
    -- the row stored is the marked one after the step, or is no longer in `processing`
    (hset : s'.pc.marked = some queueId ∨ ∀ r, (f r).status ≠ .processing)
    (hother : ∀ id, id ≠ queueId → s.pc.marked = some id → s'.pc.marked = some id) :
    Durable s' where
  owed := by
    intro id
    rw [hqueue, howed, Table.exists_key_update]
    exact h.owed id
  processing := by
    rw [hqueue]
    intro x hx hproc
    obtain ⟨r, hr, rfl⟩ := Table.mem_update.mp hx
    by_cases hid : r.id = queueId
    · rw [SyncQueue.set_id]
      rw [SyncQueue.set_status hid] at hproc
      rcases hset with hmarked | hdone
      · rw [hid]
        exact hmarked
      · exact absurd hproc (hdone r)
    · rw [SyncQueue.set_of_ne hid] at hproc ⊢
      exact hother r.id hid (h.processing r hr hproc)
  waiting := by
    rw [hwaiting]
    exact h.waiting

theorem durable_dequeue {s s' : State} {queueId : String} (h : Durable s)
    (hqueue : s'.queue = s.queue.dequeue queueId)
    (howed : s'.owed = s.owed.filter (fun id => id ≠ queueId))
    (hwaiting : s'.waiting = s.waiting) (hmarked : s.pc.marked = some queueId) : Durable s' where
  owed := by
    intro id
    rw [hqueue, howed, List.mem_filter, h.owed id]
    constructor
    · rintro ⟨⟨r, hr, rfl⟩, hne⟩
      exact ⟨r, Table.mem_delete.mpr ⟨hr, by simpa using hne⟩, rfl⟩
    · rintro ⟨r, hr, rfl⟩
      obtain ⟨hr, hne⟩ := Table.mem_delete.mp hr
      exact ⟨⟨r, hr, rfl⟩, by simpa using hne⟩
  processing := by
    rw [hqueue]
    intro r hr hproc
    obtain ⟨hr, hne⟩ := Table.mem_delete.mp hr
    -- only the dequeued row was in `processing`
    have heq := h.processing r hr hproc
    rw [hmarked] at heq
    injection heq with heq
    simp [heq] at hne
  waiting := by
    rw [hwaiting]
    exact h.waiting

theorem deliver_fields (s : State) (item : QueueItem) (outcome : Outcome) :
    (deliver s item outcome).queue = s.queue ∧ (deliver s item outcome).owed = s.owed
      ∧ (deliver s item outcome).waiting = s.waiting := by
  cases outcome <;> exact ⟨rfl, rfl, rfl⟩

/-- The failure of the marked item is stored. -/
theorem durable_storeAttempt {s : State} {item : QueueItem} {rest : List QueueItem}
    {success : Bool} {result : ProcessResult} {cfg : Config} (h : Durable s)
    (hpc : s.pc = .answered item rest success result) (error : String) (result' : ProcessResult) :
    Durable { s with
      queue := storeAttempt cfg s.queue item error, pc := .batch rest result' } := by
  have hmarked : s.pc.marked = some item.id := by rw [hpc]; rfl
  have hother : ∀ id, id ≠ item.id → s.pc.marked = some id →
      (Pc.batch rest result').marked = some id := by
    intro id hne hid
    rw [hmarked] at hid
    injection hid with hid
    exact absurd hid.symm hne
  unfold storeAttempt
  split
  next => exact h.of_set rfl rfl rfl (.inr (fun r => by simp)) hother
  next => exact h.of_set rfl rfl rfl (.inr (fun r => by simp)) hother

theorem durable_passStep {s : State} (h : Durable s) (cfg : Config) (now : Nat)
    (outcome : Outcome) : Durable (passStep cfg s now outcome) := by
  have hkeep : ∀ x ∈ s.waiting, x ∈ s.waiting ∨ x.status = .pending := fun x hx => .inl hx
  unfold passStep
  split
  next => exact h
  next result hpc =>
    -- the head of the loop marks nothing
    have hmarked : s.pc.marked = none := by rw [hpc]; rfl
    split
    next =>
      split
      next => exact h.of_same rfl rfl hmarked.symm hkeep
      next => exact h.of_same rfl rfl hmarked.symm hkeep
    next => exact h.of_same rfl rfl hmarked.symm hkeep
  next result hpc =>
    have hmarked : s.pc.marked = none := by rw [hpc]; rfl
    exact h.of_same rfl rfl hmarked.symm hkeep
  next item rest result hpc =>
    have hmarked : s.pc.marked = none := by rw [hpc]; rfl
    split
    next =>
      refine h.of_set rfl rfl rfl (.inl rfl) ?_
      intro id _ hid
      rw [hmarked] at hid
      cases hid
    next => exact h.of_same rfl rfl hmarked.symm hkeep
  next item rest result hpc =>
    have hmarked : s.pc.marked = some item.id := by rw [hpc]; rfl
    split
    next =>
      obtain ⟨hqueue, howed, hwaiting⟩ := deliver_fields s item outcome
      refine h.of_same hqueue howed hmarked.symm ?_
      intro x hx
      rw [show x ∈ s.waiting ↔ x ∈ (deliver s item outcome).waiting by rw [hwaiting]]
      exact .inl hx
    next => exact h.of_same rfl rfl hmarked.symm hkeep
  next item rest result hpc =>
    have hmarked : s.pc.marked = some item.id := by rw [hpc]; rfl
    exact durable_dequeue h rfl rfl rfl hmarked
  next item rest result hpc =>
    exact durable_storeAttempt h hpc _ _
  next result hpc =>
    have hmarked : s.pc.marked = none := by rw [hpc]; rfl
    exact h.of_same rfl rfl hmarked.symm hkeep

/-- The pass ends with an exception, and no row is in `processing`. -/
theorem durable_abortPass {s : State} (h : Durable s) (result : ProcessResult) (error : String)
    (hquiet : ∀ r ∈ s.queue.rows, r.status ≠ .processing) : Durable (abortPass s result error) where
  owed := h.owed
  processing := by
    intro r hr hproc
    exact absurd hproc (hquiet r hr)
  waiting := h.waiting

/-- Where nothing is marked, no row is in `processing`. -/
theorem Durable.quiet {s : State} (h : Durable s) (hmarked : s.pc.marked = none) :
    ∀ r ∈ s.queue.rows, r.status ≠ .processing := by
  intro r hr hproc
  have hrow := h.processing r hr hproc
  rw [hmarked] at hrow
  cases hrow

theorem durable_passRaises {s : State} {error : String} {again : Option String} (h : Durable s)
    (cfg : Config) (hguard : losesItem s (.passRaises error again) = false) :
    Durable (passRaises cfg s error again) := by
  unfold passRaises
  split
  next result hpc =>
    split
    next => exact durable_abortPass h result error (h.quiet (by rw [hpc]; rfl))
    next => exact h
  next item rest result hpc =>
    split
    next => exact durable_abortPass h result error (h.quiet (by rw [hpc]; rfl))
    next => exact h
  next item rest success result hpc =>
    split
    next => exact durable_storeAttempt h hpc error _
    next error' =>
      refine durable_abortPass h result error' ?_
      intro r hr hproc
      have hlost : losesItem s (.passRaises error (some error')) = true := by
        simp only [losesItem, hpc, Pc.hasAnswer, Option.isSome_some, Bool.and_self,
          Bool.true_and, List.any_eq_true, decide_eq_true_eq]
        exact ⟨r, hr, hproc⟩
      rw [hguard] at hlost
      cases hlost
  next result hpc => exact durable_abortPass h result error (h.quiet (by rw [hpc]; rfl))
  next => exact h
  next => exact h
  next => exact h

theorem durable_execEvent {s : State} (h : Durable s) (cfg : Config) (e : Event) :
    Durable (execEvent cfg s e) := by
  cases e with
  | updateNodeState uuid node state now => exact durable_updateNodeState h uuid node state now
  | registerNode uuid now => exact durable_enqueueOffline h rfl
  | reportNodeEvent uuid node now => exact durable_enqueueOffline h rfl
  | insertNext uuid => exact durable_insertNext h uuid
  | arrive i accept =>
      show Durable (arrive s i accept)
      unfold arrive
      split
      next => exact h
      next => exact h.of_same rfl rfl rfl (fun x hx => .inl hx)
  | connectivity online => exact h.of_same rfl rfl rfl (fun x hx => .inl hx)
  | setRunning running => exact h.of_same rfl rfl rfl (fun x hx => .inl hx)
  | processQueue =>
      show Durable (processQueue s)
      unfold processQueue
      split
      next hpc =>
        have hmarked : s.pc.marked = none := by rw [hpc]; rfl
        exact h.of_same rfl rfl hmarked.symm (fun x hx => .inl hx)
      next => exact h
  | passStep now outcome => exact durable_passStep h cfg now outcome

theorem retried_processing {r : QueueItem} (h : (SyncQueue.retried r).status = .processing) :
    SyncQueue.retried r = r := by
  unfold SyncQueue.retried at h ⊢
  split at h
  next => cases h
  next hne => exact if_neg hne

theorem durable_retryFailed {s : State} (h : Durable s) :
    Durable { s with queue := s.queue.retryFailed } where
  owed := by
    intro id
    show id ∈ s.owed ↔ ∃ r ∈ s.queue.retryFailed.rows, r.id = id
    unfold SyncQueue.retryFailed
    rw [Table.exists_key_update]
    exact h.owed id
  processing := by
    intro x hx hproc
    have hx : x ∈ (s.queue.update SyncQueue.retried SyncQueue.retried_id).rows := hx
    obtain ⟨r, hr, rfl⟩ := Table.mem_update.mp hx
    have hsame := retried_processing hproc
    rw [hsame] at hproc ⊢
    exact h.processing r hr hproc
  waiting := h.waiting

theorem durable_clearFailed {s : State} (h : Durable s) : Durable (clearFailed s) where
  owed := by
    intro id
    show id ∈ s.owed.filter _ ↔ ∃ r ∈ s.queue.clearFailed.rows, r.id = id
    rw [List.mem_filter, h.owed id]
    constructor
    · rintro ⟨⟨r, hr, rfl⟩, hkept⟩
      refine ⟨r, Table.mem_delete.mpr ⟨hr, ?_⟩, rfl⟩
      by_contra hfailed
      rw [Bool.not_eq_false, decide_eq_true_eq] at hfailed
      rw [Bool.not_eq_true', List.any_eq_false] at hkept
      exact hkept r hr (by simp [hfailed])
    · rintro ⟨r, hr, rfl⟩
      obtain ⟨hr, hkept⟩ := Table.mem_delete.mp hr
      refine ⟨⟨r, hr, rfl⟩, ?_⟩
      by_contra hany
      rw [Bool.not_eq_true', Bool.not_eq_false, List.any_eq_true] at hany
      obtain ⟨x, hx, hfailed⟩ := hany
      rw [decide_eq_true_eq] at hfailed
      -- the failed row with this id is the row that was kept
      obtain rfl : x = r := s.queue.eq_of_key_eq hx hr hfailed.1
      simp [hfailed.2] at hkept
  processing := by
    intro r hr hproc
    exact h.processing r (Table.mem_delete.mp hr).1 hproc
  waiting := h.waiting

/-- A crash that finds no row in `processing`. -/
theorem durable_crash {s : State} (h : Durable s)
    (hquiet : s.queue.rows.any (fun r => r.status = .processing) = false) :
    Durable (crash s) where
  owed := h.owed
  processing := by
    intro r hr hproc
    rw [List.any_eq_false] at hquiet
    exact absurd (by simpa using hproc) (hquiet r hr)
  waiting := by
    intro item hitem
    cases hitem

/-- **ONE STEP.** -/
theorem durable_exec (cfg : Config) (s : State) (op : Op) (h : Durable s)
    (hguard : losesItem s op = false) : Durable (exec cfg s op) := by
  cases op with
  | event e => exact durable_execEvent h cfg e
  | enqueue item hstatus => exact h.of_waiting rfl rfl rfl rfl hstatus
  | retryFailed => exact durable_retryFailed h
  | clearFailed => exact durable_clearFailed h
  | insertRaises =>
      exact h.of_same rfl rfl rfl (fun x hx => .inl (List.mem_of_mem_tail hx))
  | passRaises error again => exact durable_passRaises h cfg hguard
  | crash => exact durable_crash h hguard

/-- A row in `processing` that no pass is at is lost. -/
theorem lost_of_processing {s s' : State} (h : Durable s) (hqueue : s'.queue = s.queue)
    (howed : s'.owed = s.owed) (hidle : s'.pc = .idle)
    (hany : s.queue.rows.any (fun r => r.status = .processing) = true) : ¬ NothingLost s' := by
  intro hsafe
  rw [List.any_eq_true] at hany
  obtain ⟨r, hr, hproc⟩ := hany
  rw [decide_eq_true_eq] at hproc
  have hmem : r.id ∈ s'.owed := by
    rw [howed]
    exact (h.owed r.id).mpr ⟨r, hr, rfl⟩
  obtain ⟨x, hx, hid, hstatus⟩ := hsafe hidle r.id hmem
  rw [hqueue] at hx
  obtain rfl : x = r := s.queue.eq_of_key_eq hx hr hid
  rw [hproc] at hstatus
  rcases hstatus with hstatus | hstatus
  · cases hstatus
  · cases hstatus

/-- The steps that leave a row in `processing` lose it. -/
theorem lost_of_losesItem {cfg : Config} {s : State} {op : Op} (h : Durable s)
    (hlose : losesItem s op = true) : ¬ NothingLost (exec cfg s op) := by
  cases op with
  | event e => cases hlose
  | enqueue item hstatus => cases hlose
  | retryFailed => cases hlose
  | clearFailed => cases hlose
  | insertRaises => cases hlose
  | passRaises error again =>
      simp only [losesItem, Bool.and_eq_true] at hlose
      obtain ⟨⟨hanswer, hagain⟩, hany⟩ := hlose
      obtain ⟨error', rfl⟩ := Option.isSome_iff_exists.mp hagain
      show ¬ NothingLost (passRaises cfg s error (some error'))
      cases hpc : s.pc with
      | answered item rest success result =>
          unfold passRaises
          rw [hpc]
          exact lost_of_processing h rfl rfl rfl hany
      | idle | loop | batch | sending | closing =>
          rw [hpc] at hanswer
          cases hanswer
  | crash => exact lost_of_processing h rfl rfl rfl hlose

/-! ## §3. Whole runs. -/

theorem durable_start : Durable {} where
  owed := by
    intro id
    constructor
    · intro hid
      cases hid
    · rintro ⟨r, hr, -⟩
      cases hr
  processing := by
    intro r hr
    cases hr
  waiting := by
    intro item hitem
    cases hitem

/-- **NO QUEUED ITEM IS LOST, EXACTLY IN THE RUNS** in which no row in `processing` is found
by a crash, or by an exception of the queue that is not stored. -/
theorem queue_durable_iff (cfg : Config) (ops : List Op) :
    Always (exec cfg) NothingLost {} ops ↔
      Along (exec cfg) (fun s op => losesItem s op = false) {} ops := by
  refine always_iff_along (L := fun _ => True)
    (fun s op _ h hguard => durable_exec cfg s op h hguard) (fun s h => h.nothingLost) ?_
    (fun _ _ => trivial) durable_start
  intro s op _ h hguard
  rw [Bool.not_eq_false] at hguard
  exact lost_of_losesItem h hguard

/-- A uuid for a run. -/
def uuid (text : String) (h : text ≠ "") : Uuid := ⟨text, h⟩

/-- The uuid of the first call, and that of a row. -/
def firstUuid : Uuid := uuid "1" (by decide)

def rowUuid : Uuid := uuid "u" (by decide)

/-- An item is queued offline; the pass after reconnecting has marked it, and the agent
dies before it hears from central. -/
def crashRun : List Op :=
  [.event (.setRunning true), .event (.connectivity false),
   .event (.updateNodeState firstUuid "n" "active" 0),
   .event (.insertNext rowUuid), .event (.connectivity true),
   .event .processQueue, .event (.passStep 1 .refused), .event (.passStep 2 .refused), .crash]

/-- The same pass hears that central took the item; `dequeue` is run on another thread, and
so is `mark_pending` then. -/
def raisingRun : List Op :=
  [.event (.setRunning true), .event (.connectivity false),
   .event (.updateNodeState firstUuid "n" "active" 0),
   .event (.insertNext rowUuid), .event (.connectivity true),
   .event .processQueue, .event (.passStep 1 .accepted), .event (.passStep 2 .accepted),
   .event (.passStep 3 .accepted), .passRaises "dequeue" (some "mark_pending")]

/-- A run that ends with a row in `processing` and no pass has lost it. -/
theorem not_nothingLost_of_last {ops : List Op}
    (hidle : (run (exec {}) {} ops).pc = .idle) (howed : "1" ∈ (run (exec {}) {} ops).owed)
    (hrows : (run (exec {}) {} ops).queue.rows.map QueueItem.status = [.processing]) :
    ¬ Always (exec {}) NothingLost {} ops := by
  intro h
  obtain ⟨r, hr, -, hstatus⟩ := h.last hidle "1" howed
  have hmem : r.status ∈ (run (exec {}) {} ops).queue.rows.map QueueItem.status :=
    List.mem_map_of_mem hr
  rw [hrows, List.mem_singleton] at hmem
  rw [hmem] at hstatus
  rcases hstatus with hstatus | hstatus
  · cases hstatus
  · cases hstatus

theorem queue_item_lost_by_crash :
    ¬ Always (exec {}) NothingLost {} crashRun ∧ ¬ Always (exec {}) NothingLost {} raisingRun :=
  ⟨not_nothingLost_of_last (by decide) (by decide) (by decide),
    not_nothingLost_of_last (by decide) (by decide) (by decide)⟩

end PureBoot.Agent
