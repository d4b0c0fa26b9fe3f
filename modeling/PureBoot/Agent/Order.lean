/-
  PureBoot.Agent.Order — in which order central gets the updates of a node.

  The agent sends an update directly when it is online and through the queue when it
  is offline, and nothing orders the two ways: a direct update overtakes what is still
  in the queue, two direct ones overtake each other, and the queue itself goes on with
  a node's later updates after an earlier one has failed and is to be retried.  A run
  without these overtakings (`overtakes`) keeps the order.

  For each node the updates in line are read off the state (`backlog`): the rows of the
  queue that were neither delivered nor given up, then the calls that wait for the lock
  of the queue.  `Line` says that what central has accepted, followed by the backlog
  and by what is on its way outside the queue, was asked for in this order, and that
  the batch under way goes through the backlog from its head.

  Main results:
    * `line_execEvent` — one event;
    * `updates_in_order_run` — whole runs.
-/
import PureBoot.Agent.Durable
import PureBoot.Lib.InTurn

namespace PureBoot.Agent

open PureBoot.Lib
open scoped List

/-! ## §1. The order central sees. -/

/-- The calls for a node, in order. -/
def callsOf (s : State) (n : String) : List Call := s.calls.filter (fun c => c.node = n)

/-- What central has accepted for a node, in order. -/
def acceptedOf (s : State) (n : String) : List Call := s.accepted.filter (fun c => c.node = n)

/-- What is on its way to central outside a pass, for a node. -/
def flightOf (s : State) (n : String) : List Call := s.flight.filter (fun c => c.node = n)

/-- For every node, central has accepted updates in the order of the calls. -/
def InOrder (s : State) : Prop :=
  ∀ n, acceptedOf s n <+ callsOf s n

/-! ## §2. The backlog of a node. -/

/-- An update in line and its `created_at`. -/
abbrev Entry : Type := Call × Nat

/-- The update of node `n` an item stands for. -/
def QueueItem.entryFor? (n : String) (item : QueueItem) : Option Entry :=
  (item.call?.filter (fun c => c.node = n)).map (fun c => (c, item.createdAt))

/-- The same, unless the item was given up. -/
def QueueItem.inLine? (n : String) (r : QueueItem) : Option Entry :=
  if r.status = .failed then none else r.entryFor? n

/-- The updates of node `n` in the queue. -/
def stored (n : String) (rows : List QueueItem) : List Entry :=
  rows.filterMap (QueueItem.inLine? n)

def without (id : String) (l : List Entry) : List Entry :=
  l.filter (fun e => e.1.id ≠ id)

/-- The id of the item that was delivered and not dequeued yet. -/
def Pc.delivered : Pc → Option String
  | .answered item _ true _ => some item.id
  | _ => none

/-- The updates of node `n` in the queue that central does not have. -/
def live (s : State) (n : String) : List Entry :=
  match s.pc.delivered with
  | none => stored n s.queue.rows
  | some id => without id (stored n s.queue.rows)

/-- With those of the calls that wait for the lock. -/
def backlog (s : State) (n : String) : List Entry :=
  live s n ++ s.waiting.filterMap (QueueItem.entryFor? n)

/-- An event that lets a later update of a node get ahead of an earlier one: a call
while the node has an update on its way, a direct call while it has a backlog, an
offline call whose clock reading is before one of the backlog; and a failed delivery
that may still reach central, or that will be retried although the batch goes on with
the same node. -/
def overtakes (cfg : Config) (s : State) : Event → Bool
  | .updateNodeState _ node _ now =>
      !(flightOf s node).isEmpty ||
        (if s.online then !(backlog s node).isEmpty
          else (backlog s node).any (fun e => now < e.2))
  | .passStep _ outcome =>
      match s.pc with
      | .sending item rest _ => item.call?.any (fun call =>
          match outcome with
          | .accepted => false
          | .refused => decide (item.attempts < cfg.maxRetries)
              && rest.any (fun r => (r.entryFor? call.node).isSome)
          | .unanswered => true)
      | _ => false
  | _ => false

/-! ## §3. Entries. -/

theorem call?_id {item : QueueItem} {c : Call} (h : item.call? = some c) : c.id = item.id := by
  unfold QueueItem.call? at h
  split at h
  next =>
    injection h with h
    rw [← h]
  next => cases h

theorem entryFor?_eq_some {n : String} {item : QueueItem} {e : Entry} :
    item.entryFor? n = some e ↔ item.call? = some e.1 ∧ e.1.node = n ∧ e.2 = item.createdAt := by
  unfold QueueItem.entryFor?
  rw [Option.map_eq_some_iff]
  constructor
  · rintro ⟨c, hc, rfl⟩
    obtain ⟨hcall, hnode⟩ := Option.filter_eq_some_iff.mp hc
    exact ⟨hcall, by simpa using hnode, rfl⟩
  · rintro ⟨hcall, hnode, htime⟩
    refine ⟨e.1, Option.filter_eq_some_iff.mpr ⟨hcall, by simpa using hnode⟩, ?_⟩
    rw [← htime]

theorem entryFor?_id {n : String} {item : QueueItem} {e : Entry} (h : item.entryFor? n = some e) :
    e.1.id = item.id :=
  call?_id (entryFor?_eq_some.mp h).1

/-- An entry is read off four fields. -/
theorem entryFor?_congr {r r' : QueueItem} (n : String) (hid : r'.id = r.id)
    (htype : r'.itemType = r.itemType) (hpayload : r'.payload = r.payload)
    (htime : r'.createdAt = r.createdAt) : r'.entryFor? n = r.entryFor? n := by
  unfold QueueItem.entryFor? QueueItem.call?
  rw [hid, htype, hpayload, htime]

theorem entryFor?_of_call?_none {item : QueueItem} (h : item.call? = none) (n : String) :
    item.entryFor? n = none := by
  unfold QueueItem.entryFor?
  rw [h]
  rfl

theorem inLine?_eq_some {n : String} {r : QueueItem} {e : Entry} :
    r.inLine? n = some e ↔ r.status ≠ .failed ∧ r.entryFor? n = some e := by
  unfold QueueItem.inLine?
  split
  next h => simp [h]
  next h => simp [h]

theorem mem_stored {n : String} {rows : List QueueItem} {e : Entry} :
    e ∈ stored n rows ↔ ∃ r ∈ rows, r.status ≠ .failed ∧ r.entryFor? n = some e := by
  unfold stored
  rw [List.mem_filterMap]
  simp only [inLine?_eq_some]

theorem stored_ids (n : String) :
    ∀ rows : List QueueItem, (stored n rows).map (fun e => e.1.id) <+ rows.map QueueItem.id
  | [] => List.Sublist.refl []
  | r :: rows => by
      have ih := stored_ids n rows
      unfold stored at ih ⊢
      cases h : r.inLine? n with
      | none =>
          rw [List.filterMap_cons_none h]
          exact ih.cons _
      | some e =>
          rw [List.filterMap_cons_some h, List.map_cons, List.map_cons,
            entryFor?_id (inLine?_eq_some.mp h).2]
          exact ih.cons_cons _

theorem stored_append (n : String) (rows : List QueueItem) {r : QueueItem}
    (h : r.status ≠ .failed) :
    stored n (rows ++ [r]) = stored n rows ++ (r.entryFor? n).toList := by
  unfold stored
  rw [List.filterMap_append]
  congr 1
  have hline : r.inLine? n = r.entryFor? n := if_neg h
  cases hentry : r.entryFor? n with
  | none => rw [List.filterMap_cons_none (hline.trans hentry)]; rfl
  | some e => rw [List.filterMap_cons_some (hline.trans hentry)]; rfl

/-- Dropping an id from the line is not reading its row. -/
theorem without_stored (id n : String) (rows : List QueueItem) :
    without id (stored n rows)
      = rows.filterMap (fun r => if r.id = id then none else r.inLine? n) := by
  unfold without stored
  rw [List.filter_filterMap]
  refine List.filterMap_congr (fun r _ => ?_)
  cases h : r.inLine? n with
  | none => simp
  | some e =>
      have hid := entryFor?_id (inLine?_eq_some.mp h).2
      by_cases hr : r.id = id
      · simp [hid, hr, Option.filter]
      · simp [hid, hr, Option.filter]

theorem stored_dequeue (n id : String) (q : SyncQueue) :
    stored n (q.dequeue id).rows = without id (stored n q.rows) := by
  rw [without_stored]
  show (q.rows.filter _).filterMap _ = _
  rw [List.filterMap_filter]
  refine List.filterMap_congr (fun r _ => ?_)
  by_cases hr : r.id = id
  · simp [hr]
  · simp [hr]

/-- A change of a row that is not about what it stands for. -/
def KeepsEntry (f : QueueItem → QueueItem) : Prop :=
  ∀ r, (f r).itemType = r.itemType ∧ (f r).payload = r.payload ∧ (f r).createdAt = r.createdAt

theorem entryFor?_set {id n : String} {f : QueueItem → QueueItem} (hf : KeepsEntry f)
    (r : QueueItem) :
    (SyncQueue.set id f r).entryFor? n = r.entryFor? n := by
  unfold SyncQueue.set
  split
  next => exact entryFor?_congr n rfl (hf r).1 (hf r).2.1 (hf r).2.2
  next => rfl

theorem stored_set {n id : String} {f : QueueItem → QueueItem} {rows : List QueueItem}
    (hf : KeepsEntry f) (hstatus : ∀ r, (f r).status ≠ .failed)
    (hrow : ∀ r ∈ rows, r.id = id → r.status ≠ .failed) :
    stored n (rows.map (SyncQueue.set id f)) = stored n rows := by
  unfold stored
  rw [List.filterMap_map]
  refine List.filterMap_congr (fun r hr => ?_)
  show (SyncQueue.set id f r).inLine? n = r.inLine? n
  by_cases hid : r.id = id
  · have hnew : (SyncQueue.set id f r).status ≠ .failed := by
      rw [SyncQueue.set_status hid]
      exact hstatus r
    unfold QueueItem.inLine?
    rw [if_neg hnew, if_neg (hrow r hr hid), entryFor?_set hf]
  · rw [SyncQueue.set_of_ne hid]

theorem stored_setFailed {n id : String} {f : QueueItem → QueueItem} {rows : List QueueItem}
    (hstatus : ∀ r, (f r).status = .failed) :
    stored n (rows.map (SyncQueue.set id f)) = without id (stored n rows) := by
  rw [without_stored]
  unfold stored
  rw [List.filterMap_map]
  refine List.filterMap_congr (fun r _ => ?_)
  show (SyncQueue.set id f r).inLine? n = _
  by_cases hid : r.id = id
  · have hnew : (SyncQueue.set id f r).status = .failed := by
      rw [SyncQueue.set_status hid]
      exact hstatus r
    rw [if_pos hid]
    exact if_pos hnew
  · rw [SyncQueue.set_of_ne hid, if_neg hid]

/-- **THE HEAD OF THE BATCH IS THE HEAD OF THE LINE**: taking an item out of the line
takes its entry off the front, and the rest of the batch is next. -/
theorem without_head {n : String} {q : SyncQueue} {item : QueueItem} {rest : List QueueItem}
    (hrow : ∃ r ∈ q.rows, r.id = item.id ∧ r.entryFor? n = item.entryFor? n)
    (hbatch : (item :: rest).filterMap (QueueItem.entryFor? n) <+: stored n q.rows) :
    stored n q.rows = (item.entryFor? n).toList ++ without item.id (stored n q.rows) ∧
      rest.filterMap (QueueItem.entryFor? n) <+: without item.id (stored n q.rows) := by
  cases hentry : item.entryFor? n with
  | none =>
      -- not an update of this node: nothing goes
      have hkeep : without item.id (stored n q.rows) = stored n q.rows := by
        unfold without
        rw [List.filter_eq_self]
        intro e he
        obtain ⟨r', hr', -, hentry'⟩ := mem_stored.mp he
        obtain ⟨r, hr, hid, hsame⟩ := hrow
        rw [decide_eq_true_eq]
        intro hideq
        have heq : r' = r := by
          apply q.eq_of_key_eq hr' hr
          rw [hid, ← hideq, entryFor?_id hentry']
        rw [heq, hsame, hentry] at hentry'
        cases hentry'
      rw [List.filterMap_cons_none hentry] at hbatch
      rw [hkeep]
      exact ⟨rfl, hbatch⟩
  | some e =>
      rw [List.filterMap_cons_some hentry] at hbatch
      obtain ⟨tail, htail⟩ := hbatch
      have hids := q.nodup.sublist (stored_ids n q.rows)
      rw [← htail, List.cons_append, List.map_cons, List.nodup_cons, entryFor?_id hentry] at hids
      have hwithout : without item.id (stored n q.rows)
          = rest.filterMap (QueueItem.entryFor? n) ++ tail := by
        unfold without
        rw [← htail, List.cons_append, List.filter_cons_of_neg (by simp [entryFor?_id hentry]),
          List.filter_eq_self]
        intro e' he'
        rw [decide_eq_true_eq]
        intro hid
        exact hids.1 (List.mem_map.mpr ⟨e', he', hid⟩)
      rw [hwithout]
      exact ⟨htail.symm, List.prefix_append _ _⟩

/-! ## §4. The invariant. -/

/-- Central, the backlog and the updates on their way are in the order of the calls; the
backlog is in the order `peek` reads; and an update is on its way only alone. -/
structure Turn (s : State) (n : String) : Prop where
  order : InTurn (callsOf s n) ((backlog s n).map Prod.fst ++ flightOf s n) (acceptedOf s n)
  sorted : (backlog s n).Pairwise (fun e e' => e.2 ≤ e'.2)
  alone : flightOf s n ≠ [] → backlog s n = [] ∧ (flightOf s n).length = 1

/-- The items of the batch that have a row, the one being processed included. -/
def Pc.held : Pc → List QueueItem
  | .batch items _ => items
  | .sending item rest _ => item :: rest
  | .answered item rest _ _ => item :: rest
  | _ => []

/-- The items of the batch that are to be delivered in this order before the next
`peek`; an item that will be retried is not one of them. -/
def Pc.todo (cfg : Config) : Pc → List QueueItem
  | .batch items _ => items
  | .sending item rest _ => item :: rest
  | .answered _ rest true _ => rest
  | .answered item rest false _ => if cfg.maxRetries ≤ item.attempts then item :: rest else rest
  | _ => []

/-- The item has a row, not given up, that stands for the same update. -/
def HasRow (q : SyncQueue) (item : QueueItem) : Prop :=
  ∃ r ∈ q.rows, r.id = item.id ∧ r.status ≠ .failed ∧ ∀ n, r.entryFor? n = item.entryFor? n

structure Line (cfg : Config) (s : State) : Prop where
  durable : Durable s
  names : ∀ item ∈ s.waiting, item.id ≠ ""
  turn : ∀ n, Turn s n
  held : ∀ item ∈ s.pc.held, HasRow s.queue item
  nodup : (s.pc.held.map QueueItem.id).Nodup
  batch : ∀ n, (s.pc.todo cfg).filterMap (QueueItem.entryFor? n) <+: live s n

theorem Line.inOrder {cfg : Config} {s : State} (h : Line cfg s) : InOrder s :=
  fun n => (h.turn n).order.inOrder

theorem Turn.congr {s s' : State} {n : String} (h : Turn s n)
    (hbacklog : backlog s' n = backlog s n) (hflight : flightOf s' n = flightOf s n)
    (hcalls : callsOf s' n = callsOf s n) (haccepted : acceptedOf s' n = acceptedOf s n) :
    Turn s' n where
  order := by
    rw [hbacklog, hflight, hcalls, haccepted]
    exact h.order
  sorted := by
    rw [hbacklog]
    exact h.sorted
  alone := by
    rw [hbacklog, hflight]
    exact h.alone

/-- Some of the line may be given up. -/
theorem Turn.drop {s s' : State} {n : String} (h : Turn s n)
    (hbacklog : backlog s' n <+ backlog s n) (hflight : flightOf s' n = flightOf s n)
    (hcalls : callsOf s' n = callsOf s n) (haccepted : acceptedOf s' n = acceptedOf s n) :
    Turn s' n where
  order := by
    rw [hflight, hcalls, haccepted]
    exact h.order.drop (List.Sublist.append (hbacklog.map Prod.fst) (List.Sublist.refl _))
  sorted := h.sorted.sublist hbacklog
  alone := by
    intro hne
    rw [hflight] at hne ⊢
    obtain ⟨hempty, hone⟩ := h.alone hne
    rw [hempty] at hbacklog
    exact ⟨List.sublist_nil.mp hbacklog, hone⟩

/-- A step of the pass that delivers nothing and stores nothing. -/
theorem Line.of_pc {cfg : Config} {s : State} {pc : Pc} {last : Option ProcessResult}
    {online running : Bool} (h : Line cfg s)
    (hdurable : Durable { s with pc, lastResult := last, online, running })
    (hdelivered : pc.delivered = s.pc.delivered) (hheld : pc.held <+ s.pc.held)
    (hbatch : ∀ n, (pc.todo cfg).filterMap (QueueItem.entryFor? n) <+: live s n) :
    Line cfg { s with pc, lastResult := last, online, running } := by
  have hlive : ∀ n, live { s with pc, lastResult := last, online, running } n = live s n := by
    intro n
    unfold live
    dsimp only
    rw [hdelivered]
  refine ⟨hdurable, h.names, ?_, ?_, ?_, ?_⟩
  · intro n
    refine (h.turn n).congr ?_ rfl rfl rfl
    unfold backlog
    rw [hlive n]
  · exact fun item hitem => h.held item (hheld.subset hitem)
  · exact h.nodup.sublist (hheld.map _)
  · intro n
    rw [hlive n]
    exact hbatch n

/-! ## §5. Calls. -/

theorem filter_append_of_ne {n : String} {c : Call} (l : List Call) (h : c.node ≠ n) :
    (l ++ [c]).filter (fun c => c.node = n) = l.filter (fun c => c.node = n) := by
  rw [List.filter_append, List.filter_cons_of_neg (by simpa using h)]
  simp

theorem filter_append_of_eq {n : String} {c : Call} (l : List Call) (h : c.node = n) :
    (l ++ [c]).filter (fun c => c.node = n) = l.filter (fun c => c.node = n) ++ [c] := by
  rw [List.filter_append, List.filter_cons_of_pos (by simpa using h)]
  simp

/-- The entry of the item of an offline call. -/
theorem entryFor?_queued {uuid : Uuid} {node state n : String} {now : Nat} {e : Entry}
    (h : (queued uuid .stateUpdate { nodeId := some node, newState := some state } now).entryFor? n
      = some e) :
    e = (⟨uuid.text, node, state⟩, now) ∧ node = n := by
  obtain ⟨hcall, hnode, htime⟩ := entryFor?_eq_some.mp h
  have hcall' : e.1 = ⟨uuid.text, node, state⟩ := by
    unfold QueueItem.call? at hcall
    split at hcall
    next node' state' hn hs =>
      obtain ⟨hn, -⟩ := Option.filter_eq_some_iff.mp hn
      obtain ⟨hs, -⟩ := Option.filter_eq_some_iff.mp hs
      injection hcall with hcall
      injection hn with hn
      injection hs with hs
      rw [← hcall, ← hn, ← hs]
      rfl
    next => cases hcall
  refine ⟨Prod.ext hcall' htime, ?_⟩
  rw [hcall'] at hnode
  exact hnode

/-- One more call waits for the lock. -/
theorem backlog_waiting {s s' : State} {n : String} {item : QueueItem}
    (hlive : live s' n = live s n) (hwaiting : s'.waiting = s.waiting ++ [item]) :
    backlog s' n = backlog s n ++ (item.entryFor? n).toList := by
  unfold backlog
  rw [hlive, hwaiting, List.filterMap_append, List.append_assoc]
  cases hentry : item.entryFor? n with
  | none => rw [List.filterMap_cons_none hentry]; rfl
  | some e => rw [List.filterMap_cons_some hentry]; rfl

/-- A direct call: for its own node nothing else may be under way. -/
theorem Turn.direct {s s' : State} {n : String} {c : Call} (h : Turn s n)
    (hcalls : s'.calls = s.calls ++ [c]) (hflight : s'.flight = s.flight ++ [c])
    (haccepted : s'.accepted = s.accepted) (hbacklog : backlog s' n = backlog s n)
    (hclear : c.node = n → flightOf s n = [] ∧ backlog s n = []) : Turn s' n := by
  have haccepted' : acceptedOf s' n = acceptedOf s n := by
    unfold acceptedOf
    rw [haccepted]
  by_cases hn : c.node = n
  -- its own node: the call is the only one under way, so it is next
  · obtain ⟨hflight₀, hbacklog₀⟩ := hclear hn
    have hcalls' : callsOf s' n = callsOf s n ++ [c] := by
      unfold callsOf
      rw [hcalls, filter_append_of_eq s.calls hn]
    have hflight' : flightOf s' n = [c] := by
      unfold flightOf
      rw [hflight, filter_append_of_eq s.flight hn]
      show flightOf s n ++ [c] = [c]
      rw [hflight₀, List.nil_append]
    have horder := h.order.ask c
    rw [hbacklog₀, hflight₀] at horder
    constructor
    · rw [hcalls', hflight', haccepted', hbacklog, hbacklog₀]
      exact horder
    · rw [hbacklog]
      exact h.sorted
    · intro _
      rw [hbacklog, hflight']
      exact ⟨hbacklog₀, rfl⟩
  -- another node sees neither the call nor its flight
  · refine h.congr hbacklog ?_ ?_ haccepted'
    · unfold flightOf
      rw [hflight, filter_append_of_ne s.flight hn]
    · unfold callsOf
      rw [hcalls, filter_append_of_ne s.calls hn]

/-- A call that goes to the end of the line of its node, or that asks for nothing. -/
theorem Turn.enqueue {s s' : State} {n : String} {c : Call} {e? : Option Entry} (h : Turn s n)
    (hcalls : s'.calls = s.calls ++ [c]) (hflight : s'.flight = s.flight)
    (haccepted : s'.accepted = s.accepted)
    (hbacklog : backlog s' n = backlog s n ++ e?.toList)
    (hentry : ∀ e, e? = some e → e.1 = c ∧ c.node = n ∧ flightOf s n = []
      ∧ ∀ e' ∈ backlog s n, e'.2 ≤ e.2) : Turn s' n := by
  have haccepted' : acceptedOf s' n = acceptedOf s n := by
    unfold acceptedOf
    rw [haccepted]
  have hflight' : flightOf s' n = flightOf s n := by
    unfold flightOf
    rw [hflight]
  -- a call without an entry was asked in vain, one with an entry is last in the line
  cases e? with
  | none =>
      have hsame : backlog s' n = backlog s n := by
        rw [hbacklog]
        exact List.append_nil _
      by_cases hn : c.node = n
      · refine ⟨?_, ?_, ?_⟩
        · have hcalls' : callsOf s' n = callsOf s n ++ [c] := by
            unfold callsOf
            rw [hcalls, filter_append_of_eq s.calls hn]
          rw [hcalls', hsame, hflight', haccepted']
          exact h.order.askInVain c
        · rw [hsame]
          exact h.sorted
        · rw [hsame, hflight']
          exact h.alone
      · refine h.congr hsame hflight' ?_ haccepted'
        unfold callsOf
        rw [hcalls, filter_append_of_ne s.calls hn]
  | some e =>
      obtain ⟨rfl, hn, hflight₀, hlate⟩ := hentry e rfl
      have hcalls' : callsOf s' n = callsOf s n ++ [e.1] := by
        unfold callsOf
        rw [hcalls, filter_append_of_eq s.calls hn]
      have hlast : backlog s' n = backlog s n ++ [e] := hbacklog
      have horder := h.order.ask e.1
      rw [hflight₀, List.append_nil] at horder
      refine ⟨?_, ?_, ?_⟩
      · rw [hcalls', hlast, hflight', hflight₀, haccepted', List.append_nil, List.map_append]
        exact horder
      · rw [hlast, List.pairwise_append]
        refine ⟨h.sorted, List.pairwise_singleton _ _, ?_⟩
        intro e' he' e'' he''
        rw [List.mem_singleton.mp he'']
        exact hlate e' he'
      · intro hne
        rw [hflight', hflight₀] at hne
        exact absurd rfl hne

theorem Line.names_append {cfg : Config} {s : State} (h : Line cfg s) {item : QueueItem}
    (hid : item.id ≠ "") : ∀ x ∈ s.waiting ++ [item], x.id ≠ "" := by
  intro x hx
  rcases List.mem_append.mp hx with hx | hx
  · exact h.names x hx
  · rw [List.mem_singleton.mp hx]
    exact hid

/-- What the guard says about the node of a call. -/
theorem overtakes_call {cfg : Config} {s : State} {uuid : Uuid} {node state : String} {now : Nat}
    (h : overtakes cfg s (.updateNodeState uuid node state now) = false) :
    flightOf s node = [] ∧ (s.online = true → backlog s node = [])
      ∧ (s.online = false → ∀ e ∈ backlog s node, e.2 ≤ now) := by
  unfold overtakes at h
  rw [Bool.or_eq_false_iff] at h
  refine ⟨by simpa using h.1, ?_, ?_⟩
  · intro honline
    have h₂ := h.2
    rw [if_pos honline] at h₂
    simpa using h₂
  · intro honline e he
    have h₂ := h.2
    rw [if_neg (by simp [honline]), List.any_eq_false] at h₂
    simpa using h₂ e he

theorem line_updateNodeState {cfg : Config} {s : State} (h : Line cfg s) (uuid : Uuid)
    (node state : String) (now : Nat)
    (hguard : overtakes cfg s (.updateNodeState uuid node state now) = false) :
    Line cfg (updateNodeState s uuid node state now) := by
  have hdurable := durable_updateNodeState h.durable uuid node state now
  obtain ⟨hflight, hdirect, hqueue⟩ := overtakes_call hguard
  unfold updateNodeState at hdurable ⊢
  dsimp only at hdurable ⊢
  by_cases honline : s.online = true
  · rw [if_pos honline] at hdurable ⊢
    refine ⟨hdurable, h.names, ?_, h.held, h.nodup, h.batch⟩
    intro n
    refine (h.turn n).direct rfl rfl rfl rfl ?_
    rintro rfl
    exact ⟨hflight, hdirect honline⟩
  · rw [if_neg honline] at hdurable ⊢
    refine ⟨hdurable, h.names_append uuid.nonempty, ?_, h.held, h.nodup, h.batch⟩
    intro n
    refine (h.turn n).enqueue rfl rfl rfl (backlog_waiting rfl rfl) ?_
    intro e he
    obtain ⟨rfl, rfl⟩ := entryFor?_queued he
    exact ⟨rfl, rfl, hflight, hqueue (by simpa using honline)⟩

/-- An item that is no state update waits for the lock. -/
theorem line_enqueueOffline {cfg : Config} {s : State} {item : QueueItem} (h : Line cfg s)
    (hstatus : item.status = .pending) (hid : item.id ≠ "") (hcall : item.call? = none) :
    Line cfg (enqueueOffline s item) := by
  have hdurable := durable_enqueueOffline h.durable hstatus
  unfold enqueueOffline at hdurable ⊢
  by_cases honline : s.online = true
  · rw [if_pos honline] at hdurable ⊢
    exact h
  · rw [if_neg honline] at hdurable ⊢
    refine ⟨hdurable, h.names_append hid, ?_, h.held, h.nodup, h.batch⟩
    intro n
    refine (h.turn n).congr ?_ rfl rfl rfl
    refine Eq.trans (backlog_waiting (s := s) rfl rfl) ?_
    rw [entryFor?_of_call?_none hcall n]
    exact List.append_nil _

theorem HasRow.mono {q q' : SyncQueue} {item : QueueItem} (h : HasRow q item)
    (hsub : ∀ r ∈ q.rows, r ∈ q'.rows) : HasRow q' item := by
  obtain ⟨r, hr, hrow⟩ := h
  exact ⟨r, hsub r hr, hrow⟩

/-- The delivered item, if there is one, has a row. -/
theorem Line.delivered_row {cfg : Config} {s : State} (h : Line cfg s) {id : String}
    (hid : s.pc.delivered = some id) : ∃ r ∈ s.queue.rows, r.id = id := by
  cases hpc : s.pc with
  | answered item rest success result =>
      rw [hpc] at hid
      cases success with
      | true =>
          injection hid with hid
          have hheld : item ∈ s.pc.held := by
            rw [hpc]
            exact List.mem_cons_self
          obtain ⟨r, hr, hrid, -⟩ := h.held item hheld
          exact ⟨r, hr, hrid.trans hid⟩
      | false => cases hid
  | _ =>
      rw [hpc] at hid
      cases hid

/-- A new row goes to the end of the lines in the queue. -/
theorem live_insert {cfg : Config} {s s' : State} {item : QueueItem} (h : Line cfg s)
    (hpc : s'.pc = s.pc) (hrows : s'.queue.rows = s.queue.rows ++ [item])
    (hfresh : ∀ r ∈ s.queue.rows, r.id ≠ item.id) (hstatus : item.status ≠ .failed)
    (n : String) : live s' n = live s n ++ (item.entryFor? n).toList := by
  unfold live
  rw [hpc, hrows, stored_append n _ hstatus]
  cases hdel : s.pc.delivered with
  | none => rfl
  | some id =>
      show without id (_ ++ _) = without id _ ++ _
      unfold without
      rw [List.filter_append]
      congr 1
      -- the delivered item has a row, so it is not the new one
      rw [List.filter_eq_self]
      intro e he
      have hentry : item.entryFor? n = some e := by simpa using he
      obtain ⟨r, hr, hrid⟩ := h.delivered_row hdel
      rw [decide_eq_true_eq, entryFor?_id hentry]
      intro heq
      exact hfresh r hr (hrid.trans heq.symm)

theorem line_insertNext {cfg : Config} {s : State} (h : Line cfg s) (uuid : Uuid) :
    Line cfg (insertNext s uuid) := by
  have hdurable := durable_insertNext h.durable uuid
  unfold insertNext at hdurable ⊢
  cases hwaiting : s.waiting with
  | nil => exact h
  | cons item waiting =>
      rw [hwaiting] at hdurable
      have hitem : item ∈ s.waiting := by
        rw [hwaiting]
        exact List.mem_cons_self
      have hnames : ∀ x ∈ waiting, x.id ≠ "" := by
        intro x hx
        apply h.names
        rw [hwaiting]
        exact List.mem_cons_of_mem item hx
      dsimp only at hdurable ⊢
      cases henq : s.queue.enqueue uuid item with
      | some p =>
          obtain ⟨id, queue⟩ := p
          rw [henq] at hdurable
          obtain ⟨row, hrows, hid, -, hfresh, hrow⟩ := SyncQueue.enqueue_eq_some henq
          obtain rfl : row = item := hrow (h.names item hitem)
          subst hid
          have hpending : row.status ≠ .failed := by
            rw [h.durable.waiting row hitem]
            decide
          have hlive : ∀ n, live { s with waiting, queue, owed := s.owed ++ [row.id] } n
              = live s n ++ (row.entryFor? n).toList :=
            fun n => live_insert h (by rfl) hrows hfresh hpending n
          refine ⟨hdurable, hnames, ?_, ?_, h.nodup, ?_⟩
          · intro n
            -- the entry moves from the calls that wait to the end of the rows
            refine (h.turn n).congr ?_ rfl rfl rfl
            unfold backlog
            rw [hlive n, hwaiting, List.append_assoc]
            cases hentry : row.entryFor? n with
            | none => rw [List.filterMap_cons_none hentry]; rfl
            | some e => rw [List.filterMap_cons_some hentry]; rfl
          · intro x hx
            refine (h.held x hx).mono ?_
            intro r hr
            rw [hrows]
            exact List.mem_append_left _ hr
          · intro n
            rw [hlive n]
            exact (h.batch n).trans (List.prefix_append _ _)
      | none =>
          rw [henq] at hdurable
          refine ⟨hdurable, hnames, ?_, h.held, h.nodup, h.batch⟩
          intro n
          -- `enqueue` raised on an id that is taken: the line loses an entry and keeps its order
          have hsub : backlog { s with waiting } n <+ backlog s n := by
            unfold backlog
            refine List.Sublist.append (List.Sublist.refl _) ?_
            rw [hwaiting]
            exact (List.sublist_cons_self item waiting).filterMap _
          exact (h.turn n).drop hsub rfl rfl rfl

/-- A request that is alone on its way arrives, or is lost. -/
theorem line_arrive {cfg : Config} {s : State} (h : Line cfg s) (i : Nat) (accept : Bool) :
    Line cfg (arrive s i accept) := by
  have hdurable := durable_execEvent h.durable cfg (.arrive i accept)
  have hdurable : Durable (arrive s i accept) := hdurable
  unfold arrive at hdurable ⊢
  cases hi : s.flight[i]? with
  | none => exact h
  | some call =>
      rw [hi] at hdurable
      obtain ⟨l₁, l₂, hsplit, herase⟩ := eraseIdx_split hi
      refine ⟨hdurable, h.names, ?_, h.held, h.nodup, h.batch⟩
      intro n
      by_cases hn : call.node = n
      · -- its own node: the line is this request
        have hflight : flightOf s n
            = l₁.filter (fun c => c.node = n) ++ call :: l₂.filter (fun c => c.node = n) := by
          unfold flightOf
          rw [hsplit, List.filter_append, List.filter_cons_of_pos (by simpa using hn)]
        obtain ⟨hempty, hone⟩ := (h.turn n).alone (by rw [hflight]; simp)
        have hnone : l₁.filter (fun c => c.node = n) = []
            ∧ l₂.filter (fun c => c.node = n) = [] := by
          rw [hflight, List.length_append, List.length_cons] at hone
          constructor
          · apply List.eq_nil_of_length_eq_zero
            omega
          · apply List.eq_nil_of_length_eq_zero
            omega
        have horder := (h.turn n).order
        rw [hempty, hflight, hnone.1, hnone.2] at horder
        have hgone : (s.flight.eraseIdx i).filter (fun c => c.node = n) = [] := by
          rw [herase, List.filter_append, hnone.1, hnone.2]
          rfl
        refine ⟨?_, (h.turn n).sorted, ?_⟩
        · show InTurn (callsOf s n) ((backlog s n).map Prod.fst
            ++ (s.flight.eraseIdx i).filter (fun c => c.node = n))
            ((if accept then s.accepted ++ [call] else s.accepted).filter (fun c => c.node = n))
          rw [hempty, hgone]
          cases accept with
          | true =>
              rw [if_pos rfl, filter_append_of_eq s.accepted hn]
              exact horder.serve
          | false =>
              rw [if_neg (by decide)]
              exact horder.drop (List.nil_sublist _)
        · intro hne
          exact absurd hgone hne
      · refine (h.turn n).congr rfl ?_ rfl ?_
        · unfold flightOf
          dsimp only
          rw [herase, hsplit, List.filter_append, List.filter_append,
            List.filter_cons_of_neg (by simpa using hn)]
        · unfold acceptedOf
          dsimp only
          cases accept with
          | true => exact filter_append_of_ne s.accepted hn
          | false => rfl

/-! ## §6. The pass. -/

/-- A step of the pass that stores something and delivers nothing. -/
theorem Line.of_store {cfg : Config} {s : State} {queue : SyncQueue} {pc : Pc}
    {owed : List String} (h : Line cfg s) (hdurable : Durable { s with queue, pc, owed })
    (hsub : ∀ n, live { s with queue, pc, owed } n <+ live s n)
    (hheld : ∀ item ∈ pc.held, HasRow queue item) (hnodup : (pc.held.map QueueItem.id).Nodup)
    (hbatch : ∀ n, (pc.todo cfg).filterMap (QueueItem.entryFor? n)
      <+: live { s with queue, pc, owed } n) :
    Line cfg { s with queue, pc, owed } := by
  refine ⟨hdurable, h.names, ?_, hheld, hnodup, hbatch⟩
  intro n
  refine (h.turn n).drop ?_ rfl rfl rfl
  exact List.Sublist.append (hsub n) (List.Sublist.refl _)

/-- Outside the time between a delivery and what is stored of it, the line in the queue is
what the table says. -/
theorem live_of_not_delivered {s : State} (h : s.pc.delivered = none) (n : String) :
    live s n = stored n s.queue.rows := by
  unfold live
  rw [h]

theorem HasRow.set {q : SyncQueue} {item : QueueItem} {id : String} {f : QueueItem → QueueItem}
    (h : HasRow q item) (hf : KeepsEntry f)
    (hstatus : item.id = id → ∀ r, (f r).status ≠ .failed) :
    HasRow (q.update (SyncQueue.set id f) (SyncQueue.set_id id f)) item := by
  obtain ⟨r, hr, hid, hnot, hentry⟩ := h
  refine ⟨SyncQueue.set id f r, Table.mem_update.mpr ⟨r, hr, rfl⟩, ?_, ?_, ?_⟩
  · rw [SyncQueue.set_id]
    exact hid
  · by_cases hne : r.id = id
    · rw [SyncQueue.set_status hne]
      exact hstatus (hid.symm.trans hne) r
    · rw [SyncQueue.set_of_ne hne]
      exact hnot
  · intro n
    rw [entryFor?_set hf]
    exact hentry n

theorem HasRow.not_failed {q : SyncQueue} {item : QueueItem} (h : HasRow q item) :
    ∀ r ∈ q.rows, r.id = item.id → r.status ≠ .failed := by
  obtain ⟨r, hr, hid, hnot, -⟩ := h
  intro x hx hxid
  obtain rfl : x = r := q.eq_of_key_eq hx hr (hxid.trans hid.symm)
  exact hnot

/-- **A BATCH IS THE BEGINNING OF THE LINE**, for every node. -/
theorem peek_prefix {cfg : Config} {s : State} {result : ProcessResult} (h : Line cfg s)
    (hpc : s.pc = .loop result) (n : String) :
    (s.queue.peek cfg.batchSize).filterMap (QueueItem.entryFor? n) <+: live s n := by
  have hdel : s.pc.delivered = none := by
    rw [hpc]
    rfl
  -- no row is in `processing` here, so the rows not given up are the pending ones
  have hpending : (s.queue.rows.filter (fun r => r.status = .pending)).filterMap
      (QueueItem.entryFor? n) = stored n s.queue.rows := by
    unfold stored
    rw [List.filterMap_filter]
    refine List.filterMap_congr (fun r hr => ?_)
    unfold QueueItem.inLine?
    cases hstatus : r.status with
    | pending => rfl
    | failed => rfl
    | processing =>
        have hmarked := h.durable.processing r hr hstatus
        rw [hpc] at hmarked
        cases hmarked
  -- and they are in the order of `created_at` already
  have hsorted : (s.queue.rows.filter (fun r => r.status = .pending)).Pairwise
      (fun r r' => (r.entryFor? n).isSome = true → (r'.entryFor? n).isSome = true →
        r.createdAt ≤ r'.createdAt) := by
    have hlive := (h.turn n).sorted.sublist (List.sublist_append_left _ _)
    rw [live_of_not_delivered hdel, ← hpending, List.pairwise_filterMap] at hlive
    refine hlive.imp (fun {r r'} hrr' hr hr' => ?_)
    obtain ⟨e, he⟩ := Option.isSome_iff_exists.mp hr
    obtain ⟨e', he'⟩ := Option.isSome_iff_exists.mp hr'
    have hle := hrr' e he e' he'
    rw [(entryFor?_eq_some.mp he).2.2, (entryFor?_eq_some.mp he').2.2] at hle
    exact hle
  rw [live_of_not_delivered hdel, ← hpending, ← filterMap_insertionSort hsorted]
  exact (List.take_prefix _ _).filterMap _

theorem line_peek {cfg : Config} {s : State} {result : ProcessResult} (h : Line cfg s)
    (hpc : s.pc = .loop result)
    (hdurable : Durable { s with pc := .batch (s.queue.peek cfg.batchSize) result }) :
    Line cfg { s with pc := .batch (s.queue.peek cfg.batchSize) result } := by
  have hdel : s.pc.delivered = none := by
    rw [hpc]
    rfl
  have hlive : ∀ n, live { s with pc := .batch (s.queue.peek cfg.batchSize) result } n
      = live s n := by
    intro n
    rw [live_of_not_delivered hdel]
    rfl
  refine h.of_store hdurable ?_ ?_ ?_ ?_
  · intro n
    rw [hlive n]
  · intro item hitem
    obtain ⟨hrow, hstatus⟩ := SyncQueue.mem_peek hitem
    exact ⟨item, hrow, rfl, by rw [hstatus]; decide, fun n => rfl⟩
  · exact SyncQueue.peek_nodup s.queue cfg.batchSize
  · intro n
    rw [hlive n]
    exact peek_prefix h hpc n

theorem line_mark {cfg : Config} {s : State} {item : QueueItem} {rest : List QueueItem}
    {result : ProcessResult} {now : Nat} (h : Line cfg s)
    (hpc : s.pc = .batch (item :: rest) result)
    (hdurable : Durable { s with
      queue := s.queue.markProcessing item.id now, pc := .sending item rest result }) :
    Line cfg { s with
      queue := s.queue.markProcessing item.id now, pc := .sending item rest result } := by
  have hdel : s.pc.delivered = none := by
    rw [hpc]
    rfl
  have hheld : s.pc.held = item :: rest := by
    rw [hpc]
    rfl
  have hf : KeepsEntry (fun r => { r with
      status := .processing, lastAttemptAt := some now, attempts := r.attempts + 1 }) :=
    fun r => ⟨rfl, rfl, rfl⟩
  have hitem : HasRow s.queue item := h.held item (by rw [hheld]; exact List.mem_cons_self)
  -- a row that is marked stands for the same update, and it is not given up
  have hlive : ∀ n, live { s with
      queue := s.queue.markProcessing item.id now, pc := .sending item rest result } n
      = live s n := by
    intro n
    rw [live_of_not_delivered hdel]
    exact stored_set hf (fun r => by simp) hitem.not_failed
  refine h.of_store hdurable ?_ ?_ ?_ ?_
  · intro n
    rw [hlive n]
  · intro x hx
    have hx : x ∈ s.pc.held := by
      rw [hheld]
      exact hx
    exact (h.held x hx).set hf (fun _ r => by simp)
  · have hnodup := h.nodup
    rw [hheld] at hnodup
    exact hnodup
  · intro n
    rw [hlive n]
    have hbatch := h.batch n
    rw [hpc] at hbatch
    exact hbatch

theorem acceptedOf_deliver {s : State} {item : QueueItem} (n : String) :
    (s.accepted ++ item.call?.toList).filter (fun c => c.node = n)
      = acceptedOf s n ++ (item.entryFor? n).toList.map Prod.fst := by
  rw [List.filter_append]
  congr 1
  unfold QueueItem.entryFor?
  cases item.call? with
  | none => rfl
  | some c =>
      by_cases hn : c.node = n
      · simp [hn, Option.filter]
      · simp [hn, Option.filter]

/-- **A DELIVERY SERVES THE HEAD OF THE LINE** of the item's node. -/
theorem line_accepted {cfg : Config} {s : State} {item : QueueItem} {rest : List QueueItem}
    {result : ProcessResult} (h : Line cfg s) (hpc : s.pc = .sending item rest result)
    (hdurable : Durable { s with
      accepted := s.accepted ++ item.call?.toList, pc := .answered item rest true result }) :
    Line cfg { s with
      accepted := s.accepted ++ item.call?.toList, pc := .answered item rest true result } := by
  have hdel : s.pc.delivered = none := by
    rw [hpc]
    rfl
  have hheld : s.pc.held = item :: rest := by
    rw [hpc]
    rfl
  obtain ⟨row, hrow, hid, -, hentry⟩ := h.held item (by rw [hheld]; exact List.mem_cons_self)
  have hhead : ∀ n, live s n = (item.entryFor? n).toList ++ without item.id (live s n) ∧
      rest.filterMap (QueueItem.entryFor? n) <+: without item.id (live s n) := by
    intro n
    have hbatch := h.batch n
    rw [hpc, live_of_not_delivered hdel] at hbatch
    rw [live_of_not_delivered hdel]
    exact without_head ⟨row, hrow, hid, hentry n⟩ hbatch
  -- the row is still stored; central has its update, so it no longer counts as live
  have hlive : ∀ n, live { s with
      accepted := s.accepted ++ item.call?.toList, pc := .answered item rest true result } n
      = without item.id (live s n) := by
    intro n
    rw [live_of_not_delivered hdel]
    rfl
  refine ⟨hdurable, h.names, ?_, ?_, ?_, ?_⟩
  · intro n
    have hbacklog : backlog s n = (item.entryFor? n).toList ++ backlog { s with
        accepted := s.accepted ++ item.call?.toList, pc := .answered item rest true result } n := by
      unfold backlog
      rw [hlive n, ← List.append_assoc, ← (hhead n).1]
    have horder := (h.turn n).order
    have hsorted := (h.turn n).sorted
    rw [hbacklog] at horder hsorted
    refine ⟨?_, hsorted.sublist (List.sublist_append_right _ _), ?_⟩
    · show InTurn (callsOf s n) (_ ++ flightOf s n)
        ((s.accepted ++ item.call?.toList).filter (fun c => c.node = n))
      rw [acceptedOf_deliver n]
      cases he : item.entryFor? n with
      | none =>
          rw [he] at horder
          rw [show acceptedOf s n ++ (none : Option Entry).toList.map Prod.fst = acceptedOf s n from
            List.append_nil _]
          exact horder
      | some e =>
          rw [he] at horder
          exact horder.serve
    · intro hne
      obtain ⟨hempty, hone⟩ := (h.turn n).alone hne
      rw [hbacklog] at hempty
      exact ⟨(List.append_eq_nil_iff.mp hempty).2, hone⟩
  · intro x hx
    apply h.held
    rw [hheld]
    exact hx
  · have hnodup := h.nodup
    rw [hheld] at hnodup
    exact hnodup
  · intro n
    rw [hlive n]
    exact (hhead n).2

/-- A delivery that failed, under the guard: if the item will be retried, the batch does
not go on with its node. -/
theorem line_refused {cfg : Config} {s : State} {item : QueueItem} {rest : List QueueItem}
    {result : ProcessResult} (h : Line cfg s) (hpc : s.pc = .sending item rest result)
    (hguard : ∀ n, item.attempts < cfg.maxRetries → item.entryFor? n ≠ none →
      rest.filterMap (QueueItem.entryFor? n) = [])
    (hdurable : Durable { s with pc := .answered item rest false result }) :
    Line cfg { s with pc := .answered item rest false result } := by
  have hdel : s.pc.delivered = none := by
    rw [hpc]
    rfl
  refine h.of_pc hdurable (by rw [hdel]; rfl) ?_ ?_
  · rw [hpc]
    exact List.Sublist.refl _
  · intro n
    have hbatch := h.batch n
    rw [hpc] at hbatch
    -- a refused item is still to be done only if it will not be retried
    show (if cfg.maxRetries ≤ item.attempts then item :: rest else rest).filterMap _ <+: _
    split
    next => exact hbatch
    next hretry =>
      cases hentry : item.entryFor? n with
      | none =>
          rw [show (Pc.sending item rest result).todo cfg = item :: rest from rfl,
            List.filterMap_cons_none hentry] at hbatch
          exact hbatch
      | some e =>
          -- the item falls behind the batch, and the guard says that nothing of its node is in it
          rw [hguard n (by omega) (by rw [hentry]; simp)]
          exact List.nil_prefix

/-- The rest of the batch has its rows when the row of the item has changed. -/
theorem Line.held_rest {cfg : Config} {s : State} {item : QueueItem} {rest : List QueueItem}
    (h : Line cfg s) (hheld : s.pc.held = item :: rest) :
    (∀ x ∈ rest, HasRow s.queue x ∧ x.id ≠ item.id) ∧ (rest.map QueueItem.id).Nodup := by
  have hnodup := h.nodup
  rw [hheld, List.map_cons, List.nodup_cons] at hnodup
  refine ⟨?_, hnodup.2⟩
  intro x hx
  refine ⟨h.held x (by rw [hheld]; exact List.mem_cons_of_mem item hx), ?_⟩
  intro heq
  exact hnodup.1 (List.mem_map.mpr ⟨x, hx, heq⟩)

theorem line_dequeue {cfg : Config} {s : State} {item : QueueItem} {rest : List QueueItem}
    {result result' : ProcessResult} {owed : List String} (h : Line cfg s)
    (hpc : s.pc = .answered item rest true result)
    (hdurable : Durable { s with
      queue := s.queue.dequeue item.id, pc := .batch rest result', owed }) :
    Line cfg { s with queue := s.queue.dequeue item.id, pc := .batch rest result', owed } := by
  have hheld : s.pc.held = item :: rest := by
    rw [hpc]
    rfl
  obtain ⟨hrest, hnodup⟩ := h.held_rest hheld
  -- the row that goes was not counted any more: it is delivered
  have hlive : ∀ n, live { s with
      queue := s.queue.dequeue item.id, pc := .batch rest result', owed } n = live s n := by
    intro n
    show stored n (s.queue.dequeue item.id).rows = live s n
    rw [stored_dequeue]
    unfold live
    rw [hpc]
    rfl
  refine h.of_store hdurable ?_ ?_ hnodup ?_
  · intro n
    rw [hlive n]
  · intro x hx
    obtain ⟨⟨r, hr, hid, hrow⟩, hne⟩ := hrest x hx
    refine ⟨r, Table.mem_delete.mpr ⟨hr, ?_⟩, hid, hrow⟩
    rw [hid]
    simpa using hne
  · intro n
    rw [hlive n]
    have hbatch := h.batch n
    rw [hpc] at hbatch
    exact hbatch

theorem line_storeFailure {cfg : Config} {s : State} {item : QueueItem} {rest : List QueueItem}
    {result result' : ProcessResult} (h : Line cfg s)
    (hpc : s.pc = .answered item rest false result)
    (hdurable : Durable { s with
      queue := storeFailure cfg s.queue item, pc := .batch rest result' }) :
    Line cfg { s with queue := storeFailure cfg s.queue item, pc := .batch rest result' } := by
  have hdel : s.pc.delivered = none := by
    rw [hpc]
    rfl
  have hheld : s.pc.held = item :: rest := by
    rw [hpc]
    rfl
  obtain ⟨hrest, hnodup⟩ := h.held_rest hheld
  obtain ⟨row, hrow, hid, hnot, hentry⟩ := h.held item (by rw [hheld]; exact List.mem_cons_self)
  have hbatch : ∀ n, (if cfg.maxRetries ≤ item.attempts then item :: rest else rest).filterMap
      (QueueItem.entryFor? n) <+: stored n s.queue.rows := by
    intro n
    have hb := h.batch n
    rw [hpc, live_of_not_delivered hdel] at hb
    exact hb
  unfold storeFailure storeAttempt at hdurable ⊢
  by_cases hmax : cfg.maxRetries ≤ item.attempts
  · -- given up: its entry leaves the line
    rw [if_pos hmax] at hdurable ⊢
    simp only [if_pos hmax] at hbatch
    have hlive : ∀ n, live { s with
        queue := s.queue.markFailed item.id (maxRetriesError cfg), pc := .batch rest result' } n
        = without item.id (live s n) := by
      intro n
      rw [live_of_not_delivered hdel]
      exact stored_setFailed (fun r => rfl)
    refine h.of_store hdurable ?_ ?_ hnodup ?_
    · intro n
      rw [hlive n]
      exact List.filter_sublist
    · intro x hx
      refine (hrest x hx).1.set (fun r => ⟨rfl, rfl, rfl⟩) ?_
      intro heq
      exact absurd heq (hrest x hx).2
    · intro n
      rw [hlive n, live_of_not_delivered hdel]
      exact (without_head ⟨row, hrow, hid, hentry n⟩ (hbatch n)).2
  · -- to be retried: it keeps its place
    rw [if_neg hmax] at hdurable ⊢
    simp only [if_neg hmax] at hbatch
    have hlive : ∀ n, live { s with
        queue := s.queue.markPending item.id, pc := .batch rest result' } n = live s n := by
      intro n
      rw [live_of_not_delivered hdel]
      exact stored_set (fun r => ⟨rfl, rfl, rfl⟩) (fun r => by simp)
        (HasRow.not_failed ⟨row, hrow, hid, hnot, hentry⟩)
    refine h.of_store hdurable ?_ ?_ hnodup ?_
    · intro n
      rw [hlive n]
    · intro x hx
      exact (hrest x hx).1.set (fun r => ⟨rfl, rfl, rfl⟩) (fun _ r => by simp)
    · intro n
      rw [hlive n, live_of_not_delivered hdel]
      exact hbatch n

/-- An item that makes no request is no state update. -/
theorem call?_of_not_sends {item : QueueItem} (h : item.sends = false) : item.call? = none := by
  cases htype : item.itemType with
  | stateUpdate =>
      unfold QueueItem.sends at h
      rw [htype] at h
      exact Option.isNone_iff_eq_none.mp (by simpa using h)
  | _ =>
      unfold QueueItem.call?
      rw [htype]

/-- What the guard says about a delivery that failed. -/
theorem overtakes_refused {cfg : Config} {s : State} {item : QueueItem} {rest : List QueueItem}
    {result : ProcessResult} {now : Nat} (hpc : s.pc = .sending item rest result)
    (h : overtakes cfg s (.passStep now .refused) = false) (n : String)
    (hretry : item.attempts < cfg.maxRetries) (hentry : item.entryFor? n ≠ none) :
    rest.filterMap (QueueItem.entryFor? n) = [] := by
  obtain ⟨e, he⟩ := Option.ne_none_iff_exists'.mp hentry
  obtain ⟨hcall, hnode, -⟩ := entryFor?_eq_some.mp he
  unfold overtakes at h
  rw [hpc] at h
  dsimp only at h
  rw [hcall, Option.any_some, Bool.and_eq_false_iff] at h
  rcases h with h | h
  · simp [hretry] at h
  · rw [List.any_eq_false, hnode] at h
    rw [List.filterMap_eq_nil_iff]
    intro x hx
    simpa using h x hx

theorem overtakes_unanswered {cfg : Config} {s : State} {item : QueueItem}
    {rest : List QueueItem} {result : ProcessResult} {now : Nat}
    (hpc : s.pc = .sending item rest result)
    (h : overtakes cfg s (.passStep now .unanswered) = false) : item.call? = none := by
  unfold overtakes at h
  rw [hpc] at h
  dsimp only at h
  cases hcall : item.call? with
  | none => rfl
  | some c =>
      rw [hcall] at h
      cases h

theorem line_passStep {cfg : Config} {s : State} {now : Nat} {outcome : Outcome}
    (h : Line cfg s) (hguard : overtakes cfg s (.passStep now outcome) = false) :
    Line cfg (passStep cfg s now outcome) := by
  have hdurable := durable_passStep h.durable cfg now outcome
  have hnothing : ∀ n, ([] : List QueueItem).filterMap (QueueItem.entryFor? n) <+: live s n :=
    fun n => List.nil_prefix
  unfold passStep at hdurable ⊢
  cases hpc : s.pc with
  | idle => exact h
  | loop result =>
      rw [hpc] at hdurable
      dsimp only at hdurable ⊢
      by_cases hon : (s.running && s.online) = true
      · rw [if_pos hon] at hdurable ⊢
        cases hpeek : s.queue.peek cfg.batchSize with
        | nil =>
            rw [hpeek] at hdurable
            exact h.of_pc hdurable (by rw [hpc]; rfl) (List.nil_sublist _) hnothing
        | cons item items =>
            rw [hpeek] at hdurable
            dsimp only at hdurable ⊢
            rw [← hpeek] at hdurable ⊢
            exact line_peek h hpc hdurable
      · rw [if_neg hon] at hdurable ⊢
        exact h.of_pc hdurable (by rw [hpc]; rfl) (List.nil_sublist _) hnothing
  | batch items result =>
      rw [hpc] at hdurable
      cases items with
      | nil => exact h.of_pc hdurable (by rw [hpc]; rfl) (List.nil_sublist _) hnothing
      | cons item rest =>
          dsimp only at hdurable ⊢
          by_cases hon : (s.running && s.online) = true
          · rw [if_pos hon] at hdurable ⊢
            exact line_mark h hpc hdurable
          · rw [if_neg hon] at hdurable ⊢
            exact h.of_pc hdurable (by rw [hpc]; rfl) (List.nil_sublist _) hnothing
  | sending item rest result =>
      rw [hpc] at hdurable
      dsimp only at hdurable ⊢
      by_cases hsends : item.sends = true
      · rw [if_pos hsends] at hdurable ⊢
        cases outcome with
        | accepted => exact line_accepted h hpc hdurable
        | refused => exact line_refused h hpc (overtakes_refused hpc hguard) hdurable
        | unanswered =>
            -- no state update, so nothing is on its way
            have hcall := overtakes_unanswered hpc hguard
            have hsame : deliver s item .unanswered = s := by
              unfold deliver
              rw [hcall]
              show { s with flight := s.flight ++ [] } = s
              rw [List.append_nil]
            rw [hsame] at hdurable ⊢
            refine line_refused h hpc ?_ hdurable
            intro n _ hentry
            exact absurd (entryFor?_of_call?_none hcall n) hentry
      · rw [if_neg hsends] at hdurable ⊢
        refine line_refused h hpc ?_ hdurable
        intro n _ hentry
        have hcall := call?_of_not_sends (by simpa using hsends)
        exact absurd (entryFor?_of_call?_none hcall n) hentry
  | answered item rest success result =>
      rw [hpc] at hdurable
      cases success with
      | true => exact line_dequeue h hpc hdurable
      | false => exact line_storeFailure h hpc hdurable
  | closing result =>
      rw [hpc] at hdurable
      exact h.of_pc hdurable (by rw [hpc]; rfl) (List.nil_sublist _) hnothing

/-- **ONE EVENT.** -/
theorem line_execEvent (cfg : Config) (s : State) (e : Event) (h : Line cfg s)
    (hguard : overtakes cfg s e = false) : Line cfg (execEvent cfg s e) := by
  have hdurable := durable_execEvent h.durable cfg e
  cases e with
  | updateNodeState uuid node state now => exact line_updateNodeState h uuid node state now hguard
  | registerNode uuid now => exact line_enqueueOffline h rfl uuid.nonempty rfl
  | reportNodeEvent uuid node now => exact line_enqueueOffline h rfl uuid.nonempty rfl
  | insertNext uuid => exact line_insertNext h uuid
  | arrive i accept => exact line_arrive h i accept
  | connectivity online => exact h.of_pc hdurable rfl (List.Sublist.refl _) h.batch
  | setRunning running => exact h.of_pc hdurable rfl (List.Sublist.refl _) h.batch
  | processQueue =>
      have hdurable : Durable (processQueue s) := hdurable
      show Line cfg (processQueue s)
      unfold processQueue at hdurable ⊢
      cases hpc : s.pc with
      | idle =>
          rw [hpc] at hdurable
          exact h.of_pc hdurable (by rw [hpc]; rfl) (List.nil_sublist _)
            (fun n => List.nil_prefix)
      | _ => exact h
  | passStep now outcome => exact line_passStep h hguard

/-! ## §7. Whole runs. -/

theorem line_start (cfg : Config) : Line cfg {} where
  durable := durable_start
  names := by
    intro item hitem
    cases hitem
  turn := fun n => ⟨List.Sublist.refl [], List.Pairwise.nil, fun hne => absurd rfl hne⟩
  held := by
    intro item hitem
    cases hitem
  nodup := List.nodup_nil
  batch := fun n => List.nil_prefix

/-- **CENTRAL ACCEPTS THE UPDATES OF EVERY NODE IN THE ORDER OF THE CALLS**, in every
state of a run in which no event lets one overtake another. -/
theorem updates_in_order_run (cfg : Config) (events : List Event)
    (hguard : Along (execEvent cfg) (fun s e => overtakes cfg s e = false) {} events) :
    Always (execEvent cfg) InOrder {} events :=
  (always_of_step (line_execEvent cfg) (line_start cfg) hguard).mono (fun _ h => h.inOrder)

/-- Two updates of one node are queued while the agent is offline, and it reconnects. -/
def offlineTwice : List Event :=
  [.setRunning true, .connectivity false,
   .updateNodeState firstUuid "n" "installing" 0,
   .updateNodeState (uuid "2" (by decide)) "n" "installed" 1,
   .insertNext rowUuid, .insertNext rowUuid,
   .connectivity true, .processQueue, .passStep 2 .accepted]

/-- Both are delivered, the second at its second attempt, and a third one goes directly. -/
def deliveredRun : List Event :=
  offlineTwice ++ [.passStep 3 .accepted, .passStep 3 .accepted, .passStep 3 .accepted,
    .passStep 4 .refused, .passStep 4 .refused, .passStep 4 .refused,
    .passStep 5 .accepted, .passStep 5 .accepted, .passStep 5 .accepted, .passStep 5 .accepted,
    .passStep 5 .accepted, .updateNodeState (uuid "3" (by decide)) "n" "active" 6, .arrive 0 true]

theorem updates_in_order_run_delivered :
    (acceptedOf (run (execEvent {}) {} deliveredRun) "n").map Call.state
        = ["installing", "installed", "active"]
      ∧ Always (execEvent {}) InOrder {} deliveredRun :=
  ⟨by decide, updates_in_order_run {} deliveredRun (by decide)⟩

/-- The first one fails, the second one is delivered, the first one is retried. -/
def overtakenRun : List Event :=
  offlineTwice ++ [.passStep 3 .refused, .passStep 3 .refused, .passStep 3 .refused,
    .passStep 4 .accepted, .passStep 4 .accepted, .passStep 4 .accepted, .passStep 4 .accepted,
    .passStep 5 .accepted, .passStep 5 .accepted, .passStep 5 .accepted]

theorem update_overtaken_after_failure :
    ¬ Always (execEvent {}) InOrder {} overtakenRun := by
  intro h
  have hsub := h.last "n"
  have haccepted : acceptedOf (run (execEvent {}) {} overtakenRun) "n"
      = [⟨"2", "n", "installed"⟩, ⟨"1", "n", "installing"⟩] := by decide
  have hcalls : callsOf (run (execEvent {}) {} overtakenRun) "n"
      = [⟨"1", "n", "installing"⟩, ⟨"2", "n", "installed"⟩] := by decide
  rw [haccepted, hcalls] at hsub
  exact absurd hsub (by decide)

end PureBoot.Agent
