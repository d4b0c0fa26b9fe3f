/-
  PureBoot.Web.GlobalWebSocket — the EVENTS of the server, broadcast to every websocket.

  Embeds `core/websocket.py: GlobalWebSocketManager`.  Connections come and go and broadcasts
  are sent under one lock, an `asyncio.Lock`, which serves those who wait for it first come
  first served.  The coroutines take turns at their awaits: a broadcast that holds the lock
  waits for each of its sends, and drops the connections that failed when it is through.

  Beside the manager stands a FEED (`PureBoot.Lib.Feed`): the messages in the order in which
  their broadcasts got the lock, and what each connection received.

  Main results:
    * `GlobalOk.exec` — what every step preserves;
    * `total_order` — the connections receive windows of ONE sequence of messages, the one in
      which the broadcasts asked for the lock;
    * `everyone_served` — nobody waits for ever, if each send comes to an end.
-/
import PureBoot.Lib.Feed
import PureBoot.Lib.Run
import PureBoot.Lib.SetIter

namespace PureBoot.Web

open PureBoot.Lib

/-! ## §1. The manager. -/

/-- A connection, as an object; each request for one makes another. -/
abbrev EventSocket : Type := Nat

/-- What a coroutine wants the lock for. -/
inductive LockRequest (μ : Type*) where
  /-- `connect`, after `accept`. -/
  | add (ws : EventSocket)
  /-- `disconnect`. -/
  | discard (ws : EventSocket)
  /-- `broadcast`, of a message. -/
  | send (message : μ)

/-- A broadcast that holds the lock, and waits for the send to the first connection of
`rest`. -/
structure Sending (μ : Type*) where
  message : μ
  /-- The set when the loop began. -/
  members : Finset EventSocket
  rest : List EventSocket
  /-- `dead_connections`. -/
  dead : List EventSocket

/-- `GlobalWebSocketManager`, who waits for its lock, and the messages that went out. -/
structure GlobalManager (μ : Type*) where
  connections : Finset EventSocket := ∅
  holder : Option (Sending μ) := none
  waiting : List (LockRequest μ) := []
  /-- How many connections were made. -/
  made : Nat := 0
  /-- The messages of the broadcasts that asked for the lock. -/
  requested : List μ := []
  feed : Feed EventSocket μ := {}
  /-- The connections to which a send has failed. -/
  failed : Finset EventSocket := ∅

namespace GlobalManager

variable {μ : Type*}

/-- `__init__`. -/
def init : GlobalManager μ := {}

variable (g : GlobalManager μ)

/-- The critical section, up to its first await; an iteration over the set takes its members
in some order. -/
def enter (order : List EventSocket) : LockRequest μ → Option (GlobalManager μ)
  | .add ws =>
      some { g with connections := insert ws g.connections, feed := g.feed.join ws }
  | .discard ws => some { g with connections := g.connections.erase ws }
  | .send message =>
      if Lists order g.connections then
        some { g with
          holder := if order = [] then none else some ⟨message, g.connections, order, []⟩
          feed := g.feed.publish message }
      else none

/-- `async with self._lock`. -/
def acquire (order : List EventSocket) (request : LockRequest μ) : Option (GlobalManager μ) :=
  if g.holder.isNone ∧ g.waiting.isEmpty then g.enter order request
  else some { g with waiting := g.waiting ++ [request] }

/-- `connect`: `accept`, and the lock. -/
def connect : GlobalManager μ :=
  ({ g with made := g.made + 1 }.acquire [] (.add g.made)).getD g

def disconnect (ws : EventSocket) : GlobalManager μ := (g.acquire [] (.discard ws)).getD g

/-- `broadcast`: without connections it does not ask for the lock. -/
def broadcast (order : List EventSocket) (message : μ) : GlobalManager μ :=
  if g.connections = ∅ then g
  else ({ g with requested := g.requested ++ [message] }.acquire order (.send message)).getD g

/-- The loop of a broadcast goes on; at its end it drops the dead connections and releases the
lock. -/
def goOn (s : Sending μ) : GlobalManager μ :=
  if s.rest = [] then { g with connections := g.connections \ s.dead.toFinset, holder := none }
  else { g with holder := some s }

/-- The send that the broadcast waits for is over. -/
def sendDone (ok : Bool) : GlobalManager μ :=
  match g.holder with
  | some ⟨message, members, ws :: rest, dead⟩ =>
      if ok then { g with feed := g.feed.tell ws message }.goOn ⟨message, members, rest, dead⟩
      else { g with failed := insert ws g.failed }.goOn ⟨message, members, rest, dead ++ [ws]⟩
  | _ => g

/-- The lock is free, and the first who waits gets it. -/
def wake (order : List EventSocket) : GlobalManager μ :=
  match g.holder, g.waiting with
  | none, request :: waiting => ({ g with waiting }.enter order request).getD g
  | _, _ => g

end GlobalManager

/-- What happens between two awaits. -/
inductive GlobalEvent (μ : Type*) where
  | connect
  | disconnect (ws : EventSocket)
  | broadcast (order : List EventSocket) (message : μ)
  | sendDone (ok : Bool)
  | wake (order : List EventSocket)

namespace GlobalManager

variable {μ : Type*}

def exec (g : GlobalManager μ) : GlobalEvent μ → GlobalManager μ
  | .connect => g.connect
  | .disconnect ws => g.disconnect ws
  | .broadcast order message => g.broadcast order message
  | .sendDone ok => g.sendDone ok
  | .wake order => g.wake order

/-! ## §2. What holds in every state. -/

/-- The connection that a request adds. -/
def added? : LockRequest μ → Option EventSocket
  | .add ws => some ws
  | _ => none

/-- The message that a request sends. -/
def message? : LockRequest μ → Option μ
  | .send message => some message
  | _ => none

/-- A connection that nobody has heard of. -/
def Unknown (g : GlobalManager μ) (ws : EventSocket) : Prop :=
  ws ∉ g.connections ∧ g.feed.told ws = [] ∧ ws ∉ g.failed

/-- A broadcast holds the lock: it iterates over the set as it is, those it has still to send
to and those that failed lack its message, and the others have it. -/
structure Serves (g : GlobalManager μ) (s : Sending μ) : Prop where
  members : s.members = g.connections
  nodup : s.rest.Nodup
  behind : ∀ ws ∈ s.rest, ws ∈ g.connections ∧ g.feed.Behind ws s.message
  failed_iff : ∀ ws ∈ g.connections, ws ∈ g.failed ↔ ws ∈ s.dead
  dead : ∀ ws ∈ s.dead, ws ∉ s.rest
  done : ∀ ws ∈ g.connections, ws ∉ s.rest → ws ∉ s.dead → g.feed.UpToDate ws

/-- **THE INVARIANT**, but for who holds the lock. -/
structure CoreOk (g : GlobalManager μ) : Prop where
  fresh : ∀ ws, g.made ≤ ws → Unknown g ws
  newcomer : ∀ ws, LockRequest.add ws ∈ g.waiting → ws < g.made ∧ Unknown g ws
  once : (g.waiting.filterMap added?).Nodup
  window : ∀ ws, g.feed.Window ws
  order : g.requested = g.feed.history ++ g.waiting.filterMap message?

/-- **THE INVARIANT.** -/
structure GlobalOk (g : GlobalManager μ) : Prop extends CoreOk g where
  free : g.holder = none → ∀ ws ∈ g.connections, g.feed.UpToDate ws ∧ ws ∉ g.failed
  held : ∀ s, g.holder = some s → s.rest ≠ [] ∧ Serves g s

theorem globalOk_init : GlobalOk (init : GlobalManager μ) where
  fresh := fun _ _ => ⟨Finset.notMem_empty _, rfl, Finset.notMem_empty _⟩
  newcomer := fun _ h => nomatch h
  once := List.nodup_nil
  window := fun _ => Feed.window_of_told_nil rfl
  order := rfl
  free := fun _ _ h => absurd h (Finset.notMem_empty _)
  held := fun _ h => nomatch h

variable {g : GlobalManager μ}

/-- What a broadcast that takes the lock leaves. -/
theorem enter_send {order : List EventSocket} {message : μ} {g' : GlobalManager μ}
    (henter : g.enter order (.send message) = some g') :
    Lists order g.connections ∧
      g' = { g with
        holder := if order = [] then none else some ⟨message, g.connections, order, []⟩
        feed := g.feed.publish message } := by
  have henter : (if Lists order g.connections then some _ else none) = some g' := henter
  by_cases hlists : Lists order g.connections
  · rw [if_pos hlists] at henter
    exact ⟨hlists, (Option.some.inj henter).symm⟩
  · rw [if_neg hlists] at henter
    cases henter

/-! ### The lock is asked for. -/

/-- What is asked for is not connected yet. -/
theorem CoreOk.not_waiting (h : CoreOk g) {ws : EventSocket} (hws : g.made ≤ ws) :
    LockRequest.add ws ∉ g.waiting :=
  fun hmem => absurd (h.newcomer ws hmem).1 (Nat.not_lt.mpr hws)

theorem mem_added {waiting : List (LockRequest μ)} {ws : EventSocket} :
    ws ∈ waiting.filterMap added? ↔ LockRequest.add ws ∈ waiting := by
  rw [List.mem_filterMap]
  constructor
  · rintro ⟨request, hmem, hadd⟩
    cases request with
    | add ws' =>
        obtain rfl : ws' = ws := Option.some.inj hadd
        exact hmem
    | discard ws' => cases hadd
    | send message => cases hadd
  · intro hmem
    exact ⟨_, hmem, rfl⟩

/-- A new connection waits. -/
theorem GlobalOk.enqueue_add (h : GlobalOk g) :
    GlobalOk { g with made := g.made + 1, waiting := g.waiting ++ [.add g.made] } where
  fresh := fun ws hws => h.fresh ws (Nat.le_of_succ_le hws)
  newcomer := by
    intro ws hmem
    rcases List.mem_append.mp hmem with hmem | hmem
    · obtain ⟨hlt, hunknown⟩ := h.newcomer ws hmem
      exact ⟨Nat.lt_succ_of_lt hlt, hunknown⟩
    · obtain rfl : ws = g.made := LockRequest.add.inj (List.mem_singleton.mp hmem)
      exact ⟨Nat.lt_succ_self _, h.fresh _ (Nat.le_refl _)⟩
  once := by
    show ((g.waiting ++ [LockRequest.add g.made]).filterMap added?).Nodup
    rw [List.filterMap_append, List.nodup_append]
    refine ⟨h.once, List.nodup_singleton _, ?_⟩
    intro ws hws ws' hws' heq
    obtain rfl : ws' = g.made := List.mem_singleton.mp hws'
    exact h.not_waiting (Nat.le_of_eq heq.symm) (mem_added.mp hws)
  window := h.window
  order := by
    show g.requested = g.feed.history ++ (g.waiting ++ [LockRequest.add g.made]).filterMap message?
    rw [List.filterMap_append, h.order]
    simp [message?]
  free := h.free
  held := fun s hs => ⟨(h.held s hs).1, { (h.held s hs).2 with }⟩

/-- Somebody else waits. -/
theorem GlobalOk.enqueue_other (h : GlobalOk g) {request : LockRequest μ}
    (hadd : added? request = none) {requested : List μ}
    (hrequested : requested = g.requested ++ (message? request).toList) :
    GlobalOk { g with requested, waiting := g.waiting ++ [request] } where
  fresh := h.fresh
  newcomer := by
    intro ws hmem
    rcases List.mem_append.mp hmem with hmem | hmem
    · exact h.newcomer ws hmem
    · obtain rfl : LockRequest.add ws = request := List.mem_singleton.mp hmem
      cases hadd
  once := by
    show ((g.waiting ++ [request]).filterMap added?).Nodup
    rw [List.filterMap_append, List.filterMap_cons_none hadd, List.filterMap_nil, List.append_nil]
    exact h.once
  window := h.window
  order := by
    show requested = g.feed.history ++ (g.waiting ++ [request]).filterMap message?
    rw [hrequested, h.order, List.filterMap_append, List.append_assoc]
    cases hmessage : message? request <;> simp [hmessage]
  free := h.free
  held := fun s hs => ⟨(h.held s hs).1, { (h.held s hs).2 with }⟩

/-! ### The lock is taken. -/

/-- What is left of those who wait. -/
theorem CoreOk.tail {request : LockRequest μ} {waiting : List (LockRequest μ)} (h : CoreOk g)
    (hwaiting : g.waiting = request :: waiting) :
    (∀ ws, LockRequest.add ws ∈ waiting → LockRequest.add ws ∈ g.waiting) ∧
      (waiting.filterMap added?).Nodup := by
  constructor
  · intro ws hws
    rw [hwaiting]
    exact List.mem_cons_of_mem _ hws
  · have honce := h.once
    rw [hwaiting] at honce
    cases hadd : added? request with
    | none =>
        rw [List.filterMap_cons_none hadd] at honce
        exact honce
    | some ws =>
        rw [List.filterMap_cons_some hadd] at honce
        exact honce.of_cons

/-- `connect` goes on. -/
theorem GlobalOk.enter_add (h : GlobalOk g) {ws : EventSocket} {waiting : List (LockRequest μ)}
    (hfree : g.holder = none) (hwaiting : g.waiting = .add ws :: waiting) :
    GlobalOk { g with waiting, connections := insert ws g.connections, feed := g.feed.join ws } := by
  obtain ⟨hsub, honce⟩ := h.tail hwaiting
  have hmem : LockRequest.add ws ∈ g.waiting := hwaiting ▸ List.mem_cons_self
  obtain ⟨hlt, -, htold, hfailed⟩ := h.newcomer ws hmem
  -- a connection is added once
  have hother : ∀ ws', LockRequest.add ws' ∈ waiting → ws' ≠ ws := by
    rintro ws' hws' rfl
    have hnodup := h.once
    rw [hwaiting] at hnodup
    exact (List.nodup_cons.mp hnodup).1 (mem_added.mpr hws')
  have hunknown : ∀ ws', ws' ≠ ws → Unknown g ws' → ws' ∉ insert ws g.connections ∧
      g.feed.told ws' = [] ∧ ws' ∉ g.failed := by
    rintro ws' hne ⟨hunregistered, htold', hfailed'⟩
    exact ⟨fun hws' => (Finset.mem_insert.mp hws').elim hne hunregistered, htold', hfailed'⟩
  constructor
  · constructor
    · intro ws' hws'
      exact hunknown ws' (Nat.ne_of_gt (Nat.lt_of_lt_of_le hlt hws')) (h.fresh ws' hws')
    · intro ws' hws'
      obtain ⟨hlt', hunknown'⟩ := h.newcomer ws' (hsub ws' hws')
      exact ⟨hlt', hunknown ws' (hother ws' hws') hunknown'⟩
    · exact honce
    · intro ws'
      by_cases hws' : ws' = ws
      · rw [hws']
        exact (Feed.join_upToDate htold).window
      · exact (h.window ws').join hws'
    · show g.requested = g.feed.history ++ waiting.filterMap message?
      rw [h.order, hwaiting]
      rfl
  · intro _ ws' hws'
    by_cases hne : ws' = ws
    · rw [hne]
      exact ⟨Feed.join_upToDate htold, hfailed⟩
    · obtain ⟨hupToDate, hfailed'⟩ := h.free hfree ws' (Finset.mem_of_mem_insert_of_ne hws' hne)
      exact ⟨hupToDate.join hne, hfailed'⟩
  · intro s hs
    rw [show g.holder = some s from hs] at hfree
    cases hfree

/-- Connections go. -/
theorem CoreOk.shrink (h : CoreOk g) {connections : Finset EventSocket}
    (hsub : connections ⊆ g.connections) (holder : Option (Sending μ)) :
    CoreOk { g with connections, holder } where
  fresh := fun ws hws =>
    ⟨fun hmem => (h.fresh ws hws).1 (hsub hmem), (h.fresh ws hws).2⟩
  newcomer := fun ws hws =>
    ⟨(h.newcomer ws hws).1, fun hmem => (h.newcomer ws hws).2.1 (hsub hmem),
      (h.newcomer ws hws).2.2⟩
  once := h.once
  window := h.window
  order := h.order

/-- `disconnect` goes on. -/
theorem GlobalOk.enter_discard (h : GlobalOk g) {ws : EventSocket}
    {waiting : List (LockRequest μ)} (hfree : g.holder = none)
    (hwaiting : g.waiting = .discard ws :: waiting) :
    GlobalOk { g with waiting, connections := g.connections.erase ws } := by
  obtain ⟨hsub, honce⟩ := h.tail hwaiting
  have hcore := h.toCoreOk.shrink (Finset.erase_subset ws g.connections) none
  constructor
  · constructor
    · exact hcore.fresh
    · exact fun ws' hws' => hcore.newcomer ws' (hsub ws' hws')
    · exact honce
    · exact h.window
    · show g.requested = g.feed.history ++ waiting.filterMap message?
      rw [h.order, hwaiting]
      rfl
  · exact fun _ ws' hws' => h.free hfree ws' (Finset.mem_of_mem_erase hws')
  · intro s hs
    rw [show g.holder = some s from hs] at hfree
    cases hfree

/-- `broadcast` goes on: every connection is behind by its message. -/
theorem GlobalOk.enter_send (h : GlobalOk g) {message : μ} {waiting : List (LockRequest μ)}
    (hfree : g.holder = none) (hwaiting : g.waiting = .send message :: waiting)
    {order : List EventSocket} (hlists : Lists order g.connections) :
    GlobalOk { g with
      waiting
      holder := if order = [] then none else some ⟨message, g.connections, order, []⟩
      feed := g.feed.publish message } := by
  obtain ⟨hsub, honce⟩ := h.tail hwaiting
  constructor
  · constructor
    · exact h.fresh
    · exact fun ws hws => h.newcomer ws (hsub ws hws)
    · exact honce
    · exact fun ws => (h.window ws).publish message
    · show g.requested = (g.feed.history ++ [message]) ++ waiting.filterMap message?
      rw [h.order, hwaiting, List.append_assoc]
      rfl
  · intro hnone ws hws
    -- without connections there is nobody to send to
    have hempty : order = [] := by
      by_contra hne
      rw [if_neg hne] at hnone
      cases hnone
    rw [← hlists.2, hempty] at hws
    exact absurd hws (Finset.notMem_empty _)
  · intro s hs
    by_cases hne : order = []
    · rw [if_pos hne] at hs
      cases hs
    · rw [if_neg hne] at hs
      obtain rfl := Option.some.inj hs
      refine ⟨hne, rfl, hlists.1, ?_, ?_, ?_, ?_⟩
      · intro ws hws
        have hmem : ws ∈ g.connections := hlists.2 ▸ List.mem_toFinset.mpr hws
        exact ⟨hmem, (h.free hfree ws hmem).1.publish message⟩
      · exact fun ws hws => iff_of_false (h.free hfree ws hws).2 List.not_mem_nil
      · exact fun _ hws => nomatch hws
      · intro ws hws hrest
        exact absurd (List.mem_toFinset.mp (hlists.2.symm ▸ hws)) hrest

/-- **WHO WAITS FIRST TAKES THE LOCK.** -/
theorem GlobalOk.enter (h : GlobalOk g) {order : List EventSocket} {request : LockRequest μ}
    {waiting : List (LockRequest μ)} (hfree : g.holder = none)
    (hwaiting : g.waiting = request :: waiting) {g' : GlobalManager μ}
    (henter : { g with waiting }.enter order request = some g') : GlobalOk g' := by
  cases request with
  | add ws =>
      obtain rfl := Option.some.inj henter
      exact h.enter_add hfree hwaiting
  | discard ws =>
      obtain rfl := Option.some.inj henter
      exact h.enter_discard hfree hwaiting
  | send message =>
      obtain ⟨hlists, rfl⟩ := GlobalManager.enter_send henter
      exact h.enter_send hfree hwaiting hlists

theorem GlobalOk.wake (h : GlobalOk g) (order : List EventSocket) : GlobalOk (g.wake order) := by
  unfold GlobalManager.wake
  split
  next request waiting hfree hwaiting =>
    cases henter : { g with waiting }.enter order request with
    | none => exact h
    | some g' => exact h.enter hfree hwaiting henter
  next => exact h

/-- Who asks for the lock waits, if only for itself. -/
theorem GlobalOk.acquire {order : List EventSocket} {request : LockRequest μ}
    (h : GlobalOk { g with waiting := g.waiting ++ [request] }) {g' : GlobalManager μ}
    (hacquire : g.acquire order request = some g') : GlobalOk g' := by
  unfold GlobalManager.acquire at hacquire
  split at hacquire
  next hfree =>
    have hnil : g.waiting = [] := List.isEmpty_iff.mp hfree.2
    have hwaiting : g.waiting ++ [request] = request :: g.waiting := by
      rw [hnil]
      rfl
    exact h.enter (Option.isNone_iff_eq_none.mp hfree.1) hwaiting hacquire
  next =>
    obtain rfl := Option.some.inj hacquire
    exact h

theorem GlobalOk.getD (h : GlobalOk g) {result : Option (GlobalManager μ)}
    (hresult : ∀ g', result = some g' → GlobalOk g') : GlobalOk (result.getD g) := by
  cases result with
  | none => exact h
  | some g' => exact hresult g' rfl

/-! ### The lock is held. -/

/-- **A BROADCAST GOES ON**, or comes to its end and leaves the connections that have its
message. -/
theorem GlobalOk.goOn {s : Sending μ} (hcore : CoreOk g) (hserves : Serves g s) :
    GlobalOk (g.goOn s) := by
  unfold GlobalManager.goOn
  split
  next hrest =>
    refine ⟨hcore.shrink Finset.sdiff_subset none, ?_, fun s hs => nomatch hs⟩
    intro _ ws hws
    obtain ⟨hmem, hdead⟩ := Finset.mem_sdiff.mp hws
    have hdead : ws ∉ s.dead := fun hws' => hdead (List.mem_toFinset.mpr hws')
    refine ⟨hserves.done ws hmem ?_ hdead, fun hws' => hdead ((hserves.failed_iff ws hmem).mp hws')⟩
    rw [hrest]
    exact List.not_mem_nil
  next hrest =>
    constructor
    · exact { hcore with }
    · intro hnone
      cases hnone
    · intro s' hs'
      obtain rfl := Option.some.inj hs'
      exact ⟨hrest, { hserves with }⟩

/-- A registered connection receives a message: nobody else is concerned. -/
theorem CoreOk.tell (h : CoreOk g) {ws : EventSocket} {message : μ} (hws : ws ∈ g.connections)
    (hbehind : g.feed.Behind ws message) :
    CoreOk { g with feed := g.feed.tell ws message } := by
  have hunknown : ∀ ws', Unknown g ws' → Unknown { g with feed := g.feed.tell ws message } ws' := by
    rintro ws' ⟨hunregistered, htold, hfailed⟩
    have hne : ws' ≠ ws := fun heq => hunregistered (heq ▸ hws)
    exact ⟨hunregistered, (Feed.tell_told_of_ne hne).trans htold, hfailed⟩
  constructor
  · exact fun ws' hws' => hunknown ws' (h.fresh ws' hws')
  · exact fun ws' hws' => ⟨(h.newcomer ws' hws').1, hunknown ws' (h.newcomer ws' hws').2⟩
  · exact h.once
  · intro ws'
    by_cases hne : ws' = ws
    · rw [hne]
      exact hbehind.tell.window
    · exact (h.window ws').tell hne
  · exact h.order

/-- A send to a registered connection fails. -/
theorem CoreOk.fail (h : CoreOk g) {ws : EventSocket} (hws : ws ∈ g.connections) :
    CoreOk { g with failed := insert ws g.failed } := by
  have hunknown : ∀ ws', Unknown g ws' → Unknown { g with failed := insert ws g.failed } ws' := by
    rintro ws' ⟨hunregistered, htold, hfailed⟩
    have hne : ws' ≠ ws := fun heq => hunregistered (heq ▸ hws)
    exact ⟨hunregistered, htold, fun hmem => (Finset.mem_insert.mp hmem).elim hne hfailed⟩
  exact {
    fresh := fun ws' hws' => hunknown ws' (h.fresh ws' hws')
    newcomer := fun ws' hws' => ⟨(h.newcomer ws' hws').1, hunknown ws' (h.newcomer ws' hws').2⟩
    once := h.once
    window := h.window
    order := h.order }

/-- **A SEND IS OVER.** -/
theorem GlobalOk.sendDone (h : GlobalOk g) (ok : Bool) : GlobalOk (g.sendDone ok) := by
  unfold GlobalManager.sendDone
  split
  next message members ws rest dead hholder =>
    obtain ⟨-, hserves⟩ := h.held _ hholder
    obtain ⟨hnot, hnodup⟩ := List.nodup_cons.mp hserves.nodup
    obtain ⟨hws, hbehind⟩ := hserves.behind ws List.mem_cons_self
    have hne : ∀ ws' ∈ rest, ws' ≠ ws := fun ws' hws' heq => hnot (heq ▸ hws')
    split
    next =>
      refine GlobalOk.goOn (h.toCoreOk.tell hws hbehind) ?_
      constructor
      · exact hserves.members
      · exact hnodup
      · intro ws' hws'
        obtain ⟨hmem, hbehind'⟩ := hserves.behind ws' (List.mem_cons_of_mem ws hws')
        exact ⟨hmem, hbehind'.tell_other (hne ws' hws')⟩
      · exact hserves.failed_iff
      · exact fun ws' hws' hrest => hserves.dead ws' hws' (List.mem_cons_of_mem ws hrest)
      · intro ws' hmem hrest hdead
        by_cases heq : ws' = ws
        · rw [heq]
          exact hbehind.tell
        · have hrest' : ws' ∉ ws :: rest := fun hws' => (List.mem_cons.mp hws').elim heq hrest
          exact (hserves.done ws' hmem hrest' hdead).tell heq
    next =>
      refine GlobalOk.goOn (h.toCoreOk.fail hws) ?_
      constructor
      · exact hserves.members
      · exact hnodup
      · exact fun ws' hws' => hserves.behind ws' (List.mem_cons_of_mem ws hws')
      · intro ws' hmem
        show ws' ∈ insert ws g.failed ↔ ws' ∈ dead ++ [ws]
        rw [Finset.mem_insert, List.mem_append, List.mem_singleton, hserves.failed_iff ws' hmem]
        exact or_comm
      · intro ws' hws' hrest
        rcases List.mem_append.mp hws' with hdead | heq
        · exact hserves.dead ws' hdead (List.mem_cons_of_mem ws hrest)
        · exact hne ws' hrest (List.mem_singleton.mp heq)
      · intro ws' hmem hrest hdead
        have hrest' : ws' ∉ ws :: rest := by
          intro hws'
          rcases List.mem_cons.mp hws' with rfl | hws'
          · exact hdead (List.mem_append_right _ (List.mem_singleton.mpr rfl))
          · exact hrest hws'
        exact hserves.done ws' hmem hrest' (fun hws' => hdead (List.mem_append_left _ hws'))
  next => exact h

/-- **EVERY STEP** keeps the invariant. -/
theorem GlobalOk.exec (h : GlobalOk g) (event : GlobalEvent μ) : GlobalOk (g.exec event) := by
  cases event with
  | connect => exact h.getD (fun g' => GlobalOk.acquire h.enqueue_add)
  | disconnect ws =>
      exact h.getD (fun g' => GlobalOk.acquire (h.enqueue_other rfl (List.append_nil _).symm))
  | broadcast order message =>
      show GlobalOk (g.broadcast order message)
      unfold GlobalManager.broadcast
      split
      next => exact h
      next =>
        have hqueued : GlobalOk { g with
            requested := g.requested ++ [message], waiting := g.waiting ++ [.send message] } :=
          h.enqueue_other rfl rfl
        exact h.getD (fun g' hacquire => GlobalOk.acquire hqueued hacquire)
  | sendDone ok => exact h.sendDone ok
  | wake order => exact h.wake order

/-! ## §3. Whole runs. -/

theorem globalOk_run (events : List (GlobalEvent μ)) : GlobalOk (run exec init events) :=
  run_invariant' (fun _ event h => h.exec event) events globalOk_init

/-- **ONE ORDER FOR ALL**: the messages go out in the order in which their broadcasts asked for
the lock.  Each connection, whether it is still there or not, receives a window of that sequence
that begins where it came, without a gap and none twice; and when the lock is free, each
connection that is left has received everything since it came, and no send to it has failed.
Nobody changes the set while a broadcast iterates over it. -/
theorem total_order (events : List (GlobalEvent μ)) :
    let g := run exec init events
    g.requested = g.feed.history ++ g.waiting.filterMap message? ∧
    (∀ ws, g.feed.told ws <+: g.feed.history.drop (g.feed.since ws)) ∧
    (g.holder = none → ∀ ws ∈ g.connections,
      g.feed.told ws = g.feed.history.drop (g.feed.since ws) ∧ ws ∉ g.failed) ∧
    ∀ s, g.holder = some s → s.members = g.connections := by
  intro g
  have h : GlobalOk g := globalOk_run events
  refine ⟨h.order, h.window, ?_, fun s hs => (h.held s hs).2.members⟩
  intro hfree ws hws
  obtain ⟨hupToDate, hfailed⟩ := h.free hfree ws hws
  exact ⟨hupToDate.told, hfailed⟩

end GlobalManager

/-! ## §4. Nobody waits for ever. -/

/-- What the loop of events does without anything new. -/
inductive Turn where
  | sendDone (ok : Bool)
  | wake (order : List EventSocket)

namespace GlobalManager

variable {μ : Type*}

/-- A send comes to its end, or the first who waits takes the free lock. -/
def takeTurn (g : GlobalManager μ) : Turn → GlobalManager μ
  | .sendDone ok => g.sendDone ok
  | .wake order => g.wake order

/-- There is a send to end, or somebody to take the lock. -/
def CanTurn (g : GlobalManager μ) : Turn → Prop
  | .sendDone _ => g.holder.isSome
  | .wake order => g.holder = none ∧ g.waiting ≠ [] ∧ Lists order g.connections

/-- The work that is left, with so many connections, so many who wait and so many sends to end:
each who waits may send to all the connections there will be. -/
def loadOf (connections waiting rest : Nat) : Nat := waiting * (connections + waiting + 1) + rest

def load (g : GlobalManager μ) : Nat :=
  loadOf g.connections.card g.waiting.length (g.holder.elim 0 (fun s => s.rest.length))

theorem loadOf_lt_of_rest {connections connections' waiting rest rest' : Nat}
    (hconnections : connections' ≤ connections) (hrest : rest' < rest) :
    loadOf connections' waiting rest' < loadOf connections waiting rest := by
  have hmul : waiting * (connections' + waiting + 1) ≤ waiting * (connections + waiting + 1) :=
    Nat.mul_le_mul_left _ (by omega)
  unfold loadOf
  omega

theorem loadOf_lt_of_waiting {connections connections' waiting rest' : Nat}
    (hconnections : connections' ≤ connections + 1) (hrest : rest' ≤ connections) :
    loadOf connections' waiting rest' < loadOf connections (waiting + 1) 0 := by
  have hmul : waiting * (connections' + waiting + 1)
      ≤ waiting * (connections + (waiting + 1) + 1) :=
    Nat.mul_le_mul_left _ (by omega)
  unfold loadOf
  rw [Nat.succ_mul]
  omega

variable {g : GlobalManager μ}

theorem load_sendDone {ok : Bool} (h : GlobalOk g) (hheld : g.holder.isSome) :
    (g.sendDone ok).load < g.load := by
  have hgoOn : ∀ (g' : GlobalManager μ) (s : Sending μ), g'.connections = g.connections →
      g'.waiting = g.waiting → s.rest.length < g.holder.elim 0 (fun s => s.rest.length) →
      (g'.goOn s).load < g.load := by
    intro g' s hconnections hwaiting hlt
    unfold goOn load
    split
    next =>
      show loadOf (g'.connections \ s.dead.toFinset).card g'.waiting.length 0 < _
      rw [hwaiting]
      refine loadOf_lt_of_rest ?_ (Nat.zero_lt_of_lt hlt)
      exact hconnections ▸ Finset.card_le_card Finset.sdiff_subset
    next =>
      show loadOf g'.connections.card g'.waiting.length s.rest.length < _
      rw [hwaiting, hconnections]
      exact loadOf_lt_of_rest (Nat.le_refl _) hlt
  obtain ⟨⟨message, members, rest, dead⟩, hs⟩ := Option.isSome_iff_exists.mp hheld
  obtain ⟨hbusy, -⟩ := h.held _ hs
  cases rest with
  | nil => exact absurd rfl hbusy
  | cons ws rest =>
      have hlt : rest.length < g.holder.elim 0 (fun s => s.rest.length) := by
        rw [hs]
        exact Nat.lt_succ_self _
      unfold sendDone
      rw [hs]
      cases ok with
      | true => exact hgoOn _ _ rfl rfl hlt
      | false => exact hgoOn _ _ rfl rfl hlt

theorem load_wake {order : List EventSocket} (hfree : g.holder = none) (hwaiting : g.waiting ≠ [])
    (hlists : Lists order g.connections) : (g.wake order).load < g.load := by
  obtain ⟨request, waiting, heq⟩ := List.exists_cons_of_ne_nil hwaiting
  have hload : g.load = loadOf g.connections.card (waiting.length + 1) 0 := by
    unfold load
    rw [hfree, heq]
    rfl
  have hwake : g.wake order = ({ g with waiting }.enter order request).getD g := by
    unfold wake
    rw [hfree, heq]
  rw [hwake, hload]
  cases request with
  | add ws =>
      show loadOf (insert ws g.connections).card waiting.length
        (g.holder.elim 0 (fun s => s.rest.length)) < _
      rw [hfree]
      exact loadOf_lt_of_waiting (Finset.card_insert_le _ _) (Nat.zero_le _)
  | discard ws =>
      show loadOf (g.connections.erase ws).card waiting.length
        (g.holder.elim 0 (fun s => s.rest.length)) < _
      rw [hfree]
      exact loadOf_lt_of_waiting (Nat.le_succ_of_le Finset.card_erase_le) (Nat.zero_le _)
  | send message =>
      have henter : { g with waiting }.enter order (.send message) = some _ := if_pos hlists
      rw [henter]
      have hlength : order.length = g.connections.card := by
        rw [← hlists.2, List.toFinset_card_of_nodup hlists.1]
      show loadOf g.connections.card waiting.length _ < _
      refine loadOf_lt_of_waiting (Nat.le_succ _) ?_
      by_cases hempty : order = []
      · show (if order = [] then none else some _ : Option (Sending μ)).elim 0 _ ≤ _
        rw [if_pos hempty]
        exact Nat.zero_le _
      · show (if order = [] then none else some _ : Option (Sending μ)).elim 0 _ ≤ _
        rw [if_neg hempty]
        exact Nat.le_of_eq hlength

theorem GlobalOk.takeTurn (h : GlobalOk g) (turn : Turn) : GlobalOk (g.takeTurn turn) := by
  cases turn with
  | sendDone ok => exact h.sendDone ok
  | wake order => exact h.wake order

theorem load_takeTurn (h : GlobalOk g) {turn : Turn} (hcan : g.CanTurn turn) :
    (g.takeTurn turn).load < g.load := by
  cases turn with
  | sendDone ok => exact load_sendDone h hcan
  | wake order => exact load_wake hcan.1 hcan.2.1 hcan.2.2

theorem enter_requested {order : List EventSocket} {request : LockRequest μ}
    {g' : GlobalManager μ} (henter : g.enter order request = some g') :
    g'.requested = g.requested := by
  cases request with
  | add ws =>
      obtain rfl := Option.some.inj henter
      rfl
  | discard ws =>
      obtain rfl := Option.some.inj henter
      rfl
  | send message =>
      obtain ⟨-, rfl⟩ := enter_send henter
      rfl

/-- A turn asks for nothing new. -/
theorem takeTurn_requested (g : GlobalManager μ) (turn : Turn) :
    (g.takeTurn turn).requested = g.requested := by
  have hgoOn : ∀ (g' : GlobalManager μ) (s : Sending μ), (g'.goOn s).requested = g'.requested := by
    intro g' s
    unfold goOn
    split <;> rfl
  cases turn with
  | sendDone ok =>
      show (g.sendDone ok).requested = _
      unfold sendDone
      split
      next =>
        split
        next => exact hgoOn _ _
        next => exact hgoOn _ _
      next => rfl
  | wake order =>
      show (g.wake order).requested = _
      unfold wake
      split
      next request waiting _ _ =>
        cases henter : { g with waiting }.enter order request with
        | none => rfl
        | some g' => exact (enter_requested henter :)
      next => rfl

/-- **NOBODY WAITS FOR EVER**: however the sends end, whoever waits is served after a bounded
number of turns; when no turn is left, nobody holds the lock or waits for it, every message
whose broadcast asked for the lock has gone out, in the order in which they asked, and each
connection that is left, to which no send has failed, was told all of them since it came. -/
theorem everyone_served (events : List (GlobalEvent μ)) (turns : List Turn)
    (hturns : Along takeTurn CanTurn (run exec init events) turns) :
    turns.length ≤ (run exec init events).load ∧
    ((∀ turn, ¬ (run takeTurn (run exec init events) turns).CanTurn turn) →
      (run takeTurn (run exec init events) turns).holder = none ∧
      (run takeTurn (run exec init events) turns).waiting = [] ∧
      (run takeTurn (run exec init events) turns).feed.history
        = (run exec init events).requested ∧
      ∀ ws ∈ (run takeTurn (run exec init events) turns).connections,
        (run takeTurn (run exec init events) turns).feed.told ws
          = (run exec init events).requested.drop
            ((run takeTurn (run exec init events) turns).feed.since ws) ∧
        ws ∉ (run takeTurn (run exec init events) turns).failed) := by
  have hstart : GlobalOk (run exec init events) := globalOk_run events
  refine ⟨along_length_le (fun _ turn h _ => h.takeTurn turn)
    (fun _ _ h hcan => load_takeTurn h hcan) hstart hturns, ?_⟩
  intro hidle
  have hend : GlobalOk (run takeTurn (run exec init events) turns) :=
    run_invariant' (fun _ turn h => h.takeTurn turn) turns hstart
  have hrequested : (run takeTurn (run exec init events) turns).requested
      = (run exec init events).requested := by
    have hkeep : ∀ (g : GlobalManager μ) (turn : Turn),
        g.requested = (run exec init events).requested →
        (g.takeTurn turn).requested = (run exec init events).requested :=
      fun g turn h => (takeTurn_requested g turn).trans h
    exact run_invariant' hkeep turns rfl
  have hfree : (run takeTurn (run exec init events) turns).holder = none := by
    by_contra hheld
    exact hidle (.sendDone true) (Option.isSome_iff_ne_none.mpr hheld)
  have hwaiting : (run takeTurn (run exec init events) turns).waiting = [] := by
    by_contra hne
    exact hidle (.wake _) ⟨hfree, hne, Finset.nodup_toList _, Finset.toList_toFinset _⟩
  have hhistory : (run takeTurn (run exec init events) turns).feed.history
      = (run exec init events).requested := by
    have horder := hend.order
    rw [hwaiting, List.filterMap_nil, List.append_nil] at horder
    exact horder.symm.trans hrequested
  refine ⟨hfree, hwaiting, hhistory, fun ws hws => ?_⟩
  obtain ⟨hupToDate, hfailed⟩ := hend.free hfree ws hws
  rw [← hhistory]
  exact ⟨hupToDate.told, hfailed⟩

/-- Two clients, one of which is gone: two messages. -/
theorem everyone_served_two :
    let events : List (GlobalEvent String) := [.connect, .connect, .broadcast [1, 0] "node.created",
      .broadcast [] "node.updated"]
    let turns : List Turn := [.sendDone true, .sendDone false, .wake [1], .sendDone true]
    turns.length ≤ (run exec init events).load ∧
    (run takeTurn (run exec init events) turns).feed.history = ["node.created", "node.updated"] ∧
    (run takeTurn (run exec init events) turns).feed.told 1 = ["node.created", "node.updated"] := by
  intro events turns
  have hturns : Along takeTurn CanTurn (run exec init events) turns := by
    refine ⟨rfl, rfl, ⟨rfl, ?_, ?_⟩, rfl, trivial⟩
    · exact List.cons_ne_nil _ _
    · decide
  obtain ⟨hlength, hserved⟩ := everyone_served events turns hturns
  have hidle : ∀ turn, ¬ (run takeTurn (run exec init events) turns).CanTurn turn := by
    rintro (ok | order)
    · rintro ⟨⟩
    · rintro ⟨-, hne, -⟩
      exact hne rfl
  obtain ⟨-, -, hhistory, htold⟩ := hserved hidle
  exact ⟨hlength, hhistory, (htold 1 (by decide)).1⟩

end GlobalManager

end PureBoot.Web
