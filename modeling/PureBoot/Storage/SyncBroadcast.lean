/-
  PureBoot.Storage.SyncBroadcast — the progress of a sync, broadcast to WEBSOCKETS.

  Embeds `core/websocket.py: SyncWebSocketManager`.  The coroutines of one event loop take
  turns at their awaits: `connect` registers a connection after `accept`, `disconnect` does not
  wait, and `broadcast_progress`, which `core/sync.py` calls during a sync and at its end, waits
  for each of its sends.  It iterates over the set object of the job while others may change
  that set.  A job without connections loses its set object, and gets another one later.

  Main results:
    * `safe_iff` — the runs in which no broadcast raises;
    * `Delivers.exec`, `Delivers.count` — while nobody changes a set that is iterated over,
      each connection that a broadcast found is sent the message once.
-/
import PureBoot.Lib.Run
import PureBoot.Lib.SetIter

namespace PureBoot.Storage

open PureBoot.Lib

/-! ## §1. The manager. -/

/-- A connection, as an object. -/
abbrev WebSocket : Type := Nat

inductive BroadcastExn where
  /-- "Set changed size during iteration". -/
  | runtimeError
  | keyError
  deriving DecidableEq

inductive BroadcastStatus where
  /-- Suspended in the send to a connection, in an iteration over a set object. -/
  | sending (set : Nat) (it : SetIter WebSocket) (ws : WebSocket)
  | returned
  | raised (e : BroadcastExn)

/-- A call of `broadcast_progress`. -/
structure Broadcast where
  jobId : String
  /-- The sends that are over, and whether they succeeded. -/
  sends : List (WebSocket × Bool)
  status : BroadcastStatus

/-- `dead_connections`. -/
def deadConnections (sends : List (WebSocket × Bool)) : List WebSocket :=
  (sends.filter (fun p => !p.2)).map Prod.fst

/-- `SyncWebSocketManager`, the set objects and the broadcasts. -/
structure SyncWebSocketManager where
  connections : String → Option Nat := fun _ => none
  sets : Nat → SetObject WebSocket := fun _ => {}
  /-- How many set objects were made. -/
  made : Nat := 0
  broadcasts : Nat → Option Broadcast := fun _ => none

namespace SyncWebSocketManager

/-- `__init__`. -/
def init : SyncWebSocketManager := {}

variable (m : SyncWebSocketManager)

def setSet (set : Nat) (o : SetObject WebSocket) : SyncWebSocketManager :=
  { m with sets := Function.update m.sets set o }

def setBroadcast (id : Nat) (b : Broadcast) : SyncWebSocketManager :=
  { m with broadcasts := Function.update m.broadcasts id (some b) }

/-- `connect`, after `accept`. -/
def connect (jobId : String) (ws : WebSocket) : SyncWebSocketManager :=
  match m.connections jobId with
  | some set => m.setSet set ((m.sets set).add ws)
  | none =>
      { m with
        connections := Function.update m.connections jobId (some m.made)
        sets := Function.update m.sets m.made (SetObject.add {} ws)
        made := m.made + 1 }

def disconnect (jobId : String) (ws : WebSocket) : SyncWebSocketManager :=
  match m.connections jobId with
  | none => m
  | some set =>
      let m' := m.setSet set ((m.sets set).discard ws)
      if ((m.sets set).discard ws).members = ∅ then
        { m' with connections := Function.update m.connections jobId none }
      else m'

/-- The end of `broadcast_progress`, which drops the connections that failed. -/
def finish (id : Nat) (jobId : String) (sends : List (WebSocket × Bool)) :
    SyncWebSocketManager :=
  if deadConnections sends = [] then m.setBroadcast id ⟨jobId, sends, .returned⟩
  else
    match m.connections jobId with
    | none => m.setBroadcast id ⟨jobId, sends, .raised .keyError⟩
    | some set =>
        (m.setSet set ((m.sets set).discardAll (deadConnections sends))).setBroadcast id
          ⟨jobId, sends, .returned⟩

/-- The loop of `broadcast_progress` asks for the next connection and sends to it. -/
def advance (id : Nat) (jobId : String) (set : Nat) (it : SetIter WebSocket)
    (sends : List (WebSocket × Bool)) (other : Option WebSocket) : SyncWebSocketManager :=
  match (m.sets set).next? it other with
  | none => m.setBroadcast id ⟨jobId, sends, .raised .runtimeError⟩
  | some (some ws, it') => m.setBroadcast id ⟨jobId, sends, .sending set it' ws⟩
  | some (none, _) => m.finish id jobId sends

/-- `broadcast_progress`, up to its first send; the set lists its members in some order. -/
def broadcastProgress (id : Nat) (jobId : String) (order : List WebSocket) :
    SyncWebSocketManager :=
  match m.connections jobId with
  | none => m.setBroadcast id ⟨jobId, [], .returned⟩
  | some set =>
      if Lists order (m.sets set).members then
        m.advance id jobId set ((m.sets set).iter order) [] none
      else m

/-- A send of a broadcast is over; an exception of it is caught. -/
def sendDone (id : Nat) (ok : Bool) (other : Option WebSocket) : SyncWebSocketManager :=
  match m.broadcasts id with
  | some ⟨jobId, sends, .sending set it ws⟩ =>
      m.advance id jobId set it (sends ++ [(ws, ok)]) other
  | _ => m

end SyncWebSocketManager

/-- What happens between two awaits. -/
inductive SyncEvent where
  | connect (jobId : String) (ws : WebSocket)
  | disconnect (jobId : String) (ws : WebSocket)
  | broadcastProgress (id : Nat) (jobId : String) (order : List WebSocket)
  /-- `other` is what a set that was changed yields next. -/
  | sendDone (id : Nat) (ok : Bool) (other : Option WebSocket)

namespace SyncWebSocketManager

variable (m : SyncWebSocketManager)

def exec : SyncEvent → SyncWebSocketManager
  | .connect jobId ws => m.connect jobId ws
  | .disconnect jobId ws => m.disconnect jobId ws
  | .broadcastProgress id jobId order =>
      -- every call is another one
      if (m.broadcasts id).isSome then m else m.broadcastProgress id jobId order
  | .sendDone id ok other => m.sendDone id ok other

/-- The connections of a job. -/
def registered (jobId : String) : Finset WebSocket :=
  match m.connections jobId with
  | none => ∅
  | some set => (m.sets set).members

/-! ## §2. What can go wrong. -/

/-- No broadcast raised. -/
def Safe : Prop := ∀ id b e, m.broadcasts id = some b → b.status ≠ .raised e

/-- A broadcast is suspended in an iteration over the set. -/
def Iterates (id set : Nat) : Prop :=
  ∃ b it ws, m.broadcasts id = some b ∧ b.status = .sending set it ws

/-- A broadcast that goes on finds as many connections in its set as it found first. -/
def SizeKept : SyncEvent → Prop
  | .sendDone id _ _ => ∀ b set it ws, m.broadcasts id = some b →
      b.status = .sending set it ws → (m.sets set).members.card = it.size
  | _ => True

/-- The step changes no set that a suspended broadcast iterates over: nobody comes, nobody goes
and no other broadcast drops a connection. -/
def Quiet : SyncEvent → Prop
  | .connect jobId ws => ∀ set, m.connections jobId = some set → ws ∉ (m.sets set).members →
      ∀ id, ¬ m.Iterates id set
  | .disconnect jobId ws => ∀ set, m.connections jobId = some set → ws ∈ (m.sets set).members →
      ∀ id, ¬ m.Iterates id set
  | .broadcastProgress _ _ _ => True
  | .sendDone id ok _ => ∀ b set it ws, m.broadcasts id = some b →
      b.status = .sending set it ws → it.rest = [] →
      deadConnections (b.sends ++ [(ws, ok)]) ≠ [] → ∀ id', id' ≠ id → ¬ m.Iterates id' set

/-! ## §3. Set objects and their jobs. -/

/-- A job has its own set object, an object without a job is empty, and a suspended broadcast
iterates over an object that no other job has and that was not empty. -/
structure ManagerOk : Prop where
  made : ∀ jobId set, m.connections jobId = some set → set < m.made
  own : ∀ jobId jobId' set, m.connections jobId = some set → m.connections jobId' = some set →
    jobId = jobId'
  unreferenced : ∀ set, (∀ jobId, m.connections jobId ≠ some set) → (m.sets set).members = ∅
  iterates : ∀ id b set it ws, m.broadcasts id = some b → b.status = .sending set it ws →
    set < m.made ∧ 0 < it.size ∧ ∀ jobId, m.connections jobId = some set → jobId = b.jobId

theorem managerOk_init : ManagerOk init where
  made := fun _ _ h => nomatch h
  own := fun _ _ _ h => nomatch h
  unreferenced := fun _ _ => rfl
  iterates := fun _ _ _ _ _ h => nomatch h

variable {m} {id : Nat} {jobId : String} {sends : List (WebSocket × Bool)} {ws : WebSocket}

theorem setBroadcast_self (b : Broadcast) : (m.setBroadcast id b).broadcasts id = some b := by
  unfold setBroadcast
  exact Function.update_self _ _ _

theorem setBroadcast_of_ne (b : Broadcast) {id' : Nat} (h : id' ≠ id) :
    (m.setBroadcast id b).broadcasts id' = m.broadcasts id' := by
  unfold setBroadcast
  exact Function.update_of_ne h _ _

/-- What the loop does with what its iterator says. -/
theorem advance_cases (m : SyncWebSocketManager) (id : Nat) (jobId : String) (set : Nat)
    (it : SetIter WebSocket) (sends : List (WebSocket × Bool)) (other : Option WebSocket) :
    ((m.sets set).next? it other = none ∧
      m.advance id jobId set it sends other
        = m.setBroadcast id ⟨jobId, sends, .raised .runtimeError⟩) ∨
    (∃ ws it', (m.sets set).next? it other = some (some ws, it') ∧
      m.advance id jobId set it sends other
        = m.setBroadcast id ⟨jobId, sends, .sending set it' ws⟩) ∨
    ∃ it', (m.sets set).next? it other = some (none, it') ∧
      m.advance id jobId set it sends other = m.finish id jobId sends := by
  unfold advance
  cases hnext : (m.sets set).next? it other with
  | none => exact .inl ⟨rfl, rfl⟩
  | some p =>
      obtain ⟨a, it'⟩ := p
      cases a with
      | none => exact .inr (.inr ⟨it', rfl, rfl⟩)
      | some ws => exact .inr (.inl ⟨ws, it', rfl, rfl⟩)

/-- How a broadcast ends. -/
theorem finish_cases (m : SyncWebSocketManager) (id : Nat) (jobId : String)
    (sends : List (WebSocket × Bool)) :
    (deadConnections sends = [] ∧
      m.finish id jobId sends = m.setBroadcast id ⟨jobId, sends, .returned⟩) ∨
    (deadConnections sends ≠ [] ∧ m.connections jobId = none ∧
      m.finish id jobId sends = m.setBroadcast id ⟨jobId, sends, .raised .keyError⟩) ∨
    ∃ set, deadConnections sends ≠ [] ∧ m.connections jobId = some set ∧
      m.finish id jobId sends
        = (m.setSet set ((m.sets set).discardAll (deadConnections sends))).setBroadcast id
            ⟨jobId, sends, .returned⟩ := by
  unfold finish
  by_cases hdead : deadConnections sends = []
  · exact .inl ⟨hdead, if_pos hdead⟩
  · rw [if_neg hdead]
    cases hset : m.connections jobId with
    | none => exact .inr (.inl ⟨hdead, rfl, rfl⟩)
    | some set => exact .inr (.inr ⟨set, hdead, rfl, rfl⟩)

/-- How a broadcast begins; a step that does not begin one changes nothing. -/
theorem begin_cases (m : SyncWebSocketManager) (id : Nat) (jobId : String)
    (order : List WebSocket) :
    m.exec (.broadcastProgress id jobId order) = m ∨
    (m.registered jobId = ∅ ∧
      m.exec (.broadcastProgress id jobId order)
        = m.setBroadcast id ⟨jobId, [], .returned⟩) ∨
    ∃ set it ws, m.connections jobId = some set ∧ (m.sets set).Covers it [ws] ∧
      m.exec (.broadcastProgress id jobId order)
        = m.setBroadcast id ⟨jobId, [], .sending set it ws⟩ := by
  by_cases hsome : (m.broadcasts id).isSome
  · exact .inl (if_pos hsome)
  · have hexec : m.exec (.broadcastProgress id jobId order)
        = m.broadcastProgress id jobId order := if_neg hsome
    rw [hexec]
    unfold broadcastProgress registered
    cases hset : m.connections jobId with
    | none => exact .inr (.inl ⟨rfl, rfl⟩)
    | some set =>
        dsimp only
        by_cases hlists : Lists order (m.sets set).members
        · rw [if_pos hlists]
          unfold advance
          rcases (SetObject.covers_iter hlists).next? none with
            ⟨-, hnext, hempty⟩ | ⟨ws, it, hnext, -, hcovers⟩
          · rw [hnext]
            exact .inr (.inl ⟨hempty.2.symm, rfl⟩)
          · rw [hnext]
            exact .inr (.inr ⟨set, it, ws, rfl, hcovers, rfl⟩)
        · exact .inl (if_neg hlists)

/-- The broadcast that goes on. -/
theorem sendDone_eq {b : Broadcast} {set : Nat} {it : SetIter WebSocket} {ok : Bool}
    {other : Option WebSocket} (hb : m.broadcasts id = some b)
    (hstatus : b.status = .sending set it ws) :
    m.sendDone id ok other = m.advance id b.jobId set it (b.sends ++ [(ws, ok)]) other := by
  unfold sendDone
  obtain ⟨jobId, sends, status⟩ := b
  obtain rfl : status = .sending set it ws := hstatus
  rw [hb]

/-- Only a suspended broadcast goes on. -/
theorem sendDone_cases (m : SyncWebSocketManager) (id : Nat) (ok : Bool)
    (other : Option WebSocket) :
    m.sendDone id ok other = m ∨
    ∃ b set it ws, m.broadcasts id = some b ∧ b.status = .sending set it ws ∧
      m.sendDone id ok other
        = m.advance id b.jobId set it (b.sends ++ [(ws, ok)]) other := by
  cases hb : m.broadcasts id with
  | none =>
      refine .inl ?_
      unfold sendDone
      rw [hb]
  | some b =>
      cases hstatus : b.status with
      | sending set it ws => exact .inr ⟨b, set, it, ws, rfl, hstatus, sendDone_eq hb hstatus⟩
      | returned =>
          refine .inl ?_
          obtain ⟨jobId, sends, status⟩ := b
          obtain rfl : status = .returned := hstatus
          unfold sendDone
          rw [hb]
      | raised e =>
          refine .inl ?_
          obtain ⟨jobId, sends, status⟩ := b
          obtain rfl : status = .raised e := hstatus
          unfold sendDone
          rw [hb]

namespace ManagerOk

/-- A set with members has a job. -/
theorem exists_job (h : ManagerOk m) {set : Nat} (hmem : (m.sets set).members ≠ ∅) :
    ∃ jobId, m.connections jobId = some set := by
  by_contra hno
  exact hmem (h.unreferenced set (fun jobId heq => hno ⟨jobId, heq⟩))

theorem setBroadcast (h : ManagerOk m) {b : Broadcast}
    (hb : ∀ set it ws, b.status = .sending set it ws →
      set < m.made ∧ 0 < it.size ∧ ∀ jobId, m.connections jobId = some set → jobId = b.jobId) :
    ManagerOk (m.setBroadcast id b) where
  made := h.made
  own := h.own
  unreferenced := h.unreferenced
  iterates := by
    intro id' b' set it ws hb' hstatus
    by_cases hid : id' = id
    · rw [hid, setBroadcast_self] at hb'
      obtain rfl := Option.some.inj hb'
      exact hb set it ws hstatus
    · rw [setBroadcast_of_ne b hid] at hb'
      exact h.iterates id' b' set it ws hb' hstatus

/-- The set of a job is changed. -/
theorem setSet (h : ManagerOk m) {set : Nat} (hset : m.connections jobId = some set)
    (o : SetObject WebSocket) : ManagerOk (m.setSet set o) where
  made := h.made
  own := h.own
  unreferenced := by
    intro set' hfree
    have hne : set' ≠ set := fun heq => hfree jobId (heq ▸ hset)
    show (Function.update m.sets set o set').members = ∅
    rw [Function.update_of_ne hne]
    exact h.unreferenced set' hfree
  iterates := h.iterates

theorem connect (h : ManagerOk m) (jobId : String) (ws : WebSocket) :
    ManagerOk (m.connect jobId ws) := by
  unfold SyncWebSocketManager.connect
  split
  next set hset => exact h.setSet hset _
  next hnone =>
    -- the new set object is the newest
    have hnew : ∀ jobId' set,
        Function.update m.connections jobId (some m.made) jobId' = some set →
        (jobId' = jobId ∧ set = m.made) ∨ (jobId' ≠ jobId ∧ m.connections jobId' = some set) := by
      intro jobId' set hset
      by_cases hjob : jobId' = jobId
      · rw [hjob, Function.update_self] at hset
        exact .inl ⟨hjob, (Option.some.inj hset).symm⟩
      · rw [Function.update_of_ne hjob] at hset
        exact .inr ⟨hjob, hset⟩
    refine ⟨?_, ?_, ?_, ?_⟩
    · intro jobId' set hset
      rcases hnew jobId' set hset with ⟨-, rfl⟩ | ⟨-, hold⟩
      · exact Nat.lt_succ_self m.made
      · exact Nat.lt_succ_of_lt (h.made jobId' set hold)
    · intro jobId₁ jobId₂ set h₁ h₂
      rcases hnew jobId₁ set h₁ with ⟨rfl, rfl⟩ | ⟨-, h₁⟩
      · rcases hnew jobId₂ m.made h₂ with ⟨rfl, -⟩ | ⟨-, h₂⟩
        · rfl
        · exact absurd (h.made jobId₂ m.made h₂) (Nat.lt_irrefl _)
      · rcases hnew jobId₂ set h₂ with ⟨-, rfl⟩ | ⟨-, h₂⟩
        · exact absurd (h.made jobId₁ m.made h₁) (Nat.lt_irrefl _)
        · exact h.own jobId₁ jobId₂ set h₁ h₂
    · intro set hfree
      have hne : set ≠ m.made := by
        rintro rfl
        exact hfree jobId (Function.update_self _ _ _)
      show (Function.update m.sets m.made (SetObject.add {} ws) set).members = ∅
      rw [Function.update_of_ne hne]
      refine h.unreferenced set (fun jobId' hold => hfree jobId' ?_)
      have hjob : jobId' ≠ jobId := by
        rintro rfl
        rw [hnone] at hold
        cases hold
      exact (Function.update_of_ne hjob _ _).trans hold
    · intro id b set it ws' hb hstatus
      obtain ⟨hlt, hpos, hjob⟩ := h.iterates id b set it ws' hb hstatus
      refine ⟨Nat.lt_succ_of_lt hlt, hpos, fun jobId' hset => ?_⟩
      rcases hnew jobId' set hset with ⟨-, rfl⟩ | ⟨-, hold⟩
      · exact absurd hlt (Nat.lt_irrefl _)
      · exact hjob jobId' hold

theorem disconnect (h : ManagerOk m) (jobId : String) (ws : WebSocket) :
    ManagerOk (m.disconnect jobId ws) := by
  unfold SyncWebSocketManager.disconnect
  split
  next => exact h
  next set hset =>
    have hok := h.setSet hset ((m.sets set).discard ws)
    dsimp only
    split
    next hempty =>
      -- the job loses its set, which is empty
      have hold : ∀ jobId' set', Function.update m.connections jobId none jobId' = some set' →
          m.connections jobId' = some set' := by
        intro jobId' set' hset'
        by_cases hjob : jobId' = jobId
        · rw [hjob, Function.update_self] at hset'
          cases hset'
        · rw [Function.update_of_ne hjob] at hset'
          exact hset'
      refine ⟨fun jobId' set' hset' => h.made jobId' set' (hold jobId' set' hset'),
        fun jobId₁ jobId₂ set' h₁ h₂ =>
          h.own jobId₁ jobId₂ set' (hold jobId₁ set' h₁) (hold jobId₂ set' h₂), ?_, ?_⟩
      · intro set' hfree
        show (Function.update m.sets set ((m.sets set).discard ws) set').members = ∅
        by_cases hne : set' = set
        · rw [hne, Function.update_self]
          exact hempty
        · rw [Function.update_of_ne hne]
          refine h.unreferenced set' (fun jobId' hset' => hfree jobId' ?_)
          have hjob : jobId' ≠ jobId := by
            rintro rfl
            rw [hset] at hset'
            exact hne (Option.some.inj hset').symm
          exact (Function.update_of_ne hjob _ _).trans hset'
      · intro id b set' it ws' hb hstatus
        obtain ⟨hlt, hpos, hjob⟩ := h.iterates id b set' it ws' hb hstatus
        exact ⟨hlt, hpos, fun jobId' hset' => hjob jobId' (hold jobId' set' hset')⟩
    next => exact hok

theorem finish (h : ManagerOk m) (id : Nat) (jobId : String) (sends : List (WebSocket × Bool)) :
    ManagerOk (m.finish id jobId sends) := by
  rcases m.finish_cases id jobId sends with ⟨-, heq⟩ | ⟨-, -, heq⟩ | ⟨set, -, hset, heq⟩
  · rw [heq]
    exact h.setBroadcast (fun _ _ _ hstatus => nomatch hstatus)
  · rw [heq]
    exact h.setBroadcast (fun _ _ _ hstatus => nomatch hstatus)
  · rw [heq]
    exact (h.setSet hset _).setBroadcast (fun _ _ _ hstatus => nomatch hstatus)

theorem advance (h : ManagerOk m) {set : Nat} {it : SetIter WebSocket} (hlt : set < m.made)
    (hjob : ∀ jobId', m.connections jobId' = some set → jobId' = jobId)
    {other : Option WebSocket}
    (hpos : ∀ ws it', (m.sets set).next? it other = some (some ws, it') → 0 < it'.size) :
    ManagerOk (m.advance id jobId set it sends other) := by
  rcases m.advance_cases id jobId set it sends other with
    ⟨-, heq⟩ | ⟨ws, it', hnext, heq⟩ | ⟨-, -, heq⟩
  · rw [heq]
    exact h.setBroadcast (fun _ _ _ hstatus => nomatch hstatus)
  · rw [heq]
    refine h.setBroadcast (fun _ _ _ hstatus => ?_)
    cases hstatus
    exact ⟨hlt, hpos ws it' hnext, hjob⟩
  · rw [heq]
    exact h.finish id jobId sends

theorem begin (h : ManagerOk m) (id : Nat) (jobId : String) (order : List WebSocket) :
    ManagerOk (m.exec (.broadcastProgress id jobId order)) := by
  rcases m.begin_cases id jobId order with heq | ⟨-, heq⟩ | ⟨set, it, ws, hset, hcovers, heq⟩
  · rw [heq]
    exact h
  · rw [heq]
    exact h.setBroadcast (fun _ _ _ hstatus => nomatch hstatus)
  · rw [heq]
    refine h.setBroadcast (fun _ _ _ hstatus => ?_)
    cases hstatus
    refine ⟨h.made jobId set hset, ?_, fun jobId' hset' => h.own jobId' jobId set hset' hset⟩
    -- the set yields one of its members
    have hws : ws ∈ (m.sets set).members := by
      rw [← hcovers.lists.2]
      simp
    rw [hcovers.size]
    exact Finset.card_pos.mpr ⟨ws, hws⟩

/-- **EVERY EVENT KEEPS THE SET OBJECTS IN ORDER.** -/
theorem exec (h : ManagerOk m) (event : SyncEvent) : ManagerOk (m.exec event) := by
  cases event with
  | connect jobId ws => exact h.connect jobId ws
  | disconnect jobId ws => exact h.disconnect jobId ws
  | broadcastProgress id jobId order => exact h.begin id jobId order
  | sendDone id ok other =>
      show ManagerOk (m.sendDone id ok other)
      rcases m.sendDone_cases id ok other with heq | ⟨b, set, it, ws, hb, hstatus, heq⟩
      · rw [heq]
        exact h
      · obtain ⟨hlt, hpos, hjob⟩ := h.iterates id b set it ws hb hstatus
        rw [heq]
        refine h.advance hlt hjob (fun ws it' hnext => ?_)
        rw [SetObject.next?_size hnext]
        exact hpos

end ManagerOk

/-! ## §4. Broadcasts that raise. -/

theorem connect_broadcasts (m : SyncWebSocketManager) (jobId : String) (ws : WebSocket) :
    (m.connect jobId ws).broadcasts = m.broadcasts := by
  unfold connect
  split <;> rfl

theorem disconnect_broadcasts (m : SyncWebSocketManager) (jobId : String) (ws : WebSocket) :
    (m.disconnect jobId ws).broadcasts = m.broadcasts := by
  unfold disconnect
  split
  next => rfl
  next =>
    dsimp only
    split <;> rfl

namespace Safe

theorem setBroadcast (h : Safe m) {b : Broadcast} (hb : ∀ e, b.status ≠ .raised e) :
    Safe (m.setBroadcast id b) := by
  intro id' b' e hb'
  by_cases hid : id' = id
  · rw [hid, setBroadcast_self] at hb'
    obtain rfl := Option.some.inj hb'
    exact hb e
  · rw [setBroadcast_of_ne b hid] at hb'
    exact h id' b' e hb'

/-- The job of a broadcast that ends has its set. -/
theorem finish (h : Safe m) {set : Nat} (hset : m.connections jobId = some set) :
    Safe (m.finish id jobId sends) := by
  rcases m.finish_cases id jobId sends with ⟨-, heq⟩ | ⟨-, hnone, -⟩ | ⟨set, -, -, heq⟩
  · rw [heq]
    exact h.setBroadcast (fun _ hstatus => nomatch hstatus)
  · rw [hset] at hnone
    cases hnone
  · rw [heq]
    have hsets : Safe (m.setSet set ((m.sets set).discardAll (deadConnections sends))) := h
    exact hsets.setBroadcast (fun _ hstatus => nomatch hstatus)

/-- **A BROADCAST THAT FINDS AS MANY CONNECTIONS DOES NOT RAISE.** -/
theorem exec (h : Safe m) (hok : ManagerOk m) {event : SyncEvent} (hkept : m.SizeKept event) :
    Safe (m.exec event) := by
  cases event with
  | connect jobId ws =>
      intro id b e hb
      exact h id b e (m.connect_broadcasts jobId ws ▸ hb)
  | disconnect jobId ws =>
      intro id b e hb
      exact h id b e (m.disconnect_broadcasts jobId ws ▸ hb)
  | broadcastProgress id jobId order =>
      rcases m.begin_cases id jobId order with heq | ⟨-, heq⟩ | ⟨_, _, _, -, -, heq⟩
      · rw [heq]
        exact h
      · rw [heq]
        exact h.setBroadcast (fun _ hstatus => nomatch hstatus)
      · rw [heq]
        exact h.setBroadcast (fun _ hstatus => nomatch hstatus)
  | sendDone id ok other =>
      show Safe (m.sendDone id ok other)
      rcases m.sendDone_cases id ok other with heq | ⟨b, set, it, ws, hb, hstatus, heq⟩
      · rw [heq]
        exact h
      · have hsize : (m.sets set).members.card = it.size := hkept b set it ws hb hstatus
        obtain ⟨-, hpos, hown⟩ := hok.iterates id b set it ws hb hstatus
        rw [heq]
        rcases m.advance_cases id b.jobId set it (b.sends ++ [(ws, ok)]) other with
          ⟨hnone, -⟩ | ⟨_, _, -, heq⟩ | ⟨_, -, heq⟩
        · exact absurd hsize (SetObject.next?_eq_none_iff.mp hnone)
        · rw [heq]
          exact h.setBroadcast (fun _ hstatus => nomatch hstatus)
        · rw [heq]
          -- the set has its members, and so it is that of the job
          have hmem : (m.sets set).members ≠ ∅ :=
            Finset.Nonempty.ne_empty (Finset.card_pos.mp (hsize ▸ hpos))
          obtain ⟨jobId, hset⟩ := hok.exists_job hmem
          rw [hown jobId hset] at hset
          exact h.finish hset

end Safe

/-- **A BROADCAST THAT FINDS ANOTHER NUMBER OF CONNECTIONS RAISES.** -/
theorem not_safe_exec {event : SyncEvent} (h : ¬ m.SizeKept event) : ¬ Safe (m.exec event) := by
  cases event with
  | connect jobId ws => exact absurd trivial h
  | disconnect jobId ws => exact absurd trivial h
  | broadcastProgress id jobId order => exact absurd trivial h
  | sendDone id ok other =>
      intro hsafe
      refine h (fun b set it ws hb hstatus => ?_)
      by_contra hsize
      have heq : m.exec (.sendDone id ok other) = m.setBroadcast id
          ⟨b.jobId, b.sends ++ [(ws, ok)], .raised .runtimeError⟩ := by
        show m.sendDone id ok other = _
        rw [sendDone_eq hb hstatus]
        unfold advance
        rw [SetObject.next?_eq_none_iff.mpr hsize]
      rw [heq] at hsafe
      exact hsafe id _ .runtimeError (setBroadcast_self _) rfl

theorem safe_init : Safe init := fun _ _ _ hb => nomatch hb

/-- **THE RUNS IN WHICH NO BROADCAST RAISES**: those in which each one that goes on finds as many
connections in its set as it found first. -/
theorem safe_iff (events : List SyncEvent) :
    Always exec Safe init events ↔ Along exec SizeKept init events := by
  have hstep : ∀ m event, True → ManagerOk m ∧ Safe m → m.SizeKept event →
      ManagerOk (m.exec event) ∧ Safe (m.exec event) :=
    fun m event _ h hkept => ⟨h.1.exec event, h.2.exec h.1 hkept⟩
  exact always_iff_along_of hstep (fun m h => h.2) (fun m event _ _ h => not_safe_exec h)
    (along_true init events) ⟨managerOk_init, safe_init⟩

/-! ## §5. Broadcasts that nobody disturbs. -/

/-- No set was changed since a suspended broadcast began to iterate over it. -/
structure Calm (m : SyncWebSocketManager) : Prop where
  ok : ManagerOk m
  covers : ∀ id b set it ws, m.broadcasts id = some b → b.status = .sending set it ws →
    (m.sets set).Covers it (b.sends.map Prod.fst ++ [ws])

theorem calm_init : Calm init where
  ok := managerOk_init
  covers := fun _ _ _ _ _ h => nomatch h

namespace Calm

variable {b : Broadcast} {set : Nat} {it : SetIter WebSocket}

theorem sizeKept (h : Calm m) (event : SyncEvent) : m.SizeKept event := by
  cases event with
  | connect jobId ws => trivial
  | disconnect jobId ws => trivial
  | broadcastProgress id jobId order => trivial
  | sendDone id ok other =>
      exact fun b set it ws hb hstatus => (h.covers id b set it ws hb hstatus).size.symm

/-- The set of a suspended broadcast is that of its job. -/
theorem connections (h : Calm m) (hb : m.broadcasts id = some b)
    (hstatus : b.status = .sending set it ws) : m.connections b.jobId = some set := by
  have hmem : (m.sets set).members ≠ ∅ := by
    rw [← (h.covers id b set it ws hb hstatus).lists.2]
    simp
  obtain ⟨jobId, hset⟩ := h.ok.exists_job hmem
  have hjob : jobId = b.jobId := (h.ok.iterates id b set it ws hb hstatus).2.2 jobId hset
  rw [← hjob]
  exact hset

/-- **WHAT AN UNDISTURBED BROADCAST DOES NEXT**: it sends to the next connection, or it has sent
to all of them and returns. -/
theorem sendDone_cases (h : Calm m) (hb : m.broadcasts id = some b)
    (hstatus : b.status = .sending set it ws) (ok : Bool) (other : Option WebSocket) :
    (∃ ws' it', (m.sets set).Covers it' ((b.sends ++ [(ws, ok)]).map Prod.fst ++ [ws']) ∧
      m.sendDone id ok other = m.setBroadcast id
        ⟨b.jobId, b.sends ++ [(ws, ok)], .sending set it' ws'⟩) ∨
    (it.rest = [] ∧ Lists ((b.sends ++ [(ws, ok)]).map Prod.fst) (m.sets set).members ∧
      ∃ o, (deadConnections (b.sends ++ [(ws, ok)]) = [] → o = m.sets set) ∧
        m.sendDone id ok other = (m.setSet set o).setBroadcast id
          ⟨b.jobId, b.sends ++ [(ws, ok)], .returned⟩) := by
  have hcovers := h.covers id b set it ws hb hstatus
  have hseen : b.sends.map Prod.fst ++ [ws] = (b.sends ++ [(ws, ok)]).map Prod.fst := by
    rw [List.map_append, List.map_singleton]
  rw [hseen] at hcovers
  rw [sendDone_eq hb hstatus]
  rcases hcovers.next? other with ⟨hrest, hnext, hlists⟩ | ⟨ws', it', hnext, -, hcovers'⟩
  · refine .inr ⟨hrest, hlists, ?_⟩
    have hfinish : m.advance id b.jobId set it (b.sends ++ [(ws, ok)]) other
        = m.finish id b.jobId (b.sends ++ [(ws, ok)]) := by
      unfold advance
      rw [hnext]
    rw [hfinish]
    rcases m.finish_cases id b.jobId (b.sends ++ [(ws, ok)]) with
      ⟨-, heq⟩ | ⟨-, hnone, -⟩ | ⟨set', hdead, hset', heq⟩
    · refine ⟨m.sets set, fun _ => rfl, ?_⟩
      rw [heq]
      unfold setSet
      rw [Function.update_eq_self]
    · rw [h.connections hb hstatus] at hnone
      cases hnone
    · rw [h.connections hb hstatus] at hset'
      obtain rfl := Option.some.inj hset'
      exact ⟨_, fun hnil => absurd hnil hdead, heq⟩
  · refine .inl ⟨ws', it', hcovers', ?_⟩
    unfold advance
    rw [hnext]

end Calm

/-- A step is about other broadcasts. -/
def IsOther (id : Nat) (event : SyncEvent) : Prop :=
  (∀ ok other, event ≠ .sendDone id ok other) ∧
  ∀ jobId order, event ≠ .broadcastProgress id jobId order

theorem exec_broadcasts_of_isOther {event : SyncEvent} (h : Calm m) (hother : IsOther id event) :
    (m.exec event).broadcasts id = m.broadcasts id := by
  cases event with
  | connect jobId ws => exact congrFun (m.connect_broadcasts jobId ws) id
  | disconnect jobId ws => exact congrFun (m.disconnect_broadcasts jobId ws) id
  | broadcastProgress id' jobId order =>
      have hne : id ≠ id' := fun heq => hother.2 jobId order (heq ▸ rfl)
      rcases m.begin_cases id' jobId order with heq | ⟨-, heq⟩ | ⟨_, _, _, -, -, heq⟩
      · rw [heq]
      · rw [heq, setBroadcast_of_ne _ hne]
      · rw [heq, setBroadcast_of_ne _ hne]
  | sendDone id' ok other =>
      have hne : id ≠ id' := fun heq => hother.1 ok other (heq ▸ rfl)
      show (m.sendDone id' ok other).broadcasts id = _
      rcases m.sendDone_cases id' ok other with heq | ⟨b, set, it, ws, hb, hstatus, -⟩
      · rw [heq]
      · rcases h.sendDone_cases hb hstatus ok other with ⟨_, _, -, heq⟩ | ⟨-, -, o, -, heq⟩
        · rw [heq, setBroadcast_of_ne _ hne]
        · rw [heq, setBroadcast_of_ne _ hne]
          rfl

theorem connect_sets {set : Nat} (hlt : set < m.made)
    (h : m.connections jobId = some set → ws ∈ (m.sets set).members) :
    (m.connect jobId ws).sets set = m.sets set := by
  unfold connect
  split
  next set' hset' =>
    by_cases hne : set = set'
    · subst hne
      rw [SetObject.add_of_mem (h hset')]
      exact Function.update_self _ _ _
    · exact Function.update_of_ne hne _ _
  next =>
    -- the new set object is another one
    exact Function.update_of_ne (Nat.ne_of_lt hlt) _ _

theorem disconnect_sets {set : Nat}
    (h : m.connections jobId = some set → ws ∉ (m.sets set).members) :
    (m.disconnect jobId ws).sets set = m.sets set := by
  unfold disconnect
  split
  next => rfl
  next set' hset' =>
    have hkept : (m.setSet set' ((m.sets set').discard ws)).sets set = m.sets set := by
      by_cases hne : set = set'
      · subst hne
        rw [SetObject.discard_of_not_mem (h hset')]
        exact Function.update_self _ _ _
      · exact Function.update_of_ne hne _ _
    dsimp only
    split
    next => exact hkept
    next => exact hkept

/-- **THE FRAME**: a quiet step about other broadcasts leaves the set of an iteration alone. -/
theorem exec_sets_of_isOther {event : SyncEvent} {set : Nat} (h : Calm m) (hquiet : m.Quiet event)
    (hother : IsOther id event) (hit : m.Iterates id set) :
    (m.exec event).sets set = m.sets set := by
  obtain ⟨b, it, ws, hb, hstatus⟩ := hit
  have hit : m.Iterates id set := ⟨b, it, ws, hb, hstatus⟩
  cases event with
  | connect jobId ws' =>
      refine connect_sets (h.ok.iterates id b set it ws hb hstatus).1 (fun hset => ?_)
      by_contra hmem
      exact hquiet set hset hmem id hit
  | disconnect jobId ws' =>
      exact disconnect_sets (fun hset hmem => hquiet set hset hmem id hit)
  | broadcastProgress id' jobId order =>
      rcases m.begin_cases id' jobId order with heq | ⟨-, heq⟩ | ⟨_, _, _, -, -, heq⟩
      · rw [heq]
      · rw [heq]
        rfl
      · rw [heq]
        rfl
  | sendDone id' ok other =>
      have hne : id ≠ id' := fun heq => hother.1 ok other (heq ▸ rfl)
      show (m.sendDone id' ok other).sets set = _
      rcases m.sendDone_cases id' ok other with heq | ⟨b', set', it', ws', hb', hstatus', -⟩
      · rw [heq]
      · rcases h.sendDone_cases hb' hstatus' ok other with
          ⟨_, _, -, heq⟩ | ⟨hrest, -, o, ho, heq⟩
        · rw [heq]
          rfl
        · rw [heq]
          show Function.update m.sets set' o set = m.sets set
          by_cases hset : set = set'
          · subst hset
            rw [Function.update_self]
            -- it drops nothing from the set that the other one iterates over
            refine ho (Classical.byContradiction (fun hdead => ?_))
            exact hquiet b' set it' ws' hb' hstatus' hrest hdead id hne hit
          · exact Function.update_of_ne hset _ _

theorem isOther_or (id : Nat) (event : SyncEvent) :
    IsOther id event ∨ (∃ ok other, event = .sendDone id ok other) ∨
      ∃ jobId order, event = .broadcastProgress id jobId order := by
  by_cases hsend : ∃ ok other, event = .sendDone id ok other
  · exact .inr (.inl hsend)
  · by_cases hbegin : ∃ jobId order, event = .broadcastProgress id jobId order
    · exact .inr (.inr hbegin)
    · exact .inl ⟨fun ok other heq => hsend ⟨ok, other, heq⟩,
        fun jobId order heq => hbegin ⟨jobId, order, heq⟩⟩

/-- **A QUIET STEP DISTURBS NO BROADCAST.** -/
theorem Calm.exec (h : Calm m) {event : SyncEvent} (hquiet : m.Quiet event) :
    Calm (m.exec event) := by
  refine ⟨h.ok.exec event, ?_⟩
  intro id b set it ws hb hstatus
  rcases isOther_or id event with hother | ⟨ok, other, rfl⟩ | ⟨jobId, order, rfl⟩
  · rw [exec_broadcasts_of_isOther h hother] at hb
    rw [exec_sets_of_isOther h hquiet hother ⟨b, it, ws, hb, hstatus⟩]
    exact h.covers id b set it ws hb hstatus
  · have hb : (m.sendDone id ok other).broadcasts id = some b := hb
    show ((m.sendDone id ok other).sets set).Covers it _
    rcases m.sendDone_cases id ok other with heq | ⟨b', set', it', ws', hb', hstatus', -⟩
    · rw [heq] at hb ⊢
      exact h.covers id b set it ws hb hstatus
    · rcases h.sendDone_cases hb' hstatus' ok other with
        ⟨_, _, hcovers, heq⟩ | ⟨-, -, o, -, heq⟩
      · rw [heq, setBroadcast_self] at hb
        obtain rfl := Option.some.inj hb
        cases hstatus
        rw [heq]
        exact hcovers
      · rw [heq, setBroadcast_self] at hb
        obtain rfl := Option.some.inj hb
        cases hstatus
  · rcases m.begin_cases id jobId order with heq | ⟨-, heq⟩ | ⟨_, _, _, -, hcovers, heq⟩
    · rw [heq] at hb ⊢
      exact h.covers id b set it ws hb hstatus
    · rw [heq, setBroadcast_self] at hb
      obtain rfl := Option.some.inj hb
      cases hstatus
    · rw [heq, setBroadcast_self] at hb
      obtain rfl := Option.some.inj hb
      cases hstatus
      rw [heq]
      exact hcovers

/-! ## §6. Delivery. -/

/-- The broadcast is on its way to the connections, or was sent to each of them once. -/
def Delivers (m : SyncWebSocketManager) (id : Nat) (conns : Finset WebSocket) : Prop :=
  ∃ b, m.broadcasts id = some b ∧
    match b.status with
    | .sending set _ _ => (m.sets set).members = conns
    | .returned => Lists (b.sends.map Prod.fst) conns
    | .raised _ => False

/-- A broadcast that begins is on its way to the connections of its job. -/
theorem Delivers.begin {order : List WebSocket} (hnone : m.broadcasts id = none)
    (hbegin : (m.exec (.broadcastProgress id jobId order)).broadcasts id ≠ none) :
    Delivers (m.exec (.broadcastProgress id jobId order)) id (m.registered jobId) := by
  rcases m.begin_cases id jobId order with heq | ⟨hempty, heq⟩ | ⟨set, it, ws, hset, -, heq⟩
  · rw [heq] at hbegin
    exact absurd hnone hbegin
  · rw [heq, hempty]
    exact ⟨_, setBroadcast_self _, List.nodup_nil, rfl⟩
  · rw [heq]
    refine ⟨_, setBroadcast_self _, ?_⟩
    unfold registered
    rw [hset]
    rfl

/-- **A QUIET STEP KEEPS A BROADCAST ON ITS WAY.** -/
theorem Delivers.exec {conns : Finset WebSocket} (h : Delivers m id conns) (hcalm : Calm m)
    {event : SyncEvent} (hquiet : m.Quiet event) : Delivers (m.exec event) id conns := by
  obtain ⟨b, hb, hstatus⟩ := h
  have hsame : Delivers m id conns := ⟨b, hb, hstatus⟩
  rcases isOther_or id event with hother | ⟨ok, other, rfl⟩ | ⟨jobId, order, rfl⟩
  · refine ⟨b, (exec_broadcasts_of_isOther hcalm hother).trans hb, ?_⟩
    cases hs : b.status with
    | sending set it ws =>
        rw [hs] at hstatus
        show ((m.exec event).sets set).members = conns
        rw [exec_sets_of_isOther hcalm hquiet hother ⟨b, it, ws, hb, hs⟩]
        exact hstatus
    | returned =>
        rw [hs] at hstatus
        exact hstatus
    | raised e =>
        rw [hs] at hstatus
        exact hstatus
  · show Delivers (m.sendDone id ok other) id conns
    rcases m.sendDone_cases id ok other with heq | ⟨b', set, it, ws, hb', hs, -⟩
    · rw [heq]
      exact hsame
    · rw [hb] at hb'
      obtain rfl := Option.some.inj hb'
      rw [hs] at hstatus
      have hconns : (m.sets set).members = conns := hstatus
      rcases hcalm.sendDone_cases hb hs ok other with
        ⟨_, _, -, heq⟩ | ⟨-, hlists, o, -, heq⟩
      · rw [heq]
        exact ⟨_, setBroadcast_self _, hconns⟩
      · rw [heq]
        exact ⟨_, setBroadcast_self _, hconns ▸ hlists⟩
  · have hexec : m.exec (.broadcastProgress id jobId order) = m :=
      if_pos (by rw [hb]; rfl)
    rw [hexec]
    exact hsame

/-- **ONE MESSAGE FOR EACH**: a connection to which no send failed has received it once. -/
theorem Delivers.count {conns : Finset WebSocket} {b : Broadcast} (h : Delivers m id conns)
    (hb : m.broadcasts id = some b) (hreturned : b.status = .returned) {ws : WebSocket}
    (hws : ws ∈ conns) (hok : (ws, false) ∉ b.sends) : b.sends.count (ws, true) = 1 := by
  obtain ⟨b', hb', hstatus⟩ := h
  rw [hb] at hb'
  obtain rfl := Option.some.inj hb'
  rw [hreturned] at hstatus
  obtain ⟨hnodup, hconns⟩ := hstatus
  rw [← hconns, List.mem_toFinset] at hws
  obtain ⟨⟨ws', ok⟩, hmem, rfl⟩ := List.mem_map.mp hws
  cases ok with
  | true => exact List.count_eq_one_of_mem (List.Nodup.of_map _ hnodup) hmem
  | false => exact absurd hmem hok

/-- **BROADCASTS THAT ARE SAFE**: no broadcast raises exactly if each that goes on finds as many
connections as it found first; and while nobody changes a set that is iterated over, each
connection that was registered when a broadcast began, and accepts its sends, receives the
message once. -/
theorem broadcasts_safe (events : List SyncEvent) :
    (Always exec Safe init events ↔ Along exec SizeKept init events) ∧
    (Along exec Quiet init events →
      Always exec Safe init events ∧
      ∀ before id jobId order after,
        events = before ++ .broadcastProgress id jobId order :: after →
        (run exec init before).broadcasts id = none →
        (exec (run exec init before) (.broadcastProgress id jobId order)).broadcasts id ≠ none →
        ∀ b, (run exec init events).broadcasts id = some b → b.status = .returned →
          ∀ ws ∈ (run exec init before).registered jobId, (ws, false) ∉ b.sends →
            b.sends.count (ws, true) = 1) := by
  have hstep : ∀ m event, Calm m → m.Quiet event → Calm (m.exec event) :=
    fun m event h hquiet => h.exec hquiet
  refine ⟨safe_iff events, fun hquiet => ⟨?_, ?_⟩⟩
  · exact (safe_iff events).mpr
      (Along.of_step hstep (fun m event h _ => h.sizeKept event) calm_init hquiet)
  · rintro before id jobId order after rfl hnone hbegin b hb hreturned ws hws hok
    obtain ⟨hbefore, hfirst, hafter⟩ := along_append.mp hquiet
    have hcalm := run_invariant hstep calm_init hbefore
    -- from its first step on, the broadcast is on its way
    have hkeeps : ∀ m event,
        Calm m ∧ Delivers m id ((run exec init before).registered jobId) → m.Quiet event →
        Calm (m.exec event) ∧
          Delivers (m.exec event) id ((run exec init before).registered jobId) :=
      fun m event h hq => ⟨h.1.exec hq, h.2.exec h.1 hq⟩
    have hdelivers := run_invariant hkeeps
      ⟨hcalm.exec hfirst, Delivers.begin hnone hbegin⟩ hafter
    rw [run_append] at hb
    exact hdelivers.2.count hb hreturned hws hok

/-- A second viewer comes while the first one is sent the progress. -/
theorem broadcast_raises :
    ¬ Always exec Safe init [.connect "job" 0, .broadcastProgress 0 "job" [0],
      .connect "job" 1, .sendDone 0 true none] := by
  intro h
  exact h.last 0 ⟨"job", [(0, true)], .raised .runtimeError⟩ .runtimeError rfl rfl

/-- Two viewers. -/
theorem broadcasts_safe_two :
    let events : List SyncEvent := [.connect "job" 0, .connect "job" 1,
      .broadcastProgress 0 "job" [1, 0], .sendDone 0 true none, .sendDone 0 true none]
    Always exec Safe init events ∧ ∀ b, (run exec init events).broadcasts 0 = some b →
      b.status = .returned → (0, false) ∉ b.sends → b.sends.count (0, true) = 1 := by
  intro events
  have hquiet : Along exec Quiet init events := by
    refine ⟨?_, ?_, trivial, ?_, ?_, trivial⟩
    · rintro set hset
      cases hset
    · rintro set - - id ⟨b, it, ws, hb, -⟩
      cases hb
    · rintro b set it ws hb hstatus hrest
      obtain rfl := Option.some.inj hb
      cases hstatus
      cases hrest
    · rintro b set it ws hb hstatus - hdead
      obtain rfl := Option.some.inj hb
      cases hstatus
      exact absurd rfl hdead
  obtain ⟨hsafe, hcount⟩ := (broadcasts_safe events).2 hquiet
  refine ⟨hsafe, fun b hb hreturned hok => ?_⟩
  refine hcount [.connect "job" 0, .connect "job" 1] 0 "job" [1, 0]
    [.sendDone 0 true none, .sendDone 0 true none] rfl rfl ?_ b hb hreturned 0 ?_ hok
  · exact fun h => nomatch h
  · decide

end SyncWebSocketManager

end PureBoot.Storage
