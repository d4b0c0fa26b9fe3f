/-
  PureBoot.Agent.Processor — the agent that forwards updates to central.

  Embeds the offline paths of `agent/proxy.py: CentralProxy` (`update_node_state`,
  `register_node`, `report_node_event`) and `agent/queue_processor.py:
  QueueProcessor` (`process_queue`, `_process_item` and its three handlers).  They
  are coroutines of one event loop, so the agent is a machine that moves from one
  `await` to the next: a call waits for the lock of the queue, a request to central
  is on its way, a pass of `process_queue` is at one of its awaits (`Pc`).  What the
  environment decides is in the label of a step: the calls and their clock readings,
  connectivity, what central does with a request and what the agent hears of it.

  The agent's log of metrics and its caches are left out; nothing here reads them.
-/
import PureBoot.Agent.Queue
import PureBoot.Lib.Run

namespace PureBoot.Agent

open PureBoot.Lib

/-! ## §1. Updates and how they are delivered. -/

/-- The settings of the `QueueProcessor`. -/
structure Config where
  batchSize : Nat := 10
  maxRetries : Nat := 3

/-- One call of `update_node_state`. -/
structure Call where
  id : String
  node : String
  state : String
  deriving DecidableEq, Repr

/-- A value the code tests with `if not value`. -/
def truthy (value : Option String) : Option String :=
  value.filter (fun text => text ≠ "")

/-- The state update a queue item asks central for (`_process_state_update`); an
invalid payload asks for none. -/
def QueueItem.call? (item : QueueItem) : Option Call :=
  match item.itemType, truthy item.payload.nodeId, truthy item.payload.newState with
  | .stateUpdate, some node, some state => some ⟨item.id, node, state⟩
  | _, _, _ => none

/-- Whether `_process_item` makes a request for the item at all. -/
def QueueItem.sends (item : QueueItem) : Bool :=
  match item.itemType with
  | .registration => true
  | .stateUpdate => item.call?.isSome
  | .event => (truthy item.payload.nodeId).isSome
  | .other _ => false

/-- What becomes of a delivery. -/
inductive Outcome where
  /-- Central took it and said so. -/
  | accepted
  /-- A failure is reported, and central has not taken it and will not. -/
  | refused
  /-- A failure is reported, and the request may still reach central, or has. -/
  | unanswered
  deriving DecidableEq, Repr

/-! ## §2. The state of the agent. -/

/-- `ProcessResult.status`. -/
inductive ResultStatus where
  | success
  | partialSuccess
  | failed
  | empty
  deriving DecidableEq, Repr

/-- `ProcessResult`, without the duration. -/
structure ProcessResult where
  processed : Nat := 0
  failed : Nat := 0
  remaining : Nat := 0
  errors : List String := []
  status : ResultStatus := .success
  deriving DecidableEq, Repr

/-- The result at the end of a pass. -/
def ProcessResult.finish (result : ProcessResult) (remaining : Nat) : ProcessResult :=
  { result with
    remaining
    status :=
      if result.processed = 0 ∧ result.failed = 0 then .empty
      else if result.failed = 0 then .success
      else if 0 < result.processed then .partialSuccess
      else .failed }

/-- The result of a pass that an exception has ended. -/
def ProcessResult.abort (result : ProcessResult) (error : String) : ProcessResult :=
  { result with errors := result.errors ++ [error], status := .failed }

/-- Where `process_queue` is. -/
inductive Pc where
  /-- No pass is running. -/
  | idle
  /-- Before the test of the `while` loop. -/
  | loop (result : ProcessResult)
  /-- Before the next item of the batch. -/
  | batch (items : List QueueItem) (result : ProcessResult)
  /-- The item is marked `processing`; its handler is at work. -/
  | sending (item : QueueItem) (rest : List QueueItem) (result : ProcessResult)
  /-- The handler has returned; its answer is not stored yet. -/
  | answered (item : QueueItem) (rest : List QueueItem) (success : Bool) (result : ProcessResult)
  /-- The loop has ended. -/
  | closing (result : ProcessResult)
  deriving DecidableEq, Repr

/-- The agent, with the history that the statements about it speak of. -/
structure State where
  /-- On disk. -/
  queue : SyncQueue := Table.empty
  /-- Items of calls that wait for the lock of the queue, first come first served. -/
  waiting : List QueueItem := []
  /-- State updates on their way to central outside a pass. -/
  flight : List Call := []
  /-- `ConnectivityMonitor.is_online`. -/
  online : Bool := true
  /-- `QueueProcessor._running`. -/
  running : Bool := false
  pc : Pc := .idle
  lastResult : Option ProcessResult := none
  /-- History: every call of `update_node_state`, in order. -/
  calls : List Call := []
  /-- History: the state updates central has accepted, in order. -/
  accepted : List Call := []
  /-- History: the ids enqueued and not yet removed by `dequeue` after a successful
  delivery or by `clear_failed`. -/
  owed : List String := []
  deriving DecidableEq

/-! ## §3. Calls. -/

/-- The item of an offline call. -/
def queued (uuid : Uuid) (itemType : ItemType) (payload : Payload) (now : Nat) : QueueItem where
  id := uuid.text
  itemType := itemType
  payload := payload
  createdAt := now

/-- `update_node_state`: offline it asks for the lock of the queue, online it sends the
request. -/
def updateNodeState (s : State) (uuid : Uuid) (node state : String) (now : Nat) : State :=
  let call : Call := ⟨uuid.text, node, state⟩
  let payload : Payload := { nodeId := some node, newState := some state }
  if s.online then { s with calls := s.calls ++ [call], flight := s.flight ++ [call] }
  else
    { s with
      calls := s.calls ++ [call]
      waiting := s.waiting ++ [queued uuid .stateUpdate payload now] }

/-- `register_node` and `report_node_event`: like a state update, but what they send
when online is no state update. -/
def enqueueOffline (s : State) (item : QueueItem) : State :=
  if s.online then s else { s with waiting := s.waiting ++ [item] }

def registerNode (s : State) (uuid : Uuid) (now : Nat) : State :=
  enqueueOffline s (queued uuid .registration {} now)

def reportNodeEvent (s : State) (uuid : Uuid) (node : String) (now : Nat) : State :=
  enqueueOffline s (queued uuid .event { nodeId := some node } now)

/-- The first call in line gets the lock and `enqueue` commits, or raises. -/
def insertNext (s : State) (uuid : Uuid) : State :=
  match s.waiting with
  | [] => s
  | item :: waiting =>
      match s.queue.enqueue uuid item with
      | some (id, queue) => { s with waiting, queue, owed := s.owed ++ [id] }
      | none => { s with waiting }

/-- The first call in line gets the lock and `enqueue` raises, since it is run on another
thread than the one that opened the connection. -/
def insertRaises (s : State) : State := { s with waiting := s.waiting.tail }

/-- Request `i` of those on their way reaches central, which accepts it or not, or is
lost. -/
def arrive (s : State) (i : Nat) (accept : Bool) : State :=
  match s.flight[i]? with
  | none => s
  | some call =>
      { s with
        flight := s.flight.eraseIdx i
        accepted := if accept then s.accepted ++ [call] else s.accepted }

/-! ## §4. A pass of `process_queue`. -/

/-- `process_queue` is called: nothing happens while a pass is running. -/
def processQueue (s : State) : State :=
  match s.pc with
  | .idle => { s with pc := .loop {} }
  | _ => s

/-- What a delivery does at central. -/
def deliver (s : State) (item : QueueItem) : Outcome → State
  | .accepted => { s with accepted := s.accepted ++ item.call?.toList }
  | .refused => s
  | .unanswered => { s with flight := s.flight ++ item.call?.toList }

/-- `"Max retries (…) exceeded"`. -/
def maxRetriesError (cfg : Config) : String :=
  "Max retries (" ++ toString cfg.maxRetries ++ ") exceeded"

/-- What `_process_item` stores for an attempt that failed; `attempts` is the value read
by `peek`. -/
def storeAttempt (cfg : Config) (q : SyncQueue) (item : QueueItem) (error : String) : SyncQueue :=
  if cfg.maxRetries ≤ item.attempts then q.markFailed item.id error
  else q.markPending item.id

/-- What it stores for an item that was not delivered. -/
def storeFailure (cfg : Config) (q : SyncQueue) (item : QueueItem) : SyncQueue :=
  storeAttempt cfg q item (maxRetriesError cfg)

/-- The pass goes on to its next await.  `now` is the clock of `mark_processing`,
`outcome` what becomes of the request, if this is where one is made. -/
def passStep (cfg : Config) (s : State) (now : Nat) (outcome : Outcome) : State :=
  match s.pc with
  | .idle => s
  | .loop result =>
      if s.running && s.online then
        match s.queue.peek cfg.batchSize with
        | [] => { s with pc := .closing result }
        | item :: items => { s with pc := .batch (item :: items) result }
      else { s with pc := .closing result }
  | .batch [] result => { s with pc := .loop result }
  | .batch (item :: rest) result =>
      if s.running && s.online then
        { s with queue := s.queue.markProcessing item.id now, pc := .sending item rest result }
      else
        -- the `break` and the test of the `while` that fails on the same flags: no await between
        { s with pc := .closing result }
  | .sending item rest result =>
      -- an item that makes no request counts as not delivered
      if item.sends then
        { deliver s item outcome with
          pc := .answered item rest (outcome = .accepted) result }
      else { s with pc := .answered item rest false result }
  | .answered item rest true result =>
      { s with
        queue := s.queue.dequeue item.id
        owed := s.owed.filter (fun id => id ≠ item.id)
        pc := .batch rest { result with processed := result.processed + 1 } }
  | .answered item rest false result =>
      { s with
        queue := storeFailure cfg s.queue item
        pc := .batch rest { result with failed := result.failed + 1 } }
  | .closing result =>
      { s with pc := .idle, lastResult := some (result.finish s.queue.getPendingCount) }

/-- An exception leaves the `try` of `process_queue`. -/
def abortPass (s : State) (result : ProcessResult) (error : String) : State :=
  { s with pc := .idle, lastResult := some (result.abort error) }

/-- The operation of the queue that the pass is at raises, since it is run on another thread
than the one that opened the connection.  An operation after the handler has returned is in
the `try` of `_process_item`, which stores the failure, unless this raises too (`again`). -/
def passRaises (cfg : Config) (s : State) (error : String) (again : Option String) : State :=
  match s.pc with
  | .loop result => if s.running && s.online then abortPass s result error else s
  | .batch (_ :: _) result => if s.running && s.online then abortPass s result error else s
  | .answered item rest _ result =>
      match again with
      | none =>
          { s with
            queue := storeAttempt cfg s.queue item error
            pc := .batch rest { result with failed := result.failed + 1 } }
      | some error' => abortPass s result error'
  | .closing result => abortPass s result error
  -- nothing is asked of the queue here
  | .idle | .batch [] _ | .sending _ _ _ => s

/-! ## §5. Steps. -/

/-- What happens while the agent runs. -/
inductive Event where
  | updateNodeState (uuid : Uuid) (node state : String) (now : Nat)
  | registerNode (uuid : Uuid) (now : Nat)
  | reportNodeEvent (uuid : Uuid) (node : String) (now : Nat)
  | insertNext (uuid : Uuid)
  | arrive (i : Nat) (accept : Bool)
  | connectivity (online : Bool)
  /-- `QueueProcessor.start` and `stop`. -/
  | setRunning (running : Bool)
  | processQueue
  | passStep (now : Nat) (outcome : Outcome)

def execEvent (cfg : Config) (s : State) : Event → State
  | .updateNodeState uuid node state now => updateNodeState s uuid node state now
  | .registerNode uuid now => registerNode s uuid now
  | .reportNodeEvent uuid node now => reportNodeEvent s uuid node now
  | .insertNext uuid => insertNext s uuid
  | .arrive i accept => arrive s i accept
  | .connectivity online => { s with online }
  | .setRunning running => { s with running }
  | .processQueue => processQueue s
  | .passStep now outcome => passStep cfg s now outcome

/-- The request of a pass that is on its way when the agent dies. -/
def Pc.request : Pc → List Call
  | .sending item _ _ => item.call?.toList
  | _ => []

/-- The process dies and is started again: the table is what it was, everything in
memory is new. -/
def crash (s : State) : State :=
  { s with
    queue := s.queue.initializeQueue
    waiting := []
    flight := s.flight ++ s.pc.request
    online := true
    running := false
    pc := .idle
    lastResult := none }

/-- `clear_failed`. -/
def clearFailed (s : State) : State :=
  { s with
    queue := s.queue.clearFailed
    owed := s.owed.filter (fun id => !s.queue.rows.any (fun r => r.id = id ∧ r.status = .failed)) }

/-- Everything that can happen to the agent. -/
inductive Op where
  | event (e : Event)
  /-- A call of `enqueue` with any item in its default status. -/
  | enqueue (item : QueueItem) (hstatus : item.status = .pending)
  /-- `retry_failed`; where it raises nothing has changed, nor where `clear_failed` does. -/
  | retryFailed
  | clearFailed
  | insertRaises
  | passRaises (error : String) (again : Option String)
  | crash

def exec (cfg : Config) (s : State) : Op → State
  | .event e => execEvent cfg s e
  | .enqueue item _ => { s with waiting := s.waiting ++ [item] }
  | .retryFailed => { s with queue := s.queue.retryFailed }
  | .clearFailed => clearFailed s
  | .insertRaises => insertRaises s
  | .passRaises error again => passRaises cfg s error again
  | .crash => crash s

end PureBoot.Agent
