/-
  PureBoot.Disks.Operations — the QUEUE OF PARTITION OPERATIONS of a device.

  Embeds `queue_partition_operation`, `list_partition_operations`,
  `remove_partition_operation` and `update_operation_status` of `api/routes/disks.py`.
  A new operation comes after the operations that are pending, and only after these; a
  status may follow any other.  The rows of the table are in the order in which they were
  queued.  Events, that repeat what is returned, are left out.

  Main results:
    * `listing_iff` — when a device is listed in that order;
    * `queue_increasing_iff` — when a new operation comes last;
    * `operations_iff` — the runs that keep order and outcome.
-/
import PureBoot.Lib.Ranked
import PureBoot.Lib.Run
import PureBoot.Lib.Table
import PureBoot.Lifecycle.StateMachine

namespace PureBoot.Disks

open PureBoot.Lib
open PureBoot.Lifecycle (Exn JsonDict)

/-! ## §1. Rows. -/

/-- `PartitionOperation.status`. -/
inductive OperationStatus where
  | pending
  | running
  | completed
  | failed
  deriving DecidableEq, Repr

/-- `PartitionOperation.operation`. -/
inductive OperationKind where
  | resize
  | create
  | delete
  | format
  | move
  | setFlag
  deriving DecidableEq, Repr

namespace OperationStatus

def text : OperationStatus → String
  | pending => "pending"
  | running => "running"
  | completed => "completed"
  | failed => "failed"

/-- The status of a text. -/
def ofText (t : String) : Option OperationStatus :=
  [pending, running, completed, failed].find? (fun s => s.text = t)

/-- `("completed", "failed")`. -/
def isFinished : OperationStatus → Bool
  | completed | failed => true
  | pending | running => false

end OperationStatus

/-- `db/models.py: PartitionOperation`, without the session, that is never set, and the time
of its creation. -/
structure PartitionOperation where
  id : String
  nodeId : String
  device : String
  operation : OperationKind
  paramsJson : JsonDict
  sequence : Nat
  status : OperationStatus := .pending
  errorMessage : Option String := none
  executedAt : Option Int := none
  deriving DecidableEq

structure OperationDb where
  /-- The ids of the nodes. -/
  nodes : List String
  operations : Table PartitionOperation.id

/-- `PartitionOperationCreate`. -/
structure PartitionOperationCreate where
  operation : OperationKind
  params : JsonDict

/-! ## §2. The handlers. -/

namespace PartitionOperation

/-- `node_id == …, device == …`. -/
def isOf (op : PartitionOperation) (nodeId device : String) : Bool :=
  op.nodeId = nodeId && op.device = device

end PartitionOperation

namespace OperationDb

variable (unquote : String → String) (db : OperationDb)

/-- The operations of a device, in the order of the table. -/
def ofDevice (nodeId device : String) : List PartitionOperation :=
  db.operations.rows.filter (fun op => op.isOf nodeId device)

/-- `result.scalar() or 0`: the greatest sequence number of the pending operations. -/
def maxSeq (nodeId device : String) : Nat :=
  (((db.ofDevice nodeId device).filter (fun op => op.status = .pending)).map
    PartitionOperation.sequence).foldr max 0

/-- The operation record. -/
def newOperation (nodeId device : String) (data : PartitionOperationCreate) (uuid : String) :
    PartitionOperation where
  id := uuid
  nodeId := nodeId
  device := device
  operation := data.operation
  paramsJson := data.params
  sequence := db.maxSeq nodeId device + 1

/-- `queue_partition_operation`; the primary key is drawn. -/
def queuePartitionOperation (nodeId device : String) (data : PartitionOperationCreate)
    (uuid : String) : Except Exn (PartitionOperation × OperationDb) :=
  if data.params.isEmpty then .error (.valueError "params cannot be empty")
  else if nodeId ∉ db.nodes then .error (.http 404 "Node not found")
  else
    let operation := db.newOperation nodeId (unquote device) data uuid
    match db.operations.insert? operation with
    | some operations => .ok (operation, { db with operations := operations })
    | none => .error .integrityError

/-- The filter of a listing; an empty text is no filter. -/
def statusFilter (status : Option String) : Except Exn (Option OperationStatus) :=
  match status with
  | none | some "" => .ok none
  | some status =>
      match OperationStatus.ofText status with
      | some s => .ok (some s)
      | none =>
          .error (.http 400 "Invalid status. Must be one of: completed, failed, pending, running")

/-- `list_partition_operations`. -/
def listPartitionOperations (nodeId device : String) (status : Option String) :
    Except Exn (List PartitionOperation) := do
  if nodeId ∉ db.nodes then throw (.http 404 "Node not found")
  let status ← statusFilter status
  let selected := (db.ofDevice nodeId (unquote device)).filter
    (fun op => status.all (fun s => op.status = s))
  return selected.mergeSort (fun op op' => op.sequence ≤ op'.sequence)

/-- `remove_partition_operation`. -/
def removePartitionOperation (nodeId device operationId : String) :
    Except Exn (String × OperationDb) :=
  if nodeId ∉ db.nodes then .error (.http 404 "Node not found")
  else
    match (db.operations.get? operationId).filter (fun op => op.isOf nodeId (unquote device)) with
    | none => .error (.http 404 "Operation not found")
    | some operation =>
        if operation.status = .pending then
          .ok (operationId,
            { db with operations := db.operations.delete (fun op => op.id = operationId) })
        else
          .error (.http 400 ("Cannot remove operation with status '" ++ operation.status.text
            ++ "'. Only pending operations can be removed."))

/-- The statuses that a node reports. -/
def reportedStatus (status : String) : Option OperationStatus :=
  (OperationStatus.ofText status).filter (fun s => s ≠ .pending)

/-- The columns that a status update sets. -/
def setStatus (operation : PartitionOperation) (status : OperationStatus)
    (errorMessage : Option String) (now : Int) : PartitionOperation :=
  { operation with
    status := status
    errorMessage :=
      if errorMessage.any (fun m => m ≠ "") then errorMessage else operation.errorMessage
    executedAt := if status.isFinished then some now else operation.executedAt }

/-- `update_operation_status`. -/
def updateOperationStatus (nodeId operationId status : String) (errorMessage : Option String)
    (now : Int) : Except Exn (PartitionOperation × OperationDb) :=
  if nodeId ∉ db.nodes then .error (.http 404 "Node not found")
  else
    match (db.operations.get? operationId).filter (fun op => op.nodeId = nodeId) with
    | none => .error (.http 404 "Operation not found")
    | some operation =>
        match reportedStatus status with
        | none => .error (.http 400 "Invalid status. Must be one of: completed, failed, running")
        | some status =>
            let updated := setStatus operation status errorMessage now
            .ok (updated, { db with operations := db.operations.put updated })

end OperationDb

/-- A request that writes. -/
inductive OperationRequest where
  | queue (nodeId device : String) (data : PartitionOperationCreate) (uuid : String)
  | remove (nodeId device operationId : String)
  | updateStatus (nodeId operationId status : String) (errorMessage : Option String) (now : Int)

/-- A request in a session of its own. -/
def OperationRequest.exec (unquote : String → String) (db : OperationDb) :
    OperationRequest → OperationDb
  | queue nodeId device data uuid =>
      commitOrRollback db (db.queuePartitionOperation unquote nodeId device data uuid)
  | remove nodeId device operationId =>
      commitOrRollback db (db.removePartitionOperation unquote nodeId device operationId)
  | updateStatus nodeId operationId status errorMessage now =>
      commitOrRollback db (db.updateOperationStatus nodeId operationId status errorMessage now)

/-! ## §3. Order and outcome. -/

section Properties

variable (unquote : String → String)

/-- Every listing is in the order of the table, and its sequence numbers are distinct. -/
def ListedInOrder (db : OperationDb) : Prop :=
  ∀ nodeId device status ops, db.listPartitionOperations unquote nodeId device status = .ok ops →
    ops.Sublist db.operations.rows ∧ (ops.map PartitionOperation.sequence).Nodup

/-- A finished operation keeps its status. -/
def OutcomeKept (db db' : OperationDb) : Prop :=
  ∀ op ∈ db.operations.rows, op.status.isFinished = true →
    ∀ op' ∈ db'.operations.rows, op'.id = op.id → op'.status = op.status

/-- **THE QUEUE KEEPS ITS ORDER AND ITS OUTCOME** in one step. -/
def KeepsOrderAndOutcome (db : OperationDb) (request : OperationRequest) : Prop :=
  ListedInOrder unquote (request.exec unquote db) ∧ OutcomeKept db (request.exec unquote db)

/-- An operation is queued when none that has left the queue came after the pending ones, and
a finished operation is told no other status. -/
def InTurn (db : OperationDb) : OperationRequest → Prop
  | .queue nodeId device data uuid =>
      data.params ≠ [] → nodeId ∈ db.nodes → (∀ op ∈ db.operations.rows, op.id ≠ uuid) →
        ∀ op ∈ db.ofDevice nodeId (unquote device),
          op.sequence ≤ db.maxSeq nodeId (unquote device)
  | .remove _ _ _ => True
  | .updateStatus nodeId operationId status _ _ =>
      nodeId ∈ db.nodes → ∀ op ∈ db.operations.rows, op.id = operationId → op.nodeId = nodeId →
        op.status.isFinished = true →
          ∀ s, OperationDb.reportedStatus status = some s → s = op.status

/-! ## §4. Sequence numbers. -/

/-- The place and the number of an operation. -/
def PartitionOperation.place (op : PartitionOperation) : (String × String) × Nat :=
  ((op.nodeId, op.device), op.sequence)

/-- The sequence numbers of each device increase. -/
def Increasing (db : OperationDb) : Prop :=
  (db.operations.rows.map PartitionOperation.place).Pairwise (fun a b => a.1 = b.1 → a.2 < b.2)

theorem isOf_iff {op : PartitionOperation} {nodeId device : String} :
    op.isOf nodeId device = true ↔ op.place.1 = (nodeId, device) := by
  unfold PartitionOperation.isOf PartitionOperation.place
  simp [Prod.ext_iff]

theorem Increasing.ofDevice {db : OperationDb} (h : Increasing db) (nodeId device : String) :
    (db.ofDevice nodeId device).Pairwise (fun op op' => op.sequence < op'.sequence) := by
  unfold OperationDb.ofDevice
  rw [List.pairwise_filter]
  refine (List.pairwise_map.mp h).imp (fun hlt hop hop' => hlt ?_)
  exact (isOf_iff.mp hop).trans (isOf_iff.mp hop').symm

theorem listPartitionOperations_eq_ok {db : OperationDb} {nodeId device : String}
    {status : Option String} {ops : List PartitionOperation}
    (h : db.listPartitionOperations unquote nodeId device status = .ok ops) :
    ∃ filter : Option OperationStatus, ops = ((db.ofDevice nodeId (unquote device)).filter
      (fun op => filter.all (fun s => op.status = s))).mergeSort
        (fun op op' => op.sequence ≤ op'.sequence) := by
  unfold OperationDb.listPartitionOperations at h
  split at h
  next => cases h
  next =>
    obtain ⟨filter, -, h⟩ := bind_eq_ok.mp h
    exact ⟨filter, (Except.ok.inj h).symm⟩

/-- Where the numbers increase, every listing is in order. -/
theorem Increasing.listedInOrder {db : OperationDb} (h : Increasing db) :
    ListedInOrder unquote db := by
  intro nodeId device status ops hlist
  obtain ⟨filter, rfl⟩ := listPartitionOperations_eq_ok unquote hlist
  obtain ⟨hsub, hnodup⟩ := mergeSort_filter_iff.mpr
    ((h.ofDevice nodeId (unquote device)).sublist List.filter_sublist)
  exact ⟨hsub.trans List.filter_sublist, hnodup⟩

/-- A listing of a whole device that is in order has increasing numbers. -/
theorem ListedInOrder.ofDevice {db : OperationDb} (h : ListedInOrder unquote db) {nodeId : String}
    (hnode : nodeId ∈ db.nodes) (device : String) :
    (db.ofDevice nodeId (unquote device)).Pairwise
      (fun op op' => op.sequence < op'.sequence) := by
  have hlist : db.listPartitionOperations unquote nodeId device none
      = .ok ((db.ofDevice nodeId (unquote device)).mergeSort
          (fun op op' => op.sequence ≤ op'.sequence)) := by
    unfold OperationDb.listPartitionOperations
    rw [if_neg (not_not_intro hnode)]
    show Except.ok (((db.ofDevice nodeId (unquote device)).filter (fun _ => true)).mergeSort _) = _
    rw [List.filter_true]
  exact mergeSort_filter_iff.mp (h nodeId device none _ hlist)

/-! ## §5. What a request does. -/

/-- A request to queue is taken. -/
def Queues (db : OperationDb) (nodeId : String) (data : PartitionOperationCreate)
    (uuid : String) : Prop :=
  data.params ≠ [] ∧ nodeId ∈ db.nodes ∧ ∀ op ∈ db.operations.rows, op.id ≠ uuid

section Steps

variable {db : OperationDb} {nodeId device operationId uuid : String}

theorem exec_queue {data : PartitionOperationCreate} (h : Queues db nodeId data uuid) :
    ((OperationRequest.queue nodeId device data uuid).exec unquote db).nodes = db.nodes
      ∧ ((OperationRequest.queue nodeId device data uuid).exec unquote db).operations.rows
        = db.operations.rows ++ [db.newOperation nodeId (unquote device) data uuid] := by
  obtain ⟨hparams, hnode, hfresh⟩ := h
  obtain ⟨operations, hinsert⟩ := Table.exists_insert?
    (r := db.newOperation nodeId (unquote device) data uuid) hfresh
  show (commitOrRollback db _).nodes = _ ∧ (commitOrRollback db _).operations.rows = _
  unfold OperationDb.queuePartitionOperation
  rw [if_neg (fun hempty => hparams (List.isEmpty_iff.mp hempty)), if_neg (not_not_intro hnode)]
  dsimp only
  rw [hinsert]
  exact ⟨rfl, (Table.insert?_eq_some_iff.mp hinsert).2⟩

theorem exec_queue_refused {data : PartitionOperationCreate} (h : ¬ Queues db nodeId data uuid) :
    (OperationRequest.queue nodeId device data uuid).exec unquote db = db := by
  show commitOrRollback db (db.queuePartitionOperation unquote nodeId device data uuid) = db
  unfold OperationDb.queuePartitionOperation
  split
  next => rfl
  next hparams =>
    split
    next => rfl
    next hnode =>
      dsimp only
      split
      next operations hinsert =>
        refine absurd ⟨?_, not_not.mp hnode, (Table.insert?_eq_some_iff.mp hinsert).1⟩ h
        exact fun hempty => hparams (List.isEmpty_iff.mpr hempty)
      next => rfl

/-- A removal takes at most a pending operation. -/
theorem exec_remove :
    ((OperationRequest.remove nodeId device operationId).exec unquote db).nodes = db.nodes
      ∧ ((OperationRequest.remove nodeId device operationId).exec
        unquote db).operations.rows.Sublist db.operations.rows := by
  show (commitOrRollback db _).nodes = _ ∧ (commitOrRollback db _).operations.rows.Sublist _
  unfold OperationDb.removePartitionOperation
  split
  next => exact ⟨rfl, List.Sublist.refl _⟩
  next =>
    split
    next => exact ⟨rfl, List.Sublist.refl _⟩
    next =>
      split
      next => exact ⟨rfl, List.filter_sublist⟩
      next => exact ⟨rfl, List.Sublist.refl _⟩

/-- A status update that is taken, and the operation it is about. -/
def Updates (db : OperationDb) (nodeId operationId status : String) (op : PartitionOperation)
    (s : OperationStatus) : Prop :=
  nodeId ∈ db.nodes ∧ op ∈ db.operations.rows ∧ op.id = operationId ∧ op.nodeId = nodeId
    ∧ OperationDb.reportedStatus status = some s

variable {status : String} {errorMessage : Option String} {now : Int}

theorem exec_updateStatus {op : PartitionOperation} {s : OperationStatus}
    (h : Updates db nodeId operationId status op s) :
    (OperationRequest.updateStatus nodeId operationId status errorMessage now).exec unquote db
      = { db with operations :=
            db.operations.put (OperationDb.setStatus op s errorMessage now) } := by
  obtain ⟨hnode, hop, hid, hof, hstatus⟩ := h
  show commitOrRollback db
    (db.updateOperationStatus nodeId operationId status errorMessage now) = _
  unfold OperationDb.updateOperationStatus
  rw [if_neg (not_not_intro hnode), Table.get?_eq_some_iff.mpr ⟨hop, hid⟩,
    Option.filter_some_pos (by simpa using hof), hstatus]
  rfl

theorem exec_updateStatus_refused
    (h : ∀ op s, ¬ Updates db nodeId operationId status op s) :
    (OperationRequest.updateStatus nodeId operationId status errorMessage now).exec unquote db
      = db := by
  show commitOrRollback db
    (db.updateOperationStatus nodeId operationId status errorMessage now) = db
  unfold OperationDb.updateOperationStatus
  split
  next => rfl
  next hnode =>
    split
    next => rfl
    next op hget =>
      split
      next => rfl
      next s hstatus =>
        obtain ⟨hget, hof⟩ := Option.filter_eq_some_iff.mp hget
        obtain ⟨hop, hid⟩ := Table.get?_eq_some_iff.mp hget
        exact absurd ⟨not_not.mp hnode, hop, hid, of_decide_eq_true hof, hstatus⟩ (h op s)

end Steps

/-! ## §6. Order. -/

section Order

variable {db : OperationDb} {nodeId device operationId uuid : String}

theorem ofDevice_append {db' : OperationDb} {op : PartitionOperation}
    (hrows : db'.operations.rows = db.operations.rows ++ [op])
    (hop : op.isOf nodeId device = true) :
    db'.ofDevice nodeId device = db.ofDevice nodeId device ++ [op] := by
  unfold OperationDb.ofDevice
  rw [hrows, List.filter_append]
  congr 1
  exact List.filter_cons_of_pos hop

theorem newOperation_isOf (data : PartitionOperationCreate) :
    (db.newOperation nodeId device data uuid).isOf nodeId device = true :=
  isOf_iff.mpr rfl

/-- **A NEW OPERATION COMES LAST** exactly if no operation of its device has a greater number
than the pending ones. -/
theorem queue_increasing_iff {db' : OperationDb} {data : PartitionOperationCreate}
    (h : Increasing db)
    (hrows : db'.operations.rows
      = db.operations.rows ++ [db.newOperation nodeId device data uuid]) :
    Increasing db'
      ↔ ∀ op ∈ db.ofDevice nodeId device, op.sequence ≤ db.maxSeq nodeId device := by
  unfold Increasing
  rw [hrows, List.map_append, List.pairwise_append]
  constructor
  · rintro ⟨-, -, hlast⟩ op hop
    obtain ⟨hop, hof⟩ := List.mem_filter.mp hop
    have hlt := hlast op.place (List.mem_map_of_mem hop) _ (List.mem_map_of_mem
      List.mem_cons_self) (isOf_iff.mp hof)
    exact Nat.lt_succ_iff.mp hlt
  · intro hle
    refine ⟨h, List.pairwise_singleton _ _, ?_⟩
    intro a ha b hb hplace
    obtain ⟨op, hop, rfl⟩ := List.mem_map.mp ha
    obtain rfl := List.mem_singleton.mp hb
    exact Nat.lt_succ_iff.mpr (hle op (List.mem_filter.mpr ⟨hop, isOf_iff.mpr hplace⟩))

theorem Increasing.sublist {db' : OperationDb} (h : Increasing db)
    (hrows : db'.operations.rows.Sublist db.operations.rows) : Increasing db' :=
  List.Pairwise.sublist (hrows.map _) h

/-- A status update moves nothing. -/
theorem Increasing.put {op : PartitionOperation} (h : Increasing db)
    (hop : op ∈ db.operations.rows) (s : OperationStatus) (errorMessage : Option String)
    (now : Int) :
    Increasing ⟨db.nodes, db.operations.put (OperationDb.setStatus op s errorMessage now)⟩ := by
  show ((db.operations.put _).rows.map PartitionOperation.place).Pairwise _
  rw [Table.map_put (r := OperationDb.setStatus op s errorMessage now) hop rfl rfl]
  exact h

/-- A request that comes in turn keeps the order. -/
theorem Increasing.exec {request : OperationRequest} (h : Increasing db)
    (hturn : InTurn unquote db request) : Increasing (request.exec unquote db) := by
  cases request with
  | queue nodeId device data uuid =>
      by_cases hqueues : Queues db nodeId data uuid
      · exact (queue_increasing_iff h (exec_queue unquote hqueues).2).mpr
          (hturn hqueues.1 hqueues.2.1 hqueues.2.2)
      · rw [exec_queue_refused unquote hqueues]
        exact h
  | remove nodeId device operationId => exact h.sublist (exec_remove unquote).2
  | updateStatus nodeId operationId status errorMessage now =>
      by_cases hupdates : ∃ op s, Updates db nodeId operationId status op s
      · obtain ⟨op, s, hupdates⟩ := hupdates
        rw [exec_updateStatus unquote hupdates]
        exact h.put hupdates.2.1 s errorMessage now
      · rw [exec_updateStatus_refused unquote (fun op s hs => hupdates ⟨op, s, hs⟩)]
        exact h

end Order

/-! ## §7. Outcomes. -/

section Outcomes

variable {db : OperationDb} {nodeId device operationId uuid status : String}

theorem outcomeKept_of_rows {db' : OperationDb}
    (h : ∀ op' ∈ db'.operations.rows, op' ∈ db.operations.rows
      ∨ ∀ op ∈ db.operations.rows, op.id ≠ op'.id) : OutcomeKept db db' := by
  intro op hop _ op' hop' hid
  rcases h op' hop' with hold | hnew
  · rw [db.operations.eq_of_key_eq hold hop hid]
  · exact absurd hid.symm (hnew op hop)

theorem outcomeKept_queue (data : PartitionOperationCreate) :
    OutcomeKept db ((OperationRequest.queue nodeId device data uuid).exec unquote db) := by
  by_cases hqueues : Queues db nodeId data uuid
  · refine outcomeKept_of_rows (fun op' hop' => ?_)
    rw [(exec_queue unquote hqueues).2, List.mem_append, List.mem_singleton] at hop'
    rcases hop' with hold | rfl
    · exact .inl hold
    · exact .inr hqueues.2.2
  · rw [exec_queue_refused unquote hqueues]
    exact outcomeKept_of_rows (fun op' hop' => .inl hop')

theorem outcomeKept_remove :
    OutcomeKept db ((OperationRequest.remove nodeId device operationId).exec unquote db) :=
  outcomeKept_of_rows (fun _ hop' => .inl ((exec_remove unquote).2.subset hop'))

/-- **AN UPDATE KEEPS THE OUTCOME** exactly if it tells a finished operation nothing new. -/
theorem outcomeKept_updateStatus_iff {errorMessage : Option String} {now : Int} :
    OutcomeKept db
        ((OperationRequest.updateStatus nodeId operationId status errorMessage now).exec unquote db)
      ↔ InTurn unquote db (.updateStatus nodeId operationId status errorMessage now) := by
  constructor
  · intro hkept hnode op hop hid hof hfinished s hstatus
    rw [exec_updateStatus unquote ⟨hnode, hop, hid, hof, hstatus⟩] at hkept
    exact hkept op hop hfinished _ (Table.mem_put_self hop rfl) rfl
  · intro hturn
    by_cases hupdates : ∃ op s, Updates db nodeId operationId status op s
    · obtain ⟨op, s, hnode, hop, hid, hof, hstatus⟩ := hupdates
      rw [exec_updateStatus unquote ⟨hnode, hop, hid, hof, hstatus⟩]
      intro op₁ hop₁ hfinished op' hop' hsame
      rcases (Table.mem_put_iff (r := OperationDb.setStatus op s errorMessage now)
        ⟨op, hop, rfl⟩).mp hop' with rfl | ⟨hold, -⟩
      · obtain rfl : op₁ = op := db.operations.eq_of_key_eq hop₁ hop hsame.symm
        exact hturn hnode op₁ hop hid hof hfinished s hstatus
      · rw [db.operations.eq_of_key_eq hold hop₁ hsame]
    · rw [exec_updateStatus_refused unquote (fun op s hs => hupdates ⟨op, s, hs⟩)]
      exact outcomeKept_of_rows (fun op' hop' => .inl hop')

end Outcomes

/-! ## §8. Runs. -/

/-- A step from numbers that increase keeps order and outcome exactly if it comes in turn. -/
theorem keepsOrderAndOutcome_iff {db : OperationDb} (h : Increasing db)
    (request : OperationRequest) :
    KeepsOrderAndOutcome unquote db request ↔ InTurn unquote db request := by
  constructor
  · rintro ⟨hlisted, hkept⟩
    cases request with
    | queue nodeId device data uuid =>
        intro hparams hnode hfresh op hop
        -- the new operation is listed after the others
        have hqueues : Queues db nodeId data uuid := ⟨hparams, hnode, hfresh⟩
        obtain ⟨hnodes, hrows⟩ := exec_queue unquote hqueues
        have hlast := hlisted.ofDevice unquote (hnodes ▸ hnode) device
        rw [ofDevice_append hrows (newOperation_isOf data), List.pairwise_append] at hlast
        exact Nat.lt_succ_iff.mp (hlast.2.2 op hop _ List.mem_cons_self)
    | remove nodeId device operationId => trivial
    | updateStatus nodeId operationId status errorMessage now =>
        exact (outcomeKept_updateStatus_iff unquote).mp hkept
  · intro hturn
    refine ⟨(h.exec unquote hturn).listedInOrder unquote, ?_⟩
    cases request with
    | queue nodeId device data uuid => exact outcomeKept_queue unquote data
    | remove nodeId device operationId => exact outcomeKept_remove unquote
    | updateStatus nodeId operationId status errorMessage now =>
        exact (outcomeKept_updateStatus_iff unquote).mpr hturn

/-- No operation has been queued. -/
def OperationDb.start (nodes : List String) : OperationDb where
  nodes := nodes
  operations := Table.empty

/-- **PARTITION OPERATIONS** keep their order and their outcome in every step of a run exactly
if every request comes in turn. -/
theorem operations_iff (nodes : List String) (requests : List OperationRequest) :
    Along (fun db request => request.exec unquote db) (KeepsOrderAndOutcome unquote)
        (OperationDb.start nodes) requests
      ↔ Along (fun db request => request.exec unquote db) (InTurn unquote)
        (OperationDb.start nodes) requests :=
  along_iff_of_step (fun _ _ h hturn => h.exec unquote hturn)
    (fun _ request h => keepsOrderAndOutcome_iff unquote h request) List.Pairwise.nil

end Properties

/-- The first operation runs, and another one is queued: both have the number 1. -/
theorem queue_while_running :
    ¬ Along (fun db request => request.exec id db) (KeepsOrderAndOutcome id)
      (OperationDb.start ["n1"])
      [.queue "n1" "/dev/sda" ⟨.resize, [("partition", .int 1)]⟩ "o1",
        .updateStatus "n1" "o1" "running" none 0,
        .queue "n1" "/dev/sda" ⟨.resize, [("partition", .int 2)]⟩ "o2"] := by
  intro h
  obtain ⟨-, -, ⟨hlisted, -⟩, -⟩ := h
  have hnode : "n1" ∈ (OperationDb.start ["n1"]).nodes := List.mem_cons_self
  have hlast := hlisted.ofDevice id hnode "/dev/sda"
  revert hlast
  decide

end PureBoot.Disks
