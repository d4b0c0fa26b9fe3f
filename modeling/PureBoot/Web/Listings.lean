/-
  PureBoot.Web.Listings — the LOGS of the server, that are read page by page.

  Embeds `list_audit_logs` of `api/routes/audit.py`, and `get_node_history` and
  `get_node_events` of `api/routes/nodes.py`.  Each counts the rows that it selects and
  answers some of them, newest first; rows of one time come in any order, another one at each
  request.  The two queries of a request see the same rows.  The times have the resolution
  of `func.now()`, so rows of one time are common.

  The client asks for the pages one after another until an answer's count says that there
  are no more, while the server writes more rows (`PureBoot.Lib.Pages`).

  Main results:
    * `listAuditLogs_asks`, `getNodeHistory_asks`, `getNodeEvents_asks` — what the endpoints
      answer, as pages of one listing;
    * `no_row_missed` — what the client has when it is through.
-/
import PureBoot.Groups.Api
import PureBoot.Lib.Pages
import PureBoot.Web.Activity

namespace PureBoot.Web

open PureBoot.Lib
open PureBoot.Groups (likeToken)
open PureBoot.Lifecycle (JsonValue JsonDict Exn)

/-! ## §1. The audit log. -/

/-- `AuditLog`. -/
structure AuditLogRow where
  id : String
  timestamp : SqlTimestamp
  actorId : Option String := none
  actorType : String
  actorUsername : String
  actorIp : Option String := none
  action : String
  resourceType : String
  resourceId : Option String := none
  resourceName : Option String := none
  detailsJson : Option JsonDict := none
  result : String
  errorMessage : Option String := none
  sessionId : Option String := none
  authMethod : Option String := none
  deriving DecidableEq

/-- `AuditLogResponse`. -/
structure AuditLogResponse where
  id : String
  timestamp : SqlTimestamp
  actorId : Option String
  actorType : String
  actorUsername : String
  actorIp : Option String
  action : String
  resourceType : String
  resourceId : Option String
  resourceName : Option String
  details : Option JsonDict
  result : String
  errorMessage : Option String
  sessionId : Option String
  authMethod : Option String
  deriving DecidableEq

/-- `AuditLogListResponse`. -/
structure AuditLogListResponse where
  items : List AuditLogResponse
  total : Nat
  page : Nat
  pageSize : Nat

/-- The filters of a request; of a date only what is bound to the statement. -/
structure AuditFilters where
  action : Option String := none
  resourceType : Option String := none
  actorUsername : Option String := none
  result : Option String := none
  fromDate : Option Datetime := none
  toDate : Option Datetime := none

/-- `audit_to_response`. -/
def auditToResponse (log : AuditLogRow) : AuditLogResponse where
  id := log.id
  timestamp := log.timestamp
  actorId := log.actorId
  actorType := log.actorType
  actorUsername := log.actorUsername
  actorIp := log.actorIp
  action := log.action
  resourceType := log.resourceType
  resourceId := log.resourceId
  resourceName := log.resourceName
  details := log.detailsJson
  result := log.result
  errorMessage := log.errorMessage
  sessionId := log.sessionId
  authMethod := log.authMethod

/-- `ilike(f"%{text}%")`: the wildcards of the text are not escaped. -/
def ilike (column text : String) : Bool :=
  like (.many :: text.toLower.toList.map likeToken ++ [.many]) column.toLower.toList

/-- The conditions of the query. -/
def AuditFilters.selects (f : AuditFilters) (log : AuditLogRow) : Bool :=
  (nonEmpty f.action).all (fun action => log.action = action)
    && (nonEmpty f.resourceType).all (fun resourceType => log.resourceType = resourceType)
    && (nonEmpty f.actorUsername).all (fun username => ilike log.actorUsername username)
    && (nonEmpty f.result).all (fun result => log.result = result)
    && f.fromDate.all (fun fromDate => byteText fromDate.sqlText ≤ byteText log.timestamp.text)
    && f.toDate.all (fun toDate => byteText log.timestamp.text ≤ byteText toDate.sqlText)

/-- `list_audit_logs`; `orderDesc` is how the database orders the rows of this query. -/
def listAuditLogs (orderDesc : List AuditLogRow → List AuditLogRow) (logs : List AuditLogRow)
    (f : AuditFilters) (page pageSize : Nat) : AuditLogListResponse where
  items := (((orderDesc (logs.filter f.selects)).drop ((page - 1) * pageSize)).take pageSize).map
    auditToResponse
  total := (logs.filter f.selects).length
  page := page
  pageSize := pageSize

/-! ## §2. What happened to a node. -/

/-- The columns of `NodeStateLog` that are shown in a history. -/
structure HistoryRow extends StateLogRow where
  userId : Option String := none

deriving instance DecidableEq for StateLogRow, HistoryRow, EventRow

/-- `NodeStateLogResponse`. -/
structure NodeStateLogResponse where
  id : String
  fromState : String
  toState : String
  triggeredBy : String
  userId : Option String
  comment : Option String
  metadata : Option JsonDict
  createdAt : SqlTimestamp
  deriving DecidableEq

/-- `NodeStateLogResponse.from_log`. -/
def NodeStateLogResponse.fromLog (log : HistoryRow) : NodeStateLogResponse where
  id := log.id
  fromState := log.fromState
  toState := log.toState
  triggeredBy := log.triggeredBy
  userId := log.userId
  comment := log.comment
  metadata := log.metadataJson
  createdAt := log.createdAt

/-- `NodeEventResponse`. -/
structure NodeEventResponse where
  id : String
  nodeId : String
  eventType : String
  status : String
  message : Option String
  progress : Option Int
  metadata : Option JsonDict
  ipAddress : Option String
  createdAt : SqlTimestamp
  deriving DecidableEq

/-- `NodeEventResponse.from_event`. -/
def NodeEventResponse.fromEvent (event : EventRow) : NodeEventResponse where
  id := event.id
  nodeId := event.nodeId
  eventType := event.eventType
  status := event.status
  message := event.message
  progress := event.progress
  metadata := event.metadataJson
  ipAddress := event.ipAddress
  createdAt := event.createdAt

/-- `NodeHistoryResponse`, `NodeEventListResponse`. -/
structure NodeListResponse (β : Type) where
  data : List β
  total : Nat

/-- `get_node_history`. -/
def getNodeHistory (orderDesc : List HistoryRow → List HistoryRow) (nodes : List String)
    (logs : List HistoryRow) (nodeId : String) (limit offset : Nat) :
    Except Exn (NodeListResponse NodeStateLogResponse) :=
  if nodeId ∉ nodes then .error (.http 404 "Node not found")
  else
    let selected := logs.filter (fun log => log.nodeId = nodeId)
    .ok ⟨(((orderDesc selected).drop offset).take limit).map .fromLog, selected.length⟩

/-- The conditions of the query for the events of a node. -/
def selectsNodeEvent (nodeId : String) (eventType : Option String) (event : EventRow) : Bool :=
  event.nodeId = nodeId && (nonEmpty eventType).all (fun type => event.eventType = type)

/-- `get_node_events`. -/
def getNodeEvents (orderDesc : List EventRow → List EventRow) (nodes : List String)
    (events : List EventRow) (nodeId : String) (limit offset : Nat)
    (eventType : Option String) : Except Exn (NodeListResponse NodeEventResponse) :=
  if nodeId ∉ nodes then .error (.http 404 ("Node " ++ nodeId ++ " not found"))
  else
    let selected := events.filter (selectsNodeEvent nodeId eventType)
    .ok ⟨(((orderDesc selected).drop offset).take limit).map .fromEvent, selected.length⟩

/-! ## §3. Who reads the pages. -/

/-- The time of a row, in microseconds. -/
def AuditLogRow.time (log : AuditLogRow) : Int := log.timestamp.micros

def HistoryRow.time (log : HistoryRow) : Int := log.createdAt.micros

def EventRow.time (event : EventRow) : Int := event.createdAt.micros

/-- The next page of the audit log, `page_size` entries long. -/
def askAuditLogs (f : AuditFilters) (pageSize : Nat) : Ask AuditLogRow AuditLogResponse :=
  fun logs listing pages =>
    let answer := listAuditLogs (fun _ => listing) logs f (pages + 1) pageSize
    (answer.items, answer.total)

/-- What a client reads of an answer; a refusal has no entries. -/
def entriesOf {β : Type} : Except Exn (NodeListResponse β) → List β × Nat
  | .ok answer => (answer.data, answer.total)
  | .error _ => ([], 0)

/-- The next entries of a node's history. -/
def askNodeHistory (nodes : List String) (nodeId : String) (limit : Nat) :
    Ask HistoryRow NodeStateLogResponse :=
  fun logs listing pages =>
    entriesOf (getNodeHistory (fun _ => listing) nodes logs nodeId limit (pages * limit))

/-- The next entries of a node's events. -/
def askNodeEvents (nodes : List String) (nodeId : String) (eventType : Option String)
    (limit : Nat) : Ask EventRow NodeEventResponse :=
  fun events listing pages =>
    entriesOf
      (getNodeEvents (fun _ => listing) nodes events nodeId limit (pages * limit) eventType)

theorem listAuditLogs_asks (f : AuditFilters) (pageSize : Nat) :
    AsksPages AuditLogRow.time f.selects pageSize (askAuditLogs f pageSize)
      auditToResponse := by
  intro logs listing pages hordered
  unfold askAuditLogs listAuditLogs
  rw [Nat.add_sub_cancel, hordered.perm.length_eq]
  rfl

variable {nodes : List String} {nodeId : String}

theorem getNodeHistory_asks (hnode : nodeId ∈ nodes) (limit : Nat) :
    AsksPages HistoryRow.time (fun log => log.nodeId = nodeId) limit
      (askNodeHistory nodes nodeId limit) NodeStateLogResponse.fromLog := by
  intro logs listing pages hordered
  unfold askNodeHistory getNodeHistory
  rw [if_neg (not_not.mpr hnode), hordered.perm.length_eq]
  rfl

theorem getNodeEvents_asks (hnode : nodeId ∈ nodes) (eventType : Option String) (limit : Nat) :
    AsksPages EventRow.time (selectsNodeEvent nodeId eventType) limit
      (askNodeEvents nodes nodeId eventType limit) NodeEventResponse.fromEvent := by
  intro events listing pages hordered
  unfold askNodeEvents getNodeEvents
  rw [if_neg (not_not.mpr hnode), hordered.perm.length_eq]
  rfl

/-! ## §4. What the client has in the end. -/

/-- **NOTHING IS MISSED** by a client that is through, and nothing else is shown to it: of the
rows that were selected at the start, each one that shares its time with no other selected row
was shown, and whatever was shown is a selected row. -/
def NothingMissed {α β : Type} [DecidableEq α] (time : α → Int) (selects : α → Bool)
    (limit : Nat) (ask : Ask α β) (entry : α → β) : Prop :=
  ∀ (rows : List α) (events : List (WalkEvent α)),
    let w := run (Walk.exec time selects limit ask) ({ rows } : Walk α β) events
    (w.finished = true → ∀ row ∈ rows.filter selects,
      Alone time row (w.rows.filter selects) → entry row ∈ w.got) ∧
    ∀ shown ∈ w.got, ∃ row ∈ w.rows.filter selects, entry row = shown

theorem nothingMissed {α β : Type} [DecidableEq α] {time : α → Int} {selects : α → Bool}
    {limit : Nat} {ask : Ask α β} {entry : α → β}
    (hask : AsksPages time selects limit ask entry) :
    NothingMissed time selects limit ask entry :=
  fun rows events =>
    ⟨fun hfinished _ hrow => Walk.complete hask events hrow hfinished, Walk.sound hask rows events⟩

/-- An event of the node, in a second of the first minute of 2026. -/
def eventAt (id : String) (second : Fin 60) : EventRow where
  id := id
  createdAt := { newYear with second := second, second_lt := second.isLt }
  nodeId := "n1"
  eventType := "heartbeat"
  status := "success"

/-- One event is written while three are read two by two: the second of them comes twice. -/
def twoPages : Walk EventRow NodeEventResponse :=
  run (Walk.exec EventRow.time (selectsNodeEvent "n1" none) 2
      (askNodeEvents ["n1"] "n1" none 2))
    { rows := [eventAt "a" 1, eventAt "b" 2, eventAt "c" 3] }
    [.read [eventAt "c" 3, eventAt "b" 2, eventAt "a" 1], .write (eventAt "d" 4),
      .read [eventAt "d" 4, eventAt "c" 3, eventAt "b" 2, eventAt "a" 1]]

end PureBoot.Web
