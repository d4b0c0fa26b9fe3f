/-
  PureBoot.Web.Activity — the TIMELINE of state changes, node events and health alerts.

  Embeds `get_activity` of `api/routes/activity.py`.  Three tables are read one after
  another, each unless the type that is asked for names another one; only the alerts are
  left out for both other types.  The names of nodes, that are looked up source by source,
  are the stored ones.  JSON columns are kept as the objects that are written to them; a
  text that does not parse reads as none.  An empty text is no filter.

  `created_at` is `CURRENT_TIMESTAMP`, a text in whole seconds of UTC.  It is compared with the
  text of `since`, which has microseconds and has lost its time zone.

  Main results:
    * `timeline_sorted`, `timeline_perm` — the list whose slices are answered;
    * `selects_iff` — what the comparison of the texts selects;
    * `activity_timeline_iff` — the filters for which the list holds what was asked for.
-/
import PureBoot.Lib.Chunks
import PureBoot.Lib.Ranked
import PureBoot.Lib.SqlText
import PureBoot.Lifecycle.StateMachine

namespace PureBoot.Web

open PureBoot.Lib
open PureBoot.Lifecycle (JsonValue JsonDict)

/-! ## §1. Rows. -/

/-- The columns of `NodeStateLog` that are shown. -/
structure StateLogRow where
  id : String
  createdAt : SqlTimestamp
  nodeId : String
  fromState : String
  toState : String
  triggeredBy : String
  comment : Option String := none
  metadataJson : Option JsonDict := none

/-- The columns of `NodeEvent` that are shown. -/
structure EventRow where
  id : String
  createdAt : SqlTimestamp
  nodeId : String
  eventType : String
  status : String
  message : Option String := none
  progress : Option Int := none
  metadataJson : Option JsonDict := none
  ipAddress : Option String := none

/-- The columns of `HealthAlert` that are shown. -/
structure AlertRow where
  id : String
  createdAt : SqlTimestamp
  nodeId : String
  alertType : String
  severity : String
  status : String
  message : String
  detailsJson : Option JsonDict := none

/-- The columns of `Node` that are shown. -/
structure NodeNameRow where
  id : String
  hostname : Option String
  macAddress : String

structure ActivityDb where
  stateLogs : List StateLogRow
  events : List EventRow
  alerts : List AlertRow
  nodes : List NodeNameRow

/-- `type`. -/
inductive ActivityType where
  | stateChange
  | nodeEvent
  | healthAlert
  deriving DecidableEq, Repr

def ActivityType.text : ActivityType → String
  | stateChange => "state_change"
  | nodeEvent => "node_event"
  | healthAlert => "health_alert"

/-- `since`: a date and a time of day, and the offset of its time zone from UTC in seconds, if it
has a time zone. -/
structure Since where
  wall : Datetime
  offset : Option Int := none

/-- The filters of a request. -/
structure ActivityFilters where
  type : Option ActivityType := none
  nodeId : Option String := none
  eventType : Option String := none
  since : Option Since := none

/-- `ActivityEntry`. -/
structure ActivityEntry where
  id : String
  timestamp : SqlTimestamp
  type : String
  category : String
  nodeId : Option String
  nodeName : Option String
  message : String
  details : Option JsonDict
  triggeredBy : Option String
  deriving DecidableEq

/-- `ActivityListResponse`. -/
structure ActivityListResponse where
  data : List ActivityEntry
  total : Nat
  deriving DecidableEq

/-- What is read of the standard library and of the database. -/
structure ActivityEnv where
  /-- `str.title`. -/
  title : String → String
  /-- `ORDER BY created_at DESC`: the order is open where the times are the same. -/
  orderDesc : {α : Type} → (α → SqlTimestamp) → List α → List α
  orderDesc_ordered : ∀ {α : Type} (time : α → SqlTimestamp) (rows : List α),
    Ordered (fun row => (time row).micros) (orderDesc time rows) rows

/-! ## §2. Entries. -/

/-- A value that is tested for truth: an empty text is none. -/
def nonEmpty (t : Option String) : Option String := t.filter (fun s => s ≠ "")

/-- `{**a, **b}`. -/
def mergeDicts (a b : JsonDict) : JsonDict :=
  a.map (fun p => (p.1, (b.lookup p.1).getD p.2))
    ++ b.filter (fun p => (a.lookup p.1).isNone)

/-- An object that is not empty. -/
def nonEmptyDict (d : Option JsonDict) : Option JsonDict := d.filter (fun d => !d.isEmpty)

/-- `node_names.get(node_id)`. -/
def ActivityDb.nodeName (db : ActivityDb) (nodeId : String) : Option String :=
  if nodeId = "" then none
  else (db.nodes.find? (fun n => n.id = nodeId)).map
    (fun n => (nonEmpty n.hostname).getD n.macAddress)

namespace ActivityEnv

variable (env : ActivityEnv) (db : ActivityDb)

/-- The entry of a state change. -/
def stateEntry (log : StateLogRow) : ActivityEntry where
  id := "state_" ++ log.id
  timestamp := log.createdAt
  type := ActivityType.stateChange.text
  category := log.fromState ++ " → " ++ log.toState
  nodeId := some log.nodeId
  nodeName := db.nodeName log.nodeId
  message := (nonEmpty log.comment).getD
    ("State changed from " ++ log.fromState ++ " to " ++ log.toState)
  details := log.metadataJson
  triggeredBy := some log.triggeredBy

/-- The message of an event without one. -/
def eventMessage (event : EventRow) : String :=
  env.title (String.ofList (event.eventType.toList.map (fun c => if c = '_' then ' ' else c)))
    ++ (match event.progress with
      | some progress => " (" ++ toString progress ++ "%)"
      | none => "")

/-- The details that an event adds to its metadata. -/
def eventExtra (event : EventRow) : JsonDict :=
  ((nonEmpty event.ipAddress).map (fun ip => ("ip_address", JsonValue.str ip))).toList
    ++ (event.progress.map (fun progress => ("progress", JsonValue.int progress))).toList
    ++ ((nonEmpty (some event.status)).map (fun status => ("status", JsonValue.str status))).toList

/-- The entry of a node event. -/
def eventEntry (event : EventRow) : ActivityEntry where
  id := "event_" ++ event.id
  timestamp := event.createdAt
  type := ActivityType.nodeEvent.text
  category := event.eventType
  nodeId := some event.nodeId
  nodeName := db.nodeName event.nodeId
  message := (nonEmpty event.message).getD (env.eventMessage event)
  details := nonEmptyDict (
    if (eventExtra event).isEmpty then event.metadataJson
    else some (mergeDicts (event.metadataJson.getD []) (eventExtra event)))
  triggeredBy := some "node_report"

/-- The entry of a health alert. -/
def alertEntry (alert : AlertRow) : ActivityEntry where
  id := "alert_" ++ alert.id
  timestamp := alert.createdAt
  type := ActivityType.healthAlert.text
  category := alert.alertType
  nodeId := some alert.nodeId
  nodeName := db.nodeName alert.nodeId
  message := alert.message
  details := some (mergeDicts (alert.detailsJson.getD [])
    [("severity", .str alert.severity), ("alert_status", .str alert.status)])
  triggeredBy := some "health_monitor"

end ActivityEnv

/-! ## §3. The endpoint. -/

namespace ActivityFilters

variable (f : ActivityFilters)

/-- `created_at >= since`, as texts. -/
def sinceSelects (createdAt : SqlTimestamp) : Bool :=
  f.since.all (fun since => byteText since.wall.sqlText ≤ byteText createdAt.text)

/-- The condition on the node. -/
def selectsNode (nodeId : String) : Bool := (nonEmpty f.nodeId).all (fun n => nodeId = n)

/-- The condition on the event. -/
def selectsType (eventType : String) : Bool :=
  (nonEmpty f.eventType).all (fun t => eventType = t)

def selectsLog (log : StateLogRow) : Bool :=
  f.selectsNode log.nodeId && f.sinceSelects log.createdAt

def selectsEvent (event : EventRow) : Bool :=
  f.selectsNode event.nodeId && f.sinceSelects event.createdAt && f.selectsType event.eventType

def selectsAlert (alert : AlertRow) : Bool :=
  f.selectsNode alert.nodeId && f.sinceSelects alert.createdAt

end ActivityFilters

namespace ActivityEnv

variable (env : ActivityEnv) (db : ActivityDb) (f : ActivityFilters)

/-- The entries, source by source. -/
def entries : List ActivityEntry :=
  let states :=
    if f.type ≠ some .nodeEvent then
      (env.orderDesc StateLogRow.createdAt (db.stateLogs.filter f.selectsLog)).map (stateEntry db)
    else []
  let events :=
    if f.type ≠ some .stateChange then
      (env.orderDesc EventRow.createdAt (db.events.filter f.selectsEvent)).map (env.eventEntry db)
    else []
  let alerts :=
    if f.type ≠ some .stateChange ∧ f.type ≠ some .nodeEvent then
      (env.orderDesc AlertRow.createdAt (db.alerts.filter f.selectsAlert)).map (alertEntry db)
    else []
  states ++ events ++ alerts

/-- The entries in the order of their times; the sort is stable. -/
def timeline : List ActivityEntry :=
  (env.entries db f).mergeSort (fun a b => b.timestamp.micros ≤ a.timestamp.micros)

/-- `get_activity`. -/
def getActivity (limit offset : Nat) : ActivityListResponse where
  data := ((env.timeline db f).drop offset).take limit
  total := (env.timeline db f).length

end ActivityEnv

/-! ## §4. What is asked for. -/

/-- The type is the one that is asked for. -/
def ActivityFilters.wants (f : ActivityFilters) (t : ActivityType) : Bool :=
  f.type.all (fun t' => t = t')

/-- The microseconds of `since` after the first of January of year 1, by UTC. -/
def Since.instant (since : Since) : Int := since.wall.micros - since.offset.getD 0 * 1000000

namespace ActivityFilters

variable (f : ActivityFilters)

/-- The time is not before `since`. -/
def notBefore (createdAt : SqlTimestamp) : Bool :=
  f.since.all (fun since => since.instant ≤ (createdAt.micros : Int))

def meetsLog (log : StateLogRow) : Bool := f.selectsNode log.nodeId && f.notBefore log.createdAt

def meetsEvent (event : EventRow) : Bool :=
  f.selectsNode event.nodeId && f.notBefore event.createdAt && f.selectsType event.eventType

def meetsAlert (alert : AlertRow) : Bool :=
  f.selectsNode alert.nodeId && f.notBefore alert.createdAt

end ActivityFilters

/-- One entry for each row that satisfies all the filters. -/
def ActivityEnv.wanted (env : ActivityEnv) (db : ActivityDb) (f : ActivityFilters) :
    List ActivityEntry :=
  (db.stateLogs.filter (fun log => f.wants .stateChange && f.meetsLog log)).map
      (ActivityEnv.stateEntry db)
    ++ (db.events.filter (fun event => f.wants .nodeEvent && f.meetsEvent event)).map
      (env.eventEntry db)
    ++ (db.alerts.filter (fun alert => f.wants .healthAlert && f.meetsAlert alert)).map
      (ActivityEnv.alertEntry db)

/-- **THE TIMELINE IS WALKED PAGE BY PAGE.** -/
structure WalksTimeline (env : ActivityEnv) (db : ActivityDb) (f : ActivityFilters)
    (timeline : List ActivityEntry) : Prop where
  newestFirst : timeline.Pairwise (fun a b => b.timestamp.micros ≤ a.timestamp.micros)
  holds : timeline.Perm (env.wanted db f)
  slices : ∀ limit offset, 1 ≤ limit → limit ≤ 500 →
    env.getActivity db f limit offset = ⟨(timeline.drop offset).take limit, timeline.length⟩
  pages : ∀ limit, 1 ≤ limit → limit ≤ 500 → ∀ n, timeline.length ≤ n * limit →
    (List.range n).flatMap (fun i => (env.getActivity db f limit (i * limit)).data) = timeline

/-! ## §5. One sorted list. -/

section Timeline

variable (env : ActivityEnv) (db : ActivityDb) (f : ActivityFilters)

theorem timeline_sorted :
    (env.timeline db f).Pairwise (fun a b => b.timestamp.micros ≤ a.timestamp.micros) :=
  (ordered_mergeSort (fun e : ActivityEntry => e.timestamp.micros) (env.entries db f)).sorted

/-- The entries of one source, in the order of the table. -/
theorem source_perm {α : Type} (time : α → SqlTimestamp) (rows : List α)
    (entry : α → ActivityEntry) :
    ((env.orderDesc time rows).map entry).Perm (rows.map entry) :=
  (env.orderDesc_ordered time rows).perm.map entry

/-- **WHAT THE TIMELINE HOLDS**: the rows of each source that is not left out. -/
theorem timeline_perm :
    (env.timeline db f).Perm
      ((if f.type ≠ some .nodeEvent then
          (db.stateLogs.filter f.selectsLog).map (ActivityEnv.stateEntry db) else [])
        ++ (if f.type ≠ some .stateChange then
          (db.events.filter f.selectsEvent).map (env.eventEntry db) else [])
        ++ (if f.type ≠ some .stateChange ∧ f.type ≠ some .nodeEvent then
          (db.alerts.filter f.selectsAlert).map (ActivityEnv.alertEntry db) else [])) := by
  refine (List.mergeSort_perm _ _).trans ?_
  unfold ActivityEnv.entries
  refine ((List.Perm.append ?_ ?_).append ?_)
  · split
    · exact source_perm env _ _ _
    · exact List.Perm.refl _
  · split
    · exact source_perm env _ _ _
    · exact List.Perm.refl _
  · split
    · exact source_perm env _ _ _
    · exact List.Perm.refl _

theorem filter_wants {α : Type} (t : ActivityType) (meets : α → Bool) (rows : List α) :
    rows.filter (fun row => f.wants t && meets row)
      = if f.wants t then rows.filter meets else [] := by
  cases hwants : f.wants t with
  | true => simp
  | false => simp

/-- What is asked for, source by source. -/
theorem wanted_eq :
    env.wanted db f
      = (if f.wants .stateChange then
          (db.stateLogs.filter f.meetsLog).map (ActivityEnv.stateEntry db) else [])
        ++ (if f.wants .nodeEvent then
          (db.events.filter f.meetsEvent).map (env.eventEntry db) else [])
        ++ (if f.wants .healthAlert then
          (db.alerts.filter f.meetsAlert).map (ActivityEnv.alertEntry db) else []) := by
  unfold ActivityEnv.wanted
  rw [filter_wants, filter_wants, filter_wants]
  simp only [apply_ite (List.map _), List.map_nil]

/-! ## §6. What `since` selects. -/

/-- **THE TEXTS** select what is after the date and the time of day in `since`. -/
theorem selects_iff (createdAt : SqlTimestamp) :
    f.sinceSelects createdAt = true ↔ ∀ since ∈ f.since, since.wall.micros < createdAt.micros := by
  unfold ActivityFilters.sinceSelects
  simp only [Option.all_eq_true, decide_eq_true_eq, SqlTimestamp.bound_le_iff, Option.mem_def]

theorem notBefore_iff (createdAt : SqlTimestamp) :
    f.notBefore createdAt = true ↔
      ∀ since ∈ f.since, since.instant ≤ (createdAt.micros : Int) := by
  unfold ActivityFilters.notBefore
  simp only [Option.all_eq_true, decide_eq_true_eq, Option.mem_def]

/-- Of a time it makes no difference whether it is after the date and the time of day in `since`,
or not before `since`. -/
def JudgedRight (createdAt : SqlTimestamp) : Prop :=
  ∀ since ∈ f.since,
    since.wall.micros < createdAt.micros ↔ since.instant ≤ (createdAt.micros : Int)

theorem judgedRight_iff (createdAt : SqlTimestamp) :
    JudgedRight f createdAt ↔ f.sinceSelects createdAt = f.notBefore createdAt := by
  rw [Bool.eq_iff_iff, selects_iff, notBefore_iff]
  unfold JudgedRight
  cases f.since with
  | none => simp
  | some since => simp

/-- West of UTC more is selected than is asked for, elsewhere less. -/
theorem since_nested :
    (∀ createdAt, f.sinceSelects createdAt = true → f.notBefore createdAt = true) ∨
      ∀ createdAt, f.notBefore createdAt = true → f.sinceSelects createdAt = true := by
  simp only [selects_iff, notBefore_iff, Since.instant]
  cases f.since with
  | none => exact .inl (fun _ _ _ h => by cases h)
  | some since =>
      simp only [Option.mem_def, Option.some.injEq, forall_eq']
      by_cases hwest : since.offset.getD 0 < 0
      · exact .inr (fun _ h => by omega)
      · exact .inl (fun _ h => by omega)

/-- Of two conditions, one of which is the narrower one, as many rows meet the one as the other
exactly if they are the same on these rows. -/
theorem length_filter_eq_iff {α : Type} {p q : α → Bool} {rows : List α}
    (h : (∀ x, p x = true → q x = true) ∨ ∀ x, q x = true → p x = true) :
    (rows.filter p).length = (rows.filter q).length ↔ ∀ x ∈ rows, p x = q x := by
  have hnarrow : ∀ {p q : α → Bool}, (∀ x, p x = true → q x = true) →
      (rows.filter p).length = (rows.filter q).length → ∀ x ∈ rows, p x = q x := by
    intro p q hpq hlength x hx
    have hp : rows.filter p = (rows.filter q).filter p := by
      rw [List.filter_filter]
      refine List.filter_congr (fun y _ => ?_)
      cases hy : p y with
      | true => rw [hpq y hy]; rfl
      | false => rfl
    rw [hp, List.length_filter_eq_length_iff] at hlength
    cases hq : q x with
    | true => exact hlength x (List.mem_filter.mpr ⟨hx, hq⟩)
    | false =>
        cases hpx : p x with
        | true => exact (hpq x hpx).symm.trans hq
        | false => rfl
  refine ⟨fun hlength => ?_, fun hsame => congrArg _ (List.filter_congr hsame)⟩
  rcases h with hpq | hqp
  · exact hnarrow hpq hlength
  · exact fun x hx => (hnarrow hqp hlength.symm x hx).symm

/-- As many rows are selected by the texts as are asked for only if they are the same rows. -/
theorem length_since_iff {α : Type} {p q : α → Bool} (others : α → Bool) (time : α → SqlTimestamp)
    (hp : ∀ x, p x = (others x && f.sinceSelects (time x)))
    (hq : ∀ x, q x = (others x && f.notBefore (time x))) {rows : List α} :
    (rows.filter p).length = (rows.filter q).length ↔ ∀ x ∈ rows, p x = q x := by
  refine length_filter_eq_iff ?_
  simp only [hp, hq, Bool.and_eq_true]
  rcases since_nested f with hnested | hnested
  · exact .inl (fun x h => ⟨h.1, hnested _ h.2⟩)
  · exact .inr (fun x h => ⟨h.1, hnested _ h.2⟩)

/-! ## §7. One sorted list. -/

/-- No state change and no node event satisfies the filters on rows. -/
def NoOtherEntries : Prop :=
  (∀ log ∈ db.stateLogs, f.selectsLog log = false)
    ∧ ∀ event ∈ db.events, f.selectsEvent event = false

/-- `since` judges right of the rows that satisfy the other filters. -/
structure SinceJudges : Prop where
  logs : f.wants .stateChange = true → ∀ log ∈ db.stateLogs, f.selectsNode log.nodeId = true →
    JudgedRight f log.createdAt
  events : f.wants .nodeEvent = true → ∀ event ∈ db.events, f.selectsNode event.nodeId = true →
    f.selectsType event.eventType = true → JudgedRight f event.createdAt
  alerts : f.wants .healthAlert = true → ∀ alert ∈ db.alerts, f.selectsNode alert.nodeId = true →
    JudgedRight f alert.createdAt

theorem selectsLog_eq_iff (log : StateLogRow) :
    f.selectsLog log = f.meetsLog log
      ↔ (f.selectsNode log.nodeId = true → JudgedRight f log.createdAt) := by
  unfold ActivityFilters.selectsLog ActivityFilters.meetsLog
  rw [judgedRight_iff]
  cases f.selectsNode log.nodeId with
  | true => simp
  | false => simp

theorem selectsEvent_eq_iff (event : EventRow) :
    f.selectsEvent event = f.meetsEvent event
      ↔ (f.selectsNode event.nodeId = true → f.selectsType event.eventType = true →
        JudgedRight f event.createdAt) := by
  unfold ActivityFilters.selectsEvent ActivityFilters.meetsEvent
  rw [judgedRight_iff]
  cases f.selectsNode event.nodeId with
  | false => simp
  | true =>
      cases f.selectsType event.eventType with
      | true => simp
      | false => simp

theorem selectsAlert_eq_iff (alert : AlertRow) :
    f.selectsAlert alert = f.meetsAlert alert
      ↔ (f.selectsNode alert.nodeId = true → JudgedRight f alert.createdAt) := by
  unfold ActivityFilters.selectsAlert ActivityFilters.meetsAlert
  rw [judgedRight_iff]
  cases f.selectsNode alert.nodeId with
  | true => simp
  | false => simp

/-- Another type is not asked for alone. -/
theorem type_ne_of_wants {t t' : ActivityType} (h : f.wants t = true) (hne : t ≠ t') :
    f.type ≠ some t' := by
  intro htype
  unfold ActivityFilters.wants at h
  rw [htype] at h
  exact hne (of_decide_eq_true h)

/-- **ONE LIST**: the timeline holds what is asked for if health alerts are not asked for alone, or
nothing else satisfies the other filters, and `since` judges right. -/
theorem timeline_perm_wanted (h : f.type = some .healthAlert → NoOtherEntries db f)
    (hsince : SinceJudges db f) : (env.timeline db f).Perm (env.wanted db f) := by
  refine (timeline_perm env db f).trans ?_
  rw [wanted_eq]
  have hlogs : f.wants .stateChange = true →
      db.stateLogs.filter f.selectsLog = db.stateLogs.filter f.meetsLog := fun hwants =>
    List.filter_congr (fun log hlog => (selectsLog_eq_iff f log).mpr (hsince.logs hwants log hlog))
  have hevents : f.wants .nodeEvent = true →
      db.events.filter f.selectsEvent = db.events.filter f.meetsEvent := fun hwants =>
    List.filter_congr (fun event hevent =>
      (selectsEvent_eq_iff f event).mpr (hsince.events hwants event hevent))
  have halerts : f.wants .healthAlert = true →
      db.alerts.filter f.selectsAlert = db.alerts.filter f.meetsAlert := fun hwants =>
    List.filter_congr (fun alert halert =>
      (selectsAlert_eq_iff f alert).mpr (hsince.alerts hwants alert halert))
  unfold ActivityFilters.wants at hlogs hevents halerts ⊢
  cases htype : f.type with
  | none =>
      simp only [htype, Option.all_none, forall_const] at hlogs hevents halerts
      simp [hlogs, hevents, halerts]
  | some t =>
      cases t with
      | stateChange => simp [hlogs (by rw [htype]; rfl)]
      | nodeEvent => simp [hevents (by rw [htype]; rfl)]
      | healthAlert =>
          obtain ⟨hnologs, hnoevents⟩ := h htype
          have hlogs' : db.stateLogs.filter f.selectsLog = [] :=
            List.filter_eq_nil_iff.mpr (fun log hlog => by simp [hnologs log hlog])
          have hevents' : db.events.filter f.selectsEvent = [] :=
            List.filter_eq_nil_iff.mpr (fun event hevent => by simp [hnoevents event hevent])
          simp [hlogs', hevents', halerts (by rw [htype]; rfl)]

/-- The entries of a type, among those of one source. -/
theorem countP_source {α : Type} (entry : α → ActivityEntry) (t t' : ActivityType)
    (hentry : ∀ row, (entry row).type = t'.text) (rows : List α) :
    (rows.map entry).countP (fun e => e.type = t.text) = if t' = t then rows.length else 0 := by
  have htext : t'.text = t.text ↔ t' = t := by
    cases t <;> cases t' <;> decide
  rw [List.countP_map]
  split
  next h =>
    rw [List.countP_eq_length]
    intro row _
    simp [hentry, h]
  next h =>
    rw [List.countP_eq_zero]
    intro row _
    simp [hentry, htext, h]

/-- **HOW MANY ENTRIES** of a type the timeline holds, and how many are asked for. -/
theorem length_sources (h : (env.timeline db f).Perm (env.wanted db f)) :
    (if f.type ≠ some .nodeEvent then (db.stateLogs.filter f.selectsLog).length else 0)
        = (if f.wants .stateChange then (db.stateLogs.filter f.meetsLog).length else 0) ∧
      (if f.type ≠ some .stateChange then (db.events.filter f.selectsEvent).length else 0)
        = (if f.wants .nodeEvent then (db.events.filter f.meetsEvent).length else 0) ∧
      (if f.type ≠ some .stateChange ∧ f.type ≠ some .nodeEvent then
          (db.alerts.filter f.selectsAlert).length else 0)
        = (if f.wants .healthAlert then (db.alerts.filter f.meetsAlert).length else 0) := by
  have hperm := ((timeline_perm env db f).symm.trans h)
  rw [wanted_eq] at hperm
  have hcount := fun t : ActivityType => hperm.countP_eq (fun e => e.type = t.text)
  simp only [List.countP_append, apply_ite (List.countP _), List.countP_nil,
    countP_source (ActivityEnv.stateEntry db) _ .stateChange (fun _ => rfl),
    countP_source (env.eventEntry db) _ .nodeEvent (fun _ => rfl),
    countP_source (ActivityEnv.alertEntry db) _ .healthAlert (fun _ => rfl)] at hcount
  refine ⟨?_, ?_, ?_⟩
  · simpa using hcount .stateChange
  · simpa using hcount .nodeEvent
  · simpa using hcount .healthAlert

/-- **THE ACTIVITY TIMELINE** holds what was asked for exactly if health alerts are not asked for
alone, or no other entry satisfies the other filters, and `since` judges right. -/
theorem activity_timeline_iff :
    (∃ timeline, WalksTimeline env db f timeline)
      ↔ (f.type = some .healthAlert → NoOtherEntries db f) ∧ SinceJudges db f := by
  constructor
  · rintro ⟨timeline, hwalks⟩
    -- the pages of one entry make up both lists
    have htotal : (env.timeline db f).length = timeline.length :=
      congrArg ActivityListResponse.total (hwalks.slices 1 0 (le_refl 1) (by omega))
    have hsame : env.timeline db f = timeline :=
      (flatMap_pages 1 (env.timeline db f) (Nat.le_of_eq (Nat.mul_one _).symm)).symm.trans
        (hwalks.pages 1 (le_refl 1) (by omega) _ (by omega))
    obtain ⟨hlogs, hevents, halerts⟩ := length_sources env db f (hsame ▸ hwalks.holds)
    refine ⟨fun htype => ?_, ?_, ?_, ?_⟩
    · have hother : ∀ t, t ≠ .healthAlert → f.wants t = false := by
        intro t ht
        unfold ActivityFilters.wants
        rw [htype]
        exact decide_eq_false ht
      rw [hother .stateChange (by decide), if_pos (by rw [htype]; decide), if_neg (by decide),
        List.length_eq_zero_iff, List.filter_eq_nil_iff] at hlogs
      rw [hother .nodeEvent (by decide), if_pos (by rw [htype]; decide), if_neg (by decide),
        List.length_eq_zero_iff, List.filter_eq_nil_iff] at hevents
      exact ⟨fun log hlog => Bool.eq_false_iff.mpr (hlogs log hlog),
        fun event hevent => Bool.eq_false_iff.mpr (hevents event hevent)⟩
    · intro hwants log hlog
      rw [if_pos (type_ne_of_wants f hwants (by decide)), if_pos hwants,
        length_since_iff (p := f.selectsLog) (q := f.meetsLog) f
          (fun log => f.selectsNode log.nodeId) StateLogRow.createdAt (fun _ => rfl)
          (fun _ => rfl)] at hlogs
      exact (selectsLog_eq_iff f log).mp (hlogs log hlog)
    · intro hwants event hevent
      rw [if_pos (type_ne_of_wants f hwants (by decide)), if_pos hwants,
        length_since_iff (p := f.selectsEvent) (q := f.meetsEvent) f
          (fun event => f.selectsNode event.nodeId && f.selectsType event.eventType)
          EventRow.createdAt (fun _ => Bool.and_right_comm _ _ _)
          (fun _ => Bool.and_right_comm _ _ _)] at hevents
      exact (selectsEvent_eq_iff f event).mp (hevents event hevent)
    · intro hwants alert halert
      have hread : ∀ t', .healthAlert ≠ t' → f.type ≠ some t' :=
        fun _ => type_ne_of_wants f hwants
      rw [if_pos ⟨hread _ (by decide), hread _ (by decide)⟩, if_pos hwants,
        length_since_iff (p := f.selectsAlert) (q := f.meetsAlert) f
          (fun alert => f.selectsNode alert.nodeId) AlertRow.createdAt (fun _ => rfl)
          (fun _ => rfl)] at halerts
      exact (selectsAlert_eq_iff f alert).mp (halerts alert halert)
  · rintro ⟨hother, hsince⟩
    refine ⟨env.timeline db f, timeline_sorted env db f,
      timeline_perm_wanted env db f hother hsince, fun _ _ _ _ => rfl, ?_⟩
    intro limit _ _ n hn
    exact flatMap_pages limit (env.timeline db f) hn

end Timeline

/-- A database that keeps rows of one time in their order. -/
def stableEnv : ActivityEnv where
  title := id
  orderDesc := fun time rows => rows.mergeSort (fun a b => (time b).micros ≤ (time a).micros)
  orderDesc_ordered := fun time rows => ordered_mergeSort (fun row => (time row).micros) rows

/-- The first second of 2026. -/
def newYear : SqlTimestamp where
  toMoment := Moment.newYear 2026
  year_pos := by decide

def firstChange : StateLogRow where
  id := "l1"
  createdAt := newYear
  nodeId := "n1"
  fromState := "discovered"
  toState := "pending"
  triggeredBy := "admin"

/-- One state change, and no alert. -/
def oneStateChange : ActivityDb where
  stateLogs := [firstChange]
  events := []
  alerts := []
  nodes := []

/-- Who asks for health alerts gets the state change, and who asks for what was there since the
very second does not get it. -/
theorem state_change_among_alerts :
    ((stableEnv.getActivity oneStateChange { type := some .healthAlert } 50 0).data.map
        ActivityEntry.type) = ["state_change"]
      ∧ (¬ ∃ timeline, WalksTimeline stableEnv oneStateChange { type := some .healthAlert }
        timeline)
      ∧ ¬ ∃ timeline, WalksTimeline stableEnv oneStateChange
        { since := some ⟨newYear.toDatetime, none⟩ } timeline := by
  have hentries : stableEnv.entries oneStateChange { type := some .healthAlert }
      = [ActivityEnv.stateEntry oneStateChange firstChange] := by
    show (([firstChange].mergeSort _).map _) ++ (([] : List EventRow).mergeSort _).map _
      ++ (([] : List AlertRow).mergeSort _).map _ = _
    rw [List.mergeSort_singleton, List.mergeSort_nil, List.mergeSort_nil]
    rfl
  have htimeline : stableEnv.timeline oneStateChange { type := some .healthAlert }
      = [ActivityEnv.stateEntry oneStateChange firstChange] := by
    unfold ActivityEnv.timeline
    rw [hentries, List.mergeSort_singleton]
  refine ⟨?_, ?_, ?_⟩
  · unfold ActivityEnv.getActivity
    rw [htimeline]
    rfl
  · rintro ⟨timeline, hwalks⟩
    have htotal : (stableEnv.timeline oneStateChange { type := some .healthAlert }).length
        = timeline.length :=
      congrArg ActivityListResponse.total (hwalks.slices 50 0 (by omega) (by omega))
    rw [htimeline, hwalks.holds.length_eq] at htotal
    exact absurd htotal (by decide)
  · rintro ⟨timeline, hwalks⟩
    have htotal : (stableEnv.timeline oneStateChange
        { since := some ⟨newYear.toDatetime, none⟩ }).length = timeline.length :=
      congrArg ActivityListResponse.total (hwalks.slices 50 0 (by omega) (by omega))
    rw [(timeline_perm _ _ _).length_eq, hwalks.holds.length_eq] at htotal
    exact absurd htotal (by decide)

end PureBoot.Web
