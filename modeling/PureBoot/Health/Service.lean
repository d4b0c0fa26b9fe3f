/-
  PureBoot.Health.Service — the HEALTH of nodes and its ALERTS.

  Embeds `HealthService` of `core/health_service.py`: status and score of a node, the
  check of all nodes with the alerts it opens and resolves; the end of
  `report_node_status`, which resolves two of them, and `acknowledge_alert`.  The nodes are
  those of the lifecycle machine, and its requests (a boot, a state change) are steps here
  as they are there.

  The columns `health_status` and `health_score`, that no step here reads, are left out.
  What is computed in floating point is left to `HealthFloats`.  An alert is referred to by
  its place in the table, which stands for its uuid: alerts are added at the end and never
  deleted.  Every reading of the clock may differ.
-/
import PureBoot.Lifecycle.NodeSteps

namespace PureBoot.Health

open PureBoot.Lib PureBoot.Lifecycle

/-! ## §1. Settings and rows. -/

/-- `config/settings.py: HealthSettings`, as far as checks read it. -/
structure HealthSettings where
  staleThresholdMinutes : Int := 15
  offlineThresholdMinutes : Int := 60
  scoreStalenessWeight : Int := 40
  scoreInstallFailuresWeight : Int := 30
  scoreBootStabilityWeight : Int := 30
  alertOnStale : Bool := true
  alertOnOffline : Bool := true
  alertOnScoreBelow : Int := 50
  deriving DecidableEq, Repr

/-- The expressions of the service that are evaluated in floating point; times are in
microseconds. -/
structure HealthFloats where
  /-- `seconds / 60 <= threshold`. -/
  minutesAtMost : Int → Int → Bool
  /-- `int(min(seconds / 60 / threshold, 1.0) * weight)`. -/
  stalenessPenalty : Int → Int → Int → Int
  /-- `int(min(n / d, 1.0) * weight)`. -/
  ratioPenalty : Int → Int → Int → Int

/-- `HEALTH_STATUSES`. -/
inductive HealthStatus where
  | healthy
  | stale
  | offline
  | unknown
  deriving DecidableEq, Repr

/-- `HealthAlert.alert_type`, of the alerts that are raised. -/
inductive AlertType where
  | nodeStale
  | nodeOffline
  | lowHealthScore
  deriving DecidableEq, Repr

inductive AlertSeverity where
  | warning
  | critical
  deriving DecidableEq, Repr

/-- `ALERT_SEVERITY`. -/
def AlertType.severity : AlertType → AlertSeverity
  | nodeStale => .warning
  | nodeOffline => .critical
  | lowHealthScore => .warning

/-- `HealthAlert.status`. -/
inductive AlertStatus where
  | active
  | acknowledged
  | resolved
  deriving DecidableEq, Repr

def AlertStatus.name : AlertStatus → String
  | active => "active"
  | acknowledged => "acknowledged"
  | resolved => "resolved"

/-- `db/models.py: HealthAlert`. -/
structure HealthAlert where
  nodeId : String
  alertType : AlertType
  severity : AlertSeverity
  status : AlertStatus := .active
  message : String
  acknowledgedAt : Option Timestamp := none
  resolvedAt : Option Timestamp := none
  deriving DecidableEq, Repr

/-! ## §2. Status and score. -/

section Service

variable (cfg : HealthSettings) (fl : HealthFloats)

/-- `now - last_seen`, where a time without a zone is UTC. -/
def elapsed (now lastSeen : Timestamp) : Int := now.micros - lastSeen.micros

/-- `determine_health_status`. -/
def determineHealthStatus (now : Timestamp) (node : Node) : HealthStatus :=
  match node.lastSeenAt with
  | none => .unknown
  | some lastSeen =>
      if fl.minutesAtMost (elapsed now lastSeen) cfg.staleThresholdMinutes then .healthy
      else if fl.minutesAtMost (elapsed now lastSeen) cfg.offlineThresholdMinutes then .stale
      else .offline

/-- The breakdown of a score. -/
structure ScoreBreakdown where
  staleness : Int
  installFailures : Int
  bootStability : Int
  deriving DecidableEq, Repr

/-- The staleness part of a score; a threshold of 0 is divided by. -/
def stalenessScore (now : Timestamp) (node : Node) : Except Exn Int :=
  match node.lastSeenAt with
  | none => .ok (-cfg.scoreStalenessWeight)
  | some lastSeen =>
      if cfg.offlineThresholdMinutes = 0 then .error .other
      else .ok (-fl.stalenessPenalty (elapsed now lastSeen) cfg.offlineThresholdMinutes
        cfg.scoreStalenessWeight)

/-- `calculate_health_score`. -/
def calculateHealthScore (now : Timestamp) (node : Node) : Except Exn (Int × ScoreBreakdown) := do
  let staleness ← stalenessScore cfg fl now node
  let installFailures :=
    if 0 < node.installAttempts then
      -fl.ratioPenalty node.installAttempts 5 cfg.scoreInstallFailuresWeight
    else 0
  let bootStability :=
    if 10 < node.bootCount then
      -fl.ratioPenalty (node.bootCount - 10) 20 cfg.scoreBootStabilityWeight
    else 0
  .ok (max 0 (min 100 (100 + (staleness + installFailures + bootStability))),
    ⟨staleness, installFailures, bootStability⟩)

/-! ## §3. Alerts. -/

/-- An alert of this node and type, in this status. -/
def HealthAlert.is (a : HealthAlert) (nodeId : String) (alertType : AlertType)
    (status : AlertStatus) : Bool :=
  a.nodeId = nodeId && a.alertType = alertType && a.status = status

/-- `_create_alert_if_new`: the alert that is created, and the table with it. -/
def createAlertIfNew (alerts : List HealthAlert) (nodeId : String) (alertType : AlertType)
    (message : String) : Except Exn (Option HealthAlert × List HealthAlert) := do
  let existing ← scalarOneOrNone (alerts.filter (fun a => a.is nodeId alertType .active))
  if existing ≠ none then .ok (none, alerts)
  else
    let alert : HealthAlert := { nodeId, alertType, severity := alertType.severity, message }
    .ok (some alert, alerts ++ [alert])

/-- `resolve_alert`. -/
def resolveAlert (now : Timestamp) (alerts : List HealthAlert) (nodeId : String)
    (alertType : AlertType) : Except Exn (Bool × List HealthAlert) := do
  let alert ← scalarOneOrNone (alerts.filter (fun a => a.is nodeId alertType .active))
  if alert = none then .ok (false, alerts)
  else
    .ok (true, alerts.map (fun a =>
      if a.is nodeId alertType .active
      then { a with status := .resolved, resolvedAt := some now } else a))

/-- `node.hostname or node.mac_address`. -/
def nodeName (node : Node) : String :=
  if truthy node.hostname then node.hostname.getD "" else node.macAddress

/-- What the clock says while a check is at a node: for the status, for the score, and for
an alert that is resolved. -/
structure NodeClock where
  statusAt : Timestamp
  scoreAt : Timestamp
  resolvedAt : Timestamp

/-- The stale and offline alerts of a node of this status. -/
def checkStatus (clock : NodeClock) (node : Node) (status : HealthStatus)
    (alerts : List HealthAlert) : Except Exn (Option HealthAlert × List HealthAlert) :=
  if status = .stale ∧ cfg.alertOnStale = true then
    createAlertIfNew alerts node.id .nodeStale
      ("Node " ++ nodeName node ++ " is stale (no heartbeat for >"
        ++ toString cfg.staleThresholdMinutes ++ "m)")
  else if status = .offline ∧ cfg.alertOnOffline = true then do
    let (alert, alerts) ← createAlertIfNew alerts node.id .nodeOffline
      ("Node " ++ nodeName node ++ " is offline (no heartbeat for >"
        ++ toString cfg.offlineThresholdMinutes ++ "m)")
    let (_, alerts) ← resolveAlert clock.resolvedAt alerts node.id .nodeStale
    .ok (alert, alerts)
  else if status = .healthy then do
    let (_, alerts) ← resolveAlert clock.resolvedAt alerts node.id .nodeStale
    let (_, alerts) ← resolveAlert clock.resolvedAt alerts node.id .nodeOffline
    .ok (none, alerts)
  else .ok (none, alerts)

/-- The score alert of a node. -/
def checkScore (clock : NodeClock) (node : Node) (score : Int) (alerts : List HealthAlert) :
    Except Exn (Option HealthAlert × List HealthAlert) :=
  if 0 < cfg.alertOnScoreBelow ∧ score < cfg.alertOnScoreBelow then
    createAlertIfNew alerts node.id .lowHealthScore
      ("Node " ++ nodeName node ++ " health score is " ++ toString score
        ++ " (below threshold " ++ toString cfg.alertOnScoreBelow ++ ")")
  else if 0 < cfg.alertOnScoreBelow ∧ cfg.alertOnScoreBelow ≤ score then do
    let (_, alerts) ← resolveAlert clock.resolvedAt alerts node.id .lowHealthScore
    .ok (none, alerts)
  else .ok (none, alerts)

/-- The body of the loop of `check_all_nodes`: what is new, and the alerts. -/
def checkNode (clock : NodeClock) (node : Node) (alerts : List HealthAlert) :
    Except Exn (List HealthAlert × List HealthAlert) := do
  let status := determineHealthStatus cfg fl clock.statusAt node
  let (score, _) ← calculateHealthScore cfg fl clock.scoreAt node
  let (alert₁, alerts) ← checkStatus cfg clock node status alerts
  let (alert₂, alerts) ← checkScore cfg clock node score alerts
  .ok (alert₁.toList ++ alert₂.toList, alerts)

/-- The loop of `check_all_nodes`. -/
def checkNodes (clock : String → NodeClock) (new : List HealthAlert) :
    List Node → List HealthAlert → Except Exn (List HealthAlert × List HealthAlert)
  | [], alerts => .ok (new, alerts)
  | node :: nodes, alerts => do
      let (added, alerts) ← checkNode cfg fl (clock node.id) node alerts
      checkNodes clock (new ++ added) nodes alerts

/-- The nodes that are checked. -/
def checkedNodes (db : DB) : List Node := db.nodes.rows.filter (fun n => n.state ≠ .retired)

/-- `check_all_nodes`. -/
def checkAllNodes (clock : String → NodeClock) (db : DB) (alerts : List HealthAlert) :
    Except Exn (List HealthAlert × List HealthAlert) :=
  checkNodes cfg fl clock [] (checkedNodes db) alerts

/-! ## §4. The machine. -/

/-- The tables of the lifecycle machine, and the alerts. -/
structure HealthDb where
  db : DB
  alerts : List HealthAlert

/-- `acknowledge_alert`. -/
def acknowledgeAlert (now : Timestamp) (s : HealthDb) (alertId : Nat) :
    Except Exn (HealthAlert × HealthDb) :=
  match s.alerts[alertId]? with
  | none => .error (.http 404 "Alert not found")
  | some alert =>
      if alert.status ≠ .active then
        .error (.http 400
          ("Cannot acknowledge alert with status '" ++ alert.status.name ++ "'"))
      else
        let alert' := { alert with status := .acknowledged, acknowledgedAt := some now }
        .ok (alert', { s with alerts := s.alerts.set alertId alert' })

/-- The end of `report_node_status`: a healthy node has its alerts resolved. -/
def resolveIfHealthy (clock : NodeClock) (node : Node) (alerts : List HealthAlert) :
    Except Exn (List HealthAlert) := do
  let _ ← calculateHealthScore cfg fl clock.scoreAt node
  if determineHealthStatus cfg fl clock.statusAt node = .healthy then do
    let (_, alerts) ← resolveAlert clock.resolvedAt alerts node.id .nodeStale
    let (_, alerts) ← resolveAlert clock.resolvedAt alerts node.id .nodeOffline
    .ok alerts
  else .ok alerts

/-- `report_node_status` as a whole. -/
def reportHealth (now : Timestamp) (clock : NodeClock) (s : HealthDb) (report : NodeReport)
    (clientHost : Option String) : Except Exn (String × HealthDb) := do
  let (message, db) ← reportNodeStatus now s.db report clientHost
  match db.nodeByMac report.macAddress with
  | none => .ok (message, { s with db })
  | some node =>
      let alerts ← resolveIfHealthy cfg fl clock node s.alerts
      .ok (message, { db, alerts })

/-- A node is seen by another of the boot endpoints. -/
def seeNode (now : Timestamp) (db : DB) (nodeId : String) : DB :=
  match db.nodes.get? nodeId with
  | none => db
  | some node => { db with nodes := db.nodes.put { node with lastSeenAt := some now } }

/-- Requests, boots, acknowledgements and checks. -/
inductive HealthOp where
  /-- A request; a report reads the clock again at its end. -/
  | request (r : Lifecycle.Request) (clock : NodeClock)
  | seen (now : Timestamp) (nodeId : String)
  | acknowledge (now : Timestamp) (alertId : Nat)
  | check (clock : String → NodeClock)

/-- A check, and the session it runs in. -/
def checkStep (clock : String → NodeClock) (s : HealthDb) :
    Except Exn (List HealthAlert × HealthDb) := do
  let (new, alerts) ← checkAllNodes cfg fl clock s.db s.alerts
  .ok (new, { s with alerts })

def healthStep (env : Env) (s : HealthDb) : HealthOp → HealthDb
  | .request r clock =>
      match r.op with
      | .reportNodeStatus report clientHost =>
          commitOrRollback s (reportHealth cfg fl r.now clock s report clientHost)
      | _ => { s with db := exec env s.db r }
  | .seen now nodeId => { s with db := seeNode now s.db nodeId }
  | .acknowledge now alertId => commitOrRollback s (acknowledgeAlert now s alertId)
  | .check clock => commitOrRollback s (checkStep cfg fl clock s)

end Service

end PureBoot.Health
