/-
  PureBoot.Lifecycle.Reports — the LEGACY install reports and the events.

  `report_node_status` has two handlers for the progress of an installation: one for events,
  one for the older `installation_status`.  Their branches are cut differently, and they fill
  the event row differently; what they do to the node and to its audit rows is the same.

  Main results:
    * `handleLegacy_effect` — one report;
    * `legacy_reports_equivalent` — sequences of reports.
-/
import PureBoot.Lifecycle.AuditChain

namespace PureBoot.Lifecycle

open PureBoot.Lib

/-! ## §1. What a report leaves behind. -/

/-- The node and the event type of an event row. -/
def NodeEvent.typed (e : NodeEvent) : String × EventType :=
  (e.nodeId, e.eventType)

/-- The effect of a handler: the node, the audit rows, and the types of the events. -/
def NodeWrite.effect (w : NodeWrite) : Node × List NodeStateLog × List (String × EventType) :=
  (w.node, w.logs, w.events.map NodeEvent.typed)

/-- The fields of a report that both handlers read through `report_node_status`. -/
def NodeReport.facts (r : NodeReport) : List (Option String) :=
  [some r.macAddress, r.ipAddress, r.hostname, r.vendor, r.model, r.serialNumber, r.systemUuid]

/-- `r'` is the report `r`, or the event that stands for the legacy report `r`: the same facts
and error text, no message, and anything in the fields only one of the handlers reads. -/
inductive Replaces (r : NodeReport) : NodeReport → Prop
  | same : Replaces r r
  | event {r' : NodeReport} (status : InstallationStatus) : r.event = none →
      r.installationStatus = some status → r'.event = some status.event → r'.message = none →
      r'.installationError = r.installationError → r'.facts = r.facts → Replaces r r'

/-! ## §2. One report. -/

/-- **ONE REPORT**: the event has the effect of the legacy status. -/
theorem handleLegacy_effect {r r' : NodeReport} (hmessage : r'.message = none)
    (herror : r'.installationError = r.installationError) (now : Timestamp) (node : Node)
    (status : InstallationStatus) (clientIp : Option String) :
    (handleEvent now node r' status.event clientIp).map NodeWrite.effect
      = (handleLegacyInstallationStatus now node r status clientIp).map NodeWrite.effect := by
  unfold handleEvent handleLegacyInstallationStatus InstallationStatus.event
  cases status with
  | started =>
      by_cases hstate : node.state = .pending
      · rw [if_pos ⟨rfl, hstate⟩]
        dsimp only
        rw [if_pos hstate]
        cases transition now node .installing .nodeReport none [] false <;> rfl
      · simp [hstate, NodeWrite.effect, NodeEvent.typed, Except.map]
  | progress => simp [NodeWrite.effect, NodeEvent.typed, Except.map]
  | complete =>
      by_cases hstate : node.state = .installing
      · simp only [hstate]
        cases transition now node .installed .nodeReport none [] false <;> rfl
      · simp [hstate, NodeWrite.effect, NodeEvent.typed, Except.map]
  | failed =>
      -- without a message the event passes on the error text
      have htext : orKeep r'.message r'.installationError = r.installationError := by
        rw [hmessage, herror]
        rfl
      by_cases hstate : node.state = .installing
      · simp only [hstate, htext]
        cases handleInstallFailure now node (.ofText r.installationError) <;> rfl
      · simp [hstate, NodeWrite.effect, NodeEvent.typed, Except.map]

/-! ## §3. Sequences of reports. -/

/-- Two databases with the same nodes and audit rows, and with events of the same types. -/
structure SameInstall (db db' : DB) : Prop where
  nodes : db'.nodes = db.nodes
  logs : db'.logs = db.logs
  events : db'.events.map NodeEvent.typed = db.events.map NodeEvent.typed

/-- The same report at the same time from the same client, or the event for it. -/
inductive ReplacesRequest : Request → Request → Prop
  | report {r r' : NodeReport} (now : Timestamp) (clientHost : Option String) :
      Replaces r r' → ReplacesRequest ⟨now, .reportNodeStatus r clientHost⟩
        ⟨now, .reportNodeStatus r' clientHost⟩

/-- What the endpoint does with the answer of a handler. -/
def saveWrite (db : DB) (w : Except Exn NodeWrite) : Except Exn (String × DB) := do
  let w ← w
  .ok (w.message, db.save w.node w.logs w.events)

section
variable {db db' : DB}

/-- Handlers with the same effect leave databases that are the same. -/
theorem SameInstall.saveWrite (hsame : SameInstall db db') {w w' : Except Exn NodeWrite}
    (heffect : w'.map NodeWrite.effect = w.map NodeWrite.effect) :
    SameInstall (commitOrRollback db (saveWrite db w))
      (commitOrRollback db' (Lifecycle.saveWrite db' w')) := by
  cases w with
  | error e =>
      cases w' with
      | error e' => exact hsame
      | ok w' => cases heffect
  | ok w =>
      cases w' with
      | error e' => cases heffect
      | ok w' =>
          injection heffect with heffect
          injection heffect with hnode heffect
          injection heffect with hlogs hevents
          refine ⟨?_, ?_, ?_⟩
          · show db'.nodes.put w'.node = db.nodes.put w.node
            rw [hnode, hsame.nodes]
          · show db'.logs ++ w'.logs = db.logs ++ w.logs
            rw [hlogs, hsame.logs]
          · show (db'.events ++ w'.events).map _ = (db.events ++ w.events).map _
            rw [List.map_append, List.map_append, hevents, hsame.events]

/-- The node a report is about, with the fields it brings. -/
theorem touchReported_facts {r r' : NodeReport} (hfacts : r'.facts = r.facts) (now : Timestamp)
    (node : Node) : touchReported now node r' = touchReported now node r := by
  unfold NodeReport.facts at hfacts
  simp only [List.cons.injEq, Option.some.injEq, and_true] at hfacts
  obtain ⟨-, hip, hhostname, hvendor, hmodel, hserial, huuid⟩ := hfacts
  unfold touchReported
  rw [hip, hhostname, hvendor, hmodel, hserial, huuid]

/-- The handler `report_node_status` gives a report to, and what it returns. -/
def handleReport (now : Timestamp) (node : Node) (r : NodeReport) (clientIp : Option String) :
    Except Exn NodeWrite :=
  match r.event, r.installationStatus with
  | some event, _ => handleEvent now node r event clientIp
  | none, some status => handleLegacyInstallationStatus now node r status clientIp
  | none, none => .ok { message := "Status reported successfully", node, logs := [], events := [] }

/-- `report_node_status` for a node that is found, as one answer of one handler. -/
theorem reportNodeStatus_eq {node : Node} {r : NodeReport} (now : Timestamp)
    (clientHost : Option String) (hnode : db.nodeByMac r.macAddress = some node) :
    reportNodeStatus now db r clientHost
      = saveWrite db (handleReport now (touchReported now node r) r
          (clientHost.or r.ipAddress)) := by
  unfold reportNodeStatus handleReport
  rw [hnode]
  cases clientHost with
  | none =>
      cases r.event with
      | some event => rfl
      | none => cases r.installationStatus <;> rfl
  | some host =>
      cases r.event with
      | some event => rfl
      | none => cases r.installationStatus <;> rfl

/-- The event that stands for a report has its effect. -/
theorem Replaces.effect {r r' : NodeReport} (h : Replaces r r') (now : Timestamp) (node : Node)
    (clientIp : Option String) :
    (handleReport now node r' clientIp).map NodeWrite.effect
      = (handleReport now node r clientIp).map NodeWrite.effect := by
  cases h with
  | same => rfl
  | event status hevent hstatus hevent' hmessage herror hfacts =>
      unfold handleReport
      rw [hevent, hstatus, hevent']
      exact handleLegacy_effect hmessage herror now node status clientIp

theorem Replaces.facts_eq {r r' : NodeReport} (h : Replaces r r') : r'.facts = r.facts := by
  cases h with
  | same => rfl
  | event status hevent hstatus hevent' hmessage herror hfacts => exact hfacts

/-- **ONE STEP.** -/
theorem SameInstall.exec (env : Env) {req req' : Request} (hsame : SameInstall db db')
    (hreq : ReplacesRequest req req') :
    SameInstall (exec env db req) (Lifecycle.exec env db' req') := by
  cases hreq with
  | @report r r' now clientHost hreplaces =>
      obtain ⟨hmac, hip⟩ : r'.macAddress = r.macAddress ∧ r'.ipAddress = r.ipAddress := by
        have hfacts := hreplaces.facts_eq
        unfold NodeReport.facts at hfacts
        simp only [List.cons.injEq, Option.some.injEq] at hfacts
        exact ⟨hfacts.1, hfacts.2.1⟩
      have hfound : db'.nodeByMac r'.macAddress = db.nodeByMac r.macAddress := by
        unfold DB.nodeByMac
        rw [hsame.nodes, hmac]
      show SameInstall (commitOrRollback db (reportNodeStatus now db r clientHost))
        (commitOrRollback db' (reportNodeStatus now db' r' clientHost))
      cases hnode : db.nodeByMac r.macAddress with
      | none =>
          rw [hnode] at hfound
          unfold reportNodeStatus
          rw [hnode, hfound]
          exact hsame
      | some node =>
          rw [reportNodeStatus_eq now clientHost hnode,
            reportNodeStatus_eq now clientHost (hfound.trans hnode),
            touchReported_facts hreplaces.facts_eq, hip]
          exact hsame.saveWrite (hreplaces.effect now _ _)

end

/-- **LEGACY REPORTS AND EVENTS ARE EQUIVALENT**: after every report of a sequence the nodes and
the audit rows are the same, and so are the types of the events. -/
theorem legacy_reports_equivalent (env : Env) (db : DB) {reqs reqs' : List Request}
    (hreqs : List.Forall₂ ReplacesRequest reqs reqs') :
    List.Forall₂ SameInstall (reqs.scanl (exec env) db) (reqs'.scanl (exec env) db) :=
  lockstep (fun _ _ _ _ hsame hreq => hsame.exec env hreq) ⟨rfl, rfl, rfl⟩ hreqs

/-- A legacy report of a node. -/
def legacyReport (status : InstallationStatus) (error : Option String) : NodeReport where
  macAddress := "aa:bb:cc:dd:ee:ff"
  installationStatus := some status
  installationError := error

/-- The event for it. -/
def eventReport (status : InstallationStatus) (error : Option String) : NodeReport where
  macAddress := "aa:bb:cc:dd:ee:ff"
  event := some status.event
  installationError := error

def reportRequest (report : NodeReport) : Request :=
  ⟨⟨0, true⟩, .reportNodeStatus report none⟩

/-- A node whose installation fails once and is then completed. -/
def reportedDB : DB where
  nodes := ⟨[{ id := "1", macAddress := "aa:bb:cc:dd:ee:ff", state := .pending }], by decide⟩
  logs := []
  events := []
  sessions := Table.empty

theorem legacy_reports_equivalent_retry :
    List.Forall₂ SameInstall
      ([reportRequest (legacyReport .started none),
          reportRequest (legacyReport .failed (some "disk")),
          reportRequest (legacyReport .complete none)].scanl (exec sqliteEnv) reportedDB)
      ([reportRequest (eventReport .started none),
          reportRequest (eventReport .failed (some "disk")),
          reportRequest (eventReport .complete none)].scanl (exec sqliteEnv) reportedDB) := by
  have hreplaces : ∀ status error, ReplacesRequest (reportRequest (legacyReport status error))
      (reportRequest (eventReport status error)) := fun status error =>
    .report _ _ (.event status rfl rfl rfl rfl rfl rfl)
  exact legacy_reports_equivalent sqliteEnv reportedDB
    (.cons (hreplaces _ _) (.cons (hreplaces _ _) (.cons (hreplaces _ _) .nil)))

end PureBoot.Lifecycle
