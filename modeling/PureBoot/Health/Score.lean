/-
  PureBoot.Health.Score — the SCORE of a node, from its calculation to what is shown of it.

  Embeds `update_node_health` and `create_snapshot` of `core/health_service.py`, and
  `get_node_health` of `routes/health.py`.  Here the floating-point expressions of the
  service are evaluated exactly.

  A node is charged for its age, its failed installs and its boots, each in proportion and
  at most with the weight that is set for it; a node that is worse off is never charged
  less, so that its score is never better.  But the two places that pass a stored score on
  take one of 0 for a missing one, and show a node that has used up all its points as one
  that has them all.

  Main results:
    * `calculateHealthScore_eq` — a score is what the charges leave of 100 points;
    * `charged_mono` — a node that is worse off is charged at least as much;
    * `score_shown_iff` — the pairs of nodes for which the worse one is never shown better.
-/
import PureBoot.Health.Service
import PureBoot.Storage.Throttler

namespace PureBoot.Health

open PureBoot.Lib PureBoot.Lifecycle
open PureBoot.Storage (truncate truncate_intCast truncate_mono)

/-! ## §1. Stored and shown scores. -/

/-- `HEALTH_STATUSES`. -/
def HealthStatus.name : HealthStatus → String
  | healthy => "healthy"
  | stale => "stale"
  | offline => "offline"
  | unknown => "unknown"

/-- A row of `nodes` with its health columns. -/
structure MonitoredNode where
  node : Node
  healthStatus : String := "unknown"
  healthScore : Int := 100
  deriving DecidableEq, Repr

/-- `db/models.py: NodeHealthSnapshot`, as far as a snapshot is given its columns. -/
structure NodeHealthSnapshot where
  nodeId : String
  healthStatus : String
  healthScore : Int
  lastSeenSecondsAgo : Int
  bootCount : Nat
  installAttempts : Int
  ipAddress : Option String
  deriving DecidableEq, Repr

/-- `NodeHealthDetailResponse`; an alert comes with the name of its node. -/
structure NodeHealthDetail where
  nodeId : String
  healthStatus : String
  healthScore : Int
  scoreBreakdown : ScoreBreakdown
  lastSeenAt : Option Timestamp
  bootCount : Nat
  installAttempts : Int
  lastBootAt : Option Timestamp
  lastIpChangeAt : Option Timestamp
  previousIpAddress : Option String
  activeAlerts : List (HealthAlert × String)
  deriving DecidableEq, Repr

/-- `status or "unknown"`. -/
def statusOrUnknown (status : String) : String := if status = "" then "unknown" else status

/-- `score or 100`. -/
def scoreOr100 (score : Int) : Int := if score = 0 then 100 else score

structure MonitorDb where
  nodes : Table (fun m : MonitoredNode => m.node.id)
  snapshots : List NodeHealthSnapshot := []
  alerts : List HealthAlert := []

section Service

variable (cfg : HealthSettings) (fl : HealthFloats)

/-- `update_node_health`. -/
def updateNodeHealth (clock : NodeClock) (m : MonitoredNode) :
    Except Exn ((HealthStatus × Int) × MonitoredNode) := do
  let newStatus := determineHealthStatus cfg fl clock.statusAt m.node
  let (newScore, _) ← calculateHealthScore cfg fl clock.scoreAt m.node
  .ok ((newStatus, newScore),
    { m with healthStatus := newStatus.name, healthScore := newScore })

/-- `create_snapshot`. -/
def createSnapshot (now : Timestamp) (m : MonitoredNode) : NodeHealthSnapshot where
  nodeId := m.node.id
  healthStatus := statusOrUnknown m.healthStatus
  healthScore := scoreOr100 m.healthScore
  lastSeenSecondsAgo :=
    match m.node.lastSeenAt with
    | none => 0
    | some lastSeen => truncate (elapsed now lastSeen / 1000000)
  bootCount := m.node.bootCount
  installAttempts := m.node.installAttempts
  ipAddress := m.node.ipAddress

/-- A node is updated, and a snapshot of it is taken. -/
def recordHealth (clock : NodeClock) (snapshotAt : Timestamp) (db : MonitorDb)
    (m : MonitoredNode) : Except Exn MonitorDb := do
  let (_, m') ← updateNodeHealth cfg fl clock m
  .ok { db with
        nodes := db.nodes.put m', snapshots := db.snapshots ++ [createSnapshot snapshotAt m'] }

/-- `get_node_health`; the newest alerts come first. -/
def getNodeHealth (now : Timestamp) (db : MonitorDb) (nodeId : String) :
    Except Exn NodeHealthDetail :=
  match db.nodes.get? nodeId with
  | none => .error (.http 404 "Node not found")
  | some m => do
      let (_, breakdown) ← calculateHealthScore cfg fl now m.node
      let alerts := (db.alerts.filter
        (fun a => a.nodeId = nodeId && a.status = .active)).reverse
      .ok
        { nodeId := m.node.id
          healthStatus := statusOrUnknown m.healthStatus
          healthScore := scoreOr100 m.healthScore
          scoreBreakdown := breakdown
          lastSeenAt := m.node.lastSeenAt
          bootCount := m.node.bootCount
          installAttempts := m.node.installAttempts
          lastBootAt := m.node.lastBootAt
          lastIpChangeAt := m.node.lastIpChangeAt
          previousIpAddress := m.node.previousIpAddress
          activeAlerts := alerts.map (fun a => (a, nodeName m.node)) }

end Service

/-! ## §2. Charges. -/

/-- What is charged of a weight for a part of it, the whole for more than one. -/
def charge (part : ℚ) (weight : Int) : Int := truncate (min part 1 * weight)

theorem charge_mono {p q : ℚ} {weight : Int} (hweight : 0 ≤ weight) (h : p ≤ q) :
    charge p weight ≤ charge q weight :=
  truncate_mono (mul_le_mul_of_nonneg_right (min_le_min_right 1 h) (by exact_mod_cast hweight))

theorem charge_one (weight : Int) : charge 1 weight = weight := by
  unfold charge
  rw [min_self, one_mul, truncate_intCast]

/-- Nothing is charged for no part. -/
theorem charge_zero (weight : Int) : charge 0 weight = 0 := by
  unfold charge
  rw [min_eq_left zero_le_one, zero_mul]
  exact truncate_intCast 0

theorem charge_le {p : ℚ} {weight : Int} (hweight : 0 ≤ weight) : charge p weight ≤ weight := by
  have h : truncate (min p 1 * weight) ≤ truncate (1 * weight) :=
    truncate_mono (mul_le_mul_of_nonneg_right (min_le_right p 1) (by exact_mod_cast hweight))
  rwa [one_mul, truncate_intCast] at h

/-- The expressions of the service, over the rationals. -/
def rationalFloats : HealthFloats where
  minutesAtMost micros threshold := decide ((micros : ℚ) / 1000000 / 60 ≤ threshold)
  stalenessPenalty micros threshold weight :=
    charge ((micros : ℚ) / 1000000 / 60 / threshold) weight
  ratioPenalty n d weight := charge ((n : ℚ) / d) weight

variable {cfg : HealthSettings} {now : Timestamp} {a b : Node}

/-- The part of its time that a node has been away; all of it if it was never seen. -/
def agePart (cfg : HealthSettings) (now : Timestamp) : Option Timestamp → ℚ
  | none => 1
  | some lastSeen => (elapsed now lastSeen : ℚ) / 1000000 / 60 / cfg.offlineThresholdMinutes

/-- What a node is charged for its age, its failed installs and the boots over ten. -/
def charged (cfg : HealthSettings) (now : Timestamp) (node : Node) : Int :=
  charge (agePart cfg now node.lastSeenAt) cfg.scoreStalenessWeight
    + charge ((max node.installAttempts 0 : Int) / 5) cfg.scoreInstallFailuresWeight
    + charge ((node.bootCount - 10 : Nat) / 20) cfg.scoreBootStabilityWeight

theorem stalenessScore_exact (hthreshold : 0 < cfg.offlineThresholdMinutes) (node : Node) :
    stalenessScore cfg rationalFloats now node
      = .ok (-charge (agePart cfg now node.lastSeenAt) cfg.scoreStalenessWeight) := by
  unfold stalenessScore
  cases node.lastSeenAt with
  | none => rw [agePart, charge_one]
  | some lastSeen => exact if_neg hthreshold.ne'

/-- Without a failed install nothing is charged for one. -/
theorem installFailures_exact (node : Node) :
    (if 0 < node.installAttempts then
        -rationalFloats.ratioPenalty node.installAttempts 5 cfg.scoreInstallFailuresWeight else 0)
      = -charge ((max node.installAttempts 0 : Int) / 5) cfg.scoreInstallFailuresWeight := by
  by_cases h : 0 < node.installAttempts
  · rw [if_pos h, max_eq_left h.le]
    simp [rationalFloats]
  · rw [if_neg h, max_eq_right (not_lt.mp h), Int.cast_zero, zero_div, charge_zero, neg_zero]

/-- The first ten boots are free. -/
theorem bootStability_exact (node : Node) :
    (if 10 < node.bootCount then
        -rationalFloats.ratioPenalty (node.bootCount - 10) 20 cfg.scoreBootStabilityWeight else 0)
      = -charge ((node.bootCount - 10 : Nat) / 20) cfg.scoreBootStabilityWeight := by
  by_cases h : 10 < node.bootCount
  · rw [if_pos h]
    simp [rationalFloats, Nat.cast_sub h.le]
  · rw [if_neg h, Nat.sub_eq_zero_of_le (not_lt.mp h), Nat.cast_zero, zero_div, charge_zero,
      neg_zero]

/-- **THE SCORE** is what the charges leave of 100 points. -/
theorem calculateHealthScore_eq (hthreshold : 0 < cfg.offlineThresholdMinutes)
    (now : Timestamp) (node : Node) :
    ∃ breakdown, calculateHealthScore cfg rationalFloats now node
      = .ok (max 0 (min 100 (100 - charged cfg now node)), breakdown) := by
  have hsum : ∀ x y z : Int, 100 + (-x + -y + -z) = 100 - (x + y + z) := by
    intro x y z
    omega
  unfold calculateHealthScore charged
  rw [stalenessScore_exact hthreshold, installFailures_exact, bootStability_exact, ← hsum]
  exact ⟨_, rfl⟩

/-- `a` was seen no later than `b`; a node that was never seen is the worst. -/
def SeenNoLater : Option Timestamp → Option Timestamp → Prop
  | none, _ => True
  | some _, none => False
  | some s, some t => s.micros ≤ t.micros

/-- `a` is no better off than `b`. -/
structure WorseOff (a b : Node) : Prop where
  seen : SeenNoLater a.lastSeenAt b.lastSeenAt
  attempts : b.installAttempts ≤ a.installAttempts
  boots : b.bootCount ≤ a.bootCount

/-- Weights that are not negative, and a threshold that is positive. -/
structure Weighted (cfg : HealthSettings) : Prop where
  staleness : 0 ≤ cfg.scoreStalenessWeight
  installFailures : 0 ≤ cfg.scoreInstallFailuresWeight
  bootStability : 0 ≤ cfg.scoreBootStabilityWeight
  offlineThreshold : 0 < cfg.offlineThresholdMinutes

theorem age_charge_mono (hcfg : Weighted cfg) (now : Timestamp) {s t : Option Timestamp}
    (h : SeenNoLater s t) :
    charge (agePart cfg now t) cfg.scoreStalenessWeight
      ≤ charge (agePart cfg now s) cfg.scoreStalenessWeight := by
  match s, t, h with
  | none, t, _ =>
      rw [show agePart cfg now none = 1 from rfl, charge_one]
      exact charge_le hcfg.staleness
  | some s, some t, h =>
      have hthreshold : (0 : ℚ) ≤ cfg.offlineThresholdMinutes := by
        exact_mod_cast hcfg.offlineThreshold.le
      have helapsed : (elapsed now t : ℚ) ≤ elapsed now s := by
        exact_mod_cast Int.sub_le_sub_left h now.micros
      refine charge_mono hcfg.staleness ?_
      exact div_le_div_of_nonneg_right (div_le_div_of_nonneg_right
        (div_le_div_of_nonneg_right helapsed (by norm_num)) (by norm_num)) hthreshold

/-- **WORSE OFF, CHARGED NO LESS.** -/
theorem charged_mono (hcfg : Weighted cfg) (h : WorseOff a b) :
    charged cfg now b ≤ charged cfg now a := by
  have hage := age_charge_mono hcfg now h.seen
  have hinstall : charge ((max b.installAttempts 0 : Int) / 5) cfg.scoreInstallFailuresWeight
      ≤ charge ((max a.installAttempts 0 : Int) / 5) cfg.scoreInstallFailuresWeight := by
    refine charge_mono hcfg.installFailures (div_le_div_of_nonneg_right ?_ (by norm_num))
    exact_mod_cast max_le_max_right 0 h.attempts
  have hboots : charge ((b.bootCount - 10 : Nat) / 20) cfg.scoreBootStabilityWeight
      ≤ charge ((a.bootCount - 10 : Nat) / 20) cfg.scoreBootStabilityWeight := by
    refine charge_mono hcfg.bootStability (div_le_div_of_nonneg_right ?_ (by norm_num))
    exact_mod_cast Nat.sub_le_sub_right h.boots 10
  exact Int.add_le_add (Int.add_le_add hage hinstall) hboots

/-! ## §3. Recorded and shown scores. -/

/-- A node is charged for all its points. -/
def UsedUp (cfg : HealthSettings) (now : Timestamp) (node : Node) : Prop :=
  100 ≤ charged cfg now node

/-- A node is charged for nothing. -/
def Unmarked (cfg : HealthSettings) (now : Timestamp) (node : Node) : Prop :=
  charged cfg now node ≤ 0

/-- A score on the scale, and no better than another. -/
def NoBetter (x y : Int) : Prop := 0 ≤ x ∧ x ≤ 100 ∧ x ≤ y

/-- The score that the charges leave. -/
def scoreOf (cfg : HealthSettings) (now : Timestamp) (node : Node) : Int :=
  max 0 (min 100 (100 - charged cfg now node))

theorem scoreOf_noBetter (h : charged cfg now b ≤ charged cfg now a) :
    NoBetter (scoreOf cfg now a) (scoreOf cfg now b) := by
  unfold NoBetter scoreOf
  omega

/-- Only a score of 0 can be passed on as a better one. -/
theorem scoreOr100_noBetter_iff (h : charged cfg now b ≤ charged cfg now a) :
    NoBetter (scoreOr100 (scoreOf cfg now a)) (scoreOr100 (scoreOf cfg now b)) ↔
      ¬ UsedUp cfg now a ∨ UsedUp cfg now b ∨ Unmarked cfg now b := by
  unfold NoBetter scoreOr100 scoreOf UsedUp Unmarked
  split_ifs <;> omega

/-- The row of `m` with its new status and score. -/
def updated (cfg : HealthSettings) (clock : NodeClock) (m : MonitoredNode) : MonitoredNode :=
  { m with
    healthStatus := (determineHealthStatus cfg rationalFloats clock.statusAt m.node).name
    healthScore := scoreOf cfg clock.scoreAt m.node }

/-- The database with that row and a snapshot of it. -/
def recorded (cfg : HealthSettings) (clock : NodeClock) (snapshotAt : Timestamp) (db : MonitorDb)
    (m : MonitoredNode) : MonitorDb where
  nodes := db.nodes.put (updated cfg clock m)
  snapshots := db.snapshots ++ [createSnapshot snapshotAt (updated cfg clock m)]
  alerts := db.alerts

theorem recordHealth_eq (hthreshold : 0 < cfg.offlineThresholdMinutes) (clock : NodeClock)
    (snapshotAt : Timestamp) (db : MonitorDb) (m : MonitoredNode) :
    recordHealth cfg rationalFloats clock snapshotAt db m
      = .ok (recorded cfg clock snapshotAt db m) := by
  obtain ⟨breakdown, hscore⟩ := calculateHealthScore_eq hthreshold clock.scoreAt m.node
  unfold recordHealth updateNodeHealth
  rw [hscore]
  rfl

theorem getNodeHealth_eq (hthreshold : 0 < cfg.offlineThresholdMinutes) (later : Timestamp)
    {db : MonitorDb} {nodeId : String} {m : MonitoredNode} (h : db.nodes.get? nodeId = some m) :
    ∃ d, getNodeHealth cfg rationalFloats later db nodeId = .ok d ∧
      d.healthScore = scoreOr100 m.healthScore := by
  obtain ⟨breakdown, hscore⟩ := calculateHealthScore_eq hthreshold later m.node
  unfold getNodeHealth
  rw [h]
  dsimp only
  rw [hscore]
  exact ⟨_, rfl, rfl⟩

/-- One reading of the clock for all of an update. -/
def clockAt (now : Timestamp) : NodeClock := ⟨now, now, now⟩

/-- Two nodes are updated and recorded at one time, and then asked for: the first one's score
is on the scale and no better than the other's, as calculated, as recorded and as shown. -/
def ShownNoBetter (cfg : HealthSettings) (now snapshotAt later : Timestamp) (db : MonitorDb)
    (a b : MonitoredNode) : Prop :=
  ∃ scoreA breakdownA scoreB breakdownB db₁ db₂ snapshotA snapshotB detailA detailB,
    calculateHealthScore cfg rationalFloats now a.node = .ok (scoreA, breakdownA) ∧
    calculateHealthScore cfg rationalFloats now b.node = .ok (scoreB, breakdownB) ∧
    recordHealth cfg rationalFloats (clockAt now) snapshotAt db a = .ok db₁ ∧
    recordHealth cfg rationalFloats (clockAt now) snapshotAt db₁ b = .ok db₂ ∧
    db₂.snapshots = db.snapshots ++ [snapshotA, snapshotB] ∧
    getNodeHealth cfg rationalFloats later db₂ a.node.id = .ok detailA ∧
    getNodeHealth cfg rationalFloats later db₂ b.node.id = .ok detailB ∧
    NoBetter scoreA scoreB ∧ NoBetter snapshotA.healthScore snapshotB.healthScore ∧
    NoBetter detailA.healthScore detailB.healthScore

/-- Both rows are found with their new scores. -/
theorem get?_recorded (cfg : HealthSettings) {db : MonitorDb} {a b : MonitoredNode}
    (ha : a ∈ db.nodes.rows) (hb : b ∈ db.nodes.rows) (clock : NodeClock) (snapshotAt : Timestamp) :
    let db₂ := recorded cfg clock snapshotAt (recorded cfg clock snapshotAt db a) b
    db₂.nodes.get? a.node.id = some (updated cfg clock a) ∧
      db₂.nodes.get? b.node.id = some (updated cfg clock b) := by
  intro db₂
  have ha' : updated cfg clock a ∈ (db.nodes.put (updated cfg clock a)).rows :=
    Table.mem_put_self ha rfl
  have hb' : ∃ y ∈ (db.nodes.put (updated cfg clock a)).rows,
      y.node.id = (updated cfg clock b).node.id := by
    by_cases hid : b.node.id = a.node.id
    · exact ⟨_, ha', hid.symm⟩
    · exact ⟨b, Table.mem_put_of_ne hb hid, rfl⟩
  obtain ⟨y, hy, hyid⟩ := hb'
  have hgetB : db₂.nodes.get? b.node.id = some (updated cfg clock b) :=
    Table.get?_eq_some_iff.mpr ⟨Table.mem_put_self hy hyid, rfl⟩
  refine ⟨?_, hgetB⟩
  by_cases hid : a.node.id = b.node.id
  · rw [hid, hgetB, db.nodes.eq_of_key_eq ha hb hid]
  · exact Table.get?_eq_some_iff.mpr ⟨Table.mem_put_of_ne ha' hid, rfl⟩

/-- **WHAT IS RECORDED AND SHOWN** are the scores that the charges leave, with 100 for 0. -/
theorem shownNoBetter_iff_scores (hthreshold : 0 < cfg.offlineThresholdMinutes)
    {db : MonitorDb} {a b : MonitoredNode} (ha : a ∈ db.nodes.rows) (hb : b ∈ db.nodes.rows)
    (now snapshotAt later : Timestamp) :
    ShownNoBetter cfg now snapshotAt later db a b ↔
      NoBetter (scoreOf cfg now a.node) (scoreOf cfg now b.node) ∧
        NoBetter (scoreOr100 (scoreOf cfg now a.node)) (scoreOr100 (scoreOf cfg now b.node)) := by
  obtain ⟨breakdownA, hscoreA⟩ := calculateHealthScore_eq hthreshold now a.node
  obtain ⟨breakdownB, hscoreB⟩ := calculateHealthScore_eq hthreshold now b.node
  have hrecord := recordHealth_eq hthreshold (clockAt now) snapshotAt
  obtain ⟨hgetA, hgetB⟩ := get?_recorded cfg ha hb (clockAt now) snapshotAt
  obtain ⟨detailA, hdetailA, hshownA⟩ := getNodeHealth_eq hthreshold later hgetA
  obtain ⟨detailB, hdetailB, hshownB⟩ := getNodeHealth_eq hthreshold later hgetB
  constructor
  · rintro ⟨scoreA, _, scoreB, _, db₁, db₂, snapshotA, snapshotB, detailA', detailB',
      hA, hB, hdb₁, hdb₂, -, hA', hB', hscores, -, hdetails⟩
    obtain ⟨rfl, -⟩ := Prod.mk.inj (Except.ok.inj (hA.symm.trans hscoreA))
    obtain ⟨rfl, -⟩ := Prod.mk.inj (Except.ok.inj (hB.symm.trans hscoreB))
    obtain rfl := Except.ok.inj (hdb₁.symm.trans (hrecord db a))
    obtain rfl := Except.ok.inj (hdb₂.symm.trans (hrecord _ b))
    obtain rfl := Except.ok.inj (hA'.symm.trans hdetailA)
    obtain rfl := Except.ok.inj (hB'.symm.trans hdetailB)
    rw [hshownA, hshownB] at hdetails
    exact ⟨hscores, hdetails⟩
  · rintro ⟨hscores, hpassed⟩
    refine ⟨_, _, _, _, _, _, createSnapshot snapshotAt (updated cfg (clockAt now) a),
      createSnapshot snapshotAt (updated cfg (clockAt now) b), detailA, detailB, hscoreA, hscoreB,
      hrecord db a, hrecord _ b, List.append_assoc .., hdetailA, hdetailB, hscores, hpassed, ?_⟩
    rw [hshownA, hshownB]
    exact hpassed

/-- **THE WORSE NODE IS NOT SHOWN BETTER** exactly if it has points left, or the other one
has used up all of its own or has lost none. -/
theorem score_shown_iff (hcfg : Weighted cfg) {db : MonitorDb} {a b : MonitoredNode}
    (ha : a ∈ db.nodes.rows) (hb : b ∈ db.nodes.rows) (hworse : WorseOff a.node b.node)
    (now snapshotAt later : Timestamp) :
    ShownNoBetter cfg now snapshotAt later db a b ↔
      ¬ UsedUp cfg now a.node ∨ UsedUp cfg now b.node ∨ Unmarked cfg now b.node := by
  have hcharged : charged cfg now b.node ≤ charged cfg now a.node := charged_mono hcfg hworse
  rw [shownNoBetter_iff_scores hcfg.offlineThreshold ha hb,
    and_iff_right (scoreOf_noBetter hcharged)]
  exact scoreOr100_noBetter_iff hcharged

/-- All points go for the time that a node is away. -/
def awayOnly : HealthSettings :=
  { scoreStalenessWeight := 100, scoreInstallFailuresWeight := 0, scoreBootStabilityWeight := 0 }

theorem awayOnly_weighted : Weighted awayOnly := by
  constructor <;> decide

/-- A node that never booted, and one that was last seen at 0. -/
def neverSeen : MonitoredNode := { node := { id := "1", macAddress := "aa:aa:aa:aa:aa:01" } }

def seenOnce : MonitoredNode :=
  { node := { id := "2", macAddress := "aa:aa:aa:aa:aa:02", lastSeenAt := some ⟨0, false⟩ } }

theorem twoNodes_nodup : ([neverSeen, seenOnce].map (fun m => m.node.id)).Nodup := by
  decide

def twoNodes : MonitorDb := { nodes := ⟨[neverSeen, seenOnce], twoNodes_nodup⟩ }

theorem neverSeen_worseOff : WorseOff neverSeen.node seenOnce.node :=
  ⟨trivial, le_refl _, le_refl _⟩

/-- After half an hour. -/
def halfPast : Timestamp := ⟨1800000000, true⟩

theorem score_shown_neverSeen :
    ShownNoBetter awayOnly halfPast halfPast halfPast twoNodes neverSeen seenOnce ↔
      ¬ UsedUp awayOnly halfPast neverSeen.node ∨ UsedUp awayOnly halfPast seenOnce.node
        ∨ Unmarked awayOnly halfPast seenOnce.node :=
  score_shown_iff awayOnly_weighted (by decide) (by decide) neverSeen_worseOff _ _ _

/-- The node that never booted is left no points, and shown with 100; the other with 50. -/
theorem neverSeen_shown_better :
    ¬ ∀ (cfg : HealthSettings) (now snapshotAt later : Timestamp) (db : MonitorDb)
      (a b : MonitoredNode), Weighted cfg → a ∈ db.nodes.rows → b ∈ db.nodes.rows →
      WorseOff a.node b.node → ShownNoBetter cfg now snapshotAt later db a b := by
  intro h
  have hshown := h awayOnly halfPast halfPast halfPast twoNodes neverSeen seenOnce
    awayOnly_weighted (by decide) (by decide) neverSeen_worseOff
  rw [shownNoBetter_iff_scores (by decide) (by decide) (by decide)] at hshown
  obtain ⟨-, -, -, hle⟩ := hshown
  have hnever : scoreOf awayOnly halfPast neverSeen.node = 0 := by decide +kernel
  have honce : scoreOf awayOnly halfPast seenOnce.node = 50 := by decide +kernel
  rw [hnever, honce] at hle
  exact absurd hle (by decide)

end PureBoot.Health
