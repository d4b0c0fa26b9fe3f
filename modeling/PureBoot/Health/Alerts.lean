/-
  PureBoot.Health.Alerts — the ALERTS that are open after a check, and the HEALTH of the nodes.

  The service looks for active alerts alone: an alert that was acknowledged is neither found
  when a condition is looked at again, nor resolved when it is gone; and a node that comes
  back from offline to stale keeps its offline alert.  Everything is said in numbers of
  alerts by node, type and status: one step of the loop sets the numbers of its node and
  leaves the others alone, and so the loop sets the numbers of all nodes.

  Main results:
    * `checkNodes_counts` — the numbers after a check;
    * `healthStep_inv` — never two active alerts of one type, none of a node never seen;
    * `health_alerts_iff` — the runs in which every check leaves the right alerts open.
-/
import PureBoot.Health.Service

namespace PureBoot.Health

open PureBoot.Lib PureBoot.Lifecycle

/-! ## §1. Numbers of alerts. -/

/-- How many alerts of this node and type are in this status. -/
def count (alerts : List HealthAlert) (nodeId : String) (t : AlertType) (status : AlertStatus) :
    Nat :=
  alerts.countP (fun a => a.is nodeId t status)

/-- How many are open: active or acknowledged. -/
def openCount (alerts : List HealthAlert) (nodeId : String) (t : AlertType) : Nat :=
  alerts.countP (fun a => a.nodeId = nodeId && a.alertType = t && a.status ≠ .resolved)

theorem openCount_eq (alerts : List HealthAlert) (nodeId : String) (t : AlertType) :
    openCount alerts nodeId t
      = count alerts nodeId t .active + count alerts nodeId t .acknowledged := by
  induction alerts with
  | nil => rfl
  | cons a alerts ih =>
      unfold openCount count at *
      rw [List.countP_cons, List.countP_cons, List.countP_cons, ih]
      unfold HealthAlert.is
      cases hstatus : a.status <;> by_cases hn : a.nodeId = nodeId <;>
        by_cases ht : a.alertType = t <;> simp [hn, ht] <;> omega

/-- The active alerts of one node and type become `k`, and no other number changes. -/
structure Sets (alerts alerts' : List HealthAlert) (nodeId : String) (t : AlertType) (k : Nat) :
    Prop where
  here : count alerts' nodeId t .active = k
  others : ∀ n u, ¬ (n = nodeId ∧ u = t) → count alerts' n u .active = count alerts n u .active
  acknowledged : ∀ n u, count alerts' n u .acknowledged = count alerts n u .acknowledged

theorem Sets.refl {alerts : List HealthAlert} {nodeId : String} {t : AlertType} {k : Nat}
    (h : count alerts nodeId t .active = k) : Sets alerts alerts nodeId t k :=
  ⟨h, fun _ _ _ => rfl, fun _ _ => rfl⟩

/-- The query of the service returns as long as it finds at most one alert. -/
theorem scalarOneOrNone_active {alerts : List HealthAlert} {nodeId : String} {t : AlertType}
    (h : count alerts nodeId t .active ≤ 1) :
    ∃ row, scalarOneOrNone (alerts.filter (fun a => a.is nodeId t .active)) = .ok row ∧
      (row = none → count alerts nodeId t .active = 0) ∧
      (row ≠ none → count alerts nodeId t .active = 1) := by
  unfold count at *
  rw [List.countP_eq_length_filter] at *
  cases hrows : alerts.filter (fun a => a.is nodeId t .active) with
  | nil => exact ⟨none, rfl, by simp⟩
  | cons a rest =>
      rw [hrows] at h
      cases rest with
      | nil => exact ⟨some a, rfl, by simp⟩
      | cons b rest => simp at h

theorem createAlertIfNew_sets {alerts : List HealthAlert} {nodeId : String} {t : AlertType}
    (message : String) (h : count alerts nodeId t .active ≤ 1) :
    ∃ new alerts', createAlertIfNew alerts nodeId t message = .ok (new, alerts') ∧
      Sets alerts alerts' nodeId t 1 := by
  obtain ⟨row, hrow, hnone, hsome⟩ := scalarOneOrNone_active h
  unfold createAlertIfNew
  rw [hrow]
  by_cases hr : row = none
  · refine ⟨_, _, if_neg (not_not.mpr hr), ?_, ?_, ?_⟩
    · have hzero : alerts.countP (fun a => a.is nodeId t .active) = 0 := hnone hr
      unfold count
      rw [List.countP_append, hzero, List.countP_singleton, if_pos (by simp [HealthAlert.is])]
    · intro n u hne
      unfold count
      simp only [List.countP_append, List.countP_singleton, HealthAlert.is]
      rw [if_neg]
      · rfl
      · simp only [Bool.and_eq_true, decide_eq_true_eq]
        rintro ⟨⟨hn, hu⟩, -⟩
        exact hne ⟨hn.symm, hu.symm⟩
    · intro n u
      unfold count
      simp [List.countP_append, HealthAlert.is]
  · exact ⟨_, _, if_pos hr, .refl (hsome hr)⟩

theorem resolveAlert_sets {alerts : List HealthAlert} {nodeId : String} {t : AlertType}
    (now : Timestamp) (h : count alerts nodeId t .active ≤ 1) :
    ∃ found alerts', resolveAlert now alerts nodeId t = .ok (found, alerts') ∧
      Sets alerts alerts' nodeId t 0 := by
  obtain ⟨row, hrow, hnone, -⟩ := scalarOneOrNone_active h
  unfold resolveAlert
  rw [hrow]
  by_cases hr : row = none
  · exact ⟨_, _, if_pos hr, .refl (hnone hr)⟩
  -- an alert is rewritten only where it is active, of this node and type
  have hmap : ∀ n u status, status ≠ .resolved →
      count (alerts.map (fun a => if a.is nodeId t .active
          then { a with status := .resolved, resolvedAt := some now } else a)) n u status
        = alerts.countP (fun a => a.is n u status && !a.is nodeId t .active) := by
    intro n u status hstatus
    unfold count
    rw [List.countP_map]
    congr 1
    funext a
    rw [Function.comp_apply]
    by_cases ha : a.is nodeId t .active = true
    · rw [if_pos ha, ha]
      simp [HealthAlert.is, Ne.symm hstatus]
    · simp [ha]
  refine ⟨_, _, if_neg hr, ?_, ?_, ?_⟩
  · rw [hmap _ _ _ (by decide), List.countP_eq_zero]
    simp
  · intro n u hne
    rw [hmap _ _ _ (by decide)]
    refine List.countP_congr (fun a _ => ?_)
    simp only [HealthAlert.is, Bool.and_eq_true, decide_eq_true_eq, Bool.not_eq_true',
      Bool.and_eq_false_iff, decide_eq_false_iff_not]
    grind
  · intro n u
    rw [hmap _ _ _ (by decide)]
    refine List.countP_congr (fun a _ => ?_)
    simp only [HealthAlert.is, Bool.and_eq_true, decide_eq_true_eq, Bool.not_eq_true',
      Bool.and_eq_false_iff, decide_eq_false_iff_not]
    grind

/-! ## §2. One node. -/

section Check

variable {cfg : HealthSettings} {fl : HealthFloats}

/-- Stale, offline and score alerts are all on. -/
def HealthSettings.alertsEnabled (cfg : HealthSettings) : Bool :=
  cfg.alertOnStale && cfg.alertOnOffline && decide (0 < cfg.alertOnScoreBelow)

/-- How many alerts of a type are active once the node was checked. -/
def settled (status : HealthStatus) (low : Bool) (t : AlertType) (old : Nat) : Nat :=
  match t, status with
  | .nodeStale, .stale => 1
  | .nodeStale, .unknown => old
  | .nodeStale, _ => 0
  | .nodeOffline, .offline => 1
  | .nodeOffline, .healthy => 0
  | .nodeOffline, _ => old
  | .lowHealthScore, _ => if low then 1 else 0

theorem settled_le_one {status : HealthStatus} {low : Bool} {t : AlertType} {old : Nat}
    (h : old ≤ 1) : settled status low t old ≤ 1 := by
  cases t <;> cases status <;> cases low <;> simp [settled] <;> omega

/-- The numbers after the check of one node. -/
structure Checked (alerts alerts' : List HealthAlert) (nodeId : String)
    (want : AlertType → Nat → Nat) : Prop where
  here : ∀ t, count alerts' nodeId t .active = want t (count alerts nodeId t .active)
  others : ∀ n, n ≠ nodeId → ∀ t, count alerts' n t .active = count alerts n t .active
  acknowledged : ∀ n t, count alerts' n t .acknowledged = count alerts n t .acknowledged

/-- Nothing is set. -/
theorem Checked.refl (alerts : List HealthAlert) (nodeId : String) :
    Checked alerts alerts nodeId (fun _ old => old) where
  here := fun _ => rfl
  others := fun _ _ _ => rfl
  acknowledged := fun _ _ => rfl

/-- One more type of the node is set. -/
theorem Checked.set {alerts alerts₁ alerts₂ : List HealthAlert} {nodeId : String}
    {want : AlertType → Nat → Nat} {u : AlertType} {l : Nat}
    (h : Checked alerts alerts₁ nodeId want) (h' : Sets alerts₁ alerts₂ nodeId u l) :
    Checked alerts alerts₂ nodeId (fun v old => if v = u then l else want v old) where
  here := by
    intro v
    by_cases hu : v = u
    · rw [if_pos hu, hu]
      exact h'.here
    · rw [if_neg hu, h'.others nodeId v (fun hv => hu hv.2)]
      exact h.here v
  others := fun n hn v => (h'.others n v (fun hv => hn hv.1)).trans (h.others n hn v)
  acknowledged := fun n v => (h'.acknowledged n v).trans (h.acknowledged n v)

/-- One type of a node is set. -/
theorem Sets.checked {alerts alerts₁ : List HealthAlert} {nodeId : String} {t : AlertType}
    {k : Nat} (h : Sets alerts alerts₁ nodeId t k) :
    Checked alerts alerts₁ nodeId (fun v old => if v = t then k else old) :=
  (Checked.refl alerts nodeId).set h

theorem Checked.congr {alerts alerts' : List HealthAlert} {nodeId : String}
    {want want' : AlertType → Nat → Nat} (h : Checked alerts alerts' nodeId want)
    (hw : ∀ t old, want t old = want' t old) : Checked alerts alerts' nodeId want' where
  here := fun t => (h.here t).trans (hw t _)
  others := h.others
  acknowledged := h.acknowledged

/-- A healthy node has no stale and no offline alert left. -/
theorem resolveBoth_counts {alerts : List HealthAlert} {nodeId : String} (now : Timestamp)
    (hone : ∀ t, count alerts nodeId t .active ≤ 1) :
    ∃ found alerts₁, resolveAlert now alerts nodeId .nodeStale = .ok (found, alerts₁) ∧
      ∃ found' alerts₂, resolveAlert now alerts₁ nodeId .nodeOffline = .ok (found', alerts₂) ∧
        Checked alerts alerts₂ nodeId (fun t old => if t = .lowHealthScore then old else 0) := by
  obtain ⟨found, a₁, h₁, s₁⟩ := resolveAlert_sets now (hone .nodeStale)
  have hone₁ : count a₁ nodeId .nodeOffline .active ≤ 1 := by
    rw [s₁.others _ _ (by simp)]
    exact hone .nodeOffline
  obtain ⟨found', a₂, h₂, s₂⟩ := resolveAlert_sets now hone₁
  refine ⟨found, a₁, h₁, found', a₂, h₂, (s₁.checked.set s₂).congr ?_⟩
  intro t old
  cases t <;> rfl

theorem checkStatus_counts {alerts : List HealthAlert} (clock : NodeClock) (node : Node)
    (status : HealthStatus) (hcfg : cfg.alertsEnabled = true)
    (hone : ∀ t, count alerts node.id t .active ≤ 1) :
    ∃ new alerts', checkStatus cfg clock node status alerts = .ok (new, alerts') ∧
      Checked alerts alerts' node.id (fun t old =>
        if t = .lowHealthScore then old else settled status true t old) := by
  unfold HealthSettings.alertsEnabled at hcfg
  simp only [Bool.and_eq_true, decide_eq_true_eq] at hcfg
  obtain ⟨⟨hstale, hoffline⟩, -⟩ := hcfg
  unfold checkStatus
  cases status with
  -- an offline alert takes the place of a stale one, but not the other way round
  | stale =>
      rw [if_pos ⟨rfl, hstale⟩]
      obtain ⟨new, a₁, h₁, s₁⟩ := createAlertIfNew_sets _ (hone .nodeStale)
      refine ⟨new, a₁, h₁, s₁.checked.congr ?_⟩
      intro t old
      cases t <;> rfl
  | offline =>
      rw [if_neg (by simp), if_pos ⟨rfl, hoffline⟩]
      obtain ⟨new, a₁, h₁, s₁⟩ := createAlertIfNew_sets _ (hone .nodeOffline)
      have hone₁ : count a₁ node.id .nodeStale .active ≤ 1 := by
        rw [s₁.others _ _ (by simp)]
        exact hone .nodeStale
      obtain ⟨found, a₂, h₂, s₂⟩ := resolveAlert_sets clock.resolvedAt hone₁
      refine ⟨new, a₂, ?_, (s₁.checked.set s₂).congr ?_⟩
      · rw [h₁]
        show (resolveAlert clock.resolvedAt a₁ node.id .nodeStale >>= _) = _
        rw [h₂]
        rfl
      · intro t old
        cases t <;> rfl
  | healthy =>
      rw [if_neg (by simp), if_neg (by simp), if_pos rfl]
      obtain ⟨found, a₁, h₁, found', a₂, h₂, hc⟩ := resolveBoth_counts clock.resolvedAt hone
      refine ⟨none, a₂, ?_, hc.congr ?_⟩
      · rw [h₁]
        show (resolveAlert clock.resolvedAt a₁ node.id .nodeOffline >>= _) = _
        rw [h₂]
        rfl
      · intro t old
        cases t <;> rfl
  | unknown =>
      rw [if_neg (by simp), if_neg (by simp), if_neg (by simp)]
      refine ⟨none, alerts, rfl, ?_, fun _ _ _ => rfl, fun _ _ => rfl⟩
      intro t
      cases t <;> rfl

theorem checkScore_counts {alerts : List HealthAlert} (clock : NodeClock) (node : Node)
    (score : Int) (hcfg : cfg.alertsEnabled = true)
    (hone : count alerts node.id .lowHealthScore .active ≤ 1) :
    ∃ new alerts', checkScore cfg clock node score alerts = .ok (new, alerts') ∧
      Sets alerts alerts' node.id .lowHealthScore
        (if score < cfg.alertOnScoreBelow then 1 else 0) := by
  unfold HealthSettings.alertsEnabled at hcfg
  simp only [Bool.and_eq_true, decide_eq_true_eq] at hcfg
  obtain ⟨-, hpos⟩ := hcfg
  unfold checkScore
  by_cases hlow : score < cfg.alertOnScoreBelow
  · rw [if_pos ⟨hpos, hlow⟩, if_pos hlow]
    exact createAlertIfNew_sets _ hone
  · rw [if_neg (fun h => hlow h.2), if_pos ⟨hpos, by omega⟩, if_neg hlow]
    obtain ⟨found, a₁, h₁, s₁⟩ := resolveAlert_sets clock.resolvedAt hone
    refine ⟨none, a₁, ?_, s₁⟩
    rw [h₁]
    rfl

/-- The score of the node can be computed. -/
def scoreDefined (cfg : HealthSettings) (node : Node) : Bool :=
  node.lastSeenAt = none || cfg.offlineThresholdMinutes ≠ 0

theorem calculateHealthScore_returns_iff {now : Timestamp} {node : Node} :
    (∃ r, calculateHealthScore cfg fl now node = .ok r) ↔ scoreDefined cfg node = true := by
  unfold calculateHealthScore stalenessScore scoreDefined
  cases node.lastSeenAt with
  | none => simp [bind, Except.bind]
  | some lastSeen =>
      by_cases hzero : cfg.offlineThresholdMinutes = 0
      · simp [hzero, bind, Except.bind]
      · simp [hzero, bind, Except.bind]

/-- The condition of `low_health_score`. -/
def lowScore (cfg : HealthSettings) (fl : HealthFloats) (now : Timestamp) (node : Node) : Bool :=
  match calculateHealthScore cfg fl now node with
  | .ok (score, _) => score < cfg.alertOnScoreBelow
  | .error _ => false

/-- What a check makes of the numbers of a node. -/
def checkedWant (cfg : HealthSettings) (fl : HealthFloats) (clock : NodeClock) (node : Node) :
    AlertType → Nat → Nat :=
  settled (determineHealthStatus cfg fl clock.statusAt node) (lowScore cfg fl clock.scoreAt node)

variable (fl) in
/-- **ONE NODE IS CHECKED.** -/
theorem checkNode_counts {alerts : List HealthAlert} (clock : NodeClock) {node : Node}
    (hcfg : cfg.alertsEnabled = true) (hdef : scoreDefined cfg node = true)
    (hone : ∀ t, count alerts node.id t .active ≤ 1) :
    ∃ added alerts', checkNode cfg fl clock node alerts = .ok (added, alerts') ∧
      Checked alerts alerts' node.id (checkedWant cfg fl clock node) := by
  obtain ⟨⟨score, breakdown⟩, hscore⟩ :
      ∃ r, calculateHealthScore cfg fl clock.scoreAt node = .ok r :=
    calculateHealthScore_returns_iff.mpr hdef
  obtain ⟨new₁, a₁, h₁, c₁⟩ := checkStatus_counts clock node
    (determineHealthStatus cfg fl clock.statusAt node) hcfg hone
  -- the status part leaves the score alert alone
  have hone₁ : count a₁ node.id .lowHealthScore .active ≤ 1 := by
    rw [c₁.here]
    exact hone .lowHealthScore
  obtain ⟨new₂, a₂, h₂, s₂⟩ := checkScore_counts clock node score hcfg hone₁
  refine ⟨new₁.toList ++ new₂.toList, a₂, ?_, ?_, ?_, ?_⟩
  · unfold checkNode
    simp only [hscore, h₁, h₂, bind, Except.bind]
  · intro t
    unfold checkedWant lowScore
    rw [hscore]
    cases t with
    | lowHealthScore =>
        rw [s₂.here]
        simp [settled]
    | nodeStale | nodeOffline =>
        rw [s₂.others _ _ (by simp), c₁.here]
        cases determineHealthStatus cfg fl clock.statusAt node <;> rfl
  · intro n hn t
    rw [s₂.others n t (fun h => hn h.1), c₁.others n hn t]
  · intro n t
    rw [s₂.acknowledged, c₁.acknowledged]

/-! ## §3. The loop. -/

/-- The numbers after the check of some nodes. -/
structure AllChecked (cfg : HealthSettings) (fl : HealthFloats) (clock : String → NodeClock)
    (nodes : List Node) (alerts alerts' : List HealthAlert) : Prop where
  here : ∀ node ∈ nodes, ∀ t, count alerts' node.id t .active
    = checkedWant cfg fl (clock node.id) node t (count alerts node.id t .active)
  others : ∀ n, (∀ node ∈ nodes, node.id ≠ n) → ∀ t,
    count alerts' n t .active = count alerts n t .active
  acknowledged : ∀ n t, count alerts' n t .acknowledged = count alerts n t .acknowledged

variable (fl) in
/-- **THE LOOP**: each node sets its own numbers, and no node is met twice. -/
theorem checkNodes_counts (clock : String → NodeClock) (hcfg : cfg.alertsEnabled = true) :
    ∀ {nodes : List Node} {alerts : List HealthAlert} (new : List HealthAlert),
      (∀ node ∈ nodes, scoreDefined cfg node = true) → (nodes.map Node.id).Nodup →
      (∀ n t, count alerts n t .active ≤ 1) →
      ∃ new' alerts', checkNodes cfg fl clock new nodes alerts = .ok (new', alerts') ∧
        AllChecked cfg fl clock nodes alerts alerts' := by
  intro nodes
  induction nodes with
  | nil =>
      intro alerts new _ _ _
      exact ⟨new, alerts, rfl, by simp, fun _ _ _ => rfl, fun _ _ => rfl⟩
  | cons node nodes ih =>
      intro alerts new hdef hids hone
      rw [List.map_cons, List.nodup_cons] at hids
      have hfresh : ∀ n ∈ nodes, n.id ≠ node.id :=
        fun n hn heq => hids.1 (List.mem_map.mpr ⟨n, hn, heq⟩)
      obtain ⟨added, a₁, h₁, c₁⟩ := checkNode_counts fl (clock node.id) hcfg
        (hdef node List.mem_cons_self) (hone node.id)
      -- the node that was checked has at most one of each again, the others are untouched
      have hone₁ : ∀ n t, count a₁ n t .active ≤ 1 := by
        intro n t
        by_cases hn : n = node.id
        · rw [hn, c₁.here]
          exact settled_le_one (hone node.id t)
        · rw [c₁.others n hn]
          exact hone n t
      obtain ⟨new', a₂, h₂, c₂⟩ := ih (new ++ added)
        (fun n hn => hdef n (List.mem_cons_of_mem _ hn)) hids.2 hone₁
      refine ⟨new', a₂, ?_, ?_, ?_, ?_⟩
      · unfold checkNodes
        simp only [h₁, h₂, bind, Except.bind]
      · intro n hn t
        rcases List.mem_cons.mp hn with rfl | hn
        · rw [c₂.others n.id hfresh, c₁.here]
        · rw [c₂.here n hn, c₁.others n.id (hfresh n hn)]
      · intro n hn t
        rw [c₂.others n (fun m hm => hn m (List.mem_cons_of_mem _ hm)),
          c₁.others n (hn node List.mem_cons_self).symm]
      · intro n t
        rw [c₂.acknowledged, c₁.acknowledged]

/-- A check that returned computed every score. -/
theorem checkNodes_defined {clock : String → NodeClock} :
    ∀ {nodes : List Node} {alerts new new' alerts' : List HealthAlert},
      checkNodes cfg fl clock new nodes alerts = .ok (new', alerts') →
      ∀ node ∈ nodes, scoreDefined cfg node = true := by
  intro nodes
  induction nodes with
  | nil =>
      intro alerts new new' alerts' _ node hnode
      cases hnode
  | cons first nodes ih =>
      intro alerts new new' alerts' h node hnode
      unfold checkNodes at h
      obtain ⟨⟨added, a₁⟩, h₁, h⟩ := bind_eq_ok.mp h
      rcases List.mem_cons.mp hnode with rfl | hnode
      · obtain ⟨score, hscore, -⟩ := bind_eq_ok.mp h₁
        exact calculateHealthScore_returns_iff.mp ⟨score, hscore⟩
      · exact ih h node hnode

/-! ## §4. What every step keeps. -/

/-- The node is in the table and was seen. -/
def Seen (db : DB) (nodeId : String) : Prop :=
  ∃ n ∈ db.nodes.rows, n.id = nodeId ∧ n.lastSeenAt ≠ none

/-- At most one active alert of a type, and a stale or offline alert of seen nodes alone. -/
structure HealthInv (s : HealthDb) : Prop where
  atMostOne : ∀ n t, count s.alerts n t .active ≤ 1
  seen : ∀ n t, t ≠ .lowHealthScore → count s.alerts n t .active ≠ 0 → Seen s.db n

theorem healthInv_start (db : DB) : HealthInv ⟨db, []⟩ :=
  ⟨fun _ _ => Nat.zero_le 1, fun _ _ _ h => absurd rfl h⟩

theorem Seen.becomes {now : Timestamp} {db db' : DB} {nodeId : String} (h : Seen db nodeId)
    (hb : NodesBecome now db db') : Seen db' nodeId := by
  obtain ⟨n, hn, rfl, hseen⟩ := h
  obtain ⟨n', hn', hstep⟩ := hb.next n hn
  exact ⟨n', hn', hstep.id_eq, hstep.seen hseen⟩

/-- Requests keep what alerts there are, or resolve some. -/
theorem HealthInv.fewer {s s' : HealthDb} (h : HealthInv s)
    (hdb : ∀ n, Seen s.db n → Seen s'.db n)
    (hle : ∀ n t, count s'.alerts n t .active ≤ count s.alerts n t .active) : HealthInv s' where
  atMostOne := fun n t => (hle n t).trans (h.atMostOne n t)
  seen := by
    intro n t ht hne
    have hle' := hle n t
    exact hdb n (h.seen n t ht (by omega))

theorem resolveIfHealthy_le {clock : NodeClock} {node : Node} {alerts alerts' : List HealthAlert}
    (hone : ∀ t, count alerts node.id t .active ≤ 1)
    (h : resolveIfHealthy cfg fl clock node alerts = .ok alerts') (n : String) (t : AlertType) :
    count alerts' n t .active ≤ count alerts n t .active := by
  unfold resolveIfHealthy at h
  obtain ⟨-, -, h⟩ := bind_eq_ok.mp h
  split at h
  next =>
    obtain ⟨found, a₁, h₁, found', a₂, h₂, hc⟩ := resolveBoth_counts clock.resolvedAt hone
    rw [h₁] at h
    change (resolveAlert clock.resolvedAt a₁ node.id .nodeOffline >>= _) = _ at h
    rw [h₂] at h
    injection h with h
    subst h
    by_cases hn : n = node.id
    · rw [hn, hc.here]
      split <;> omega
    · rw [hc.others n hn]
  next =>
    injection h with h
    subst h
    exact Nat.le_refl _

theorem reportHealth_inv {s s' : HealthDb} {now : Timestamp} {clock : NodeClock}
    {report : NodeReport} {clientHost : Option String} {m : String} (h : HealthInv s)
    (hr : reportHealth cfg fl now clock s report clientHost = .ok (m, s')) : HealthInv s' := by
  unfold reportHealth at hr
  obtain ⟨⟨message, db⟩, hdb, hr⟩ := bind_eq_ok.mp hr
  have hdone : EndpointStep now false s.db db := reportNodeStatus_does hdb
  have hseen : ∀ n, Seen s.db n → Seen db n := fun n hn => hn.becomes hdone.nodes
  dsimp only at hr
  split at hr
  next =>
    obtain ⟨-, rfl⟩ := ok_pair_inj hr
    exact h.fewer hseen (fun _ _ => Nat.le_refl _)
  next node _ =>
    obtain ⟨alerts, hal, hr⟩ := bind_eq_ok.mp hr
    obtain ⟨-, rfl⟩ := ok_pair_inj hr
    exact h.fewer hseen (resolveIfHealthy_le (h.atMostOne node.id) hal)

theorem acknowledgeAlert_inv {s s' : HealthDb} {now : Timestamp} {alertId : Nat}
    {alert : HealthAlert} (h : HealthInv s)
    (ha : acknowledgeAlert now s alertId = .ok (alert, s')) : HealthInv s' := by
  unfold acknowledgeAlert at ha
  split at ha
  next => cases ha
  next old hold =>
    obtain ⟨-, ha⟩ := ite_error_eq_ok.mp ha
    obtain ⟨-, rfl⟩ := ok_pair_inj ha
    refine h.fewer (fun _ hn => hn) (fun n t => ?_)
    obtain ⟨hlt, -⟩ := List.getElem?_eq_some_iff.mp hold
    unfold count
    rw [List.countP_set hlt]
    simp [HealthAlert.is]

theorem seeNode_seen {now : Timestamp} {db : DB} {nodeId n : String} (h : Seen db n) :
    Seen (seeNode now db nodeId) n := by
  unfold seeNode
  split
  next => exact h
  next node hget =>
    obtain ⟨m, hm, rfl, hseen⟩ := h
    obtain ⟨hnode, -⟩ := Table.get?_eq_some_iff.mp hget
    by_cases hid : m.id = node.id
    · exact ⟨_, Table.mem_put_self hnode rfl, hid.symm, Option.some_ne_none now⟩
    · exact ⟨m, Table.mem_put_of_ne hm hid, rfl, hseen⟩

/-- The nodes of a check are in the table, each once. -/
theorem checkedNodes_nodup (db : DB) : ((checkedNodes db).map Node.id).Nodup :=
  db.nodes.nodup.sublist (List.filter_sublist.map _)

/-- The numbers after a check that returned. -/
theorem checkStep_counts {s s' : HealthDb} {clock : String → NodeClock} {new : List HealthAlert}
    (hcfg : cfg.alertsEnabled = true) (h : HealthInv s)
    (hc : checkStep cfg fl clock s = .ok (new, s')) :
    s'.db = s.db ∧ AllChecked cfg fl clock (checkedNodes s.db) s.alerts s'.alerts := by
  unfold checkStep at hc
  obtain ⟨⟨new₁, alerts⟩, hcheck, hc⟩ := bind_eq_ok.mp hc
  obtain ⟨-, rfl⟩ := ok_pair_inj hc
  obtain ⟨new₂, a₂, h₂, hall⟩ := checkNodes_counts fl clock hcfg []
    (checkNodes_defined hcheck) (checkedNodes_nodup s.db) h.atMostOne
  rw [show checkAllNodes cfg fl clock s.db s.alerts = .ok (new₂, a₂) from h₂] at hcheck
  obtain ⟨-, rfl⟩ := ok_pair_inj hcheck
  exact ⟨rfl, hall⟩

/-- The status is unknown of nodes that were never seen. -/
theorem determineHealthStatus_eq_unknown {now : Timestamp} {node : Node} :
    determineHealthStatus cfg fl now node = .unknown ↔ node.lastSeenAt = none := by
  unfold determineHealthStatus
  cases node.lastSeenAt with
  | none => simp
  | some lastSeen =>
      dsimp only
      split
      · simp
      · split <;> simp

theorem checkStep_inv {s s' : HealthDb} {clock : String → NodeClock} {new : List HealthAlert}
    (hcfg : cfg.alertsEnabled = true) (h : HealthInv s)
    (hc : checkStep cfg fl clock s = .ok (new, s')) : HealthInv s' := by
  obtain ⟨hdb, hall⟩ := checkStep_counts hcfg h hc
  constructor
  · intro n t
    by_cases hn : ∃ node ∈ checkedNodes s.db, node.id = n
    · obtain ⟨node, hnode, rfl⟩ := hn
      rw [hall.here node hnode]
      exact settled_le_one (h.atMostOne node.id t)
    · rw [hall.others n (fun node hnode heq => hn ⟨node, hnode, heq⟩)]
      exact h.atMostOne n t
  · intro n t ht hne
    rw [hdb]
    by_cases hn : ∃ node ∈ checkedNodes s.db, node.id = n
    · obtain ⟨node, hnode, rfl⟩ := hn
      by_cases hseen : node.lastSeenAt = none
      · -- a node that was never seen keeps the numbers it had
        rw [hall.here node hnode, checkedWant, determineHealthStatus_eq_unknown.mpr hseen] at hne
        refine h.seen node.id t ht ?_
        cases t with
        | nodeStale | nodeOffline => exact hne
        | lowHealthScore => exact absurd rfl ht
      · exact ⟨node, (List.mem_filter.mp hnode).1, rfl, hseen⟩
    · rw [hall.others n (fun node hnode heq => hn ⟨node, hnode, heq⟩)] at hne
      exact h.seen n t ht hne

/-- **EVERY STEP** keeps at most one active alert of a type, and none of a node never seen. -/
theorem healthStep_inv {env : Env} {s : HealthDb} (op : HealthOp)
    (hcfg : cfg.alertsEnabled = true) (h : HealthInv s) :
    HealthInv (healthStep cfg fl env s op) := by
  cases op with
  | request r clock =>
      obtain ⟨now, op⟩ := r
      have hexec : HealthInv { s with db := exec env s.db ⟨now, op⟩ } :=
        h.fewer (fun n hn => hn.becomes (exec_nodes env s.db ⟨now, op⟩)) (fun _ _ => Nat.le_refl _)
      cases op with
      | reportNodeStatus report clientHost =>
          exact commitOrRollback_preserves h (fun _ _ hr => reportHealth_inv h hr)
      | _ => exact hexec
  | seen now nodeId => exact h.fewer (fun n hn => seeNode_seen hn) (fun _ _ => Nat.le_refl _)
  | acknowledge now alertId =>
      exact commitOrRollback_preserves h (fun _ _ ha => acknowledgeAlert_inv h ha)
  | check clock => exact commitOrRollback_preserves h (fun _ _ hc => checkStep_inv hcfg h hc)

end Check

/-! ## §5. The alerts that are open after a check. -/

section Law

variable (cfg : HealthSettings) (fl : HealthFloats)

/-- The condition of an alert, at a check. -/
def conditionHolds (clock : NodeClock) (node : Node) : AlertType → Bool
  | .nodeStale => determineHealthStatus cfg fl clock.statusAt node = .stale
  | .nodeOffline => determineHealthStatus cfg fl clock.statusAt node = .offline
  | .lowHealthScore => lowScore cfg fl clock.scoreAt node

/-- **THE ALERTS MATCH THE HEALTH**: a node that is not retired has one open alert of a type
whose condition holds, and none of another. -/
def AlertsOk (clock : String → NodeClock) (s : HealthDb) : Prop :=
  ∀ node ∈ checkedNodes s.db, ∀ t, openCount s.alerts node.id t
    = if conditionHolds cfg fl (clock node.id) node t then 1 else 0

/-- They do right after a check. -/
def AlertLaw (s : HealthDb) : HealthOp → Prop
  | .check clock => ∀ new s', checkStep cfg fl clock s = .ok (new, s') → AlertsOk cfg fl clock s'
  | _ => True

def AlertType.all : List AlertType := [.nodeStale, .nodeOffline, .lowHealthScore]

/-- No alert of the node is acknowledged, and a node that is stale has no active alert that
it is offline. -/
def nodeMeets (clock : NodeClock) (alerts : List HealthAlert) (node : Node) : Bool :=
  AlertType.all.all (fun t => count alerts node.id t .acknowledged = 0)
    && (determineHealthStatus cfg fl clock.statusAt node ≠ .stale
      || count alerts node.id .nodeOffline .active = 0)

/-- So it is for the nodes of a check, unless it raises. -/
def healthMeets (s : HealthDb) : HealthOp → Bool
  | .check clock =>
      !(checkedNodes s.db).all (scoreDefined cfg)
        || (checkedNodes s.db).all (fun node => nodeMeets cfg fl (clock node.id) s.alerts node)
  | _ => true

end Law

variable {cfg : HealthSettings} {fl : HealthFloats}

theorem AlertType.forall_iff {P : AlertType → Prop} :
    (∀ t, P t) ↔ P .nodeStale ∧ P .nodeOffline ∧ P .lowHealthScore := by
  constructor
  · intro h
    exact ⟨h _, h _, h _⟩
  · rintro ⟨hs, ho, hl⟩ t
    cases t
    · exact hs
    · exact ho
    · exact hl

theorem nodeMeets_iff {clock : NodeClock} {alerts : List HealthAlert} {node : Node} :
    nodeMeets cfg fl clock alerts node = true ↔
      (∀ t, count alerts node.id t .acknowledged = 0) ∧
        (determineHealthStatus cfg fl clock.statusAt node = .stale →
          count alerts node.id .nodeOffline .active = 0) := by
  rw [AlertType.forall_iff]
  simp only [nodeMeets, AlertType.all, List.all_cons, List.all_nil, Bool.and_true,
    Bool.and_eq_true, Bool.or_eq_true, decide_eq_true_eq]
  refine and_congr Iff.rfl ?_
  rw [ne_eq, ← imp_iff_not_or]

/-- The numbers of one node after a check are right exactly if none was acknowledged, and no
offline alert stayed with a stale node. -/
theorem settled_right_iff {clock : NodeClock} {node : Node} (active acked : AlertType → Nat)
    (hunknown : determineHealthStatus cfg fl clock.statusAt node = .unknown →
      active .nodeStale = 0 ∧ active .nodeOffline = 0) :
    (∀ t, checkedWant cfg fl clock node t (active t) + acked t
        = if conditionHolds cfg fl clock node t then 1 else 0)
      ↔ (∀ t, acked t = 0) ∧
        (determineHealthStatus cfg fl clock.statusAt node = .stale → active .nodeOffline = 0) := by
  rw [AlertType.forall_iff, AlertType.forall_iff]
  unfold checkedWant conditionHolds
  generalize lowScore cfg fl clock.scoreAt node = low
  generalize determineHealthStatus cfg fl clock.statusAt node = status at *
  cases status with
  | unknown =>
      obtain ⟨hs, ho⟩ := hunknown rfl
      cases low <;> simp [settled, hs, ho]
  | healthy | stale | offline => cases low <;> simp [settled] <;> omega

/-- **A CHECK THAT RETURNED** leaves the right alerts open exactly if every node met the
condition before. -/
theorem alertsOk_iff {s s' : HealthDb} {clock : String → NodeClock} {new : List HealthAlert}
    (hcfg : cfg.alertsEnabled = true) (h : HealthInv s)
    (hc : checkStep cfg fl clock s = .ok (new, s')) :
    AlertsOk cfg fl clock s' ↔
      ∀ node ∈ checkedNodes s.db, nodeMeets cfg fl (clock node.id) s.alerts node = true := by
  obtain ⟨hdb, hall⟩ := checkStep_counts hcfg h hc
  unfold AlertsOk
  rw [hdb]
  refine forall_congr' (fun node => forall_congr' (fun hnode => ?_))
  -- a node that was never seen has no stale and no offline alert
  have hunknown : determineHealthStatus cfg fl (clock node.id).statusAt node = .unknown →
      count s.alerts node.id .nodeStale .active = 0 ∧
        count s.alerts node.id .nodeOffline .active = 0 := by
    intro hstatus
    have hnever : ¬ Seen s.db node.id := by
      rintro ⟨n, hn, hid, hseen⟩
      obtain rfl := s.db.nodes.eq_of_key_eq hn (List.mem_filter.mp hnode).1 hid
      exact hseen (determineHealthStatus_eq_unknown.mp hstatus)
    constructor
    · by_contra hne
      exact hnever (h.seen node.id .nodeStale (by simp) hne)
    · by_contra hne
      exact hnever (h.seen node.id .nodeOffline (by simp) hne)
  rw [nodeMeets_iff, ← settled_right_iff (fun t => count s.alerts node.id t .active)
    (fun t => count s.alerts node.id t .acknowledged) hunknown]
  refine forall_congr' (fun t => ?_)
  rw [openCount_eq, hall.here node hnode, hall.acknowledged]

/-- A check returns if every score can be computed. -/
theorem checkStep_returns {s : HealthDb} (clock : String → NodeClock)
    (hcfg : cfg.alertsEnabled = true) (h : HealthInv s)
    (hdef : (checkedNodes s.db).all (scoreDefined cfg) = true) :
    ∃ new s', checkStep cfg fl clock s = .ok (new, s') := by
  obtain ⟨new, alerts, hcheck, -⟩ := checkNodes_counts fl clock hcfg []
    (List.all_eq_true.mp hdef) (checkedNodes_nodup s.db) h.atMostOne
  refine ⟨new, { s with alerts }, ?_⟩
  unfold checkStep checkAllNodes
  rw [hcheck]
  rfl

/-- What is asked of one step holds exactly under the condition. -/
theorem alertLaw_iff {s : HealthDb} (op : HealthOp) (hcfg : cfg.alertsEnabled = true)
    (h : HealthInv s) : AlertLaw cfg fl s op ↔ healthMeets cfg fl s op = true := by
  cases op with
  | check clock =>
      unfold AlertLaw healthMeets
      rw [Bool.or_eq_true, Bool.not_eq_true']
      by_cases hdef : (checkedNodes s.db).all (scoreDefined cfg) = true
      · obtain ⟨new, s', hc⟩ := checkStep_returns clock hcfg h hdef
        have hiff := alertsOk_iff hcfg h hc
        constructor
        · intro hlaw
          exact .inr (List.all_eq_true.mpr (hiff.mp (hlaw new s' hc)))
        · rintro (hno | hmeets) new₁ s₁ hc₁
          · rw [hdef] at hno
            cases hno
          · rw [hc] at hc₁
            obtain ⟨-, rfl⟩ := ok_pair_inj hc₁
            exact hiff.mpr (List.all_eq_true.mp hmeets)
      · -- the check raises
        refine iff_of_true (fun new s' hc => ?_) (.inl (by simpa using hdef))
        obtain ⟨⟨new₁, alerts⟩, hcheck, -⟩ := bind_eq_ok.mp hc
        exact absurd (List.all_eq_true.mpr (checkNodes_defined hcheck)) hdef
  | request | seen | acknowledge => exact iff_of_true trivial rfl

/-- **HEALTH AND ITS ALERTS.**  With every kind of alert on, the runs in which each check
leaves the right alerts open are those in which, at each check that does not raise, no alert
of a node is acknowledged and no stale node has an active alert that it is offline. -/
theorem health_alerts_iff (cfg : HealthSettings) (fl : HealthFloats) (env : Env)
    (hcfg : cfg.alertsEnabled = true) (db : DB) (ops : List HealthOp) :
    Along (healthStep cfg fl env) (AlertLaw cfg fl) ⟨db, []⟩ ops
      ↔ Along (healthStep cfg fl env) (fun s op => healthMeets cfg fl s op = true) ⟨db, []⟩ ops :=
  along_iff_of_step (fun _ op h _ => healthStep_inv op hcfg h)
    (fun _ op h => alertLaw_iff op hcfg h) (healthInv_start db)

/-! ## §6. A node that is missed. -/

/-- Exact arithmetic: no rounding shows at the times below. -/
def exactFloats : HealthFloats where
  minutesAtMost micros threshold := micros ≤ threshold * 60000000
  stalenessPenalty micros threshold weight :=
    min micros (threshold * 60000000) * weight / (threshold * 60000000)
  ratioPenalty n d weight := min n d * weight / d

/-- A minute of the clock. -/
def minute (m : Int) : Timestamp := ⟨m * 60000000, true⟩

def atMinute (m : Int) : String → NodeClock := fun _ => ⟨minute m, minute m, minute m⟩

/-- A node that was seen at minute 0. -/
def seenNode : DB :=
  { DB.empty with
    nodes := ⟨[{ id := "n", macAddress := "m", lastSeenAt := some (minute 0) }],
      List.nodup_singleton _⟩ }

/-- The node goes stale, then offline, and is back after a boot. -/
theorem health_alerts_iff_boot :
    (HealthSettings.alertsEnabled {} = true) ∧
      Along (healthStep {} exactFloats sqliteEnv) (AlertLaw {} exactFloats) ⟨seenNode, []⟩
        [.check (atMinute 20), .check (atMinute 70), .seen (minute 71) "n",
          .check (atMinute 72)] :=
  ⟨rfl, (health_alerts_iff {} exactFloats sqliteEnv rfl seenNode _).mpr (by decide +kernel)⟩

/-- A stale node whose alert was acknowledged gets another one, and an offline node that
booted and went stale keeps its offline alert. -/
theorem acknowledged_and_offline_alerts_stay :
    ¬ Along (healthStep {} exactFloats sqliteEnv) (AlertLaw {} exactFloats) ⟨seenNode, []⟩
        [.check (atMinute 20), .acknowledge (minute 21) 0, .check (atMinute 22)] ∧
      ¬ Along (healthStep {} exactFloats sqliteEnv) (AlertLaw {} exactFloats) ⟨seenNode, []⟩
        [.check (atMinute 70), .seen (minute 71) "n", .check (atMinute 91)] := by
  have hinv : ∀ op op', HealthInv (healthStep {} exactFloats sqliteEnv
      (healthStep {} exactFloats sqliteEnv ⟨seenNode, []⟩ op) op') :=
    fun op op' => healthStep_inv op' rfl (healthStep_inv op rfl (healthInv_start seenNode))
  constructor
  · rintro ⟨-, -, hlaw, -⟩
    exact absurd ((alertLaw_iff _ rfl (hinv _ _)).mp hlaw) (by decide +kernel)
  · rintro ⟨-, -, hlaw, -⟩
    exact absurd ((alertLaw_iff _ rfl (hinv _ _)).mp hlaw) (by decide +kernel)

end PureBoot.Health
