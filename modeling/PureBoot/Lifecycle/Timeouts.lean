/-
  PureBoot.Lifecycle.Timeouts — how often an INSTALL TIMEOUT is charged.

  A booting node that is `installing` for longer than the timeout is charged a failed attempt.
  The time is measured from `state_changed_at`, which only a transition sets: as long as
  retries are left the charge makes none, and the next boot is late again.  So the LATE BOOTS
  are charged one by one, until the retries are used up.

  Main results:
    * `addedIn_eq_countP` — the attempts added in a window are its charged boots;
    * `timeout_charged_once_iff` — when no window of the length of the timeout has two.
-/
import Mathlib.Algebra.Order.Group.Abs
import Mathlib.Algebra.Order.Ring.Int
import PureBoot.Lifecycle.AuditChain

namespace PureBoot.Lifecycle

open PureBoot.Lib

/-! ## §1. Times that are far apart. -/

/-- At most one of the times lies in any window of length `len` exactly if they are pairwise
further apart. -/
theorem countP_window_le_one_iff {len : Int} {times : List Int} :
    (∀ a b, b - a ≤ len → times.countP (fun t => a ≤ t ∧ t ≤ b) ≤ 1)
      ↔ times.Pairwise (fun s t => len < |s - t|) := by
  induction times with
  | nil => simp
  | cons s times ih =>
      rw [List.pairwise_cons, ← ih]
      constructor
      · intro h
        refine ⟨fun t ht => ?_, fun a b hlen => ?_⟩
        · by_contra hnear
          -- the window between the two has both
          have hwindow := h (min s t) (max s t) (by rw [max_sub_min_eq_abs']; omega)
          have htail : 0 < times.countP (fun x => min s t ≤ x ∧ x ≤ max s t) :=
            List.countP_pos_iff.mpr ⟨t, ht, by simp⟩
          rw [List.countP_cons, if_pos (by simp)] at hwindow
          omega
        · refine le_trans ?_ (h a b hlen)
          rw [List.countP_cons]
          exact Nat.le_add_right _ _
      · rintro ⟨hfar, hrest⟩ a b hlen
        rw [List.countP_cons]
        split
        next hs =>
          -- with the first one inside, none of the others is
          rw [decide_eq_true_eq] at hs
          have hnone : times.countP (fun t => a ≤ t ∧ t ≤ b) = 0 := by
            rw [List.countP_eq_zero]
            intro t ht
            rw [decide_eq_true_eq]
            intro hin
            have hlt := hfar t ht
            have habs : |s - t| ≤ b - a := abs_sub_le_of_le_of_le hs.1 hs.2 hin.1 hin.2
            omega
          omega
        next => exact hrest a b hlen

/-! ## §2. Late boots. -/

/-- `settings.install_timeout_minutes`, in microseconds. -/
def Env.installTimeoutMicros (env : Env) : Int :=
  env.installTimeoutMinutes * 60 * 1000000

/-- The request is a `GET /boot` of the node with this address. -/
def bootOf (mac : String) (r : Request) : Bool :=
  match r.op with
  | .getBootScript _ req => decide (validateMac req.mac = .ok mac)
  | _ => false

/-- More than the timeout has passed since the node's state changed. -/
def late (env : Env) (node : Node) (now : Timestamp) : Bool :=
  match node.stateChangedAt with
  | some changed => env.installTimeoutMicros < now.micros - (env.readback changed).micros
  | none => false

/-- The time and the stored one can be subtracted. -/
def comparable (env : Env) (node : Node) (now : Timestamp) : Prop :=
  ∀ changed, node.stateChangedAt = some changed → now.aware = (env.readback changed).aware

/-- What a failure does to a running installation: it is counted, and the node keeps its state
and the time of its change as long as retries are left. -/
theorem handleInstallFailure_counts (now : Timestamp) (error : JsonValue) {node : Node}
    (hstate : node.state = .installing) :
    ∃ node' logs, handleInstallFailure now node error = .ok (node', logs)
      ∧ node'.id = node.id ∧ node'.macAddress = node.macAddress
      ∧ node'.installAttempts = node.installAttempts + 1
      ∧ (maxInstallAttempts ≤ node.installAttempts + 1 → node'.state = .installFailed)
      ∧ (node.installAttempts + 1 < maxInstallAttempts →
        node'.state = .installing ∧ node'.stateChangedAt = node.stateChangedAt) := by
  unfold handleInstallFailure transition
  rw [hstate]
  dsimp only
  split
  next hused =>
    refine ⟨_, _, rfl, rfl, rfl, rfl, fun _ => rfl, fun hleft => ?_⟩
    exact absurd hused (Int.not_le.mpr hleft)
  next hleft =>
    exact ⟨_, _, rfl, rfl, rfl, rfl, fun hused => absurd hused hleft, fun _ => ⟨rfl, rfl⟩⟩

section
variable {env : Env} {db : DB} {mac : String} {node : Node} {r : Request}

theorem bootOf_op (h : bootOf mac r = true) :
    ∃ uuid req, r.op = .getBootScript uuid req ∧ validateMac req.mac = .ok mac := by
  unfold bootOf at h
  split at h
  next uuid req hop => exact ⟨uuid, req, hop, of_decide_eq_true h⟩
  next => cases h

/-- The check of a running installation: a late boot is charged, any other one leaves the node
as it is. -/
theorem bootInstalling_spec (hT : 0 < env.installTimeoutMinutes) (now : Timestamp)
    (hstate : node.state = .installing) (hcmp : comparable env node now) :
    ∃ script node' logs, bootInstalling env now node = .ok (script, node', logs)
      ∧ node'.id = node.id ∧ node'.macAddress = node.macAddress
      ∧ (late env node now = true → node'.installAttempts = node.installAttempts + 1
        ∧ (maxInstallAttempts ≤ node.installAttempts + 1 → node'.state = .installFailed)
        ∧ (node.installAttempts + 1 < maxInstallAttempts →
          node'.state = .installing ∧ node'.stateChangedAt = node.stateChangedAt))
      ∧ (late env node now = false → node' = node) := by
  unfold bootInstalling late
  cases hchanged : node.stateChangedAt with
  | none => exact ⟨_, _, _, rfl, rfl, rfl, fun h => absurd h Bool.false_ne_true, fun _ => rfl⟩
  | some changed =>
      have hsub : now.sub (env.readback changed)
          = .ok (now.micros - (env.readback changed).micros) := by
        unfold Timestamp.sub
        rw [if_pos (hcmp changed hchanged)]
      dsimp only
      rw [if_pos hT, hsub, ok_bind]
      by_cases hlate : env.installTimeoutMinutes * 60 * 1000000
          < now.micros - (env.readback changed).micros
      · obtain ⟨node', logs, hfail, hid, hmac, hattempts, hused, hleft⟩ :=
          handleInstallFailure_counts now (.str ("Installation timed out after "
            ++ toString env.installTimeoutMinutes ++ " minutes")) hstate
        rw [if_pos hlate, hfail, ok_bind]
        dsimp only
        rw [hchanged] at hleft
        split
        next => exact ⟨_, _, _, rfl, hid, hmac, fun _ => ⟨hattempts, hused, hleft⟩,
          fun h => absurd hlate (of_decide_eq_false h)⟩
        next => exact ⟨_, _, _, rfl, hid, hmac, fun _ => ⟨hattempts, hused, hleft⟩,
          fun h => absurd hlate (of_decide_eq_false h)⟩
      · rw [if_neg hlate]
        exact ⟨_, _, _, rfl, rfl, rfl, fun h => absurd (of_decide_eq_true h) hlate, fun _ => rfl⟩

/-- A boot of an installing node. -/
theorem exec_installing (hT : 0 < env.installTimeoutMinutes) (hboot : bootOf mac r = true)
    (hnode : db.nodeByMac mac = some node) (hstate : node.state = .installing)
    (hcmp : comparable env node r.now) :
    ∃ node', (exec env db r).nodeByMac mac = some node'
      ∧ (late env node r.now = true → node'.installAttempts = node.installAttempts + 1
        ∧ (maxInstallAttempts ≤ node.installAttempts + 1 → node'.state = .installFailed)
        ∧ (node.installAttempts + 1 < maxInstallAttempts →
          node'.state = .installing ∧ node'.stateChangedAt = node.stateChangedAt))
      ∧ (late env node r.now = false → node'.installAttempts = node.installAttempts
        ∧ node'.state = .installing ∧ node'.stateChangedAt = node.stateChangedAt) := by
  obtain ⟨uuid, req, hop, hmac⟩ := bootOf_op hboot
  have hstate' : (touchBooted r.now node req).state = .installing := hstate
  obtain ⟨script, node', logs, hrun, hid, hmac', hlate, hin⟩ :=
    bootInstalling_spec hT r.now hstate' hcmp
  have hexec : exec env db r = db.save node' logs [] := by
    unfold exec getBootScript
    rw [hop]
    dsimp only
    rw [hmac, ok_bind, hnode]
    dsimp only
    rw [hstate']
    dsimp only
    rw [hrun]
    rfl
  refine ⟨node', ?_, hlate, fun h => ?_⟩
  · rw [hexec]
    exact DB.nodeByMac_save hnode hid hmac'
  · rw [hin h]
    exact ⟨rfl, hstate, rfl⟩

/-- A boot of a node whose retries are used up leaves it as it is. -/
theorem exec_failed (hboot : bootOf mac r = true) (hnode : db.nodeByMac mac = some node)
    (hstate : node.state = .installFailed) :
    ∃ node', (exec env db r).nodeByMac mac = some node'
      ∧ node'.installAttempts = node.installAttempts ∧ node'.state = .installFailed := by
  obtain ⟨uuid, req, hop, hmac⟩ := bootOf_op hboot
  have hstate' : (touchBooted r.now node req).state = .installFailed := hstate
  have hexec : exec env db r = db.save (touchBooted r.now node req) [] [] := by
    unfold exec getBootScript
    rw [hop]
    dsimp only
    rw [hmac, ok_bind, hnode]
    dsimp only
    rw [hstate']
    rfl
  rw [hexec]
  exact ⟨_, DB.nodeByMac_save hnode rfl rfl, rfl, hstate⟩

end

/-! ## §3. Runs. -/

/-- No other operation on the node: whatever is not a boot of it leaves its row as it is. -/
def Undisturbed (env : Env) (mac : String) (db : DB) (r : Request) : Prop :=
  bootOf mac r = true ∨ (exec env db r).nodeByMac mac = db.nodeByMac mac

/-- `install_attempts` of the node. -/
def attemptsOf (db : DB) (mac : String) : Int :=
  ((db.nodeByMac mac).map Node.installAttempts).getD 0

/-- The attempts that the requests of a run in a window of time add to the node. -/
def addedIn (env : Env) (mac : String) (a b : Int) : DB → List Request → Int
  | _, [] => 0
  | db, r :: rest =>
      (if a ≤ r.now.micros ∧ r.now.micros ≤ b
        then attemptsOf (exec env db r) mac - attemptsOf db mac else 0)
      + addedIn env mac a b (exec env db r) rest

/-- In no window of the length of the timeout more than one attempt is added. -/
def ChargedOnce (env : Env) (mac : String) (db : DB) (reqs : List Request) : Prop :=
  ∀ a b, b - a ≤ env.installTimeoutMicros → addedIn env mac a b db reqs ≤ 1

/-- The times of the late boots. -/
def lateBoots (env : Env) (mac : String) (node : Node) (reqs : List Request) : List Int :=
  (reqs.filter (fun r => bootOf mac r && late env node r.now)).map (fun r => r.now.micros)

/-- The failures until the node gives up; the next one is always counted. -/
def failuresLeft (node : Node) : Nat :=
  (max 1 (maxInstallAttempts - node.installAttempts)).toNat

/-- The late boots before the node gives up. -/
def chargedBoots (env : Env) (mac : String) (node : Node) (reqs : List Request) : List Int :=
  (lateBoots env mac node reqs).take (failuresLeft node)

section
variable {env : Env} {mac : String} {a b : Int} {db : DB} {node node' : Node} {r : Request}
  {reqs : List Request}

theorem attemptsOf_eq (hnode : db.nodeByMac mac = some node) :
    attemptsOf db mac = node.installAttempts := by
  unfold attemptsOf
  rw [hnode]
  rfl

theorem late_congr (h : node'.stateChangedAt = node.stateChangedAt) (now : Timestamp) :
    late env node' now = late env node now := by
  unfold late
  rw [h]

theorem lateBoots_congr (h : node'.stateChangedAt = node.stateChangedAt) (reqs : List Request) :
    lateBoots env mac node' reqs = lateBoots env mac node reqs := by
  unfold lateBoots
  simp only [late_congr h]

theorem lateBoots_cons_of_late (hboot : bootOf mac r = true) (hlate : late env node r.now = true) :
    lateBoots env mac node (r :: reqs) = r.now.micros :: lateBoots env mac node reqs := by
  unfold lateBoots
  rw [List.filter_cons_of_pos (by rw [hboot, hlate]; rfl), List.map_cons]

theorem lateBoots_cons_of_not (h : (bootOf mac r && late env node r.now) = false) :
    lateBoots env mac node (r :: reqs) = lateBoots env mac node reqs := by
  unfold lateBoots
  rw [List.filter_cons_of_neg (by rw [h]; exact Bool.false_ne_true)]

/-- Nothing is added to a node that has given up. -/
theorem addedIn_failed :
    ∀ {db : DB} {node : Node} {reqs : List Request}, db.nodeByMac mac = some node →
      node.state = .installFailed → Along (exec env) (Undisturbed env mac) db reqs →
      addedIn env mac a b db reqs = 0 := by
  intro db node reqs
  induction reqs generalizing db node with
  | nil => exact fun _ _ _ => rfl
  | cons r rest ih =>
      intro hnode hstate hrun
      obtain ⟨node', hnode', hattempts, hstate'⟩ : ∃ node',
          (exec env db r).nodeByMac mac = some node'
          ∧ node'.installAttempts = node.installAttempts ∧ node'.state = .installFailed := by
        rcases hrun.1 with hboot | hsame
        · exact exec_failed hboot hnode hstate
        · exact ⟨node, hsame.trans hnode, rfl, hstate⟩
      unfold addedIn
      rw [attemptsOf_eq hnode', attemptsOf_eq hnode, hattempts, Int.sub_self, ite_self,
        ih hnode' hstate' hrun.2]
      rfl

/-- One step of an installing node: it is left as it is, or it is charged by a late boot. -/
theorem installing_step (hT : 0 < env.installTimeoutMinutes) (hnode : db.nodeByMac mac = some node)
    (hstate : node.state = .installing)
    (hcmp : bootOf mac r = true → comparable env node r.now) (hr : Undisturbed env mac db r) :
    ∃ node', (exec env db r).nodeByMac mac = some node' ∧
      (((bootOf mac r && late env node r.now) = false
          ∧ node'.installAttempts = node.installAttempts
          ∧ node'.state = .installing ∧ node'.stateChangedAt = node.stateChangedAt)
        ∨ (bootOf mac r = true ∧ late env node r.now = true
          ∧ node'.installAttempts = node.installAttempts + 1
          ∧ (maxInstallAttempts ≤ node.installAttempts + 1 → node'.state = .installFailed)
          ∧ (node.installAttempts + 1 < maxInstallAttempts →
            node'.state = .installing ∧ node'.stateChangedAt = node.stateChangedAt))) := by
  cases hboot : bootOf mac r with
  | false =>
      rcases hr with hboot' | hsame
      · rw [hboot] at hboot'
        cases hboot'
      · exact ⟨node, hsame.trans hnode, .inl ⟨rfl, rfl, hstate, rfl⟩⟩
  | true =>
      obtain ⟨node', hnode', hcharged, hkept⟩ := exec_installing hT hboot hnode hstate (hcmp hboot)
      refine ⟨node', hnode', ?_⟩
      cases hlate : late env node r.now with
      | false => exact .inl ⟨rfl, hkept hlate⟩
      | true => exact .inr ⟨rfl, rfl, hcharged hlate⟩

/-- **THE CHARGED BOOTS**: of an installing node every late boot adds an attempt, until it gives
up. -/
theorem addedIn_eq_countP (hT : 0 < env.installTimeoutMinutes) :
    ∀ {db : DB} {node : Node} {reqs : List Request}, db.nodeByMac mac = some node →
      node.state = .installing →
      (∀ r ∈ reqs, bootOf mac r = true → comparable env node r.now) →
      Along (exec env) (Undisturbed env mac) db reqs →
      addedIn env mac a b db reqs
        = (chargedBoots env mac node reqs).countP (fun t => a ≤ t ∧ t ≤ b) := by
  intro db node reqs
  induction reqs generalizing db node with
  | nil =>
      intro _ _ _ _
      have hnone : chargedBoots env mac node [] = [] := List.take_nil
      rw [hnone]
      rfl
  | cons r rest ih =>
      intro hnode hstate hcmp hrun
      obtain ⟨node', hnode', hstep⟩ := installing_step hT hnode hstate
        (hcmp r List.mem_cons_self) hrun.1
      have hrest : node'.stateChangedAt = node.stateChangedAt →
          ∀ r' ∈ rest, bootOf mac r' = true → comparable env node' r'.now := by
        intro hchanged r' hr' hboot
        unfold comparable
        rw [hchanged]
        exact hcmp r' (List.mem_cons_of_mem r hr') hboot
      unfold addedIn
      rw [attemptsOf_eq hnode', attemptsOf_eq hnode]
      rcases hstep with ⟨hnot, hattempts, hstate', hchanged⟩ |
        ⟨hboot, hlate, hattempts, hused, hleft⟩
      · -- not a late boot
        rw [ih hnode' hstate' (hrest hchanged) hrun.2, hattempts, Int.sub_self, ite_self,
          Int.zero_add]
        unfold chargedBoots failuresLeft
        rw [lateBoots_congr hchanged, lateBoots_cons_of_not hnot, hattempts]
      · by_cases hlast : maxInstallAttempts ≤ node.installAttempts + 1
        · -- the last one that is counted
          have hone : failuresLeft node = 1 := by
            unfold failuresLeft
            omega
          rw [addedIn_failed hnode' (hused hlast) hrun.2, hattempts]
          unfold chargedBoots
          rw [hone, lateBoots_cons_of_late hboot hlate, List.take_succ_cons, List.take_zero,
            List.countP_singleton]
          by_cases hin : a ≤ r.now.micros ∧ r.now.micros ≤ b
          · simp [hin]
          · simp [hin]
        · obtain ⟨hstate', hchanged⟩ := hleft (Int.not_le.mp hlast)
          have hmore : failuresLeft node = failuresLeft node' + 1 := by
            unfold failuresLeft
            omega
          rw [ih hnode' hstate' (hrest hchanged) hrun.2, hattempts]
          unfold chargedBoots
          rw [hmore, lateBoots_cons_of_late hboot hlate, List.take_succ_cons, List.countP_cons,
            lateBoots_congr hchanged]
          by_cases hin : a ≤ r.now.micros ∧ r.now.micros ≤ b
          · simp only [hin, and_self, if_true, decide_true]
            omega
          · simp [hin]

/-- **AN INSTALL TIMEOUT IS CHARGED ONCE PER WINDOW** exactly if the boots it is charged at are
further apart than the timeout. -/
theorem timeout_charged_once_iff (hT : 0 < env.installTimeoutMinutes)
    (hnode : db.nodeByMac mac = some node) (hstate : node.state = .installing)
    (hcmp : ∀ r ∈ reqs, bootOf mac r = true → comparable env node r.now)
    (hrun : Along (exec env) (Undisturbed env mac) db reqs) :
    ChargedOnce env mac db reqs ↔
      (chargedBoots env mac node reqs).Pairwise (fun s t => env.installTimeoutMicros < |s - t|) := by
  rw [← countP_window_le_one_iff]
  unfold ChargedOnce
  simp only [addedIn_eq_countP hT hnode hstate hcmp hrun, Nat.cast_le_one]

end

/-- A driver that keeps the time zone. -/
def zonedEnv : Env where
  readback := fun t => t
  getWorkflow := fun _ => .notFound

/-- A node that began to install at time 0. -/
def slowNode : Node where
  id := "n"
  macAddress := "00:11:22:33:44:55"
  state := .installing
  stateChangedAt := some ⟨0, true⟩

def slowDB : DB where
  nodes := ⟨[slowNode], by decide⟩
  logs := []
  events := []
  sessions := Table.empty

/-- It is switched on again this many minutes later. -/
def bootAt (minutes : Int) : Request :=
  ⟨⟨minutes * 60 * 1000000, true⟩, .getBootScript "u" { mac := "00-11-22-33-44-55" }⟩

theorem validateMac_bootAt : validateMac "00-11-22-33-44-55" = .ok "00:11:22:33:44:55" := by
  unfold validateMac
  rw [if_pos (by decide)]
  decide +kernel

theorem bootOf_bootAt (minutes : Int) : bootOf "00:11:22:33:44:55" (bootAt minutes) = true := by
  unfold bootOf bootAt
  dsimp only
  rw [validateMac_bootAt]
  rfl

theorem comparable_bootAt (minutes : Int) :
    comparable zonedEnv slowNode (bootAt minutes).now := by
  intro changed hchanged
  obtain rfl : ⟨0, true⟩ = changed := Option.some.inj hchanged
  rfl

theorem undisturbed_bootAt (minutes : List Int) (db : DB) :
    Along (exec zonedEnv) (Undisturbed zonedEnv "00:11:22:33:44:55") db (minutes.map bootAt) := by
  refine (along_label_iff.mpr ?_ : Along (exec zonedEnv)
    (fun _ r => bootOf "00:11:22:33:44:55" r = true) db _).mono (fun _ _ h => .inl h)
  intro r hr
  obtain ⟨m, -, rfl⟩ := List.mem_map.mp hr
  exact bootOf_bootAt m

/-- Boots an hour and a minute apart, the first in time. -/
theorem timeout_charged_once_iff_slow :
    ChargedOnce zonedEnv "00:11:22:33:44:55" slowDB ([59, 61, 122].map bootAt) ↔
      (chargedBoots zonedEnv "00:11:22:33:44:55" slowNode ([59, 61, 122].map bootAt)).Pairwise
        (fun s t => zonedEnv.installTimeoutMicros < |s - t|) := by
  refine timeout_charged_once_iff (by decide) (by decide) rfl (fun r hr _ => ?_)
    (undisturbed_bootAt _ _)
  obtain ⟨m, -, rfl⟩ := List.mem_map.mp hr
  exact comparable_bootAt m

/-- Three boots in two minutes use up the retries: the node is charged at each. -/
theorem timeout_charged_thrice :
    slowNode ∈ slowDB.nodes.rows ∧ slowNode.state = .installing
      ∧ Along (exec zonedEnv) (Undisturbed zonedEnv "00:11:22:33:44:55") slowDB
        ([61, 62, 63].map bootAt)
      ∧ addedIn zonedEnv "00:11:22:33:44:55" (bootAt 61).now.micros (bootAt 63).now.micros slowDB
        ([61, 62, 63].map bootAt) = 3
      ∧ ¬ ChargedOnce zonedEnv "00:11:22:33:44:55" slowDB ([61, 62, 63].map bootAt) := by
  have hcharged : chargedBoots zonedEnv "00:11:22:33:44:55" slowNode ([61, 62, 63].map bootAt)
      = [61 * 60 * 1000000, 62 * 60 * 1000000, 63 * 60 * 1000000] := by
    unfold chargedBoots lateBoots
    simp only [List.map_cons, List.map_nil, List.filter_cons, bootOf_bootAt, Bool.true_and]
    decide
  have hadded : addedIn zonedEnv "00:11:22:33:44:55" (bootAt 61).now.micros (bootAt 63).now.micros
      slowDB ([61, 62, 63].map bootAt) = 3 := by
    rw [addedIn_eq_countP (by decide) (show slowDB.nodeByMac _ = some slowNode by decide) rfl
      (fun r hr _ => ?_) (undisturbed_bootAt _ _), hcharged]
    · decide
    · obtain ⟨m, -, rfl⟩ := List.mem_map.mp hr
      exact comparable_bootAt m
  refine ⟨by decide, rfl, undisturbed_bootAt _ _, hadded, fun h => ?_⟩
  have honce := h _ _ (by decide : (bootAt 63).now.micros - (bootAt 61).now.micros
    ≤ zonedEnv.installTimeoutMicros)
  rw [hadded] at honce
  exact absurd honce (by decide)

end PureBoot.Lifecycle
