/-
  PureBoot.Agent.Hysteresis — WHEN the connectivity monitor changes its state.

  `_update_state` goes offline after `failure_threshold` failures in a row, and online again
  after one success.  It changes all fields before it awaits the first listener, so calls
  that overlap are steps of one run in which other notifications are still under way
  (`Agent/Connectivity.lean`).

  Main results:
    * `updateState_eq` — the fields after an update, and what it notifies of;
    * `Hysteresis.step` — what every step preserves;
    * `received_eq_notifiedValues` — the values of the notifications reach a listener;
    * `monitor_hysteresis` — the state is told by the counter of failures in every state of a
      run, and the values of the notifications alternate.
-/
import Mathlib.Data.List.ReduceOption
import PureBoot.Agent.Connectivity

namespace PureBoot.Agent

open PureBoot.Lib

section Updates

variable (failureThreshold : Int)

/-! ## §1. What an update does. -/

/-- The value that `_update_state` passes to `_notify_listeners`, if it does. -/
def notified (m : Monitor) : MonitorOp → Option Bool
  | .update _ true => if m.isOnline = false then some true else none
  | .update _ false =>
      if m.isOnline = true ∧ failureThreshold ≤ m.consecutiveFailures + 1 then some false else none
  | .resume _ => none

/-- The fields when `_update_state` passes a value on. -/
def Monitor.changed (m : Monitor) (now : Int) : Bool → Monitor
  | true => { m.succeeded now with isOnline := true, offlineSince := none }
  | false => { m.failed with isOnline := false, offlineSince := some now }

/-- The fields when it passes on none. -/
def Monitor.counted (m : Monitor) (now : Int) : Bool → Monitor
  | true => m.succeeded now
  | false => m.failed

/-- The values passed to `_notify_listeners` over a run, in order. -/
def notifiedValues (listeners : Nat) (m : Monitor) (ops : List MonitorOp) : List Bool :=
  (labels (monitorStep failureThreshold listeners) (notified failureThreshold) m ops).reduceOption

/-- Each value differs from the one before it, and the first is `False`. -/
structure AlternatesFromFalse (values : List Bool) : Prop where
  alternates : values.IsChain (· ≠ ·)
  first : ∀ v, values.head? = some v → v = false

/-- **HYSTERESIS**: the monitor is offline exactly while as many checks in a row as the
threshold says have failed, and knows since when. -/
structure Hysteresis (m : Monitor) : Prop where
  offline_iff : m.isOnline = false ↔ failureThreshold ≤ m.consecutiveFailures
  offlineSince_iff : m.offlineSince.isSome = true ↔ m.isOnline = false
  one_positive : ¬ (0 < m.consecutiveFailures ∧ 0 < m.consecutiveSuccesses)

end Updates

variable {failureThreshold : Int} {listeners : Nat}

/-- **AN UPDATE** changes the fields, and passes on the new state if it is one. -/
theorem updateState_eq (m : Monitor) (now : Int) (checkResult : Bool) :
    updateState failureThreshold listeners m now checkResult
      = match notified failureThreshold m (.update now checkResult) with
        | some v => notifyListeners listeners (m.changed now v) v
        | none => m.counted now checkResult := by
  unfold updateState
  cases checkResult with
  | true =>
      rw [if_pos rfl]
      unfold notified
      by_cases hoff : m.isOnline = false
      · rw [if_pos hoff, if_pos hoff]
        rfl
      · rw [if_neg hoff, if_neg hoff]
        rfl
  | false =>
      rw [if_neg Bool.false_ne_true]
      unfold notified Monitor.failed
      by_cases hlost : m.isOnline = true ∧ failureThreshold ≤ m.consecutiveFailures + 1
      · rw [if_pos hlost, if_pos hlost]
        rfl
      · rw [if_neg hlost, if_neg hlost]
        rfl

/-! ## §2. The state is told by the counter of failures. -/

theorem not_lost_of_none (hthreshold : 1 ≤ failureThreshold) : ¬ failureThreshold ≤ 0 := by
  omega

theorem hysteresis_initial (hthreshold : 1 ≤ failureThreshold) :
    Hysteresis failureThreshold {} where
  offline_iff := by
    constructor
    · intro hoff
      cases hoff
    · intro hle
      exact absurd hle (not_lost_of_none hthreshold)
  offlineSince_iff := ⟨fun h => (nomatch h), fun h => (nomatch h)⟩
  one_positive := fun h => absurd h.1 (by decide)

/-- The listeners are not asked. -/
theorem Hysteresis.notifyListeners {m : Monitor} (h : Hysteresis failureThreshold m) (v : Bool) :
    Hysteresis failureThreshold (notifyListeners listeners m v) :=
  ⟨h.offline_iff, h.offlineSince_iff, h.one_positive⟩

/-- What an update passes on is the new state, and it was not the old one. -/
theorem notified_update {m : Monitor} {now : Int} {checkResult v : Bool}
    (h : notified failureThreshold m (.update now checkResult) = some v) :
    v = checkResult ∧ m.isOnline = !v ∧
      (v = false → failureThreshold ≤ m.consecutiveFailures + 1) := by
  cases checkResult with
  | true =>
      obtain ⟨hoff, hv⟩ := Option.ite_some_none_eq_some.mp h
      subst hv
      exact ⟨rfl, hoff, fun hv => (nomatch hv)⟩
  | false =>
      obtain ⟨hlost, hv⟩ := Option.ite_some_none_eq_some.mp h
      subst hv
      exact ⟨rfl, hlost.1, fun _ => hlost.2⟩

/-- An update that passes on nothing met the state it reports, or too few failures. -/
theorem notified_eq_none {m : Monitor} {now : Int} {checkResult : Bool}
    (h : notified failureThreshold m (.update now checkResult) = none) :
    m.isOnline = checkResult ∨
      m.isOnline = true ∧ m.consecutiveFailures + 1 < failureThreshold := by
  cases hon : m.isOnline with
  | false =>
      cases checkResult with
      | true => simp [notified, hon] at h
      | false => exact .inl rfl
  | true =>
      cases checkResult with
      | true => exact .inl rfl
      | false => exact .inr ⟨rfl, by simpa [notified, hon] using h⟩

/-- A change of the state sets all fields. -/
theorem Hysteresis.changed {m : Monitor} {now : Int} {v : Bool} (hthreshold : 1 ≤ failureThreshold)
    (hlost : v = false → failureThreshold ≤ m.consecutiveFailures + 1) :
    Hysteresis failureThreshold (m.changed now v) := by
  cases v with
  | true =>
      refine ⟨⟨fun h => (nomatch h), fun h => ?_⟩, ⟨fun h => (nomatch h), fun h => (nomatch h)⟩,
        fun h => absurd h.1 (Int.lt_irrefl 0)⟩
      exact absurd h (not_lost_of_none hthreshold)
  | false =>
      exact ⟨⟨fun _ => hlost rfl, fun _ => rfl⟩, ⟨fun _ => rfl, fun _ => rfl⟩,
        fun h => absurd h.2 (Int.lt_irrefl 0)⟩

/-- Without one, the monitor was online or offline already, or has seen too few failures. -/
theorem Hysteresis.counted {m : Monitor} (h : Hysteresis failureThreshold m) {now : Int}
    {checkResult : Bool} (hthreshold : 1 ≤ failureThreshold)
    (hsame : m.isOnline = checkResult ∨
      m.isOnline = true ∧ m.consecutiveFailures + 1 < failureThreshold) :
    Hysteresis failureThreshold (m.counted now checkResult) := by
  cases checkResult with
  | true =>
      have hon : m.isOnline = true := hsame.elim id And.left
      refine ⟨⟨fun hoff => ?_, fun hle => ?_⟩, h.offlineSince_iff, fun hboth => ?_⟩
      · exact absurd (hon.symm.trans hoff) (by decide)
      · exact absurd hle (not_lost_of_none hthreshold)
      · exact absurd hboth.1 (Int.lt_irrefl 0)
  | false =>
      -- one more failure: it was lost before, or it is not lost yet
      have hiff : m.isOnline = false ↔ failureThreshold ≤ m.consecutiveFailures + 1 := by
        rcases hsame with hoff | ⟨hon, hfew⟩
        · have hle := h.offline_iff.mp hoff
          exact iff_of_true hoff (by omega)
        · exact iff_of_false (by rw [hon]; decide) (by omega)
      exact ⟨hiff, h.offlineSince_iff, fun hboth => absurd hboth.2 (Int.lt_irrefl 0)⟩

/-- **EVERY STEP** keeps it. -/
theorem Hysteresis.step {m : Monitor} (h : Hysteresis failureThreshold m)
    (hthreshold : 1 ≤ failureThreshold) (op : MonitorOp) :
    Hysteresis failureThreshold (monitorStep failureThreshold listeners m op) := by
  cases op with
  | resume i => exact ⟨h.offline_iff, h.offlineSince_iff, h.one_positive⟩
  | update now checkResult =>
      show Hysteresis failureThreshold (updateState failureThreshold listeners m now checkResult)
      rw [updateState_eq]
      cases hvalue : notified failureThreshold m (.update now checkResult) with
      | some v =>
          have hlost := (notified_update hvalue).2.2
          exact (Hysteresis.changed hthreshold hlost).notifyListeners v
      | none => exact h.counted hthreshold (notified_eq_none hvalue)

/-! ## §3. The values of the notifications. -/

/-- The state after a step is the value that was passed on, or the state before it. -/
theorem isOnline_monitorStep (m : Monitor) (op : MonitorOp) :
    (monitorStep failureThreshold listeners m op).isOnline
      = (notified failureThreshold m op).getD m.isOnline := by
  cases op with
  | resume i => rfl
  | update now checkResult =>
      show (updateState failureThreshold listeners m now checkResult).isOnline = _
      rw [updateState_eq]
      cases notified failureThreshold m (.update now checkResult) with
      | some v => cases v <;> rfl
      | none => cases checkResult <;> rfl

/-- A value that is passed on was not the state. -/
theorem notified_ne {m : Monitor} {op : MonitorOp} {v : Bool}
    (h : notified failureThreshold m op = some v) : m.isOnline = !v := by
  cases op with
  | resume i => cases h
  | update now checkResult => exact (notified_update h).2.1

theorem notifiedValues_cons (m : Monitor) (op : MonitorOp) (ops : List MonitorOp) :
    notifiedValues failureThreshold listeners m (op :: ops)
      = (notified failureThreshold m op).toList ++ notifiedValues failureThreshold listeners
          (monitorStep failureThreshold listeners m op) ops := by
  show (notified failureThreshold m op :: labels _ _ _ ops).reduceOption = _
  cases notified failureThreshold m op with
  | none => exact List.reduceOption_cons_of_none _
  | some v => exact List.reduceOption_cons_of_some v _

/-- The values passed on from a state alternate, and the first is not the state. -/
theorem notifiedValues_alternate (failureThreshold : Int) (listeners : Nat) (m : Monitor)
    (ops : List MonitorOp) :
    (notifiedValues failureThreshold listeners m ops).IsChain (· ≠ ·) ∧
      ∀ v, (notifiedValues failureThreshold listeners m ops).head? = some v →
        m.isOnline = !v := by
  induction ops generalizing m with
  | nil => exact ⟨List.isChain_nil, fun v hv => (nomatch hv)⟩
  | cons op ops ih =>
      obtain ⟨hchain, hfirst⟩ := ih (monitorStep failureThreshold listeners m op)
      rw [isOnline_monitorStep] at hfirst
      rw [notifiedValues_cons]
      cases hvalue : notified failureThreshold m op with
      | none =>
          rw [hvalue] at hfirst
          exact ⟨hchain, hfirst⟩
      | some w =>
          rw [hvalue] at hfirst
          refine ⟨List.isChain_cons.mpr ⟨fun v hv => ?_, hchain⟩, fun v hv => ?_⟩
          · have hstate : w = !v := hfirst v hv
            rw [hstate]
            cases v <;> decide
          · obtain rfl := Option.some.inj hv
            exact notified_ne hvalue

/-- One listener is told what is passed on: no notification can overtake another. -/
theorem tells_monitorStep {m : Monitor} {history : List Bool}
    (h : m.notifications.Tells 1 history) (op : MonitorOp) :
    (monitorStep failureThreshold 1 m op).notifications.Tells 1
      (history ++ (notified failureThreshold m op).toList) := by
  cases op with
  | resume i =>
      have hok : m.notifications.overtakes 1 i = false := by
        unfold FanOut.overtakes
        split
        next => rfl
        next a ha =>
          have hstarted := h.started a (List.mem_of_getElem? ha)
          rw [decide_eq_false (by omega), Bool.false_and]
      show (m.notifications.resume 1 i).Tells 1 (history ++ [])
      rw [List.append_nil]
      exact h.resume hok
  | update now checkResult =>
      show (updateState failureThreshold 1 m now checkResult).notifications.Tells 1 _
      rw [updateState_eq]
      cases notified failureThreshold m (.update now checkResult) with
      | some v =>
          have hsame : (m.changed now v).notifications = m.notifications := by
            cases v <;> rfl
          show ((m.changed now v).notifications.announce 1 v).Tells 1 (history ++ [v])
          rw [hsame]
          exact h.announce v Nat.zero_lt_one
      | none =>
          have hsame : (m.counted now checkResult).notifications = m.notifications := by
            cases checkResult <;> rfl
          show (m.counted now checkResult).notifications.Tells 1 (history ++ [])
          rw [hsame, List.append_nil]
          exact h

theorem tells_run {m : Monitor} {history : List Bool} (h : m.notifications.Tells 1 history)
    (ops : List MonitorOp) :
    (run (monitorStep failureThreshold 1) m ops).notifications.Tells 1
      (history ++ notifiedValues failureThreshold 1 m ops) := by
  induction ops generalizing m history with
  | nil =>
      show m.notifications.Tells 1 (history ++ [])
      rw [List.append_nil]
      exact h
  | cons op ops ih =>
      rw [notifiedValues_cons, ← List.append_assoc, run_cons]
      exact ih (tells_monitorStep h op)

/-- **A SINGLE LISTENER** was called with these values. -/
theorem received_eq_notifiedValues (ops : List MonitorOp) :
    (run (monitorStep failureThreshold 1) {} ops).notifications.received 0
      = notifiedValues failureThreshold 1 {} ops := by
  have hnone : ({} : Monitor).notifications.Tells 1 [] := FanOut.tells_empty 1
  have htells : (run (monitorStep failureThreshold 1) {} ops).notifications.Tells 1
      ([] ++ notifiedValues failureThreshold 1 {} ops) := tells_run hnone ops
  have htold := htells.told 0 Nat.zero_lt_one
  rwa [FanOut.waits_eq_nil htells.started, List.append_nil, List.nil_append] at htold

/-- **HYSTERESIS.**  For any threshold from 1 on, any listeners and any checks, however their
calls overlap: in every state of the run the monitor is offline exactly if the last checks
failed as often as the threshold says, and the values passed to the listeners over the run
alternate from `False` on.  They are the values that `_update_state` passes on, and those that
a single listener is called with. -/
theorem monitor_hysteresis (failureThreshold : Int) (hthreshold : 1 ≤ failureThreshold)
    (listeners : Nat) (ops : List MonitorOp) :
    Always (monitorStep failureThreshold listeners) (Hysteresis failureThreshold) {} ops ∧
      AlternatesFromFalse (notifiedValues failureThreshold listeners {} ops) ∧
      (∀ m now checkResult, updateState failureThreshold listeners m now checkResult
        = (notified failureThreshold m (.update now checkResult)).elim (m.counted now checkResult)
          (fun v => notifyListeners listeners (m.changed now v) v)) ∧
      (run (monitorStep failureThreshold 1) {} ops).notifications.received 0
        = notifiedValues failureThreshold 1 {} ops := by
  refine ⟨?_, ?_, fun m now checkResult => ?_, received_eq_notifiedValues ops⟩
  · exact always_of_step (fun _ op h _ => h.step hthreshold op) (hysteresis_initial hthreshold)
      (along_true _ ops)
  · obtain ⟨hchain, hfirst⟩ := notifiedValues_alternate failureThreshold listeners {} ops
    refine ⟨hchain, fun v hv => ?_⟩
    have hwas : true = !v := hfirst v hv
    simpa using hwas.symm
  · rw [updateState_eq]
    cases notified failureThreshold m (.update now checkResult) <;> rfl

/-- Two failures of three, a success, and then the loss and the return of the connection while
the first listener is still busy with the loss. -/
theorem monitor_hysteresis_flapping :
    Always (monitorStep 3 2) (Hysteresis 3) {}
        [.update 0 false, .update 1 false, .update 2 true, .update 3 false, .update 4 false,
          .update 5 false, .update 6 true, .resume 0] ∧
      AlternatesFromFalse [false, true] := by
  obtain ⟨halways, halternates, -, -⟩ := monitor_hysteresis 3 (by decide) 2
    [.update 0 false, .update 1 false, .update 2 true, .update 3 false, .update 4 false,
      .update 5 false, .update 6 true, .resume 0]
  exact ⟨halways, halternates⟩

end PureBoot.Agent
