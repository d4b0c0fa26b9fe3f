/-
  PureBoot.Agent.Connectivity — the CONNECTIVITY MONITOR and its listeners.

  Embeds `ConnectivityMonitor` of `agent/connectivity.py`: `_update_state`, which the loop of
  the monitor and every `force_check` call with the result of a check, and
  `_notify_listeners`.  The state changes at once; the listeners are awaited one after
  another, and while one is, other checks may change the state again and notify on their
  own.  Nothing keeps the notifications in order, so a later one can overtake an earlier one
  at a listener that is slow.  The listeners stay the same, and the monitor is not stopped.

  Main results:
    * `monitorStep_inv` — each listener has received a beginning of the changes, in order;
    * `listeners_converge_in_order` — so values alternate, and the last one is the state when
      no update is in progress.
-/
import Mathlib.Data.List.Chain
import PureBoot.Lib.FanOut
import PureBoot.Lib.Run

namespace PureBoot.Agent

open PureBoot.Lib

/-! ## §1. The monitor. -/

/-- The fields of a `ConnectivityMonitor` that checks change, with the notifications under
way and the values each listener was called with.  Times are in microseconds. -/
structure Monitor where
  isOnline : Bool := true
  lastOnlineAt : Option Int := none
  offlineSince : Option Int := none
  consecutiveFailures : Int := 0
  consecutiveSuccesses : Int := 0
  notifications : FanOut Bool := .empty

section Updates

variable (failureThreshold : Int) (listeners : Nat)

/-- `_notify_listeners`, up to the first listener that suspends. -/
def notifyListeners (m : Monitor) (isOnline : Bool) : Monitor :=
  { m with notifications := m.notifications.announce listeners isOnline }

/-- The counters after a success. -/
def Monitor.succeeded (m : Monitor) (now : Int) : Monitor :=
  { m with
    consecutiveFailures := 0
    consecutiveSuccesses := m.consecutiveSuccesses + 1
    lastOnlineAt := some now }

/-- The counters after a failure. -/
def Monitor.failed (m : Monitor) : Monitor :=
  { m with
    consecutiveSuccesses := 0
    consecutiveFailures := m.consecutiveFailures + 1 }

/-- `_update_state`. -/
def updateState (m : Monitor) (now : Int) (checkResult : Bool) : Monitor :=
  if checkResult then
    if m.isOnline = false then
      notifyListeners listeners { m.succeeded now with isOnline := true, offlineSince := none } true
    else m.succeeded now
  else if m.isOnline = true ∧ failureThreshold ≤ m.failed.consecutiveFailures then
    notifyListeners listeners { m.failed with isOnline := false, offlineSince := some now } false
  else m.failed

/-- A check of the loop or of a `force_check` has its result, or the listener that a
notification waits for returns (or raises, which is logged). -/
inductive MonitorOp where
  | update (now : Int) (checkResult : Bool)
  | resume (notification : Nat)
  deriving DecidableEq, Repr

def monitorStep (m : Monitor) : MonitorOp → Monitor
  | .update now checkResult => updateState failureThreshold listeners m now checkResult
  | .resume i => { m with notifications := m.notifications.resume listeners i }

/-- **LISTENERS CONVERGE**: with no update in progress the last value a listener received is
the state, and the values of each listener alternate. -/
structure Converged (m : Monitor) : Prop where
  last : m.notifications.pending = [] → ∀ j < listeners, ∀ v,
    (m.notifications.received j).getLast? = some v → v = m.isOnline
  alternate : ∀ j < listeners, (m.notifications.received j).IsChain (· ≠ ·)

/-- A notification that goes on overtakes no earlier one. -/
def keepsOrder (m : Monitor) : MonitorOp → Bool
  | .update .. => true
  | .resume i => !m.notifications.overtakes listeners i

/-- The listeners were told a history of changes that leads to the state. -/
def MonitorInv (m : Monitor) : Prop :=
  ∃ history : List Bool, m.notifications.Tells listeners history ∧
    history.IsChain (· ≠ ·) ∧ ∀ v, history.getLast? = some v → v = m.isOnline

end Updates

/-! ## §2. Order is kept. -/

variable {failureThreshold : Int} {listeners : Nat}

theorem monitorInv_initial : MonitorInv listeners {} :=
  ⟨[], FanOut.tells_empty listeners, List.isChain_nil, fun _ h => by cases h⟩

/-- A history that leads to one state goes on with the other. -/
theorem alternating_append {history : List Bool} {v : Bool} (h : history.IsChain (· ≠ ·))
    (hlast : ∀ w, history.getLast? = some w → w = !v) : (history ++ [v]).IsChain (· ≠ ·) := by
  refine h.append (List.isChain_singleton v) ?_
  intro x hx y hy
  have hxv : x = !v := hlast x hx
  have hyv : y = v := by simpa using hy.symm
  rw [hxv, hyv]
  cases v <;> decide

/-- A change of the state and its notification. -/
theorem notifyListeners_inv {m : Monitor} (h : MonitorInv listeners m) {m' : Monitor} {v : Bool}
    (hwas : m.isOnline = !v) (hnow : m'.isOnline = v)
    (hsame : m'.notifications = m.notifications) :
    MonitorInv listeners (notifyListeners listeners m' v) := by
  obtain ⟨history, htells, hchain, hlast⟩ := h
  by_cases hn : 0 < listeners
  · refine ⟨history ++ [v], ?_, ?_, ?_⟩
    · show FanOut.Tells listeners (m'.notifications.announce listeners v) _
      rw [hsame]
      exact htells.announce v hn
    · exact alternating_append hchain (fun w hw => (hlast w hw).trans hwas)
    · intro w hw
      rw [List.getLast?_concat] at hw
      exact (Option.some.inj hw).symm.trans hnow.symm
  · -- no listener, no history
    refine ⟨[], ⟨?_, fun j hj => absurd hj (by omega)⟩, List.isChain_nil, fun _ hw => by cases hw⟩
    show ∀ a ∈ (m'.notifications.announce listeners v).pending, 1 ≤ a.next
    rw [FanOut.announce, if_neg hn, hsame]
    exact htells.started

theorem updateState_inv {m : Monitor} (h : MonitorInv listeners m) (now : Int)
    (checkResult : Bool) :
    MonitorInv listeners (updateState failureThreshold listeners m now checkResult) := by
  unfold updateState
  cases checkResult with
  | true =>
      rw [if_pos rfl]
      split
      next hoff => exact notifyListeners_inv h hoff rfl rfl
      next => exact h
  | false =>
      rw [if_neg (by simp)]
      split
      next hon => exact notifyListeners_inv h hon.1 rfl rfl
      next => exact h

/-- **EVERY STEP** in which no notification is overtaken keeps the order. -/
theorem monitorStep_inv {m : Monitor} {op : MonitorOp} (h : MonitorInv listeners m)
    (horder : keepsOrder listeners m op = true) :
    MonitorInv listeners (monitorStep failureThreshold listeners m op) := by
  cases op with
  | update now checkResult => exact updateState_inv h now checkResult
  | resume i =>
      obtain ⟨history, htells, hchain, hlast⟩ := h
      exact ⟨history, htells.resume (by simpa [keepsOrder] using horder), hchain, hlast⟩

theorem MonitorInv.converged {m : Monitor} (h : MonitorInv listeners m) :
    Converged listeners m := by
  obtain ⟨history, htells, hchain, hlast⟩ := h
  constructor
  · intro hidle j hj v hv
    rw [htells.all_told hidle hj] at hv
    exact hlast v hv
  · intro j hj
    exact hchain.prefix (htells.isPrefix hj)

/-- **LISTENERS CONVERGE.**  For any checks and any listeners, in every run in which no
notification overtakes an earlier one at a listener, the values each listener receives
alternate and the last one is the state whenever no update is in progress. -/
theorem listeners_converge_in_order (failureThreshold : Int) (listeners : Nat)
    (ops : List MonitorOp)
    (horder : Along (monitorStep failureThreshold listeners)
      (fun m op => keepsOrder listeners m op = true) {} ops) :
    Always (monitorStep failureThreshold listeners) (Converged listeners) {} ops :=
  (always_of_step (fun _ _ => monitorStep_inv) monitorInv_initial horder).mono
    (fun _ h => h.converged)

/-- Two listeners are told that the connection is lost, and then that it is back. -/
theorem listeners_converge_in_order_twice :
    Along (monitorStep 1 2) (fun m op => keepsOrder 2 m op = true) {}
        [.update 0 false, .update 1 true, .resume 0, .resume 1, .resume 0, .resume 0] ∧
      Always (monitorStep 1 2) (Converged 2) {}
        [.update 0 false, .update 1 true, .resume 0, .resume 1, .resume 0, .resume 0] := by
  have horder : Along (monitorStep 1 2) (fun m op => keepsOrder 2 m op = true) {}
      [.update 0 false, .update 1 true, .resume 0, .resume 1, .resume 0, .resume 0] := by
    decide
  exact ⟨horder, listeners_converge_in_order 1 2 _ horder⟩

/-- The connection is lost and comes back while the first listener is busy with the loss: the
second one is told of the return first, and believes the loss from then on. -/
theorem overtaken_listener_diverges :
    ¬ Always (monitorStep 3 2) (Converged 2) {}
      [.update 0 false, .update 1 false, .update 2 false, .update 3 true, .resume 1, .resume 1,
        .resume 0, .resume 0] := by
  intro h
  have hlast := h.last.last (by decide) 1 (by decide) false (by decide)
  exact absurd hlast (by decide)

end PureBoot.Agent
