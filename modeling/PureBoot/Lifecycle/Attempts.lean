/-
  PureBoot.Lifecycle.Attempts — the installation COUNTER of a node.

  `install_attempts` is raised by `handle_install_failure`, set back by a forced
  change, by a finished installation and by the two handlers of a started one, and
  tested when a failed node is sent to `pending` again.  The bound alone is not
  kept by a step: a clone boot puts a node in `pending` without looking at the
  counter.  `Counted` adds what makes that harmless, that the counter is 0 outside
  an installation.

  Main results:
    * `NodeStep.counted` — one step of a node keeps the counter invariant;
    * `install_attempts_bounded` — the counter in every state of every run.
-/
import PureBoot.Lifecycle.NodeSteps

namespace PureBoot.Lifecycle

open PureBoot.Lib

/-! ## §1. The counter. -/

/-- The states in which failed attempts may be on the counter. -/
def counting (s : NodeState) : Bool :=
  s = .pending || s = .installing || s = .installFailed || s = .retired

/-- The states a retry can still come from. -/
def trying (s : NodeState) : Bool :=
  s = .pending || s = .installing

/-- **The counter invariant**: bounded, short of the maximum while the node is being tried,
and 0 outside an installation. -/
structure Counted (node : Node) : Prop where
  nonneg : 0 ≤ node.installAttempts
  le_max : node.installAttempts ≤ maxInstallAttempts
  lt_of_trying : trying node.state = true → node.installAttempts < maxInstallAttempts
  zero_of_not_counting : counting node.state = false → node.installAttempts = 0

/-- A counter at 0 is right in every state. -/
theorem counted_of_zero {node : Node} (h : node.installAttempts = 0) : Counted node := by
  constructor
  · omega
  · rw [h]
    decide
  · intro _
    rw [h]
    decide
  · intro _
    exact h

theorem Counted.of_kept {node node' : Node} (hk : Kept node node') (h : Counted node) :
    Counted node' := by
  constructor
  · rw [hk.installAttempts]
    exact h.nonneg
  · rw [hk.installAttempts]
    exact h.le_max
  · rw [hk.installAttempts, hk.state]
    exact h.lt_of_trying
  · rw [hk.installAttempts, hk.state]
    exact h.zero_of_not_counting

/-- What a transition does to the counter, with the guards it passed. -/
theorem transition_attempts {now : Timestamp} {node node' : Node} {toState : NodeState}
    {tb : TriggeredBy} {c : Option String} {m : JsonDict} {force : Bool} {log : NodeStateLog}
    (h : transition now node toState tb c m force = .ok (node', log)) :
    node'.installAttempts = 0 ∨
      (node'.installAttempts = node.installAttempts ∧ toState ≠ .installed
        ∧ canTransition node.state toState = true
        ∧ (node.state = .installFailed → toState = .pending →
            node.installAttempts < maxInstallAttempts)) := by
  unfold transition at h
  obtain ⟨hmax, h⟩ := ite_error_eq_ok.mp h
  obtain ⟨hcan, h⟩ := ite_error_eq_ok.mp h
  obtain ⟨hn, -⟩ := ok_pair_inj h
  rw [← hn]
  split
  next => exact .inl rfl
  next hkeep =>
    rw [not_or] at hkeep
    have hforce : force = false := by simpa using hkeep.1
    refine .inr ⟨rfl, hkeep.2, by simpa [hforce] using hcan, ?_⟩
    intro hfrom hto
    exact Int.not_le.mp (fun hle => hmax ⟨hfrom, hto, hforce, hle⟩)

/-- From a state without a counter the machine allows, without force, only a fresh start. -/
theorem canTransition_counting {fromState toState : NodeState}
    (hcan : canTransition fromState toState = true) (hne : toState ≠ .installed)
    (h : counting toState = false) : counting fromState = false := by
  revert hcan hne h
  cases fromState <;> cases toState <;> decide

/-- A tried state is entered from a tried one, from a failed one by the checked retry, or
from a state without a counter. -/
theorem canTransition_trying {fromState toState : NodeState}
    (hcan : canTransition fromState toState = true) (h : trying toState = true) :
    trying fromState = true ∨ (fromState = .installFailed ∧ toState = .pending)
      ∨ counting fromState = false := by
  revert hcan h
  cases fromState <;> cases toState <;> decide

theorem transition_counted {now : Timestamp} {node node' : Node} {toState : NodeState}
    {tb : TriggeredBy} {c : Option String} {m : JsonDict} {force : Bool} {log : NodeStateLog}
    (hc : Counted node) (h : transition now node toState tb c m force = .ok (node', log)) :
    Counted node' := by
  have hst : node'.state = toState := (transition_ok h).2.1
  rcases transition_attempts h with hzero | ⟨hkeep, hne, hcan, hretry⟩
  · exact counted_of_zero hzero
  · constructor
    · rw [hkeep]
      exact hc.nonneg
    · rw [hkeep]
      exact hc.le_max
    · intro htry
      rw [hst] at htry
      rw [hkeep]
      rcases canTransition_trying hcan htry with h | ⟨hfrom, hto⟩ | h
      · exact hc.lt_of_trying h
      · exact hretry hfrom hto
      · rw [hc.zero_of_not_counting h]
        decide
    · intro hcount
      rw [hst] at hcount
      rw [hkeep]
      exact hc.zero_of_not_counting (canTransition_counting hcan hne hcount)

/-- A failure counted while the node is tried: below the maximum the node keeps its state,
at the maximum it becomes `install_failed`. -/
theorem handleInstallFailure_counted {now : Timestamp} {node node' : Node}
    {error : JsonValue} {logs : List NodeStateLog} (hc : Counted node)
    (htry : trying node.state = true) (h : handleInstallFailure now node error = .ok (node', logs)) :
    Counted node' := by
  have hlt := hc.lt_of_trying htry
  have hnonneg := hc.nonneg
  unfold handleInstallFailure at h
  dsimp only at h
  split at h
  next hmax =>
    split at h
    next n l ht =>
      obtain ⟨rfl, -⟩ := ok_pair_inj h
      have hst : n.state = .installFailed := (transition_ok ht).2.1
      rcases transition_attempts ht with hzero | ⟨hkeep, -⟩
      · exact counted_of_zero hzero
      · dsimp only at hkeep
        constructor
        · omega
        · omega
        · intro h
          rw [hst] at h
          cases h
        · intro h
          rw [hst] at h
          cases h
    next => cases h
  next hmax =>
    obtain ⟨rfl, -⟩ := ok_pair_inj h
    constructor
    · show 0 ≤ node.installAttempts + 1
      omega
    · show node.installAttempts + 1 ≤ maxInstallAttempts
      omega
    · intro _
      show node.installAttempts + 1 < maxInstallAttempts
      omega
    · -- a tried state is one with a counter
      intro h
      have hst : trying node.state = false := by
        revert h
        show counting node.state = false → _
        cases node.state <;> decide
      rw [htry] at hst
      cases hst

theorem bootForClone_counted {now : Timestamp} {workflowId : String} {node : Node}
    (hc : Counted node) : Counted (bootForClone now workflowId node) := by
  by_cases hb : cloneBootable node.state = true
  · -- the three states a clone boot starts from have no counter
    have hcount : counting node.state = false := by
      revert hb
      cases node.state <;> decide
    refine counted_of_zero ?_
    unfold bootForClone
    dsimp only
    split <;> exact hc.zero_of_not_counting hcount
  · refine Counted.of_kept ⟨bootForClone_id .., ?_, ?_, (NodeStep.pushed _).seen⟩ hc
    · rw [bootForClone_state, if_neg hb]
    · unfold bootForClone
      dsimp only
      split <;> rfl

/-! ## §2. Steps, requests and runs. -/

/-- **ONE STEP OF A NODE** keeps the counter invariant. -/
theorem NodeStep.counted {now : Timestamp} {node node' : Node} (h : NodeStep now node node')
    (hc : Counted node) : Counted node' := by
  cases h with
  | kept hk => exact hc.of_kept hk
  | moved hk ht => exact transition_counted (hc.of_kept hk) ht
  | started hk ht => exact counted_of_zero rfl
  | failed hk hst ht =>
      refine handleInstallFailure_counted (hc.of_kept hk) ?_ ht
      rcases hst with hst | hst <;> rw [hst] <;> rfl
  | pushed workflowId => exact bootForClone_counted hc

/-- Every node's counter satisfies the invariant. -/
def AllCounted (db : DB) : Prop :=
  ∀ node ∈ db.nodes.rows, Counted node

/-- **ONE REQUEST** keeps every node's counter. -/
theorem allCounted_exec (env : Env) (db : DB) (r : Request) (h : AllCounted db) :
    AllCounted (exec env db r) := by
  intro node' hmem
  rcases (exec_nodes env db r).prev node' hmem with ⟨node, hnode, hstep⟩ | hfresh
  · exact hstep.counted (h node hnode)
  · exact counted_of_zero hfresh.installAttempts

/-- What the counter promises of a node. -/
structure AttemptsOk (node : Node) : Prop where
  nonneg : 0 ≤ node.installAttempts
  le_three : node.installAttempts ≤ 3
  lt_three : node.state = .installing ∨ node.state = .pending → node.installAttempts < 3
  at_three : node.installAttempts = 3 → node.state = .installFailed ∨ node.state = .retired

theorem Counted.attemptsOk {node : Node} (h : Counted node) : AttemptsOk node := by
  have hlt : trying node.state = true → node.installAttempts < 3 := h.lt_of_trying
  refine ⟨h.nonneg, h.le_max, ?_, ?_⟩
  · rintro (hst | hst) <;> exact hlt (by rw [hst]; rfl)
  · intro h3
    have hzero := h.zero_of_not_counting
    -- at 3 the node is not tried, and it is in a state with a counter
    revert hlt hzero
    rw [h3]
    cases node.state <;> decide

/-- **THE INSTALL ATTEMPT COUNTER**: in every state of every run of requests, forced changes
included, each node's counter lies between 0 and 3, is below 3 while the node is pending or
installing, and is 3 only in `install_failed` and `retired`. -/
theorem install_attempts_bounded (env : Env) (reqs : List Request) :
    Always (exec env) (fun db => ∀ node ∈ db.nodes.rows, AttemptsOk node) DB.empty reqs := by
  have hstep : ∀ db r, AllCounted db → (fun _ _ => True : DB → Request → Prop) db r →
      AllCounted (exec env db r) := fun db r h _ => allCounted_exec env db r h
  have hempty : AllCounted DB.empty := by
    intro node hmem
    simp [DB.empty] at hmem
  exact (always_of_step hstep hempty (along_true DB.empty reqs)).mono
    (fun db h node hmem => (h node hmem).attemptsOk)

end PureBoot.Lifecycle
