/-
  PureBoot.Lifecycle.StateMachine — the node lifecycle and the state service.

  Embeds `core/state_machine.py` (the transition table and `can_transition`),
  the rows of `db/models.py` the lifecycle reads and writes (`Node`,
  `NodeStateLog`), and `core/state_service.py` (`transition`,
  `handle_install_failure`).  The service is the one place that is MEANT to write
  `node.state`: it validates the move and returns the audit row with it.

  Main results:
    * `transition_ok` — what `transition` does when it does not raise, with the
      guard it checked;
    * `handleInstallFailure_audited` — the same for a failed installation.
-/
import Mathlib.Data.List.Basic
import Mathlib.Tactic.Common

namespace PureBoot.Lifecycle

/-! ## §1. States and transitions. -/

/-- `NodeStateMachine.STATES`. -/
inductive NodeState where
  | discovered
  | pending
  | installing
  | installFailed
  | installed
  | active
  | reprovision
  | deprovisioning
  | migrating
  | servingSource
  | cloningTarget
  | retired
  deriving DecidableEq, Repr

namespace NodeState

/-- The text stored in the `state` column. -/
def name : NodeState → String
  | discovered => "discovered"
  | pending => "pending"
  | installing => "installing"
  | installFailed => "install_failed"
  | installed => "installed"
  | active => "active"
  | reprovision => "reprovision"
  | deprovisioning => "deprovisioning"
  | migrating => "migrating"
  | servingSource => "serving_source"
  | cloningTarget => "cloning_target"
  | retired => "retired"

/-- `NodeStateMachine.TRANSITIONS`. -/
def transitions : NodeState → List NodeState
  | discovered => [pending, cloningTarget]
  | pending => [installing]
  | installing => [installed, installFailed]
  | installFailed => [pending]
  | installed => [active, reprovision, retired]
  | active => [reprovision, deprovisioning, migrating, servingSource, cloningTarget]
  | reprovision => [pending]
  | deprovisioning => [retired]
  | migrating => [active]
  | servingSource => [active]
  | cloningTarget => [installed]
  | retired => []

end NodeState

/-- `NodeStateMachine.can_transition`: an admin can retire from any state, every
other move is looked up in the table. -/
def canTransition (fromState toState : NodeState) : Bool :=
  if toState = .retired then fromState ≠ .retired
  else toState ∈ fromState.transitions

/-- `NodeStateMachine.get_valid_transitions`. -/
def getValidTransitions (fromState : NodeState) : List NodeState :=
  if fromState ≠ .retired ∧ .retired ∉ fromState.transitions
  then fromState.transitions ++ [.retired] else fromState.transitions

/-- The list of valid transitions and the check accept the same moves. -/
theorem mem_getValidTransitions (fromState toState : NodeState) :
    toState ∈ getValidTransitions fromState ↔ canTransition fromState toState = true := by
  cases fromState <;> cases toState <;> decide

/-- No state can be entered from itself. -/
theorem canTransition_irrefl (s : NodeState) : canTransition s s = false := by
  cases s <;> rfl

/-! ## §2. Timestamps and exceptions. -/

/-- A `datetime`: an instant in microseconds, and whether it carries a time zone. -/
structure Timestamp where
  micros : Int
  aware : Bool
  deriving DecidableEq, Repr

/-- The exceptions that can leave a request handler. -/
inductive Exn where
  /-- `fastapi.HTTPException(status_code, detail)`. -/
  | http (statusCode : Nat) (detail : String)
  /-- `InvalidStateTransition(from_state, to_state)`. -/
  | invalidStateTransition (fromState toState : NodeState)
  /-- `ValueError(detail)`. -/
  | valueError (detail : String)
  /-- `TypeError(detail)`. -/
  | typeError (detail : String)
  /-- `sqlalchemy.exc.IntegrityError`. -/
  | integrityError
  /-- `sqlalchemy.exc.MissingGreenlet`: an expired column is read outside of an `await`. -/
  | missingGreenlet
  /-- Any other exception of code this model takes as a parameter. -/
  | other
  deriving DecidableEq, Repr

/-- `str(e)` of an `InvalidStateTransition`. -/
def invalidTransitionText (fromState toState : NodeState) : String :=
  "Invalid state transition from '" ++ fromState.name ++ "' to '" ++ toState.name ++ "'"

/-- `a - b` of two datetimes, in microseconds: Python refuses to subtract a naive
one from an aware one. -/
def Timestamp.sub (a b : Timestamp) : Except Exn Int :=
  if a.aware = b.aware then .ok (a.micros - b.micros)
  else .error (.typeError "can't subtract offset-naive and offset-aware datetimes")

/-- `result.scalar_one_or_none()`: several rows raise `MultipleResultsFound`. -/
def scalarOneOrNone {α : Type} : List α → Except Exn (Option α)
  | [] => .ok none
  | [row] => .ok (some row)
  | _ :: _ :: _ => .error .other

/-- The rows of a query that returned. -/
theorem scalarOneOrNone_returns_iff {α : Type} {rows : List α} :
    (∃ row, scalarOneOrNone rows = .ok row) ↔ rows.length ≤ 1 := by
  cases rows with
  | nil => simp [scalarOneOrNone]
  | cons a rest =>
      cases rest with
      | nil => simp [scalarOneOrNone]
      | cons b rest => simp [scalarOneOrNone]

/-! ## §3. Rows. -/

/-- A value of a JSON object; an array or an object is kept as its text and its truth
value, a float also as the text that a database column of texts makes of it. -/
inductive JsonValue where
  | null
  | bool (b : Bool)
  | int (i : Int)
  | str (s : String)
  | float (text : String) (isTrue : Bool) (stored : Option String)
  | other (text : String) (isTrue : Bool)
  deriving DecidableEq, Repr

/-- `bool(v)`. -/
def JsonValue.truthy : JsonValue → Bool
  | null => false
  | bool b => b
  | int i => i ≠ 0
  | str s => s ≠ ""
  | float _ t _ => t
  | other _ t => t

/-- A value in an f-string. -/
def JsonValue.text : JsonValue → String
  | .null => "None"
  | .bool b => if b then "True" else "False"
  | .int i => toString i
  | .str s => s
  | .float text _ _ => text
  | .other text _ => text

/-- An optional text as a value. -/
def JsonValue.ofText (text : Option String) : JsonValue := text.elim .null .str

/-- What SQLite stores of a value in a column of texts. -/
def JsonValue.column : JsonValue → Option String
  | .null => none
  | .bool b => some (if b then "1" else "0")
  | .int i => some (toString i)
  | .str s => some s
  | .float _ _ stored => stored
  | .other _ _ => none

/-- The driver takes the value as a parameter: neither an array nor an object, and no
integer of more than 64 bits. -/
def JsonValue.binds : JsonValue → Bool
  | .int i => -9223372036854775808 ≤ i ∧ i ≤ 9223372036854775807
  | .other _ _ => false
  | _ => true

/-- A JSON object.  The empty one is stored as `NULL`
(`json.dumps(metadata) if metadata else None`). -/
abbrev JsonDict := List (String × JsonValue)

/-- Who caused a transition (`NodeStateLog.triggered_by`). -/
inductive TriggeredBy where
  | admin
  | bulkOperation
  | nodeReport
  | deployCallback
  deriving DecidableEq, Repr

/-- `db/models.py: Node`, without the columns of the health monitor and of the
disk and command endpoints. -/
structure Node where
  id : String
  macAddress : String
  hostname : Option String := none
  ipAddress : Option String := none
  state : NodeState := .discovered
  workflowId : Option String := none
  vendor : Option String := none
  model : Option String := none
  serialNumber : Option String := none
  systemUuid : Option String := none
  arch : String := "x86_64"
  bootMode : String := "bios"
  piModel : Option String := none
  groupId : Option String := none
  bootCount : Nat := 0
  lastBootAt : Option Timestamp := none
  lastIpChangeAt : Option Timestamp := none
  previousIpAddress : Option String := none
  lastSeenAt : Option Timestamp := none
  installAttempts : Int := 0
  lastInstallError : Option String := none
  stateChangedAt : Option Timestamp := none
  deriving DecidableEq, Repr

/-- `db/models.py: NodeStateLog`; rows are kept in creation order. -/
structure NodeStateLog where
  nodeId : String
  fromState : NodeState
  toState : NodeState
  triggeredBy : TriggeredBy
  userId : Option String
  comment : Option String
  metadataJson : Option JsonDict
  deriving DecidableEq, Repr

/-! ## §4. `StateTransitionService`. -/

/-- `MAX_INSTALL_ATTEMPTS`. -/
def maxInstallAttempts : Int := 3

/-- `json.dumps(metadata) if metadata else None`. -/
def dumps (metadata : JsonDict) : Option JsonDict :=
  if metadata = [] then none else some metadata

/-- `StateTransitionService.transition`: the updated node and its audit row. -/
def transition (now : Timestamp) (node : Node) (toState : NodeState)
    (triggeredBy : TriggeredBy) (comment : Option String) (metadata : JsonDict)
    (force : Bool) : Except Exn (Node × NodeStateLog) :=
  if node.state = .installFailed ∧ toState = .pending ∧ force = false
      ∧ maxInstallAttempts ≤ node.installAttempts then
    .error (.valueError
      "Max install attempts (3) exceeded. Use force=true to reset and retry.")
  else if force = false ∧ canTransition node.state toState = false then
    .error (.invalidStateTransition node.state toState)
  else
    let moved := { node with state := toState, stateChangedAt := some now }
    -- counters restart on force and on a successful install
    let counted := if force = true ∨ toState = .installed
      then { moved with installAttempts := 0, lastInstallError := none } else moved
    .ok (counted,
      { nodeId := node.id, fromState := node.state, toState, triggeredBy,
        userId := none, comment, metadataJson := dumps metadata })

/-- `StateTransitionService.handle_install_failure`: the node and the audit rows
it adds (none while retries are left). -/
def handleInstallFailure (now : Timestamp) (node : Node) (error : JsonValue) :
    Except Exn (Node × List NodeStateLog) :=
  let failed := { node with
    installAttempts := node.installAttempts + 1, lastInstallError := error.column }
  if maxInstallAttempts ≤ failed.installAttempts then
    match transition now failed .installFailed .nodeReport none
        [("error", error), ("attempt", .int failed.installAttempts)] false with
    | .ok (node', log) => .ok (node', [log])
    | .error e => .error e
  else .ok (failed, [])

/-- **The service's contract, per node**: what a move of `node` to `node'` that
adds `logs` may be — none with no row, or one with exactly one row that names it
and that the state machine allows. -/
inductive Audited (node node' : Node) : List NodeStateLog → Prop where
  | same : node'.state = node.state → Audited node node' []
  | moved (log : NodeStateLog) : log.nodeId = node.id → log.fromState = node.state →
      log.toState = node'.state → canTransition node.state node'.state = true →
      Audited node node' [log]

/-- What `transition` does when it does not raise. -/
theorem transition_ok {now : Timestamp} {node node' : Node} {toState : NodeState}
    {tb : TriggeredBy} {c : Option String} {m : JsonDict} {force : Bool} {log : NodeStateLog}
    (h : transition now node toState tb c m force = .ok (node', log)) :
    node'.id = node.id ∧ node'.state = toState ∧ log.nodeId = node.id
      ∧ log.fromState = node.state ∧ log.toState = toState
      ∧ (force = false → canTransition node.state toState = true) := by
  unfold transition at h
  split at h
  next => cases h
  next =>
    split at h
    next => cases h
    next hguard =>
      injection h with h
      injection h with hn hl
      subst hl
      refine ⟨?_, ?_, rfl, rfl, rfl, fun hf => ?_⟩
      · rw [← hn]; split <;> rfl
      · rw [← hn]; split <;> rfl
      · simpa [hf] using hguard

/-- An unforced transition is audited. -/
theorem transition_audited {now : Timestamp} {node node' : Node} {toState : NodeState}
    {tb : TriggeredBy} {c : Option String} {m : JsonDict} {log : NodeStateLog}
    (h : transition now node toState tb c m false = .ok (node', log)) :
    node'.id = node.id ∧ Audited node node' [log] := by
  obtain ⟨hid, hst, hlid, hfrom, hto, hcan⟩ := transition_ok h
  refine ⟨hid, .moved log hlid hfrom (hto.trans hst.symm) ?_⟩
  rw [hst]
  exact hcan rfl

/-- A recorded installation failure is audited: either the node keeps its state,
or it moves by one allowed transition. -/
theorem handleInstallFailure_audited {now : Timestamp} {node node' : Node}
    {error : JsonValue} {logs : List NodeStateLog}
    (h : handleInstallFailure now node error = .ok (node', logs)) :
    node'.id = node.id ∧ Audited node node' logs := by
  unfold handleInstallFailure at h
  dsimp only at h
  split at h
  next =>
    split at h
    next n l ht =>
      injection h with h
      injection h with hn hl
      subst hn hl
      obtain ⟨hid, hst, hlid, hfrom, hto, hcan⟩ := transition_ok ht
      refine ⟨hid, .moved l hlid hfrom (hto.trans hst.symm) ?_⟩
      rw [hst]
      exact hcan rfl
    next => cases h
  next =>
    injection h with h
    injection h with hn hl
    subst hn hl
    exact ⟨rfl, .same rfl⟩

end PureBoot.Lifecycle
