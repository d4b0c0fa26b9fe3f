/-
  PureBoot.Workflows.Api — the WORKFLOWS OF THE DATABASE.

  Embeds `create_workflow`, `get_workflow`, `update_workflow` and `delete_workflow` of
  `api/routes/workflows.py`.  They declare a `Session`, and `get_db` gives them an
  `AsyncSession`, on which their first query raises; both are embedded.  A workflow is a row
  and the rows of its steps; it is deleted by taking it out of use.  The database refuses two
  workflows of one name, in use or not, and two steps of one workflow with one sequence
  number.  The steps are replaced in one flush, which inserts the new ones before it
  deletes the old ones.

  Main results:
    * `createWorkflow_ok`, `updateWorkflow_ok`, `deleteWorkflow_ok` — what a request that
      is carried out has written;
    * `specs_perform`, `active?_perform` — the steps of every workflow afterwards, and the
      workflows in use;
    * `stepsKnown_exec` — every step belongs to a workflow.
-/
import PureBoot.Lib.Run
import PureBoot.Lib.Unique
import PureBoot.Lifecycle.StateMachine

namespace PureBoot.Workflows

open PureBoot.Lib
open PureBoot.Lifecycle (JsonDict JsonValue)

/-! ## §1. Rows and requests. -/

/-- What `uuid.uuid4` draws, as a text. -/
structure Uuid where
  text : String
  length : text.length = 36

inductive OsFamily where
  | linux | windows | bsd
  deriving DecidableEq, Repr

inductive Architecture where
  | x86_64 | aarch64 | armv7l
  deriving DecidableEq, Repr

inductive BootMode where
  | bios | uefi
  deriving DecidableEq, Repr

inductive StepType where
  | boot | script | reboot | wait | cloudInit | diskScan | partition
  deriving DecidableEq, Repr

inductive OnFailure where
  | fail | retry | skip | rollback
  deriving DecidableEq, Repr

/-- The states that a step may put its node in. -/
inductive NextState where
  | discovered | pending | installing | installed | active | reprovision | retired
  deriving DecidableEq, Repr

/-- `db/models.py: Workflow`. -/
structure Workflow where
  id : String
  name : String
  description : String
  osFamily : OsFamily
  architecture : Architecture
  bootMode : BootMode
  isActive : Bool
  deriving DecidableEq, Repr

/-- `db/models.py: WorkflowStep`; the column `config_json` has the text of `config`. -/
structure WorkflowStep where
  id : String
  workflowId : String
  sequence : Nat
  name : String
  type : StepType
  config : JsonDict
  timeoutSeconds : Nat
  onFailure : OnFailure
  maxRetries : Nat
  retryDelaySeconds : Nat
  nextState : Option NextState
  deriving DecidableEq, Repr

/-- `uq_workflow_step_sequence`. -/
def WorkflowStep.place (s : WorkflowStep) : String × Nat := (s.workflowId, s.sequence)

structure WorkflowDb where
  workflows : UniqueTable Workflow.id Workflow.name
  steps : UniqueTable WorkflowStep.id WorkflowStep.place

/-- No workflows yet. -/
def WorkflowDb.empty : WorkflowDb where
  workflows := UniqueTable.empty
  steps := UniqueTable.empty

/-- `WorkflowStepCreate`. -/
structure WorkflowStepCreate where
  sequence : Nat
  name : String
  type : StepType
  config : Option JsonDict := none
  timeoutSeconds : Nat := 300
  onFailure : OnFailure := .fail
  maxRetries : Nat := 0
  retryDelaySeconds : Nat := 30
  nextState : Option NextState := none
  sequence_pos : 1 ≤ sequence
  name_length : 1 ≤ name.length ∧ name.length ≤ 255
  timeout_pos : 1 ≤ timeoutSeconds

/-- `WorkflowCreate` and `WorkflowUpdate`, which have the same fields. -/
structure WorkflowInput where
  name : String
  description : Option String := none
  osFamily : OsFamily
  architecture : Option Architecture := none
  bootMode : Option BootMode := none
  steps : List WorkflowStepCreate := []
  name_length : 1 ≤ name.length ∧ name.length ≤ 255

inductive Exn where
  /-- `HTTPException(status_code, detail)`. -/
  | http (statusCode : Nat) (detail : String)
  /-- `sqlalchemy.exc.IntegrityError`. -/
  | integrityError
  /-- A coroutine has no `scalar_one_or_none`. -/
  | attributeError
  deriving DecidableEq, Repr

/-- What `get_db` yields. -/
inductive SessionKind where
  /-- The `Session` that the handlers declare, and that the tests give them. -/
  | sync
  /-- The `AsyncSession` of `db/database.py`. -/
  | async
  deriving DecidableEq, Repr

/-- A handler that begins with `db.execute(…).scalar_one_or_none()`: the `execute` of an
`AsyncSession` is a coroutine. -/
def SessionKind.execute {α : Type} (session : SessionKind) (handler : Except Exn α) :
    Except Exn α :=
  match session with
  | .sync => handler
  | .async => .error .attributeError

theorem SessionKind.execute_eq_ok {α : Type} {session : SessionKind} {handler : Except Exn α}
    {a : α} : session.execute handler = .ok a ↔ session = .sync ∧ handler = .ok a := by
  cases session with
  | sync => exact (and_iff_right rfl).symm
  | async => simp [execute]

/-- `WorkflowResponse`. -/
structure WorkflowResponse where
  workflow : Workflow
  steps : List WorkflowStep
  deriving DecidableEq, Repr

/-! ## §2. The handlers. -/

namespace WorkflowDb

/-- The steps of a workflow, in the order of the table. -/
def stepRows (db : WorkflowDb) (workflowId : String) : List WorkflowStep :=
  db.steps.rows.filter (fun s => s.workflowId = workflowId)

/-- `WorkflowResponse.from_workflow`: the steps in the order of their numbers. -/
def response (db : WorkflowDb) (w : Workflow) : WorkflowResponse where
  workflow := w
  steps := (db.stepRows w.id).mergeSort (fun a b => a.sequence ≤ b.sequence)

/-- `Workflow.id == workflow_id, Workflow.is_active == True`. -/
def active? (db : WorkflowDb) (workflowId : String) : Option Workflow :=
  (db.workflows.table.get? workflowId).filter Workflow.isActive

/-- The workflow of a request, with the 404 of every handler. -/
def workflowOf (db : WorkflowDb) (workflowId : String) : Except Exn Workflow :=
  match db.active? workflowId with
  | some w => .ok w
  | none => .error (.http 404 ("Workflow '" ++ workflowId ++ "' not found"))

/-- Another workflow in use has this name. -/
def nameTaken (db : WorkflowDb) (name : String) (other : String → Bool) : Bool :=
  db.workflows.rows.any (fun w => w.name = name && w.isActive && other w.id)

end WorkflowDb

namespace WorkflowInput

/-- The columns of a workflow that a request gives. -/
def row (data : WorkflowInput) (id : String) : Workflow where
  id := id
  name := data.name
  description := data.description.getD ""
  osFamily := data.osFamily
  architecture := data.architecture.getD .x86_64
  bootMode := data.bootMode.getD .bios
  isActive := true

/-- The steps of a request. -/
def stepRows (data : WorkflowInput) (workflowId : String) (uuid : Nat → Uuid) :
    List WorkflowStep :=
  data.steps.mapIdx (fun i s =>
    { id := (uuid i).text, workflowId, sequence := s.sequence, name := s.name, type := s.type,
      config := s.config.getD [], timeoutSeconds := s.timeoutSeconds, onFailure := s.onFailure,
      maxRetries := s.maxRetries, retryDelaySeconds := s.retryDelaySeconds,
      nextState := s.nextState })

/-- No sequence number is given twice. -/
def Sequenced (data : WorkflowInput) : Prop := (data.steps.map WorkflowStepCreate.sequence).Nodup

instance (data : WorkflowInput) : Decidable data.Sequenced :=
  inferInstanceAs (Decidable (List.Nodup _))

end WorkflowInput

def alreadyExists (name : String) : Exn := .http 409 ("Workflow '" ++ name ++ "' already exists")

def notSequenced : Exn := .http 400 "Step sequences must be unique within a workflow"

/-- `create_workflow`. -/
def createWorkflow (session : SessionKind) (db : WorkflowDb) (workflowId : Uuid)
    (uuid : Nat → Uuid) (data : WorkflowInput) : Except Exn (WorkflowResponse × WorkflowDb) :=
  session.execute <|
  if db.nameTaken data.name (fun _ => true) then .error (alreadyExists data.name)
  else if ¬ data.Sequenced then .error notSequenced
  else match db.workflows.insert? (data.row workflowId.text),
      db.steps.insertAll? (data.stepRows workflowId.text uuid) with
    | some workflows, some steps =>
        .ok (WorkflowDb.response ⟨workflows, steps⟩ (data.row workflowId.text),
          ⟨workflows, steps⟩)
    | _, _ => .error .integrityError

/-- `get_workflow`. -/
def getWorkflow (session : SessionKind) (db : WorkflowDb) (workflowId : String) :
    Except Exn WorkflowResponse := session.execute do
  let w ← db.workflowOf workflowId
  .ok (db.response w)

/-- `update_workflow`. -/
def updateWorkflow (session : SessionKind) (db : WorkflowDb) (workflowId : String)
    (uuid : Nat → Uuid) (data : WorkflowInput) : Except Exn (WorkflowResponse × WorkflowDb) :=
    session.execute do
  let w ← db.workflowOf workflowId
  if data.name ≠ w.name ∧ db.nameTaken data.name (fun id => id ≠ workflowId) then
    .error (alreadyExists data.name)
  else if ¬ data.Sequenced then .error notSequenced
  else match db.workflows.save? (data.row w.id),
      -- one flush: the new steps are inserted while the old ones are still there
      db.steps.insertAll? (data.stepRows w.id uuid) with
    | some workflows, some steps =>
        let db' : WorkflowDb := { workflows, steps := steps.delete (fun s =>
          (db.stepRows w.id).any (fun old => old.id = s.id)) }
        .ok (db'.response (data.row w.id), db')
    | _, _ => .error .integrityError

/-- `delete_workflow`. -/
def deleteWorkflow (session : SessionKind) (db : WorkflowDb) (workflowId : String) :
    Except Exn (String × WorkflowDb) := session.execute do
  let w ← db.workflowOf workflowId
  match db.workflows.save? { w with isActive := false } with
  | some workflows => .ok ("Workflow deleted", { db with workflows })
  | none => .error .integrityError

/-- A request that writes. -/
inductive WorkflowRequest where
  /-- `POST /workflows`, with the ids that are drawn. -/
  | create (workflowId : Uuid) (uuid : Nat → Uuid) (data : WorkflowInput)
  /-- `PUT /workflows/{workflow_id}`. -/
  | update (workflowId : String) (uuid : Nat → Uuid) (data : WorkflowInput)
  /-- `DELETE /workflows/{workflow_id}`. -/
  | delete (workflowId : String)

/-- What is written, whatever is answered. -/
def perform (session : SessionKind) (db : WorkflowDb) :
    WorkflowRequest → Except Exn (Unit × WorkflowDb)
  | .create workflowId uuid data =>
      (createWorkflow session db workflowId uuid data).map (fun out => ((), out.2))
  | .update workflowId uuid data =>
      (updateWorkflow session db workflowId uuid data).map (fun out => ((), out.2))
  | .delete workflowId => (deleteWorkflow session db workflowId).map (fun out => ((), out.2))

/-- One request, in its own session. -/
def execWorkflow (session : SessionKind) (db : WorkflowDb) (r : WorkflowRequest) : WorkflowDb :=
  commitOrRollback db (perform session db r)

/-! ## §3. What the handlers have written. -/

namespace WorkflowDb

/-- The same workflows are in use, with the same rows. -/
theorem active?_eq_some_iff {db : WorkflowDb} {workflowId : String} {w : Workflow} :
    db.active? workflowId = some w
      ↔ w ∈ db.workflows.rows ∧ w.id = workflowId ∧ w.isActive = true := by
  unfold active?
  rw [Option.filter_eq_some_iff, Table.get?_eq_some_iff, and_assoc]
  rfl

theorem workflowOf_eq_ok {db : WorkflowDb} {workflowId : String} {w : Workflow} :
    db.workflowOf workflowId = .ok w ↔ db.active? workflowId = some w := by
  unfold workflowOf
  cases db.active? workflowId <;> simp

end WorkflowDb

section

variable {session : SessionKind} {db db' : WorkflowDb} {response : WorkflowResponse}
  {uuid : Nat → Uuid} {data : WorkflowInput}

/-- **WHAT CREATING A WORKFLOW HAS WRITTEN.** -/
theorem createWorkflow_ok {workflowId : Uuid}
    (h : createWorkflow session db workflowId uuid data = .ok (response, db')) :
    data.Sequenced ∧ db.workflows.insert? (data.row workflowId.text) = some db'.workflows ∧
      db'.steps.rows = db.steps.rows ++ data.stepRows workflowId.text uuid ∧
      response = db'.response (data.row workflowId.text) := by
  unfold createWorkflow at h
  obtain ⟨-, h⟩ := SessionKind.execute_eq_ok.mp h
  split at h
  next => cases h
  next =>
    split at h
    next => cases h
    next hsequenced =>
      split at h
      next workflows steps hinsert hsteps =>
        obtain ⟨rfl, rfl⟩ := ok_pair_inj h
        exact ⟨not_not.mp hsequenced, hinsert, UniqueTable.insertAll?_rows hsteps, rfl⟩
      next => cases h

/-- **WHAT UPDATING A WORKFLOW HAS WRITTEN.** -/
theorem updateWorkflow_ok {workflowId : String}
    (h : updateWorkflow session db workflowId uuid data = .ok (response, db')) :
    ∃ w steps, db.active? workflowId = some w ∧ data.Sequenced ∧
      db.workflows.save? (data.row workflowId) = some db'.workflows ∧
      db.steps.insertAll? (data.stepRows workflowId uuid) = some steps ∧
      db'.steps = steps.delete (fun s =>
        (db.stepRows workflowId).any (fun old => old.id = s.id)) ∧
      response = db'.response (data.row workflowId) := by
  unfold updateWorkflow at h
  obtain ⟨-, h⟩ := SessionKind.execute_eq_ok.mp h
  obtain ⟨w, hw, h⟩ := bind_eq_ok.mp h
  rw [WorkflowDb.workflowOf_eq_ok] at hw
  obtain ⟨-, rfl, -⟩ := WorkflowDb.active?_eq_some_iff.mp hw
  split at h
  next => cases h
  next =>
    split at h
    next => cases h
    next hsequenced =>
      split at h
      next workflows steps hsave hsteps =>
        obtain ⟨rfl, rfl⟩ := ok_pair_inj h
        exact ⟨w, steps, hw, not_not.mp hsequenced, hsave, hsteps, rfl, rfl⟩
      next => cases h

/-- **WHAT DELETING A WORKFLOW HAS WRITTEN.** -/
theorem deleteWorkflow_ok {workflowId message : String}
    (h : deleteWorkflow session db workflowId = .ok (message, db')) :
    ∃ w, db.active? workflowId = some w ∧
      db.workflows.save? { w with isActive := false } = some db'.workflows ∧
      db'.steps = db.steps := by
  unfold deleteWorkflow at h
  obtain ⟨-, h⟩ := SessionKind.execute_eq_ok.mp h
  obtain ⟨w, hw, h⟩ := bind_eq_ok.mp h
  rw [WorkflowDb.workflowOf_eq_ok] at hw
  split at h
  next workflows hsave =>
    obtain ⟨-, rfl⟩ := ok_pair_inj h
    exact ⟨w, hw, hsave, rfl⟩
  next => cases h

end

/-- A workflow that is created is the one that is shown. -/
theorem getWorkflow_created {session : SessionKind} {db db' : WorkflowDb} {workflowId : Uuid}
    {uuid : Nat → Uuid} {data : WorkflowInput} {response : WorkflowResponse}
    (h : createWorkflow session db workflowId uuid data = .ok (response, db')) :
    getWorkflow session db' workflowId.text = .ok response := by
  have hsession : session = .sync := by
    unfold createWorkflow at h
    exact (SessionKind.execute_eq_ok.mp h).1
  obtain ⟨-, hinsert, -, rfl⟩ := createWorkflow_ok h
  have hactive : db'.active? workflowId.text = some (data.row workflowId.text) := by
    rw [WorkflowDb.active?_eq_some_iff, UniqueTable.insert?_rows hinsert]
    exact ⟨List.mem_append_right _ List.mem_cons_self, rfl, rfl⟩
  unfold getWorkflow
  rw [hsession, WorkflowDb.workflowOf_eq_ok.mpr hactive]
  rfl

/-! ## §4. The steps of every workflow. -/

/-- What a step says of a boot. -/
structure StepSpec where
  sequence : Nat
  type : StepType
  config : JsonDict
  deriving DecidableEq, Repr

def WorkflowStep.spec (s : WorkflowStep) : StepSpec := ⟨s.sequence, s.type, s.config⟩

def WorkflowStepCreate.spec (s : WorkflowStepCreate) : StepSpec :=
  ⟨s.sequence, s.type, s.config.getD []⟩

/-- The steps of a workflow. -/
def WorkflowDb.specs (db : WorkflowDb) (workflowId : String) : List StepSpec :=
  (db.stepRows workflowId).map WorkflowStep.spec

/-- The steps of a request. -/
def WorkflowInput.specs (data : WorkflowInput) : List StepSpec :=
  data.steps.map WorkflowStepCreate.spec

/-- Every step belongs to a workflow. -/
def StepsKnown (db : WorkflowDb) : Prop :=
  ∀ s ∈ db.steps.rows, ∃ w ∈ db.workflows.rows, w.id = s.workflowId

section

variable {session : SessionKind} {db db' : WorkflowDb} {uuid : Nat → Uuid} {data : WorkflowInput}

theorem mem_stepRows {data : WorkflowInput} {workflowId : String} {s : WorkflowStep}
    (h : s ∈ data.stepRows workflowId uuid) : s.workflowId = workflowId := by
  obtain ⟨i, hi, rfl⟩ := List.mem_mapIdx.mp h
  rfl

theorem map_spec_stepRows (data : WorkflowInput) (workflowId : String) (uuid : Nat → Uuid) :
    (data.stepRows workflowId uuid).map WorkflowStep.spec = data.specs := by
  unfold WorkflowInput.stepRows WorkflowInput.specs
  refine List.ext_getElem (by simp) (fun i _ _ => ?_)
  rw [List.getElem_map, List.getElem_map, List.getElem_mapIdx]
  rfl

/-- The rows of a request belong to its workflow, and to no other. -/
theorem filter_stepRows (data : WorkflowInput) (workflowId other : String) :
    (data.stepRows workflowId uuid).filter (fun s => s.workflowId = other)
      = if other = workflowId then data.stepRows workflowId uuid else [] := by
  by_cases hother : other = workflowId
  · rw [if_pos hother, List.filter_eq_self]
    intro s hs
    rw [mem_stepRows hs, hother]
    exact decide_eq_true rfl
  · rw [if_neg hother, List.filter_eq_nil_iff]
    intro s hs
    rw [mem_stepRows hs, decide_eq_true_eq]
    exact fun heq => hother heq.symm

/-- A workflow without a row has no steps. -/
theorem stepRows_unknown (hknown : StepsKnown db) {workflowId : String}
    (hunknown : ∀ w ∈ db.workflows.rows, w.id ≠ workflowId) : db.stepRows workflowId = [] := by
  unfold WorkflowDb.stepRows
  rw [List.filter_eq_nil_iff]
  intro s hs heq
  obtain ⟨w, hw, hid⟩ := hknown s hs
  exact hunknown w hw (hid.trans (of_decide_eq_true heq))

/-- **REPLACING THE STEPS** of one workflow: the old ones are deleted by their ids, which
the new ones do not have. -/
theorem stepRows_replace {workflowId : String} {steps : UniqueTable WorkflowStep.id
      WorkflowStep.place}
    (hsteps : db.steps.insertAll? (data.stepRows workflowId uuid) = some steps) (other : String) :
    (steps.delete (fun s => (db.stepRows workflowId).any (fun old => old.id = s.id))).rows.filter
        (fun s => s.workflowId = other)
      = if other = workflowId then data.stepRows workflowId uuid else db.stepRows other := by
  have hrows := UniqueTable.insertAll?_rows hsteps
  have hmem : ∀ s, s ∈ db.stepRows workflowId → s ∈ steps.rows := by
    intro s hs
    rw [hrows]
    exact List.mem_append_left _ (List.mem_filter.mp hs).1
  -- a row with the id of an old step of the workflow is that step
  have hold : ∀ s ∈ steps.rows, (db.stepRows workflowId).any (fun old => old.id = s.id) = true ↔
      s ∈ db.stepRows workflowId := by
    intro s hs
    rw [List.any_eq_true]
    constructor
    · rintro ⟨old, hmemOld, hid⟩
      rw [← steps.table.eq_of_key_eq (hmem old hmemOld) hs (of_decide_eq_true hid)]
      exact hmemOld
    · exact fun hmemOld => ⟨s, hmemOld, decide_eq_true rfl⟩
  have hdisjoint : ∀ s ∈ db.steps.rows, s ∉ data.stepRows workflowId uuid := by
    have hnodup : steps.rows.Nodup := steps.table.rows_nodup
    rw [hrows, List.nodup_append] at hnodup
    intro s hs hnew
    exact hnodup.2.2 s hs s hnew rfl
  have hkept : ∀ s ∈ db.steps.rows, (db.stepRows workflowId).any (fun old => old.id = s.id)
      = decide (s.workflowId = workflowId) := by
    intro s hs
    rw [Bool.eq_iff_iff, hold s (hrows ▸ List.mem_append_left _ hs), decide_eq_true_eq]
    exact ⟨fun h => of_decide_eq_true (List.mem_filter.mp h).2,
      fun h => List.mem_filter.mpr ⟨hs, decide_eq_true h⟩⟩
  have hnew : ∀ s ∈ data.stepRows workflowId uuid,
      (db.stepRows workflowId).any (fun old => old.id = s.id) = false := by
    intro s hs
    rw [Bool.eq_false_iff, ne_eq, hold s (hrows ▸ List.mem_append_right _ hs)]
    exact fun h => hdisjoint s (List.mem_filter.mp h).1 hs
  rw [UniqueTable.delete_rows, hrows, List.filter_append, List.filter_append]
  have hfirst : (db.steps.rows.filter (fun s =>
        !(db.stepRows workflowId).any (fun old => old.id = s.id))).filter
      (fun s => s.workflowId = other) = if other = workflowId then [] else db.stepRows other := by
    rw [List.filter_congr (fun s hs => congrArg not (hkept s hs)), List.filter_filter]
    by_cases hother : other = workflowId
    · rw [if_pos hother, List.filter_eq_nil_iff]
      intro s _
      simp [hother]
    · rw [if_neg hother]
      refine List.filter_congr (fun s _ => ?_)
      by_cases hs : s.workflowId = other <;> simp [hs, hother]
  have hsecond : (data.stepRows workflowId uuid).filter (fun s =>
      !(db.stepRows workflowId).any (fun old => old.id = s.id)) = data.stepRows workflowId uuid := by
    rw [List.filter_eq_self]
    intro s hs
    rw [hnew s hs]
    rfl
  rw [hfirst, hsecond, filter_stepRows]
  by_cases hother : other = workflowId
  · rw [if_pos hother, if_pos hother, if_pos hother, List.nil_append]
  · rw [if_neg hother, if_neg hother, if_neg hother, List.append_nil]

/-- The workflow that a request is about. -/
def WorkflowRequest.id : WorkflowRequest → String
  | .create workflowId _ _ => workflowId.text
  | .update workflowId _ _ => workflowId
  | .delete workflowId => workflowId

/-- What a request says of its workflow. -/
def WorkflowRequest.gives : WorkflowRequest → Option WorkflowInput
  | .create _ _ data => some data
  | .update _ _ data => some data
  | .delete _ => none

/-- **THE STEPS OF EVERY WORKFLOW** after a request that was carried out: those that were
given last. -/
theorem specs_perform (hknown : StepsKnown db) {r : WorkflowRequest} {x : Unit}
    (h : perform session db r = .ok (x, db')) (other : String) :
    db'.specs other = match r.gives with
      | some data => if other = r.id then data.specs else db.specs other
      | none => db.specs other := by
  cases r with
  | create workflowId uuid data =>
      obtain ⟨response, hcreate⟩ := map_state_eq_ok h
      obtain ⟨-, hinsert, hsteps, -⟩ := createWorkflow_ok hcreate
      have hunknown : db.stepRows workflowId.text = [] :=
        stepRows_unknown hknown (Table.insert?_eq_some_iff.mp (UniqueTable.insert?_table hinsert)).1
      show ((db'.steps.rows).filter _).map _
        = if other = workflowId.text then data.specs else db.specs other
      rw [hsteps, List.filter_append, filter_stepRows]
      by_cases hother : other = workflowId.text
      · rw [if_pos hother, if_pos hother, hother]
        show (db.stepRows workflowId.text ++ _).map _ = _
        rw [hunknown, List.nil_append, map_spec_stepRows]
      · rw [if_neg hother, if_neg hother, List.append_nil]
        rfl
  | update workflowId uuid data =>
      obtain ⟨response, hupdate⟩ := map_state_eq_ok h
      obtain ⟨w, steps, -, -, -, hsteps, hreplaced, -⟩ := updateWorkflow_ok hupdate
      show ((db'.steps.rows).filter _).map _
        = if other = workflowId then data.specs else db.specs other
      rw [hreplaced, stepRows_replace hsteps]
      by_cases hother : other = workflowId
      · rw [if_pos hother, if_pos hother, map_spec_stepRows]
      · rw [if_neg hother, if_neg hother]
        rfl
  | delete workflowId =>
      obtain ⟨message, hdelete⟩ := map_state_eq_ok h
      obtain ⟨w, -, -, hsteps⟩ := deleteWorkflow_ok hdelete
      show ((db'.steps.rows).filter _).map _ = _
      rw [hsteps]
      rfl

/-- **EVERY REQUEST KEEPS THE STEPS KNOWN.** -/
theorem stepsKnown_exec (db : WorkflowDb) (r : WorkflowRequest) (hknown : StepsKnown db) :
    StepsKnown (execWorkflow session db r) := by
  refine commitOrRollback_preserves hknown (fun x db' h => ?_)
  cases r with
  | create workflowId uuid data =>
      obtain ⟨response, hcreate⟩ := map_state_eq_ok h
      obtain ⟨-, hinsert, hsteps, -⟩ := createWorkflow_ok hcreate
      have hrows := UniqueTable.insert?_rows hinsert
      intro s hs
      rw [hrows]
      rcases List.mem_append.mp (hsteps ▸ hs) with hs | hs
      · obtain ⟨w, hw, hid⟩ := hknown s hs
        exact ⟨w, List.mem_append_left _ hw, hid⟩
      · exact ⟨_, List.mem_append_right _ List.mem_cons_self, (mem_stepRows hs).symm⟩
  | update workflowId uuid data =>
      obtain ⟨response, hupdate⟩ := map_state_eq_ok h
      obtain ⟨w, steps, hw, -, hsave, hsteps, hreplaced, -⟩ := updateWorkflow_ok hupdate
      obtain ⟨hmem, hid, -⟩ := WorkflowDb.active?_eq_some_iff.mp hw
      have hkept : ∀ id, (∃ x ∈ db.workflows.rows, x.id = id) →
          ∃ x ∈ db'.workflows.rows, x.id = id :=
        fun _ => UniqueTable.exists_key_save? hsave
      intro s hs
      rw [hreplaced, UniqueTable.delete_rows] at hs
      have hs := (List.mem_filter.mp hs).1
      rw [UniqueTable.insertAll?_rows hsteps, List.mem_append] at hs
      rcases hs with hs | hs
      · exact hkept _ (hknown s hs)
      · exact hkept _ ⟨w, hmem, hid.trans (mem_stepRows hs).symm⟩
  | delete workflowId =>
      obtain ⟨message, hdelete⟩ := map_state_eq_ok h
      obtain ⟨w, -, hsave, hsteps⟩ := deleteWorkflow_ok hdelete
      intro s hs
      rw [hsteps] at hs
      exact UniqueTable.exists_key_save? hsave (hknown s hs)

end

/-! ## §5. The workflows in use. -/

section

variable {session : SessionKind} {db db' : WorkflowDb} {row : Workflow}

/-- A workflow is inserted. -/
theorem active?_insert (h : db.workflows.insert? row = some db'.workflows)
    (hactive : row.isActive = true) (id : String) :
    db'.active? id = if id = row.id then some row else db.active? id := by
  refine Option.ext (fun w => ?_)
  have hfresh := (Table.insert?_eq_some_iff.mp (UniqueTable.insert?_table h)).1
  rw [WorkflowDb.active?_eq_some_iff, UniqueTable.insert?_rows h, List.mem_append,
    List.mem_singleton]
  by_cases hid : id = row.id
  · rw [if_pos hid, Option.some.injEq]
    constructor
    · rintro ⟨hw | hw, hwid, -⟩
      · exact absurd (hwid.trans hid) (hfresh w hw)
      · exact hw.symm
    · rintro rfl
      exact ⟨.inr rfl, hid.symm, hactive⟩
  · rw [if_neg hid, WorkflowDb.active?_eq_some_iff]
    refine and_congr_left (fun hw => or_iff_left ?_)
    rintro rfl
    exact hid hw.1.symm

/-- A workflow is overwritten. -/
theorem active?_save (h : db.workflows.save? row = some db'.workflows) {w : Workflow}
    (hw : db.active? row.id = some w) (id : String) :
    db'.active? id
      = if id = row.id then if row.isActive then some row else none else db.active? id := by
  obtain ⟨hmem, hwid, -⟩ := WorkflowDb.active?_eq_some_iff.mp hw
  refine Option.ext (fun x => ?_)
  rw [WorkflowDb.active?_eq_some_iff, UniqueTable.save?_rows h,
    Table.mem_put_iff ⟨w, hmem, hwid⟩]
  by_cases hid : id = row.id
  · rw [if_pos hid]
    constructor
    · rintro ⟨rfl | ⟨-, hne⟩, hxid, hactive⟩
      · rw [if_pos hactive]
      · exact absurd (hxid.trans hid) hne
    · intro hx
      split at hx
      next hactive =>
        obtain rfl := Option.some.inj hx
        exact ⟨.inl rfl, hid.symm, hactive⟩
      next => cases hx
  · rw [if_neg hid, WorkflowDb.active?_eq_some_iff]
    constructor
    · rintro ⟨rfl | ⟨hx, -⟩, hxid, hactive⟩
      · exact absurd hxid.symm hid
      · exact ⟨hx, hxid, hactive⟩
    · rintro ⟨hx, hxid, hactive⟩
      exact ⟨.inr ⟨hx, fun heq => hid (hxid.symm.trans heq)⟩, hxid, hactive⟩

/-- **THE WORKFLOWS IN USE** after a request that was carried out. -/
theorem active?_perform {r : WorkflowRequest} {x : Unit} (h : perform session db r = .ok (x, db'))
    (id : String) :
    db'.active? id = if id = r.id then r.gives.map (fun data => data.row r.id)
      else db.active? id := by
  cases r with
  | create workflowId uuid data =>
      obtain ⟨response, hcreate⟩ := map_state_eq_ok h
      obtain ⟨-, hinsert, -, -⟩ := createWorkflow_ok hcreate
      exact active?_insert hinsert rfl id
  | update workflowId uuid data =>
      obtain ⟨response, hupdate⟩ := map_state_eq_ok h
      obtain ⟨w, steps, hw, -, hsave, -⟩ := updateWorkflow_ok hupdate
      exact active?_save hsave hw id
  | delete workflowId =>
      obtain ⟨message, hdelete⟩ := map_state_eq_ok h
      obtain ⟨w, hw, hsave, -⟩ := deleteWorkflow_ok hdelete
      obtain ⟨-, rfl, -⟩ := WorkflowDb.active?_eq_some_iff.mp hw
      exact active?_save hsave hw id

end

end PureBoot.Workflows
