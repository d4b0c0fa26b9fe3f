/-
  PureBoot.Workflows.Callbacks — the RESULTS OF THE STEPS of an execution.

  Embeds `api/routes/callbacks.py`, with the session its handlers declare.  An installer
  reports that a step has started, has completed or has failed; a start adds a result that
  is `running`, numbered after those there are, and an end is written into the running
  result with the highest number.  Callbacks are duplicated and late.  An end looks for a
  running result first; a start does not, so a step that is started twice runs twice.

  Main results:
    * `step_cases` — what one callback does to the results;
    * `numbered_step`, `finishedKept_step` — the numbering, and the results that are final;
    * `step_results_iff` — the runs in which no step runs twice at a time.
-/
import Mathlib.Data.List.MinMax
import PureBoot.Workflows.Api

namespace PureBoot.Workflows

open PureBoot.Lib

/-! ## §1. Rows and requests. -/

/-- The columns of `WorkflowExecution` that the callbacks read. -/
structure WorkflowExecution where
  id : String
  workflowId : String
  deriving DecidableEq, Repr

inductive ResultStatus where
  | running | completed | failed
  deriving DecidableEq, Repr

/-- `db/models.py: StepResult`. -/
structure StepResult where
  id : String
  executionId : String
  stepId : String
  attempt : Nat := 1
  status : ResultStatus
  startedAt : Nat
  completedAt : Option Nat := none
  exitCode : Option Int := none
  message : Option String := none
  logs : Option String := none
  deriving DecidableEq, Repr

/-- The tables of the callbacks; they write the last one. -/
structure ExecutionDb where
  executions : Table WorkflowExecution.id
  steps : Table WorkflowStep.id
  results : Table StepResult.id

/-- A text with at most `n` characters. -/
def AtMost (n : Nat) (text : Option String) : Prop := ∀ t, text = some t → t.length ≤ n

theorem atMost_none (n : Nat) : AtMost n none := by
  intro t h
  cases h

/-- `StepStartedRequest`. -/
structure StepStarted where
  executionId : String
  stepId : String
  deriving DecidableEq, Repr

/-- `StepCompletedRequest`. -/
structure StepCompleted where
  executionId : String
  stepId : String
  exitCode : Int := 0
  message : Option String := none
  message_length : AtMost 10000 message

/-- `StepFailedRequest`. -/
structure StepFailed where
  executionId : String
  stepId : String
  exitCode : Int := 1
  message : Option String := none
  logs : Option String := none
  message_length : AtMost 10000 message
  logs_length : AtMost 1000000 logs

/-- `CallbackResponse` and `SimpleResponse`. -/
structure CallbackResponse where
  success : Bool := true
  data : Option StepResult := none
  message : String := "OK"
  deriving DecidableEq, Repr

/-! ## §2. The handlers. -/

namespace ExecutionDb

/-- The results of a step of an execution, in the order of the table. -/
def resultsOf (db : ExecutionDb) (executionId stepId : String) : List StepResult :=
  db.results.rows.filter (fun r => r.executionId = executionId && r.stepId = stepId)

/-- The execution of a callback. -/
def execution (db : ExecutionDb) (executionId : String) : Except Exn WorkflowExecution :=
  match db.executions.get? executionId with
  | some execution => .ok execution
  | none => .error (.http 404 "Execution not found")

/-- The running result with the highest number. -/
def runningResult (db : ExecutionDb) (executionId stepId : String) : Option StepResult :=
  ((db.resultsOf executionId stepId).filter (fun r => r.status = .running)).argmax
    StepResult.attempt

end ExecutionDb

/-- `callback_step_started`; `uuid` is the id of the new result. -/
def callbackStepStarted (db : ExecutionDb) (now : Nat) (uuid : String) (data : StepStarted) :
    Except Exn (CallbackResponse × ExecutionDb) := do
  let execution ← db.execution data.executionId
  match db.steps.rows.find? (fun s =>
      s.id = data.stepId && s.workflowId = execution.workflowId) with
  | none => .error (.http 404 "Step not found in workflow")
  | some _ =>
      let result : StepResult :=
        { id := uuid, executionId := data.executionId, stepId := data.stepId,
          attempt := (db.resultsOf data.executionId data.stepId).length + 1, status := .running,
          startedAt := now }
      match db.results.insert? result with
      | some results => .ok ({ data := some result, message := "Step started" }, { db with results })
      | none => .error .integrityError

/-- `callback_step_completed` and `callback_step_failed`: the end of a running step. -/
def finishStep (db : ExecutionDb) (executionId stepId : String) (finish : StepResult → StepResult)
    (message : String) : Except Exn (CallbackResponse × ExecutionDb) := do
  let _ ← db.execution executionId
  match db.runningResult executionId stepId with
  | none => .error (.http 404 "Running step result not found")
  | some result =>
      .ok ({ data := some (finish result), message },
        { db with results := db.results.put (finish result) })

/-- `callback_step_completed`. -/
def callbackStepCompleted (db : ExecutionDb) (now : Nat) (data : StepCompleted) :
    Except Exn (CallbackResponse × ExecutionDb) :=
  finishStep db data.executionId data.stepId (fun result =>
    { result with
      status := .completed, completedAt := some now, exitCode := some data.exitCode,
      message := data.message }) "Step completed"

/-- `callback_step_failed`. -/
def callbackStepFailed (db : ExecutionDb) (now : Nat) (data : StepFailed) :
    Except Exn (CallbackResponse × ExecutionDb) :=
  finishStep db data.executionId data.stepId (fun result =>
    { result with
      status := .failed, completedAt := some now, exitCode := some data.exitCode,
      message := data.message, logs := data.logs }) "Step failed"

/-- `callback_heartbeat`. -/
def callbackHeartbeat (db : ExecutionDb) (executionId : String) :
    Except Exn (CallbackResponse × ExecutionDb) := do
  let _ ← db.execution executionId
  .ok ({ message := "Heartbeat received" }, db)

/-- A callback that arrives. -/
inductive Callback where
  | stepStarted (uuid : String) (data : StepStarted)
  | stepCompleted (data : StepCompleted)
  | stepFailed (data : StepFailed)
  | heartbeat (executionId : String)

structure CallbackEvent where
  now : Nat
  callback : Callback

def handleCallback (db : ExecutionDb) (e : CallbackEvent) :
    Except Exn (CallbackResponse × ExecutionDb) :=
  match e.callback with
  | .stepStarted uuid data => callbackStepStarted db e.now uuid data
  | .stepCompleted data => callbackStepCompleted db e.now data
  | .stepFailed data => callbackStepFailed db e.now data
  | .heartbeat executionId => callbackHeartbeat db executionId

/-- One callback, in its own session. -/
def execCallback (db : ExecutionDb) (e : CallbackEvent) : ExecutionDb :=
  commitOrRollback db (handleCallback db e)

/-! ## §3. The laws. -/

/-- The numbers of the results of every step are 1, 2, … in the order of their starts. -/
def Numbered (executionId : String) (db : ExecutionDb) : Prop :=
  ∀ stepId, (db.resultsOf executionId stepId).map StepResult.attempt
    = List.range' 1 (db.resultsOf executionId stepId).length

/-- No step has two running results. -/
def SingleRunning (executionId : String) (db : ExecutionDb) : Prop :=
  ∀ stepId, (db.resultsOf executionId stepId).countP (fun r => r.status = .running) ≤ 1

/-- A callback leaves every result that has ended as it is. -/
def FinishedKept (db : ExecutionDb) (e : CallbackEvent) : Prop :=
  ∀ r ∈ db.results.rows, r.status ≠ .running → r ∈ (execCallback db e).results.rows

/-- The checks of a start: the step belongs to the workflow of the execution, and the id of
the result is a new one. -/
structure Startable (db : ExecutionDb) (uuid : String) (data : StepStarted) : Prop where
  known : ∃ execution ∈ db.executions.rows, execution.id = data.executionId ∧
    ∃ step ∈ db.steps.rows, step.id = data.stepId ∧ step.workflowId = execution.workflowId
  fresh : ∀ r ∈ db.results.rows, r.id ≠ uuid

/-- A start of a step of the execution finds no running result, or fails its checks. -/
def StartsOnce (executionId : String) (db : ExecutionDb) (e : CallbackEvent) : Prop :=
  ∀ uuid data, e.callback = .stepStarted uuid data → data.executionId = executionId →
    Startable db uuid data → ∀ r ∈ db.resultsOf executionId data.stepId, r.status ≠ .running

/-! ## §4. What a callback does. -/

section

variable {db db' : ExecutionDb} {executionId stepId : String} {response : CallbackResponse}

theorem mem_resultsOf {r : StepResult} :
    r ∈ db.resultsOf executionId stepId
      ↔ r ∈ db.results.rows ∧ r.executionId = executionId ∧ r.stepId = stepId := by
  unfold ExecutionDb.resultsOf
  rw [List.mem_filter, Bool.and_eq_true, decide_eq_true_eq, decide_eq_true_eq]

theorem execution_eq_ok {execution : WorkflowExecution} :
    db.execution executionId = .ok execution
      ↔ execution ∈ db.executions.rows ∧ execution.id = executionId := by
  unfold ExecutionDb.execution
  rw [← Table.get?_eq_some_iff]
  cases db.executions.get? executionId <;> simp

/-- The result that an end is written into is a running one. -/
theorem runningResult_mem {r : StepResult} (h : db.runningResult executionId stepId = some r) :
    r ∈ db.resultsOf executionId stepId ∧ r.status = .running := by
  have hmem := List.argmax_mem h
  rw [List.mem_filter, decide_eq_true_eq] at hmem
  exact hmem

/-- **A START** that is carried out. -/
theorem callbackStepStarted_ok {now : Nat} {uuid : String} {data : StepStarted}
    (h : callbackStepStarted db now uuid data = .ok (response, db')) :
    Startable db uuid data ∧ ∃ r : StepResult, r.executionId = data.executionId ∧
      r.stepId = data.stepId ∧ r.status = .running ∧
      r.attempt = (db.resultsOf data.executionId data.stepId).length + 1 ∧
      db'.results.rows = db.results.rows ++ [r] := by
  unfold callbackStepStarted at h
  obtain ⟨execution, hexecution, h⟩ := bind_eq_ok.mp h
  obtain ⟨hmem, hid⟩ := execution_eq_ok.mp hexecution
  split at h
  next => cases h
  next step hstep =>
    have hcheck := List.find?_some hstep
    rw [Bool.and_eq_true, decide_eq_true_eq, decide_eq_true_eq] at hcheck
    dsimp only at h
    split at h
    next results hinsert =>
      obtain ⟨-, rfl⟩ := ok_pair_inj h
      obtain ⟨hfresh, hrows⟩ := Table.insert?_eq_some_iff.mp hinsert
      exact ⟨⟨⟨execution, hmem, hid, step, List.mem_of_find?_eq_some hstep, hcheck⟩, hfresh⟩,
        _, rfl, rfl, rfl, rfl, hrows⟩
    next => cases h

/-- Its checks are all that a start needs. -/
theorem callbackStepStarted_of {uuid : String} {data : StepStarted} (h : Startable db uuid data)
    (now : Nat) : ∃ out, callbackStepStarted db now uuid data = .ok out := by
  obtain ⟨⟨execution, hmem, hid, step, hstep, hstepId, hworkflow⟩, hfresh⟩ := h
  unfold callbackStepStarted
  rw [execution_eq_ok.mpr ⟨hmem, hid⟩, ok_bind]
  cases hfind : db.steps.rows.find? (fun s =>
      s.id = data.stepId && s.workflowId = execution.workflowId) with
  | none =>
      have hnone := List.find?_eq_none.mp hfind step hstep
      rw [hstepId, hworkflow] at hnone
      simp at hnone
  | some found =>
      obtain ⟨results, hinsert⟩ := Table.exists_insert? (t := db.results)
        (r := { id := uuid, executionId := data.executionId, stepId := data.stepId,
                attempt := (db.resultsOf data.executionId data.stepId).length + 1,
                status := .running, startedAt := now }) hfresh
      dsimp only
      rw [hinsert]
      exact ⟨_, rfl⟩

/-- What the end of a step keeps of its result. -/
structure Ends (r r' : StepResult) : Prop where
  id : r'.id = r.id
  executionId : r'.executionId = r.executionId
  stepId : r'.stepId = r.stepId
  attempt : r'.attempt = r.attempt
  status : r'.status ≠ .running

/-- **AN END** that is carried out. -/
theorem finishStep_ok {finish : StepResult → StepResult} {message : String}
    (hends : ∀ r, Ends r (finish r))
    (h : finishStep db executionId stepId finish message = .ok (response, db')) :
    ∃ r r', r ∈ db.results.rows ∧ r.status = .running ∧ Ends r r' ∧
      db'.results = db.results.put r' := by
  unfold finishStep at h
  obtain ⟨-, -, h⟩ := bind_eq_ok.mp h
  split at h
  next => cases h
  next r hr =>
    obtain ⟨-, rfl⟩ := ok_pair_inj h
    obtain ⟨hmem, hrunning⟩ := runningResult_mem hr
    exact ⟨r, finish r, (mem_resultsOf.mp hmem).1, hrunning, hends r, rfl⟩

end

/-- **WHAT A CALLBACK DOES**: nothing, or it starts a step whose checks it passes, or it ends
a running result. -/
theorem step_cases (db : ExecutionDb) (e : CallbackEvent) :
    execCallback db e = db ∨
    (∃ uuid data r, e.callback = .stepStarted uuid data ∧ Startable db uuid data ∧
      r.executionId = data.executionId ∧ r.stepId = data.stepId ∧ r.status = .running ∧
      r.attempt = (db.resultsOf data.executionId data.stepId).length + 1 ∧
      (execCallback db e).results.rows = db.results.rows ++ [r]) ∨
    ∃ r r', r ∈ db.results.rows ∧ r.status = .running ∧ Ends r r' ∧
      (execCallback db e).results = db.results.put r' := by
  obtain ⟨now, callback⟩ := e
  cases h : handleCallback db ⟨now, callback⟩ with
  | error exn =>
      refine .inl ?_
      unfold execCallback
      rw [h]
      rfl
  | ok out =>
      obtain ⟨response, db'⟩ := out
      unfold execCallback
      rw [h, commitOrRollback_ok]
      cases callback with
      | stepStarted uuid data =>
          obtain ⟨hstartable, r, hr⟩ := callbackStepStarted_ok h
          exact .inr (.inl ⟨uuid, data, r, rfl, hstartable, hr⟩)
      | stepCompleted data =>
          refine .inr (.inr (finishStep_ok ?_ h))
          exact fun r => ⟨rfl, rfl, rfl, rfl, ResultStatus.noConfusion⟩
      | stepFailed data =>
          refine .inr (.inr (finishStep_ok ?_ h))
          exact fun r => ⟨rfl, rfl, rfl, rfl, ResultStatus.noConfusion⟩
      | heartbeat executionId =>
          obtain ⟨-, -, h⟩ := bind_eq_ok.mp h
          obtain ⟨-, rfl⟩ := ok_pair_inj h
          exact .inl rfl

/-! ## §5. Each callback keeps the laws. -/

section

variable {db db' : ExecutionDb} {executionId : String}

/-- The results of a step, after a result is added. -/
theorem resultsOf_append {r : StepResult} (h : db'.results.rows = db.results.rows ++ [r])
    (stepId : String) : db'.resultsOf executionId stepId = db.resultsOf executionId stepId
      ++ if r.executionId = executionId ∧ r.stepId = stepId then [r] else [] := by
  unfold ExecutionDb.resultsOf
  rw [h, List.filter_append]
  by_cases hr : r.executionId = executionId ∧ r.stepId = stepId <;> simp [hr]

/-- What an end keeps of all the results. -/
theorem map_put_ends {β : Type} {f : StepResult → β} {r r' : StepResult}
    (hr : r ∈ db.results.rows) (hends : Ends r r') (hf : f r' = f r)
    (hdb : db'.results = db.results.put r') :
    db'.results.rows.map f = db.results.rows.map f := by
  rw [hdb]
  exact Table.map_put hr hends.id hf

/-- The numbers of the results of a step, in their order. -/
theorem attempts_eq (db : ExecutionDb) (executionId stepId : String) :
    (db.resultsOf executionId stepId).map StepResult.attempt
      = ((db.results.rows.map (fun r => (r.executionId, r.stepId, r.attempt))).filter
          (fun v => v.1 = executionId && v.2.1 = stepId)).map (fun v => v.2.2) := by
  unfold ExecutionDb.resultsOf
  rw [List.filter_map, List.map_map]
  rfl

theorem attempts_ends {r r' : StepResult} (hr : r ∈ db.results.rows) (hends : Ends r r')
    (hdb : db'.results = db.results.put r') (stepId : String) :
    (db'.resultsOf executionId stepId).map StepResult.attempt
      = (db.resultsOf executionId stepId).map StepResult.attempt := by
  have hview : (r'.executionId, r'.stepId, r'.attempt) = (r.executionId, r.stepId, r.attempt) := by
    rw [hends.executionId, hends.stepId, hends.attempt]
  rw [attempts_eq, attempts_eq, map_put_ends (f := fun r => (r.executionId, r.stepId, r.attempt))
    hr hends hview hdb]

/-- **THE NUMBERING IS KEPT** by every callback. -/
theorem numbered_step (db : ExecutionDb) (e : CallbackEvent) (h : Numbered executionId db) :
    Numbered executionId (execCallback db e) := by
  intro stepId
  rcases step_cases db e with hsame | ⟨uuid, data, r, -, -, hexec, hstep, -, hattempt, hrows⟩ |
    ⟨r, r', hr, -, hends, hdb⟩
  · rw [hsame]
    exact h stepId
  · rw [resultsOf_append hrows]
    by_cases hthis : r.executionId = executionId ∧ r.stepId = stepId
    · obtain ⟨rfl, rfl⟩ := hthis
      rw [if_pos ⟨rfl, rfl⟩, List.map_append, h, List.length_append, List.map_singleton,
        hattempt, hexec, hstep]
      show _ = List.range' 1 (_ + 1) 1
      rw [List.range'_concat, Nat.one_mul, Nat.add_comm 1]
    · rw [if_neg hthis, List.append_nil]
      exact h stepId
  · have hattempts : ((execCallback db e).resultsOf executionId stepId).map StepResult.attempt
        = (db.resultsOf executionId stepId).map StepResult.attempt :=
      attempts_ends hr hends hdb stepId
    have hlength := congrArg List.length hattempts
    rw [List.length_map, List.length_map] at hlength
    rw [hattempts, hlength]
    exact h stepId

/-- **RESULTS THAT HAVE ENDED ARE KEPT** by every callback. -/
theorem finishedKept_step (db : ExecutionDb) (e : CallbackEvent) : FinishedKept db e := by
  intro x hx hended
  rcases step_cases db e with hsame | ⟨uuid, data, r, -, -, -, -, -, -, hrows⟩ |
    ⟨r, r', hr, hrunning, hends, hdb⟩
  · rw [hsame]
    exact hx
  · rw [hrows]
    exact List.mem_append_left _ hx
  · rw [hdb]
    refine Table.mem_put_of_ne hx (fun hid => hended ?_)
    rw [db.results.eq_of_key_eq hx hr (hid.trans hends.id)]
    exact hrunning

/-- An end leaves no more running results of any step. -/
theorem countP_running_ends {r r' : StepResult} (hends : Ends r r')
    (hdb : db'.results = db.results.put r') (stepId : String) :
    (db'.resultsOf executionId stepId).countP (fun r => r.status = .running)
      ≤ (db.resultsOf executionId stepId).countP (fun r => r.status = .running) := by
  have hstatus : r'.status ≠ .running := hends.status
  unfold ExecutionDb.resultsOf
  rw [hdb, List.countP_filter, List.countP_filter]
  show ((db.results.rows.map (fun x => if x.id = r'.id then r' else x)).countP _) ≤ _
  rw [List.countP_map]
  refine List.countP_mono_left (fun x _ hx => ?_)
  rw [Function.comp_apply] at hx
  split at hx
  next => simp [hstatus] at hx
  next => exact hx

/-- **NO STEP RUNS TWICE AT A TIME** after a callback that starts none again. -/
theorem singleRunning_step (db : ExecutionDb) (e : CallbackEvent)
    (h : SingleRunning executionId db) (honce : StartsOnce executionId db e) :
    SingleRunning executionId (execCallback db e) := by
  intro stepId
  rcases step_cases db e with
    hsame | ⟨uuid, data, r, he, hstartable, hexec, hstep, hrunning, -, hrows⟩ |
    ⟨r, r', -, -, hends, hdb⟩
  · rw [hsame]
    exact h stepId
  · rw [resultsOf_append hrows]
    by_cases hthis : r.executionId = executionId ∧ r.stepId = stepId
    · -- it was started, so no other result of the step is running
      have hnone : (db.resultsOf executionId stepId).countP (fun r => r.status = .running)
          = 0 := by
        rw [List.countP_eq_zero]
        intro x hx
        rw [decide_eq_true_eq]
        refine honce uuid data he (hexec ▸ hthis.1) hstartable x ?_
        rw [← hstep, hthis.2]
        exact hx
      rw [if_pos hthis, List.countP_append, hnone, Nat.zero_add]
      exact List.countP_le_length
    · rw [if_neg hthis, List.append_nil]
      exact h stepId
  · exact (countP_running_ends hends hdb stepId).trans (h stepId)

/-- **A STEP THAT IS STARTED AGAIN** while it runs, runs twice. -/
theorem not_singleRunning_step {e : CallbackEvent} (honce : ¬ StartsOnce executionId db e) :
    ¬ SingleRunning executionId (execCallback db e) := by
  intro h
  refine honce (fun uuid data he hexec hstartable x hx hxrunning => ?_)
  obtain ⟨now, callback⟩ := e
  dsimp only at he
  subst he
  obtain ⟨⟨response, db'⟩, hdone⟩ := callbackStepStarted_of hstartable now
  obtain ⟨-, r, hrexec, hrstep, hrunning, -, hrows⟩ := callbackStepStarted_ok hdone
  have hdb : execCallback db ⟨now, .stepStarted uuid data⟩ = db' := by
    unfold execCallback
    show commitOrRollback db (callbackStepStarted db now uuid data) = db'
    rw [hdone]
    rfl
  -- the old result and the new one
  have hcount := h data.stepId
  rw [hdb, resultsOf_append hrows, if_pos ⟨hrexec.trans hexec, hrstep⟩, List.countP_append] at hcount
  have hold : 0 < (db.resultsOf executionId data.stepId).countP (fun r => r.status = .running) :=
    List.countP_pos_iff.mpr ⟨x, hx, decide_eq_true hxrunning⟩
  have hnew : [r].countP (fun r => r.status = .running) = 1 := by
    simp [hrunning]
  omega

end

/-! ## §6. Runs. -/

section

variable {executionId : String} {db : ExecutionDb}

/-- **THE RESULTS OF AN EXECUTION**: in every run from a database without results of it, the
numbers of each step are 1, 2, … and a result that has ended stays as it is; and no step has
two running results exactly if no start of a step, with its checks passed, finds one. -/
theorem step_results_iff (hstart : ∀ r ∈ db.results.rows, r.executionId ≠ executionId)
    (events : List CallbackEvent) :
    Always execCallback (Numbered executionId) db events ∧
      Along execCallback FinishedKept db events ∧
      (Always execCallback (SingleRunning executionId) db events
        ↔ Along execCallback (StartsOnce executionId) db events) := by
  have hempty : ∀ stepId, db.resultsOf executionId stepId = [] := by
    intro stepId
    rw [List.eq_nil_iff_forall_not_mem]
    intro r hr
    obtain ⟨hmem, hexec, -⟩ := mem_resultsOf.mp hr
    exact hstart r hmem hexec
  have hnumbered : Numbered executionId db := by
    intro stepId
    rw [hempty]
    rfl
  have hsingle : SingleRunning executionId db := by
    intro stepId
    rw [hempty]
    exact Nat.zero_le 1
  refine ⟨?_, ?_, ?_⟩
  · exact always_of_step (fun db e h _ => numbered_step db e h) hnumbered (along_true db events)
  · exact (along_true db events).mono (fun db e _ => finishedKept_step db e)
  · exact always_iff_along (L := fun _ => True) (fun db e _ h honce => singleRunning_step db e h honce)
      (fun _ h => h) (fun db e _ _ honce => not_singleRunning_step honce) (fun _ _ => trivial)
      hsingle

end

/-! An execution of a workflow with one step. -/

def bootStep : WorkflowStep where
  id := "s"
  workflowId := "w"
  sequence := 1
  name := "Boot"
  type := .boot
  config := []
  timeoutSeconds := 3600
  onFailure := .fail
  maxRetries := 3
  retryDelaySeconds := 30
  nextState := none

def installDb : ExecutionDb where
  executions := ⟨[⟨"e", "w"⟩], List.nodup_singleton _⟩
  steps := ⟨[bootStep], List.nodup_singleton _⟩
  results := Table.empty

def started (uuid : String) : CallbackEvent := ⟨0, .stepStarted uuid ⟨"e", "s"⟩⟩

def failed : CallbackEvent where
  now := 1
  callback := .stepFailed {
    executionId := "e"
    stepId := "s"
    message_length := atMost_none 10000
    logs_length := atMost_none 1000000 }

/-- A step that failed is started again. -/
theorem step_results_retry :
    Always execCallback (SingleRunning "e") installDb [started "r1", failed, started "r2"] := by
  refine (step_results_iff (by decide) _).2.2.mpr ⟨?_, ?_, ?_, trivial⟩
  · intro uuid data _ _ _ r hr
    cases (mem_resultsOf.mp hr).1
  · intro uuid data he
    cases he
  · intro uuid data he _ _ r hr
    cases he
    have hended : ∀ r ∈ (execCallback (execCallback installDb (started "r1")) failed).resultsOf
        "e" "s", r.status ≠ .running := by
      decide +kernel
    exact hended r hr

/-- The report of its start arrives twice. -/
theorem step_started_twice :
    ¬ Always execCallback (SingleRunning "e") installDb [started "r1", started "r2"] := by
  intro h
  exact absurd (h.last "s") (by decide +kernel)

end PureBoot.Workflows
