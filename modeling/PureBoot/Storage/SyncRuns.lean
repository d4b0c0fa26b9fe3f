/-
  PureBoot.Storage.SyncRuns — the RUNS of the sync jobs.

  Embeds `run_sync_job`, `cancel_sync_job`, `delete_sync_job` and `_scheduled_job_callback` of
  `api/routes/sync_jobs.py`, and `run_sync`, `_execute_sync` and `cancel_sync` of
  `core/sync.py`.  A request is two steps: it reads and checks the rows in the first, and
  writes in the second, with its commit; steps of others can come between.  The tasks take
  turns at their awaits.  A task holds one of the places of a semaphore
  (`PureBoot.Lib.Slots`) from before its `rsync` is started until it has reported how it
  ended.  An exception may come wherever the task calls something else; what rsync's lines
  are taken for is read by `PROGRESS_PATTERN` outside the model, and so is the pruning of old
  versions.  A restart of the server ends the tasks and leaves the rows as they are.

  Main results:
    * `placed_run` — the places of the semaphore, in every run;
    * `sync_places` — no more than three at a time, none kept free, first come first served;
    * `every_sync_ends` — the tasks come to an end, and so give back their places.
-/
import PureBoot.Lib.Slots
import PureBoot.Storage.SyncJobs
import Mathlib.Data.Rat.Defs

namespace PureBoot.Storage

open PureBoot.Lib PureBoot.Lifecycle

/-! ## §1. Rows and tasks. -/

/-- `MAX_CONCURRENT_SYNCS`. -/
def maxConcurrentSyncs : Nat := 3

/-- `SyncJobRun.status`. -/
inductive RunStatus where
  | running
  | success
  | failed
  deriving DecidableEq, Repr

/-- The columns of `StorageBackend` that are read. -/
structure BackendRow where
  online : Bool
  mountPoint : Option String
  deriving DecidableEq, Repr

/-- The columns of `SyncJob` that are read or written. -/
structure JobRow where
  id : String
  destinationBackendId : String
  status : SyncStatus := .idle
  lastError : Option String := none
  /-- Whether a restart has ended its task; nothing reads it. -/
  cutOff : Bool := false
  deriving DecidableEq, Repr

/-- `db/models.py: SyncJobRun`; nothing writes its `current_file`. -/
structure SyncJobRun where
  id : String
  jobId : String
  startedAt : Int
  status : RunStatus := .running
  completed : Bool := false
  filesSynced : Nat := 0
  bytesTransferred : Nat := 0
  progressPercent : Nat := 0
  error : Option String := none
  /-- Whether a restart has ended its task; nothing reads it. -/
  cutOff : Bool := false
  deriving DecidableEq, Repr

/-- Where a task is. -/
inductive SyncPc where
  /-- Made by `create_task`. -/
  | created
  /-- It asked for the semaphore. -/
  | queued
  /-- `rsync` runs; how many files and bytes were seen. -/
  | reading (files bytes : Nat)
  /-- `rsync` has ended, and nothing is written yet. -/
  | exited (files bytes : Nat) (returncode : Int)
  /-- An exception was caught, and nothing is written yet. -/
  | failing (error : String)
  /-- The rows are written; whether for an exception. -/
  | reporting (caught : Bool)
  deriving DecidableEq, Repr

/-- A task that has not ended. -/
structure SyncTask where
  runId : String
  jobId : String
  backendId : String
  pc : SyncPc := .created
  deriving DecidableEq, Repr

/-- A run that has passed the checks of its request, and is not written yet. -/
structure SyncStart where
  runId : String
  jobId : String
  backendId : String
  /-- Asked for by the scheduler. -/
  scheduled : Bool
  /-- The backend was online; only the scheduler goes on with one that was not. -/
  online : Bool := true
  deriving DecidableEq, Repr

/-- A deletion that has read its job. -/
structure SyncDeletion where
  jobId : String
  /-- The job was running, and its process is waited for. -/
  cancels : Bool
  deriving DecidableEq, Repr

/-- What a line of rsync's output is taken for. -/
inductive RsyncLine where
  | progress (bytes percent : Nat)
  | file
  | other

/-- The database, the service and its tasks. -/
structure SyncSystem where
  backends : String → Option BackendRow
  jobs : Table JobRow.id
  runs : Table SyncJobRun.id := .empty
  tasks : Table SyncTask.runId := .empty
  syncSemaphore : Slots String := {}
  /-- The run of the process that is kept for a job. -/
  runningProcesses : String → Option String := fun _ => none
  manualRunTimes : String → ℚ := fun _ => 0
  starting : List SyncStart := []
  /-- The jobs whose process a cancel request waits for. -/
  cancelling : List String := []
  deleting : List SyncDeletion := []

namespace SyncSystem

variable (s : SyncSystem)

/-! ## §2. Requests. -/

/-- The checks are passed. -/
def beginStart (start : SyncStart) : SyncSystem := { s with starting := s.starting ++ [start] }

/-- `run_sync_job` up to its first write, at a time of the loop's clock. -/
def runSyncJob (clock : ℚ) (jobId runId : String) : SyncSystem × Except Lifecycle.Exn Unit :=
  if clock - s.manualRunTimes jobId < 60 then
    (s, .error (.http 429 "Rate limit: wait 1 minute between manual runs"))
  else
    let s := { s with manualRunTimes := Function.update s.manualRunTimes jobId clock }
    match s.jobs.get? jobId with
    | none => (s, .error (.http 404 "Sync job not found"))
    | some job =>
        if job.status = .running then (s, .error (.http 400 "Job is already running"))
        else
          match s.backends job.destinationBackendId with
          | none => (s, .error (.http 400 "Destination backend not found"))
          | some backend =>
              if backend.online = false then
                (s, .error (.http 400 "Destination backend is not online"))
              else
                (s.beginStart
                  { runId, jobId, backendId := job.destinationBackendId, scheduled := false },
                  .ok ())

/-- `_scheduled_job_callback` up to its first write. -/
def scheduledJobCallback (jobId runId : String) : SyncSystem :=
  match s.jobs.get? jobId with
  | none => s
  | some job =>
      if job.status = .running then s
      else
        s.beginStart
          { runId, jobId, backendId := job.destinationBackendId, scheduled := true
            online := (s.backends job.destinationBackendId).any (fun backend => backend.online) }

/-- The rows and the task of a run; an update of a row that is gone raises. -/
def startRun (start : SyncStart) (now : Int) : Option SyncSystem := do
  let job ← s.jobs.get? start.jobId
  let runs ← s.runs.insert? { id := start.runId, jobId := start.jobId, startedAt := now }
  let tasks ← s.tasks.insert?
    { runId := start.runId, jobId := start.jobId, backendId := start.backendId }
  some { s with runs, tasks, jobs := s.jobs.put { job with status := .running } }

/-- What is written for a start. -/
def writeStart (start : SyncStart) (now : Int) : SyncSystem :=
  if start.online then (s.startRun start now).getD s
  else
    { s with
      jobs := s.jobs.amend start.jobId
        (fun job => { job with status := .failed, lastError := some "Backend not online" }) }

/-- The rest of the two. -/
def startReturns (runId : String) (now : Int) : SyncSystem :=
  match s.starting.find? (fun start => start.runId = runId) with
  | none => s
  | some start => { s with starting := s.starting.erase start }.writeStart start now

/-- It ends with an exception: before anything is written, or, when the scheduler asked for it,
between the commit and the task. -/
def startRaises (runId : String) (now : Int) (written : Bool) : SyncSystem :=
  match s.starting.find? (fun start => start.runId = runId) with
  | none => s
  | some start =>
      let s := { s with starting := s.starting.erase start }
      if written ∧ start.scheduled then { s.writeStart start now with tasks := s.tasks } else s

/-- `cancel_sync_job`, and `cancel_sync` up to the end of the process. -/
def cancelSyncJob (jobId : String) : SyncSystem :=
  match s.jobs.get? jobId with
  | none => s
  | some job =>
      if job.status = .running ∧ (s.runningProcesses jobId).isSome then
        { s with cancelling := s.cancelling ++ [jobId] }
      else s

/-- The rest of the two. -/
def cancelReturns (jobId : String) : SyncSystem :=
  if jobId ∈ s.cancelling then
    { s with
      cancelling := s.cancelling.erase jobId
      runningProcesses := Function.update s.runningProcesses jobId none
      jobs := s.jobs.amend jobId (fun job => { job with status := .idle }) }
  else s

/-- `delete_sync_job` up to the end of the process. -/
def deleteSyncJob (jobId : String) : SyncSystem :=
  match s.jobs.get? jobId with
  | none => s
  | some job =>
      let cancels := job.status = .running ∧ (s.runningProcesses jobId).isSome
      { s with deleting := s.deleting ++ [⟨jobId, cancels⟩] }

/-- The rest of it; the runs go with the job. -/
def deleteReturns (deletion : SyncDeletion) : SyncSystem :=
  if deletion ∈ s.deleting then
    { s with
      deleting := s.deleting.erase deletion
      jobs := s.jobs.delete (fun job => job.id = deletion.jobId)
      runs := s.runs.delete (fun run => run.jobId = deletion.jobId)
      runningProcesses :=
        if deletion.cancels then Function.update s.runningProcesses deletion.jobId none
        else s.runningProcesses }
  else s

/-- The server is restarted. -/
def restart : SyncSystem where
  backends := s.backends
  jobs := s.jobs.update
    (fun job => { job with cutOff := job.cutOff || job.status = .running }) (fun _ => rfl)
  runs := s.runs.update
    (fun run => { run with cutOff := run.cutOff || run.status = .running }) (fun _ => rfl)

/-! ## §3. The task. -/

def setPc (t : SyncTask) (pc : SyncPc) : SyncSystem := { s with tasks := s.tasks.put { t with pc } }

/-- `async with self.sync_semaphore`. -/
def enterSemaphore (t : SyncTask) : SyncSystem :=
  { s.setPc t .queued with syncSemaphore := s.syncSemaphore.enter maxConcurrentSyncs t.runId }

/-- The task is through the semaphore: the backend is looked up and `rsync` is started. -/
def launch (t : SyncTask) (raises : Option String) : SyncSystem :=
  match ((s.backends t.backendId).bind BackendRow.mountPoint).filter (fun path => path ≠ "") with
  | none => s.setPc t (.failing "Backend not mounted or not found")
  | some _ =>
      match raises with
      | some error => s.setPc t (.failing error)
      | none =>
          { s.setPc t (.reading 0 0) with
            runningProcesses := Function.update s.runningProcesses t.jobId (some t.runId) }

/-- A line of the output. -/
def readLine (t : SyncTask) (files bytes : Nat) : RsyncLine → SyncSystem
  | .progress bytes' _ => s.setPc t (.reading files bytes')
  | .file => s.setPc t (.reading (files + 1) bytes)
  | .other => s

/-- `proc.wait()`. -/
def exitProcess (t : SyncTask) (files bytes : Nat) (returncode : Int) : SyncSystem :=
  { s.setPc t (.exited files bytes returncode) with
    runningProcesses := Function.update s.runningProcesses t.jobId none }

/-- The row of a run that has ended by itself. -/
def endedRun (run : SyncJobRun) (files bytes : Nat) (returncode : Int) : SyncJobRun :=
  let run := { run with completed := true, filesSynced := files, bytesTransferred := bytes }
  if returncode = 0 then { run with status := .success, progressPercent := 100 }
  else
    { run with
      status := .failed
      error := some ("rsync exited with code " ++ toString returncode) }

/-- How its job ends. -/
def endedJob (job : JobRow) (run : SyncJobRun) (returncode : Int) : JobRow :=
  if returncode = 0 then { job with status := .synced }
  else { job with status := .failed, lastError := run.error }

/-- The rows are written, if both are there. -/
def writeEnd (t : SyncTask) (files bytes : Nat) (returncode : Int) : SyncSystem :=
  match s.runs.get? t.runId, s.jobs.get? t.jobId with
  | some run, some job =>
      let run := endedRun run files bytes returncode
      { s.setPc t (.reporting false) with
        runs := s.runs.put run
        jobs := s.jobs.put (endedJob job run returncode) }
  | _, _ => s.setPc t (.failing "No row was found when one was required")

/-- The rows are written after an exception, those that are there. -/
def writeFailure (t : SyncTask) (error : String) : SyncSystem :=
  { s.setPc t (.reporting true) with
    runs := s.runs.amend t.runId
      (fun run => { run with completed := true, status := .failed, error := some error })
    jobs := s.jobs.amend t.jobId
      (fun job => { job with status := .failed, lastError := some error }) }

/-- Thirty days, in seconds. -/
def runRetention : Int := 30 * 24 * 60 * 60

/-- `_cleanup_old_runs`. -/
def cleanupOldRuns (jobId : String) (now : Int) : SyncSystem :=
  { s with
    runs := s.runs.delete (fun run => run.jobId = jobId ∧ run.startedAt < now - runRetention) }

/-- The task ends. -/
def endTask (t : SyncTask) : SyncSystem :=
  { s with
    tasks := s.tasks.delete (fun other => other.runId = t.runId)
    syncSemaphore := s.syncSemaphore.leave t.runId }

/-- The last broadcast, and what comes after it; an exception there is caught like the others,
but for one that comes while one is handled. -/
def report (t : SyncTask) (now : Int) (caught : Bool) : Option String → SyncSystem
  | none => if caught then s.endTask t else (s.cleanupOldRuns t.jobId now).endTask t
  | some error => if caught then s.endTask t else s.setPc t (.failing error)

/-- How a task goes on. -/
inductive SyncTurn where
  | enter
  | launch (raises : Option String)
  | line (line : RsyncLine)
  | readRaises (error : String)
  | exit (returncode : Int)
  | write
  | report (now : Int) (raises : Option String)

/-- The turn of a task, if it is its turn. -/
def turn (t : SyncTask) : SyncTurn → SyncSystem
  | .enter => if t.pc = .created then s.enterSemaphore t else s
  | .launch raises =>
      if t.pc = .queued ∧ t.runId ∈ s.syncSemaphore.holding then s.launch t raises else s
  | .line line =>
      match t.pc with
      | .reading files bytes => s.readLine t files bytes line
      | _ => s
  | .readRaises error =>
      match t.pc with
      | .reading _ _ => s.setPc t (.failing error)
      | _ => s
  | .exit returncode =>
      match t.pc with
      | .reading files bytes => s.exitProcess t files bytes returncode
      | _ => s
  | .write =>
      match t.pc with
      | .exited files bytes returncode => s.writeEnd t files bytes returncode
      | .failing error => s.writeFailure t error
      | _ => s
  | .report now raises =>
      match t.pc with
      | .reporting caught => s.report t now caught raises
      | _ => s

end SyncSystem

/-- What happens next. -/
inductive SyncStep where
  | runSyncJob (clock : ℚ) (jobId runId : String)
  | scheduled (jobId runId : String)
  | startReturns (runId : String) (now : Int)
  | startRaises (runId : String) (now : Int) (written : Bool)
  | cancelSyncJob (jobId : String)
  | cancelReturns (jobId : String)
  | deleteSyncJob (jobId : String)
  | deleteReturns (deletion : SyncDeletion)
  | backendChanges (id : String) (backend : Option BackendRow)
  | restart
  | turn (runId : String) (turn : SyncSystem.SyncTurn)

def SyncSystem.exec (s : SyncSystem) : SyncStep → SyncSystem
  | .runSyncJob clock jobId runId => (s.runSyncJob clock jobId runId).1
  | .scheduled jobId runId => s.scheduledJobCallback jobId runId
  | .startReturns runId now => s.startReturns runId now
  | .startRaises runId now written => s.startRaises runId now written
  | .cancelSyncJob jobId => s.cancelSyncJob jobId
  | .cancelReturns jobId => s.cancelReturns jobId
  | .deleteSyncJob jobId => s.deleteSyncJob jobId
  | .deleteReturns deletion => s.deleteReturns deletion
  | .backendChanges id backend => { s with backends := Function.update s.backends id backend }
  | .restart => s.restart
  | .turn runId turn =>
      match s.tasks.get? runId with
      | none => s
      | some t => s.turn t turn

namespace SyncSystem

/-! ## §4. What a turn can do. -/

/-- What a task can do next. -/
def Able (s : SyncSystem) (t : SyncTask) : SyncTurn → Prop
  | .enter => t.pc = .created
  | .launch _ => t.pc = .queued ∧ t.runId ∈ s.syncSemaphore.holding
  | .line _ | .readRaises _ | .exit _ => ∃ files bytes, t.pc = .reading files bytes
  | .write => (∃ files bytes code, t.pc = .exited files bytes code) ∨ ∃ error, t.pc = .failing error
  | .report _ _ => ∃ caught, t.pc = .reporting caught

/-- What each turn of a task leaves behind. -/
inductive Moves (s : SyncSystem) (t : SyncTask) : SyncTurn → SyncSystem → Prop where
  | rests {turn : SyncTurn} (hunable : ¬ Able s t turn) : Moves s t turn s
  | enters (hpc : t.pc = .created) : Moves s t .enter (s.enterSemaphore t)
  | launchFails {raises : Option String} (error : String) (hpc : t.pc = .queued)
      (hholds : t.runId ∈ s.syncSemaphore.holding) :
      Moves s t (.launch raises) (s.setPc t (.failing error))
  | launches (hpc : t.pc = .queued) (hholds : t.runId ∈ s.syncSemaphore.holding) :
      Moves s t (.launch none)
        { s.setPc t (.reading 0 0) with
          runningProcesses := Function.update s.runningProcesses t.jobId (some t.runId) }
  | reads {line : RsyncLine} {files bytes files' bytes' : Nat} (hpc : t.pc = .reading files bytes) :
      Moves s t (.line line) (s.setPc t (.reading files' bytes'))
  | skips {line : RsyncLine} : Moves s t (.line line) s
  | readFails {error : String} {files bytes : Nat} (hpc : t.pc = .reading files bytes) :
      Moves s t (.readRaises error) (s.setPc t (.failing error))
  | exits {returncode : Int} {files bytes : Nat} (hpc : t.pc = .reading files bytes) :
      Moves s t (.exit returncode) (s.exitProcess t files bytes returncode)
  | writes {files bytes : Nat} {returncode : Int} {run : SyncJobRun} {job : JobRow}
      (hpc : t.pc = .exited files bytes returncode) (hrun : s.runs.get? t.runId = some run)
      (hjob : s.jobs.get? t.jobId = some job) :
      Moves s t .write
        { s.setPc t (.reporting false) with
          runs := s.runs.put (endedRun run files bytes returncode)
          jobs := s.jobs.put (endedJob job (endedRun run files bytes returncode) returncode) }
  | writeFails {error : String} {files bytes : Nat} {returncode : Int}
      (hpc : t.pc = .exited files bytes returncode) :
      Moves s t .write (s.setPc t (.failing error))
  | failed {error : String} (hpc : t.pc = .failing error) :
      Moves s t .write (s.writeFailure t error)
  | reports {now : Int} (hpc : t.pc = .reporting false) :
      Moves s t (.report now none) ((s.cleanupOldRuns t.jobId now).endTask t)
  | reportFails {now : Int} {error : String} (hpc : t.pc = .reporting false) :
      Moves s t (.report now (some error)) (s.setPc t (.failing error))
  -- what is raised while an exception is handled ends the task, too
  | ends {now : Int} {raises : Option String} (hpc : t.pc = .reporting true) :
      Moves s t (.report now raises) (s.endTask t)

/-- **EVERY TURN** is one of these. -/
theorem moves_turn (s : SyncSystem) (t : SyncTask) (turn : SyncTurn) :
    Moves s t turn (s.turn t turn) := by
  unfold SyncSystem.turn
  cases turn with
  | enter =>
      dsimp only
      split
      next hpc => exact .enters hpc
      next hunable => exact .rests hunable
  | launch raises =>
      dsimp only
      split
      next hqueued =>
        unfold SyncSystem.launch
        split
        · exact .launchFails _ hqueued.1 hqueued.2
        · cases raises with
          | some error => exact .launchFails error hqueued.1 hqueued.2
          | none => exact .launches hqueued.1 hqueued.2
      next hunable => exact .rests hunable
  | line line =>
      dsimp only
      split
      next files bytes hpc =>
        cases line with
        | progress bytes' percent => exact .reads hpc
        | file => exact .reads hpc
        | other => exact .skips
      next hother => exact .rests (fun ⟨files, bytes, hpc⟩ => hother files bytes hpc)
  | readRaises error =>
      dsimp only
      split
      next files bytes hpc => exact .readFails hpc
      next hother => exact .rests (fun ⟨files, bytes, hpc⟩ => hother files bytes hpc)
  | exit returncode =>
      dsimp only
      split
      next files bytes hpc => exact .exits hpc
      next hother => exact .rests (fun ⟨files, bytes, hpc⟩ => hother files bytes hpc)
  | write =>
      dsimp only
      split
      next files bytes returncode hpc =>
        unfold SyncSystem.writeEnd
        split
        next run job hrun hjob => exact .writes hpc hrun hjob
        next => exact .writeFails hpc
      next error hpc => exact .failed hpc
      next hended hfailing =>
        refine .rests ?_
        rintro (⟨files, bytes, code, hpc⟩ | ⟨error, hpc⟩)
        · exact hended files bytes code hpc
        · exact hfailing error hpc
  | report now raises =>
      dsimp only
      split
      next caught hpc =>
        unfold SyncSystem.report
        cases caught with
        | true => cases raises <;> exact .ends hpc
        | false =>
            cases raises with
            | none => exact .reports hpc
            | some error => exact .reportFails hpc
      next hother => exact .rests (fun ⟨caught, hpc⟩ => hother caught hpc)

/-! ## §5. The places. -/

/-- The task is through the semaphore. -/
def atWork (t : SyncTask) : Bool :=
  match t.pc with
  | .created | .queued => false
  | _ => true

/-- Who asked for the semaphore, and who is through it. -/
structure Placed (s : SyncSystem) : Prop where
  slots : s.syncSemaphore.Ok maxConcurrentSyncs
  mem : ∀ runId, runId ∈ s.syncSemaphore.all ↔ ∃ t ∈ s.tasks.rows, t.pc ≠ .created ∧ t.runId = runId
  holds : ∀ t ∈ s.tasks.rows, atWork t = true → t.runId ∈ s.syncSemaphore.holding

variable {s : SyncSystem}

/-- Rows do not matter. -/
theorem Placed.congr {s' : SyncSystem} (h : Placed s) (htasks : s'.tasks = s.tasks)
    (hslots : s'.syncSemaphore = s.syncSemaphore) : Placed s' where
  slots := hslots ▸ h.slots
  mem := by
    rw [hslots, htasks]
    exact h.mem
  holds := by
    rw [hslots, htasks]
    exact h.holds

/-- **A START WRITES** the run, its task and the status of the job, and nothing else. -/
theorem startRun_eq_some {start : SyncStart} {now : Int} {s' : SyncSystem}
    (hstart : s.startRun start now = some s') :
    ∃ job runs tasks,
      s' = { s with runs, tasks, jobs := s.jobs.put { job with status := .running } } ∧
      (job ∈ s.jobs.rows ∧ job.id = start.jobId) ∧
      ((∀ run ∈ s.runs.rows, run.id ≠ start.runId) ∧
        runs.rows =
          s.runs.rows ++ [{ id := start.runId, jobId := start.jobId, startedAt := now }]) ∧
      tasks.rows =
        s.tasks.rows ++
          [{ runId := start.runId, jobId := start.jobId, backendId := start.backendId }] := by
  unfold SyncSystem.startRun at hstart
  obtain ⟨job, hget, hstart⟩ := Option.bind_eq_some_iff.mp hstart
  obtain ⟨runs, hruns, hstart⟩ := Option.bind_eq_some_iff.mp hstart
  obtain ⟨tasks, htasks, hstart⟩ := Option.bind_eq_some_iff.mp hstart
  exact ⟨job, runs, tasks, (Option.some.inj hstart).symm, Table.get?_eq_some_iff.mp hget,
    Table.insert?_eq_some_iff.mp hruns, (Table.insert?_eq_some_iff.mp htasks).2⟩

/-- A new task waits for its first turn. -/
theorem Placed.startRun {start : SyncStart} {now : Int} {s' : SyncSystem}
    (h : Placed s) (hstart : s.startRun start now = some s') : Placed s' := by
  obtain ⟨job, runs, tasks, rfl, -, -, hrows⟩ := startRun_eq_some hstart
  constructor
  · exact h.slots
  · intro runId'
    show _ ↔ ∃ t ∈ tasks.rows, _
    rw [hrows, h.mem]
    constructor
    · rintro ⟨t, ht, hpc⟩
      exact ⟨t, List.mem_append_left _ ht, hpc⟩
    · rintro ⟨t, ht, hpc, hid⟩
      rcases List.mem_append.mp ht with ht | ht
      · exact ⟨t, ht, hpc, hid⟩
      · rw [List.mem_singleton.mp ht] at hpc
        exact absurd rfl hpc
  · intro t ht hwork
    rcases List.mem_append.mp (hrows ▸ ht : t ∈ s.tasks.rows ++ _) with ht | ht
    · exact h.holds t ht hwork
    · rw [List.mem_singleton.mp ht] at hwork
      cases hwork

/-- A task that is through the semaphore goes on. -/
theorem Placed.setPc {t : SyncTask} {pc : SyncPc} {s' : SyncSystem} (h : Placed s)
    (ht : t ∈ s.tasks.rows) (hholds : t.runId ∈ s.syncSemaphore.holding)
    (htasks : s'.tasks = (s.setPc t pc).tasks) (hslots : s'.syncSemaphore = s.syncSemaphore)
    (hpc : pc ≠ .created) : Placed s' := by
  have hbegun : t.pc ≠ .created := by
    obtain ⟨t', ht', hpc', hid⟩ := (h.mem t.runId).mp (List.mem_append_left _ hholds)
    rwa [← s.tasks.eq_of_key_eq ht' ht hid]
  have hput : ∀ x, x ∈ s'.tasks.rows ↔
      x = { t with pc } ∨ (x ∈ s.tasks.rows ∧ x.runId ≠ t.runId) := by
    intro x
    rw [htasks]
    exact Table.mem_put_iff ⟨t, ht, rfl⟩
  constructor
  · exact hslots ▸ h.slots
  · intro runId
    rw [hslots, h.mem, htasks]
    show _ ↔ ∃ x ∈ (s.tasks.put { t with pc }).rows, x.pc ≠ .created ∧ x.runId = runId
    rw [Table.exists_mem_put_iff ht (rfl : SyncTask.runId { t with pc } = t.runId),
      Table.exists_mem_iff ht]
    exact or_congr_left ⟨fun hx => ⟨hpc, hx.2⟩, fun hx => ⟨hbegun, hx.2⟩⟩
  · intro x hx hwork
    rw [hslots]
    rcases (hput x).mp hx with rfl | ⟨hx, -⟩
    · exact hholds
    · exact h.holds x hx hwork

theorem Placed.enterSemaphore {t : SyncTask} (h : Placed s) (ht : t ∈ s.tasks.rows)
    (hpc : t.pc = .created) : Placed (s.enterSemaphore t) := by
  have hnew : t.runId ∉ s.syncSemaphore.all := by
    intro hmem
    obtain ⟨t', ht', hpc', hid⟩ := (h.mem t.runId).mp hmem
    rw [s.tasks.eq_of_key_eq ht' ht hid] at hpc'
    exact hpc' hpc
  constructor
  · exact h.slots.enter hnew
  · intro runId
    show runId ∈ (s.syncSemaphore.enter _ _).all
      ↔ ∃ x ∈ (s.tasks.put { t with pc := .queued }).rows, x.pc ≠ .created ∧ x.runId = runId
    rw [Slots.mem_enter, h.mem, Table.exists_mem_iff ht,
      Table.exists_mem_put_iff ht (rfl : SyncTask.runId { t with pc := .queued } = t.runId)]
    simp only [hpc, ne_eq, not_true_eq_false, false_and, false_or, reduceCtorEq, not_false_eq_true,
      true_and]
    rw [or_comm]
    exact or_congr_left eq_comm
  · intro x hx hwork
    have hx : x ∈ (s.tasks.put { t with pc := .queued }).rows := hx
    have hid : t.runId = SyncTask.runId { t with pc := .queued } := rfl
    rcases (Table.mem_put_iff ⟨t, ht, hid⟩).mp hx with rfl | ⟨hx, -⟩
    · cases hwork
    · exact Slots.holding_enter (h.holds x hx hwork)

theorem Placed.endTask {t : SyncTask} (h : Placed s)
    (hholds : t.runId ∈ s.syncSemaphore.holding) : Placed (s.endTask t) := by
  constructor
  · exact h.slots.leave hholds
  · intro runId
    show runId ∈ (s.syncSemaphore.leave _).all ↔ ∃ x ∈ (s.tasks.delete _).rows, _
    rw [h.slots.mem_leave hholds, h.mem]
    constructor
    · rintro ⟨⟨x, hx, hpc, rfl⟩, hne⟩
      exact ⟨x, Table.mem_delete.mpr ⟨hx, decide_eq_false hne⟩, hpc, rfl⟩
    · rintro ⟨x, hx, hpc, rfl⟩
      obtain ⟨hx, hne⟩ := Table.mem_delete.mp hx
      exact ⟨⟨x, hx, hpc, rfl⟩, of_decide_eq_false hne⟩
  · intro x hx hwork
    obtain ⟨hx, hne⟩ := Table.mem_delete.mp hx
    exact Slots.holding_leave (h.holds x hx hwork) (of_decide_eq_false hne)

/-- A turn of a task. -/
theorem Placed.moves {t : SyncTask} {turn : SyncTurn} {s' : SyncSystem} (h : Placed s)
    (ht : t ∈ s.tasks.rows) (hmoves : Moves s t turn s') : Placed s' := by
  have hholds : ∀ {pc}, t.pc = pc → atWork { t with pc } = true →
      t.runId ∈ s.syncSemaphore.holding := by
    rintro pc rfl hwork
    exact h.holds t ht hwork
  cases hmoves with
  | rests => exact h
  | enters hpc => exact h.enterSemaphore ht hpc
  | launchFails error hpc hqueued => exact h.setPc ht hqueued rfl rfl nofun
  | launches hpc hqueued => exact h.setPc ht hqueued rfl rfl nofun
  | reads hpc => exact h.setPc ht (hholds hpc rfl) rfl rfl nofun
  | skips => exact h
  | readFails hpc => exact h.setPc ht (hholds hpc rfl) rfl rfl nofun
  | exits hpc => exact h.setPc ht (hholds hpc rfl) rfl rfl nofun
  | writes hpc => exact h.setPc ht (hholds hpc rfl) rfl rfl nofun
  | writeFails hpc => exact h.setPc ht (hholds hpc rfl) rfl rfl nofun
  | failed hpc => exact h.setPc ht (hholds hpc rfl) rfl rfl nofun
  | @reports now hpc =>
      have hcleanup : Placed (s.cleanupOldRuns t.jobId now) := h.congr rfl rfl
      exact hcleanup.endTask (hholds hpc rfl)
  | reportFails hpc => exact h.setPc ht (hholds hpc rfl) rfl rfl nofun
  | ends hpc => exact h.endTask (hholds hpc rfl)

theorem placed_start {backends : String → Option BackendRow} {jobs : Table JobRow.id}
    {runs : Table SyncJobRun.id} : Placed { backends, jobs, runs } where
  slots := Slots.ok_empty _
  mem := fun _ => ⟨fun h => (nomatch h), fun ⟨_, ht, _⟩ => (nomatch ht)⟩
  holds := fun _ ht => nomatch ht

/-- A request touches the tasks at most by a new one, and only when it writes. -/
theorem placed_runSyncJob (h : Placed s) (clock : ℚ) (jobId runId : String) :
    Placed (s.runSyncJob clock jobId runId).1 := by
  unfold SyncSystem.runSyncJob
  have hclock : Placed { s with manualRunTimes := Function.update s.manualRunTimes jobId clock } :=
    h.congr rfl rfl
  split
  · exact h
  · dsimp only
    split
    · exact hclock
    · split
      · exact hclock
      · split
        · exact hclock
        · split
          · exact hclock
          · exact hclock.congr rfl rfl

theorem placed_scheduled (h : Placed s) (jobId runId : String) :
    Placed (s.scheduledJobCallback jobId runId) := by
  unfold SyncSystem.scheduledJobCallback
  split
  · exact h
  · split
    · exact h
    · exact h.congr rfl rfl

theorem placed_writeStart (h : Placed s) (start : SyncStart) (now : Int) :
    Placed (s.writeStart start now) := by
  unfold SyncSystem.writeStart
  split
  · cases hstart : s.startRun start now with
    | none => exact h
    | some s' => exact h.startRun hstart
  · exact h.congr rfl rfl

/-- What is written for a start leaves the semaphore and the other starts alone. -/
theorem writeStart_keeps (s : SyncSystem) (start : SyncStart) (now : Int) :
    (s.writeStart start now).syncSemaphore = s.syncSemaphore ∧
      (s.writeStart start now).starting = s.starting := by
  unfold SyncSystem.writeStart
  split
  · cases hstart : s.startRun start now with
    | none => exact ⟨rfl, rfl⟩
    | some s' =>
        obtain ⟨job, runs, tasks, rfl, -⟩ := startRun_eq_some hstart
        exact ⟨rfl, rfl⟩
  · exact ⟨rfl, rfl⟩

/-- **ONE STEP.** -/
theorem Placed.exec (h : Placed s) (event : SyncStep) : Placed (s.exec event) := by
  cases event with
  | runSyncJob clock jobId runId => exact placed_runSyncJob h clock jobId runId
  | scheduled jobId runId => exact placed_scheduled h jobId runId
  | startReturns runId now =>
      show Placed (s.startReturns runId now)
      unfold SyncSystem.startReturns
      split
      · exact h
      next start _ =>
        have herased : Placed { s with starting := s.starting.erase start } := h.congr rfl rfl
        exact placed_writeStart herased start now
  | startRaises runId now written =>
      show Placed (s.startRaises runId now written)
      unfold SyncSystem.startRaises
      split
      · exact h
      · dsimp only
        split
        · exact h.congr rfl (writeStart_keeps _ _ _).1
        · exact h.congr rfl rfl
  | cancelSyncJob jobId =>
      show Placed (s.cancelSyncJob jobId)
      unfold SyncSystem.cancelSyncJob
      split
      · exact h
      · split
        · exact h.congr rfl rfl
        · exact h
  | cancelReturns jobId =>
      show Placed (s.cancelReturns jobId)
      unfold SyncSystem.cancelReturns
      split
      · exact h.congr rfl rfl
      · exact h
  | deleteSyncJob jobId =>
      show Placed (s.deleteSyncJob jobId)
      unfold SyncSystem.deleteSyncJob
      split
      · exact h
      · exact h.congr rfl rfl
  | deleteReturns deletion =>
      show Placed (s.deleteReturns deletion)
      unfold SyncSystem.deleteReturns
      split
      · exact h.congr rfl rfl
      · exact h
  | backendChanges id backend => exact h.congr rfl rfl
  | restart => exact placed_start
  | turn runId turn =>
      unfold SyncSystem.exec
      dsimp only
      split
      next => exact h
      next t ht => exact h.moves (Table.get?_eq_some_iff.mp ht).1 (moves_turn s t turn)

/-- The server as it is started for the first time. -/
def start (backends : String → Option BackendRow) (jobs : Table JobRow.id) : SyncSystem :=
  { backends, jobs }

theorem placed_run (backends : String → Option BackendRow) (jobs : Table JobRow.id)
    (events : List SyncStep) : Placed (run exec (start backends jobs) events) := by
  have hkeep : ∀ (s : SyncSystem) (event : SyncStep), Placed s → Placed (s.exec event) :=
    fun _ event h => h.exec event
  exact run_invariant' hkeep events placed_start

/-- **NO MORE THAN THREE** tasks are through the semaphore. -/
theorem Placed.countP_atWork_le (h : Placed s) :
    s.tasks.rows.countP atWork ≤ maxConcurrentSyncs := by
  have hnodup : ((s.tasks.rows.filter atWork).map SyncTask.runId).Nodup :=
    s.tasks.nodup.sublist (List.filter_sublist.map _)
  have hsub : (s.tasks.rows.filter atWork).map SyncTask.runId ⊆ s.syncSemaphore.holding := by
    intro runId hmem
    obtain ⟨t, ht, rfl⟩ := List.mem_map.mp hmem
    obtain ⟨ht, hwork⟩ := List.mem_filter.mp ht
    exact h.holds t ht hwork
  have hle := (List.subperm_of_subset hnodup hsub).length_le
  rw [List.length_map] at hle
  rw [List.countP_eq_length_filter]
  exact hle.trans h.slots.bound

/-- **THE PLACES**, whatever is asked for, fails, is cancelled or restarted: no more than three
tasks are through the semaphore; while one waits, all three places are taken; and the places
are given in the order in which they were asked for. -/
theorem sync_places (backends : String → Option BackendRow) (jobs : Table JobRow.id)
    (events : List SyncStep) :
    let s := run exec (start backends jobs) events
    s.tasks.rows.countP atWork ≤ 3 ∧
    (∀ t ∈ s.tasks.rows, t.pc ≠ .created → t.runId ∉ s.syncSemaphore.holding →
      t.runId ∈ s.syncSemaphore.waiting ∧ s.syncSemaphore.holding.length = 3) ∧
    s.syncSemaphore.served ++ s.syncSemaphore.waiting = s.syncSemaphore.asked := by
  intro s
  have h : Placed s := placed_run backends jobs events
  refine ⟨h.countP_atWork_le, ?_, h.slots.inOrder⟩
  intro t ht hpc hfree
  have hwaits : t.runId ∈ s.syncSemaphore.waiting :=
    (List.mem_append.mp ((h.mem t.runId).mpr ⟨t, ht, hpc, rfl⟩)).resolve_left hfree
  exact ⟨hwaits, h.slots.full (List.ne_nil_of_mem hwaits)⟩

/-! ## §6. The tasks come to an end. -/

def takeTurn (s : SyncSystem) (p : String × SyncTurn) : SyncSystem := s.exec (.turn p.1 p.2)

def CanTurn (s : SyncSystem) (p : String × SyncTurn) : Prop :=
  ∃ t ∈ s.tasks.rows, t.runId = p.1 ∧ Able s t p.2

/-- All turns but the lines of `rsync`. -/
def counted (p : String × SyncTurn) : Bool :=
  match p.2 with
  | .line _ => false
  | _ => true

/-- How many turns a task has still to take at most, but for the lines of `rsync`. -/
def weight (t : SyncTask) : Nat :=
  match t.pc with
  | .created => 7
  | .queued => 6
  | .reading _ _ => 5
  | .exited _ _ _ => 4
  | .reporting false => 3
  | .failing _ => 2
  | .reporting true => 1

def load (s : SyncSystem) : Nat := s.tasks.total weight

theorem load_setPc {t : SyncTask} {pc : SyncPc} {s' : SyncSystem} (ht : t ∈ s.tasks.rows)
    (htasks : s'.tasks = (s.setPc t pc).tasks) :
    load s' + weight t = load s + weight { t with pc } := by
  unfold load
  rw [htasks]
  exact Table.total_put ht rfl

theorem load_endTask {t : SyncTask} {s' : SyncSystem} (ht : t ∈ s.tasks.rows)
    (htasks : s'.tasks = (s.endTask t).tasks) : load s' + weight t = load s := by
  unfold load
  rw [htasks]
  exact Table.total_delete_one ht

/-- **EVERY TURN COUNTS.** -/
theorem load_moves {t : SyncTask} {turn : SyncTurn} {s' : SyncSystem} (ht : t ∈ s.tasks.rows)
    (hable : Able s t turn) (hmoves : Moves s t turn s') :
    load s' + (if counted (t.runId, turn) then 1 else 0) ≤ load s := by
  have hsame : ∀ {pc}, t.pc = pc → weight t = weight { t with pc } := by
    rintro pc rfl
    rfl
  have hmove : ∀ {pc pc' s'}, t.pc = pc → s'.tasks = (s.setPc t pc').tasks →
      weight { t with pc := pc' } < weight { t with pc } → load s' + 1 ≤ load s := by
    intro pc pc' s' hpc htasks hlt
    have hload := load_setPc ht htasks
    rw [hsame hpc] at hload
    omega
  have hend : ∀ {pc s'}, t.pc = pc → s'.tasks = (s.endTask t).tasks →
      0 < weight { t with pc } → load s' + 1 ≤ load s := by
    intro pc s' hpc htasks hpos
    have hload := load_endTask ht htasks
    rw [hsame hpc] at hload
    omega
  cases hmoves with
  | rests hunable => exact absurd hable hunable
  | enters hpc => exact hmove hpc rfl (show 6 < 7 by decide)
  | launchFails error hpc => exact hmove hpc rfl (show 2 < 6 by decide)
  | launches hpc => exact hmove hpc rfl (show 5 < 6 by decide)
  | @reads _ _ _ files' bytes' hpc =>
      -- a line is not counted, and the task has as far to go as before
      have hload : load (s.setPc t (.reading files' bytes')) + weight t
          = load s + weight { t with pc := .reading files' bytes' } := load_setPc ht rfl
      rw [hsame hpc] at hload
      exact (Nat.add_right_cancel hload).le
  | skips => exact Nat.le_refl _
  | readFails hpc => exact hmove hpc rfl (show 2 < 5 by decide)
  | exits hpc => exact hmove hpc rfl (show 4 < 5 by decide)
  | writes hpc => exact hmove hpc rfl (show 3 < 4 by decide)
  | writeFails hpc => exact hmove hpc rfl (show 2 < 4 by decide)
  | failed hpc => exact hmove hpc rfl (show 1 < 2 by decide)
  | reports hpc => exact hend hpc rfl (show 0 < 3 by decide)
  | reportFails hpc => exact hmove hpc rfl (show 2 < 3 by decide)
  | ends hpc => exact hend hpc rfl (show 0 < 1 by decide)

theorem load_takeTurn {p : String × SyncTurn} (hcan : CanTurn s p) :
    load (s.takeTurn p) + (if counted p then 1 else 0) ≤ load s := by
  obtain ⟨runId, turn⟩ := p
  obtain ⟨t, ht, rfl, hable⟩ := hcan
  have hexec : s.takeTurn (t.runId, turn) = s.turn t turn := by
    unfold takeTurn SyncSystem.exec
    dsimp only
    rw [Table.get?_eq_some_iff.mpr ⟨ht, rfl⟩]
  rw [hexec]
  exact load_moves ht hable (moves_turn s t turn)

/-- **SOMEBODY CAN GO ON**, as long as there is a task. -/
theorem Placed.exists_canTurn (h : Placed s) {t : SyncTask} (ht : t ∈ s.tasks.rows) :
    ∃ p, counted p = true ∧ CanTurn s p := by
  -- but for those in line, every task can
  have hable : ∀ x ∈ s.tasks.rows, (x.pc = .queued → x.runId ∈ s.syncSemaphore.holding) →
      ∃ p, counted p = true ∧ CanTurn s p := by
    intro x hx hqueued
    cases hpc : x.pc with
    | created => exact ⟨(x.runId, .enter), rfl, x, hx, rfl, hpc⟩
    | queued => exact ⟨(x.runId, .launch none), rfl, x, hx, rfl, hpc, hqueued hpc⟩
    | reading files bytes => exact ⟨(x.runId, .exit 0), rfl, x, hx, rfl, files, bytes, hpc⟩
    | exited files bytes code =>
        exact ⟨(x.runId, .write), rfl, x, hx, rfl, Or.inl ⟨files, bytes, code, hpc⟩⟩
    | failing error => exact ⟨(x.runId, .write), rfl, x, hx, rfl, Or.inr ⟨error, hpc⟩⟩
    | reporting caught => exact ⟨(x.runId, .report 0 none), rfl, x, hx, rfl, caught, hpc⟩
  by_cases hholds : t.pc = .queued → t.runId ∈ s.syncSemaphore.holding
  · exact hable t ht hholds
  · obtain ⟨hpc, hfree⟩ := Classical.not_imp.mp hholds
    have hbegun : t.pc ≠ .created := by
      rw [hpc]
      exact nofun
    have hwaits : t.runId ∈ s.syncSemaphore.waiting :=
      (List.mem_append.mp ((h.mem t.runId).mpr ⟨t, ht, hbegun, rfl⟩)).resolve_left hfree
    have hfull := h.slots.full (List.ne_nil_of_mem hwaits)
    have hpos : 0 < s.syncSemaphore.holding.length := by
      rw [hfull]
      exact Nat.zero_lt_succ 2
    obtain ⟨runId, hrun⟩ := List.exists_mem_of_length_pos hpos
    obtain ⟨x, hx, -, rfl⟩ := (h.mem runId).mp (List.mem_append_left _ hrun)
    exact hable x hx (fun _ => hrun)

/-- **EVERY SYNC ENDS**: if nothing new is asked for, the tasks take a bounded number of turns,
but for the lines of their processes, however each turn goes; when no turn is left, all tasks
have ended, everyone who asked for a place got one, and all places are free. -/
theorem every_sync_ends (backends : String → Option BackendRow) (jobs : Table JobRow.id)
    (events : List SyncStep) (turns : List (String × SyncTurn))
    (hturns : Along takeTurn CanTurn (run exec (start backends jobs) events) turns) :
    let s := run takeTurn (run exec (start backends jobs) events) turns
    turns.countP counted ≤ load (run exec (start backends jobs) events) ∧
    ((∀ p, counted p = true → ¬ CanTurn s p) →
      s.tasks.rows = [] ∧ s.syncSemaphore.served = s.syncSemaphore.asked ∧
        s.syncSemaphore.all = []) := by
  intro s
  have hkeep : ∀ (s : SyncSystem) (p : String × SyncTurn), Placed s → Placed (s.takeTurn p) :=
    fun _ p h => h.exec (.turn p.1 p.2)
  have hstart := placed_run backends jobs events
  have hend : Placed s := run_invariant' hkeep turns hstart
  refine ⟨along_countP_le (fun s p h _ => hkeep s p h) (fun _ _ _ hcan => load_takeTurn hcan)
    hstart hturns, ?_⟩
  intro hidle
  have hnone : s.tasks.rows = [] := by
    by_contra hne
    obtain ⟨t, ht⟩ := List.exists_mem_of_ne_nil _ hne
    obtain ⟨p, hcounted, hcan⟩ := hend.exists_canTurn ht
    exact hidle p hcounted hcan
  have hall : s.syncSemaphore.all = [] := by
    refine List.eq_nil_iff_forall_not_mem.mpr (fun runId hmem => ?_)
    obtain ⟨t, ht, -⟩ := (hend.mem runId).mp hmem
    rw [hnone] at ht
    cases ht
  refine ⟨hnone, ?_, hall⟩
  have horder := hend.slots.inOrder
  rwa [(List.append_eq_nil_iff.mp hall).2, List.append_nil] at horder

/-- A backend that is mounted. -/
def mounted : String → Option BackendRow := fun _ => some ⟨true, some "/mnt/backend"⟩

/-- Two jobs that nobody has run. -/
def twoJobs : Table JobRow.id where
  rows := [{ id := "j1", destinationBackendId := "b" }, { id := "j2", destinationBackendId := "b" }]
  nodup := by decide

/-- Two runs, of which one is under way. -/
def twoRuns : List SyncStep :=
  [.scheduled "j1" "r1", .scheduled "j2" "r2", .startReturns "r1" 0, .startReturns "r2" 0,
    .turn "r1" .enter,
    .turn "r1" (.launch none), .turn "r1" (.line .file), .turn "r2" .enter]

/-- They end, the second without having been started. -/
theorem every_sync_ends_two :
    let turns : List (String × SyncTurn) :=
      [("r2", .launch (some "No such file or directory: 'rsync'")), ("r1", .exit 0),
        ("r2", .write), ("r1", .write), ("r1", .report 60 none), ("r2", .report 60 none)]
    turns.countP counted ≤ load (run exec (start mounted twoJobs) twoRuns) ∧
    (run takeTurn (run exec (start mounted twoJobs) twoRuns) turns).syncSemaphore.served
      = ["r1", "r2"] := by
  intro turns
  have hturns : Along takeTurn CanTurn (run exec (start mounted twoJobs) twoRuns) turns := by
    have hsecond : ∀ {α : Type} (a b : α), b ∈ [a, b] :=
      fun _ _ => List.mem_cons_of_mem _ List.mem_cons_self
    exact ⟨⟨⟨"r2", "j2", "b", .queued⟩, hsecond _ _, rfl, rfl, hsecond _ _⟩,
      ⟨⟨"r1", "j1", "b", .reading 1 0⟩, List.mem_cons_self, rfl, 1, 0, rfl⟩,
      ⟨⟨"r2", "j2", "b", .failing _⟩, hsecond _ _, rfl, Or.inr ⟨_, rfl⟩⟩,
      ⟨⟨"r1", "j1", "b", .exited 1 0 0⟩, List.mem_cons_self, rfl, Or.inl ⟨1, 0, 0, rfl⟩⟩,
      ⟨⟨"r1", "j1", "b", .reporting false⟩, List.mem_cons_self, rfl, false, rfl⟩,
      ⟨⟨"r2", "j2", "b", .reporting true⟩, List.mem_cons_self, rfl, true, rfl⟩, trivial⟩
  obtain ⟨hbound, hend⟩ := every_sync_ends mounted twoJobs twoRuns turns hturns
  refine ⟨hbound, (hend ?_).2.1.trans rfl⟩
  rintro p - ⟨t, ht, -⟩
  cases ht

end SyncSystem

end PureBoot.Storage
