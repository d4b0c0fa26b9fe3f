/-
  PureBoot.Storage.SyncJobs — the SYNC JOBS of the database and the entries of the SCHEDULER.

  Embeds `create_sync_job`, `update_sync_job` and `delete_sync_job` of
  `api/routes/sync_jobs.py`, `schedule_job` and `remove_job` of `core/scheduler.py`, and
  `_register_scheduled_jobs`, by which a restart fills the scheduler.  A handler that raises
  has its writes rolled back in the database, and not in the scheduler.  A new job has no id
  before it is flushed, so it is scheduled without one: the scheduler draws a key, and the
  entry is called with no job.  An update that writes the row raises after it has scheduled
  the job, when the answer reads the expired `updated_at`.  Which triggers are accepted is up
  to the cron library.  `next_run_at` is left out, but for whether an update gives it
  another value, and so are the entries of other parts of the program.

  Main results:
    * `syncStep_inv` — the steps that keep scheduler and table in agreement;
    * `scheduler_agrees_iff` — the runs in which they always agree.
-/
import PureBoot.Lib.Run
import PureBoot.Lib.Table
import PureBoot.Lifecycle.StateMachine

namespace PureBoot.Storage

open PureBoot.Lib PureBoot.Lifecycle

/-! ## §1. Jobs and entries. -/

/-- `SyncJob.schedule`. -/
inductive Schedule where
  | manual
  | hourly
  | daily
  | weekly
  | monthly
  deriving DecidableEq, Repr

/-- `SyncJob.status`. -/
inductive SyncStatus where
  | idle
  | running
  | synced
  | failed
  deriving DecidableEq, Repr

/-- A `schedule_time`: the two numbers of `HH:MM`. -/
structure ClockTime where
  hour : Nat
  minute : Nat
  deriving DecidableEq, Repr

/-- `db/models.py: SyncJob`. -/
structure SyncJob where
  id : String
  name : String
  sourceUrl : String
  destinationBackendId : String
  destinationPath : String
  includePattern : Option String := none
  excludePattern : Option String := none
  schedule : Schedule
  scheduleDay : Option Int := none
  scheduleTime : Option ClockTime := none
  verifyChecksums : Bool := true
  deleteRemoved : Bool := false
  keepVersions : Nat := 3
  status : SyncStatus := .idle
  deriving DecidableEq, Repr

/-- The arguments of a `CronTrigger`; one that is `none` is not given. -/
structure CronTrigger where
  day : Option Int := none
  dayOfWeek : Option Int := none
  hour : Option Nat := none
  minute : Nat
  deriving DecidableEq, Repr

/-- A job of the scheduler: its id, the argument it is called with, and its trigger. -/
structure SchedulerEntry where
  key : String
  jobId : Option String
  trigger : CronTrigger
  deriving DecidableEq, Repr

abbrev Scheduler := Table SchedulerEntry.key

/-- The trigger that `schedule_job` builds; a manual job has none. -/
def cronTrigger (schedule : Schedule) (day : Option Int) (time : Option ClockTime) :
    Option CronTrigger :=
  let time := time.getD ⟨0, 0⟩
  match schedule with
  | .manual => none
  | .hourly => some { minute := 0 }
  | .daily => some { hour := some time.hour, minute := time.minute }
  | .weekly => some { dayOfWeek := day, hour := some time.hour, minute := time.minute }
  | .monthly => some { day := day, hour := some time.hour, minute := time.minute }

/-! ## §2. The scheduler (`SyncScheduler`). -/

/-- `remove_job`; there is no job without an id. -/
def removeJob (scheduler : Scheduler) : Option String → Scheduler
  | some jobId => scheduler.delete (fun e => e.key = jobId)
  | none => scheduler

/-- `schedule_job`: the old entry is removed before the trigger is built.  `drawn` is the id
the scheduler gives to a job that comes without one. -/
def scheduleJob (accepts : CronTrigger → Bool) (scheduler : Scheduler) (drawn : String)
    (jobId : Option String) (schedule : Schedule) (day : Option Int) (time : Option ClockTime) :
    Scheduler × Except Lifecycle.Exn Unit :=
  let removed := removeJob scheduler jobId
  match cronTrigger schedule day time with
  | none => (removed, .ok ())
  | some trigger =>
      if accepts trigger then
        (removed.upsert { key := jobId.getD drawn, jobId, trigger }, .ok ())
      else (removed, .error .other)

/-! ## §3. The endpoints. -/

/-- `SyncJobCreate`, after its validators. -/
structure SyncJobCreate where
  name : String
  sourceUrl : String
  destinationBackendId : String
  destinationPath : String
  includePattern : Option String := none
  excludePattern : Option String := none
  schedule : Schedule
  scheduleDay : Option Int := none
  scheduleTime : Option ClockTime := none
  verifyChecksums : Bool := true
  deleteRemoved : Bool := false
  keepVersions : Nat := 3
  deriving DecidableEq, Repr

/-- `SyncJobUpdate`, after its validators. -/
structure SyncJobUpdate where
  name : Option String := none
  sourceUrl : Option String := none
  destinationPath : Option String := none
  includePattern : Option String := none
  excludePattern : Option String := none
  schedule : Option Schedule := none
  scheduleDay : Option Int := none
  scheduleTime : Option ClockTime := none
  verifyChecksums : Option Bool := none
  deleteRemoved : Option Bool := none
  keepVersions : Option Nat := none
  deriving DecidableEq, Repr

/-- What outlives a request: the committed jobs, and the scheduler of the process. -/
structure SyncState where
  jobs : Table SyncJob.id
  scheduler : Scheduler

def SyncState.empty : SyncState := ⟨Table.empty, Table.empty⟩

/-- The job of a request, with the id it gets when it is flushed. -/
def SyncJobCreate.job (data : SyncJobCreate) (uuid : String) : SyncJob where
  id := uuid
  name := data.name
  sourceUrl := data.sourceUrl
  destinationBackendId := data.destinationBackendId
  destinationPath := data.destinationPath
  includePattern := data.includePattern
  excludePattern := data.excludePattern
  schedule := data.schedule
  scheduleDay := data.scheduleDay
  scheduleTime := data.scheduleTime
  verifyChecksums := data.verifyChecksums
  deleteRemoved := data.deleteRemoved
  keepVersions := data.keepVersions
  status := .idle

/-- Jobs of the name. -/
def jobsNamed (jobs : Table SyncJob.id) (name : String) : List SyncJob :=
  jobs.rows.filter (fun j => j.name = name)

def alreadyExists (name : String) : Lifecycle.Exn :=
  .http 409 ("Job '" ++ name ++ "' already exists")

section Requests

variable (accepts : CronTrigger → Bool) (backendExists : String → Bool)

/-- `create_sync_job`: what becomes of the scheduler, and the answer with the jobs. -/
def createSyncJob (s : SyncState) (uuid drawn : String) (data : SyncJobCreate) :
    Scheduler × Except Lifecycle.Exn (SyncJob × Table SyncJob.id) :=
  match scalarOneOrNone (jobsNamed s.jobs data.name) with
  | .error e => (s.scheduler, .error e)
  | .ok (some _) => (s.scheduler, .error (alreadyExists data.name))
  | .ok none =>
      if backendExists data.destinationBackendId = false then
        (s.scheduler, .error (.http 400 "Destination backend not found"))
      else
        -- the job has no id yet
        let scheduled := if data.schedule ≠ .manual then
            scheduleJob accepts s.scheduler drawn none data.schedule data.scheduleDay
              data.scheduleTime
          else (s.scheduler, .ok ())
        match scheduled with
        | (scheduler, .error e) => (scheduler, .error e)
        | (scheduler, .ok ()) =>
            match s.jobs.insert? (data.job uuid) with
            | some jobs => (scheduler, .ok (data.job uuid, jobs))
            | none => (scheduler, .error .integrityError)

/-- The fields of an update that are given. -/
def SyncJob.apply (job : SyncJob) (data : SyncJobUpdate) : SyncJob :=
  { job with
    name := data.name.getD job.name
    sourceUrl := data.sourceUrl.getD job.sourceUrl
    destinationPath := data.destinationPath.getD job.destinationPath
    includePattern := data.includePattern.or job.includePattern
    excludePattern := data.excludePattern.or job.excludePattern
    verifyChecksums := data.verifyChecksums.getD job.verifyChecksums
    deleteRemoved := data.deleteRemoved.getD job.deleteRemoved
    keepVersions := data.keepVersions.getD job.keepVersions
    schedule := data.schedule.getD job.schedule
    scheduleDay := data.scheduleDay.or job.scheduleDay
    scheduleTime := data.scheduleTime.or job.scheduleTime }

/-- `schedule_changed`. -/
def SyncJobUpdate.scheduleChanged (data : SyncJobUpdate) : Bool :=
  data.schedule.isSome || data.scheduleDay.isSome || data.scheduleTime.isSome

/-- The query of `update_sync_job` for a job of the new name. -/
def namesake (jobs : Table SyncJob.id) (job : SyncJob) : Option String →
    Except Lifecycle.Exn (Option SyncJob)
  | some name => if name ≠ job.name then scalarOneOrNone (jobsNamed jobs name) else .ok none
  | none => .ok none

/-- `update_sync_job`; `nextRunWritten` says whether `next_run_at` gets another value.  A row
that is written has lost its `updated_at` when the answer is built. -/
def updateSyncJob (s : SyncState) (jobId : String) (data : SyncJobUpdate)
    (nextRunWritten : Bool) : Scheduler × Except Lifecycle.Exn (SyncJob × Table SyncJob.id) :=
  match s.jobs.get? jobId with
  | none => (s.scheduler, .error (.http 404 "Sync job not found"))
  | some job =>
      if job.status = .running then
        (s.scheduler, .error (.http 400 "Cannot update running job"))
      else match namesake s.jobs job data.name with
        | .error e => (s.scheduler, .error e)
        | .ok (some _) => (s.scheduler, .error (alreadyExists (data.name.getD "")))
        | .ok none =>
            let job' := job.apply data
            let scheduled := if data.scheduleChanged = false then (s.scheduler, .ok ())
              else if job'.schedule = .manual then (removeJob s.scheduler (some job.id), .ok ())
              else scheduleJob accepts s.scheduler "" (some job.id) job'.schedule
                job'.scheduleDay job'.scheduleTime
            match scheduled with
            | (scheduler, .error e) => (scheduler, .error e)
            | (scheduler, .ok ()) =>
                if job' ≠ job ∨ nextRunWritten = true then (scheduler, .error .missingGreenlet)
                else (scheduler, .ok (job', s.jobs.put job'))

/-- `delete_sync_job`; a running process is stopped. -/
def deleteSyncJob (s : SyncState) (jobId : String) :
    Scheduler × Except Lifecycle.Exn (Unit × Table SyncJob.id) :=
  match s.jobs.get? jobId with
  | none => (s.scheduler, .error (.http 404 "Sync job not found"))
  | some _ =>
      (removeJob s.scheduler (some jobId), .ok ((), s.jobs.delete (fun j => j.id = jobId)))

/-- The loop of `_register_scheduled_jobs`. -/
def registerJobs (scheduler : Scheduler) : List SyncJob → Scheduler × Except Lifecycle.Exn Unit
  | [] => (scheduler, .ok ())
  | job :: jobs =>
      match scheduleJob accepts scheduler "" (some job.id) job.schedule job.scheduleDay
        job.scheduleTime with
      | (scheduler, .error e) => (scheduler, .error e)
      | (scheduler, .ok ()) => registerJobs scheduler jobs

/-- `_register_scheduled_jobs`, in a new process. -/
def registerScheduledJobs (jobs : Table SyncJob.id) : Scheduler :=
  (registerJobs accepts Table.empty (jobs.rows.filter (fun j => j.schedule ≠ .manual))).1

/-! ## §4. The machine. -/

/-- The requests, a run of a job that begins or ends, and a restart. -/
inductive SyncOp where
  | create (uuid drawn : String) (data : SyncJobCreate)
  | update (jobId : String) (data : SyncJobUpdate) (nextRunWritten : Bool)
  | delete (jobId : String)
  | status (jobId : String) (status : SyncStatus)
  | restart

/-- A request in its session; the scheduler keeps what was done to it. -/
def SyncState.after {α : Type} (s : SyncState)
    (r : Scheduler × Except Lifecycle.Exn (α × Table SyncJob.id)) : SyncState where
  scheduler := r.1
  jobs := commitOrRollback s.jobs r.2

def syncStep (s : SyncState) : SyncOp → SyncState
  | .create uuid drawn data => s.after (createSyncJob accepts backendExists s uuid drawn data)
  | .update jobId data nextRunWritten =>
      s.after (updateSyncJob accepts s jobId data nextRunWritten)
  | .delete jobId => s.after (deleteSyncJob s jobId)
  | .status jobId status =>
      match s.jobs.get? jobId with
      | some job => { s with jobs := s.jobs.put { job with status } }
      | none => s
  | .restart => { s with scheduler := registerScheduledJobs accepts s.jobs }

end Requests

/-! ## §5. Agreement. -/

def SyncJob.trigger? (job : SyncJob) : Option CronTrigger :=
  cronTrigger job.schedule job.scheduleDay job.scheduleTime

/-- An entry of a job: keyed by its id and called with it. -/
def SyncJob.entry (job : SyncJob) (trigger : CronTrigger) : SchedulerEntry where
  key := job.id
  jobId := some job.id
  trigger

/-- The entry of a job that is not manual is triggered by its schedule, day and time. -/
def SyncJob.ownEntry (job : SyncJob) : Option SchedulerEntry :=
  job.trigger?.map job.entry

/-- **THE SCHEDULER AGREES WITH THE TABLE**: its entries, one for each key, are those of the
jobs that are not manual. -/
def SchedulerOk (s : SyncState) : Prop :=
  ∀ e, e ∈ s.scheduler.rows ↔ ∃ job ∈ s.jobs.rows, job.ownEntry = some e

/-- Agreement, and no job with a trigger that would be refused. -/
structure SyncInv (accepts : CronTrigger → Bool) (s : SyncState) : Prop where
  agrees : SchedulerOk s
  accepted : ∀ job ∈ s.jobs.rows, ∀ trigger, job.trigger? = some trigger → accepts trigger = true

theorem cronTrigger_eq_none_iff {schedule : Schedule} {day : Option Int}
    {time : Option ClockTime} : cronTrigger schedule day time = none ↔ schedule = .manual := by
  cases schedule <;> simp [cronTrigger]

theorem SyncJob.ownEntry_eq_none_iff {job : SyncJob} :
    job.ownEntry = none ↔ job.schedule = .manual := by
  rw [ownEntry, Option.map_eq_none_iff]
  exact cronTrigger_eq_none_iff

theorem SyncJob.ownEntry_key {job : SyncJob} {e : SchedulerEntry} (h : job.ownEntry = some e) :
    e.key = job.id ∧ e.jobId = some job.id := by
  obtain ⟨trigger, -, rfl⟩ := Option.map_eq_some_iff.mp h
  exact ⟨rfl, rfl⟩

/-- The entries of the other jobs. -/
theorem SchedulerOk.others {s : SyncState} (h : SchedulerOk s) (jobId : String)
    (e : SchedulerEntry) :
    (e ∈ s.scheduler.rows ∧ e.key ≠ jobId)
      ↔ ∃ j ∈ s.jobs.rows, j.id ≠ jobId ∧ j.ownEntry = some e := by
  rw [h e]
  constructor
  · rintro ⟨⟨j, hj, he⟩, hne⟩
    refine ⟨j, hj, fun hid => hne ?_, he⟩
    rw [(j.ownEntry_key he).1, hid]
  · rintro ⟨j, hj, hne, he⟩
    refine ⟨⟨j, hj, he⟩, ?_⟩
    rw [(j.ownEntry_key he).1]
    exact hne

/-- A job is rewritten, and its entry with it. -/
theorem SchedulerOk.put {s : SyncState} (h : SchedulerOk s) {job : SyncJob} (job' : SyncJob)
    (hjob : job ∈ s.jobs.rows) (hid : job'.id = job.id) {scheduler : Scheduler}
    (hsched : ∀ e, e ∈ scheduler.rows
      ↔ job'.ownEntry = some e ∨ (e ∈ s.scheduler.rows ∧ e.key ≠ job.id)) :
    SchedulerOk { jobs := s.jobs.put job', scheduler } := by
  intro e
  rw [hsched e, h.others]
  exact (Table.exists_mem_put_iff (P := fun j => j.ownEntry = some e) hjob hid).symm

theorem mem_removeJob {scheduler : Scheduler} {jobId : String} {e : SchedulerEntry} :
    e ∈ (removeJob scheduler (some jobId)).rows ↔ e ∈ scheduler.rows ∧ e.key ≠ jobId := by
  unfold removeJob
  simp

/-- **SCHEDULING A JOB** leaves the entries of the others, and its own if its trigger is
accepted. -/
theorem mem_scheduleJob {accepts : CronTrigger → Bool} {scheduler : Scheduler} {drawn : String}
    {job : SyncJob} {e : SchedulerEntry} :
    e ∈ (scheduleJob accepts scheduler drawn (some job.id) job.schedule job.scheduleDay
        job.scheduleTime).1.rows
      ↔ (job.trigger?.filter accepts).map job.entry = some e
        ∨ (e ∈ scheduler.rows ∧ e.key ≠ job.id) := by
  unfold scheduleJob SyncJob.trigger?
  dsimp only
  cases cronTrigger job.schedule job.scheduleDay job.scheduleTime with
  | none =>
      rw [mem_removeJob]
      simp
  | some trigger =>
      by_cases h : accepts trigger = true
      · rw [Option.filter_some, if_pos h]
        dsimp only
        rw [if_pos h, Table.mem_upsert, mem_removeJob, Option.map_some, Option.some.injEq]
        show e = job.entry trigger ∨ (e ∈ scheduler.rows ∧ e.key ≠ job.id) ∧ e.key ≠ job.id ↔ _
        rw [and_assoc, and_self, eq_comm]
      · rw [Option.filter_some, if_neg h]
        dsimp only
        rw [if_neg h, mem_removeJob]
        simp

/-- A job whose trigger is accepted, or that is manual, is scheduled. -/
theorem scheduleJob_ok {accepts : CronTrigger → Bool} (scheduler : Scheduler)
    (drawn : String) {job : SyncJob}
    (h : ∀ trigger, job.trigger? = some trigger → accepts trigger = true) :
    (scheduleJob accepts scheduler drawn (some job.id) job.schedule job.scheduleDay
      job.scheduleTime).2 = .ok () := by
  unfold scheduleJob
  dsimp only
  split
  next => rfl
  next trigger htrigger =>
    rw [if_pos (h trigger htrigger)]

/-- A trigger that is refused leaves the job without its entry. -/
theorem scheduleJob_refused {accepts : CronTrigger → Bool} {scheduler : Scheduler}
    {drawn : String} {jobId : Option String} {schedule : Schedule} {day : Option Int}
    {time : Option ClockTime} {trigger : CronTrigger}
    (h : cronTrigger schedule day time = some trigger) (hno : accepts trigger = false) :
    scheduleJob accepts scheduler drawn jobId schedule day time
      = (removeJob scheduler jobId, .error .other) := by
  unfold scheduleJob
  dsimp only
  rw [h]
  dsimp only
  rw [if_neg (by simp [hno])]

/-- A trigger that is accepted is filtered out of nothing. -/
theorem SyncJob.filter_trigger? {accepts : CronTrigger → Bool} {job : SyncJob}
    (h : ∀ trigger, job.trigger? = some trigger → accepts trigger = true) :
    job.trigger?.filter accepts = job.trigger? := by
  cases htrigger : job.trigger? with
  | none => rfl
  | some trigger => rw [Option.filter_some, if_pos (h trigger htrigger)]

/-! ## §6. A restart. -/

/-- The loop adds the entries of the jobs it goes through. -/
theorem mem_registerJobs {accepts : CronTrigger → Bool} {jobs : List SyncJob}
    (hacc : ∀ job ∈ jobs, ∀ trigger, job.trigger? = some trigger → accepts trigger = true)
    (hids : (jobs.map SyncJob.id).Nodup) :
    ∀ {scheduler : Scheduler}, (∀ e ∈ scheduler.rows, ∀ job ∈ jobs, e.key ≠ job.id) →
      ∀ e, e ∈ (registerJobs accepts scheduler jobs).1.rows
        ↔ e ∈ scheduler.rows ∨ ∃ job ∈ jobs, job.ownEntry = some e := by
  induction jobs with
  | nil =>
      intro scheduler _ e
      simp [registerJobs]
  | cons job jobs ih =>
      intro scheduler hfresh e
      rw [List.map_cons, List.nodup_cons] at hids
      obtain ⟨scheduler', hsched, hmem⟩ : ∃ scheduler',
          scheduleJob accepts scheduler "" (some job.id) job.schedule job.scheduleDay
              job.scheduleTime = (scheduler', .ok ()) ∧
            ∀ e, e ∈ scheduler'.rows
              ↔ job.ownEntry = some e ∨ (e ∈ scheduler.rows ∧ e.key ≠ job.id) := by
        have hacc := hacc job List.mem_cons_self
        refine ⟨_, Prod.ext rfl (scheduleJob_ok scheduler "" hacc), fun e => ?_⟩
        rw [mem_scheduleJob, SyncJob.filter_trigger? hacc]
        rfl
      -- no job that is left has the key of an entry so far
      have hfresh' : ∀ e ∈ scheduler'.rows, ∀ j ∈ jobs, e.key ≠ j.id := by
        intro e he j hj
        rcases (hmem e).mp he with hown | ⟨hold, -⟩
        · rw [(job.ownEntry_key hown).1]
          intro heq
          exact hids.1 (List.mem_map.mpr ⟨j, hj, heq.symm⟩)
        · exact hfresh e hold j (List.mem_cons_of_mem _ hj)
      have hrest := ih (fun j hj => hacc j (List.mem_cons_of_mem _ hj)) hids.2 hfresh' e
      have hold : (e ∈ scheduler.rows ∧ e.key ≠ job.id) ↔ e ∈ scheduler.rows :=
        and_iff_left_of_imp (fun he => hfresh e he job List.mem_cons_self)
      rw [registerJobs, hsched]
      dsimp only
      rw [hrest, hmem e, hold, List.exists_mem_cons_iff]
      exact or_right_comm.trans or_comm

theorem registerScheduledJobs_agrees {accepts : CronTrigger → Bool} {jobs : Table SyncJob.id}
    (hacc : ∀ job ∈ jobs.rows, ∀ trigger, job.trigger? = some trigger → accepts trigger = true) :
    SchedulerOk { jobs, scheduler := registerScheduledJobs accepts jobs } := by
  intro e
  have hids : ((jobs.rows.filter (fun j => j.schedule ≠ .manual)).map SyncJob.id).Nodup :=
    jobs.nodup.sublist (List.filter_sublist.map _)
  show e ∈ (registerJobs ..).1.rows ↔ _
  rw [mem_registerJobs (fun job hjob => hacc job (List.mem_filter.mp hjob).1) hids (by simp)]
  simp only [Table.empty_rows, List.not_mem_nil, false_or, List.mem_filter, decide_eq_true_eq]
  constructor
  · rintro ⟨job, ⟨hjob, -⟩, he⟩
    exact ⟨job, hjob, he⟩
  · rintro ⟨job, hjob, he⟩
    refine ⟨job, ⟨hjob, fun hmanual => ?_⟩, he⟩
    rw [SyncJob.ownEntry_eq_none_iff.mpr hmanual] at he
    cases he

/-! ## §7. Runs. -/

section Runs

variable (accepts : CronTrigger → Bool) (backendExists : String → Bool)

/-- The trigger is refused. -/
def refuses (trigger : Option CronTrigger) : Bool := trigger.any (fun t => !accepts t)

/-- The update does not get to the scheduler: the job runs, another one has the new name, or
no part of the schedule is set. -/
def sparesScheduler (s : SyncState) (job : SyncJob) (data : SyncJobUpdate) : Bool :=
  job.status = .running || !data.scheduleChanged
    || data.name.any (fun name => name ≠ job.name && !(jobsNamed s.jobs name).isEmpty)

/-- A job that is created is manual, or it is turned down; an update that is not turned down
hands the scheduler the trigger that the job has, or one that is refused for a manual job. -/
def syncMeets (s : SyncState) : SyncOp → Bool
  | .create _ _ data =>
      data.schedule = .manual || !(jobsNamed s.jobs data.name).isEmpty
        || !backendExists data.destinationBackendId
        || refuses accepts (cronTrigger data.schedule data.scheduleDay data.scheduleTime)
  | .update jobId data _ =>
      (s.jobs.get? jobId).all (fun job =>
        sparesScheduler s job data || (job.apply data).trigger?.filter accepts = job.trigger?)
  | _ => true

end Runs

variable {accepts : CronTrigger → Bool} {backendExists : String → Bool}

/-- A query for no job. -/
theorem scalarOneOrNone_jobsNamed {jobs : Table SyncJob.id} {name : String} :
    scalarOneOrNone (jobsNamed jobs name) = .ok none ↔ (jobsNamed jobs name).isEmpty = true := by
  rw [List.isEmpty_iff]
  cases jobsNamed jobs name with
  | nil => simp [scalarOneOrNone]
  | cons j rest => cases rest <;> simp [scalarOneOrNone]

/-- **A JOB THAT IS NOT TURNED DOWN** and not manual gets an entry without its id. -/
theorem createSyncJob_breaks {s : SyncState} {uuid drawn : String} {data : SyncJobCreate}
    (hmeets : syncMeets accepts backendExists s (.create uuid drawn data) = false) :
    ¬ SchedulerOk (syncStep accepts backendExists s (.create uuid drawn data)) := by
  simp only [syncMeets, Bool.or_eq_false_iff, decide_eq_false_iff_not,
    Bool.not_eq_false'] at hmeets
  obtain ⟨⟨⟨hmanual, hname⟩, hbackend⟩, hrefuses⟩ := hmeets
  obtain ⟨trigger, htrigger⟩ : ∃ trigger,
      cronTrigger data.schedule data.scheduleDay data.scheduleTime = some trigger :=
    Option.ne_none_iff_exists'.mp (mt cronTrigger_eq_none_iff.mp hmanual)
  have haccepts : accepts trigger = true := by
    simpa [refuses, htrigger] using hrefuses
  have hsched : scheduleJob accepts s.scheduler drawn none data.schedule data.scheduleDay
      data.scheduleTime
        = (s.scheduler.upsert { key := drawn, jobId := none, trigger }, .ok ()) := by
    unfold scheduleJob
    simp [htrigger, haccepts, removeJob]
  have hentry : { key := drawn, jobId := none, trigger : SchedulerEntry } ∈
      (syncStep accepts backendExists s (.create uuid drawn data)).scheduler.rows := by
    show _ ∈ (createSyncJob accepts backendExists s uuid drawn data).1.rows
    unfold createSyncJob
    rw [scalarOneOrNone_jobsNamed.mpr hname]
    dsimp only
    rw [if_neg (by simp [hbackend]), if_pos hmanual, hsched]
    dsimp only
    split <;> exact Table.mem_upsert.mpr (.inl rfl)
  intro hok
  obtain ⟨job, -, he⟩ := (hok _).mp hentry
  cases (job.ownEntry_key he).2

theorem createSyncJob_inv {s : SyncState} (h : SyncInv accepts s) {uuid drawn : String}
    {data : SyncJobCreate}
    (hmeets : syncMeets accepts backendExists s (.create uuid drawn data) = true) :
    SyncInv accepts (syncStep accepts backendExists s (.create uuid drawn data)) := by
  show SyncInv accepts (s.after (createSyncJob accepts backendExists s uuid drawn data))
  unfold createSyncJob
  split
  next => exact h
  next => exact h
  next hnone =>
    split
    next => exact h
    next hbackend =>
      simp only [syncMeets, Bool.or_eq_true, decide_eq_true_eq, Bool.not_eq_true',
        scalarOneOrNone_jobsNamed.mp hnone, hbackend, Bool.true_eq_false, or_false] at hmeets
      by_cases hmanual : data.schedule = .manual
      · -- a manual job leaves the scheduler alone
        rw [if_neg (by simp [hmanual])]
        dsimp only
        split
        next jobs hins =>
          obtain ⟨-, hrows⟩ := Table.insert?_eq_some_iff.mp hins
          have hentry : (data.job uuid).ownEntry = none := SyncJob.ownEntry_eq_none_iff.mpr hmanual
          have hnone : (data.job uuid).trigger? = none := cronTrigger_eq_none_iff.mpr hmanual
          constructor
          · intro e
            rw [show (s.after _).scheduler = s.scheduler from rfl, h.agrees e,
              show (s.after _).jobs = jobs from rfl, hrows]
            simp only [List.mem_append, List.mem_singleton, or_and_right, exists_or,
              exists_eq_left, hentry, reduceCtorEq, or_false]
          · intro job hjob trigger htrigger
            rw [show (s.after _).jobs = jobs from rfl, hrows, List.mem_append,
              List.mem_singleton] at hjob
            rcases hjob with hjob | rfl
            · exact h.accepted job hjob trigger htrigger
            · rw [hnone] at htrigger
              cases htrigger
        next => exact h
      · -- a trigger that is refused is found out before anything is stored
        have hrefuses := hmeets.resolve_left hmanual
        obtain ⟨trigger, htrigger, hno⟩ := (Option.any_eq_true ..).mp hrefuses
        rw [if_pos hmanual, scheduleJob_refused htrigger (by simpa using hno)]
        exact h

/-- A job is rewritten by one with a trigger that is accepted, and its entry with it. -/
theorem SyncInv.put {s : SyncState} (h : SyncInv accepts s) {job : SyncJob} (job' : SyncJob)
    (hjob : job ∈ s.jobs.rows) (hid : job'.id = job.id)
    (hacc : ∀ trigger, job'.trigger? = some trigger → accepts trigger = true)
    {scheduler : Scheduler} (hsched : ∀ e, e ∈ scheduler.rows
      ↔ job'.ownEntry = some e ∨ (e ∈ s.scheduler.rows ∧ e.key ≠ job.id)) :
    SyncInv accepts { jobs := s.jobs.put job', scheduler } where
  agrees := h.agrees.put job' hjob hid hsched
  accepted := by
    intro j hj trigger htrigger
    rcases (Table.mem_put_iff ⟨job, hjob, hid.symm⟩).mp hj with rfl | ⟨hj, -⟩
    · exact hacc trigger htrigger
    · exact h.accepted j hj trigger htrigger

/-- The entries are that of the job and those of the others. -/
theorem SchedulerOk.own_or_others {s : SyncState} (h : SchedulerOk s) {job : SyncJob}
    (hjob : job ∈ s.jobs.rows) (e : SchedulerEntry) :
    e ∈ s.scheduler.rows ↔ job.ownEntry = some e ∨ (e ∈ s.scheduler.rows ∧ e.key ≠ job.id) := by
  rw [h.others, h e]
  exact Table.exists_mem_iff (P := fun j => j.ownEntry = some e) hjob

theorem namesake_eq_none_iff {jobs : Table SyncJob.id} {job : SyncJob} {name? : Option String} :
    namesake jobs job name? = .ok none ↔
      name?.any (fun name => name ≠ job.name && !(jobsNamed jobs name).isEmpty) = false := by
  cases name? with
  | none => simp [namesake]
  | some name =>
      by_cases heq : name = job.name
      · simp [namesake, heq]
      · simp [namesake, heq, scalarOneOrNone_jobsNamed]

theorem sparesScheduler_eq_false_iff {s : SyncState} {job : SyncJob} {data : SyncJobUpdate} :
    sparesScheduler s job data = false ↔
      job.status ≠ .running ∧ namesake s.jobs job data.name = .ok none
        ∧ data.scheduleChanged = true := by
  unfold sparesScheduler
  rw [namesake_eq_none_iff, Bool.or_eq_false_iff, Bool.or_eq_false_iff,
    decide_eq_false_iff_not, Bool.not_eq_false', and_assoc, and_comm (b := _ = false)]

/-- **NO UPDATE CHANGES A JOB**: one that would is rolled back. -/
theorem updateSyncJob_jobs (s : SyncState) (jobId : String) (data : SyncJobUpdate)
    (nextRunWritten : Bool) :
    (s.after (updateSyncJob accepts s jobId data nextRunWritten)).jobs = s.jobs := by
  unfold updateSyncJob
  split
  next => rfl
  next job hget =>
    split
    next => rfl
    next =>
      split
      next => rfl
      next => rfl
      next =>
        dsimp only
        split
        next => rfl
        next =>
          split
          next => rfl
          next hsame =>
            rw [not_or, not_not] at hsame
            show s.jobs.put (job.apply data) = s.jobs
            rw [hsame.1]
            exact Table.put_self (Table.get?_eq_some_iff.mp hget).1

/-- An update that is turned down, or sets no part of the schedule, has not touched the
scheduler. -/
theorem updateSyncJob_turnedDown {s : SyncState} {jobId : String} {data : SyncJobUpdate}
    {nextRunWritten : Bool}
    (h : ∀ job, s.jobs.get? jobId = some job → sparesScheduler s job data = true) :
    (updateSyncJob accepts s jobId data nextRunWritten).1 = s.scheduler := by
  unfold updateSyncJob
  split
  next => rfl
  next job hget =>
    split
    next => rfl
    next hrun =>
      split
      next => rfl
      next => rfl
      next hname =>
        have hunchanged : data.scheduleChanged = false := by
          by_contra hchanged
          have hno := sparesScheduler_eq_false_iff.mpr ⟨hrun, hname, eq_true_of_ne_false hchanged⟩
          exact absurd (h job hget) (by simp [hno])
        dsimp only
        rw [if_pos hunchanged]
        split
        next heq => exact (congrArg Prod.fst heq).symm
        next heq =>
          split
          next => exact (congrArg Prod.fst heq).symm
          next => exact (congrArg Prod.fst heq).symm

/-- Any other one has scheduled the job with its new trigger. -/
theorem mem_updateSyncJob {s : SyncState} {jobId : String} {data : SyncJobUpdate}
    {nextRunWritten : Bool} {job : SyncJob} (hget : s.jobs.get? jobId = some job)
    (hrun : job.status ≠ .running) (hname : namesake s.jobs job data.name = .ok none)
    (hchanged : data.scheduleChanged = true) (e : SchedulerEntry) :
    e ∈ (updateSyncJob accepts s jobId data nextRunWritten).1.rows
      ↔ ((job.apply data).trigger?.filter accepts).map job.entry = some e
        ∨ (e ∈ s.scheduler.rows ∧ e.key ≠ job.id) := by
  have hsched : (updateSyncJob accepts s jobId data nextRunWritten).1
      = (if (job.apply data).schedule = .manual then
            (removeJob s.scheduler (some job.id), .ok ())
          else scheduleJob accepts s.scheduler "" (some job.id) (job.apply data).schedule
            (job.apply data).scheduleDay (job.apply data).scheduleTime).1 := by
    unfold updateSyncJob
    rw [hget]
    dsimp only
    rw [if_neg hrun, hname]
    dsimp only
    rw [if_neg (by simp [hchanged])]
    split
    next heq => rw [heq]
    next heq =>
      rw [heq]
      split <;> rfl
  rw [hsched]
  by_cases hmanual : (job.apply data).schedule = .manual
  · rw [if_pos hmanual, mem_removeJob, SyncJob.trigger?, cronTrigger_eq_none_iff.mpr hmanual]
    simp
  · rw [if_neg hmanual]
    exact @mem_scheduleJob accepts s.scheduler "" (job.apply data) e

/-- Another trigger makes another entry. -/
theorem SyncJob.entry_injective (job : SyncJob) : Function.Injective job.entry :=
  fun _ _ h => congrArg SchedulerEntry.trigger h

/-- **AN UPDATE KEEPS THE AGREEMENT EXACTLY IF** it leaves the scheduler with the trigger that
the stored job has. -/
theorem updateSyncJob_agrees_iff {s : SyncState} (h : SchedulerOk s) {jobId : String}
    {data : SyncJobUpdate} {nextRunWritten : Bool} :
    SchedulerOk (syncStep accepts backendExists s (.update jobId data nextRunWritten))
      ↔ syncMeets accepts backendExists s (.update jobId data nextRunWritten) = true := by
  have hjobs : (s.after (updateSyncJob accepts s jobId data nextRunWritten)).jobs = s.jobs :=
    updateSyncJob_jobs s jobId data nextRunWritten
  by_cases hdown : ∀ job, s.jobs.get? jobId = some job → sparesScheduler s job data = true
  · refine iff_of_true ?_ ?_
    · intro e
      show e ∈ (updateSyncJob accepts s jobId data nextRunWritten).1.rows ↔
        ∃ job ∈ (s.after (updateSyncJob accepts s jobId data nextRunWritten)).jobs.rows, _
      rw [hjobs, updateSyncJob_turnedDown hdown]
      exact h e
    · show (s.jobs.get? jobId).all _ = true
      rw [Option.all_eq_true]
      intro job hget
      rw [hdown job hget, Bool.true_or]
  · push Not at hdown
    obtain ⟨job, hget, hno⟩ := hdown
    rw [ne_eq, Bool.not_eq_true] at hno
    obtain ⟨hrun, hname, hchanged⟩ := sparesScheduler_eq_false_iff.mp hno
    have hjob := (Table.get?_eq_some_iff.mp hget).1
    have hmem : ∀ e, e ∈ (updateSyncJob accepts s jobId data nextRunWritten).1.rows ↔ _ :=
      mem_updateSyncJob hget hrun hname hchanged
    have hmeets : syncMeets accepts backendExists s (.update jobId data nextRunWritten) = true
        ↔ (job.apply data).trigger?.filter accepts = job.trigger? := by
      show (s.jobs.get? jobId).all _ = true ↔ _
      rw [hget, Option.all_some, hno, Bool.false_or, decide_eq_true_eq]
    rw [hmeets]
    constructor
    · intro hok
      -- the entry of the job is there exactly if it is the job's own
      refine Option.map_injective job.entry_injective (Option.ext (fun e => ?_))
      have hok := hok e
      rw [show (syncStep accepts backendExists s (.update jobId data nextRunWritten)).jobs
        = s.jobs from hjobs] at hok
      have hrows := hok.symm.trans (hmem e)
      constructor
      · intro he
        obtain ⟨j, hj, hje⟩ := hrows.mpr (.inl he)
        obtain ⟨trigger, -, rfl⟩ := Option.map_eq_some_iff.mp he
        obtain rfl : j = job := s.jobs.eq_of_key_eq hj hjob (j.ownEntry_key hje).1.symm
        exact hje
      · intro he
        rcases hrows.mp ⟨job, hjob, he⟩ with he' | ⟨-, hne⟩
        · exact he'
        · exact absurd (job.ownEntry_key he).1 hne
    · intro hsame e
      rw [show (syncStep accepts backendExists s (.update jobId data nextRunWritten)).jobs
        = s.jobs from hjobs, ← h e, h.own_or_others hjob]
      show e ∈ (updateSyncJob accepts s jobId data nextRunWritten).1.rows ↔ _
      rw [hmem, hsame]
      rfl

theorem updateSyncJob_inv {s : SyncState} (h : SyncInv accepts s) {jobId : String}
    {data : SyncJobUpdate} {nextRunWritten : Bool}
    (hmeets : syncMeets accepts backendExists s (.update jobId data nextRunWritten) = true) :
    SyncInv accepts (syncStep accepts backendExists s (.update jobId data nextRunWritten)) where
  agrees := (updateSyncJob_agrees_iff h.agrees).mpr hmeets
  accepted := by
    intro job hjob
    rw [show (syncStep accepts backendExists s (.update jobId data nextRunWritten)).jobs
      = s.jobs from updateSyncJob_jobs s jobId data nextRunWritten] at hjob
    exact h.accepted job hjob

/-- **EVERY STEP** that meets the condition keeps the agreement. -/
theorem syncStep_inv {s : SyncState} {op : SyncOp} (h : SyncInv accepts s)
    (hmeets : syncMeets accepts backendExists s op = true) :
    SyncInv accepts (syncStep accepts backendExists s op) := by
  cases op with
  | create uuid drawn data => exact createSyncJob_inv h hmeets
  | update jobId data nextRunWritten => exact updateSyncJob_inv h hmeets
  | delete jobId =>
      show SyncInv accepts (s.after (deleteSyncJob s jobId))
      unfold deleteSyncJob
      split
      next => exact h
      next =>
        constructor
        · intro e
          show e ∈ (removeJob s.scheduler (some jobId)).rows ↔
            ∃ job ∈ (s.jobs.delete (fun j => j.id = jobId)).rows, _
          rw [mem_removeJob, h.agrees.others]
          simp [and_assoc]
        · intro job hjob
          exact h.accepted job (Table.mem_delete.mp hjob).1
  | status jobId status =>
      show SyncInv accepts (match s.jobs.get? jobId with | some job => _ | none => s)
      split
      next job hget =>
        obtain ⟨hjob, -⟩ := Table.get?_eq_some_iff.mp hget
        have hown := h.agrees.own_or_others hjob
        exact h.put { job with status } hjob rfl (h.accepted job hjob) hown
      next => exact h
  | restart => exact ⟨registerScheduledJobs_agrees h.accepted, h.accepted⟩

theorem syncInv_empty : SyncInv accepts SyncState.empty := by
  constructor <;> simp [SyncState.empty, SchedulerOk]

variable (accepts backendExists) in
/-- **THE SCHEDULER AND THE TABLE.**  The runs in which the scheduler always agrees with the
table are those in which every job that is created is manual or turned down, and no update
that is not turned down leaves the scheduler with another trigger than the job has. -/
theorem scheduler_agrees_iff (ops : List SyncOp) :
    Always (syncStep accepts backendExists) SchedulerOk SyncState.empty ops
      ↔ Along (syncStep accepts backendExists)
          (fun s op => syncMeets accepts backendExists s op = true) SyncState.empty ops := by
  refine always_iff_along (L := fun _ => True) (fun _ _ _ => syncStep_inv)
    (fun _ h => h.agrees) ?_ (fun _ _ => trivial) syncInv_empty
  intro s op _ h hmeets
  cases op with
  | create uuid drawn data => exact createSyncJob_breaks (eq_false_of_ne_true hmeets)
  | update jobId data nextRunWritten =>
      exact fun hok => hmeets ((updateSyncJob_agrees_iff h.agrees).mp hok)
  | delete | status | restart => exact absurd rfl hmeets

/-- Every hour. -/
def hourlyJob : SyncJobCreate where
  name := "iso"
  sourceUrl := "http://m/"
  destinationBackendId := "b"
  destinationPath := "iso"
  schedule := .hourly

/-- A job that is created for every hour is entered without its id. -/
theorem hourly_job_without_id :
    (syncStep (fun _ => true) (fun _ => true) SyncState.empty
        (.create "job" "drawn" hourlyJob)).scheduler.rows
      = [{ key := "drawn", jobId := none, trigger := { minute := 0 } }] ∧
    ¬ Always (syncStep (fun _ => true) (fun _ => true)) SchedulerOk SyncState.empty
      [.create "job" "drawn" hourlyJob] := by
  refine ⟨by decide, fun h => ?_⟩
  exact createSyncJob_breaks (by decide) h.2

end PureBoot.Storage
