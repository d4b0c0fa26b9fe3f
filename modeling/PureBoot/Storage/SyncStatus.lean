/-
  PureBoot.Storage.SyncStatus — what the rows of the sync jobs say about their TASKS.

  A job is `running` in the table while a task is at work for it, and so is its run; the
  process that `SyncService` keeps for the job is the one whose output that task reads.  This
  holds as long as nothing is cancelled, no exception comes once a run is written, and no job
  is asked to run while another start of it has passed its checks and is not written: two
  such starts would give it two tasks.  A cancel request, or the deletion of a running job,
  makes a job idle whose next run may have begun, and an exception leaves a process behind.
  A restart ends the tasks, and the jobs whose task it ended stay `running` for ever.

  Main results:
    * `RowsFollow`, `ProcessesFollow` — the invariant, of the rows and of the processes;
    * `sync_jobs_follow_tasks` — the runs that keep it.
-/
import PureBoot.Storage.SyncRuns

namespace PureBoot.Storage

open PureBoot.Lib PureBoot.Lifecycle

namespace SyncSystem

variable {s : SyncSystem}

/-! ## §1. The rows follow the tasks. -/

/-- The task has not written how it ended. -/
def live (t : SyncTask) : Bool :=
  match t.pc with
  | .reporting _ => false
  | _ => true

def WorksFor (s : SyncSystem) (jobId : String) : Prop :=
  ∃ t ∈ s.tasks.rows, live t = true ∧ t.jobId = jobId

def WorksOn (s : SyncSystem) (runId : String) : Prop :=
  ∃ t ∈ s.tasks.rows, live t = true ∧ t.runId = runId

/-- **A JOB IS RUNNING** as long as a task is at work for it, or a restart has ended that task;
after that none comes. -/
structure JobFollows (s : SyncSystem) (job : JobRow) : Prop where
  status : job.status = .running ↔ WorksFor s job.id ∨ job.cutOff = true
  cutOff : job.cutOff = true → ¬ WorksFor s job.id

/-- **A RUN IS RUNNING** as long as its task is at work on it, or a restart has ended that task;
then it is completed, with success or with an error. -/
structure RunFollows (s : SyncSystem) (run : SyncJobRun) : Prop where
  status : run.status = .running ↔ WorksOn s run.id ∨ run.cutOff = true
  cutOff : run.cutOff = true → ¬ WorksOn s run.id
  completed : run.completed = true ↔ run.status ≠ .running
  running : run.status = .running → run.error = none
  success : run.status = .success → run.progressPercent = 100 ∧ run.error = none
  failed : run.status = .failed → run.error.isSome = true

/-- The rows, and that **NO TWO TASKS** are at work for one job. -/
structure RowsFollow (s : SyncSystem) : Prop where
  once : ∀ t ∈ s.tasks.rows, ∀ t' ∈ s.tasks.rows, live t = true → live t' = true →
    t.jobId = t'.jobId → t = t'
  jobs : ∀ job ∈ s.jobs.rows, JobFollows s job
  runs : ∀ run ∈ s.runs.rows, RunFollows s run

theorem JobFollows.congr {s s' : SyncSystem} {job : JobRow} (h : JobFollows s job)
    (hworks : WorksFor s' job.id ↔ WorksFor s job.id) : JobFollows s' job where
  status := h.status.trans (or_congr_left hworks.symm)
  cutOff := fun hcut hw => h.cutOff hcut (hworks.mp hw)

theorem RunFollows.congr {s s' : SyncSystem} {run : SyncJobRun} (h : RunFollows s run)
    (hworks : WorksOn s' run.id ↔ WorksOn s run.id) : RunFollows s' run where
  status := h.status.trans (or_congr_left hworks.symm)
  cutOff := fun hcut hw => h.cutOff hcut (hworks.mp hw)
  completed := h.completed
  running := h.running
  success := h.success
  failed := h.failed

/-- A task goes on, and has written no more than before. -/
theorem RowsFollow.move {t : SyncTask} {pc : SyncPc} {s' : SyncSystem} (h : RowsFollow s)
    (ht : t ∈ s.tasks.rows) (htasks : s'.tasks = (s.setPc t pc).tasks) (hjobs : s'.jobs = s.jobs)
    (hruns : s'.runs = s.runs) (hlive : live { t with pc } = live t) : RowsFollow s' := by
  have hput : ∀ x, x ∈ s'.tasks.rows ↔
      x = { t with pc } ∨ (x ∈ s.tasks.rows ∧ x.runId ≠ t.runId) := by
    intro x
    rw [htasks]
    exact Table.mem_put_iff ⟨t, ht, rfl⟩
  have hexists : ∀ {P : SyncTask → Prop}, (P { t with pc } ↔ P t) →
      ((∃ x ∈ s'.tasks.rows, P x) ↔ ∃ x ∈ s.tasks.rows, P x) := by
    intro P hP
    rw [htasks]
    exact Table.exists_mem_put_congr ht (rfl : SyncTask.runId { t with pc } = t.runId) hP
  have hold : ∀ x ∈ s'.tasks.rows, live x = true →
      ∃ y ∈ s.tasks.rows, live y = true ∧ y.jobId = x.jobId ∧ y.runId = x.runId := by
    intro x hx hxlive
    rcases (hput x).mp hx with rfl | ⟨hx, -⟩
    · exact ⟨t, ht, hlive ▸ hxlive, rfl, rfl⟩
    · exact ⟨x, hx, hxlive, rfl, rfl⟩
  constructor
  · intro x hx x' hx' hxlive hx'live hjob
    obtain ⟨y, hy, hylive, hyjob, hyrun⟩ := hold x hx hxlive
    obtain ⟨y', hy', hy'live, hy'job, hy'run⟩ := hold x' hx' hx'live
    have heq : y = y' := h.once y hy y' hy' hylive hy'live (hyjob.trans (hjob.trans hy'job.symm))
    exact s'.tasks.eq_of_key_eq hx hx' (hyrun.symm.trans (heq ▸ hy'run))
  · intro job hjob
    refine (h.jobs job (hjobs ▸ hjob)).congr (hexists ?_)
    rw [hlive]
  · intro run hrun
    refine (h.runs run (hruns ▸ hrun)).congr (hexists ?_)
    rw [hlive]

/-- A task writes how it ended. -/
theorem RowsFollow.finish {t : SyncTask} {caught : Bool} {s' : SyncSystem} (h : RowsFollow s)
    (ht : t ∈ s.tasks.rows) (hlive : live t = true)
    (htasks : s'.tasks = (s.setPc t (.reporting caught)).tasks)
    (hjobs : ∀ job ∈ s'.jobs.rows, (job ∈ s.jobs.rows ∧ job.id ≠ t.jobId) ∨
      ∃ old ∈ s.jobs.rows, old.id = t.jobId ∧ job.id = old.id ∧ job.cutOff = old.cutOff ∧
        job.status ≠ .running)
    (hruns : ∀ run ∈ s'.runs.rows, (run ∈ s.runs.rows ∧ run.id ≠ t.runId) ∨
      ∃ old ∈ s.runs.rows, old.id = t.runId ∧ run.id = old.id ∧ run.cutOff = old.cutOff ∧
        run.completed = true ∧ run.status ≠ .running ∧
        (run.status = .success → run.progressPercent = 100 ∧ run.error = old.error) ∧
        (run.status = .failed → run.error.isSome = true)) : RowsFollow s' := by
  have hput : ∀ x, x ∈ s'.tasks.rows ↔
      x = { t with pc := .reporting caught } ∨ (x ∈ s.tasks.rows ∧ x.runId ≠ t.runId) := by
    intro x
    rw [htasks]
    exact Table.mem_put_iff ⟨t, ht, rfl⟩
  -- those at work are those that were, but for this one
  have hstill : ∀ x, (x ∈ s'.tasks.rows ∧ live x = true) ↔
      (x ∈ s.tasks.rows ∧ live x = true) ∧ x.runId ≠ t.runId := by
    intro x
    constructor
    · rintro ⟨hx, hxlive⟩
      rcases (hput x).mp hx with rfl | ⟨hx, hne⟩
      · cases hxlive
      · exact ⟨⟨hx, hxlive⟩, hne⟩
    · rintro ⟨⟨hx, hxlive⟩, hne⟩
      exact ⟨(hput x).mpr (Or.inr ⟨hx, hne⟩), hxlive⟩
  have hworksFor : ∀ {jobId}, jobId ≠ t.jobId → (WorksFor s' jobId ↔ WorksFor s jobId) := by
    intro jobId hne
    constructor
    · rintro ⟨x, hx, hxlive, hxjob⟩
      exact ⟨x, ((hstill x).mp ⟨hx, hxlive⟩).1.1, hxlive, hxjob⟩
    · rintro ⟨x, hx, hxlive, rfl⟩
      refine ⟨x, ((hstill x).mpr ⟨⟨hx, hxlive⟩, ?_⟩).1, hxlive, rfl⟩
      intro hrun
      exact hne (congrArg SyncTask.jobId (s.tasks.eq_of_key_eq hx ht hrun))
  have hworksOn : ∀ {runId}, runId ≠ t.runId → (WorksOn s' runId ↔ WorksOn s runId) := by
    intro runId hne
    constructor
    · rintro ⟨x, hx, hxlive, hxrun⟩
      exact ⟨x, ((hstill x).mp ⟨hx, hxlive⟩).1.1, hxlive, hxrun⟩
    · rintro ⟨x, hx, hxlive, rfl⟩
      exact ⟨x, ((hstill x).mpr ⟨⟨hx, hxlive⟩, hne⟩).1, hxlive, rfl⟩
  have hnotFor : ¬ WorksFor s' t.jobId := by
    rintro ⟨x, hx, hxlive, hxjob⟩
    obtain ⟨⟨hx, -⟩, hne⟩ := (hstill x).mp ⟨hx, hxlive⟩
    exact hne (congrArg SyncTask.runId (h.once x hx t ht hxlive hlive hxjob))
  have hnotOn : ¬ WorksOn s' t.runId := by
    rintro ⟨x, hx, hxlive, hxrun⟩
    exact ((hstill x).mp ⟨hx, hxlive⟩).2 hxrun
  constructor
  · intro x hx x' hx' hxlive hx'live hjob
    exact h.once x ((hstill x).mp ⟨hx, hxlive⟩).1.1 x' ((hstill x').mp ⟨hx', hx'live⟩).1.1
      hxlive hx'live hjob
  · intro job hjob
    rcases hjobs job hjob with ⟨hold, hne⟩ | ⟨old, hold, hid, hid', hcut, hstatus⟩
    · exact (h.jobs job hold).congr (hworksFor hne)
    · have hnever : ¬ job.cutOff = true := by
        intro hjobcut
        exact (h.jobs old hold).cutOff (hcut ▸ hjobcut) ⟨t, ht, hlive, hid.symm⟩
      rw [← hid'] at hid
      refine ⟨iff_of_false hstatus ?_, fun hjobcut => absurd hjobcut hnever⟩
      rw [hid, not_or]
      exact ⟨hnotFor, hnever⟩
  · intro run hrun
    rcases hruns run hrun with ⟨hold, hne⟩ |
      ⟨old, hold, hid, hid', hcut, hcompleted, hstatus, hsuccess, hfailed⟩
    · exact (h.runs run hold).congr (hworksOn hne)
    · have hworks : WorksOn s old.id := ⟨t, ht, hlive, hid.symm⟩
      have hnever : ¬ run.cutOff = true := fun hruncut =>
        (h.runs old hold).cutOff (hcut ▸ hruncut) hworks
      have herror : old.error = none :=
        (h.runs old hold).running ((h.runs old hold).status.mpr (Or.inl hworks))
      rw [← hid'] at hid
      refine ⟨iff_of_false hstatus ?_, fun hruncut => absurd hruncut hnever,
        iff_of_true hcompleted hstatus, fun hrunning => absurd hrunning hstatus, ?_, hfailed⟩
      · rw [hid, not_or]
        exact ⟨hnotOn, hnever⟩
      · rw [← herror]
        exact hsuccess

/-- A task that has written ends, and old rows go. -/
theorem RowsFollow.endTask {t : SyncTask} {s' : SyncSystem} (h : RowsFollow s)
    (ht : t ∈ s.tasks.rows) (hlive : live t = false) (htasks : s'.tasks = (s.endTask t).tasks)
    (hjobs : s'.jobs = s.jobs) (hruns : ∀ run ∈ s'.runs.rows, run ∈ s.runs.rows) :
    RowsFollow s' := by
  have hstill : ∀ x, (x ∈ s'.tasks.rows ∧ live x = true) ↔ x ∈ s.tasks.rows ∧ live x = true := by
    intro x
    have hmem : x ∈ s'.tasks.rows ↔ x ∈ s.tasks.rows ∧ x.runId ≠ t.runId := by
      rw [htasks]
      exact Table.mem_delete.trans (and_congr_right (fun _ => decide_eq_false_iff_not))
    rw [hmem]
    constructor
    · exact fun hx => ⟨hx.1.1, hx.2⟩
    · rintro ⟨hx, hxlive⟩
      refine ⟨⟨hx, ?_⟩, hxlive⟩
      intro hrun
      rw [s.tasks.eq_of_key_eq hx ht hrun, hlive] at hxlive
      cases hxlive
  constructor
  · intro x hx x' hx' hxlive hx'live hjob
    exact h.once x ((hstill x).mp ⟨hx, hxlive⟩).1 x' ((hstill x').mp ⟨hx', hx'live⟩).1
      hxlive hx'live hjob
  · intro job hjob
    refine (h.jobs job (hjobs ▸ hjob)).congr (exists_congr (fun x => ?_))
    rw [← and_assoc, ← and_assoc, hstill]
  · intro run hrun
    refine (h.runs run (hruns run hrun)).congr (exists_congr (fun x => ?_))
    rw [← and_assoc, ← and_assoc, hstill]

/-- No row of the job says that it is running. -/
def Idle (s : SyncSystem) (jobId : String) : Prop :=
  ∀ job ∈ s.jobs.rows, job.id = jobId → job.status ≠ .running

/-- A run is started for a job that is not running. -/
theorem RowsFollow.startRun {start : SyncStart} {now : Int} {s' : SyncSystem}
    (h : RowsFollow s) (hidle : Idle s start.jobId) (hstart : s.startRun start now = some s') :
    RowsFollow s' := by
  obtain ⟨job, runs, tasks, rfl, ⟨hjob, hid⟩, ⟨hnewRun, hruns⟩, htasks⟩ := startRun_eq_some hstart
  obtain ⟨hnobody, hnever⟩ := not_or.mp (mt (h.jobs job hjob).status.mpr (hidle job hjob hid))
  rw [hid] at hnobody
  have hmem : ∀ {P : SyncTask → Prop}, (∃ x ∈ tasks.rows, P x) ↔
      (∃ x ∈ s.tasks.rows, P x) ∨
        P { runId := start.runId, jobId := start.jobId, backendId := start.backendId } := by
    intro P
    rw [htasks]
    simp only [List.mem_append, List.mem_singleton, or_and_right, exists_or, exists_eq_left]
  have hput : ∀ x, x ∈ (s.jobs.put { job with status := .running }).rows ↔
      x = { job with status := .running } ∨ (x ∈ s.jobs.rows ∧ x.id ≠ job.id) :=
    fun x => Table.mem_put_iff ⟨job, hjob, rfl⟩
  constructor
  · intro x hx x' hx' hxlive hx'live hsame
    rcases List.mem_append.mp (htasks ▸ hx : x ∈ s.tasks.rows ++ _) with hx | hx
    · rcases List.mem_append.mp (htasks ▸ hx' : x' ∈ s.tasks.rows ++ _) with hx' | hx'
      · exact h.once x hx x' hx' hxlive hx'live hsame
      · rw [List.mem_singleton.mp hx'] at hsame
        exact absurd ⟨x, hx, hxlive, hsame⟩ hnobody
    · rcases List.mem_append.mp (htasks ▸ hx' : x' ∈ s.tasks.rows ++ _) with hx' | hx'
      · rw [List.mem_singleton.mp hx] at hsame
        exact absurd ⟨x', hx', hx'live, hsame.symm⟩ hnobody
      · rw [List.mem_singleton.mp hx, List.mem_singleton.mp hx']
  · intro job' hjob'
    rcases (hput job').mp hjob' with rfl | ⟨hold, hne⟩
    · refine ⟨iff_of_true rfl (Or.inl ?_), fun hcut => absurd hcut hnever⟩
      exact hmem.mpr (Or.inr ⟨rfl, hid.symm⟩)
    · refine (h.jobs job' hold).congr (hmem.trans (or_iff_left ?_))
      exact fun hnew => hne (hnew.2.symm.trans hid.symm)
  · intro run hrun
    rcases List.mem_append.mp (hruns ▸ hrun : run ∈ s.runs.rows ++ _) with hold | hnew
    · refine (h.runs run hold).congr (hmem.trans (or_iff_left ?_))
      exact fun hnew => hnewRun run hold hnew.2.symm
    · rw [List.mem_singleton.mp hnew]
      refine ⟨iff_of_true rfl (Or.inl (hmem.mpr (Or.inr ⟨rfl, rfl⟩))), nofun,
        iff_of_false nofun (fun hne => hne rfl), fun _ => rfl, nofun, nofun⟩

/-- A job that nobody works for is marked as failed. -/
theorem RowsFollow.amendJob {jobId : String} {f : JobRow → JobRow} {s' : SyncSystem}
    (h : RowsFollow s) (hidle : Idle s jobId) (htasks : s'.tasks = s.tasks)
    (hjobs : s'.jobs = s.jobs.amend jobId f) (hruns : s'.runs = s.runs)
    (hf : ∀ job, (f job).id = job.id ∧ (f job).cutOff = job.cutOff ∧ (f job).status ≠ .running) :
    RowsFollow s' := by
  have hworksFor : ∀ jobId, WorksFor s' jobId ↔ WorksFor s jobId := by
    intro jobId
    unfold WorksFor
    rw [htasks]
  have hworksOn : ∀ runId, WorksOn s' runId ↔ WorksOn s runId := by
    intro runId
    unfold WorksOn
    rw [htasks]
  constructor
  · rw [htasks]
    exact h.once
  · intro x hx
    rw [hjobs] at hx
    rcases Table.mem_amend hx (fun job => (hf job).1) with ⟨hx, -⟩ | ⟨job, hjob, hid, rfl⟩
    · exact (h.jobs x hx).congr (hworksFor _)
    · obtain ⟨hkey, hcut, hstatus⟩ := hf job
      obtain ⟨hnobody, hnever⟩ := not_or.mp (mt (h.jobs job hjob).status.mpr (hidle job hjob hid))
      refine ⟨iff_of_false hstatus ?_, fun hc => absurd (hcut ▸ hc) hnever⟩
      rw [hworksFor, hkey, hcut, not_or]
      exact ⟨hnobody, hnever⟩
  · intro run hrun
    exact (h.runs run (hruns ▸ hrun)).congr (hworksOn _)

/-- Rows go. -/
theorem RowsFollow.fewer {s' : SyncSystem} (h : RowsFollow s) (htasks : s'.tasks = s.tasks)
    (hjobs : ∀ job ∈ s'.jobs.rows, job ∈ s.jobs.rows)
    (hruns : ∀ run ∈ s'.runs.rows, run ∈ s.runs.rows) : RowsFollow s' := by
  constructor
  · rw [htasks]
    exact h.once
  · intro job hjob
    refine (h.jobs job (hjobs job hjob)).congr ?_
    unfold WorksFor
    rw [htasks]
  · intro run hrun
    refine (h.runs run (hruns run hrun)).congr ?_
    unfold WorksOn
    rw [htasks]

/-- A restart ends all tasks. -/
theorem RowsFollow.restart (h : RowsFollow s) : RowsFollow s.restart := by
  have hnobody : ∀ jobId, ¬ WorksFor s.restart jobId := fun _ ⟨_, ht, _⟩ => nomatch ht
  have hnone : ∀ runId, ¬ WorksOn s.restart runId := fun _ ⟨_, ht, _⟩ => nomatch ht
  constructor
  · exact fun _ ht => nomatch ht
  · intro job' hjob'
    obtain ⟨job, hjob, rfl⟩ := List.mem_map.mp hjob'
    refine ⟨?_, fun _ => hnobody _⟩
    show job.status = .running ↔ _ ∨ (job.cutOff || decide (job.status = .running)) = true
    rw [or_iff_right (hnobody _), Bool.or_eq_true, decide_eq_true_eq]
    refine ⟨Or.inr, fun hor => hor.elim (fun hcut => ?_) id⟩
    exact (h.jobs job hjob).status.mpr (Or.inr hcut)
  · intro run' hrun'
    obtain ⟨run, hrun, rfl⟩ := List.mem_map.mp hrun'
    refine { h.runs run hrun with status := ?_, cutOff := fun _ => hnone _ }
    show run.status = .running ↔ _ ∨ (run.cutOff || decide (run.status = .running)) = true
    rw [or_iff_right (hnone _), Bool.or_eq_true, decide_eq_true_eq]
    refine ⟨Or.inr, fun hor => hor.elim (fun hcut => ?_) id⟩
    exact (h.runs run hrun).status.mpr (Or.inr hcut)

/-! ## §2. The processes that are kept. -/

def isReading (t : SyncTask) : Bool :=
  match t.pc with
  | .reading _ _ => true
  | _ => false

theorem live_of_isReading {t : SyncTask} (h : isReading t = true) : live t = true := by
  unfold isReading at h
  unfold live
  split at h
  next hpc => rw [hpc]
  next => cases h

/-- The run reads the output of its `rsync`. -/
def Reads (s : SyncSystem) (jobId runId : String) : Prop :=
  ∃ t ∈ s.tasks.rows, isReading t = true ∧ t.jobId = jobId ∧ t.runId = runId

/-- **THE PROCESS KEPT FOR A JOB** is the one whose output its task reads. -/
structure ProcessesFollow (s : SyncSystem) : Prop where
  kept : ∀ jobId runId, s.runningProcesses jobId = some runId → Reads s jobId runId
  reading : ∀ jobId runId, Reads s jobId runId → (∃ job ∈ s.jobs.rows, job.id = jobId) →
    s.runningProcesses jobId = some runId

theorem ProcessesFollow.congr {s' : SyncSystem} (h : ProcessesFollow s)
    (hreads : ∀ jobId runId, Reads s' jobId runId ↔ Reads s jobId runId)
    (hjobs : ∀ job ∈ s'.jobs.rows, ∃ old ∈ s.jobs.rows, old.id = job.id)
    (hprocesses : s'.runningProcesses = s.runningProcesses) : ProcessesFollow s' where
  kept := by
    intro jobId runId hkept
    rw [hprocesses] at hkept
    exact (hreads _ _).mpr (h.kept _ _ hkept)
  reading := by
    rintro jobId runId hreading ⟨job, hjob, rfl⟩
    rw [hprocesses]
    exact h.reading _ _ ((hreads _ _).mp hreading) (hjobs job hjob)

theorem reads_setPc {t : SyncTask} {pc : SyncPc} {s' : SyncSystem} (ht : t ∈ s.tasks.rows)
    (htasks : s'.tasks = (s.setPc t pc).tasks) (hreading : isReading { t with pc } = isReading t)
    (jobId runId : String) : Reads s' jobId runId ↔ Reads s jobId runId := by
  unfold Reads
  rw [htasks]
  refine Table.exists_mem_put_congr ht (rfl : SyncTask.runId { t with pc } = t.runId) ?_
  rw [hreading]

/-- The output of a new process is read. -/
theorem ProcessesFollow.launch {t : SyncTask} (h : ProcessesFollow s) (hrows : RowsFollow s)
    (ht : t ∈ s.tasks.rows) (hlive : live t = true) :
    ProcessesFollow { s.setPc t (.reading 0 0) with
      runningProcesses := Function.update s.runningProcesses t.jobId (some t.runId) } := by
  have hid : SyncTask.runId { t with pc := .reading 0 0 } = t.runId := rfl
  constructor
  · intro jobId runId hkept
    refine (Table.exists_mem_put_iff ht hid).mpr ?_
    have hkept : Function.update s.runningProcesses t.jobId (some t.runId) jobId = some runId :=
      hkept
    by_cases hjob : jobId = t.jobId
    · subst hjob
      rw [Function.update_self] at hkept
      exact Or.inl ⟨rfl, rfl, Option.some.inj hkept⟩
    · rw [Function.update_of_ne hjob] at hkept
      obtain ⟨x, hx, hread, rfl, rfl⟩ := h.kept _ _ hkept
      refine Or.inr ⟨x, hx, ?_, hread, rfl, rfl⟩
      intro hrun
      exact hjob (congrArg SyncTask.jobId (s.tasks.eq_of_key_eq hx ht hrun))
  · intro jobId runId hreads hjob
    show Function.update s.runningProcesses t.jobId (some t.runId) jobId = some runId
    rcases (Table.exists_mem_put_iff ht hid).mp hreads with
      ⟨-, rfl, rfl⟩ | ⟨x, hx, hne, hread, rfl, rfl⟩
    · exact Function.update_self _ _ _
    · have hother : x.jobId ≠ t.jobId := by
        intro hsame
        have honce := hrows.once x hx t ht (live_of_isReading hread) hlive hsame
        exact hne (congrArg SyncTask.runId honce)
      rw [Function.update_of_ne hother]
      exact h.reading _ _ ⟨x, hx, hread, rfl, rfl⟩ hjob

/-- A process has ended. -/
theorem ProcessesFollow.exitProcess {t : SyncTask} {files bytes : Nat} (h : ProcessesFollow s)
    (hrows : RowsFollow s) (ht : t ∈ s.tasks.rows) (hpc : t.pc = .reading files bytes)
    (returncode : Int) : ProcessesFollow (s.exitProcess t files bytes returncode) := by
  have hid : SyncTask.runId { t with pc := .exited files bytes returncode } = t.runId := rfl
  have hlive : live t = true := by
    unfold live
    rw [hpc]
  have hreads : ∀ jobId runId, Reads (s.exitProcess t files bytes returncode) jobId runId ↔
      Reads s jobId runId ∧ runId ≠ t.runId := by
    intro jobId runId
    refine (Table.exists_mem_put_iff ht hid).trans ?_
    constructor
    · rintro (⟨hread, -⟩ | ⟨x, hx, hne, hread, rfl, rfl⟩)
      · cases hread
      · exact ⟨⟨x, hx, hread, rfl, rfl⟩, hne⟩
    · rintro ⟨⟨x, hx, hread, rfl, rfl⟩, hne⟩
      exact Or.inr ⟨x, hx, hne, hread, rfl, rfl⟩
  constructor
  · intro jobId runId hkept
    have hkept : Function.update s.runningProcesses t.jobId none jobId = some runId := hkept
    by_cases hjob : jobId = t.jobId
    · subst hjob
      rw [Function.update_self] at hkept
      cases hkept
    · rw [Function.update_of_ne hjob] at hkept
      refine (hreads _ _).mpr ⟨h.kept _ _ hkept, ?_⟩
      obtain ⟨x, hx, -, rfl, rfl⟩ := h.kept _ _ hkept
      intro hrun
      exact hjob (congrArg SyncTask.jobId (s.tasks.eq_of_key_eq hx ht hrun))
  · intro jobId runId hreading hjob
    obtain ⟨hreading, hne⟩ := (hreads _ _).mp hreading
    show Function.update s.runningProcesses t.jobId none jobId = some runId
    rw [Function.update_of_ne]
    · exact h.reading _ _ hreading hjob
    · obtain ⟨x, hx, hread, rfl, rfl⟩ := hreading
      intro hsame
      have honce := hrows.once x hx t ht (live_of_isReading hread) hlive hsame
      exact hne (congrArg SyncTask.runId honce)

/-! ## §3. One step. -/

/-- The rows and the processes. -/
structure FollowsTasks (s : SyncSystem) : Prop extends RowsFollow s, ProcessesFollow s

/-- A task goes on, and neither writes nor starts or ends its process. -/
theorem FollowsTasks.move {t : SyncTask} {pc : SyncPc} {s' : SyncSystem} (h : FollowsTasks s)
    (ht : t ∈ s.tasks.rows) (htasks : s'.tasks = (s.setPc t pc).tasks) (hjobs : s'.jobs = s.jobs)
    (hruns : s'.runs = s.runs) (hprocesses : s'.runningProcesses = s.runningProcesses)
    (hlive : live { t with pc } = live t) (hreading : isReading { t with pc } = isReading t) :
    FollowsTasks s' where
  toRowsFollow := h.toRowsFollow.move ht htasks hjobs hruns hlive
  toProcessesFollow := h.toProcessesFollow.congr (reads_setPc ht htasks hreading)
    (fun job hjob => ⟨job, hjobs ▸ hjob, rfl⟩) hprocesses

theorem live_of_pc {t : SyncTask} {pc : SyncPc} (h : t.pc = pc) : live t = live { t with pc } := by
  rw [← h]

theorem isReading_of_pc {t : SyncTask} {pc : SyncPc} (h : t.pc = pc) :
    isReading t = isReading { t with pc } := by
  rw [← h]

/-- `rsync` is started. -/
theorem FollowsTasks.launches {t : SyncTask} (h : FollowsTasks s) (ht : t ∈ s.tasks.rows)
    (hpc : t.pc = .queued) :
    FollowsTasks { s.setPc t (.reading 0 0) with
      runningProcesses := Function.update s.runningProcesses t.jobId (some t.runId) } where
  toRowsFollow := h.toRowsFollow.move ht rfl rfl rfl (live_of_pc hpc).symm
  toProcessesFollow := h.toProcessesFollow.launch h.toRowsFollow ht (live_of_pc hpc)

theorem endedRun_id (run : SyncJobRun) (files bytes : Nat) (returncode : Int) :
    (endedRun run files bytes returncode).id = run.id := by
  unfold endedRun
  split <;> rfl

/-- A job that has ended keeps its row and does not run. -/
theorem endedJob_keeps (job : JobRow) (run : SyncJobRun) (returncode : Int) :
    (endedJob job run returncode).id = job.id ∧
      (endedJob job run returncode).cutOff = job.cutOff ∧
      (endedJob job run returncode).status ≠ .running := by
  unfold endedJob
  split
  · exact ⟨rfl, rfl, nofun⟩
  · exact ⟨rfl, rfl, nofun⟩

/-- The end is written to the rows. -/
theorem FollowsTasks.writes {t : SyncTask} {files bytes : Nat} {returncode : Int}
    {run : SyncJobRun} {job : JobRow} (h : FollowsTasks s) (ht : t ∈ s.tasks.rows)
    (hpc : t.pc = .exited files bytes returncode) (hrun : s.runs.get? t.runId = some run)
    (hjob : s.jobs.get? t.jobId = some job) :
    FollowsTasks { s.setPc t (.reporting false) with
      runs := s.runs.put (endedRun run files bytes returncode)
      jobs := s.jobs.put (endedJob job (endedRun run files bytes returncode) returncode) } := by
  obtain ⟨hrun, hrunId⟩ := Table.get?_eq_some_iff.mp hrun
  obtain ⟨hjob, hjobId⟩ := Table.get?_eq_some_iff.mp hjob
  have hrunKey := endedRun_id run files bytes returncode
  obtain ⟨hjobKey, hcut, hstatus⟩ :=
    endedJob_keeps job (endedRun run files bytes returncode) returncode
  constructor
  · refine h.toRowsFollow.finish ht (live_of_pc hpc) rfl ?_ ?_
    · intro x hx
      rcases (Table.mem_put_iff ⟨job, hjob, hjobKey.symm⟩).mp hx with rfl | ⟨hx, hne⟩
      · exact Or.inr ⟨job, hjob, hjobId, hjobKey, hcut, hstatus⟩
      · rw [hjobKey, hjobId] at hne
        exact Or.inl ⟨hx, hne⟩
    · intro x hx
      rcases (Table.mem_put_iff ⟨run, hrun, hrunKey.symm⟩).mp hx with rfl | ⟨hx, hne⟩
      · refine Or.inr ⟨run, hrun, hrunId, hrunKey, ?_⟩
        unfold endedRun
        split
        · exact ⟨rfl, rfl, nofun, fun _ => ⟨rfl, rfl⟩, nofun⟩
        · exact ⟨rfl, rfl, nofun, nofun, fun _ => rfl⟩
      · rw [hrunKey, hrunId] at hne
        exact Or.inl ⟨hx, hne⟩
  · refine h.toProcessesFollow.congr (reads_setPc ht rfl (isReading_of_pc hpc).symm) ?_ rfl
    intro x hx
    rcases (Table.mem_put_iff ⟨job, hjob, hjobKey.symm⟩).mp hx with rfl | ⟨hx, -⟩
    · exact ⟨job, hjob, hjobKey.symm⟩
    · exact ⟨x, hx, rfl⟩

/-- An exception is written to the rows. -/
theorem FollowsTasks.writeFailure {t : SyncTask} {error : String} (h : FollowsTasks s)
    (ht : t ∈ s.tasks.rows) (hpc : t.pc = .failing error) :
    FollowsTasks (s.writeFailure t error) := by
  constructor
  · refine h.toRowsFollow.finish ht (live_of_pc hpc) rfl ?_ ?_
    · intro x hx
      rcases Table.mem_amend hx (fun _ => rfl) with hx | ⟨job, hjob, hid, rfl⟩
      · exact Or.inl hx
      · exact Or.inr ⟨job, hjob, hid, rfl, rfl, nofun⟩
    · intro x hx
      rcases Table.mem_amend hx (fun _ => rfl) with hx | ⟨run, hrun, hid, rfl⟩
      · exact Or.inl hx
      · exact Or.inr ⟨run, hrun, hid, rfl, rfl, rfl, nofun, nofun, fun _ => rfl⟩
  · refine h.toProcessesFollow.congr (reads_setPc ht rfl (isReading_of_pc hpc).symm) ?_ rfl
    intro x hx
    rcases Table.mem_amend hx (fun _ => rfl) with hx | ⟨job, hjob, -, rfl⟩
    · exact ⟨x, hx.1, rfl⟩
    · exact ⟨job, hjob, rfl⟩

/-- A task ends, after the rows of old runs. -/
theorem FollowsTasks.endTask {t : SyncTask} {caught : Bool} {s' : SyncSystem} (h : FollowsTasks s)
    (ht : t ∈ s.tasks.rows) (hpc : t.pc = .reporting caught)
    (htasks : s'.tasks = (s.endTask t).tasks) (hjobs : s'.jobs = s.jobs)
    (hruns : ∀ run ∈ s'.runs.rows, run ∈ s.runs.rows)
    (hprocesses : s'.runningProcesses = s.runningProcesses) : FollowsTasks s' where
  toRowsFollow := h.toRowsFollow.endTask ht (live_of_pc hpc) htasks hjobs hruns
  toProcessesFollow := by
    refine h.toProcessesFollow.congr ?_ (fun job hjob => ⟨job, hjobs ▸ hjob, rfl⟩) hprocesses
    intro jobId runId
    unfold Reads
    rw [htasks]
    constructor
    · rintro ⟨x, hx, hreads⟩
      exact ⟨x, (Table.mem_delete.mp hx).1, hreads⟩
    · rintro ⟨x, hx, hread, hids⟩
      refine ⟨x, Table.mem_delete.mpr ⟨hx, decide_eq_false ?_⟩, hread, hids⟩
      intro hid
      rw [s.tasks.eq_of_key_eq hx ht hid, isReading_of_pc hpc] at hread
      cases hread

end SyncSystem

namespace SyncSystem

variable {s : SyncSystem}

/-- A task does its work: no exception comes once `rsync` is started. -/
def Calm : SyncTurn → Prop
  | .readRaises _ => False
  | .report _ raises => raises = none
  | _ => True

/-- Another start of the job is under way. -/
def Starting (s : SyncSystem) (jobId : String) : Prop :=
  ∃ start ∈ s.starting, start.jobId = jobId

/-- Nothing is cancelled, not even by a deletion; no job is asked to run while another start of
it is under way; and no exception comes between a run's row and its task, or once `rsync` is
started. -/
def Undisturbed (s : SyncSystem) : SyncStep → Prop
  | .runSyncJob _ jobId _ => ¬ Starting s jobId
  | .scheduled jobId _ => ¬ Starting s jobId
  | .startRaises _ _ written => written = false
  | .cancelSyncJob _ => False
  | .cancelReturns _ => False
  | .deleteSyncJob jobId => Idle s jobId
  | .deleteReturns deletion => deletion.cancels = false
  | .turn _ turn => Calm turn
  | _ => True

theorem FollowsTasks.moves {t : SyncTask} {turn : SyncTurn} {s' : SyncSystem}
    (h : FollowsTasks s) (ht : t ∈ s.tasks.rows) (hcalm : Calm turn) (hmoves : Moves s t turn s') :
    FollowsTasks s' := by
  -- what a task does between its start and its end leaves the rows and the processes alone
  have hmove : ∀ {pc pc' : SyncPc}, t.pc = pc → live { t with pc := pc' } = live { t with pc } →
      isReading { t with pc := pc' } = isReading { t with pc } →
      FollowsTasks (s.setPc t pc') := by
    rintro pc pc' rfl hlive hreading
    exact h.move ht rfl rfl rfl rfl hlive hreading
  cases hmoves with
  | rests => exact h
  | enters hpc =>
      exact h.move ht rfl rfl rfl rfl (live_of_pc hpc).symm (isReading_of_pc hpc).symm
  | launchFails error hpc => exact hmove hpc rfl rfl
  | launches hpc => exact h.launches ht hpc
  | reads hpc => exact hmove hpc rfl rfl
  | skips => exact h
  | readFails => exact absurd hcalm id
  | @exits returncode _ _ hpc =>
      exact {
        toRowsFollow := h.toRowsFollow.move ht rfl rfl rfl (live_of_pc hpc).symm
        toProcessesFollow := h.toProcessesFollow.exitProcess h.toRowsFollow ht hpc returncode }
  | writes hpc hrun hjob => exact h.writes ht hpc hrun hjob
  | writeFails hpc => exact hmove hpc rfl rfl
  | failed hpc => exact h.writeFailure ht hpc
  | reports hpc => exact h.endTask ht hpc rfl rfl (fun _ hrun => (Table.mem_delete.mp hrun).1) rfl
  | reportFails => cases hcalm
  | ends hpc => exact h.endTask ht hpc rfl rfl (fun _ hrun => hrun) rfl

theorem FollowsTasks.startRun {start : SyncStart} {now : Int} {s' : SyncSystem}
    (h : FollowsTasks s) (hidle : Idle s start.jobId) (hstart : s.startRun start now = some s') :
    FollowsTasks s' where
  toRowsFollow := h.toRowsFollow.startRun hidle hstart
  toProcessesFollow := by
    obtain ⟨job, runs, tasks, rfl, ⟨hjob, -⟩, -, hrows⟩ := startRun_eq_some hstart
    refine h.toProcessesFollow.congr ?_ ?_ rfl
    · intro jobId runId'
      unfold Reads
      show (∃ t ∈ tasks.rows, _) ↔ _
      rw [hrows]
      simp [isReading]
    · intro x hx
      have hx : x ∈ (s.jobs.put { job with status := .running }).rows := hx
      have hid : job.id = JobRow.id { job with status := .running } := rfl
      rcases (Table.mem_put_iff ⟨job, hjob, hid⟩).mp hx with rfl | ⟨hx, -⟩
      · exact ⟨job, hjob, rfl⟩
      · exact ⟨x, hx, rfl⟩

/-- What is written here is not read. -/
theorem FollowsTasks.congr {s' : SyncSystem} (h : FollowsTasks s) (htasks : s'.tasks = s.tasks)
    (hjobs : s'.jobs = s.jobs) (hruns : s'.runs = s.runs)
    (hprocesses : s'.runningProcesses = s.runningProcesses) : FollowsTasks s' where
  toRowsFollow :=
    h.toRowsFollow.fewer htasks (fun _ hjob => hjobs ▸ hjob) (fun _ hrun => hruns ▸ hrun)
  toProcessesFollow := by
    refine h.toProcessesFollow.congr ?_ (fun job hjob => ⟨job, hjobs ▸ hjob, rfl⟩) hprocesses
    intro jobId runId
    unfold Reads
    rw [htasks]

/-- What is written for a start of a job that is not running. -/
theorem FollowsTasks.writeStart (h : FollowsTasks s) {start : SyncStart}
    (hidle : Idle s start.jobId) (now : Int) : FollowsTasks (s.writeStart start now) := by
  unfold SyncSystem.writeStart
  split
  · cases hstart : s.startRun start now with
    | none => exact h
    | some s' => exact h.startRun hidle hstart
  · constructor
    · exact h.toRowsFollow.amendJob hidle rfl rfl rfl (fun _ => ⟨rfl, rfl, nofun⟩)
    · refine h.toProcessesFollow.congr (fun _ _ => Iff.rfl) ?_ rfl
      intro x hx
      rcases Table.mem_amend hx (fun _ => rfl) with ⟨hx, -⟩ | ⟨job, hjob, -, rfl⟩
      · exact ⟨x, hx, rfl⟩
      · exact ⟨job, hjob, rfl⟩

/-- The job and its runs go. -/
theorem FollowsTasks.deleteReturns (h : FollowsTasks s) {deletion : SyncDeletion}
    (hcalm : deletion.cancels = false) : FollowsTasks (s.deleteReturns deletion) := by
  unfold SyncSystem.deleteReturns
  split
  · rw [hcalm]
    constructor
    · exact h.toRowsFollow.fewer rfl (fun _ hx => (Table.mem_delete.mp hx).1)
        (fun _ hx => (Table.mem_delete.mp hx).1)
    · exact h.toProcessesFollow.congr (fun _ _ => Iff.rfl)
        (fun x hx => ⟨x, (Table.mem_delete.mp hx).1, rfl⟩) rfl
  · exact h

theorem FollowsTasks.restart (h : FollowsTasks s) : FollowsTasks s.restart where
  toRowsFollow := h.toRowsFollow.restart
  kept := fun _ _ hkept => nomatch hkept
  reading := fun _ _ ⟨_, ht, _⟩ => nomatch ht

/-! ## §4. Starts. -/

/-- **A START IS THE ONLY ONE** for its job, and the job is not running until it is written. -/
structure StartsIdle (s : SyncSystem) : Prop where
  distinct : (s.starting.map SyncStart.jobId).Nodup
  idle : ∀ start ∈ s.starting, Idle s start.jobId

/-- Starts go, and no job becomes running. -/
theorem StartsIdle.fewer {s' : SyncSystem} (h : StartsIdle s)
    (hstarting : s'.starting.Sublist s.starting)
    (hjobs : ∀ job ∈ s'.jobs.rows, job.status = .running →
      ∃ old ∈ s.jobs.rows, old.id = job.id ∧ old.status = .running) : StartsIdle s' where
  distinct := h.distinct.sublist (hstarting.map _)
  idle := by
    intro start hstart job hjob hid hrunning
    obtain ⟨old, hold, holdId, holdRunning⟩ := hjobs job hjob hrunning
    exact h.idle start (hstarting.subset hstart) old hold (holdId.trans hid) holdRunning

theorem StartsIdle.begin (h : StartsIdle s) {start : SyncStart} (hnew : ¬ Starting s start.jobId)
    (hidle : Idle s start.jobId) : StartsIdle (s.beginStart start) := by
  constructor
  · show ((s.starting ++ [start]).map SyncStart.jobId).Nodup
    rw [List.map_append, List.nodup_append]
    refine ⟨h.distinct, List.nodup_singleton _, ?_⟩
    intro a ha b hb hab
    obtain ⟨other, hother, rfl⟩ := List.mem_map.mp ha
    rw [List.map_singleton, List.mem_singleton] at hb
    exact hnew ⟨other, hother, hab.trans hb⟩
  · intro other hother
    rcases List.mem_append.mp hother with hother | hother
    · exact h.idle other hother
    · rw [List.mem_singleton.mp hother]
      exact hidle

/-- The job of a start is all that is written. -/
theorem idle_writeStart {start : SyncStart} {now : Int} {jobId : String} (h : Idle s jobId)
    (hne : jobId ≠ start.jobId) : Idle (s.writeStart start now) jobId := by
  unfold SyncSystem.writeStart
  split
  · cases hstart : s.startRun start now with
    | none => exact h
    | some s' =>
        obtain ⟨job, runs, tasks, rfl, ⟨hjob, hjobId⟩, -⟩ := startRun_eq_some hstart
        intro x hx hid
        have hx : x ∈ (s.jobs.put { job with status := .running }).rows := hx
        have hkey : job.id = JobRow.id { job with status := .running } := rfl
        rcases (Table.mem_put_iff ⟨job, hjob, hkey⟩).mp hx with rfl | ⟨hx, -⟩
        · exact absurd (hid.symm.trans hjobId) hne
        · exact h x hx hid
  · intro x hx hid
    rcases Table.mem_amend hx (fun _ => rfl) with ⟨hx, -⟩ | ⟨job, -, -, rfl⟩
    · exact h x hx hid
    · exact nofun

/-- A start is written, and the others still wait. -/
theorem StartsIdle.written (h : StartsIdle s) {start : SyncStart} (hstart : start ∈ s.starting)
    (now : Int) :
    StartsIdle ({ s with starting := s.starting.erase start }.writeStart start now) := by
  constructor
  · rw [(writeStart_keeps _ _ _).2]
    exact h.distinct.sublist (List.erase_sublist.map _)
  · rw [(writeStart_keeps _ _ _).2]
    intro other hother
    have hmem : other ∈ s.starting := List.mem_of_mem_erase hother
    have hne : other ≠ start := by
      rintro rfl
      exact h.distinct.of_map.not_mem_erase hother
    exact idle_writeStart (s := { s with starting := s.starting.erase start }) (h.idle other hmem)
      (fun hsame => hne (List.inj_on_of_nodup_map h.distinct hmem hstart hsame))

/-- **NO TURN OF A TASK** begins a start or makes a job running. -/
theorem Moves.keeps {t : SyncTask} {turn : SyncTurn} {s' : SyncSystem}
    (hmoves : Moves s t turn s') :
    s'.starting = s.starting ∧
      ∀ job ∈ s'.jobs.rows, job.status = .running → job ∈ s.jobs.rows := by
  have hsame : ∀ s' : SyncSystem, s'.starting = s.starting → s'.jobs = s.jobs →
      s'.starting = s.starting ∧
        ∀ job ∈ s'.jobs.rows, job.status = .running → job ∈ s.jobs.rows :=
    fun s' hstarting hjobs => ⟨hstarting, fun job hjob _ => hjobs ▸ hjob⟩
  cases hmoves with
  | @writes files bytes returncode run job hpc hrun hjob =>
      obtain ⟨hid, -, hended⟩ := endedJob_keeps job (endedRun run files bytes returncode) returncode
      refine ⟨rfl, fun x hx hrunning => ?_⟩
      have hmem := (Table.get?_eq_some_iff.mp hjob).1
      rcases (Table.mem_put_iff ⟨job, hmem, hid.symm⟩).mp hx with rfl | ⟨hx, -⟩
      · exact absurd hrunning hended
      · exact hx
  | failed hpc =>
      refine ⟨rfl, fun x hx hrunning => ?_⟩
      rcases Table.mem_amend hx (fun _ => rfl) with ⟨hx, -⟩ | ⟨job, -, -, rfl⟩
      · exact hx
      · cases hrunning
  -- the others write no row of a job
  | _ => exact hsame _ rfl rfl

/-! ## §5. Runs. -/

/-- The rows follow the tasks, and the starts are in order. -/
structure Orderly (s : SyncSystem) : Prop extends FollowsTasks s, StartsIdle s

/-- What a step leaves alone. -/
theorem Orderly.congr {s' : SyncSystem} (h : Orderly s) (htasks : s'.tasks = s.tasks)
    (hjobs : s'.jobs = s.jobs) (hruns : s'.runs = s.runs)
    (hprocesses : s'.runningProcesses = s.runningProcesses)
    (hstarting : s'.starting.Sublist s.starting) : Orderly s' where
  toFollowsTasks := h.toFollowsTasks.congr htasks hjobs hruns hprocesses
  toStartsIdle := h.toStartsIdle.fewer hstarting
    (fun job hjob hrunning => ⟨job, hjobs ▸ hjob, rfl, hrunning⟩)

theorem Orderly.begin (h : Orderly s) {start : SyncStart} (hnew : ¬ Starting s start.jobId)
    (hidle : Idle s start.jobId) : Orderly (s.beginStart start) where
  toFollowsTasks := h.toFollowsTasks.congr rfl rfl rfl rfl
  toStartsIdle := h.toStartsIdle.begin hnew hidle

/-- A row that was read is the only one of its job. -/
theorem idle_of_get? {jobId : String} {job : JobRow} (hjob : s.jobs.get? jobId = some job)
    (hidle : job.status ≠ .running) : Idle s jobId := by
  obtain ⟨hmem, hid⟩ := Table.get?_eq_some_iff.mp hjob
  intro x hx hxid
  rwa [s.jobs.eq_of_key_eq hx hmem (hxid.trans hid.symm)]

theorem Orderly.runSyncJob (h : Orderly s) (clock : ℚ) {jobId : String} (runId : String)
    (hnew : ¬ Starting s jobId) : Orderly (s.runSyncJob clock jobId runId).1 := by
  unfold SyncSystem.runSyncJob
  have hclock : Orderly
      { s with manualRunTimes := Function.update s.manualRunTimes jobId clock } :=
    h.congr rfl rfl rfl rfl (List.Sublist.refl _)
  split
  next => exact h
  next =>
    dsimp only
    split
    next => exact hclock
    next job hjob =>
      split
      next => exact hclock
      next hidle =>
        split
        next => exact hclock
        next =>
          split
          next => exact hclock
          next => exact hclock.begin hnew (idle_of_get? hjob hidle)

theorem Orderly.scheduledJobCallback (h : Orderly s) {jobId : String} (runId : String)
    (hnew : ¬ Starting s jobId) : Orderly (s.scheduledJobCallback jobId runId) := by
  unfold SyncSystem.scheduledJobCallback
  split
  next => exact h
  next job hjob =>
    split
    next => exact h
    next hidle => exact h.begin hnew (idle_of_get? hjob hidle)

theorem Orderly.startReturns (h : Orderly s) (runId : String) (now : Int) :
    Orderly (s.startReturns runId now) := by
  unfold SyncSystem.startReturns
  split
  next => exact h
  next start hfind =>
    have hmem := List.mem_of_find?_eq_some hfind
    have herased : FollowsTasks { s with starting := s.starting.erase start } :=
      h.toFollowsTasks.congr rfl rfl rfl rfl
    exact ⟨herased.writeStart (h.idle start hmem) now, h.toStartsIdle.written hmem now⟩

theorem Orderly.exec (h : Orderly s) {event : SyncStep} (hcalm : Undisturbed s event) :
    Orderly (s.exec event) := by
  cases event with
  | runSyncJob clock jobId runId => exact h.runSyncJob clock runId hcalm
  | scheduled jobId runId => exact h.scheduledJobCallback runId hcalm
  | startReturns runId now => exact h.startReturns runId now
  | startRaises runId now written =>
      obtain rfl : written = false := hcalm
      show Orderly (s.startRaises runId now false)
      unfold SyncSystem.startRaises
      split
      next => exact h
      next =>
        dsimp only
        rw [if_neg (by simp)]
        exact h.congr rfl rfl rfl rfl List.erase_sublist
  | cancelSyncJob jobId => exact absurd hcalm id
  | cancelReturns jobId => exact absurd hcalm id
  | deleteSyncJob jobId =>
      show Orderly (s.deleteSyncJob jobId)
      unfold SyncSystem.deleteSyncJob
      split
      next => exact h
      next => exact h.congr rfl rfl rfl rfl (List.Sublist.refl _)
  | deleteReturns deletion =>
      refine ⟨h.toFollowsTasks.deleteReturns hcalm, ?_⟩
      show StartsIdle (s.deleteReturns deletion)
      unfold SyncSystem.deleteReturns
      split
      · exact h.toStartsIdle.fewer (List.Sublist.refl _)
          (fun job hjob hrunning => ⟨job, (Table.mem_delete.mp hjob).1, rfl, hrunning⟩)
      · exact h.toStartsIdle
  | backendChanges id backend => exact h.congr rfl rfl rfl rfl (List.Sublist.refl _)
  | restart => exact ⟨h.toFollowsTasks.restart, List.nodup_nil, fun _ hstart => nomatch hstart⟩
  | turn runId turn =>
      unfold SyncSystem.exec
      dsimp only
      split
      next => exact h
      next t ht =>
        obtain ⟨hmem, rfl⟩ := Table.get?_eq_some_iff.mp ht
        have hmoves := moves_turn s t turn
        obtain ⟨hstarting, hjobs⟩ := hmoves.keeps
        refine ⟨h.toFollowsTasks.moves hmem hcalm hmoves, h.toStartsIdle.fewer ?_ ?_⟩
        · rw [hstarting]
        · exact fun job hjob hrunning => ⟨job, hjobs job hjob hrunning, rfl, hrunning⟩

/-- Nothing of this run is disturbed, up to a restart. -/
theorem undisturbed_twoRuns :
    Along exec Undisturbed (start mounted twoJobs) (twoRuns ++ [.restart]) := by
  have hfirst : ¬ Starting (start mounted twoJobs) "j1" := fun ⟨_, h, _⟩ => nomatch h
  have hsecond : ¬ Starting (exec (start mounted twoJobs) (.scheduled "j1" "r1")) "j2" := by
    rintro ⟨start, hstart, hjob⟩
    obtain rfl := List.mem_singleton.mp hstart
    exact absurd hjob (by decide)
  exact ⟨hfirst, hsecond, trivial, trivial, trivial, trivial, trivial, trivial, trivial, trivial⟩

/-- Two starts at once: both pass the check of the status before either is written, and two
tasks are at work for the job. -/
example :
    ((run exec (start mounted twoJobs) [.scheduled "j1" "r1", .scheduled "j1" "r2",
      .startReturns "r1" 0, .startReturns "r2" 0]).tasks.rows.filter
        (fun t => live t && t.jobId = "j1")).map SyncTask.runId = ["r1", "r2"] := by
  decide

end SyncSystem

end PureBoot.Storage
