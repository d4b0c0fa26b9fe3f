/-
  PureBoot.Lifecycle.Staging — the STAGING AREA of a clone session.

  A staged clone is handed over through a storage backend: the source uploads its image, the
  target downloads it, and the area is released.  How far the two are is the column
  `staging_status`, whose progression is documented in `StagingService`.  Two endpoints of
  `api/routes/clone.py` and the methods of `services/staging.py` write it; each looks at
  the text it is given, and none at the status that is there.

  The columns of the staging area stand beside the rows of `Lifecycle.Store`, which the
  other endpoints work on.

  Main results:
    * `staging_cases` — what one event does to the staging areas;
    * `stagingForward_iff` — the events that move a session forward;
    * `staged_hand_over_iff` — the runs that do.
-/
import PureBoot.Lifecycle.CloneLife

namespace PureBoot.Lifecycle

open PureBoot.Lib

/-! ## §1. The staging area. -/

/-- `StagingStatus`, in the documented order. -/
inductive StagingStatus where
  | pending
  | provisioning
  | provisioned
  | uploading
  | ready
  | downloading
  | cleanup
  | deleted
  deriving DecidableEq, Repr

namespace StagingStatus

/-- The text in the column. -/
def name : StagingStatus → String
  | pending => "pending"
  | provisioning => "provisioning"
  | provisioned => "provisioned"
  | uploading => "uploading"
  | ready => "ready"
  | downloading => "downloading"
  | cleanup => "cleanup"
  | deleted => "deleted"

/-- Its place in the progression. -/
def rank : StagingStatus → Nat
  | pending => 1
  | provisioning => 2
  | provisioned => 3
  | uploading => 4
  | ready => 5
  | downloading => 6
  | cleanup => 7
  | deleted => 8

/-- `valid_statuses` of the service. -/
def all : List StagingStatus :=
  [pending, provisioning, provisioned, uploading, ready, downloading, cleanup, deleted]

/-- `valid_statuses` of the endpoint, sorted by their texts. -/
def reported : List StagingStatus := [cleanup, deleted, downloading, ready, uploading]

end StagingStatus

/-- The status among these that has this text. -/
def statusNamed (valid : List StagingStatus) (text : String) : Option StagingStatus :=
  valid.find? (fun s => s.name = text)

/-- The columns of `CloneSession` for the staging area, but for the backend. -/
structure StagingArea where
  path : Option String := none
  sizeBytes : Option Int := none
  status : Option StagingStatus := none
  deriving DecidableEq, Repr

/-- How far the hand-over is; it has not begun without a status. -/
def StagingArea.rank (area : StagingArea) : Nat :=
  match area.status with
  | some status => status.rank
  | none => 0

/-- `db/models.py: StorageBackend`, as far as staging reads it. -/
structure StagingBackend where
  type : String
  config : JsonDict

/-- What staging reads from outside the session. -/
structure StagingEnv where
  env : Env
  backends : String → Option StagingBackend

/-! ## §2. `services/staging.py`. -/

/-- `config.get(key, default)`. -/
def configGet (config : JsonDict) (key : String) (default : JsonValue := .null) : JsonValue :=
  (config.lookup key).getD default

/-- The backend of a session, with the errors of `provision_staging`. -/
def stagingBackend (backends : String → Option StagingBackend) (session : CloneSession) :
    Except Exn StagingBackend :=
  if truthy session.stagingBackendId then
    match backends (session.stagingBackendId.getD "") with
    | some backend => .ok backend
    | none => .error (.valueError "Storage backend not found")
  else .error (.valueError "No storage backend assigned to session")

/-- `_provision_nfs`. -/
def provisionNfs (session : CloneSession) (config : JsonDict) (area : StagingArea) :
    JsonDict × StagingArea :=
  let stagingDir := "clone-" ++ session.id
  let exportPath := configGet config "export_path" (configGet config "export" (.str "/data"))
  ([("type", .str "nfs"), ("server", configGet config "server"), ("export", exportPath),
    ("path", .str stagingDir),
    ("options", configGet config "mount_options" (configGet config "options" (.str "rw,sync"))),
    ("image_filename", .str "disk.raw.gz")],
   { area with path := some (exportPath.text ++ "/" ++ stagingDir), status := some .provisioned })

/-- `_provision_iscsi`. -/
def provisionIscsi (session : CloneSession) (config : JsonDict) (area : StagingArea) :
    Except Exn (JsonDict × StagingArea) :=
  match session.bytesTotal with
  | none | some 0 => .error (.valueError "Source disk size must be known for iSCSI staging")
  | some bytesTotal =>
      .ok ([("type", .str "iscsi"), ("target", configGet config "target"),
        ("portal", configGet config "portal"), ("username", configGet config "username"),
        ("password", configGet config "password"), ("lun", .int 0)],
       { area with
         path := some ("clone-" ++ session.id), sizeBytes := some bytesTotal,
         status := some .provisioned })

/-- `provision_staging`. -/
def provisionStaging (backends : String → Option StagingBackend) (session : CloneSession)
    (area : StagingArea) : Except Exn (JsonDict × StagingArea) := do
  let backend ← stagingBackend backends session
  if backend.type = "nfs" then .ok (provisionNfs session backend.config area)
  else if backend.type = "iscsi" then provisionIscsi session backend.config area
  else .error (.valueError ("Unsupported backend type: " ++ backend.type))

/-- `cleanup_staging`; the status it sets first is overwritten at once. -/
def cleanupStaging (backends : String → Option StagingBackend) (session : CloneSession)
    (area : StagingArea) : Bool × StagingArea :=
  if truthy session.stagingBackendId = true ∧ truthy area.path = true then
    match backends (session.stagingBackendId.getD "") with
    | none => (false, area)
    | some _ => (true, { area with status := some .deleted })
  else (true, area)

/-- `StagingService.update_staging_status`. -/
def serviceStagingStatus (newStatus : String) (area : StagingArea) :
    Except Exn (Unit × StagingArea) :=
  match statusNamed StagingStatus.all newStatus with
  | some status => .ok ((), { area with status := some status })
  | none => .error (.valueError ("Invalid staging status: " ++ newStatus))

/-! ## §3. The endpoints. -/

/-- `StagingStatusUpdate`. -/
structure StagingStatusUpdate where
  status : String
  sizeBytes : Option Int := none
  deriving DecidableEq, Repr

/-- What is answered, and the event that is broadcast. -/
structure StagingReport where
  sessionId : String
  stagingStatus : StagingStatus
  sizeBytes : Option Int
  message : String
  broadcast : String
  deriving DecidableEq, Repr

def invalidStagingStatus : Exn :=
  .http 400 ("Invalid staging status. Must be one of: "
    ++ ", ".intercalate (StagingStatus.reported.map StagingStatus.name))

example : invalidStagingStatus = .http 400 ("Invalid staging status. Must be one of: "
    ++ "cleanup, deleted, downloading, ready, uploading") := by
  decide

/-- `update_staging_status`, for a session that was found. -/
def updateStagingStatus (sessionId : String) (request : StagingStatusUpdate) (area : StagingArea) :
    Except Exn (StagingReport × StagingArea) :=
  match statusNamed StagingStatus.reported request.status with
  | none => .error invalidStagingStatus
  | some status =>
      let area' := { area with
        status := some status, sizeBytes := request.sizeBytes.or area.sizeBytes }
      .ok ({ sessionId, stagingStatus := status, sizeBytes := area'.sizeBytes,
             message := "Staging status updated to " ++ status.name,
             broadcast := "clone.staging_" ++ status.name }, area')

/-- `source_complete`, for a session that was found. -/
def sourceComplete (sessionId : String) (sizeBytes : Int) (area : StagingArea) :
    StagingReport × StagingArea :=
  ({ sessionId, stagingStatus := .ready, sizeBytes := some sizeBytes,
     message := "Source upload complete, staging ready for target",
     broadcast := "clone.source_upload_complete" },
   { area with status := some .ready, sizeBytes := some sizeBytes })

/-! ## §4. Runs. -/

/-- The database, with the staging area of every session. -/
structure StagingDb where
  db : DB
  area : String → StagingArea

def StagingDb.empty : StagingDb where
  db := DB.empty
  area := fun _ => {}

/-- A message, a call of the service, or a request that is not about staging. -/
inductive StagingEvent where
  /-- `POST /clone-sessions/{session_id}/staging-status`. -/
  | stagingStatus (sessionId : String) (request : StagingStatusUpdate)
  /-- `POST /clone-sessions/{session_id}/source-complete`. -/
  | sourceComplete (sessionId : String) (sizeBytes : Int)
  | provision (sessionId : String)
  | cleanup (sessionId : String)
  | serviceStatus (sessionId : String) (newStatus : String)
  | request (r : Request)

/-- The session of a message, with the 404 of both endpoints. -/
def sessionOf (db : DB) (sessionId : String) : Except Exn CloneSession :=
  match db.sessions.get? sessionId with
  | some session => .ok session
  | none => .error (.http 404 "Clone session not found")

/-- What the handler or the method of an event makes of the staging area of its session. -/
def stagingHandler (e : StagingEnv) (session : CloneSession) (area : StagingArea) :
    StagingEvent → Option StagingArea
  | .stagingStatus _ request =>
      (updateStagingStatus session.id request area).toOption.map Prod.snd
  | .sourceComplete _ sizeBytes => some (sourceComplete session.id sizeBytes area).2
  | .provision _ => (provisionStaging e.backends session area).toOption.map Prod.snd
  | .cleanup _ => some (cleanupStaging e.backends session area).2
  | .serviceStatus _ newStatus => (serviceStagingStatus newStatus area).toOption.map Prod.snd
  | .request _ => none

/-- The session of an event about staging. -/
def StagingEvent.session : StagingEvent → Option String
  | .stagingStatus sessionId _ | .sourceComplete sessionId _ | .provision sessionId
  | .cleanup sessionId | .serviceStatus sessionId _ => some sessionId
  | .request _ => none

/-- The staging area that an event writes, and its session. -/
def stagingWrite (e : StagingEnv) (w : StagingDb) (event : StagingEvent) :
    Option (String × StagingArea) := do
  let sessionId ← event.session
  let session ← (sessionOf w.db sessionId).toOption
  let area ← stagingHandler e session (w.area sessionId) event
  some (sessionId, area)

/-- The session that a request creates. -/
def createdSession (e : StagingEnv) (w : StagingDb) : StagingEvent → Option String
  | .request ⟨_, .createCloneSession uuid data⟩ =>
      (createCloneSession e.env w.db uuid data).toOption.map (fun _ => uuid)
  | _ => none

/-- One event. -/
def stagingStep (e : StagingEnv) (w : StagingDb) (event : StagingEvent) : StagingDb where
  db := match event with
    | .request r => exec e.env w.db r
    | _ => w.db
  area := match createdSession e w event with
    -- a new session starts without a staging area
    | some sessionId => Function.update w.area sessionId {}
    | none =>
        match stagingWrite e w event with
        | some (sessionId, area) => Function.update w.area sessionId area
        | none => w.area

/-! ## §5. The law. -/

/-- **FORWARD ONLY**, for one event: no staged session goes back in the progression. -/
def StagingForward (e : StagingEnv) (w : StagingDb) (event : StagingEvent) : Prop :=
  ∀ s ∈ w.db.sessions.rows, s.cloneMode = .staged →
    (w.area s.id).rank ≤ ((stagingStep e w event).area s.id).rank

/-- A session with a backend that `provision_staging` accepts. -/
def provisions (backends : String → Option StagingBackend) (session : CloneSession) : Bool :=
  truthy session.stagingBackendId
    && (backends (session.stagingBackendId.getD "")).any (fun backend =>
      backend.type = "nfs" || backend.type = "iscsi" && session.bytesTotal.any (· ≠ 0))

/-- The status that an event writes into this session; a cleanup writes the last one. -/
def StagingEvent.names (e : StagingEnv) (session : CloneSession) :
    StagingEvent → Option StagingStatus
  | .stagingStatus _ update => statusNamed StagingStatus.reported update.status
  | .sourceComplete _ _ => some .ready
  | .provision _ => if provisions e.backends session then some .provisioned else none
  | .cleanup _ => none
  | .serviceStatus _ newStatus => statusNamed StagingStatus.all newStatus
  | .request _ => none

/-- An event about a staged session names no status that the session has passed. -/
def NamesNoPast (e : StagingEnv) (w : StagingDb) (event : StagingEvent) : Prop :=
  ∀ s ∈ w.db.sessions.rows, s.cloneMode = .staged → event.session = some s.id →
    ∀ status, event.names e s = some status → (w.area s.id).rank ≤ status.rank

/-! ## §6. What an event does. -/

section

variable {e : StagingEnv} {w : StagingDb} {event : StagingEvent}

theorem sessionOf_toOption {db : DB} {sessionId : String} :
    (sessionOf db sessionId).toOption = db.sessions.get? sessionId := by
  unfold sessionOf
  cases db.sessions.get? sessionId <;> rfl

theorem StagingStatus.rank_le_deleted (status : StagingStatus) :
    status.rank ≤ StagingStatus.deleted.rank := by
  cases status <;> decide

theorem StagingArea.rank_le_deleted (area : StagingArea) :
    area.rank ≤ StagingStatus.deleted.rank := by
  unfold rank
  split
  next status _ => exact status.rank_le_deleted
  next => exact Nat.zero_le _

theorem provisionIscsi_status {session : CloneSession} {config : JsonDict} {area : StagingArea} :
    (provisionIscsi session config area).toOption.map (fun out => out.2.status)
      = if session.bytesTotal.any (· ≠ 0) then some (some .provisioned) else none := by
  unfold provisionIscsi
  split
  next hbytes =>
    rw [hbytes]
    rfl
  next hbytes =>
    rw [hbytes]
    rfl
  next n hne hbytes =>
    have hn : n ≠ 0 := fun hn => hne hn
    rw [hbytes, Option.any_some, if_pos (decide_eq_true hn)]
    rfl

/-- `provision_staging` marks the area, or raises. -/
theorem provisionStaging_status {session : CloneSession} {area : StagingArea} :
    (provisionStaging e.backends session area).toOption.map (fun out => out.2.status)
      = if provisions e.backends session then some (some .provisioned) else none := by
  unfold provisionStaging stagingBackend provisions
  by_cases hid : truthy session.stagingBackendId = true
  · rw [if_pos hid, hid, Bool.true_and]
    cases e.backends (session.stagingBackendId.getD "") with
    | none => rfl
    | some backend =>
        rw [ok_bind, Option.any_some]
        by_cases hnfs : backend.type = "nfs"
        · rw [if_pos hnfs, hnfs]
          rfl
        · by_cases hiscsi : backend.type = "iscsi"
          · rw [if_neg hnfs, if_pos hiscsi, provisionIscsi_status, hiscsi]
            simp
          · simp [hnfs, hiscsi, Except.toOption]
  · rw [if_neg hid, Bool.eq_false_iff.mpr hid]
    rfl

theorem updateStagingStatus_toOption (sessionId : String) (update : StagingStatusUpdate)
    (area : StagingArea) :
    (updateStagingStatus sessionId update area).toOption.map (fun out => out.2.status)
      = (statusNamed StagingStatus.reported update.status).map some := by
  unfold updateStagingStatus
  cases statusNamed StagingStatus.reported update.status <;> rfl

theorem serviceStagingStatus_toOption (newStatus : String) (area : StagingArea) :
    (serviceStagingStatus newStatus area).toOption.map (fun out => out.2.status)
      = (statusNamed StagingStatus.all newStatus).map some := by
  unfold serviceStagingStatus
  cases statusNamed StagingStatus.all newStatus <;> rfl

/-- **WHAT THE HANDLERS WRITE**: every handler and method but the cleanup writes the status
that its event names, or raises. -/
theorem stagingHandler_status (hclean : ∀ id, event ≠ .cleanup id) (session : CloneSession)
    (area : StagingArea) :
    (stagingHandler e session area event).map StagingArea.status
      = (event.names e session).map some := by
  cases event with
  | stagingStatus sessionId update =>
      show ((updateStagingStatus session.id update area).toOption.map Prod.snd).map _ = _
      rw [Option.map_map]
      exact updateStagingStatus_toOption session.id update area
  | sourceComplete sessionId sizeBytes => rfl
  | provision sessionId =>
      show ((provisionStaging e.backends session area).toOption.map Prod.snd).map _
        = (if provisions e.backends session then some StagingStatus.provisioned else none).map some
      rw [Option.map_map]
      refine (provisionStaging_status (e := e)).trans ?_
      split <;> rfl
  | cleanup sessionId => exact absurd rfl (hclean sessionId)
  | serviceStatus sessionId newStatus =>
      show ((serviceStagingStatus newStatus area).toOption.map Prod.snd).map _ = _
      rw [Option.map_map]
      exact serviceStagingStatus_toOption newStatus area
  | request r => rfl

/-- A cleanup leaves the area as it is, or releases it. -/
theorem cleanupStaging_rank (session : CloneSession) (area : StagingArea) :
    area.rank ≤ (cleanupStaging e.backends session area).2.rank := by
  unfold cleanupStaging
  split
  next =>
    split
    next => exact Nat.le_refl _
    next => exact area.rank_le_deleted
  next => exact Nat.le_refl _

/-- The session that is created was not there. -/
theorem createdSession_fresh {sessionId : String} (h : createdSession e w event = some sessionId)
    {s : CloneSession} (hs : s ∈ w.db.sessions.rows) : s.id ≠ sessionId := by
  unfold createdSession at h
  split at h
  next uuid data =>
    cases hcreate : createCloneSession e.env w.db uuid data with
    | error exn =>
        rw [hcreate] at h
        cases h
    | ok out =>
        rw [hcreate] at h
        obtain rfl := Option.some.inj h
        obtain ⟨-, hfresh, hid, -⟩ := createCloneSession_eq_ok hcreate
        exact hid ▸ hfresh s hs
  next => cases h

/-- **THE AREA OF A SESSION** after an event about it. -/
theorem area_stagingStep {s : CloneSession} (hs : s ∈ w.db.sessions.rows)
    (hsession : event.session = some s.id) :
    (stagingStep e w event).area s.id
      = (stagingHandler e s (w.area s.id) event).getD (w.area s.id) := by
  have hcreated : createdSession e w event = none := by
    cases event with
    | request r => cases hsession
    | _ => rfl
  have hget : w.db.sessions.get? s.id = some s := Table.get?_eq_some_iff.mpr ⟨hs, rfl⟩
  have hwrite : stagingWrite e w event
      = (stagingHandler e s (w.area s.id) event).map (fun area => (s.id, area)) := by
    unfold stagingWrite
    rw [hsession]
    show ((sessionOf w.db s.id).toOption >>= _) = _
    rw [sessionOf_toOption, hget]
    show (stagingHandler e s (w.area s.id) event).bind (fun area => some (s.id, area)) = _
    cases stagingHandler e s (w.area s.id) event <;> rfl
  unfold stagingStep
  rw [hcreated, hwrite]
  cases stagingHandler e s (w.area s.id) event with
  | none => rfl
  | some area => exact Function.update_self ..

/-- The area of a session after any other event. -/
theorem area_stagingStep_of_ne {s : CloneSession} (hs : s ∈ w.db.sessions.rows)
    (hsession : event.session ≠ some s.id) :
    (stagingStep e w event).area s.id = w.area s.id := by
  unfold stagingStep
  cases hcreated : createdSession e w event with
  | some sessionId => exact Function.update_of_ne (createdSession_fresh hcreated hs) ..
  | none =>
      cases hwrite : stagingWrite e w event with
      | none => rfl
      | some out =>
          obtain ⟨sessionId, hid, hrest⟩ := Option.bind_eq_some_iff.mp hwrite
          obtain ⟨session, -, hrest⟩ := Option.bind_eq_some_iff.mp hrest
          obtain ⟨area, -, hout⟩ := Option.bind_eq_some_iff.mp hrest
          obtain rfl := Option.some.inj hout
          refine Function.update_of_ne ?_ ..
          rintro rfl
          exact hsession hid

/-- An area that is given a status, or none. -/
theorem rank_le_written_iff {area : StagingArea} {written : Option StagingArea}
    {named : Option StagingStatus}
    (h : written.map StagingArea.status = named.map some) :
    area.rank ≤ (written.getD area).rank
      ↔ ∀ status, named = some status → area.rank ≤ status.rank := by
  cases written with
  | none =>
      cases named with
      | none => exact iff_of_true (Nat.le_refl _) (fun status hnamed => nomatch hnamed)
      | some status => cases h
  | some area' =>
      cases named with
      | none => cases h
      | some status =>
          have hrank : area'.rank = status.rank := by
            unfold StagingArea.rank
            rw [Option.some.inj h]
          show area.rank ≤ area'.rank ↔ _
          rw [hrank]
          exact ⟨fun hle status' hnamed => Option.some.inj hnamed ▸ hle, fun hle => hle status rfl⟩

/-- **ONE EVENT**: it moves no session back exactly if it names no status that its session
has passed. -/
theorem stagingForward_iff : StagingForward e w event ↔ NamesNoPast e w event := by
  unfold StagingForward NamesNoPast
  refine forall_congr' (fun s => forall_congr' (fun hs => forall_congr' (fun _ => ?_)))
  by_cases hsession : event.session = some s.id
  · rw [area_stagingStep hs hsession, forall_prop_of_true hsession]
    by_cases hclean : ∃ sessionId, event = .cleanup sessionId
    · obtain ⟨sessionId, rfl⟩ := hclean
      exact iff_of_true (cleanupStaging_rank s (w.area s.id)) (fun status hnamed => nomatch hnamed)
    · exact rank_le_written_iff
        (stagingHandler_status (fun sessionId heq => hclean ⟨sessionId, heq⟩) s (w.area s.id))
  · rw [area_stagingStep_of_ne hs hsession]
    exact iff_of_true (Nat.le_refl _) (fun h => absurd h hsession)

/-- The session is there and staged. -/
def Staged (sessionId : String) (w : StagingDb) : Prop :=
  ∃ s ∈ w.db.sessions.rows, s.id = sessionId ∧ s.cloneMode = .staged

/-- **A RUN** whose events move forward never goes back behind a status it has reached. -/
theorem rank_along {sessionId : String} {n : Nat} :
    ∀ {w : StagingDb} {events : List StagingEvent}, n ≤ (w.area sessionId).rank →
      Along (stagingStep e) (StagingForward e) w events →
      Always (stagingStep e) (Staged sessionId) w events →
      Always (stagingStep e) (fun w' => n ≤ (w'.area sessionId).rank) w events
  | _, [], hn, _, _ => hn
  | w, event :: _, hn, hforward, hstaged => by
      obtain ⟨s, hs, rfl, hmode⟩ := hstaged.1
      exact ⟨hn, rank_along (hn.trans (hforward.1 s hs hmode)) hforward.2 hstaged.2⟩

/-- **THE HAND-OVER OF A STAGED CLONE**: in every run, the staging areas of the staged sessions
only move forward exactly if no event names a status that its session has passed; and then no
session that stays comes back behind a status that it has reached. -/
theorem staged_hand_over_iff (e : StagingEnv) (w : StagingDb) (events : List StagingEvent) :
    (Along (stagingStep e) (StagingForward e) w events
      ↔ Along (stagingStep e) (NamesNoPast e) w events) ∧
    ∀ sessionId, Along (stagingStep e) (NamesNoPast e) w events →
      Always (stagingStep e) (Staged sessionId) w events →
      Always (stagingStep e) (fun w' => (w.area sessionId).rank ≤ (w'.area sessionId).rank) w
        events := by
  have hiff : Along (stagingStep e) (StagingForward e) w events
      ↔ Along (stagingStep e) (NamesNoPast e) w events :=
    along_congr (fun w event => stagingForward_iff) w events
  exact ⟨hiff, fun sessionId hnames hstaged =>
    rank_along (Nat.le_refl _) (hiff.mpr hnames) hstaged⟩

end

/-! A staged session, whose source reports the beginning of its upload too late. -/

instance (e : StagingEnv) (w : StagingDb) (event : StagingEvent) :
    Decidable (StagingForward e w event) :=
  inferInstanceAs (Decidable (∀ s ∈ w.db.sessions.rows, _ → _))

def nfsEnv : StagingEnv where
  env := { sqliteEnv with storageBackendExists := fun id => id = "b" }
  backends := fun id => if id = "b" then some ⟨"nfs", []⟩ else none

def stagedClone : List StagingEvent :=
  [.request ⟨⟨0, true⟩, .createNode "m" { macAddress := "00:11:22:33:44:66" }⟩,
   .request ⟨⟨1, true⟩, .createCloneSession "s"
     { sourceNodeId := "m", stagingBackendId := some "b", backendGiven := by decide,
       targetGiven := by decide }⟩,
   .sourceComplete "s" 64]

/-- The image is ready, and then it is uploaded again. -/
theorem late_uploading_goes_back :
    ¬ Along (stagingStep nfsEnv) (StagingForward nfsEnv) .empty
      (stagedClone ++ [.stagingStatus "s" { status := "uploading" }]) := by
  decide +kernel

end PureBoot.Lifecycle
