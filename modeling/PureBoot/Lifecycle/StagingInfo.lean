/-
  PureBoot.Lifecycle.StagingInfo — WHERE a clone session is staged, as three functions tell it.

  Embeds `get_staging_mount_info` of `services/staging.py` and `get_staging_info` of
  `api/routes/clone.py`; `provision_staging` is in `Lifecycle.Staging`.  The two methods of
  the service read the configuration alike.  The endpoint, which both scripts ask, reads
  other keys and has other defaults.

  Main results:
    * `getStagingMountInfo_of_provision` — the two methods of the service;
    * `staging_described_iff` — the configurations that all three describe alike.
-/
import PureBoot.Lib.Posix
import PureBoot.Lifecycle.Staging

namespace PureBoot.Lifecycle

open PureBoot.Lib

/-! ## §1. The service and the endpoint. -/

/-- `staging_path.split("/")[-1]`. -/
def lastComponent (path : String) : String :=
  String.ofList ((path.toList.splitOn '/').getLastD [])

/-- `StagingService.get_staging_mount_info`. -/
def getStagingMountInfo (backends : String → Option StagingBackend) (session : CloneSession)
    (area : StagingArea) : Except Exn JsonDict := do
  let backend ← stagingBackend backends session
  let config := backend.config
  if backend.type = "nfs" then
    let exportPath := configGet config "export_path" (configGet config "export" (.str "/data"))
    let path :=
      if truthy area.path then lastComponent (area.path.getD "") else "clone-" ++ session.id
    .ok [("type", .str "nfs"), ("server", configGet config "server"), ("export", exportPath),
      ("path", .str path),
      ("options", configGet config "mount_options" (configGet config "options" (.str "rw,sync"))),
      ("image_filename", .str "disk.raw.gz")]
  else if backend.type = "iscsi" then
    .ok [("type", .str "iscsi"), ("target", configGet config "target"),
      ("portal", configGet config "portal"), ("username", configGet config "username"),
      ("password", configGet config "password"), ("lun", .int 0)]
  else .error (.valueError ("Unsupported backend type: " ++ backend.type))

/-- `get_staging_info`. -/
def getStagingInfo (backends : String → Option StagingBackend) (db : DB) (sessionId : String) :
    Except Exn JsonDict := do
  let session ← sessionOf db sessionId
  if truthy session.stagingBackendId then
    match backends (session.stagingBackendId.getD "") with
    | none => .error (.http 404 "Storage backend not found")
    | some backend =>
        let config := backend.config
        if backend.type = "nfs" then
          .ok [("type", .str "nfs"), ("server", configGet config "server"),
            ("export", configGet config "export_path" (configGet config "export")),
            ("path", .str ("clone-" ++ session.id)),
            ("options", configGet config "mount_options" (.str "rw,sync,noatime")),
            ("image_filename", .str "disk.raw.gz")]
        else if backend.type = "iscsi" then
          let chap := (configGet config "chap_enabled").truthy
          .ok [("type", .str "iscsi"), ("target", configGet config "target"),
            ("portal", .str ((configGet config "host" (configGet config "portal")).text ++ ":"
              ++ (configGet config "port" (.int 3260)).text)),
            ("username", if chap then configGet config "username" else .null),
            ("password", if chap then configGet config "password" else .null),
            ("lun", .int 0)]
        else
          .error (.http 400
            ("Unsupported storage backend type for staging: " ++ backend.type))
  else .error (.http 400 "No storage backend configured for this session")

/-! ## §2. One description. -/

/-- The session is staged on the backend. -/
structure StagedOn (backends : String → Option StagingBackend) (db : DB) (session : CloneSession)
    (backend : StagingBackend) : Prop where
  stored : db.sessions.get? session.id = some session
  assigned : truthy session.stagingBackendId = true
  found : backends (session.stagingBackendId.getD "") = some backend
  supported : backend.type = "nfs" ∨ backend.type = "iscsi"

/-- The staging area after `provision_staging`, whether it returned or raised. -/
def areaAfter (backends : String → Option StagingBackend) (session : CloneSession)
    (area : StagingArea) : StagingArea :=
  commitOrRollback area (provisionStaging backends session area)

/-- **ONE DESCRIPTION**: the service, afterwards, tells what it told when it provisioned, and the
endpoint tells the same. -/
structure DescribedAlike (backends : String → Option StagingBackend) (db : DB)
    (session : CloneSession) (area : StagingArea) : Prop where
  provisioned : ∀ info area', provisionStaging backends session area = .ok (info, area') →
    ∀ later : StagingArea, later.path = area'.path →
      getStagingMountInfo backends session later = .ok info
  served : ∀ later : StagingArea, later.path = (areaAfter backends session area).path →
    ∃ info, getStagingMountInfo backends session later = .ok info
      ∧ getStagingInfo backends db session.id = .ok info

/-- The configuration names the key. -/
def Names (config : JsonDict) (key : String) : Prop := (config.lookup key).isSome = true

/-- An NFS configuration with the keys of the endpoint. -/
structure NfsAlike (session : CloneSession) (config : JsonDict) : Prop where
  /-- The id is one component of a path, as a uuid is. -/
  component : '/' ∉ session.id.toList
  exportPath : Names config "export_path" ∨ Names config "export"
  options : Names config "mount_options" ∨ config.lookup "options" = some (.str "rw,sync,noatime")

/-- An iSCSI configuration with the keys of both. -/
structure IscsiAlike (config : JsonDict) : Prop where
  portal : ∃ host, config.lookup "host" = some host ∧
    config.lookup "portal"
      = some (.str (host.text ++ ":" ++ (configGet config "port" (.int 3260)).text))
  credentials : (configGet config "chap_enabled").truthy = true
    ∨ configGet config "username" = .null ∧ configGet config "password" = .null

/-! ## §3. What each function tells. -/

/-- The description of an NFS area, by the service. -/
def nfsMount (config : JsonDict) (path : String) : JsonDict :=
  [("type", .str "nfs"), ("server", configGet config "server"),
    ("export", configGet config "export_path" (configGet config "export" (.str "/data"))),
    ("path", .str path),
    ("options", configGet config "mount_options" (configGet config "options" (.str "rw,sync"))),
    ("image_filename", .str "disk.raw.gz")]

/-- The description of an iSCSI area, by the service. -/
def iscsiMount (config : JsonDict) : JsonDict :=
  [("type", .str "iscsi"), ("target", configGet config "target"),
    ("portal", configGet config "portal"), ("username", configGet config "username"),
    ("password", configGet config "password"), ("lun", .int 0)]

section Descriptions

variable {backends : String → Option StagingBackend} {db : DB} {session : CloneSession}
  {backend : StagingBackend} {area later : StagingArea}

theorem StagedOn.stagingBackend_eq (h : StagedOn backends db session backend) :
    stagingBackend backends session = .ok backend := by
  unfold stagingBackend
  rw [if_pos h.assigned, h.found]

theorem StagedOn.provision_nfs (h : StagedOn backends db session backend)
    (hnfs : backend.type = "nfs") :
    provisionStaging backends session area = .ok (provisionNfs session backend.config area) := by
  unfold provisionStaging
  rw [h.stagingBackend_eq, ok_bind, if_pos hnfs]

theorem StagedOn.provision_iscsi (h : StagedOn backends db session backend)
    (hiscsi : backend.type = "iscsi") :
    provisionStaging backends session area = provisionIscsi session backend.config area := by
  have hnfs : backend.type ≠ "nfs" := by
    rw [hiscsi]
    decide
  unfold provisionStaging
  rw [h.stagingBackend_eq, ok_bind, if_neg hnfs, if_pos hiscsi]

theorem StagedOn.mount_nfs (h : StagedOn backends db session backend)
    (hnfs : backend.type = "nfs") :
    getStagingMountInfo backends session later = .ok (nfsMount backend.config
      (if truthy later.path then lastComponent (later.path.getD "")
        else "clone-" ++ session.id)) := by
  unfold getStagingMountInfo
  rw [h.stagingBackend_eq, ok_bind]
  dsimp only
  rw [if_pos hnfs]
  rfl

theorem StagedOn.mount_iscsi (h : StagedOn backends db session backend)
    (hiscsi : backend.type = "iscsi") :
    getStagingMountInfo backends session later = .ok (iscsiMount backend.config) := by
  have hnfs : backend.type ≠ "nfs" := by
    rw [hiscsi]
    decide
  unfold getStagingMountInfo
  rw [h.stagingBackend_eq, ok_bind]
  dsimp only
  rw [if_neg hnfs, if_pos hiscsi]
  rfl

theorem StagedOn.served_nfs (h : StagedOn backends db session backend)
    (hnfs : backend.type = "nfs") :
    getStagingInfo backends db session.id = .ok
      [("type", .str "nfs"), ("server", configGet backend.config "server"),
        ("export", configGet backend.config "export_path" (configGet backend.config "export")),
        ("path", .str ("clone-" ++ session.id)),
        ("options", configGet backend.config "mount_options" (.str "rw,sync,noatime")),
        ("image_filename", .str "disk.raw.gz")] := by
  unfold getStagingInfo sessionOf
  rw [h.stored, ok_bind, if_pos h.assigned, h.found]
  dsimp only
  rw [if_pos hnfs]

theorem StagedOn.served_iscsi (h : StagedOn backends db session backend)
    (hiscsi : backend.type = "iscsi") :
    getStagingInfo backends db session.id = .ok
      [("type", .str "iscsi"), ("target", configGet backend.config "target"),
        ("portal", .str ((configGet backend.config "host" (configGet backend.config "portal")).text
          ++ ":" ++ (configGet backend.config "port" (.int 3260)).text)),
        ("username", if (configGet backend.config "chap_enabled").truthy then
          configGet backend.config "username" else .null),
        ("password", if (configGet backend.config "chap_enabled").truthy then
          configGet backend.config "password" else .null),
        ("lun", .int 0)] := by
  have hnfs : backend.type ≠ "nfs" := by
    rw [hiscsi]
    decide
  unfold getStagingInfo sessionOf
  rw [h.stored, ok_bind, if_pos h.assigned, h.found]
  dsimp only
  rw [if_neg hnfs, if_pos hiscsi]

/-- The last component of a path that ends in one. -/
theorem lastComponent_append {dir : String} (h : '/' ∉ dir.toList) (root : String) :
    lastComponent (root ++ "/" ++ dir) = dir := by
  have hlist : (root ++ "/" ++ dir).toList = root.toList ++ '/' :: dir.toList := by
    rw [String.toList_append, String.toList_append, List.append_assoc]
    rfl
  unfold lastComponent
  rw [hlist, List.splitOn_append_cons_self, List.splitOn_eq_singleton h,
    List.getLastD_concat, String.ofList_toList]

/-- What is told of a path is one component. -/
theorem no_slash_lastComponent (path : String) : '/' ∉ (lastComponent path).toList := by
  unfold lastComponent
  rw [String.toList_ofList]
  cases hsplit : path.toList.splitOn '/' with
  | nil => exact absurd hsplit (List.splitOn_ne_nil _ _)
  | cons first rest =>
      rw [List.getLastD_cons]
      exact no_slash_of_mem_splitOn (hsplit ▸ List.getLastD_mem_cons)

/-- The area of an NFS session after it was provisioned. -/
theorem StagedOn.areaAfter_nfs (h : StagedOn backends db session backend)
    (hnfs : backend.type = "nfs") :
    (areaAfter backends session area).path
      = some ((configGet backend.config "export_path"
          (configGet backend.config "export" (.str "/data"))).text ++ "/"
          ++ ("clone-" ++ session.id)) := by
  unfold areaAfter
  rw [h.provision_nfs hnfs]
  rfl

/-- Only provisioning writes the path of a staging area. -/
theorem stagingHandler_path {e : StagingEnv} {event : StagingEvent} {area' : StagingArea}
    (hother : ∀ sessionId, event ≠ .provision sessionId)
    (h : stagingHandler e session area event = some area') : area'.path = area.path := by
  cases event with
  | stagingStatus sessionId request =>
      obtain ⟨⟨report, area''⟩, hreport, rfl⟩ := Option.map_eq_some_iff.mp h
      have hok := toOption_eq_some_iff.mp hreport
      unfold updateStagingStatus at hok
      split at hok
      next => cases hok
      next =>
        obtain ⟨-, rfl⟩ := Prod.mk.inj (Except.ok.inj hok)
        rfl
  | sourceComplete sessionId sizeBytes =>
      obtain rfl := Option.some.inj h
      rfl
  | provision sessionId => exact absurd rfl (hother sessionId)
  | cleanup sessionId =>
      obtain rfl := Option.some.inj h
      unfold cleanupStaging
      split
      next =>
        split
        next => rfl
        next => rfl
      next => rfl
  | serviceStatus sessionId newStatus =>
      obtain ⟨⟨report, area''⟩, hreport, rfl⟩ := Option.map_eq_some_iff.mp h
      have hok := toOption_eq_some_iff.mp hreport
      unfold serviceStagingStatus at hok
      split at hok
      next =>
        obtain ⟨-, rfl⟩ := Prod.mk.inj (Except.ok.inj hok)
        rfl
      next => cases hok
  | request r => cases h

end Descriptions

/-! ## §4. Two readings of one key. -/

section Keys

variable {config : JsonDict} {key : String} {a b : JsonValue}

theorem configGet_of_lookup {v : JsonValue} (h : config.lookup key = some v) :
    configGet config key a = v := by
  unfold configGet
  rw [h]
  rfl

/-- Two defaults make no difference exactly if the key is named or they are the same. -/
theorem configGet_congr_iff : configGet config key a = configGet config key b
    ↔ Names config key ∨ a = b := by
  unfold configGet Names
  cases config.lookup key with
  | none => simp
  | some v => simp

theorem configGet_eq_str_iff {t : String} : configGet config key = .str t
    ↔ config.lookup key = some (.str t) := by
  unfold configGet
  cases config.lookup key with
  | none => simp
  | some v => simp

end Keys

/-! ## §5. The configurations that are described alike. -/

section Alike

variable {backends : String → Option StagingBackend} {db : DB} {session : CloneSession}
  {backend : StagingBackend} {area later : StagingArea}

/-- An NFS path that was provisioned is told as it was provisioned exactly if the id is one
component. -/
theorem lastComponent_provisioned_iff {root : String} :
    lastComponent (root ++ "/" ++ ("clone-" ++ session.id)) = "clone-" ++ session.id
      ↔ '/' ∉ session.id.toList := by
  constructor
  · intro h hslash
    have hno := no_slash_lastComponent (root ++ "/" ++ ("clone-" ++ session.id))
    rw [h, String.toList_append] at hno
    exact hno (List.mem_append_right _ hslash)
  · intro hslash
    refine lastComponent_append ?_ root
    rw [String.toList_append, List.mem_append]
    rintro (hmem | hmem)
    · exact absurd hmem (by decide)
    · exact hslash hmem

/-- The endpoint's description of an NFS area is the one of the service. -/
theorem nfs_served_iff :
    nfsMount backend.config ("clone-" ++ session.id)
      = [("type", .str "nfs"), ("server", configGet backend.config "server"),
        ("export", configGet backend.config "export_path" (configGet backend.config "export")),
        ("path", .str ("clone-" ++ session.id)),
        ("options", configGet backend.config "mount_options" (.str "rw,sync,noatime")),
        ("image_filename", .str "disk.raw.gz")]
      ↔ (Names backend.config "export_path" ∨ Names backend.config "export")
        ∧ (Names backend.config "mount_options"
          ∨ backend.config.lookup "options" = some (.str "rw,sync,noatime")) := by
  have hexport : configGet backend.config "export_path"
        (configGet backend.config "export" (.str "/data"))
      = configGet backend.config "export_path" (configGet backend.config "export")
      ↔ Names backend.config "export_path" ∨ Names backend.config "export" := by
    rw [configGet_congr_iff, configGet_congr_iff]
    simp
  have hoptions : configGet backend.config "mount_options"
        (configGet backend.config "options" (.str "rw,sync"))
      = configGet backend.config "mount_options" (.str "rw,sync,noatime")
      ↔ Names backend.config "mount_options"
        ∨ backend.config.lookup "options" = some (.str "rw,sync,noatime") := by
    rw [configGet_congr_iff]
    refine or_congr_right ?_
    unfold configGet
    cases backend.config.lookup "options" with
    | none => decide
    | some v => simp
  rw [← hexport, ← hoptions]
  unfold nfsMount
  simp

/-- The portal that the endpoint builds is the configured one exactly if a host is named. -/
theorem portal_served_iff {config : JsonDict} :
    configGet config "portal"
        = .str ((configGet config "host" (configGet config "portal")).text
          ++ ":" ++ (configGet config "port" (.int 3260)).text)
      ↔ ∃ host, config.lookup "host" = some host ∧ config.lookup "portal"
        = some (.str (host.text ++ ":" ++ (configGet config "port" (.int 3260)).text)) := by
  rw [configGet_eq_str_iff]
  cases hhost : config.lookup "host" with
  | some host =>
      rw [configGet_of_lookup hhost]
      simp
  | none =>
      -- without a host the portal would be longer than itself
      refine iff_of_false (fun h => ?_) (fun ⟨_, h, _⟩ => by cases h)
      have hget : configGet config "host" (configGet config "portal")
          = configGet config "portal" := by
        conv_lhs => unfold configGet
        rw [hhost]
        rfl
      rw [hget] at h
      have hvalue : configGet config "portal" = _ := configGet_of_lookup h
      have hlength := congrArg (fun v : JsonValue => v.text.length) hvalue
      simp only [JsonValue.text, String.length_append] at hlength
      have hcolon : (":" : String).length = 1 := rfl
      omega

/-- The endpoint's description of an iSCSI area is the one of the service. -/
theorem iscsi_served_iff :
    iscsiMount backend.config
      = [("type", .str "iscsi"), ("target", configGet backend.config "target"),
        ("portal", .str ((configGet backend.config "host" (configGet backend.config "portal")).text
          ++ ":" ++ (configGet backend.config "port" (.int 3260)).text)),
        ("username", if (configGet backend.config "chap_enabled").truthy then
          configGet backend.config "username" else .null),
        ("password", if (configGet backend.config "chap_enabled").truthy then
          configGet backend.config "password" else .null),
        ("lun", .int 0)]
      ↔ IscsiAlike backend.config := by
  constructor
  · intro h
    unfold iscsiMount at h
    simp only [List.cons.injEq, Prod.mk.injEq, true_and, and_true] at h
    obtain ⟨hp, husername, hpassword⟩ := h
    refine ⟨portal_served_iff.mp hp, ?_⟩
    by_cases hchap : (configGet backend.config "chap_enabled").truthy = true
    · exact .inl hchap
    · rw [if_neg hchap] at husername hpassword
      exact .inr ⟨husername, hpassword⟩
  · rintro ⟨hp, hcredentials⟩
    unfold iscsiMount
    rw [← portal_served_iff.mpr hp]
    rcases hcredentials with hchap | ⟨husername, hpassword⟩
    · rw [if_pos hchap, if_pos hchap]
    · rw [husername, hpassword, ite_self]

theorem truthy_provisioned {root dir : String} : truthy (some (root ++ "/" ++ dir)) = true := by
  refine decide_eq_true (fun hempty => ?_)
  have hlength := congrArg String.length hempty
  rw [String.length_append, String.length_append] at hlength
  have hslash : ("/" : String).length = 1 := rfl
  have hnil : ("" : String).length = 0 := rfl
  omega

/-- What the service tells of an NFS area afterwards. -/
theorem StagedOn.mount_after_nfs (h : StagedOn backends db session backend)
    (hnfs : backend.type = "nfs")
    (hlater : later.path = (areaAfter backends session area).path) :
    getStagingMountInfo backends session later = .ok (nfsMount backend.config (lastComponent
      ((configGet backend.config "export_path"
        (configGet backend.config "export" (.str "/data"))).text ++ "/"
          ++ ("clone-" ++ session.id)))) := by
  rw [h.mount_nfs hnfs, hlater, h.areaAfter_nfs hnfs, if_pos truthy_provisioned]
  rfl

theorem nfsMount_injective {config : JsonDict} {path path' : String}
    (h : nfsMount config path = nfsMount config path') : path = path' := by
  unfold nfsMount at h
  simpa using h

theorem StagedOn.alike_nfs_iff (h : StagedOn backends db session backend)
    (hnfs : backend.type = "nfs") :
    DescribedAlike backends db session area ↔ NfsAlike session backend.config := by
  constructor
  · intro halike
    have hprovisioned := halike.provisioned _ _ (h.provision_nfs hnfs)
      (areaAfter backends session area) (by
        unfold areaAfter
        rw [h.provision_nfs hnfs]
        rfl)
    rw [h.mount_after_nfs hnfs rfl] at hprovisioned
    have hpath := nfsMount_injective (Except.ok.inj hprovisioned)
    obtain ⟨info, hmount, hserved⟩ := halike.served _ rfl
    rw [h.mount_after_nfs hnfs rfl, hpath] at hmount
    rw [h.served_nfs hnfs] at hserved
    obtain ⟨hexport, hoptions⟩ := nfs_served_iff.mp
      ((Except.ok.inj hmount).trans (Except.ok.inj hserved).symm)
    exact ⟨lastComponent_provisioned_iff.mp hpath, hexport, hoptions⟩
  · rintro ⟨hcomponent, hexport, hoptions⟩
    have hmount : ∀ later : StagingArea, later.path = (areaAfter backends session area).path →
        getStagingMountInfo backends session later
          = .ok (nfsMount backend.config ("clone-" ++ session.id)) := by
      intro later hlater
      rw [h.mount_after_nfs hnfs hlater, lastComponent_provisioned_iff.mpr hcomponent]
    constructor
    · intro info area' hok later hlater
      have hafter : areaAfter backends session area = area' := by
        unfold areaAfter
        rw [hok]
        rfl
      rw [hmount later (hlater.trans (congrArg StagingArea.path hafter.symm))]
      rw [h.provision_nfs hnfs] at hok
      obtain ⟨rfl, -⟩ := Prod.mk.inj (Except.ok.inj hok)
      rfl
    · intro later hlater
      refine ⟨_, hmount later hlater, ?_⟩
      rw [h.served_nfs hnfs, nfs_served_iff.mpr ⟨hexport, hoptions⟩]

theorem StagedOn.alike_iscsi_iff (h : StagedOn backends db session backend)
    (hiscsi : backend.type = "iscsi") :
    DescribedAlike backends db session area ↔ IscsiAlike backend.config := by
  rw [← iscsi_served_iff]
  constructor
  · intro halike
    obtain ⟨info, hmount, hserved⟩ := halike.served _ rfl
    rw [h.mount_iscsi hiscsi] at hmount
    rw [h.served_iscsi hiscsi] at hserved
    exact (Except.ok.inj hmount).trans (Except.ok.inj hserved).symm
  · intro hsame
    constructor
    · intro info area' hok later _
      rw [h.provision_iscsi hiscsi] at hok
      unfold provisionIscsi at hok
      split at hok
      next => cases hok
      next => cases hok
      next =>
        obtain ⟨rfl, -⟩ := Prod.mk.inj (Except.ok.inj hok)
        exact h.mount_iscsi hiscsi
    · intro later _
      refine ⟨_, h.mount_iscsi hiscsi, ?_⟩
      rw [h.served_iscsi hiscsi, hsame]

/-- **STAGING IS DESCRIBED ALIKE** exactly by these configurations. -/
theorem staging_described_iff (h : StagedOn backends db session backend) :
    DescribedAlike backends db session area
      ↔ (backend.type = "nfs" → NfsAlike session backend.config)
        ∧ (backend.type = "iscsi" → IscsiAlike backend.config) := by
  rcases h.supported with hnfs | hiscsi
  · have hother : backend.type ≠ "iscsi" := by
      rw [hnfs]
      decide
    rw [h.alike_nfs_iff hnfs]
    exact ⟨fun halike => ⟨fun _ => halike, fun heq => absurd heq hother⟩, fun h => h.1 hnfs⟩
  · have hother : backend.type ≠ "nfs" := by
      rw [hiscsi]
      decide
    rw [h.alike_iscsi_iff hiscsi]
    exact ⟨fun halike => ⟨fun heq => absurd heq hother, fun _ => halike⟩, fun h => h.2 hiscsi⟩

end Alike

/-- A session that is staged on the backend `b1`. -/
def stagedSession : CloneSession where
  id := "5f2c"
  sourceNodeId := "n1"
  stagingBackendId := some "b1"

def stagedSessions : DB :=
  { DB.empty with sessions := ⟨[stagedSession], List.nodup_singleton _⟩ }

/-- The one backend. -/
def oneBackend (backend : StagingBackend) (id : String) : Option StagingBackend :=
  if id = "b1" then some backend else none

theorem stagedOn_oneBackend {backend : StagingBackend}
    (h : backend.type = "nfs" ∨ backend.type = "iscsi") :
    StagedOn (oneBackend backend) stagedSessions stagedSession backend :=
  ⟨rfl, rfl, rfl, h⟩

/-- A complete NFS configuration. -/
def nfsBackend : StagingBackend where
  type := "nfs"
  config := [("server", .str "10.0.0.1"), ("export_path", .str "/exports/images"),
    ("mount_options", .str "vers=4.1")]

theorem nfsBackend_described_alike :
    DescribedAlike (oneBackend nfsBackend) stagedSessions stagedSession {} := by
  refine (staging_described_iff (stagedOn_oneBackend (.inl rfl))).mpr ⟨fun _ => ?_, ?_⟩
  · exact ⟨by decide, .inl rfl, .inl rfl⟩
  · intro hiscsi
    exact absurd hiscsi (by decide)

/-- A configuration of `IscsiTargetConfig`. -/
def iscsiBackend : StagingBackend where
  type := "iscsi"
  config := [("target", .str "iqn.2026-01.local.pureboot:disk1"), ("port", .int 3260),
    ("chap_enabled", .bool false)]

/-- The service has no portal for it; the endpoint has `None:3260`. -/
theorem iscsiBackend_not_described_alike :
    getStagingMountInfo (oneBackend iscsiBackend) stagedSession {}
        = .ok [("type", .str "iscsi"), ("target", .str "iqn.2026-01.local.pureboot:disk1"),
          ("portal", .null), ("username", .null), ("password", .null), ("lun", .int 0)]
      ∧ getStagingInfo (oneBackend iscsiBackend) stagedSessions "5f2c"
        = .ok [("type", .str "iscsi"), ("target", .str "iqn.2026-01.local.pureboot:disk1"),
          ("portal", .str "None:3260"), ("username", .null), ("password", .null),
          ("lun", .int 0)]
      ∧ ¬ DescribedAlike (oneBackend iscsiBackend) stagedSessions stagedSession {} := by
  refine ⟨by decide, by decide, ?_⟩
  rw [(stagedOn_oneBackend (.inr rfl)).alike_iscsi_iff rfl]
  rintro ⟨⟨host, hhost, -⟩, -⟩
  cases hhost

end PureBoot.Lifecycle
