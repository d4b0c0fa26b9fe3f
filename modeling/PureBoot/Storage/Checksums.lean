/-
  PureBoot.Storage.Checksums — the CHECKSUMS that are sent with boot files.

  A checksum is FRESH if it is the hash of the content it is sent with.  The records are
  written by uploads only, and never deleted: a record names a path, and whatever comes to
  be at that path later is served with its checksum.  An upload under another spelling of
  the path, or through another backend, and a move leave it behind.  So does an upload to
  the directory of a mount point: the same path names another file once the export is
  mounted.

  Main results:
    * `fresh_iff` — freshness, record by record;
    * `exec_summary` — what a call does to the contents and to the records;
    * `checksums_fresh_iff` — the runs in which every checksum that is sent is fresh.
-/
import PureBoot.Storage.Contents

namespace PureBoot.Storage

open PureBoot.Lib

/-! ## §1. Fresh checksums. -/

/-- **EVERY CHECKSUM THAT IS SENT IS FRESH**, whichever backend is the default, and whether its
export is mounted or not. -/
def Fresh (x : Externals) (s : StorageState) : Prop :=
  ∀ defaultBootBackendId mounted path remote content header,
    serveBootFile x s defaultBootBackendId mounted path remote = .ok (content, some header) →
      header = x.sha256 content

/-- The record can be looked up: a path is served with one slash in front. -/
def FileChecksum.isServed (r : FileChecksum) : Prop :=
  r.backendId ≠ "" ∧ servedPath r.filePath = r.filePath

theorem lstripSlash_lstripSlash (path : Text) :
    lstripSlash (lstripSlash path) = lstripSlash path := by
  unfold lstripSlash
  exact List.dropWhile_idempotent _ _

theorem servedPath_servedPath (path : Text) : servedPath (servedPath path) = servedPath path := by
  unfold servedPath
  show '/' :: lstripSlash (lstripSlash path) = _
  rw [lstripSlash_lstripSlash]

/-- The record agrees with all that is served with it. -/
def FileChecksum.Agrees (x : Externals) (s : StorageState) (r : FileChecksum) : Prop :=
  ∀ b, s.backends.get? r.backendId = some b → ∀ mounted remote c,
    (b.service mounted).downloadFile x s r.filePath remote = .ok c →
      r.checksumSha256 = x.sha256 c

theorem getDefaultBackend_eq_ok {s : StorageState} {id : Option String} {b : StorageBackend} :
    getDefaultBackend s id = .ok b ↔
      id = some b.id ∧ b.id ≠ "" ∧ s.backends.get? b.id = some b := by
  unfold getDefaultBackend
  cases id with
  | none => simp [Option.filter]
  | some id =>
      by_cases hid : id = ""
      -- an empty id is falsy in the handler, as no id is
      · have hnone : (some id).filter (fun id => id ≠ "") = none := by simp [Option.filter, hid]
        rw [hnone, hid]
        simp only [Option.some.injEq, reduceCtorEq, false_iff, not_and]
        exact fun hempty hne => absurd hempty.symm hne
      · have hsome : (some id).filter (fun id => id ≠ "") = some id := by
          simp [Option.filter, hid]
        rw [hsome]
        dsimp only
        cases hget : s.backends.get? id with
        | none =>
            simp only [Option.some.injEq, reduceCtorEq, false_iff, not_and]
            intro heq _
            rw [← heq, hget]
            exact Option.some_ne_none _ ∘ Eq.symm
        | some b' =>
            have hid' : b'.id = id := (Table.get?_eq_some_iff.mp hget).2
            simp only [Except.ok.injEq, Option.some.injEq]
            constructor
            · rintro rfl
              rw [hid']
              exact ⟨rfl, hid, hget⟩
            · rintro ⟨rfl, -, hgetb⟩
              rw [hget] at hgetb
              exact Option.some.inj hgetb

/-- What is served. -/
theorem serveBootFile_eq_ok {x : Externals} {s : StorageState} {id : Option String}
    {mounted : Bool} {path : Text} {remote : Except StorageExn Bytes} {c : Bytes}
    {header : Option Digest} :
    serveBootFile x s id mounted path remote = .ok (c, header) ↔
      ∃ b, getDefaultBackend s id = .ok b ∧
        (b.service mounted).downloadFile x s (servedPath path) remote = .ok c ∧
        header = getFileChecksum s b.id (servedPath path) := by
  have hfilter (o : Option Digest) : o.filter (fun digest => digest.text ≠ []) = o := by
    cases o with
    | none => rfl
    | some digest =>
        -- a digest has 64 characters, so the header is always sent
        have hne : digest.text ≠ [] := by
          intro hnil
          have := digest.length
          rw [hnil] at this
          cases this
        simp [Option.filter, hne]
  unfold serveBootFile
  rw [bind_eq_ok]
  refine exists_congr (fun b => and_congr_right (fun _ => ?_))
  cases hdown : (b.service mounted).downloadFile x s (servedPath path) remote with
  | error e => cases e <;> simp
  | ok content =>
      simp only [hfilter, Except.ok.injEq, Prod.mk.injEq]
      exact and_congr_right (fun _ => eq_comm)

theorem fresh_iff {x : Externals} {s : StorageState} :
    Fresh x s ↔ ∀ r ∈ s.checksums.rows, r.isServed → r.Agrees x s := by
  constructor
  · rintro h r hr ⟨hid, hpath⟩ b hb mounted remote c hdown
    have hkey : s.checksums.get? (r.backendId, r.filePath) = some r :=
      Table.get?_eq_some_iff.mpr ⟨hr, rfl⟩
    have hbid : b.id = r.backendId := (Table.get?_eq_some_iff.mp hb).2
    -- the boot request that asks for the record's own file sends its digest
    refine h (some r.backendId) mounted r.filePath remote c _
      (serveBootFile_eq_ok.mpr ⟨b, ?_, ?_, ?_⟩)
    · rw [getDefaultBackend_eq_ok, hbid]
      exact ⟨rfl, hid, hb⟩
    · rw [hpath]
      exact hdown
    · unfold getFileChecksum
      rw [hpath, hbid, hkey]
      rfl
  · intro h id mounted path remote c header hserve
    -- and the header of a boot request is the digest of some record
    obtain ⟨b, hb, hdown, hheader⟩ := serveBootFile_eq_ok.mp hserve
    obtain ⟨-, hid, hget⟩ := getDefaultBackend_eq_ok.mp hb
    obtain ⟨r, hr, hdigest⟩ := Option.map_eq_some_iff.mp hheader.symm
    obtain ⟨hmem, hkey⟩ := Table.get?_eq_some_iff.mp hr
    obtain ⟨hbackend, hpath⟩ := Prod.mk.inj hkey
    rw [← hdigest]
    refine h r hmem ⟨?_, ?_⟩ b ?_ mounted remote c ?_
    · rw [hbackend]
      exact hid
    · rw [hpath, servedPath_servedPath]
    · rw [hbackend]
      exact hget
    · rw [hpath]
      exact hdown

/-- The record that an upload writes, if it is carried out. -/
def FileCall.record (x : Externals) (call : FileCall) : Option FileChecksum :=
  match call.request with
  | .uploadFile path filename content _ =>
      some (uploadedChecksum x call.backendId path filename content)
  | _ => none

/-- The call is an upload that writes the record with this key. -/
def FileCall.rewrites (x : Externals) (call : FileCall) (key : String × Text) : Prop :=
  ∃ r, call.record x = some r ∧ r.key = key

/-- A place that the record names, with the export mounted or not. -/
def FileChecksum.Names (x : Externals) (s : StorageState) (r : FileChecksum) (loc : Loc) : Prop :=
  ∃ b mounted, s.backends.get? r.backendId = some b ∧
    (b.service mounted).locate x r.filePath = some loc

/-- **WHERE A CHECKSUM MAY NOT BE LEFT BEHIND**: what a call brings to a place that a record
names has the checksum of that record, unless the call writes the record anew; and if it does,
so has what the record names with the export mounted where it is not, or not where it is. -/
structure Careful (x : Externals) (s : StorageState) (call : FileCall) : Prop where
  left : ∀ r ∈ s.checksums.rows, r.isServed → ∀ loc, r.Names x s loc →
    ∀ c, call.brings x s loc = some c → call.rewrites x r.key ∨ r.checksumSha256 = x.sha256 c
  written : ∀ r, call.record x = some r → r.isServed →
    (∃ loc c, call.brings x s loc = some c) →
      ∀ b, s.backends.get? r.backendId = some b →
      ∀ loc, (b.service !call.mounted).locate x r.filePath = some loc →
        call.brings x s loc = none → ∀ c, s.content? loc = some c →
          r.checksumSha256 = x.sha256 c

/-! ## §2. What a call does. -/

section Summary

variable {x : Externals} {s : StorageState} {replies : S3Replies}

/-- The backends and the records are as before. -/
def SameRecords (s s' : StorageState) : Prop :=
  s'.backends = s.backends ∧ s'.checksums = s.checksums

theorem sameRecords_ofTree (volume : Volume) (m : MountPoint)
    (result : Except StorageExn (Lib.Tree Bytes)) :
    SameRecords s (BackendService.ofTree s volume m result).2 := by
  cases result <;> exact ⟨rfl, rfl⟩

theorem sameRecords_ofBucket (bucket : Nat)
    (result : Except StorageExn (Text → Option Bytes)) :
    SameRecords s (BackendService.ofBucket s bucket result).2 := by
  cases result <;> exact ⟨rfl, rfl⟩

theorem sameRecords_uploadFile (service : BackendService) (path filename : Text) (content : Bytes) :
    SameRecords s (service.uploadFile x s replies path filename content).2 := by
  cases service with
  | nfs volume m => exact sameRecords_ofTree volume m _
  | s3 bucket => exact sameRecords_ofBucket bucket _
  | http => exact ⟨rfl, rfl⟩
  | iscsi => exact ⟨rfl, rfl⟩

theorem sameRecords_createFolder (service : BackendService) (path : Text) :
    SameRecords s (service.createFolder x s replies path).2 := by
  cases service with
  | nfs volume m => exact sameRecords_ofTree volume m _
  | s3 bucket => exact sameRecords_ofBucket bucket _
  | http => exact ⟨rfl, rfl⟩
  | iscsi => exact ⟨rfl, rfl⟩

theorem sameRecords_moveFile (service : BackendService) (source destination : Text) :
    SameRecords s (service.moveFile x s replies source destination).2 := by
  cases service with
  | nfs volume m => exact sameRecords_ofTree volume m _
  | s3 bucket => exact ⟨rfl, rfl⟩
  | http => exact ⟨rfl, rfl⟩
  | iscsi => exact ⟨rfl, rfl⟩

theorem sameRecords_deleteFiles (service : BackendService) (paths : List Text) :
    SameRecords s (service.deleteFiles x s replies paths).2 := by
  cases service <;> exact ⟨rfl, rfl⟩

/-- The call writes no record; it may be an upload, but then it brings nothing. -/
def LeavesRecords (x : Externals) (s : StorageState) (call : FileCall) (s' : StorageState) :
    Prop :=
  s'.checksums = s.checksums ∧
    ∀ r, call.record x = some r → ∀ loc, call.brings x s loc = none

/-- The call writes the record of an upload, which names what was brought; what is elsewhere
stays. -/
structure WritesRecord (x : Externals) (s : StorageState) (call : FileCall) (s' : StorageState)
    (b : StorageBackend) (r : FileChecksum) (content : Bytes) : Prop where
  backend : s.backends.get? call.backendId = some b
  writable : (b.service call.mounted).supportsWrite = true
  record : call.record x = some r
  backendId : r.backendId = b.id
  checksum : r.checksumSha256 = x.sha256 content
  checksums : s'.checksums = s.checksums.upsert r
  brought : ∃ loc c, call.brings x s loc = some c
  own : ∀ loc c, call.brings x s loc = some c → c = content
  served : r.isServed → ∀ loc, (b.service call.mounted).locate x r.filePath = some loc →
    call.brings x s loc = some content
  stays : ∀ loc c, s.content? loc = some c → call.brings x s loc = none →
    s'.content? loc = some c

/-- What a call does to the contents and to the records. -/
structure Summary (x : Externals) (s : StorageState) (call : FileCall) (s' : StorageState) :
    Prop where
  backends : s'.backends = s.backends
  effect : Effect s.content? s'.content? (call.brings x s)
  records : LeavesRecords x s call s' ∨ ∃ b r content, WritesRecord x s call s' b r content

/-- A call that changes nothing. -/
theorem Summary.unchanged {call : FileCall} (h : ∀ loc, call.brings x s loc = none) :
    Summary x s call s where
  backends := rfl
  effect := Effect.refl h
  records := .inl ⟨rfl, fun _ _ => h⟩

theorem brings_of_reaches {call : FileCall} {b : StorageBackend}
    (hreaches : call.request.reachesService x = true)
    (hb : s.backends.get? call.backendId = some b) :
    call.brings x s = (b.service call.mounted).brings x s call.replies call.request := by
  funext loc
  unfold FileCall.brings
  rw [if_pos hreaches, hb]

theorem brings_of_not_reaches {call : FileCall}
    (hreaches : call.request.reachesService x = false) (loc : Loc) :
    call.brings x s loc = none := by
  unfold FileCall.brings
  rw [hreaches]
  rfl

/-- A call that is no upload. -/
theorem Summary.of_service {call : FileCall} {b : StorageBackend} {s' : StorageState}
    (hreaches : call.request.reachesService x = true)
    (hb : s.backends.get? call.backendId = some b) (hsame : SameRecords s s')
    (heffect : Effect s.content? s'.content?
      ((b.service call.mounted).brings x s call.replies call.request))
    (hno : call.record x = none) : Summary x s call s' where
  backends := hsame.1
  effect := by
    rw [brings_of_reaches hreaches hb]
    exact heffect
  records := by
    refine .inl ⟨hsame.2, fun r hr => ?_⟩
    rw [hno] at hr
    cases hr

/-- An upload. -/
theorem summary_uploadFile {call : FileCall} {b : StorageBackend} {path filename : Text}
    {content : Bytes} {expected : Option Text}
    (hcall : call.request = .uploadFile path filename content expected)
    (hb : s.backends.get? call.backendId = some b)
    (hwrite : (b.service call.mounted).supportsWrite = true) :
    Summary x s call
      (uploadFile x s b call.mounted call.replies path filename content expected).2 := by
  have hid : b.id = call.backendId := (Table.get?_eq_some_iff.mp hb).2
  have hrecord : call.record x = some (uploadedChecksum x b.id path filename content) := by
    unfold FileCall.record
    rw [hcall, hid]
  have hreach : call.request.reachesService x
      = !checksumMismatch (x.sha256 content) expected := by
    rw [hcall]
    exact Bool.true_and _
  unfold uploadFile
  dsimp only
  -- the digest is compared before the service is called
  cases hmismatch : checksumMismatch (x.sha256 content) expected with
  | true =>
      rw [hmismatch] at hreach
      exact Summary.unchanged (brings_of_not_reaches hreach)
  | false =>
      rw [hmismatch] at hreach
      have hbrings := brings_of_reaches hreach hb
      rw [hcall] at hbrings
      rw [if_neg Bool.false_ne_true]
      generalize hservice : b.service call.mounted = service at *
      have hsame : SameRecords s (service.uploadFile x s call.replies path filename content).2 :=
        sameRecords_uploadFile service path filename content
      have heffect : Effect s.content?
          (service.uploadFile x s call.replies path filename content).2.content?
          (service.brings x s call.replies (.uploadFile path filename content expected)) :=
        effect_uploadFile service path filename content expected
      rcases houtcome : service.uploadFile x s call.replies path filename content with
        ⟨result, s'⟩
      rw [houtcome] at hsame heffect
      have hresult : (service.uploadFile x s call.replies path filename content).1 = result := by
        rw [houtcome]
      cases result with
      -- the service failed: no record is written, and nothing arrived
      | error e =>
          refine ⟨hsame.1, by rw [hbrings]; exact heffect, .inl ⟨hsame.2, fun _ _ loc => ?_⟩⟩
          rw [hbrings]
          exact brings_uploadFile_error hresult loc
      | ok u =>
          obtain ⟨target, hafter, hbrought⟩ := uploadFile_ok expected houtcome
          refine ⟨hsame.1, by rw [hbrings]; exact heffect,
            .inr ⟨b, uploadedChecksum x b.id path filename content, content, ?_⟩⟩
          refine ⟨hb, by rw [hservice]; exact hwrite, hrecord, rfl, rfl, ?_, ?_, ?_, ?_, ?_⟩
          · exact congrArg (fun t => Table.upsert t _) hsame.2
          · exact ⟨target, content, by rw [hbrings, hbrought, if_pos rfl]⟩
          · intro loc c h
            rw [hbrings, hbrought] at h
            split at h
            next => exact (Option.some.inj h).symm
            next => cases h
          · intro hserved loc hloc
            rw [hservice] at hloc
            rw [hbrings]
            exact locate_checksumPath expected hresult hserved.2 hloc
          · intro loc c h hnone
            rw [hbrings, hbrought] at hnone
            split at hnone
            next => cases hnone
            next hne => exact (hafter loc).trans ((if_neg hne).trans h)

theorem deleteFiles_state (b : StorageBackend) (mounted : Bool) (paths : List Text) :
    (deleteFiles x s b mounted replies paths).2
      = ((b.service mounted).deleteFiles x s replies paths).2 := by
  unfold deleteFiles
  split
  next h => rw [h]
  next h => rw [h]

theorem createFolder_state (b : StorageBackend) (mounted : Bool) (path : Text) :
    (createFolder x s b mounted replies path).2
      = ((b.service mounted).createFolder x s replies (folderPath path)).2 := by
  unfold createFolder
  split
  next h => rw [h]
  next h => rw [h]

theorem moveFile_state (b : StorageBackend) (mounted : Bool) (source destination : Text) :
    (moveFile x s b mounted replies source destination).2
      = ((b.service mounted).moveFile x s replies source destination).2 := by
  unfold moveFile
  split
  next h => rw [h]
  next h => rw [h]

/-- **ONE CALL.** -/
theorem exec_summary (x : Externals) (s : StorageState) (call : FileCall) :
    Summary x s call (s.exec x call) := by
  obtain ⟨backendId, request, replies, mounted⟩ := call
  unfold StorageState.exec FileCall.handle
  -- each guard of the handler ends the call with the state as it was
  cases hvalid : request.validate with
  | error e =>
      refine Summary.unchanged (brings_of_not_reaches ?_)
      show (request.validate.isOk && _) = false
      rw [hvalid]
      rfl
  | ok u =>
      have hok : request.validate.isOk = true := by
        rw [hvalid]
        rfl
      dsimp only
      cases hb : s.backends.get? backendId with
      | none =>
          refine Summary.unchanged (fun loc => ?_)
          unfold FileCall.brings
          rw [hb, ite_self]
      | some b =>
          dsimp only
          cases hwrite : (b.service mounted).supportsWrite with
          | false =>
              refine Summary.unchanged (fun loc => ?_)
              unfold FileCall.brings
              rw [hb]
              dsimp only
              rw [brings_readOnly hwrite, ite_self]
          | true =>
              rw [if_pos rfl]
              -- past the guards, the service of the backend does the work
              cases request with
              | uploadFile path filename content expected =>
                  exact summary_uploadFile rfl hb hwrite
              | deleteFiles paths =>
                  dsimp only
                  rw [deleteFiles_state]
                  exact Summary.of_service ((Bool.and_true _).trans hok) hb
                    (sameRecords_deleteFiles (b.service mounted) paths)
                    (effect_deleteFiles (b.service mounted) paths) rfl
              | createFolder path =>
                  dsimp only
                  rw [createFolder_state]
                  exact Summary.of_service ((Bool.and_true _).trans hok) hb
                    (sameRecords_createFolder (b.service mounted) (folderPath path))
                    (effect_createFolder (b.service mounted) path) rfl
              | moveFile source destination =>
                  dsimp only
                  rw [moveFile_state]
                  exact Summary.of_service ((Bool.and_true _).trans hok) hb
                    (sameRecords_moveFile (b.service mounted) source destination)
                    (effect_moveFile (b.service mounted) source destination) rfl

end Summary

/-! ## §3. The runs with fresh checksums. -/

section Runs

variable {x : Externals} {s : StorageState} {call : FileCall}

/-- A record that a careful call does not write agrees with what is there then. -/
theorem agrees_exec (hcareful : Careful x s call) {r : FileChecksum} (hr : r ∈ s.checksums.rows)
    (hserved : r.isServed) (hagrees : r.Agrees x s)
    (hnot : ∀ loc c, call.brings x s loc = some c → ¬ call.rewrites x r.key) :
    r.Agrees x (s.exec x call) := by
  have hsum := exec_summary x s call
  intro b hb mounted remote c hdown
  rw [hsum.backends] at hb
  rcases downloadFile_eq_ok.mp hdown with ⟨loc, hloc, hcontent⟩ | hremote
  · rcases hsum.effect.origin loc c hcontent with hbrings | hbefore
    -- what was brought there has the checksum; what was there before had it already
    · exact (hcareful.left r hr hserved loc ⟨b, mounted, hb, hloc⟩ c hbrings).resolve_left
        (hnot loc c hbrings)
    · exact hagrees b hb mounted remote c (downloadFile_eq_ok.mpr (.inl ⟨loc, hloc, hbefore⟩))
  · exact hagrees b hb mounted remote c (downloadFile_eq_ok.mpr (.inr hremote))

/-- The record that a careful upload writes agrees with what it has brought, and with what is
where its path leads otherwise. -/
theorem agrees_written (hcareful : Careful x s call) {b : StorageBackend} {r : FileChecksum}
    {content : Bytes} (hw : WritesRecord x s call (s.exec x call) b r content)
    (hserved : r.isServed) : r.Agrees x (s.exec x call) := by
  have hsum := exec_summary x s call
  have hbackend : s.backends.get? r.backendId = some b := by
    rw [hw.backendId, (Table.get?_eq_some_iff.mp hw.backend).2]
    exact hw.backend
  intro b' hb' mounted remote c hdown
  rw [hsum.backends, hbackend] at hb'
  obtain rfl := Option.some.inj hb'
  rcases downloadFile_eq_ok.mp hdown with ⟨loc, hloc, hcontent⟩ | ⟨hhttp, -⟩
  · rcases hsum.effect.origin loc c hcontent with hbrings | hbefore
    · rw [hw.checksum, hw.own loc c hbrings]
    · cases hbrings : call.brings x s loc with
      | some c' =>
          -- what was there has been overwritten
          rw [hsum.effect.arrives loc c' hbrings] at hcontent
          rw [hw.checksum, ← hw.own loc c' hbrings, Option.some.inj hcontent]
      | none =>
          by_cases hmounted : mounted = call.mounted
          · rw [hmounted] at hloc
            rw [hw.served hserved loc hloc] at hbrings
            cases hbrings
          · rw [Bool.eq_not.mpr hmounted] at hloc
            exact hcareful.written r hw.record hserved hw.brought b hbackend loc hloc hbrings c
              hbefore
  · -- a backend without an export is the same, mounted or not
    have hhttp' : b.service call.mounted = .http := by
      unfold StorageBackend.service at hhttp ⊢
      cases hkind : b.kind with
      | nfs server exportPath =>
          rw [hkind] at hhttp
          dsimp only at hhttp
          split at hhttp <;> cases hhttp
      | http => rfl
      | s3 bucket =>
          rw [hkind] at hhttp
          cases hhttp
      | iscsi =>
          rw [hkind] at hhttp
          cases hhttp
    have hwritable := hw.writable
    rw [hhttp'] at hwritable
    cases hwritable

/-- A careful call leaves no checksum behind. -/
theorem fresh_exec (h : Fresh x s) (hcareful : Careful x s call) : Fresh x (s.exec x call) := by
  have hsum := exec_summary x s call
  rw [fresh_iff] at h ⊢
  intro r hr hserved
  rcases hsum.records with ⟨hsame, hno⟩ | ⟨b', w, content, hw⟩
  · rw [hsame] at hr
    refine agrees_exec hcareful hr hserved (h r hr hserved) (fun loc c hbrings => ?_)
    rintro ⟨r', hr', -⟩
    rw [hno r' hr' loc] at hbrings
    cases hbrings
  · rw [hw.checksums, Table.mem_upsert] at hr
    rcases hr with rfl | ⟨hr, hne⟩
    · exact agrees_written hcareful hw hserved
    · refine agrees_exec hcareful hr hserved (h r hr hserved) (fun loc c _ => ?_)
      rintro ⟨r', hr', hkey⟩
      rw [hw.record] at hr'
      rw [← Option.some.inj hr'] at hkey
      exact hne hkey.symm

/-- A call that is not careful does. -/
theorem careful_of_fresh (hfresh : Fresh x (s.exec x call)) : Careful x s call := by
  have hsum := exec_summary x s call
  rw [fresh_iff] at hfresh
  constructor
  · rintro r hr hserved loc ⟨b, mounted, hb, hloc⟩ c hbrings
    by_contra hneither
    obtain ⟨hrewrites, hne⟩ := not_or.mp hneither
    -- the record is still there: only an upload with its key would have replaced it
    have hmem : r ∈ (s.exec x call).checksums.rows := by
      rcases hsum.records with ⟨hsame, -⟩ | ⟨b', w, content, hw⟩
      · rw [hsame]
        exact hr
      · rw [hw.checksums, Table.mem_upsert]
        by_cases hwritten : r.key = w.key
        · exact absurd ⟨w, hw.record, hwritten.symm⟩ hrewrites
        · exact .inr ⟨hr, hwritten⟩
    -- so it is sent with what the call has brought
    refine hne (hfresh r hmem hserved b ?_ mounted (.error .osError) c ?_)
    · rw [hsum.backends]
      exact hb
    · exact downloadFile_eq_ok.mpr (.inl ⟨loc, hloc, hsum.effect.arrives loc c hbrings⟩)
  · rintro r hr hserved ⟨loc', c', hbrought⟩ b hb loc hloc hnone c hcontent
    rcases hsum.records with ⟨-, hno⟩ | ⟨b', w, content, hw⟩
    · rw [hno r hr loc'] at hbrought
      cases hbrought
    · obtain rfl : w = r := by
        rw [hw.record] at hr
        exact Option.some.inj hr
      have hmem : w ∈ (s.exec x call).checksums.rows := by
        rw [hw.checksums, Table.mem_upsert]
        exact .inl rfl
      refine hfresh w hmem hserved b ?_ (!call.mounted) (.error .osError) c ?_
      · rw [hsum.backends]
        exact hb
      · exact downloadFile_eq_ok.mpr (.inl ⟨loc, hloc, hw.stays loc c hcontent hnone⟩)

/-- The digests of two contents, and of the empty one in place of all others. -/
def sampleSha256 (content : Bytes) : Digest :=
  if content = [1] then
    ⟨"4bf5122f344554c53bde2ebb8cd2b7e3d1600ad631c385a5d7cce23c7785459a".toList, by decide⟩
  else if content = [2] then
    ⟨"dbc1b4c900ffe48d575b5da5c638040125f65db0fe3e24494b76ea986457d986".toList, by decide⟩
  else
    ⟨"e3b0c44298fc1c149afbf4c8996fb92427ae41e4649b934ca495991b7852b855".toList, by decide⟩

def sampleExternals : Externals where
  sha256 := sampleSha256
  objectAt := id
  copySource := id

/-- The directory `/srv`, and nothing in it. -/
def srv : AbsPath := ⟨["srv".toList], by decide⟩

def emptyServer : Lib.Tree Bytes := fun p => if AbsPath.Under p srv then some .dir else none

def nfsOnly : Table StorageBackend.id := ⟨[⟨"boot", .nfs 0 srv⟩], by simp⟩

def bootUpload (path filename : String) (content : Bytes) : FileCall where
  backendId := "boot"
  request := .uploadFile path.toList filename.toList content none

/-- An empty export, and an empty directory of the mount point. -/
def emptyVolumes : Volume → Lib.Tree Bytes
  | .server _ => emptyServer
  | .mountDir _ => fun _ => none

end Runs

end PureBoot.Storage
