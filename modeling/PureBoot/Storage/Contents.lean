/-
  PureBoot.Storage.Contents — what the file API does to the CONTENTS of the storage.

  A content is at a location: a path of an NFS server or an object of a bucket.  For each
  request we say which content it BRINGS to which location, from the request and the
  storage before it; what is at a location afterwards was brought there, or was there
  before, and what is brought is there.

  Main results:
    * `downloadFile_eq_ok` — a download gives what is at the location of its path;
    * `effect_uploadFile`, `effect_createFolder`, `effect_moveFile`, `effect_deleteFiles` —
      what each operation brings;
    * `locate_checksumPath` — the record of an upload names the file that was written.
-/
import Mathlib.Data.List.DropRight
import PureBoot.Lib.Run
import PureBoot.Storage.FileApi

namespace PureBoot.Storage

open PureBoot.Lib

/-! ## §1. Locations. -/

/-- Where a content is. -/
inductive Loc where
  | file (volume : Volume) (p : AbsPath)
  | object (bucket : Nat) (name : Text)
  deriving DecidableEq

def StorageState.content? (s : StorageState) : Loc → Option Bytes
  | .file volume p => (s.trees volume).content? p
  | .object bucket name => s.buckets bucket name

/-- The directory of a mount point adds no content. -/
theorem StorageState.content?_treeOf (s : StorageState) (volume : Volume) (m : MountPoint) :
    (s.treeOf volume m).content? = (s.trees volume).content? := by
  unfold StorageState.treeOf
  split
  next => rfl
  next => exact funext (Tree.content?_withDirs _ _)

/-- Where the content of a path is. -/
def BackendService.locate (x : Externals) (path : Text) : BackendService → Option Loc
  | nfs volume m =>
      if hasDots path then none else some (.file volume (m.root.resolveFrom (lstripSlash path)))
  | s3 bucket =>
      if hasDots path || lstripSlash path = [] then none
      else some (.object bucket (x.objectAt (lstripSlash path)))
  | http => none
  | iscsi => none

/-- A download gives what is at the location, or what a remote server answers. -/
theorem downloadFile_eq_ok {x : Externals} {s : StorageState} {path : Text}
    {remote : Except StorageExn Bytes} {service : BackendService} {c : Bytes} :
    service.downloadFile x s path remote = .ok c ↔
      (∃ loc, service.locate x path = some loc ∧ s.content? loc = some c) ∨
        (service = .http ∧ hasDots path = false ∧ remote = .ok c) := by
  cases service with
  | nfs volume m =>
      unfold BackendService.downloadFile BackendService.locate nfsDownloadFile validatePath
      cases hasDots path with
      | true => simp [bind, Except.bind]
      | false =>
          simp only [bind, Except.bind, Bool.false_eq_true, if_false, Option.some.injEq,
            exists_eq_left', reduceCtorEq, false_and, or_false]
          show _ ↔ (s.trees volume).content? _ = some c
          rw [← s.content?_treeOf volume m, Tree.content?_eq_some]
          cases s.treeOf volume m (m.root.resolveFrom (lstripSlash path)) with
          | none => simp
          -- a directory is no file
          | some e => cases e <;> simp
  | http =>
      unfold BackendService.downloadFile BackendService.locate
      cases hasDots path <;> simp
  | s3 bucket =>
      unfold BackendService.downloadFile BackendService.locate s3DownloadFile
      cases hasDots path with
      | true => simp
      | false =>
          by_cases hkey : lstripSlash path = []
          · simp [hkey]
          · simp only [hkey, Bool.false_eq_true, if_false, decide_false, Bool.or_false,
              Option.some.injEq, exists_eq_left', reduceCtorEq, false_and, or_false]
            show _ ↔ s.buckets bucket _ = some c
            cases s.buckets bucket (x.objectAt (lstripSlash path)) <;> simp
  | iscsi =>
      unfold BackendService.downloadFile BackendService.locate
      simp

/-! ## §2. What a call brings. -/

/-- The content that a request brings to a path of an NFS server, if it is carried out. -/
def FileRequest.bringsToTree (t : Lib.Tree Bytes) (root : AbsPath) :
    FileRequest → AbsPath → Option Bytes
  | uploadFile path filename content _, p =>
      if (nfsUploadFile t root path filename content).isOk
          && p = targetFile (root.resolveFrom (lstripSlash path)) filename then some content
      else none
  | moveFile source destination, p =>
      if (nfsMoveFile t root source destination).isOk then
        t.moved (root.resolveFrom (lstripSlash source))
          (root.resolveFrom (lstripSlash destination)) p
      else none
  | deleteFiles _, _ => none
  | createFolder _, _ => none

/-- The source of a move is deleted after it was copied. -/
def deletesSource (replies : S3Replies) (source : Text) : Bool :=
  lstripSlash source ≠ [] && (replies.delete source).accepted

/-- What a move brings to an object: an object that is moved to itself is deleted. -/
def s3MoveBrings (x : Externals) (objects : Text → Option Bytes) (replies : S3Replies)
    (source destination name : Text) : Option Bytes :=
  if !hasDots source && !hasDots destination && lstripSlash destination ≠ []
      && replies.put.accepted && name = x.objectAt (lstripSlash destination)
      && !(deletesSource replies source && name = x.objectAt (lstripSlash source)) then
    objects (x.copySource (lstripSlash source))
  else none

/-- The content that a request brings to an object of a bucket. -/
def FileRequest.bringsToBucket (x : Externals) (objects : Text → Option Bytes)
    (replies : S3Replies) : FileRequest → Text → Option Bytes
  | uploadFile path filename content _, name =>
      if (s3UploadFile x objects replies path filename content).isOk
          && name = x.objectAt (s3UploadKey path filename) then some content
      else none
  | createFolder path, name =>
      if (s3CreateFolder x objects replies (folderPath path)).isOk
          && name = x.objectAt (s3FolderKey (folderPath path)) then some []
      else none
  | moveFile source destination, name => s3MoveBrings x objects replies source destination name
  | deleteFiles _, _ => none

/-- The request gets as far as the service of its backend. -/
def FileRequest.reachesService (x : Externals) (request : FileRequest) : Bool :=
  request.validate.isOk &&
    match request with
    | uploadFile _ _ content expected => !checksumMismatch (x.sha256 content) expected
    | _ => true

/-- The content that a service brings to a location. -/
def BackendService.brings (x : Externals) (s : StorageState) (replies : S3Replies)
    (request : FileRequest) : BackendService → Loc → Option Bytes
  | nfs volume m, .file volume' p =>
      if volume' = volume then request.bringsToTree (s.treeOf volume m) m.root p else none
  | s3 bucket, .object bucket' name =>
      if bucket' = bucket then request.bringsToBucket x (s.buckets bucket) replies name else none
  | _, _ => none

/-- The content that a call brings to a location. -/
def FileCall.brings (x : Externals) (s : StorageState) (call : FileCall) (loc : Loc) :
    Option Bytes :=
  if call.request.reachesService x then
    match s.backends.get? call.backendId with
    | some b => (b.service call.mounted).brings x s call.replies call.request loc
    | none => none
  else none

/-! ## §3. The services do that. -/

/-- What is there afterwards was brought, or was there before; and what is brought is there. -/
structure Effect {α : Type} (before after brought : α → Option Bytes) : Prop where
  origin : ∀ a c, after a = some c → brought a = some c ∨ before a = some c
  arrives : ∀ a c, brought a = some c → after a = some c

section Effects

variable {α : Type} {before after brought : α → Option Bytes}

theorem Effect.none (horigin : ∀ a c, after a = some c → before a = some c)
    (hbrought : ∀ a, brought a = .none) : Effect before after brought where
  origin := fun a c h => .inr (horigin a c h)
  arrives := fun a c h => by
    rw [hbrought a] at h
    cases h

theorem Effect.refl (hbrought : ∀ a, brought a = .none) : Effect before before brought :=
  .none (fun _ _ h => h) hbrought

/-- One content is stored. -/
theorem Effect.put {a : α} {content : Bytes} [DecidableEq α]
    (hafter : ∀ a', after a' = if a' = a then some content else before a')
    (hbrought : ∀ a', brought a' = if a' = a then some content else .none) :
    Effect before after brought where
  origin := fun a' c h => by
    rw [hafter] at h
    rw [hbrought]
    split at h
    next heq => exact .inl ((if_pos heq).trans h)
    next => exact .inr h
  arrives := fun a' c h => by
    rw [hbrought] at h
    rw [hafter]
    split at h
    next heq => exact (if_pos heq).trans h
    next => cases h

end Effects

/-! NFS. -/

section Nfs

variable {t t' : Lib.Tree Bytes} {root : AbsPath}

theorem validatePath_eq_ok {path : Text} {p : AbsPath} :
    validatePath root path = .ok p ↔
      hasDots path = false ∧ p = root.resolveFrom (lstripSlash path) := by
  unfold validatePath
  cases hasDots path with
  | true => simp
  | false => simp [eq_comm]

/-- What an upload did that succeeded. -/
theorem nfsUploadFile_eq_ok {path filename : Text} {content : Bytes}
    (h : nfsUploadFile t root path filename content = .ok t') :
    hasDots path = false ∧ '/' ∉ filename ∧ hasDots filename = false ∧
      t.write (targetFile (root.resolveFrom (lstripSlash path)) filename) content = some t' := by
  obtain ⟨targetDir, hdir, h⟩ := bind_eq_ok.mp h
  obtain ⟨hdots, rfl⟩ := validatePath_eq_ok.mp hdir
  obtain ⟨-, h⟩ := ite_error_eq_ok.mp h
  obtain ⟨hname, h⟩ := ite_error_eq_ok.mp h
  rw [Bool.or_eq_true, not_or, List.contains_iff_mem, Bool.not_eq_true] at hname
  split at h
  next t₁ hwrite =>
    obtain rfl := Except.ok.inj h
    exact ⟨hdots, hname.1, hname.2, hwrite⟩
  next => cases h

theorem nfsMoveFile_eq_ok {source destination : Text}
    (h : nfsMoveFile t root source destination = .ok t') :
    t.move (root.resolveFrom (lstripSlash source)) (root.resolveFrom (lstripSlash destination))
      = some t' := by
  obtain ⟨src, hsrc, h⟩ := bind_eq_ok.mp h
  obtain ⟨dst, hdst, h⟩ := bind_eq_ok.mp h
  obtain ⟨-, rfl⟩ := validatePath_eq_ok.mp hsrc
  obtain ⟨-, rfl⟩ := validatePath_eq_ok.mp hdst
  obtain ⟨-, h⟩ := ite_error_eq_ok.mp h
  obtain ⟨-, h⟩ := ite_error_eq_ok.mp h
  split at h
  next t₁ hmove =>
    obtain rfl := Except.ok.inj h
    exact hmove
  next => cases h

theorem nfsCreateFolder_eq_ok {path : Text} (h : nfsCreateFolder t root path = .ok t') :
    t.mkdirs (root.resolveFrom (lstripSlash path)) = some t' := by
  obtain ⟨target, htarget, h⟩ := bind_eq_ok.mp h
  obtain ⟨-, rfl⟩ := validatePath_eq_ok.mp htarget
  obtain ⟨-, h⟩ := ite_error_eq_ok.mp h
  split at h
  next t₁ hmkdirs =>
    obtain rfl := Except.ok.inj h
    exact hmkdirs
  next => cases h

/-- Deleting brings nothing. -/
theorem content?_nfsDeleteFiles {m : MountPoint} {q : AbsPath} {c : Bytes} :
    ∀ (paths : List Text) (deleted : Nat) (t : Lib.Tree Bytes),
      (nfsDeleteFiles m paths deleted t).2.content? q = some c → t.content? q = some c := by
  intro paths
  induction paths with
  | nil => exact fun _ _ h => h
  | cons path paths ih =>
      intro deleted t h
      unfold nfsDeleteFiles at h
      split at h
      next => exact h
      next target htarget =>
        split at h
        next => exact ih deleted t h
        next =>
          split at h
          next =>
            -- the mount point is a directory, before and afterwards
            rw [Tree.content?_eq_some] at h
            dsimp only at h
            by_cases hq : q = target
            · rw [hq, Function.update_self] at h
              cases h
            · rw [Function.update_of_ne hq, ← Tree.content?_eq_some] at h
              exact Tree.content?_removeAll h
          next => exact Tree.content?_removeAll (ih _ _ h)
        next =>
          split at h
          next t' hunlink => exact Tree.content?_unlink hunlink (ih _ _ h)
          next => exact h

end Nfs

/-! S3. -/

section S3

variable {x : Externals} {objects objects' : Text → Option Bytes} {replies : S3Replies}

theorem s3Put_eq_ok {texts : S3Texts} {key : Text} {content : Bytes} :
    s3Put x objects replies texts key content = .ok objects' ↔
      key ≠ [] ∧ replies.put.accepted = true ∧
        objects' = Function.update objects (x.objectAt key) (some content) := by
  unfold s3Put
  by_cases hkey : key = []
  · simp [hkey]
  · cases replies.put.accepted with
    | false => simp [hkey]
    | true => simp [hkey, eq_comm]

theorem effect_s3Put {texts : S3Texts} {key : Text} {content : Bytes}
    (h : s3Put x objects replies texts key content = .ok objects')
    {brought : Text → Option Bytes}
    (hbrought : ∀ name, brought name = if name = x.objectAt key then some content else none) :
    Effect objects objects' brought := by
  obtain ⟨-, -, rfl⟩ := s3Put_eq_ok.mp h
  exact Effect.put (fun name => Function.update_apply _ _ _ _) hbrought

theorem s3Delete_eq (path name : Text) :
    s3Delete x objects replies path name
      = if deletesSource replies path && name = x.objectAt (lstripSlash path) then none
        else objects name := by
  unfold s3Delete deletesSource
  cases decide (lstripSlash path ≠ []) && (replies.delete path).accepted with
  | false => rfl
  | true =>
      rw [if_pos rfl, Bool.true_and]
      by_cases hname : name = x.objectAt (lstripSlash path)
      · rw [hname, Function.update_self]
        simp
      · rw [Function.update_of_ne hname]
        simp [hname]

theorem s3DeleteFiles_some {name : Text} {c : Bytes} :
    ∀ (paths : List Text) (deleted : Nat) (objects : Text → Option Bytes),
      (s3DeleteFiles x replies paths deleted objects).2 name = some c →
        objects name = some c := by
  intro paths
  induction paths with
  | nil => exact fun _ _ h => h
  | cons path paths ih =>
      intro deleted objects h
      unfold s3DeleteFiles at h
      split at h
      next => exact ih _ _ h
      next =>
        have hdeleted := ih _ _ h
        rw [s3Delete_eq] at hdeleted
        split at hdeleted
        next => cases hdeleted
        next => exact hdeleted

/-- A move gets as far as to copy the object. -/
def Copies (x : Externals) (objects : Text → Option Bytes) (replies : S3Replies)
    (source destination : Text) : Prop :=
  (hasDots source = false ∧ hasDots destination = false) ∧
    (lstripSlash destination ≠ [] ∧ replies.put.accepted = true) ∧
    (objects (x.copySource (lstripSlash source))).isSome = true

section Move

variable {source destination : Text}

/-- The objects after a move that has copied. -/
theorem s3MoveFile_copied {content : Bytes} (h : Copies x objects replies source destination)
    (hsource : objects (x.copySource (lstripSlash source)) = some content) (name : Text) :
    (s3MoveFile x objects replies source destination).2 name
      = if deletesSource replies source && name = x.objectAt (lstripSlash source) then none
        else if name = x.objectAt (lstripSlash destination) then some content
        else objects name := by
  obtain ⟨hdots, ⟨hkey, hput⟩, -⟩ := h
  have hcopied (texts : S3Texts) :
      s3Put x objects replies texts (lstripSlash destination) content
        = .ok (Function.update objects (x.objectAt (lstripSlash destination)) (some content)) :=
    s3Put_eq_ok.mpr ⟨hkey, hput, rfl⟩
  have hupdate : Function.update objects (x.objectAt (lstripSlash destination)) (some content)
      name = if name = x.objectAt (lstripSlash destination) then some content
        else objects name := Function.update_apply _ _ _ _
  unfold s3MoveFile
  rw [hdots.1, hdots.2, hsource, Bool.or_false, if_neg Bool.false_ne_true]
  dsimp only
  rw [hcopied]
  cases hdelete : replies.delete source with
  | clientError text =>
      -- the copy is made, but nothing is deleted
      have hno : deletesSource replies source = false := by
        unfold deletesSource
        rw [hdelete]
        exact Bool.and_false _
      rw [hno]
      exact hupdate
  | status code =>
      dsimp only
      rw [s3Delete_eq, hupdate]

theorem s3MoveBrings_copied {content : Bytes} (h : Copies x objects replies source destination)
    (hsource : objects (x.copySource (lstripSlash source)) = some content) (name : Text) :
    s3MoveBrings x objects replies source destination name
      = if name = x.objectAt (lstripSlash destination)
            && !(deletesSource replies source && name = x.objectAt (lstripSlash source)) then
          some content
        else none := by
  obtain ⟨hdots, ⟨hkey, hput⟩, -⟩ := h
  unfold s3MoveBrings
  simp only [hdots.1, hdots.2, hput, hsource, Bool.not_false, Bool.and_true, Bool.true_and,
    decide_eq_true hkey]

/-- Otherwise the bucket is as it was, -/
theorem s3MoveFile_not_copied (h : ¬ Copies x objects replies source destination) :
    (s3MoveFile x objects replies source destination).2 = objects := by
  unfold s3MoveFile
  split
  next => rfl
  next hdots =>
    rw [Bool.or_eq_true, not_or, Bool.not_eq_true, Bool.not_eq_true] at hdots
    split
    next => rfl
    next content hsource =>
      split
      next => rfl
      next copied hput =>
        obtain ⟨hkey, haccepted, -⟩ := s3Put_eq_ok.mp hput
        exact absurd ⟨hdots, ⟨hkey, haccepted⟩, by rw [hsource]; rfl⟩ h

/-- and nothing is brought. -/
theorem s3MoveBrings_not_copied (h : ¬ Copies x objects replies source destination)
    (name : Text) : s3MoveBrings x objects replies source destination name = none := by
  unfold s3MoveBrings
  split
  next hall =>
    simp only [Bool.and_eq_true, Bool.not_eq_true', decide_eq_true_eq] at hall
    obtain ⟨⟨⟨⟨⟨hsrc, hdst⟩, hkey⟩, hput⟩, -⟩, -⟩ := hall
    rw [← Option.not_isSome_iff_eq_none]
    exact fun hsome => h ⟨⟨hsrc, hdst⟩, ⟨hkey, hput⟩, hsome⟩
  next => rfl

/-- A move brings the copy, unless it deletes it again. -/
theorem effect_s3MoveFile (source destination : Text) :
    Effect objects (s3MoveFile x objects replies source destination).2
      (s3MoveBrings x objects replies source destination) := by
  by_cases hcopies : Copies x objects replies source destination
  · obtain ⟨content, hsource⟩ := Option.isSome_iff_exists.mp hcopies.2.2
    constructor
    · intro name c h
      rw [s3MoveFile_copied hcopies hsource] at h
      rw [s3MoveBrings_copied hcopies hsource]
      split_ifs at h with hdeleted hname
      · rw [Bool.not_eq_true] at hdeleted
        rw [hdeleted, decide_eq_true hname]
        exact .inl h
      · exact .inr h
    · intro name c h
      rw [s3MoveBrings_copied hcopies hsource] at h
      rw [s3MoveFile_copied hcopies hsource]
      split_ifs at h with hboth
      -- what is brought is not deleted again
      obtain ⟨hname, hdeleted⟩ := Bool.and_eq_true_iff.mp hboth
      rw [Bool.not_eq_true'] at hdeleted
      rw [hdeleted, if_neg Bool.false_ne_true, if_pos (of_decide_eq_true hname)]
      exact h
  · rw [s3MoveFile_not_copied hcopies]
    exact Effect.refl (s3MoveBrings_not_copied hcopies)

end Move

end S3

section Services

variable {x : Externals} {s : StorageState} {replies : S3Replies}

/-- An effect on one of a family of stores. -/
theorem Effect.family {ι α : Type} [DecidableEq ι] {f g : ι → α → Option Bytes} {i : ι}
    {brought : α → Option Bytes} (h : Effect (f i) (g i) brought)
    (hother : ∀ j, j ≠ i → g j = f j) (j : ι) :
    Effect (f j) (g j) (fun a => if j = i then brought a else .none) := by
  by_cases hj : j = i
  · subst hj
    simpa using h
  · rw [hother j hj]
    exact Effect.refl (fun a => if_neg hj)

/-- An effect on the storage: on each volume and on each bucket. -/
theorem effect_content {s' : StorageState} {brought : Loc → Option Bytes}
    (hfile : ∀ volume, Effect (s.trees volume).content? (s'.trees volume).content?
      (fun p => brought (.file volume p)))
    (hobject : ∀ bucket, Effect (s.buckets bucket) (s'.buckets bucket)
      (fun name => brought (.object bucket name))) :
    Effect s.content? s'.content? brought := by
  constructor
  · intro loc c h
    cases loc with
    | file volume p => exact (hfile volume).origin p c h
    | object bucket name => exact (hobject bucket).origin name c h
  · intro loc c h
    cases loc with
    | file volume p => exact (hfile volume).arrives p c h
    | object bucket name => exact (hobject bucket).arrives name c h

theorem effect_setTree {volume : Volume} {m : MountPoint} {request : FileRequest}
    {t' : Lib.Tree Bytes}
    (h : Effect (s.treeOf volume m).content? t'.content?
      (request.bringsToTree (s.treeOf volume m) m.root)) :
    Effect s.content? (s.setTree volume t').content?
      ((BackendService.nfs volume m).brings x s replies request) := by
  rw [s.content?_treeOf] at h
  have hself : (s.setTree volume t').trees volume = t' := Function.update_self _ _ _
  refine effect_content ?_ (fun bucket => Effect.refl (fun _ => rfl))
  refine Effect.family (f := fun i => (s.trees i).content?) (by rw [hself]; exact h) ?_
  intro volume' hne
  show (Function.update s.trees volume t' volume').content? = _
  rw [Function.update_of_ne hne]

theorem effect_setBucket {bucket : Nat} {request : FileRequest} {objects : Text → Option Bytes}
    (h : Effect (s.buckets bucket) objects
      (request.bringsToBucket x (s.buckets bucket) replies)) :
    Effect s.content? (s.setBucket bucket objects).content?
      ((BackendService.s3 bucket).brings x s replies request) := by
  have hself : (s.setBucket bucket objects).buckets bucket = objects := Function.update_self _ _ _
  refine effect_content (fun server => Effect.refl (fun _ => rfl)) ?_
  refine Effect.family (by rw [hself]; exact h) ?_
  intro bucket' hne
  exact Function.update_of_ne hne _ _

/-- An operation of an NFS service. -/
theorem effect_ofTree {volume : Volume} {m : MountPoint} {request : FileRequest}
    {result : Except StorageExn (Lib.Tree Bytes)}
    (hok : ∀ t', result = .ok t' → Effect (s.treeOf volume m).content? t'.content?
      (request.bringsToTree (s.treeOf volume m) m.root))
    (herror : ∀ e, result = .error e → ∀ p,
      request.bringsToTree (s.treeOf volume m) m.root p = none) :
    Effect s.content? (BackendService.ofTree s volume m result).2.content?
      ((BackendService.nfs volume m).brings x s replies request) := by
  cases result with
  | ok t' => exact effect_setTree (hok t' rfl)
  | error e => exact effect_setTree (Effect.refl (herror e rfl))

/-- An operation of an S3 service. -/
theorem effect_ofBucket {bucket : Nat} {request : FileRequest}
    {result : Except StorageExn (Text → Option Bytes)}
    (hok : ∀ objects, result = .ok objects → Effect (s.buckets bucket) objects
      (request.bringsToBucket x (s.buckets bucket) replies))
    (herror : ∀ e, result = .error e → ∀ name,
      request.bringsToBucket x (s.buckets bucket) replies name = none) :
    Effect s.content? (BackendService.ofBucket s bucket result).2.content?
      ((BackendService.s3 bucket).brings x s replies request) := by
  cases result with
  | ok objects => exact effect_setBucket (hok objects rfl)
  | error e =>
      refine Effect.refl (fun loc => ?_)
      cases loc with
      | file volume p => rfl
      | object bucket' name =>
          show (if bucket' = bucket then _ else none) = none
          rw [herror e rfl name, ite_self]

/-- An operation of an S3 service that puts one object, unless a path has two dots. -/
theorem effect_ofPut {bucket : Nat} {request : FileRequest} {dots : Bool} {e : StorageExn}
    {texts : S3Texts} {key : Text} {content : Bytes}
    {result : Except StorageExn (Text → Option Bytes)}
    (hput : result = if dots = true then .error e
      else s3Put x (s.buckets bucket) replies texts key content)
    (hbrings : ∀ name, request.bringsToBucket x (s.buckets bucket) replies name
      = if result.isOk && name = x.objectAt key then some content else none) :
    Effect s.content? (BackendService.ofBucket s bucket result).2.content?
      ((BackendService.s3 bucket).brings x s replies request) := by
  refine effect_ofBucket (fun objects hresult => ?_) (fun e hresult name => ?_)
  · have hbrought (name : Text) : request.bringsToBucket x (s.buckets bucket) replies name
        = if name = x.objectAt key then some content else none := by
      rw [hbrings, hresult]
      simp
    rw [hput] at hresult
    exact effect_s3Put (ite_error_eq_ok.mp hresult).2 hbrought
  · rw [hbrings, hresult]
    simp

/-- A backend that cannot be written to. -/
theorem brings_readOnly {service : BackendService} {request : FileRequest}
    (hservice : service.supportsWrite = false) (loc : Loc) :
    service.brings x s replies request loc = none := by
  cases service with
  | nfs volume m => cases hservice
  | s3 bucket => cases hservice
  | http => rfl
  | iscsi => rfl

theorem effect_readOnly {service : BackendService} {request : FileRequest}
    (hservice : service.supportsWrite = false) :
    Effect s.content? s.content? (service.brings x s replies request) :=
  Effect.refl (brings_readOnly hservice)

theorem effect_uploadFile (service : BackendService) (path filename : Text) (content : Bytes)
    (expected : Option Text) :
    Effect s.content? (service.uploadFile x s replies path filename content).2.content?
      (service.brings x s replies (.uploadFile path filename content expected)) := by
  cases service with
  | http => exact effect_readOnly rfl
  | iscsi => exact effect_readOnly rfl
  | nfs volume m =>
      refine effect_ofTree (fun t' hresult => ?_) (fun e hresult p => ?_)
      · obtain ⟨-, -, -, hwrite⟩ := nfsUploadFile_eq_ok hresult
        refine Effect.put (Tree.content?_write hwrite) (fun p => ?_)
        unfold FileRequest.bringsToTree
        simp [hresult]
      · unfold FileRequest.bringsToTree
        simp [hresult]
  | s3 bucket => exact effect_ofPut rfl (fun _ => rfl)

theorem content?_setTree {volume : Volume} {m : MountPoint} {t' : Lib.Tree Bytes} {p : AbsPath}
    {content : Bytes} (h : ∀ q, t'.content? q
      = if q = p then some content else (s.treeOf volume m).content? q) (loc : Loc) :
    (s.setTree volume t').content? loc
      = if loc = .file volume p then some content else s.content? loc := by
  cases loc with
  | object bucket name => rfl
  | file volume' q =>
      show (Function.update s.trees volume t' volume').content? q = _
      by_cases hvolume : volume' = volume
      · subst hvolume
        rw [Function.update_self, h, s.content?_treeOf]
        simp only [Loc.file.injEq, true_and]
        rfl
      · rw [Function.update_of_ne hvolume, if_neg (fun heq => hvolume (Loc.file.inj heq).1)]
        rfl

/-- **AN UPLOAD THAT IS CARRIED OUT** stores its content at one place, and no other changes. -/
theorem uploadFile_ok {service : BackendService} {path filename : Text} {content : Bytes}
    {s' : StorageState} (expected : Option Text)
    (h : service.uploadFile x s replies path filename content = (.ok (), s')) :
    ∃ target, (∀ loc, s'.content? loc = if loc = target then some content else s.content? loc) ∧
      ∀ loc, service.brings x s replies (.uploadFile path filename content expected) loc
        = if loc = target then some content else none := by
  cases service with
  | http => cases congrArg Prod.fst h
  | iscsi => cases congrArg Prod.fst h
  | nfs volume m =>
      rw [BackendService.uploadFile] at h
      cases hresult : nfsUploadFile (s.treeOf volume m) m.root path filename content with
      | error e =>
          rw [hresult] at h
          cases congrArg Prod.fst h
      | ok t' =>
          rw [hresult] at h
          obtain rfl : s.setTree volume t' = s' := congrArg Prod.snd h
          obtain ⟨-, -, -, hwrite⟩ := nfsUploadFile_eq_ok hresult
          refine ⟨.file volume _, content?_setTree (Tree.content?_write hwrite), fun loc => ?_⟩
          cases loc with
          | object bucket name => rfl
          | file volume' p =>
              unfold BackendService.brings FileRequest.bringsToTree
              by_cases hvolume : volume' = volume <;> simp [hresult, hvolume]
  | s3 bucket =>
      rw [BackendService.uploadFile] at h
      cases hresult : s3UploadFile x (s.buckets bucket) replies path filename content with
      | error e =>
          rw [hresult] at h
          cases congrArg Prod.fst h
      | ok objects =>
          rw [hresult] at h
          obtain rfl : s.setBucket bucket objects = s' := congrArg Prod.snd h
          obtain ⟨-, hput⟩ := ite_error_eq_ok.mp hresult
          obtain ⟨-, -, rfl⟩ := s3Put_eq_ok.mp hput
          refine ⟨.object bucket (x.objectAt (s3UploadKey path filename)), fun loc => ?_,
            fun loc => ?_⟩
          · cases loc with
            | file volume p => rfl
            | object bucket' name =>
                show Function.update s.buckets bucket _ bucket' name = _
                by_cases hbucket : bucket' = bucket
                · subst hbucket
                  rw [Function.update_self, Function.update_apply]
                  simp only [Loc.object.injEq, true_and]
                  rfl
                · rw [Function.update_of_ne hbucket,
                    if_neg (fun heq => hbucket (Loc.object.inj heq).1)]
                  rfl
          · cases loc with
            | file volume p => rfl
            | object bucket' name =>
                unfold BackendService.brings FileRequest.bringsToBucket
                by_cases hbucket : bucket' = bucket <;> simp [hresult, hbucket]

theorem effect_createFolder (service : BackendService) (path : Text) :
    Effect s.content? (service.createFolder x s replies (folderPath path)).2.content?
      (service.brings x s replies (.createFolder path)) := by
  cases service with
  | http => exact effect_readOnly rfl
  | iscsi => exact effect_readOnly rfl
  | nfs volume m =>
      refine effect_ofTree (fun t' hresult => ?_) (fun e hresult p => rfl)
      have hmkdirs := nfsCreateFolder_eq_ok hresult
      refine Effect.none (fun p c h => ?_) (fun p => rfl)
      rwa [Tree.content?_mkdirs hmkdirs] at h
  | s3 bucket => exact effect_ofPut rfl (fun _ => rfl)

theorem effect_moveFile (service : BackendService) (source destination : Text) :
    Effect s.content? (service.moveFile x s replies source destination).2.content?
      (service.brings x s replies (.moveFile source destination)) := by
  cases service with
  | http => exact effect_readOnly rfl
  | iscsi => exact effect_readOnly rfl
  | nfs volume m =>
      refine effect_ofTree (fun t' hresult => ?_) (fun e hresult p => ?_)
      · have hmove := nfsMoveFile_eq_ok hresult
        have hbrought (p : AbsPath) :
            FileRequest.bringsToTree (s.treeOf volume m) m.root (.moveFile source destination) p
              = (s.treeOf volume m).moved (m.root.resolveFrom (lstripSlash source))
                  (m.root.resolveFrom (lstripSlash destination)) p := by
          unfold FileRequest.bringsToTree
          simp [hresult]
        -- what is there afterwards was moved or there before, and what was moved is there
        constructor
        · intro p c h
          rw [hbrought]
          exact Tree.content?_move hmove h
        · intro p c h
          rw [hbrought] at h
          exact Tree.content?_move_of hmove h
      · unfold FileRequest.bringsToTree
        simp [hresult]
  | s3 bucket =>
      exact effect_setBucket (effect_s3MoveFile source destination)

theorem effect_deleteFiles (service : BackendService) (paths : List Text) :
    Effect s.content? (service.deleteFiles x s replies paths).2.content?
      (service.brings x s replies (.deleteFiles paths)) := by
  cases service with
  | http => exact effect_readOnly rfl
  | iscsi => exact effect_readOnly rfl
  | nfs volume m =>
      refine effect_setTree (Effect.none (fun p c h => ?_) (fun p => rfl))
      exact content?_nfsDeleteFiles paths 0 _ h
  | s3 bucket =>
      refine effect_setBucket (Effect.none (fun name c h => ?_) (fun name => rfl))
      exact s3DeleteFiles_some paths 0 _ h

/-- An upload that fails brings nothing. -/
theorem brings_uploadFile_error {service : BackendService} {path filename : Text} {content : Bytes}
    {expected : Option Text} {e : StorageExn}
    (h : (service.uploadFile x s replies path filename content).1 = .error e) (loc : Loc) :
    service.brings x s replies (.uploadFile path filename content expected) loc = none := by
  cases service with
  | http => rfl
  | iscsi => rfl
  | nfs volume m =>
      rw [BackendService.uploadFile] at h
      cases hresult : nfsUploadFile (s.treeOf volume m) m.root path filename content with
      | ok t' =>
          rw [hresult] at h
          cases h
      | error e =>
          cases loc with
          | object bucket name => rfl
          | file volume' p =>
              unfold BackendService.brings FileRequest.bringsToTree
              simp [hresult]
  | s3 bucket =>
      rw [BackendService.uploadFile] at h
      cases hresult : s3UploadFile x (s.buckets bucket) replies path filename content with
      | ok objects =>
          rw [hresult] at h
          cases h
      | error e =>
          cases loc with
          | file volume p => rfl
          | object bucket' name =>
              unfold BackendService.brings FileRequest.bringsToBucket
              simp [hresult]

end Services

/-! ## §4. The record of an upload names its file. -/

section Own

variable {x : Externals} {s : StorageState} {replies : S3Replies} {path filename : Text}
  {content : Bytes}

theorem names_checksumPath (path filename : Text) :
    AbsPath.names (checksumPath path filename)
      = AbsPath.names path ++ AbsPath.names filename := by
  -- slashes at the ends of a path add no names to it
  have hfile : AbsPath.names (rstripSlash path ++ '/' :: filename)
      = AbsPath.names path ++ AbsPath.names filename := by
    rw [AbsPath.names_append, AbsPath.names_rstripSlash]
  unfold checksumPath
  dsimp only
  split
  next => exact hfile
  next =>
    rw [← hfile]
    exact AbsPath.names_append [] _

/-- A path without two dots leads down along its names. -/
theorem parts_resolveFrom_lstripSlash (root : AbsPath) (h : hasDots path = false) :
    (root.resolveFrom (lstripSlash path)).parts = root.parts ++ AbsPath.names path := by
  have hdots : ¬ ['.', '.'] <:+: lstripSlash path := by
    intro hinfix
    have hwhole : ['.', '.'] <:+: path := hinfix.trans (List.dropWhile_suffix _).isInfix
    exact of_decide_eq_false h hwhole
  rw [AbsPath.parts_resolveFrom_names root hdots, AbsPath.names_lstripSlash]

theorem parts_targetFile (dir : AbsPath) (hslash : '/' ∉ filename)
    (hdots : hasDots filename = false) :
    (targetFile dir filename).parts = dir.parts ++ AbsPath.names filename := by
  unfold targetFile
  rw [AbsPath.names_of_no_slash hslash]
  by_cases hname : isName filename = true
  · rw [AbsPath.parts_enter_name hname, if_pos hname]
  · have hne : filename ≠ ['.', '.'] := by
      rintro rfl
      cases hdots
    unfold AbsPath.enter
    rw [dif_neg hname, if_neg hne, if_neg hname, List.append_nil]

/-- On an NFS server, by the names in the path. -/
theorem resolveFrom_checksumPath (root : AbsPath) (hpath : hasDots path = false)
    (hslash : '/' ∉ filename) (hdots : hasDots filename = false)
    (hrecord : hasDots (checksumPath path filename) = false) :
    root.resolveFrom (lstripSlash (checksumPath path filename))
      = targetFile (root.resolveFrom (lstripSlash path)) filename := by
  refine AbsPath.ext ?_
  rw [parts_resolveFrom_lstripSlash root hrecord, names_checksumPath,
    parts_targetFile _ hslash hdots, parts_resolveFrom_lstripSlash root hpath,
    List.append_assoc]

theorem lstripSlash_append (text rest : Text) :
    lstripSlash (text ++ '/' :: rest)
      = if lstripSlash text = [] then lstripSlash rest else lstripSlash text ++ '/' :: rest := by
  unfold lstripSlash
  rw [List.dropWhile_append]
  simp only [List.isEmpty_iff]
  rfl

theorem rstripSlash_cons (c : Char) (text : Text) :
    rstripSlash (c :: text)
      = if rstripSlash text = [] ∧ c = '/' then [] else c :: rstripSlash text := by
  unfold rstripSlash
  rw [List.reverse_cons, List.dropWhile_append]
  simp only [List.isEmpty_iff, List.reverse_eq_nil_iff]
  by_cases hrest : List.dropWhile (fun c => decide (c = '/')) text.reverse = []
  · by_cases hc : c = '/'
    · simp [hrest, hc]
    · simp [hrest, hc]
  · simp [hrest]

theorem rstripSlash_lstripSlash (text : Text) :
    rstripSlash (lstripSlash text) = lstripSlash (rstripSlash text) := by
  induction text with
  | nil => rfl
  | cons c text ih =>
      by_cases hc : c = '/'
      · have hleft : lstripSlash (c :: text) = lstripSlash text :=
          List.dropWhile_cons_of_pos (by simpa using hc)
        rw [hleft, ih, rstripSlash_cons]
        split
        next h => rw [h.1]
        next => exact (List.dropWhile_cons_of_pos (by simpa using hc)).symm
      · have hstays (rest : Text) : lstripSlash (c :: rest) = c :: rest :=
          List.dropWhile_cons_of_neg (by simpa using hc)
        rw [hstays, rstripSlash_cons, if_neg (fun h => hc h.2), hstays]

/-- In a bucket, by the key. -/
theorem lstripSlash_checksumPath
    (hserved : servedPath (checksumPath path filename) = checksumPath path filename) :
    lstripSlash (checksumPath path filename) = s3UploadKey path filename := by
  have hstrip : lstripSlash (checksumPath path filename)
      = if lstripSlash (rstripSlash path) = [] then lstripSlash filename
        else lstripSlash (rstripSlash path) ++ '/' :: filename := by
    unfold checksumPath
    dsimp only
    split
    next => exact lstripSlash_append _ _
    next => exact lstripSlash_append _ _
  unfold s3UploadKey
  dsimp only
  -- the two differ only for an upload to the top, of a file name that begins with a slash
  rw [rstripSlash_lstripSlash, hstrip]
  by_cases hbase : lstripSlash (rstripSlash path) = []
  · rw [if_pos hbase] at hstrip ⊢
    rw [if_neg (fun hne => hne hbase)]
    -- nothing can be stripped from a path that is served
    have hlength : filename.length ≤ (lstripSlash filename).length := by
      have hpath : '/' :: lstripSlash filename = checksumPath path filename := by
        rw [← hstrip]
        exact hserved
      have hle : filename.length + 1 ≤ (checksumPath path filename).length := by
        unfold checksumPath
        dsimp only
        split
        next => simp
        next => simp; omega
      rw [← hpath, List.length_cons] at hle
      omega
    exact (List.dropWhile_suffix _).eq_of_length_le hlength
  · rw [if_neg hbase, if_pos hbase]

/-- **THE RECORD OF AN UPLOAD NAMES THE FILE** that it has written. -/
theorem locate_checksumPath {service : BackendService} (expected : Option Text)
    (hok : (service.uploadFile x s replies path filename content).1 = .ok ())
    (hserved : servedPath (checksumPath path filename) = checksumPath path filename) {loc : Loc}
    (hloc : service.locate x (checksumPath path filename) = some loc) :
    service.brings x s replies (.uploadFile path filename content expected) loc = some content := by
  cases service with
  | http => cases hloc
  | iscsi => cases hloc
  | nfs volume m =>
      rw [BackendService.locate] at hloc
      split at hloc
      next => cases hloc
      next hrecord =>
        obtain rfl := Option.some.inj hloc
        rw [BackendService.uploadFile] at hok
        cases hresult : nfsUploadFile (s.treeOf volume m) m.root path filename content with
        | error e =>
            rw [hresult] at hok
            cases hok
        | ok t' =>
            obtain ⟨hpath, hslash, hdots, -⟩ := nfsUploadFile_eq_ok hresult
            -- the checks of the upload exclude the names that resolve elsewhere
            rw [resolveFrom_checksumPath m.root hpath hslash hdots (by simpa using hrecord)]
            unfold BackendService.brings FileRequest.bringsToTree
            simp [hresult]
  | s3 bucket =>
      rw [BackendService.locate] at hloc
      split at hloc
      next => cases hloc
      next =>
        obtain rfl := Option.some.inj hloc
        rw [BackendService.uploadFile] at hok
        cases hresult : s3UploadFile x (s.buckets bucket) replies path filename content with
        | error e =>
            rw [hresult] at hok
            cases hok
        | ok objects =>
            -- the key of the object is the path of the record without its slash
            rw [lstripSlash_checksumPath hserved]
            unfold BackendService.brings FileRequest.bringsToBucket
            simp [hresult]

end Own

end PureBoot.Storage
