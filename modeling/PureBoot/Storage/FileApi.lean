/-
  PureBoot.Storage.FileApi — storage BACKENDS, the file API and the serving of boot files.

  Embeds the file operations of `core/storage.py` (NFS and S3; HTTP and iSCSI backends are
  read-only), the handlers `upload_file`, `delete_files`, `create_folder` and `move_file` of
  `api/routes/files.py` with their request bodies, and `serve_boot_file` of
  `api/routes/boot_files.py`.

  The contents are in the storage: an NFS server is a tree of files without links, of which
  a backend mounts an export; an S3 bucket is a map from objects to contents.  Several
  backends may share a server or a bucket.  An operation of an NFS backend whose export
  cannot be mounted goes on in the directory of the mount point, which is a tree of its own.
  The checksums are in the database, by backend and by the text of a path.

  What is not in the code is a parameter: the hash, how the text of a key becomes an object
  of the bucket, the replies of the S3 server, and whether an export is mounted.
-/
import PureBoot.Lib.Table
import PureBoot.Lib.Tree

namespace PureBoot.Storage

open PureBoot.Lib

/-! ## §1. Backends and checksums. -/

abbrev Bytes : Type := List UInt8

abbrev Text : Type := List Char

/-- `hexdigest()` of SHA-256. -/
structure Digest where
  text : Text
  length : text.length = 64
  deriving DecidableEq

/-- What the code calls and does not define. -/
structure Externals where
  sha256 : Bytes → Digest
  /-- The object that the URL of a key names. -/
  objectAt : Text → Text
  /-- The object that the `x-amz-copy-source` of a key names. -/
  copySource : Text → Text

inductive BackendKind where
  | nfs (server : Nat) (exportPath : AbsPath)
  | http
  | s3 (bucket : Nat)
  | iscsi

structure StorageBackend where
  id : String
  kind : BackendKind

/-- A tree of files: that of an NFS server, or what the host has in the directory of a mount
point, seen from there. -/
inductive Volume where
  | server (server : Nat)
  | mountDir (backendId : String)
  deriving DecidableEq

/-- `self.mount_point`; `mounted` is `os.path.ismount`, after `mount()` was tried. -/
structure MountPoint where
  root : AbsPath
  mounted : Bool

/-- What `get_backend_service` makes of a backend. -/
inductive BackendService where
  | nfs (volume : Volume) (mount : MountPoint)
  | http
  | s3 (bucket : Nat)
  | iscsi

/-- The service of a backend, as an operation finds it: a `mount()` that fails is logged, and
the operation goes on. -/
def StorageBackend.service (b : StorageBackend) (mounted : Bool) : BackendService :=
  match b.kind with
  | .nfs server exportPath =>
      if mounted then .nfs (.server server) ⟨exportPath, true⟩
      else .nfs (.mountDir b.id) ⟨AbsPath.top, false⟩
  | .http => .http
  | .s3 bucket => .s3 bucket
  | .iscsi => .iscsi

/-- `db/models.py: FileChecksum`. -/
structure FileChecksum where
  backendId : String
  filePath : Text
  checksumSha256 : Digest
  sizeBytes : Nat

/-- `uq_backend_file_path`. -/
def FileChecksum.key (r : FileChecksum) : String × Text := (r.backendId, r.filePath)

structure StorageState where
  backends : Table StorageBackend.id
  trees : Volume → Lib.Tree Bytes
  buckets : Nat → Text → Option Bytes
  checksums : Table FileChecksum.key := Table.empty

def StorageState.setTree (s : StorageState) (volume : Volume) (t : Lib.Tree Bytes) :
    StorageState :=
  { s with trees := Function.update s.trees volume t }

/-- The tree that an operation works on; `mount()` makes the directory of the mount point
before it mounts anything there. -/
def StorageState.treeOf (s : StorageState) (volume : Volume) (m : MountPoint) : Lib.Tree Bytes :=
  if m.mounted then s.trees volume else (s.trees volume).withDirs m.root

def StorageState.setBucket (s : StorageState) (bucket : Nat) (objects : Text → Option Bytes) :
    StorageState :=
  { s with buckets := Function.update s.buckets bucket objects }

/-- The exceptions of a storage service. -/
inductive StorageExn where
  | fileNotFoundError (text : String)
  | valueError (text : String)
  /-- Any other `OSError`. -/
  | osError

inductive Exn where
  /-- `HTTPException(status_code, detail)`. -/
  | http (statusCode : Nat) (detail : String)
  /-- An exception that the handler does not catch. -/
  | internal

/-- `".." in text`. -/
def hasDots (text : Text) : Bool := decide (['.', '.'] <:+: text)

/-! ## §2. NFS. -/

/-- `_validate_path`; without links no path is outside the root. -/
def validatePath (root : AbsPath) (path : Text) : Except StorageExn AbsPath :=
  if hasDots path then .error (.valueError "Path traversal not allowed")
  else .ok (root.resolveFrom (lstripSlash path))

def nfsDownloadFile (t : Lib.Tree Bytes) (root : AbsPath) (path : Text) :
    Except StorageExn Bytes := do
  let target ← validatePath root path
  match t target with
  | none => .error (.fileNotFoundError ("File not found: " ++ String.ofList path))
  | some .dir => .error (.valueError ("Not a file: " ++ String.ofList path))
  | some (.file content) => .ok content

/-- The file that an upload writes to. -/
def targetFile (targetDir : AbsPath) (filename : Text) : AbsPath := targetDir.enter filename

def nfsUploadFile (t : Lib.Tree Bytes) (root : AbsPath) (path filename : Text) (content : Bytes) :
    Except StorageExn (Lib.Tree Bytes) := do
  let targetDir ← validatePath root path
  if (t targetDir).isNone then
    .error (.fileNotFoundError ("Directory not found: " ++ String.ofList path))
  else if filename.contains '/' || hasDots filename then .error (.valueError "Invalid filename")
  else
    match t.write (targetFile targetDir filename) content with
    | some t' => .ok t'
    | none => .error .osError

/-- `delete_files`; what was deleted before an error stays deleted. -/
def nfsDeleteFiles (m : MountPoint) :
    List Text → Nat → Lib.Tree Bytes → Except StorageExn Nat × Lib.Tree Bytes
  | [], deleted, t => (.ok deleted, t)
  | path :: paths, deleted, t =>
      match validatePath m.root path with
      | .error e => (.error e, t)
      | .ok target =>
          match t target with
          | none => nfsDeleteFiles m paths deleted t
          | some .dir =>
              -- a mount point is emptied, but it is busy
              if target = m.root ∧ m.mounted = true then
                (.error .osError, Function.update (t.removeAll target) target (some .dir))
              else nfsDeleteFiles m paths (deleted + 1) (t.removeAll target)
          | some (.file _) =>
              match t.unlink target with
              | some t' => nfsDeleteFiles m paths (deleted + 1) t'
              | none => (.error .osError, t)

def nfsCreateFolder (t : Lib.Tree Bytes) (root : AbsPath) (path : Text) :
    Except StorageExn (Lib.Tree Bytes) := do
  let target ← validatePath root path
  if (t target).isSome then
    .error (.valueError ("Path already exists: " ++ String.ofList path))
  else
    match t.mkdirs target with
    | some t' => .ok t'
    | none => .error .osError

/-- The exception of a move that fails: a file is copied to a directory that is not there. -/
def moveError (t : Lib.Tree Bytes) (src dst : AbsPath) : StorageExn :=
  if t.isFileAt src && (t dst.parent).isNone && !t.blockedAt dst.parent then
    .fileNotFoundError "No such file or directory"
  else .osError

def nfsMoveFile (t : Lib.Tree Bytes) (root : AbsPath) (source destination : Text) :
    Except StorageExn (Lib.Tree Bytes) := do
  let src ← validatePath root source
  let dst ← validatePath root destination
  if (t src).isNone then
    .error (.fileNotFoundError ("Source not found: " ++ String.ofList source))
  else if (t dst).isSome then
    .error (.valueError ("Destination already exists: " ++ String.ofList destination))
  else
    match t.move src dst with
    | some t' => .ok t'
    | none => .error (moveError t src dst)

/-! ## §3. S3. -/

inductive S3Reply where
  | status (code : Nat)
  /-- `aiohttp.ClientError`. -/
  | clientError (text : String)

def S3Reply.accepted : S3Reply → Bool
  | status code => code < 400
  | clientError _ => false

/-- The texts of the exceptions after a request that was not accepted. -/
structure S3Texts where
  error : String
  failed : String

def S3Reply.exn (texts : S3Texts) : S3Reply → StorageExn
  | status code => .valueError (texts.error ++ toString code)
  | clientError text => .valueError (texts.failed ++ text)

/-- What the server answers during a call; it does what it accepts. -/
structure S3Replies where
  put : S3Reply := .status 200
  delete : Text → S3Reply := fun _ => .status 204

section S3

variable (x : Externals) (objects : Text → Option Bytes) (replies : S3Replies)

/-- The bucket itself is no object. -/
def s3DownloadFile (path : Text) : Except StorageExn Bytes :=
  if hasDots path then .error (.valueError "Path traversal not allowed")
  else if lstripSlash path = [] then .error (.valueError "S3 error: 400")
  else
    match objects (x.objectAt (lstripSlash path)) with
    | none => .error (.fileNotFoundError ("File not found: " ++ String.ofList path))
    | some content => .ok content

/-- The key of an upload. -/
def s3UploadKey (path filename : Text) : Text :=
  let base := rstripSlash (lstripSlash path)
  if base ≠ [] then base ++ '/' :: filename else filename

/-- An object is stored under a key; without a key there is none. -/
def s3Put (texts : S3Texts) (key : Text) (content : Bytes) :
    Except StorageExn (Text → Option Bytes) :=
  if key = [] then .error ((S3Reply.status 400).exn texts)
  else if replies.put.accepted then
    .ok (Function.update objects (x.objectAt key) (some content))
  else .error (replies.put.exn texts)

def s3UploadFile (path filename : Text) (content : Bytes) :
    Except StorageExn (Text → Option Bytes) :=
  if hasDots path || hasDots filename then .error (.valueError "Path traversal not allowed")
  else
    s3Put x objects replies ⟨"S3 upload error: ", "S3 upload failed: "⟩
      (s3UploadKey path filename) content

/-- The object of a key is deleted, if the server accepts that. -/
def s3Delete (path : Text) : Text → Option Bytes :=
  if lstripSlash path ≠ [] && (replies.delete path).accepted then
    Function.update objects (x.objectAt (lstripSlash path)) none
  else objects

/-- `delete_files`: a path with two dots is passed over, and so is an error. -/
def s3DeleteFiles (x : Externals) (replies : S3Replies) :
    List Text → Nat → (Text → Option Bytes) → Nat × (Text → Option Bytes)
  | [], deleted, objects => (deleted, objects)
  | path :: paths, deleted, objects =>
      if hasDots path then s3DeleteFiles x replies paths deleted objects
      else
        s3DeleteFiles x replies paths
          (if (replies.delete path).accepted then deleted + 1 else deleted)
          (s3Delete x objects replies path)

def s3FolderKey (path : Text) : Text := rstripSlash (lstripSlash path) ++ ['/']

def s3CreateFolder (path : Text) : Except StorageExn (Text → Option Bytes) :=
  if hasDots path then .error (.valueError "Path traversal not allowed")
  else
    s3Put x objects replies ⟨"S3 create folder error: ", "S3 create folder failed: "⟩
      (s3FolderKey path) []

/-- `move_file`: the object is copied, also over another one, and then deleted. -/
def s3MoveFile (source destination : Text) :
    Except StorageExn Unit × (Text → Option Bytes) :=
  if hasDots source || hasDots destination then
    (.error (.valueError "Path traversal not allowed"), objects)
  else
    match objects (x.copySource (lstripSlash source)) with
    | none => (.error (.valueError "S3 copy error: 404"), objects)
    | some content =>
        match s3Put x objects replies ⟨"S3 copy error: ", "S3 move failed: "⟩
            (lstripSlash destination) content with
        | .error e => (.error e, objects)
        | .ok copied =>
            match replies.delete source with
            | .clientError text => (.error (.valueError ("S3 move failed: " ++ text)), copied)
            | .status _ => (.ok (), s3Delete x copied replies source)

end S3

/-! ## §4. Services. -/

namespace BackendService

def supportsWrite : BackendService → Bool
  | nfs .. => true
  | http => false
  | s3 _ => true
  | iscsi => false

def readOnlyHttp : StorageExn := .valueError "HTTP backends are read-only"

def blockStorage : StorageExn :=
  .valueError "iSCSI is block storage - file operations not applicable"

/-- `download_file`; what a remote HTTP server answers is given. -/
def downloadFile (x : Externals) (s : StorageState) (path : Text)
    (remote : Except StorageExn Bytes) : BackendService → Except StorageExn Bytes
  | nfs volume m => nfsDownloadFile (s.treeOf volume m) m.root path
  | http => if hasDots path then .error (.valueError "Path traversal not allowed") else remote
  | s3 bucket => s3DownloadFile x (s.buckets bucket) path
  | iscsi => .error blockStorage

/-- What an operation of a service gives, and the storage then. -/
abbrev Outcome (α : Type) : Type := Except StorageExn α × StorageState

/-- A service that has made a new tree, or has failed. -/
def ofTree (s : StorageState) (volume : Volume) (m : MountPoint) :
    Except StorageExn (Lib.Tree Bytes) → Outcome Unit
  | .ok t => (.ok (), s.setTree volume t)
  | .error e => (.error e, s.setTree volume (s.treeOf volume m))

/-- A service that has changed its bucket. -/
def ofBucket (s : StorageState) (bucket : Nat) :
    Except StorageExn (Text → Option Bytes) → Outcome Unit
  | .ok objects => (.ok (), s.setBucket bucket objects)
  | .error e => (.error e, s)

def uploadFile (x : Externals) (s : StorageState) (replies : S3Replies) (path filename : Text)
    (content : Bytes) : BackendService → Outcome Unit
  | nfs volume m =>
      ofTree s volume m (nfsUploadFile (s.treeOf volume m) m.root path filename content)
  | http => (.error readOnlyHttp, s)
  | s3 bucket =>
      ofBucket s bucket (s3UploadFile x (s.buckets bucket) replies path filename content)
  | iscsi => (.error blockStorage, s)

def deleteFiles (x : Externals) (s : StorageState) (replies : S3Replies) (paths : List Text) :
    BackendService → Outcome Nat
  | nfs volume m =>
      let result := nfsDeleteFiles m paths 0 (s.treeOf volume m)
      (result.1, s.setTree volume result.2)
  | http => (.error readOnlyHttp, s)
  | s3 bucket =>
      let result := s3DeleteFiles x replies paths 0 (s.buckets bucket)
      (.ok result.1, s.setBucket bucket result.2)
  | iscsi => (.error blockStorage, s)

def createFolder (x : Externals) (s : StorageState) (replies : S3Replies) (path : Text) :
    BackendService → Outcome Unit
  | nfs volume m => ofTree s volume m (nfsCreateFolder (s.treeOf volume m) m.root path)
  | http => (.error readOnlyHttp, s)
  | s3 bucket => ofBucket s bucket (s3CreateFolder x (s.buckets bucket) replies path)
  | iscsi => (.error blockStorage, s)

def moveFile (x : Externals) (s : StorageState) (replies : S3Replies) (source destination : Text) :
    BackendService → Outcome Unit
  | nfs volume m =>
      ofTree s volume m (nfsMoveFile (s.treeOf volume m) m.root source destination)
  | http => (.error readOnlyHttp, s)
  | s3 bucket =>
      let result := s3MoveFile x (s.buckets bucket) replies source destination
      (result.1, s.setBucket bucket result.2)
  | iscsi => (.error blockStorage, s)

end BackendService

/-! ## §5. The file API. -/

inductive FileRequest where
  | uploadFile (path filename : Text) (content : Bytes) (expectedChecksum : Option Text)
  | deleteFiles (paths : List Text)
  | createFolder (path : Text)
  | moveFile (source destination : Text)

/-- A request, what an S3 server answers while it is handled, and whether the export of an NFS
backend is mounted then. -/
structure FileCall where
  backendId : String
  request : FileRequest
  replies : S3Replies := {}
  mounted : Bool := true

inductive FileAnswer where
  | uploaded (checksumSha256 : Digest)
  | deleted (count : Nat)
  | created
  | moved

/-- The validators of the request bodies. -/
def validateBodyPath (path : Text) (mustStart : String) : Except Exn Unit :=
  if path.head? ≠ some '/' then .error (.http 422 mustStart)
  else if hasDots path then .error (.http 422 "Path traversal not allowed")
  else .ok ()

def FileRequest.validate : FileRequest → Except Exn Unit
  | uploadFile .. => .ok ()
  | deleteFiles paths =>
      paths.forM (fun path =>
        validateBodyPath path ("Path must start with /: " ++ String.ofList path))
  | createFolder path => validateBodyPath path "Path must start with /"
  | moveFile source destination => do
      validateBodyPath source "Path must start with /"
      validateBodyPath destination "Path must start with /"

/-- `v.rstrip("/") or "/"`. -/
def folderPath (path : Text) : Text :=
  if rstripSlash path ≠ [] then rstripSlash path else ['/']

/-- What a handler makes of an exception of the service. -/
def StorageExn.toHttp (catchesFileNotFound : Bool) : StorageExn → Exn
  | fileNotFoundError text => if catchesFileNotFound then .http 404 text else .internal
  | valueError text => .http 400 text
  | osError => .internal

/-- The path under which `upload_file` keeps a checksum. -/
def checksumPath (path filename : Text) : Text :=
  let filePath := rstripSlash path ++ '/' :: filename
  if filePath.head? = some '/' then filePath else '/' :: filePath

/-- The checksum record that an upload writes. -/
def uploadedChecksum (x : Externals) (backendId : String) (path filename : Text)
    (content : Bytes) : FileChecksum where
  backendId := backendId
  filePath := checksumPath path filename
  checksumSha256 := x.sha256 content
  sizeBytes := content.length

/-- `expected_checksum and computed_checksum != expected_checksum.lower()`. -/
def checksumMismatch (computed : Digest) (expected : Option Text) : Bool :=
  expected.any (fun e => e ≠ [] && computed.text ≠ e.map Char.toLower)

section Handlers

variable (x : Externals) (s : StorageState) (b : StorageBackend) (mounted : Bool)
  (replies : S3Replies)

def uploadFile (path filename : Text) (content : Bytes) (expected : Option Text) :
    Except Exn FileAnswer × StorageState :=
  let computed := x.sha256 content
  if checksumMismatch computed expected then
    (.error (.http 422 ("Checksum mismatch: expected " ++ String.ofList (expected.getD [])
      ++ ", got " ++ String.ofList computed.text)), s)
  else
    match (b.service mounted).uploadFile x s replies path filename content with
    | (.ok (), s') =>
        (.ok (.uploaded computed),
          { s' with
            checksums := s'.checksums.upsert (uploadedChecksum x b.id path filename content) })
    | (.error e, s') => (.error (e.toHttp true), s')

def deleteFiles (paths : List Text) : Except Exn FileAnswer × StorageState :=
  match (b.service mounted).deleteFiles x s replies paths with
  | (.ok deleted, s') => (.ok (.deleted deleted), s')
  | (.error e, s') => (.error (e.toHttp false), s')

def createFolder (path : Text) : Except Exn FileAnswer × StorageState :=
  match (b.service mounted).createFolder x s replies (folderPath path) with
  | (.ok (), s') => (.ok .created, s')
  | (.error e, s') => (.error (e.toHttp false), s')

def moveFile (source destination : Text) : Except Exn FileAnswer × StorageState :=
  match (b.service mounted).moveFile x s replies source destination with
  | (.ok (), s') => (.ok .moved, s')
  | (.error e, s') => (.error (e.toHttp true), s')

end Handlers

/-- A call of the file API: the body is validated, the backend is looked up, and it must be
one that can be written to. -/
def FileCall.handle (x : Externals) (s : StorageState) (call : FileCall) :
    Except Exn FileAnswer × StorageState :=
  match call.request.validate with
  | .error e => (.error e, s)
  | .ok () =>
      match s.backends.get? call.backendId with
      | none => (.error (.http 404 "Backend not found"), s)
      | some b =>
          if (b.service call.mounted).supportsWrite then
            match call.request with
            | .uploadFile path filename content expected =>
                uploadFile x s b call.mounted call.replies path filename content expected
            | .deleteFiles paths => deleteFiles x s b call.mounted call.replies paths
            | .createFolder path => createFolder x s b call.mounted call.replies path
            | .moveFile source destination =>
                moveFile x s b call.mounted call.replies source destination
          else (.error (.http 400 "Backend is read-only"), s)

def StorageState.exec (x : Externals) (s : StorageState) (call : FileCall) : StorageState :=
  (call.handle x s).2

/-! ## §6. Serving boot files. -/

def getFileChecksum (s : StorageState) (backendId : String) (filePath : Text) : Option Digest :=
  (s.checksums.get? (backendId, filePath)).map FileChecksum.checksumSha256

/-- `get_default_backend`, for the id in the system settings. -/
def getDefaultBackend (s : StorageState) (defaultBootBackendId : Option String) :
    Except Exn StorageBackend :=
  match defaultBootBackendId.filter (fun id => id ≠ "") with
  | none =>
      .error (.http 503 ("No default boot backend configured. "
        ++ "Set default_boot_backend_id in system settings."))
  | some id =>
      match s.backends.get? id with
      | none => .error (.http 503 ("Default boot backend '" ++ id ++ "' not found."))
      | some b => .ok b

/-- The path that is served, in normal form. -/
def servedPath (path : Text) : Text := '/' :: lstripSlash path

/-- `serve_boot_file`: the content, and the `X-Checksum-SHA256` header, if it is sent. -/
def serveBootFile (x : Externals) (s : StorageState) (defaultBootBackendId : Option String)
    (mounted : Bool) (path : Text) (remote : Except StorageExn Bytes) :
    Except Exn (Bytes × Option Digest) := do
  let filePath := servedPath path
  let backend ← getDefaultBackend s defaultBootBackendId
  match (backend.service mounted).downloadFile x s filePath remote with
  | .error (.fileNotFoundError _) =>
      .error (.http 404 ("File not found: " ++ String.ofList filePath))
  | .error (.valueError text) => .error (.http 400 text)
  | .error .osError => .error .internal
  | .ok content =>
      let checksum := getFileChecksum s backend.id filePath
      .ok (content, checksum.filter (fun digest => digest.text ≠ []))

end PureBoot.Storage
