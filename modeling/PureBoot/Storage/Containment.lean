/-
  PureBoot.Storage.Containment — the files that a WORKFLOW id and an NFS path lead to, with
  symbolic links.

  Embeds `core/workflow_service.py: WorkflowService._validate_workflow_path` and
  `get_workflow`, and `core/storage.py: NfsBackendService._validate_path` and `download_file`.
  Both validators resolve the path that a client names and compare it with the resolved root:
  the first compares texts, the second components.

  What `json.loads` or `yaml.safe_load` and `Workflow(**data)` make of a file, and
  `mimetypes.guess_type`, are parameters.

  Main results:
    * `validateWorkflowPath_under`, `validatePath_under` — what is accepted resolves into the
      root;
    * `getWorkflow_congr`, `downloadFile_congr` — the contents elsewhere are not read;
    * `validateWorkflowPath_accepts`, `validatePath_accepts` — a plain path is accepted;
    * `paths_contained` — these together;
    * `validatePath_linkFree`, `downloadFile_linkFree` — without links, these are the operations
      of `Storage.FileApi`.
-/
import PureBoot.Lib.Links
import PureBoot.Lib.Run
import PureBoot.Storage.FileApi

namespace PureBoot.Storage

open PureBoot.Lib

/-! ## §1. The file system. -/

/-- What the system says of the directories on the way to a path. -/
inductive Reach where
  | found
  | missing
  /-- An `OSError` that `exists()` does not catch. -/
  | denied

/-- A file system with links; `tree` says what is at the paths that are no links. -/
structure Disk where
  layout : Layout
  tree : Lib.Tree Bytes
  reach : List (List Char) → Reach

/-- `os.stat(path)`; `none` if there is nothing. -/
def Disk.stat (d : Disk) (path : List (List Char)) : Except StorageExn (Option (Item Bytes)) :=
  match d.reach path with
  | .found => .ok (d.tree (d.layout.resolve path))
  | .missing => .ok none
  | .denied => .error .osError

/-- The components of `root / text`; a text that begins with a slash replaces the root. -/
def joinPath (root : List (List Char)) (text : Text) : List (List Char) :=
  if text.head? = some '/' then text.splitOn '/' else root ++ text.splitOn '/'

/-- `(root / text).resolve()`; the path of a directory has no null character. -/
def Disk.resolvePath (d : Disk) (root : List (List Char)) (text : Text) :
    Except StorageExn AbsPath :=
  if text.contains '\x00' then .error (.valueError "embedded null byte")
  else .ok (d.layout.resolve (joinPath root text))

/-! ## §2. Workflows. -/

/-- `[".json", ".yaml", ".yml"]`. -/
def workflowExtensions : List Text := [".json".toList, ".yaml".toList, ".yml".toList]

/-- The loop of `_validate_workflow_path`. -/
def Disk.findWorkflow (d : Disk) (root : List (List Char)) (workflowId : Text) :
    List Text → Except StorageExn (Option AbsPath)
  | [] => .ok none
  | ext :: exts => do
      let workflowPath ← d.resolvePath root (workflowId ++ ext)
      if ¬ (d.layout.resolve root).text ++ ['/'] <+: workflowPath.text then
        .error (.valueError ("Invalid workflow_id: " ++ String.ofList workflowId))
      else
        let item ← d.stat workflowPath.parts
        if item.isSome then .ok (some workflowPath) else d.findWorkflow root workflowId exts

/-- `_validate_workflow_path`. -/
def Disk.validateWorkflowPath (d : Disk) (root : List (List Char)) (workflowId : Text) :
    Except StorageExn (Option AbsPath) :=
  d.findWorkflow root workflowId workflowExtensions

inductive WorkflowExn where
  | workflowNotFoundError (workflowId : Text)
  /-- An exception of the validator or of the read. -/
  | path (e : StorageExn)
  /-- A `TypeError` of `Workflow(**data)`, or whatever else loading raises. -/
  | typeError

/-- What the content of a file is not. -/
inductive LoadExn where
  /-- `JSONDecodeError`, `YAMLError` or `ValueError`. -/
  | valueError
  /-- `TypeError`, or another exception that is not caught. -/
  | typeError

/-- `get_workflow`. -/
def Disk.getWorkflow {W : Type} (d : Disk) (load : AbsPath → Bytes → Except LoadExn W)
    (root : List (List Char)) (workflowId : Text) : Except WorkflowExn W :=
  match d.validateWorkflowPath root workflowId with
  | .error e => .error (.path e)
  | .ok none => .error (.workflowNotFoundError workflowId)
  | .ok (some workflowPath) =>
      match d.stat workflowPath.parts with
      | .error e => .error (.path e)
      | .ok (some (.file content)) =>
          match load workflowPath content with
          | .ok workflow => .ok workflow
          | .error .valueError => .error (.workflowNotFoundError workflowId)
          | .error .typeError => .error .typeError
      -- a directory cannot be read
      | .ok _ => .error (.path .osError)

/-! ## §3. NFS. -/

/-- `NfsBackendService._validate_path`: the path in the mount point, not resolved. -/
def Disk.validatePath (d : Disk) (mountPoint : List (List Char)) (path : Text) :
    Except StorageExn (List (List Char)) :=
  if hasDots path then .error (.valueError "Path traversal not allowed")
  else
    match d.resolvePath mountPoint (lstripSlash path) with
    | .error _ => .error (.valueError "Path outside storage root")
    | .ok resolved =>
        if AbsPath.Under (d.layout.resolve mountPoint) resolved then
          .ok (joinPath mountPoint (lstripSlash path))
        else .error (.valueError "Path outside storage root")

/-- `path.name`. -/
def pathName (path : List (List Char)) : Text :=
  (path.filter (fun c => c ≠ [] ∧ c ≠ ['.'])).getLast?.getD []

structure FileDownload where
  content : Bytes
  mimeType : String
  size : Nat

/-- `download_file`, on a mount point that is mounted. -/
def Disk.downloadFile (d : Disk) (guessType : Text → Option String)
    (mountPoint : List (List Char)) (path : Text) : Except StorageExn FileDownload := do
  let target ← d.validatePath mountPoint path
  match ← d.stat target with
  | none => .error (.fileNotFoundError ("File not found: " ++ String.ofList path))
  | some .dir => .error (.valueError ("Not a file: " ++ String.ofList path))
  | some (.file content) =>
      .ok ⟨content, (guessType (pathName target)).getD "application/octet-stream", content.length⟩

/-! ## §4. What is accepted lies in the root. -/

/-- The comparison of the texts; nothing passes it if the first path is the top. -/
theorem under_of_text_slash {p q : AbsPath} (h : p.text ++ ['/'] <+: q.text) :
    AbsPath.Under p q := by
  by_cases hp : p = AbsPath.top
  · rw [hp]
    exact List.nil_prefix
  · exact ((AbsPath.text_slash_isPrefix_iff hp q).mp h).1

section

variable {d : Disk} {root : List (List Char)} {text path : Text}

theorem Disk.resolvePath_eq_ok {p : AbsPath} (h : d.resolvePath root text = .ok p) :
    p = d.layout.resolve (joinPath root text) := by
  unfold Disk.resolvePath at h
  split at h
  next => cases h
  next => exact (Except.ok.inj h).symm

/-- What the loop finds is resolved, and lies in the root. -/
theorem Disk.findWorkflow_some {workflowId : Text} {exts : List Text} {p : AbsPath}
    (h : d.findWorkflow root workflowId exts = .ok (some p)) :
    d.layout.resolve p.parts = p ∧ AbsPath.Under (d.layout.resolve root) p := by
  induction exts with
  | nil => cases h
  | cons ext exts ih =>
      obtain ⟨resolved, hresolved, h⟩ := bind_eq_ok.mp h
      split at h
      next => cases h
      next htext =>
        obtain ⟨item, -, h⟩ := bind_eq_ok.mp h
        split at h
        next =>
          obtain rfl := Option.some.inj (Except.ok.inj h)
          rw [d.resolvePath_eq_ok hresolved] at htext ⊢
          exact ⟨d.layout.resolve_real (d.layout.real_resolve _),
            under_of_text_slash (not_not.mp htext)⟩
        next => exact ih h

/-- **A WORKFLOW'S PATH RESOLVES INTO THE ROOT.** -/
theorem Disk.validateWorkflowPath_under {workflowId : Text} {p : AbsPath}
    (h : d.validateWorkflowPath root workflowId = .ok (some p)) :
    AbsPath.Under (d.layout.resolve root) (d.layout.resolve p.parts) := by
  obtain ⟨hresolve, hunder⟩ := d.findWorkflow_some h
  rw [hresolve]
  exact hunder

/-- **AN NFS PATH RESOLVES INTO THE ROOT.** -/
theorem Disk.validatePath_under {target : List (List Char)}
    (h : d.validatePath root path = .ok target) :
    AbsPath.Under (d.layout.resolve root) (d.layout.resolve target) := by
  unfold Disk.validatePath at h
  split at h
  next => cases h
  next =>
    split at h
    next => cases h
    next resolved hresolved =>
      split at h
      next hunder =>
        obtain rfl := Except.ok.inj h
        rw [d.resolvePath_eq_ok hresolved] at hunder
        exact hunder
      next => cases h

/-! ## §5. What is elsewhere is not read. -/

variable {tree : Lib.Tree Bytes}

theorem Disk.stat_congr {target : List (List Char)}
    (h : tree (d.layout.resolve target) = d.tree (d.layout.resolve target)) :
    ({ d with tree := tree } : Disk).stat target = d.stat target := by
  unfold Disk.stat
  dsimp only
  rw [h]

theorem Disk.findWorkflow_congr (workflowId : Text)
    (h : ∀ p, AbsPath.Under (d.layout.resolve root) p → tree p = d.tree p) (exts : List Text) :
    ({ d with tree := tree } : Disk).findWorkflow root workflowId exts
      = d.findWorkflow root workflowId exts := by
  induction exts with
  | nil => rfl
  | cons ext exts ih =>
      have hresolve : ({ d with tree := tree } : Disk).resolvePath root (workflowId ++ ext)
          = d.resolvePath root (workflowId ++ ext) := rfl
      unfold Disk.findWorkflow
      rw [hresolve, ih]
      cases hresolved : d.resolvePath root (workflowId ++ ext) with
      | error e => rfl
      | ok resolved =>
          rw [ok_bind, ok_bind]
          split
          next => rfl
          next htext =>
            -- only here the contents are looked at
            have hunder := under_of_text_slash (not_not.mp htext)
            rw [d.resolvePath_eq_ok hresolved] at hunder ⊢
            rw [Disk.stat_congr]
            rw [d.layout.resolve_real (d.layout.real_resolve _)]
            exact h _ hunder

/-- **`get_workflow` READS NO FILE OUTSIDE THE ROOT.** -/
theorem Disk.getWorkflow_congr {W : Type} (load : AbsPath → Bytes → Except LoadExn W)
    (workflowId : Text)
    (h : ∀ p, AbsPath.Under (d.layout.resolve root) p → tree p = d.tree p) :
    ({ d with tree := tree } : Disk).getWorkflow load root workflowId
      = d.getWorkflow load root workflowId := by
  unfold Disk.getWorkflow
  have hvalidate : ({ d with tree := tree } : Disk).validateWorkflowPath root workflowId
      = d.validateWorkflowPath root workflowId :=
    Disk.findWorkflow_congr workflowId h workflowExtensions
  rw [hvalidate]
  cases hpath : d.validateWorkflowPath root workflowId with
  | error e => rfl
  | ok found =>
      cases found with
      | none => rfl
      | some p =>
          have hstat : ({ d with tree := tree } : Disk).stat p.parts = d.stat p.parts :=
            Disk.stat_congr (h _ (d.validateWorkflowPath_under hpath))
          simp only [hstat]

/-- **AN NFS DOWNLOAD READS NO FILE OUTSIDE THE ROOT.** -/
theorem Disk.downloadFile_congr (guessType : Text → Option String) (path : Text)
    (h : ∀ p, AbsPath.Under (d.layout.resolve root) p → tree p = d.tree p) :
    ({ d with tree := tree } : Disk).downloadFile guessType root path
      = d.downloadFile guessType root path := by
  have hvalidate : ({ d with tree := tree } : Disk).validatePath root path
      = d.validatePath root path := rfl
  unfold Disk.downloadFile
  rw [hvalidate]
  cases htarget : d.validatePath root path with
  | error e => rfl
  | ok target =>
      have hstat : ({ d with tree := tree } : Disk).stat target = d.stat target :=
        Disk.stat_congr (h _ (d.validatePath_under htarget))
      rw [ok_bind, ok_bind, hstat]

/-! ## §6. What is plain is accepted. -/

/-- A validator rejects with a `ValueError`. -/
def Rejects {α : Type*} (result : Except StorageExn α) : Prop :=
  ∃ text, result = .error (.valueError text)

/-- The extensions that are tried: up to the first that is there. -/
def Disk.tried (d : Disk) (root : List (List Char)) (workflowId : Text) : List Text → List Text
  | [] => []
  | ext :: exts =>
      match d.stat (d.layout.resolve (joinPath root (workflowId ++ ext))).parts with
      | .ok none => ext :: d.tried root workflowId exts
      | _ => [ext]

theorem not_dots_of_hasDots {t : Text} (h : hasDots t = false) : ['.', '.'] ∉ t.splitOn '/' := by
  intro hmem
  exact of_decide_eq_false h (AbsPath.infix_of_mem_splitOn hmem)

/-- An extension does not make a component into `..`. -/
theorem not_dots_append {workflowId ext : Text} (hdots : hasDots workflowId = false)
    (hslash : '/' ∉ ext) (hlength : 2 < ext.length) :
    ['.', '.'] ∉ (workflowId ++ ext).splitOn '/' := by
  obtain ⟨init, last, hsplit, hsplitExt⟩ := splitOn_append_of_not_mem hslash workflowId
  have hinit := not_dots_of_hasDots hdots
  rw [hsplit, List.mem_append, not_or] at hinit
  rw [hsplitExt, List.mem_append, not_or]
  refine ⟨hinit.1, fun hlast => ?_⟩
  have heq : ['.', '.'] = last ++ ext := List.mem_singleton.mp hlast
  have hlengths := congrArg List.length heq
  rw [List.length_append] at hlengths
  simp only [List.length_cons, List.length_nil] at hlengths
  omega

/-- A text that names a path below the resolved root and meets no link there. -/
theorem resolve_joinPath (l : Layout) (root : List (List Char)) {t : Text}
    (hdots : ['.', '.'] ∉ t.splitOn '/')
    (hunder : AbsPath.Under (l.resolve root) ((l.resolve root).join t))
    (hfree : Free l.links (l.resolve root) ((l.resolve root).join t)) :
    l.resolve (joinPath root t) = (l.resolve root).join t := by
  unfold AbsPath.join at hunder hfree ⊢
  unfold joinPath
  by_cases hslash : t.head? = some '/'
  · rw [if_pos hslash] at hunder hfree ⊢
    rw [if_pos hslash]
    refine l.resolve_eq (leads_of_free hdots (fun q hinside hq => ?_))
    -- what is on the way is above the root, or below it
    rcases List.prefix_or_prefix_of_prefix hq hunder with habove | hbelow
    · exact l.real_resolve root q habove hinside.2.symm
    · by_cases heq : l.resolve root = q
      · exact heq ▸ l.real_resolve root q (heq ▸ List.prefix_refl _) hinside.2.symm
      · exact hfree q ⟨hbelow, heq⟩ hq
  · rw [if_neg hslash] at hunder hfree ⊢
    rw [if_neg hslash]
    exact l.resolve_append_of_free hdots hfree

theorem head?_lstripSlash (path : Text) : (lstripSlash path).head? ≠ some '/' := by
  unfold lstripSlash
  intro h
  have hhead := List.head?_dropWhile_not (fun c => decide (c = '/')) path
  rw [h] at hhead
  simp at hhead

section

variable {d : Disk} {root : List (List Char)}

theorem Disk.resolvePath_of_free {t : Text} (hnul : '\x00' ∉ t)
    (hdots : ['.', '.'] ∉ t.splitOn '/')
    (hunder : AbsPath.Under (d.layout.resolve root) ((d.layout.resolve root).join t))
    (hfree : Free d.layout.links (d.layout.resolve root) ((d.layout.resolve root).join t)) :
    d.resolvePath root t = .ok ((d.layout.resolve root).join t) := by
  unfold Disk.resolvePath
  rw [if_neg (by simpa using hnul), resolve_joinPath d.layout root hdots hunder hfree]

theorem Disk.findWorkflow_accepts {workflowId : Text} {exts : List Text}
    (hroot : d.layout.resolve root ≠ AbsPath.top) (hdots : hasDots workflowId = false)
    (hnul : '\x00' ∉ workflowId)
    (hexts : ∀ ext ∈ exts, '/' ∉ ext ∧ '\x00' ∉ ext ∧ 2 < ext.length)
    (h : ∀ ext ∈ d.tried root workflowId exts,
      AbsPath.Inside (d.layout.resolve root) ((d.layout.resolve root).join (workflowId ++ ext)) ∧
      Free d.layout.links (d.layout.resolve root)
        ((d.layout.resolve root).join (workflowId ++ ext))) :
    ¬ Rejects (d.findWorkflow root workflowId exts) := by
  induction exts with
  | nil =>
      rintro ⟨text, herror⟩
      cases herror
  | cons ext exts ih =>
      obtain ⟨hslash, hnulExt, hlength⟩ := hexts ext List.mem_cons_self
      have hfirst : ext ∈ d.tried root workflowId (ext :: exts) := by
        unfold Disk.tried
        split
        next => exact List.mem_cons_self
        next => exact List.mem_cons_self
      obtain ⟨hinside, hfree⟩ := h ext hfirst
      have hnulText : '\x00' ∉ workflowId ++ ext := by
        rw [List.mem_append, not_or]
        exact ⟨hnul, hnulExt⟩
      have hdotsText := not_dots_append hdots hslash hlength
      have hresolve := resolve_joinPath d.layout root hdotsText hinside.1 hfree
      have hpath := d.resolvePath_of_free hnulText hdotsText hinside.1 hfree
      have htext := (AbsPath.text_slash_isPrefix_iff hroot _).mpr hinside
      unfold Disk.findWorkflow
      rw [hpath, ok_bind, if_neg (not_not.mpr htext)]
      unfold Disk.tried at h
      rw [hresolve] at h
      cases hstat : d.stat ((d.layout.resolve root).join (workflowId ++ ext)).parts with
      | error e =>
          -- `stat` has no other error than that of the system
          have he : e = .osError := by
            unfold Disk.stat at hstat
            split at hstat
            next => cases hstat
            next => cases hstat
            next => exact (Except.error.inj hstat).symm
          rintro ⟨text, herror⟩
          rw [he] at herror
          cases herror
      | ok item =>
          rw [ok_bind]
          cases item with
          | some item =>
              rintro ⟨text, herror⟩
              cases herror
          | none =>
              rw [hstat] at h
              refine ih (fun ext hmem => hexts ext (List.mem_cons_of_mem _ hmem)) ?_
              exact fun ext hmem => h ext (List.mem_cons_of_mem _ hmem)

/-- **A PLAIN WORKFLOW ID IS ACCEPTED.** -/
theorem Disk.validateWorkflowPath_accepts {workflowId : Text}
    (hroot : d.layout.resolve root ≠ AbsPath.top) (hdots : hasDots workflowId = false)
    (hnul : '\x00' ∉ workflowId)
    (h : ∀ ext ∈ d.tried root workflowId workflowExtensions,
      AbsPath.Inside (d.layout.resolve root) ((d.layout.resolve root).join (workflowId ++ ext)) ∧
      Free d.layout.links (d.layout.resolve root)
        ((d.layout.resolve root).join (workflowId ++ ext))) :
    ¬ Rejects (d.validateWorkflowPath root workflowId) :=
  Disk.findWorkflow_accepts hroot hdots hnul (by decide) h

theorem hasDots_lstripSlash {path : Text} (h : hasDots path = false) :
    hasDots (lstripSlash path) = false := by
  refine decide_eq_false (fun hinfix => of_decide_eq_false h ?_)
  exact hinfix.trans (List.dropWhile_suffix _).isInfix

theorem under_join_lstripSlash {p : AbsPath} {path : Text} (h : hasDots path = false) :
    AbsPath.Under p (p.join (lstripSlash path)) := by
  unfold AbsPath.join
  rw [if_neg (head?_lstripSlash path)]
  exact under_foldl_enter (not_dots_of_hasDots (hasDots_lstripSlash h)) p

/-- **A PLAIN NFS PATH IS ACCEPTED.** -/
theorem Disk.validatePath_accepts {path : Text} (hdots : hasDots path = false)
    (hnul : '\x00' ∉ path)
    (hfree : Free d.layout.links (d.layout.resolve root)
      ((d.layout.resolve root).join (lstripSlash path))) :
    d.validatePath root path = .ok (joinPath root (lstripSlash path)) := by
  have hnulText : '\x00' ∉ lstripSlash path :=
    fun h => hnul ((List.dropWhile_suffix _).subset h)
  have hunder : AbsPath.Under (d.layout.resolve root)
      ((d.layout.resolve root).join (lstripSlash path)) := under_join_lstripSlash hdots
  unfold Disk.validatePath
  rw [if_neg (by simp [hdots]), d.resolvePath_of_free hnulText
    (not_dots_of_hasDots (hasDots_lstripSlash hdots)) hunder hfree]
  exact if_pos hunder

end

/-! ## §7. Without links. -/

theorem Disk.resolve_joinPath_linkFree {d : Disk} (hlayout : d.layout = Layout.linkFree)
    (mountPoint : AbsPath) {path : Text} (hdots : hasDots path = false) :
    d.layout.resolve (joinPath mountPoint.parts (lstripSlash path))
      = mountPoint.resolveFrom (lstripSlash path) := by
  have hmount : d.layout.resolve mountPoint.parts = mountPoint :=
    d.layout.resolve_real (fun q _ _ => by rw [hlayout]; rfl)
  have hresolve := resolve_joinPath d.layout mountPoint.parts
    (not_dots_of_hasDots (hasDots_lstripSlash hdots)) (under_join_lstripSlash hdots)
    (fun q _ _ => by rw [hlayout]; rfl)
  rw [hresolve, hmount]
  exact if_neg (head?_lstripSlash path)

/-- Without links the validator is that of the file operations. -/
theorem Disk.validatePath_linkFree {d : Disk} (hlayout : d.layout = Layout.linkFree)
    (mountPoint : AbsPath) {path : Text} (hnul : '\x00' ∉ path) :
    (d.validatePath mountPoint.parts path).map d.layout.resolve
      = Storage.validatePath mountPoint path := by
  unfold Storage.validatePath
  cases hdots : hasDots path with
  | true =>
      unfold Disk.validatePath
      rw [if_pos hdots]
      rfl
  | false =>
      rw [Disk.validatePath_accepts hdots hnul (fun q _ _ => by rw [hlayout]; rfl)]
      exact congrArg Except.ok (Disk.resolve_joinPath_linkFree hlayout mountPoint hdots)

/-- And so is what is downloaded, where the system comes to every path. -/
theorem Disk.downloadFile_linkFree {d : Disk} (hlayout : d.layout = Layout.linkFree)
    (hreach : ∀ path, d.reach path = .found) (guessType : Text → Option String)
    (mountPoint : AbsPath) {path : Text} (hnul : '\x00' ∉ path) :
    (d.downloadFile guessType mountPoint.parts path).map FileDownload.content
      = nfsDownloadFile d.tree mountPoint path := by
  unfold nfsDownloadFile
  rw [← Disk.validatePath_linkFree hlayout mountPoint hnul]
  unfold Disk.downloadFile
  cases htarget : d.validatePath mountPoint.parts path with
  | error e => rfl
  | ok target =>
      have hstat : d.stat target = .ok (d.tree (d.layout.resolve target)) := by
        unfold Disk.stat
        rw [hreach]
      rw [ok_bind, hstat, ok_bind]
      show _ = (match d.tree (d.layout.resolve target) with
        | none => _
        | some .dir => _
        | some (.file content) => _)
      cases d.tree (d.layout.resolve target) with
      | none => rfl
      | some item => cases item <;> rfl

/-! ## §8. Containment. -/

/-- **WHAT IS ACCEPTED RESOLVES INTO THE ROOT**, nothing else is read, and no plain name of
something in the root is rejected: for workflow ids and NFS paths, with any links.  A name is
plain if it has no `..`, and no null character, which no path has, and meets no link. -/
theorem paths_contained (d : Disk) (root : List (List Char)) (input : Text)
    (hroot : d.layout.resolve root ≠ AbsPath.top) :
    (∀ workflowPath, d.validateWorkflowPath root input = .ok (some workflowPath) →
      AbsPath.Under (d.layout.resolve root) (d.layout.resolve workflowPath.parts)) ∧
    (∀ target, d.validatePath root input = .ok target →
      AbsPath.Under (d.layout.resolve root) (d.layout.resolve target)) ∧
    (∀ tree : Lib.Tree Bytes,
      (∀ p, AbsPath.Under (d.layout.resolve root) p → tree p = d.tree p) →
      (∀ (W : Type) (load : AbsPath → Bytes → Except LoadExn W),
        ({ d with tree := tree } : Disk).getWorkflow load root input
          = d.getWorkflow load root input) ∧
      ∀ guessType : Text → Option String,
        ({ d with tree := tree } : Disk).downloadFile guessType root input
          = d.downloadFile guessType root input) ∧
    (hasDots input = false → '\x00' ∉ input →
      ((∀ ext ∈ d.tried root input workflowExtensions,
        AbsPath.Inside (d.layout.resolve root) ((d.layout.resolve root).join (input ++ ext)) ∧
        Free d.layout.links (d.layout.resolve root)
          ((d.layout.resolve root).join (input ++ ext))) →
        ¬ Rejects (d.validateWorkflowPath root input)) ∧
      (Free d.layout.links (d.layout.resolve root)
          ((d.layout.resolve root).join (lstripSlash input)) →
        ¬ Rejects (d.validatePath root input))) := by
  refine ⟨fun _ h => d.validateWorkflowPath_under h, fun _ h => d.validatePath_under h, ?_, ?_⟩
  · intro tree htree
    exact ⟨fun W load => Disk.getWorkflow_congr load input htree,
      fun guessType => Disk.downloadFile_congr guessType input htree⟩
  · intro hdots hnul
    refine ⟨Disk.validateWorkflowPath_accepts hroot hdots hnul, fun hfree => ?_⟩
    rintro ⟨text, herror⟩
    rw [Disk.validatePath_accepts hdots hnul hfree] at herror
    cases herror

/-- `/srv/workflows/out`. -/
def outLink : AbsPath := ⟨["srv".toList, "workflows".toList, "out".toList], by decide⟩

/-- `/etc`. -/
def outTarget : AbsPath := ⟨["etc".toList], by decide⟩

/-- One link out of a root: `/srv/workflows/out` leads to `/etc`. -/
def outLayout : Layout where
  links := fun p => if p = outLink then some "/etc".toList else none
  resolve := fun cs => cs.foldl (fun p c =>
    if isName c = true ∧ p.enter c = outLink then outTarget else p.enter c) AbsPath.top
  leads := by
    have htarget : ∀ p : AbsPath,
        Leads (fun p => if p = outLink then some "/etc".toList else none)
          (p.startOf "/etc".toList) ("/etc".toList.splitOn '/') outTarget := by
      intro p
      rw [show p.startOf "/etc".toList = AbsPath.top from if_pos (by decide),
        show "/etc".toList.splitOn '/' = [[], "etc".toList] from by decide]
      refine .enter (fun h => absurd h (by decide)) (.enter (fun _ => if_neg (by decide)) ?_)
      exact .done outTarget
    intro cs
    generalize AbsPath.top = p
    induction cs generalizing p with
    | nil => exact .done p
    | cons c cs ih =>
        rw [List.foldl_cons]
        split
        next hlink => exact .follow hlink.1 (if_pos hlink.2) (htarget p) (ih outTarget)
        next hlink =>
          exact .enter (fun hname => if_neg (fun heq => hlink ⟨hname, heq⟩)) (ih (p.enter c))

/-- With one workflow, and a file that is none of them. -/
def outDisk : Disk where
  layout := outLayout
  tree := fun p =>
    if p.text = "/srv/workflows/ubuntu.yaml".toList then some (.file [1])
    else if p.text = "/etc/shadow.json".toList then some (.file [2]) else none
  reach := fun _ => .found

def outRoot : List Text := ["srv".toList, "workflows".toList]

/-- A workflow beside the link. -/
theorem paths_contained_ubuntu :
    ¬ Rejects (outDisk.validateWorkflowPath outRoot "ubuntu".toList) ∧
    ¬ Rejects (outDisk.validatePath outRoot "ubuntu".toList) := by
  have hfree : ∀ p, ¬ AbsPath.Under outLink p →
      Free outDisk.layout.links (outDisk.layout.resolve outRoot) p := by
    intro p hp r _ hunder
    exact if_neg (fun heq : r = outLink => hp (heq ▸ hunder))
  have h := paths_contained outDisk outRoot "ubuntu".toList (by decide +kernel)
  obtain ⟨hworkflow, hnfs⟩ := h.2.2.2 (by decide +kernel) (by decide +kernel)
  refine ⟨hworkflow (fun ext hext => ?_), hnfs (hfree _ (by decide +kernel))⟩
  have htried : outDisk.tried outRoot "ubuntu".toList workflowExtensions
      = [".json".toList, ".yaml".toList] := by decide +kernel
  rw [htried] at hext
  rcases List.mem_cons.mp hext with rfl | hext
  · exact ⟨by decide +kernel, hfree _ (by decide +kernel)⟩
  · rw [List.mem_singleton.mp hext]
    exact ⟨by decide +kernel, hfree _ (by decide +kernel)⟩

end

end PureBoot.Storage
