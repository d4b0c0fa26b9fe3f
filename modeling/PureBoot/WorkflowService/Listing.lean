/-
  PureBoot.WorkflowService.Listing — the WORKFLOWS that are listed, and those that are loaded.

  Embeds `list_workflows` and `_load_workflow_file` of `core/workflow_service.py`, and
  `Workflow(**data)`; `get_workflow` is that of `Storage.Containment`.  A workflow is listed
  under the id in its file and loaded by the name of its file, and an exception that is no
  `ValueError` ends the listing.

  What the parsers make of a text and pydantic of a value are parameters, and so is the order
  in which the system lists a directory.

  Main results:
    * `listWorkflows_eq_ok_iff` — when the listing returns, and with what;
    * `getWorkflow_eq_ok_iff` — which file an id names;
    * `listed_loadable_iff` — the directories whose listed workflows can all be loaded.
-/
import PureBoot.Storage.Containment
import PureBoot.WorkflowService.Variables

namespace PureBoot.WorkflowService

open PureBoot.Lib
open PureBoot.Storage (Bytes Text Disk LoadExn WorkflowExn joinPath workflowExtensions)

variable {V : Type}

/-! ## §1. Documents. -/

/-- What a document is; a key that is no text is `none`. -/
inductive Document (V : Type) where
  | mapping (items : List (Option String × V))
  /-- A list, a text, a number, nothing at all. -/
  | other

/-- The parsers, and what pydantic makes of the value of a field. -/
structure Parsers (V : Type) where
  /-- The decoding of `read_text`. -/
  decode : Bytes → Option Text
  /-- `json.loads`. -/
  json : Text → Except LoadExn (Document V)
  /-- `yaml.safe_load`. -/
  yaml : Text → Except LoadExn (Document V)
  /-- A field of type `str`. -/
  str : V → Option String
  /-- A field of type `dict[str, str]`. -/
  strDict : V → Option (Dict String String)

/-- `path.suffix`, of the last name of the path. -/
def suffix (name : Text) : Text := name.drop (AbsPath.stem name).length

section Load

variable (P : Parsers V)

/-- `_load_workflow_file`, once the file is read. -/
def loadWorkflowFile (name : Text) (content : Bytes) : Except LoadExn (Document V) :=
  match P.decode content with
  -- `UnicodeDecodeError` is a `ValueError`
  | none => .error .valueError
  | some text =>
      if suffix name = ".yaml".toList ∨ suffix name = ".yml".toList then P.yaml text
      else P.json text

/-- One argument of `Workflow(**data)`, with its default. -/
def field (items : List (Option String × V)) {α : Type} (convert : V → Option α) (name : String)
    (default : Option α) : Except LoadExn α :=
  match items.find? (fun p => p.1 = some name) with
  | some (_, v) => (convert v).elim (.error .valueError) .ok
  | none => default.elim (.error .valueError) .ok

/-- `Workflow(**data)`. -/
def workflowOf : Document V → Except LoadExn Workflow
  | .other => .error .typeError
  | .mapping items =>
      if items.any (fun p => p.1.isNone) then .error .typeError
      else do
        let id ← field items P.str "id" none
        let name ← field items P.str "name" none
        let description ← field items P.str "description" (some "")
        let kernelPath ← field items P.str "kernel_path" (some "")
        let initrdPath ← field items P.str "initrd_path" (some "")
        let cmdline ← field items P.str "cmdline" (some "")
        let architecture ← field items P.str "architecture" (some "x86_64")
        let bootMode ← field items P.str "boot_mode" (some "bios")
        let installMethod ← field items P.str "install_method" (some "kernel")
        let bootUrl ← field items P.str "boot_url" (some "")
        let imageUrl ← field items P.str "image_url" (some "")
        let targetDevice ← field items P.str "target_device" (some "/dev/sda")
        let sourceDevice ← field items P.str "source_device" (some "/dev/sda")
        let postScriptUrl ← field items P.str "post_script_url" (some "")
        let bootParams ← field items P.strDict "boot_params" (some Table.empty)
        return { id, name, description, kernelPath, initrdPath, cmdline, architecture, bootMode,
                 installMethod, bootUrl, imageUrl, targetDevice, sourceDevice, postScriptUrl,
                 bootParams }

/-- What a file is loaded as. -/
def load (name : Text) (content : Bytes) : Except LoadExn Workflow := do
  let data ← loadWorkflowFile P name content
  workflowOf P data

end Load

/-! ## §2. `get_workflow` and `list_workflows`. -/

/-- The last name of a path. -/
def fileName (p : AbsPath) : Text := p.parts.getLast?.getD []

section Service

variable (P : Parsers V) (d : Disk) (root : List Text)

/-- `get_workflow`. -/
def getWorkflow (workflowId : String) : Except WorkflowExn Workflow :=
  d.getWorkflow (fun p content => load P (fileName p) content) root workflowId.toList

/-- The files that the patterns `*.json`, `*.yaml` and `*.yml` find, one pattern after
another; `scan` is what the system lists. -/
def globAll (scan : List Text) : List Text :=
  workflowExtensions.flatMap (fun ext => scan.filter (fun name => ext <:+ name))

/-- One file of the loop; a file that is skipped is `none`. -/
def listFile (name : Text) : Except WorkflowExn (Option Workflow) :=
  match d.stat (root ++ [name]) with
  | .error e => .error (.path e)
  | .ok (some (.file content)) =>
      match load P name content with
      | .ok workflow => .ok (some workflow)
      | .error .valueError => .ok none
      | .error .typeError => .error .typeError
  -- a directory, or a link that leads nowhere
  | .ok _ => .error (.path .osError)

/-- The loop, with the workflows and the ids that it has seen. -/
def listFrom : List Text → List Workflow → List String → Except WorkflowExn (List Workflow)
  | [], workflows, _ => .ok workflows
  | name :: names, workflows, seenIds => do
      match ← listFile P d root name with
      | none => listFrom names workflows seenIds
      | some workflow =>
          if workflow.id ∈ seenIds then listFrom names workflows seenIds
          else listFrom names (workflows ++ [workflow]) (workflow.id :: seenIds)

/-- `list_workflows`. -/
def listWorkflows (scan : List Text) : Except WorkflowExn (List Workflow) :=
  match d.stat root with
  | .error e => .error (.path e)
  | .ok none => .ok []
  | .ok (some _) => listFrom P d root (globAll scan) [] []

/-! ## §3. The documents of a directory. -/

/-- The file can be read, and loading it raises no other exception than `ValueError`. -/
def Readable (name : Text) : Prop :=
  ∃ content, d.stat (root ++ [name]) = .ok (some (.file content))
    ∧ load P name content ≠ .error .typeError

/-- The workflow of a file, if it has one. -/
def workflowAt (name : Text) : Option Workflow :=
  match d.stat (root ++ [name]) with
  | .ok (some (.file content)) => (load P name content).toOption
  | _ => none

/-- The workflows in the order of the files. -/
def workflowsIn (scan : List Text) : List Workflow :=
  (globAll scan).filterMap (workflowAt P d root)

/-- The path that is tried for an extension. -/
def candidate (workflowId ext : Text) : AbsPath :=
  d.layout.resolve (joinPath root (workflowId ++ ext))

/-- **THE FILE THAT AN ID NAMES**: the first that is there of `id.json`, `id.yaml` and
`id.yml`; it and what is tried before it lie in the directory. -/
def Names (workflowId : Text) (p : AbsPath) (content : Bytes) : Prop :=
  '\x00' ∉ workflowId ∧ d.layout.resolve root ≠ AbsPath.top
  ∧ ∃ before ext after, workflowExtensions = before ++ ext :: after
    ∧ candidate d root workflowId ext = p
    ∧ d.stat p.parts = .ok (some (.file content))
    ∧ AbsPath.Inside (d.layout.resolve root) p
    ∧ ∀ e ∈ before, AbsPath.Inside (d.layout.resolve root) (candidate d root workflowId e)
      ∧ d.stat (candidate d root workflowId e).parts = .ok none

end Service

variable {P : Parsers V} {d : Disk} {root : List Text}

/-- A file is passed if it is readable; then it gives its workflow. -/
theorem listFile_eq_ok_iff {name : Text} {o : Option Workflow} :
    listFile P d root name = .ok o ↔ Readable P d root name ∧ workflowAt P d root name = o := by
  unfold listFile Readable workflowAt
  cases hstat : d.stat (root ++ [name]) with
  | error e => simp
  | ok item =>
      cases item with
      | none => simp
      | some item =>
          cases item with
          | dir => simp
          | file content =>
              cases hload : load P name content with
              | ok w => simp [hload, Except.toOption]
              | error e => cases e <;> simp [hload, Except.toOption]

/-! ## §4. What is listed. -/

/-- The workflows whose ids are new, each id once. -/
def firsts : List String → List Workflow → List Workflow
  | _, [] => []
  | seenIds, w :: ws =>
      if w.id ∈ seenIds then firsts seenIds ws else w :: firsts (w.id :: seenIds) ws

/-- A workflow is kept if it is the first with its id, and the id is new. -/
theorem mem_firsts_iff {w : Workflow} {ws : List Workflow} (seenIds : List String) :
    w ∈ firsts seenIds ws ↔ w.id ∉ seenIds ∧ ws.find? (fun w' => w'.id = w.id) = some w := by
  induction ws generalizing seenIds with
  | nil => simp [firsts]
  | cons v ws ih =>
      unfold firsts
      by_cases hseen : v.id ∈ seenIds
      · -- whoever has a new id is not this one
        rw [if_pos hseen, ih]
        refine and_congr_right (fun hw => ?_)
        have hne : v.id ≠ w.id := fun heq => hw (heq ▸ hseen)
        rw [List.find?_cons_of_neg (by simpa using hne)]
      · rw [if_neg hseen, List.mem_cons, ih, List.mem_cons, not_or]
        by_cases hid : v.id = w.id
        · rw [List.find?_cons_of_pos (by simpa using hid), Option.some.injEq]
          constructor
          · rintro (rfl | ⟨⟨hne, -⟩, -⟩)
            · exact ⟨hseen, rfl⟩
            · exact absurd hid.symm hne
          · rintro ⟨-, rfl⟩
            exact .inl rfl
        · rw [List.find?_cons_of_neg (by simpa using hid)]
          constructor
          · rintro (rfl | ⟨⟨-, hw⟩, hfind⟩)
            · exact absurd rfl hid
            · exact ⟨hw, hfind⟩
          · rintro ⟨hw, hfind⟩
            exact .inr ⟨⟨fun heq => hid heq.symm, hw⟩, hfind⟩

theorem nodup_firsts (seenIds : List String) (ws : List Workflow) :
    ((firsts seenIds ws).map Workflow.id).Nodup := by
  induction ws generalizing seenIds with
  | nil => exact List.nodup_nil
  | cons v ws ih =>
      unfold firsts
      split
      next => exact ih seenIds
      next =>
        rw [List.map_cons, List.nodup_cons]
        refine ⟨?_, ih _⟩
        rintro hmem
        obtain ⟨w, hw, heq⟩ := List.mem_map.mp hmem
        exact ((mem_firsts_iff _).mp hw).1 (heq ▸ List.mem_cons_self)

/-- The loop goes through the readable files. -/
theorem listFrom_of_readable {names : List Text}
    (h : ∀ name ∈ names, Readable P d root name) (workflows : List Workflow)
    (seenIds : List String) :
    listFrom P d root names workflows seenIds
      = .ok (workflows ++ firsts seenIds (names.filterMap (workflowAt P d root))) := by
  induction names generalizing workflows seenIds with
  | nil => exact congrArg Except.ok (List.append_nil workflows).symm
  | cons name names ih =>
      obtain ⟨hread, hall⟩ := List.forall_mem_cons.mp h
      unfold listFrom
      rw [listFile_eq_ok_iff.mpr ⟨hread, rfl⟩, ok_bind]
      cases hat : workflowAt P d root name with
      | none =>
          rw [List.filterMap_cons_none hat]
          exact ih hall workflows seenIds
      | some w =>
          rw [List.filterMap_cons_some hat, firsts]
          dsimp only
          split
          next hseen => exact ih hall workflows seenIds
          next hseen => rw [ih hall, List.append_assoc, List.singleton_append]

/-- And through no others. -/
theorem readable_of_listFrom {names : List Text} {workflows result : List Workflow}
    {seenIds : List String} (h : listFrom P d root names workflows seenIds = .ok result) :
    ∀ name ∈ names, Readable P d root name := by
  induction names generalizing workflows seenIds with
  | nil => exact fun name hname => absurd hname List.not_mem_nil
  | cons name names ih =>
      obtain ⟨o, hfile, hrest⟩ := bind_eq_ok.mp h
      refine List.forall_mem_cons.mpr ⟨(listFile_eq_ok_iff.mp hfile).1, ?_⟩
      -- whatever the file has given, the loop goes on
      cases o with
      | none => exact ih hrest
      | some w =>
          dsimp only at hrest
          split at hrest
          next => exact ih hrest
          next => exact ih hrest

theorem listFrom_eq_ok_iff {names : List Text} {workflows result : List Workflow}
    {seenIds : List String} :
    listFrom P d root names workflows seenIds = .ok result ↔
      (∀ name ∈ names, Readable P d root name)
        ∧ result = workflows ++ firsts seenIds (names.filterMap (workflowAt P d root)) := by
  constructor
  · intro h
    have hread := readable_of_listFrom h
    rw [listFrom_of_readable hread] at h
    exact ⟨hread, (Except.ok.inj h).symm⟩
  · rintro ⟨hread, rfl⟩
    exact listFrom_of_readable hread workflows seenIds

/-- **THE LISTING RETURNS** if the directory is not there, or all its files are readable; it
has the first workflow with each id. -/
theorem listWorkflows_eq_ok_iff {scan : List Text} {ws : List Workflow} :
    listWorkflows P d root scan = .ok ws ↔
      (d.stat root = .ok none ∧ ws = [])
      ∨ (∃ item, d.stat root = .ok (some item))
        ∧ (∀ name ∈ globAll scan, Readable P d root name)
        ∧ ws = firsts [] (workflowsIn P d root scan) := by
  unfold listWorkflows
  cases hstat : d.stat root with
  | error e => simp
  | ok item =>
      cases item with
      | none => simp [eq_comm]
      | some item => simp [listFrom_eq_ok_iff, workflowsIn]

/-! ## §5. What is loaded. -/

theorem resolvePath_eq_ok_iff {text : Text} {p : AbsPath} :
    d.resolvePath root text = .ok p ↔
      '\x00' ∉ text ∧ d.layout.resolve (joinPath root text) = p := by
  unfold Disk.resolvePath
  split
  next h =>
    have hmem : '\x00' ∈ text := by simpa using h
    simp [hmem]
  next h =>
    have hmem : '\x00' ∉ text := by simpa using h
    simp [hmem]

/-- The text of no path begins with two slashes. -/
theorem not_text_top_slash {q : AbsPath} : ¬ AbsPath.top.text ++ ['/'] <+: q.text := by
  intro h
  have h : ['/', '/'] <+: q.text := h
  cases q with
  | mk parts hparts =>
      cases parts with
      | nil =>
          have hshort : ¬ ['/', '/'] <+: ['/'] := by decide
          exact hshort h
      | cons n parts =>
          have hn := isName_iff.mp (hparts n List.mem_cons_self)
          obtain ⟨c, n', rfl⟩ := List.exists_cons_of_ne_nil hn.1
          have hc : '/' = c := by
            simpa [AbsPath.text, List.cons_prefix_cons] using h
          exact hn.2.1 (hc ▸ List.mem_cons_self)

/-- One extension: it is there, or it is not and the next one is tried. -/
theorem findWorkflow_cons_eq_some_iff {workflowId ext : Text} {exts : List Text} {p : AbsPath} :
    d.findWorkflow root workflowId (ext :: exts) = .ok (some p) ↔
      '\x00' ∉ workflowId ++ ext
      ∧ (d.layout.resolve root).text ++ ['/'] <+: (candidate d root workflowId ext).text
      ∧ (((∃ item, d.stat (candidate d root workflowId ext).parts = .ok (some item))
          ∧ candidate d root workflowId ext = p)
        ∨ d.stat (candidate d root workflowId ext).parts = .ok none
          ∧ d.findWorkflow root workflowId exts = .ok (some p)) := by
  conv_lhs => unfold Disk.findWorkflow
  rw [bind_eq_ok]
  constructor
  · rintro ⟨q, hq, h⟩
    obtain ⟨hnul, rfl⟩ := resolvePath_eq_ok_iff.mp hq
    split at h
    next => cases h
    next htext =>
      refine ⟨hnul, not_not.mp htext, ?_⟩
      obtain ⟨item, hitem, h⟩ := bind_eq_ok.mp h
      cases item with
      | none => exact .inr ⟨hitem, h⟩
      | some item => exact .inl ⟨⟨item, hitem⟩, Option.some.inj (Except.ok.inj h)⟩
  · rintro ⟨hnul, htext, h⟩
    refine ⟨_, resolvePath_eq_ok_iff.mpr ⟨hnul, rfl⟩, ?_⟩
    unfold candidate at htext h
    rw [if_neg (not_not.mpr htext), bind_eq_ok]
    rcases h with ⟨⟨item, hitem⟩, rfl⟩ | ⟨hitem, h⟩
    · exact ⟨some item, hitem, rfl⟩
    · exact ⟨none, hitem, h⟩

/-- The loop over the extensions. -/
theorem findWorkflow_eq_some_iff {workflowId : Text} {exts : List Text} {p : AbsPath}
    (hnul : ∀ ext ∈ exts, '\x00' ∉ ext) :
    d.findWorkflow root workflowId exts = .ok (some p) ↔
      '\x00' ∉ workflowId ∧ d.layout.resolve root ≠ AbsPath.top
      ∧ ∃ before ext after, exts = before ++ ext :: after
        ∧ candidate d root workflowId ext = p
        ∧ (∃ item, d.stat p.parts = .ok (some item))
        ∧ AbsPath.Inside (d.layout.resolve root) p
        ∧ ∀ e ∈ before, AbsPath.Inside (d.layout.resolve root) (candidate d root workflowId e)
          ∧ d.stat (candidate d root workflowId e).parts = .ok none := by
  induction exts with
  | nil =>
      constructor
      · intro h
        cases h
      · rintro ⟨-, -, before, ext, after, heq, -⟩
        exact absurd heq.symm (by simp)
  | cons ext exts ih =>
      -- an extension that is not there is one more of those tried before
      have ih := ih (fun e he => hnul e (List.mem_cons_of_mem ext he))
      have hext := hnul ext List.mem_cons_self
      rw [findWorkflow_cons_eq_some_iff, List.mem_append, not_or]
      constructor
      · rintro ⟨⟨hid, -⟩, htext, h⟩
        have hroot : d.layout.resolve root ≠ AbsPath.top :=
          fun htop => not_text_top_slash (htop ▸ htext)
        have hinside := (AbsPath.text_slash_isPrefix_iff hroot _).mp htext
        rcases h with ⟨hitem, rfl⟩ | ⟨hnone, h⟩
        · exact ⟨hid, hroot, [], ext, exts, rfl, rfl, hitem, hinside,
            fun e he => absurd he List.not_mem_nil⟩
        · obtain ⟨-, -, before, ext', after, rfl, hp, hitem, hin, hbefore⟩ := ih.mp h
          refine ⟨hid, hroot, ext :: before, ext', after, rfl, hp, hitem, hin, ?_⟩
          exact List.forall_mem_cons.mpr ⟨⟨hinside, hnone⟩, hbefore⟩
      · rintro ⟨hid, hroot, before, ext', after, heq, hp, hitem, hin, hbefore⟩
        have htext := AbsPath.text_slash_isPrefix_iff hroot
        cases before with
        | nil =>
            obtain ⟨rfl, rfl⟩ := List.cons.inj heq
            subst hp
            exact ⟨⟨hid, hext⟩, (htext _).mpr hin, .inl ⟨hitem, rfl⟩⟩
        | cons e before =>
            obtain ⟨rfl, rfl⟩ := List.cons.inj heq
            obtain ⟨⟨hinside, hnone⟩, hbefore⟩ := List.forall_mem_cons.mp hbefore
            exact ⟨⟨hid, hext⟩, (htext _).mpr hinside, .inr ⟨hnone, ih.mpr
              ⟨hid, hroot, before, ext', after, rfl, hp, hitem, hin, hbefore⟩⟩⟩

/-- What `get_workflow` makes of the path it has found. -/
theorem disk_getWorkflow_eq_ok_iff {W : Type} {load : AbsPath → Bytes → Except LoadExn W}
    {workflowId : Text} {w : W} :
    d.getWorkflow load root workflowId = .ok w ↔
      ∃ p content, d.validateWorkflowPath root workflowId = .ok (some p)
        ∧ d.stat p.parts = .ok (some (.file content)) ∧ load p content = .ok w := by
  unfold Disk.getWorkflow
  constructor
  · intro h
    split at h
    next => cases h
    next => cases h
    next p hpath =>
      split at h
      next => cases h
      next content hstat =>
        split at h
        next hload =>
          obtain rfl := Except.ok.inj h
          exact ⟨p, content, hpath, hstat, hload⟩
        next => cases h
        next => cases h
      next => cases h
  · rintro ⟨p, content, hpath, hstat, hload⟩
    simp only [hpath, hstat, hload]

/-- **WHAT IS LOADED** is the workflow of the file that the id names. -/
theorem getWorkflow_eq_ok_iff {workflowId : String} {w : Workflow} :
    getWorkflow P d root workflowId = .ok w ↔
      ∃ p content, Names d root workflowId.toList p content ∧ load P (fileName p) content = .ok w := by
  have hnul : ∀ ext ∈ workflowExtensions, '\x00' ∉ ext := by decide
  unfold getWorkflow Names
  rw [disk_getWorkflow_eq_ok_iff]
  refine exists₂_congr (fun p content => ?_)
  unfold Disk.validateWorkflowPath
  rw [findWorkflow_eq_some_iff hnul]
  constructor
  · rintro ⟨⟨hid, hroot, before, ext, after, heq, hp, -, hin, hbefore⟩, hstat, hload⟩
    exact ⟨⟨hid, hroot, before, ext, after, heq, hp, hstat, hin, hbefore⟩, hload⟩
  · rintro ⟨⟨hid, hroot, before, ext, after, heq, hp, hstat, hin, hbefore⟩, hload⟩
    exact ⟨⟨hid, hroot, before, ext, after, heq, hp, ⟨_, hstat⟩, hin, hbefore⟩, hstat, hload⟩

/-! ## §6. Listed and loaded. -/

/-- The listing returns, no id twice, and each workflow can be loaded under its id. -/
def ListedLoadable (P : Parsers V) (d : Disk) (root scan : List Text) : Prop :=
  ∃ ws, listWorkflows P d root scan = .ok ws ∧ (ws.map Workflow.id).Nodup
    ∧ ∀ w ∈ ws, getWorkflow P d root w.id = .ok w

/-- **THE LISTED WORKFLOWS CAN BE LOADED** exactly if the directory is not there, or each of
its files is readable and the first workflow with an id is that of the file which the id
names. -/
theorem listed_loadable_iff (P : Parsers V) (d : Disk) (root scan : List Text) :
    ListedLoadable P d root scan ↔
    d.stat root = .ok none
    ∨ (∃ item, d.stat root = .ok (some item))
      ∧ (∀ name ∈ globAll scan, Readable P d root name)
      ∧ ∀ w, (workflowsIn P d root scan).find? (fun w' => w'.id = w.id) = some w →
          ∃ p content, Names d root w.id.toList p content
            ∧ load P (fileName p) content = .ok w := by
  constructor
  · rintro ⟨ws, hlist, -, hget⟩
    rcases listWorkflows_eq_ok_iff.mp hlist with ⟨hnone, -⟩ | ⟨hitem, hread, rfl⟩
    · exact .inl hnone
    · refine .inr ⟨hitem, hread, fun w hw => ?_⟩
      exact getWorkflow_eq_ok_iff.mp
        (hget w ((mem_firsts_iff []).mpr ⟨List.not_mem_nil, hw⟩))
  · rintro (hnone | ⟨hitem, hread, hnames⟩)
    · exact ⟨[], listWorkflows_eq_ok_iff.mpr (.inl ⟨hnone, rfl⟩), List.nodup_nil,
        fun w hw => absurd hw List.not_mem_nil⟩
    · refine ⟨_, listWorkflows_eq_ok_iff.mpr (.inr ⟨hitem, hread, rfl⟩), nodup_firsts [] _,
        fun w hw => ?_⟩
      exact getWorkflow_eq_ok_iff.mpr (hnames w ((mem_firsts_iff []).mp hw).2)

/-- `/srv/workflows`. -/
def srvRoot : List Text := ["srv".toList, "workflows".toList]

/-- A directory with one file. -/
def oneFile (name : String) (content : Bytes) : Disk where
  layout := Layout.linkFree
  tree := fun p =>
    if p.text = "/srv/workflows".toList then some .dir
    else if p.text = ("/srv/workflows/" ++ name).toList then some (.file content) else none
  reach := fun _ => .found

/-- An id and a name. -/
def ubuntuText : String := "\x7b\"id\": \"ubuntu-2404\", \"name\": \"Ubuntu\"\x7d"

def ubuntuContent : Bytes := ubuntuText.toList.map (fun c => UInt8.ofNat c.toNat)

/-- What is read of these documents. -/
def fewParsers : Parsers String where
  decode content := some (content.map (fun b => Char.ofNat b.toNat))
  json text :=
    if text = ubuntuText.toList then
      .ok (.mapping [(some "id", "ubuntu-2404"), (some "name", "Ubuntu")])
    else .error .valueError
  -- an empty document is `None`
  yaml text := if text = [] then .ok .other else .error .valueError
  str := some
  strDict _ := none

/-- An empty YAML file ends the listing; and a workflow whose file has another name is
listed, and not found. -/
theorem oneFile_not_loadable :
    ¬ ListedLoadable fewParsers (oneFile "empty.yaml" []) srvRoot ["empty.yaml".toList]
    ∧ ¬ ListedLoadable fewParsers (oneFile "ubuntu.json" ubuntuContent) srvRoot
        ["ubuntu.json".toList] := by
  constructor
  · rintro ⟨ws, hlist, -⟩
    have hraises : (listWorkflows fewParsers (oneFile "empty.yaml" []) srvRoot
        ["empty.yaml".toList]).isOk = false := by decide +kernel
    rw [hlist] at hraises
    cases hraises
  · rintro ⟨ws, hlist, -, hget⟩
    have hids : (listWorkflows fewParsers (oneFile "ubuntu.json" ubuntuContent) srvRoot
        ["ubuntu.json".toList]).toOption.map (fun ws => ws.map Workflow.id)
          = some ["ubuntu-2404"] := by decide +kernel
    rw [hlist] at hids
    have hlisted : ws.map Workflow.id = ["ubuntu-2404"] := Option.some.inj hids
    have hmem : "ubuntu-2404" ∈ ws.map Workflow.id := by
      rw [hlisted]
      exact List.mem_cons_self
    obtain ⟨w, hw, hid⟩ := List.mem_map.mp hmem
    have hfound := hget w hw
    have hmissing : (getWorkflow fewParsers (oneFile "ubuntu.json" ubuntuContent) srvRoot
        "ubuntu-2404").isOk = false := by decide +kernel
    rw [hid] at hfound
    rw [hfound] at hmissing
    cases hmissing

/-- Under the name of its id it can be loaded. -/
example :
    (getWorkflow fewParsers (oneFile "ubuntu-2404.json" ubuntuContent) srvRoot
      "ubuntu-2404").toOption.map Workflow.name = some "Ubuntu" := by
  decide +kernel

end PureBoot.WorkflowService
