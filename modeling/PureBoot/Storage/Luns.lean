/-
  PureBoot.Storage.Luns — the iSCSI LUNS of the storage backends, and their numbers.

  Embeds `api/routes/luns.py` (create, update, delete, assign and unassign, with the
  background tasks of a creation and of a deletion) and the service of `core/iscsi.py` that
  drives `targetcli`; every command of it succeeds here.  A LUN record is in the database,
  its backing store, its export and the access of its initiator are on the target.  There is
  one target: what `validate_config` stores of a backend (`IscsiTargetConfig`) has none of the
  keys that the service reads, so every backend gets the defaults, which are
  `iqn.2026-01.local.pureboot:target1` and backing stores in files.  The next number of a
  backend is read from its LUN with the highest one, by a query that raises as soon as there
  are two.

  Main results:
    * `createLun_numbered_iff` — when a LUN is created, with a number of its own;
    * `lun_numbering_iff` — the runs in which every LUN is.
-/
import PureBoot.Lib.Run
import PureBoot.Lib.Table
import PureBoot.Lib.Text
import PureBoot.Lifecycle.NodeApi

namespace PureBoot.Storage

open PureBoot.Lib PureBoot.Lifecycle

/-! ## §1. Rows. -/

/-- `IscsiLun.status`. -/
inductive LunStatus where
  | creating
  | ready
  | active
  | error
  | deleting
  deriving DecidableEq, Repr

/-- The text stored in the `status` column. -/
def LunStatus.name : LunStatus → String
  | creating => "creating"
  | ready => "ready"
  | active => "active"
  | error => "error"
  | deleting => "deleting"

/-- `IscsiLun.purpose`. -/
inductive LunPurpose where
  | bootFromSan
  | installSource
  | autoProvision
  deriving DecidableEq, Repr

/-- `db/models.py: IscsiLun`. -/
structure IscsiLun where
  id : String
  name : String
  sizeGb : Int
  backendId : String
  iqn : String
  lunNumber : Int := 0
  purpose : LunPurpose
  status : LunStatus := .creating
  errorMessage : Option String := none
  assignedNodeId : Option String := none
  chapEnabled : Bool := false
  chapUsername : Option String := none
  chapPasswordEncrypted : Option String := none
  deriving DecidableEq, Repr

/-- What the LUN endpoints read of a `StorageBackend`. -/
structure LunBackend where
  id : String
  /-- `type == "iscsi"`. -/
  isIscsi : Bool := true
  deriving DecidableEq, Repr

/-- What they read of a `Node`. -/
structure SanNode where
  id : String
  macAddress : String
  deriving DecidableEq, Repr

/-- `generate_iqn`. -/
def generateIqn (name : String) : String := "iqn.2026-01.local.pureboot:" ++ name

/-- `generate_initiator_iqn`. -/
def generateInitiatorIqn (macAddress : String) : String :=
  "iqn.2026-01.local.pureboot:node:"
    ++ String.ofList ((macAddress.toList.filter (fun c => c ≠ ':')).map Char.toLower)

/-- The backends and the nodes, which the LUN endpoints only read. -/
structure San where
  backends : Table LunBackend.id
  nodes : Table SanNode.id
  /-- A node's id is a UUID. -/
  nodeIds : ∀ n ∈ nodes.rows, n.id ≠ ""
  /-- Addresses are stored in one form, so no two nodes have the same initiator. -/
  initiators : ∀ n ∈ nodes.rows, ∀ m ∈ nodes.rows,
    generateInitiatorIqn n.macAddress = generateInitiatorIqn m.macAddress → n = m

/-! ## §2. The target (`IscsiLunService`). -/

/-- What `targetcli` has configured. -/
structure Target where
  acls : List String := []
  stores : List String := []
  exports : List (Int × String) := []

def isAsciiAlnum (c : Char) : Bool :=
  ('a' ≤ c && c ≤ 'z') || ('A' ≤ c && c ≤ 'Z') || ('0' ≤ c && c ≤ '9')

/-- `SAFE_NAME_PATTERN`. -/
def safeNamePattern : List Char → Bool :=
  endsLine (fun t => t.head?.any isAsciiAlnum && t.getLast?.any isAsciiAlnum
    && t.all (fun c => isAsciiAlnum c || c = '-'))

/-- `_validate_safe_name`. -/
def validateSafeName (name : String) : Bool :=
  name ≠ "" && name.length ≤ 100 && safeNamePattern name.toList

/-- `create_backingstore`; the command of `targetcli` succeeds. -/
def createBackingstore (t : Target) (name : String) : Except String Target :=
  if validateSafeName name = false then .error ("Invalid name: " ++ name)
  else .ok { t with stores := t.stores.insert name }

/-- `delete_backingstore`. -/
def deleteBackingstore (t : Target) (name : String) : Except String Target :=
  if validateSafeName name = false then .error ("Invalid name: " ++ name)
  else .ok { t with stores := t.stores.filter (fun store => store ≠ name) }

/-- `create_lun` of the service. -/
def createExport (t : Target) (name : String) (lunNumber : Int) : Except String Target :=
  if validateSafeName name = false then .error ("Invalid name: " ++ name)
  else .ok { t with exports := t.exports.insert (lunNumber, name) }

/-- `delete_lun` of the service. -/
def deleteExport (t : Target) (lunNumber : Int) : Target :=
  { t with exports := t.exports.filter (fun e => e.1 ≠ lunNumber) }

/-- `create_acl`. -/
def createAcl (t : Target) (initiatorIqn : String) : Target :=
  { t with acls := t.acls.insert initiatorIqn }

/-- `delete_acl`. -/
def deleteAcl (t : Target) (initiatorIqn : String) : Target :=
  { t with acls := t.acls.filter (fun acl => acl ≠ initiatorIqn) }

/-! ## §3. The endpoints. -/

/-- The background work that a request leaves behind. -/
inductive LunTask where
  | create (lunId : String)
  | delete (lunId : String)
  deriving DecidableEq, Repr

/-- The LUN records, the target of all backends, and the tasks that have not run yet. -/
structure LunState where
  luns : Table IscsiLun.id
  target : Target
  tasks : List LunTask

def LunState.empty : LunState where
  luns := Table.empty
  target := {}
  tasks := []

def LunState.saveLun (s : LunState) (lun : IscsiLun) : LunState :=
  { s with luns := s.luns.put lun }

def LunState.setTarget (s : LunState) (t : Target) : LunState := { s with target := t }

/-- `IscsiLunCreate`, after its validators. -/
structure IscsiLunCreate where
  name : String
  sizeGb : Int
  backendId : String
  purpose : LunPurpose
  chapEnabled : Bool := false
  deriving DecidableEq, Repr

/-- `IscsiLunUpdate`, after its validators. -/
structure IscsiLunUpdate where
  name : Option String := none
  chapEnabled : Option Bool := none
  deriving DecidableEq, Repr

/-- The LUNs of a backend. -/
def LunState.lunsOf (s : LunState) (backendId : String) : List IscsiLun :=
  s.luns.rows.filter (fun l => l.backendId = backendId)

/-- `create_lun`; `secret` is the encrypted CHAP password that is drawn. -/
def createLun (san : San) (s : LunState) (uuid secret : String) (body : IscsiLunCreate) :
    Except Lifecycle.Exn (IscsiLun × LunState) :=
  match san.backends.get? body.backendId with
  | none => .error (.http 404 "Backend not found")
  | some backend =>
      if backend.isIscsi = false then .error (.http 400 "Backend must be iSCSI type")
      else do
        let duplicate ← scalarOneOrNone (s.luns.rows.filter (fun l => l.name = body.name))
        if duplicate ≠ none then .error (.http 400 "LUN name already exists")
        else do
          let lastLun ← scalarOneOrNone
            ((s.lunsOf body.backendId).mergeSort (fun a b => b.lunNumber ≤ a.lunNumber))
          let lun : IscsiLun :=
            { id := uuid, name := body.name, sizeGb := body.sizeGb, backendId := body.backendId,
              iqn := generateIqn body.name,
              lunNumber := (lastLun.map (fun l => l.lunNumber + 1)).getD 0,
              purpose := body.purpose, chapEnabled := body.chapEnabled,
              chapUsername := if body.chapEnabled then some body.name else none,
              chapPasswordEncrypted := if body.chapEnabled then some secret else none }
          -- the name is free, the column of the IQN is unique too
          if s.luns.rows.any (fun l => l.iqn = lun.iqn) then .error .integrityError
          else match s.luns.insert? lun with
            | some luns => .ok (lun, { s with luns, tasks := s.tasks ++ [.create uuid] })
            | none => .error .integrityError

/-- `_create_lun_background`. -/
def createLunBackground (san : San) (s : LunState) (lunId : String) : LunState :=
  match s.luns.get? lunId with
  | none => s
  | some lun =>
      let failed := fun (s : LunState) (message : String) =>
        s.saveLun { lun with status := .error, errorMessage := some message }
      match san.backends.get? lun.backendId with
      | none => failed s "Backend not found"
      | some _ =>
          match createBackingstore s.target lun.name with
          | .error msg => failed s ("Failed to create backingstore: " ++ msg)
          | .ok t =>
              match createExport t lun.name lun.lunNumber with
              | .error msg =>
                  -- the backing store is cleaned up
                  failed (s.setTarget ((deleteBackingstore t lun.name).toOption.getD t))
                    ("Failed to create LUN: " ++ msg)
              | .ok t =>
                  (s.setTarget t).saveLun { lun with status := .ready, errorMessage := none }

/-- The query of `update_lun` for another LUN of the name, if a name is given. -/
def duplicateName (s : LunState) (lunId : String) :
    Option String → Except Lifecycle.Exn (Option IscsiLun)
  | some name => scalarOneOrNone (s.luns.rows.filter (fun l => l.name = name && l.id ≠ lunId))
  | none => .ok none

def IscsiLun.rename (lun : IscsiLun) : Option String → IscsiLun
  | some name => { lun with name, iqn := generateIqn name }
  | none => lun

def IscsiLun.setChapEnabled (lun : IscsiLun) (secret : String) : Option Bool → IscsiLun
  | some true =>
      if truthy lun.chapUsername then { lun with chapEnabled := true }
      else { lun with
        chapEnabled := true, chapUsername := some lun.name,
        chapPasswordEncrypted := some secret }
  | some false => { lun with chapEnabled := false }
  | none => lun

/-- `update_lun`; it is committed before the answer is built. -/
def updateLun (s : LunState) (lunId secret : String) (body : IscsiLunUpdate) :
    Except Lifecycle.Exn (IscsiLun × LunState) :=
  match s.luns.get? lunId with
  | none => .error (.http 404 "LUN not found")
  | some lun =>
      if lun.status ≠ .ready ∧ lun.status ≠ .active then
        .error (.http 400 ("Cannot update LUN in " ++ lun.status.name ++ " status"))
      else do
        let duplicate ← duplicateName s lunId body.name
        if duplicate ≠ none then .error (.http 400 "LUN name already exists")
        else
          let lun' := (lun.rename body.name).setChapEnabled secret body.chapEnabled
          if s.luns.rows.any (fun l => l.id ≠ lunId && l.iqn = lun'.iqn) then
            .error .integrityError
          else .ok (lun', s.saveLun lun')

/-- The LUN is assigned: `if lun.assigned_node_id`. -/
def IscsiLun.isAssigned (lun : IscsiLun) : Bool := truthy lun.assignedNodeId

/-- `delete_lun`. -/
def deleteLun (s : LunState) (lunId : String) : Except Lifecycle.Exn (Unit × LunState) :=
  match s.luns.get? lunId with
  | none => .error (.http 404 "LUN not found")
  | some lun =>
      if lun.status = .creating then .error (.http 400 "Cannot delete LUN while creating")
      else if lun.status = .deleting then .error (.http 400 "LUN already being deleted")
      else if lun.isAssigned then
        .error (.http 400 "Cannot delete assigned LUN - unassign first")
      else
        .ok ((), { s.saveLun { lun with status := .deleting } with
          tasks := s.tasks ++ [.delete lunId] })

/-- `_delete_lun_background`; the results of its commands are not looked at. -/
def deleteLunBackground (san : San) (s : LunState) (lunId : String) : LunState :=
  match s.luns.get? lunId with
  | none => s
  | some lun =>
      let gone := fun (s : LunState) =>
        { s with luns := s.luns.delete (fun l => l.id = lunId) }
      match san.backends.get? lun.backendId with
      | none => gone s
      | some _ =>
          let t := deleteExport s.target lun.lunNumber
          gone (s.setTarget ((deleteBackingstore t lun.name).toOption.getD t))

/-- `assign_lun`; setting CHAP credentials leaves the list of ACLs alone. -/
def assignLun (san : San) (s : LunState) (lunId nodeId : String) :
    Except Lifecycle.Exn (IscsiLun × LunState) :=
  match s.luns.get? lunId with
  | none => .error (.http 404 "LUN not found")
  | some lun =>
      if lun.status ≠ .ready ∧ lun.status ≠ .active then
        .error (.http 400 ("Cannot assign LUN in " ++ lun.status.name ++ " status"))
      else if lun.isAssigned then .error (.http 400 "LUN already assigned")
      else match san.nodes.get? nodeId with
        | none => .error (.http 404 "Node not found")
        | some node =>
            match san.backends.get? lun.backendId with
            | none => .error (.http 500 "Backend not found for LUN")
            | some _ =>
                let lun' := { lun with assignedNodeId := some node.id, status := .active }
                let t := createAcl s.target (generateInitiatorIqn node.macAddress)
                .ok (lun', (s.setTarget t).saveLun lun')

/-- `unassign_lun`. -/
def unassignLun (san : San) (s : LunState) (lunId : String) :
    Except Lifecycle.Exn (IscsiLun × LunState) :=
  match s.luns.get? lunId with
  | none => .error (.http 404 "LUN not found")
  | some lun =>
      if lun.isAssigned = false then .error (.http 400 "LUN not assigned")
      else
        let lun' := { lun with assignedNodeId := none, status := .ready }
        let s₁ := match san.nodes.get? (lun.assignedNodeId.getD ""),
            san.backends.get? lun.backendId with
          | some node, some _ =>
              s.setTarget (deleteAcl s.target (generateInitiatorIqn node.macAddress))
          | _, _ => s
        .ok (lun', s₁.saveLun lun')

/-! ## §4. The machine. -/

/-- The requests, and the background tasks in their turn. -/
inductive LunOp where
  | create (uuid secret : String) (body : IscsiLunCreate)
  | update (lunId secret : String) (body : IscsiLunUpdate)
  | delete (lunId : String)
  | assign (lunId nodeId : String)
  | unassign (lunId : String)
  | finish (task : LunTask)

def runTask (san : San) (s : LunState) : LunTask → LunState
  | .create lunId => createLunBackground san s lunId
  | .delete lunId => deleteLunBackground san s lunId

def lunStep (san : San) (s : LunState) : LunOp → LunState
  | .create uuid secret body => commitOrRollback s (createLun san s uuid secret body)
  | .update lunId secret body => commitOrRollback s (updateLun s lunId secret body)
  | .delete lunId => commitOrRollback s (deleteLun s lunId)
  | .assign lunId nodeId => commitOrRollback s (assignLun san s lunId nodeId)
  | .unassign lunId => commitOrRollback s (unassignLun san s lunId)
  | .finish task =>
      if task ∈ s.tasks then runTask san { s with tasks := s.tasks.erase task } task else s

/-! ## §5. The numbers. -/

/-- An iSCSI backend, a name that no LUN has and an id that none has. -/
def createWellFormed (san : San) (s : LunState) (uuid : String) (body : IscsiLunCreate) : Bool :=
  (san.backends.get? body.backendId).any (fun b => b.isIscsi)
    && s.luns.rows.all (fun l => l.name ≠ body.name) && s.luns.rows.all (fun l => l.id ≠ uuid)

/-- **THE NUMBERING OF LUNS**: a LUN with an unused name on an iSCSI backend is created, with
a number that no other LUN of the backend has. -/
def NumberingLaw (san : San) (s : LunState) : LunOp → Prop
  | .create uuid secret body => createWellFormed san s uuid body = true →
      ∃ lun s', createLun san s uuid secret body = .ok (lun, s') ∧
        ∀ l ∈ s.luns.rows, l.backendId = body.backendId → l.lunNumber ≠ lun.lunNumber
  | _ => True

/-- The backend has at most one LUN. -/
def numberingMeets (san : San) (s : LunState) : LunOp → Bool
  | .create uuid _ body =>
      !createWellFormed san s uuid body || (s.lunsOf body.backendId).length ≤ 1
  | _ => true

/-- The IQN of a LUN is that of its name. -/
def LunsOk (s : LunState) : Prop := ∀ l ∈ s.luns.rows, l.iqn = generateIqn l.name

theorem generateIqn_injective {a b : String} (h : generateIqn a = generateIqn b) : a = b := by
  have hlist := congrArg String.toList h
  unfold generateIqn at hlist
  rw [String.toList_append, String.toList_append, List.append_cancel_left_eq] at hlist
  exact String.toList_inj.mp hlist

/-- What a request that created a LUN has done. -/
structure Created (san : San) (s : LunState) (uuid : String) (body : IscsiLunCreate)
    (lun : IscsiLun) (s' : LunState) : Prop where
  backend : ∃ backend, san.backends.get? body.backendId = some backend ∧ backend.isIscsi = true
  unusedName : ∀ l ∈ s.luns.rows, l.name ≠ body.name
  unusedId : ∀ l ∈ s.luns.rows, l.id ≠ uuid
  atMostOne : (s.lunsOf body.backendId).length ≤ 1
  number : ∀ l ∈ s.luns.rows, l.backendId = body.backendId → l.lunNumber ≠ lun.lunNumber
  id : lun.id = uuid
  name : lun.name = body.name
  backendId : lun.backendId = body.backendId
  iqn : lun.iqn = generateIqn body.name
  status : lun.status = .creating
  assigned : lun.assignedNodeId = none
  rows : s'.luns.rows = s.luns.rows ++ [lun]
  target : s'.target = s.target
  tasks : s'.tasks = s.tasks ++ [.create uuid]

theorem scalarOneOrNone_eq_none {α : Type} {rows : List α}
    (h : scalarOneOrNone rows = .ok none) : rows = [] := by
  unfold scalarOneOrNone at h
  split at h
  next => rfl
  next => cases h
  next => cases h

theorem scalarOneOrNone_sorted {rows : List IscsiLun} {row : Option IscsiLun}
    (h : scalarOneOrNone (rows.mergeSort (fun a b => b.lunNumber ≤ a.lunNumber)) = .ok row) :
    rows = row.toList := by
  have hlen : rows.length ≤ 1 := by
    rw [← List.length_mergeSort]
    exact scalarOneOrNone_returns_iff.mp ⟨row, h⟩
  cases rows with
  | nil =>
      rw [List.mergeSort_nil] at h
      injection h with h
      rw [← h]
      rfl
  | cons a rest =>
      cases rest with
      | nil =>
          rw [List.mergeSort_singleton] at h
          injection h with h
          rw [← h]
          rfl
      | cons b rest => simp at hlen

theorem createLun_eq_ok {san : San} {s s' : LunState} {uuid secret : String}
    {body : IscsiLunCreate} {lun : IscsiLun}
    (h : createLun san s uuid secret body = .ok (lun, s')) : Created san s uuid body lun s' := by
  unfold createLun at h
  split at h
  next => cases h
  next backend hbackend =>
    obtain ⟨hiscsi, h⟩ := ite_error_eq_ok.mp h
    obtain ⟨duplicate, hdup, h⟩ := bind_eq_ok.mp h
    obtain ⟨hnone, h⟩ := ite_error_eq_ok.mp h
    obtain ⟨lastLun, hlast, h⟩ := bind_eq_ok.mp h
    dsimp only at h
    obtain ⟨-, h⟩ := ite_error_eq_ok.mp h
    split at h
    next luns hins =>
      obtain ⟨rfl, rfl⟩ := ok_pair_inj h
      obtain ⟨hfresh, hrows⟩ := Table.insert?_eq_some_iff.mp hins
      have hluns : s.lunsOf body.backendId = lastLun.toList := scalarOneOrNone_sorted hlast
      have hunused : ∀ l ∈ s.luns.rows, l.name ≠ body.name := by
        -- a row with the name would have been found
        rw [not_not.mp hnone] at hdup
        intro l hl
        simpa using List.filter_eq_nil_iff.mp (scalarOneOrNone_eq_none hdup) l hl
      refine ⟨⟨backend, hbackend, by simpa using hiscsi⟩, hunused, hfresh, ?_, ?_, rfl, rfl, rfl,
        rfl, rfl, rfl, hrows, rfl, rfl⟩
      · rw [hluns]
        cases lastLun <;> simp
      · intro l hl hb
        have hmem : l ∈ s.lunsOf body.backendId := List.mem_filter.mpr ⟨hl, by simpa using hb⟩
        rw [hluns] at hmem
        obtain rfl : lastLun = some l := Option.mem_toList.mp hmem
        show l.lunNumber ≠ l.lunNumber + 1
        omega
    next => cases h

/-- **CREATING A LUN** with an unused name works, and the number is its own, exactly if the
backend has at most one LUN so far. -/
theorem createLun_numbered_iff {san : San} {s : LunState} {uuid secret : String}
    {body : IscsiLunCreate} (hok : LunsOk s)
    (hbody : createWellFormed san s uuid body = true) :
    (∃ lun s', createLun san s uuid secret body = .ok (lun, s') ∧
        ∀ l ∈ s.luns.rows, l.backendId = body.backendId → l.lunNumber ≠ lun.lunNumber)
      ↔ (s.lunsOf body.backendId).length ≤ 1 := by
  constructor
  · rintro ⟨lun, s', h, -⟩
    exact (createLun_eq_ok h).atMostOne
  · intro hlen
    unfold createWellFormed at hbody
    simp only [Bool.and_eq_true, List.all_eq_true, decide_eq_true_eq] at hbody
    obtain ⟨⟨hiscsi, hname⟩, hid⟩ := hbody
    obtain ⟨backend, hget, hkind⟩ := (Option.any_eq_true ..).mp hiscsi
    have hdup : scalarOneOrNone (s.luns.rows.filter (fun l => l.name = body.name)) = .ok none := by
      have hnil : s.luns.rows.filter (fun l => l.name = body.name) = [] := by
        rw [List.filter_eq_nil_iff]
        intro l hl
        simpa using hname l hl
      rw [hnil]
      rfl
    -- IQNs are unused because names are: every row has the IQN of its name
    have hiqn : s.luns.rows.any (fun l => l.iqn = generateIqn body.name) = false := by
      rw [List.any_eq_false]
      intro l hl heq
      rw [decide_eq_true_eq, hok l hl] at heq
      exact hname l hl (generateIqn_injective heq)
    -- the query for the last number is the one that fails on two rows and more
    obtain ⟨lastLun, hlast⟩ : ∃ row, scalarOneOrNone ((s.lunsOf body.backendId).mergeSort
        (fun a b => b.lunNumber ≤ a.lunNumber)) = .ok row :=
      scalarOneOrNone_returns_iff.mpr ((List.length_mergeSort _).trans_le hlen)
    have hreturns : ∃ r, createLun san s uuid secret body = .ok r := by
      unfold createLun
      simp only [hget, hkind, hdup, hlast, hiqn, bind, Except.bind]
      simp only [Bool.true_eq_false, Bool.false_eq_true, ne_eq, not_true_eq_false, if_false]
      split
      next => exact ⟨_, rfl⟩
      next hins =>
        exact absurd hins (Option.ne_none_iff_exists'.mpr (Table.exists_insert? hid))
    obtain ⟨⟨lun, s'⟩, h⟩ := hreturns
    exact ⟨lun, s', h, (createLun_eq_ok h).number⟩

/-! ## §6. What the other operations did. -/

theorem mem_saveLun {s : LunState} {lun l : IscsiLun} (h : l ∈ (s.saveLun lun).luns.rows) :
    l = lun ∨ l ∈ s.luns.rows := by
  obtain ⟨x, hx, rfl⟩ := List.mem_map.mp h
  by_cases hk : x.id = lun.id
  · exact .inl (if_pos hk)
  · rw [if_neg hk]
    exact .inr hx

theorem LunsOk.saveLun {s : LunState} (hok : LunsOk s) (lun : IscsiLun)
    (h : lun.iqn = generateIqn lun.name) : LunsOk (s.saveLun lun) := by
  intro l hl
  rcases mem_saveLun hl with rfl | hl
  · exact h
  · exact hok l hl

/-- What the setting of CHAP leaves alone. -/
structure SameLun (lun lun' : IscsiLun) : Prop where
  id : lun'.id = lun.id
  name : lun'.name = lun.name
  iqn : lun'.iqn = lun.iqn
  backendId : lun'.backendId = lun.backendId
  status : lun'.status = lun.status
  assigned : lun'.assignedNodeId = lun.assignedNodeId

theorem IscsiLun.setChapEnabled_same (lun : IscsiLun) (secret : String)
    (chapEnabled : Option Bool) : SameLun lun (lun.setChapEnabled secret chapEnabled) := by
  rcases chapEnabled with _ | _ | _
  · exact ⟨rfl, rfl, rfl, rfl, rfl, rfl⟩
  · exact ⟨rfl, rfl, rfl, rfl, rfl, rfl⟩
  · unfold setChapEnabled
    dsimp only
    split <;> exact ⟨rfl, rfl, rfl, rfl, rfl, rfl⟩

/-- What a request that updated a LUN has done. -/
structure Updated (s : LunState) (lunId : String) (body : IscsiLunUpdate) (lun lun' : IscsiLun)
    (s' : LunState) : Prop where
  found : s.luns.get? lunId = some lun
  settled : lun.status = .ready ∨ lun.status = .active
  unused : ∀ name, body.name = some name → ∀ l ∈ s.luns.rows, l.id ≠ lunId → l.name ≠ name
  id : lun'.id = lun.id
  name : lun'.name = body.name.getD lun.name
  iqn : lun.iqn = generateIqn lun.name → lun'.iqn = generateIqn lun'.name
  backendId : lun'.backendId = lun.backendId
  status : lun'.status = lun.status
  assigned : lun'.assignedNodeId = lun.assignedNodeId
  state : s' = s.saveLun lun'

theorem updateLun_eq_ok {s s' : LunState} {lunId secret : String} {body : IscsiLunUpdate}
    {lun' : IscsiLun} (h : updateLun s lunId secret body = .ok (lun', s')) :
    ∃ lun, Updated s lunId body lun lun' s' := by
  unfold updateLun at h
  split at h
  next => cases h
  next lun hfound =>
    obtain ⟨hstatus, h⟩ := ite_error_eq_ok.mp h
    obtain ⟨duplicate, hdup, h⟩ := bind_eq_ok.mp h
    obtain ⟨hnone, h⟩ := ite_error_eq_ok.mp h
    dsimp only at h
    obtain ⟨-, h⟩ := ite_error_eq_ok.mp h
    obtain ⟨rfl, rfl⟩ := ok_pair_inj h
    have hunused : ∀ name, body.name = some name →
        ∀ l ∈ s.luns.rows, l.id ≠ lunId → l.name ≠ name := by
      intro name hname l hl hid heq
      rw [not_not.mp hnone, hname] at hdup
      refine List.filter_eq_nil_iff.mp (scalarOneOrNone_eq_none hdup) l hl ?_
      simpa using ⟨heq, hid⟩
    have hsettled : lun.status = .ready ∨ lun.status = .active := by
      by_contra hne
      exact hstatus (not_or.mp hne)
    have hchap := (lun.rename body.name).setChapEnabled_same secret body.chapEnabled
    refine ⟨lun, hfound, hsettled, hunused, hchap.id.trans ?_, hchap.name.trans ?_, ?_,
      hchap.backendId.trans ?_, hchap.status.trans ?_, hchap.assigned.trans ?_, rfl⟩
    case refine_3 =>
      intro hiqn
      rw [hchap.iqn, hchap.name]
      cases body.name with
      | none => exact hiqn
      | some name => rfl
    all_goals cases body.name <;> rfl

/-- What a request that marked a LUN for deletion has done. -/
structure Marked (s : LunState) (lunId : String) (lun : IscsiLun) (s' : LunState) : Prop where
  found : s.luns.get? lunId = some lun
  notCreating : lun.status ≠ .creating
  notDeleting : lun.status ≠ .deleting
  free : lun.isAssigned = false
  state : s' = { s.saveLun { lun with status := .deleting } with
    tasks := s.tasks ++ [.delete lunId] }

theorem deleteLun_eq_ok {s s' : LunState} {lunId : String} {u : Unit}
    (h : deleteLun s lunId = .ok (u, s')) : ∃ lun, Marked s lunId lun s' := by
  unfold deleteLun at h
  split at h
  next => cases h
  next lun hfound =>
    obtain ⟨hcreating, h⟩ := ite_error_eq_ok.mp h
    obtain ⟨hdeleting, h⟩ := ite_error_eq_ok.mp h
    obtain ⟨hfree, h⟩ := ite_error_eq_ok.mp h
    obtain ⟨-, rfl⟩ := ok_pair_inj h
    exact ⟨lun, hfound, hcreating, hdeleting, by simpa using hfree, rfl⟩

/-- What a request that assigned a LUN has done. -/
structure Assigned (san : San) (s : LunState) (lunId nodeId : String) (lun : IscsiLun)
    (node : SanNode) (s' : LunState) : Prop where
  found : s.luns.get? lunId = some lun
  settled : lun.status = .ready ∨ lun.status = .active
  free : lun.isAssigned = false
  nodeFound : san.nodes.get? nodeId = some node
  state : s' = (s.setTarget (createAcl s.target (generateInitiatorIqn node.macAddress))).saveLun
    { lun with assignedNodeId := some node.id, status := .active }

theorem assignLun_eq_ok {san : San} {s s' : LunState} {lunId nodeId : String} {lun' : IscsiLun}
    (h : assignLun san s lunId nodeId = .ok (lun', s')) :
    ∃ lun node, Assigned san s lunId nodeId lun node s' := by
  unfold assignLun at h
  split at h
  next => cases h
  next lun hfound =>
    obtain ⟨hstatus, h⟩ := ite_error_eq_ok.mp h
    obtain ⟨hfree, h⟩ := ite_error_eq_ok.mp h
    split at h
    next => cases h
    next node hnode =>
      split at h
      next => cases h
      next =>
        obtain ⟨-, rfl⟩ := ok_pair_inj h
        have hsettled : lun.status = .ready ∨ lun.status = .active := by
          by_contra hne
          exact hstatus (not_or.mp hne)
        exact ⟨lun, node, hfound, hsettled, by simpa using hfree, hnode, rfl⟩

/-- The access of the node of a LUN is taken away. -/
def revokeAccess (san : San) (s : LunState) (lun : IscsiLun) : LunState :=
  match san.nodes.get? (lun.assignedNodeId.getD ""), san.backends.get? lun.backendId with
  | some node, some _ =>
      s.setTarget (deleteAcl s.target (generateInitiatorIqn node.macAddress))
  | _, _ => s

theorem unassignLun_eq_ok {san : San} {s s' : LunState} {lunId : String} {lun' : IscsiLun}
    (h : unassignLun san s lunId = .ok (lun', s')) :
    ∃ lun, s.luns.get? lunId = some lun ∧ lun.isAssigned = true ∧
      s' = (revokeAccess san s lun).saveLun
        { lun with assignedNodeId := none, status := .ready } := by
  unfold unassignLun at h
  split at h
  next => cases h
  next lun hfound =>
    obtain ⟨hassigned, h⟩ := ite_error_eq_ok.mp h
    obtain ⟨-, rfl⟩ := ok_pair_inj h
    exact ⟨lun, hfound, by simpa using hassigned, rfl⟩

theorem revokeAccess_luns (san : San) (s : LunState) (lun : IscsiLun) :
    (revokeAccess san s lun).luns = s.luns := by
  unfold revokeAccess
  split <;> rfl

/-- The creation of a LUN changes its record in the status and the error message alone. -/
theorem createLunBackground_luns (san : San) (s : LunState) (lunId : String) :
    (createLunBackground san s lunId).luns = s.luns ∨
      ∃ lun status message, s.luns.get? lunId = some lun ∧
        (createLunBackground san s lunId).luns
          = s.luns.put { lun with status, errorMessage := message } := by
  unfold createLunBackground
  split
  next => exact .inl rfl
  next lun hfound =>
    refine .inr ⟨lun, ?_⟩
    dsimp only
    split
    next => exact ⟨_, _, hfound, rfl⟩
    next =>
      split
      next => exact ⟨_, _, hfound, rfl⟩
      next =>
        split
        next => exact ⟨_, _, hfound, rfl⟩
        next => exact ⟨_, _, hfound, rfl⟩

/-- The deletion of a LUN takes its record away. -/
theorem deleteLunBackground_luns (san : San) (s : LunState) (lunId : String) :
    ∀ l ∈ (deleteLunBackground san s lunId).luns.rows, l ∈ s.luns.rows := by
  intro l hl
  unfold deleteLunBackground at hl
  split at hl
  next => exact hl
  next =>
    dsimp only at hl
    split at hl
    next => exact (Table.mem_delete.mp hl).1
    next => exact (Table.mem_delete.mp hl).1

theorem get?_mem {s : LunState} {lunId : String} {lun : IscsiLun}
    (h : s.luns.get? lunId = some lun) : lun ∈ s.luns.rows ∧ lun.id = lunId :=
  Table.get?_eq_some_iff.mp h

/-- **EVERY STEP** leaves the IQN of a LUN that of its name. -/
theorem lunStep_lunsOk (san : San) (s : LunState) (op : LunOp) (hok : LunsOk s) :
    LunsOk (lunStep san s op) := by
  cases op with
  | create uuid secret body =>
      refine commitOrRollback_preserves hok (fun lun s' h => ?_)
      have hc := createLun_eq_ok h
      intro l hl
      rw [hc.rows, List.mem_append, List.mem_singleton] at hl
      rcases hl with hl | rfl
      · exact hok l hl
      · rw [hc.iqn, hc.name]
  | update lunId secret body =>
      refine commitOrRollback_preserves hok (fun lun' s' h => ?_)
      obtain ⟨lun, hu⟩ := updateLun_eq_ok h
      rw [hu.state]
      exact hok.saveLun lun' (hu.iqn (hok lun (get?_mem hu.found).1))
  | delete lunId =>
      refine commitOrRollback_preserves hok (fun _ s' h => ?_)
      obtain ⟨lun, hm⟩ := deleteLun_eq_ok h
      rw [hm.state]
      exact hok.saveLun { lun with status := .deleting } (hok lun (get?_mem hm.found).1)
  | assign lunId nodeId =>
      refine commitOrRollback_preserves hok (fun lun' s' h => ?_)
      obtain ⟨lun, node, ha⟩ := assignLun_eq_ok h
      rw [ha.state]
      exact LunsOk.saveLun (s := s.setTarget _) hok _ (hok lun (get?_mem ha.found).1)
  | unassign lunId =>
      refine commitOrRollback_preserves hok (fun lun' s' h => ?_)
      obtain ⟨lun, hfound, -, rfl⟩ := unassignLun_eq_ok h
      have hrevoked : LunsOk (revokeAccess san s lun) := by
        unfold LunsOk
        rw [revokeAccess_luns]
        exact hok
      exact hrevoked.saveLun _ (hok lun (get?_mem hfound).1)
  | finish task =>
      -- a task that is not pending is not run; one that is writes a status, or removes a row
      show LunsOk (if task ∈ s.tasks then _ else _)
      split
      next =>
        cases task with
        | create lunId =>
            rcases createLunBackground_luns san
                { s with tasks := s.tasks.erase (.create lunId) } lunId
              with heq | ⟨lun, status, message, hfound, heq⟩
            · unfold LunsOk runTask
              rw [heq]
              exact hok
            · unfold LunsOk runTask
              rw [heq]
              exact hok.saveLun { lun with status, errorMessage := message }
                (hok lun (get?_mem hfound).1)
        | delete lunId =>
            intro l hl
            exact hok l (deleteLunBackground_luns san
              { s with tasks := s.tasks.erase (.delete lunId) } lunId l hl)
      next => exact hok

/-- What is asked of one step holds exactly if the backend has at most one LUN. -/
theorem numberingLaw_iff {san : San} {s : LunState} (op : LunOp) (hok : LunsOk s) :
    NumberingLaw san s op ↔ numberingMeets san s op = true := by
  cases op with
  | create uuid secret body =>
      simp only [NumberingLaw, numberingMeets, Bool.or_eq_true, Bool.not_eq_true',
        decide_eq_true_eq]
      by_cases hbody : createWellFormed san s uuid body = true
      · simp only [hbody, forall_const, Bool.true_eq_false, false_or]
        exact createLun_numbered_iff hok hbody
      · simp [hbody]
  | update | delete | assign | unassign | finish => simp [NumberingLaw, numberingMeets]

/-- **NUMBERS OF LUNS.**  From any LUNs, the runs in which every LUN with an unused name on
an iSCSI backend is created, with a number of its own, are those in which the backend has at
most one LUN whenever one is created. -/
theorem lun_numbering_iff (san : San) (s : LunState) (hok : LunsOk s) (ops : List LunOp) :
    Along (lunStep san) (NumberingLaw san) s ops
      ↔ Along (lunStep san) (fun s op => numberingMeets san s op = true) s ops :=
  along_iff_of_step (fun s op hok _ => lunStep_lunsOk san s op hok)
    (fun _ op hok => numberingLaw_iff op hok) hok

theorem lunsOk_empty : LunsOk LunState.empty := fun _ hl => absurd hl List.not_mem_nil

/-- One iSCSI backend and one node. -/
def smallSan : San where
  backends := ⟨[{ id := "b" }], List.nodup_singleton _⟩
  nodes := ⟨[{ id := "n", macAddress := "02:0A" }], List.nodup_singleton _⟩
  nodeIds := by simp
  initiators := by simp

/-- A LUN on its backend. -/
def newLun (name : String) : LunOp :=
  .create ("id-" ++ name) "" { name, sizeGb := 1, backendId := "b", purpose := .bootFromSan }

/-- Two LUNs are created, and there are fewer than two when the last of them is. -/
theorem lun_numbering_iff_two :
    Along (lunStep smallSan) (fun s op => numberingMeets smallSan s op = true) LunState.empty
        [newLun "aa", newLun "bb"] ∧
      Along (lunStep smallSan) (NumberingLaw smallSan) LunState.empty
        [newLun "aa", newLun "bb"] := by
  have hmeets : Along (lunStep smallSan) (fun s op => numberingMeets smallSan s op = true)
      LunState.empty [newLun "aa", newLun "bb"] := by decide +kernel
  exact ⟨hmeets, (lun_numbering_iff smallSan LunState.empty lunsOk_empty _).mpr hmeets⟩

/-- The third LUN of a backend cannot be created. -/
theorem third_lun_refused :
    ¬ Along (lunStep smallSan) (NumberingLaw smallSan) LunState.empty
      [newLun "aa", newLun "bb", newLun "cc"] := by
  rintro ⟨-, -, hlaw, -⟩
  have hok : LunsOk (lunStep smallSan (lunStep smallSan LunState.empty (newLun "aa"))
      (newLun "bb")) :=
    lunStep_lunsOk _ _ _ (lunStep_lunsOk _ _ _ lunsOk_empty)
  exact absurd ((numberingLaw_iff _ hok).mp hlaw) (by decide +kernel)

end PureBoot.Storage
