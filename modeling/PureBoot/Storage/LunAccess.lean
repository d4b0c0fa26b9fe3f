/-
  PureBoot.Storage.LunAccess — the ACCESS a target gives, and the LUN RECORDS.

  A LUN that is being created or deleted is left alone by every request, so its background
  task is one step.  Between the tasks the target of a backend should let in exactly the nodes
  that a LUN of the backend is assigned to, and hold exactly the backing stores of its LUNs.
  The relation is carried through unfinished tasks by `AccessInv`, in which a store exists
  for every record that is past its creation.  Three operations break it: a rename, since the
  store keeps the old name; taking one of several LUNs from a node, since the access of the
  node goes with it; and a LUN on another backend, since the two share the one target.  A name
  that the target refuses leaves a record without a store.

  Main results:
    * `lunStep_accessInv` — every other step keeps the relation;
    * `lun_access_follows_assignment` — it holds in every settled state of a run of them.
-/
import PureBoot.Storage.Luns

namespace PureBoot.Storage

open PureBoot.Lib PureBoot.Lifecycle

/-! ## §1. The relation. -/

def SanNode.initiator (n : SanNode) : String := generateInitiatorIqn n.macAddress

/-- **ACCESS FOLLOWS ASSIGNMENT** on a backend: a node is let in exactly if a LUN of the
backend is assigned to it, and the backing stores are those of the LUNs. -/
structure AccessOk (san : San) (backendId : String) (s : LunState) : Prop where
  acls : ∀ n ∈ san.nodes.rows, n.initiator ∈ s.target.acls
    ↔ ∃ l ∈ s.luns.rows, l.backendId = backendId ∧ l.assignedNodeId = some n.id
  stores : ∀ name, name ∈ s.target.stores
    ↔ ∃ l ∈ s.luns.rows, l.backendId = backendId ∧ l.name = name

/-- The LUN has its backing store, under `name`. -/
def IscsiLun.HasStore (l : IscsiLun) (name : String) : Prop :=
  l.name = name ∧ l.status ≠ .creating

/-- What holds of every record: it is one of the backend. -/
structure LunOk (san : San) (backendId : String) (l : IscsiLun) : Prop where
  noError : l.status ≠ .error
  safeName : validateSafeName l.name = true
  home : l.backendId = backendId
  backend : ∃ b, san.backends.get? l.backendId = some b
  active : l.status = .active ↔ l.assignedNodeId ≠ none
  node : ∀ nodeId, l.assignedNodeId = some nodeId → ∃ n ∈ san.nodes.rows, n.id = nodeId

/-- The relation between records, target and tasks, in every state. -/
structure AccessInv (san : San) (backendId : String) (s : LunState) : Prop where
  rows : ∀ l ∈ s.luns.rows, LunOk san backendId l
  names : ∀ l ∈ s.luns.rows, ∀ m ∈ s.luns.rows, l.name = m.name → l = m
  tasks : s.tasks.Nodup
  creating : ∀ lunId, .create lunId ∈ s.tasks
    ↔ ∃ l ∈ s.luns.rows, l.id = lunId ∧ l.status = .creating
  deleting : ∀ lunId, .delete lunId ∈ s.tasks
    ↔ ∃ l ∈ s.luns.rows, l.id = lunId ∧ l.status = .deleting
  stores : ∀ name, name ∈ s.target.stores ↔ ∃ l ∈ s.luns.rows, l.HasStore name
  acls : ∀ n ∈ san.nodes.rows, n.initiator ∈ s.target.acls
    ↔ ∃ l ∈ s.luns.rows, l.assignedNodeId = some n.id

/-- With no task left, every LUN has its store. -/
theorem AccessInv.ok {san : San} {backendId : String} {s : LunState}
    (h : AccessInv san backendId s) (hidle : s.tasks = []) : AccessOk san backendId s where
  acls := by
    intro n hn
    rw [h.acls n hn]
    constructor
    · rintro ⟨l, hl, hnode⟩
      exact ⟨l, hl, (h.rows l hl).home, hnode⟩
    · rintro ⟨l, hl, -, hnode⟩
      exact ⟨l, hl, hnode⟩
  stores := by
    intro name
    rw [h.stores]
    constructor
    · rintro ⟨l, hl, hn, -⟩
      exact ⟨l, hl, (h.rows l hl).home, hn⟩
    · rintro ⟨l, hl, -, hn⟩
      refine ⟨l, hl, hn, fun hcreating => ?_⟩
      have htask := (h.creating l.id).mpr ⟨l, hl, rfl, hcreating⟩
      rw [hidle] at htask
      cases htask

theorem accessInv_empty (san : San) (backendId : String) :
    AccessInv san backendId LunState.empty := by
  constructor <;> simp [LunState.empty]

/-! ## §2. The steps that keep it. -/

/-- A LUN that is created is one of the backend, with a name the target accepts; a LUN keeps
its name; a node that is taken a LUN from has no other one. -/
def accessMeets (san : San) (backendId : String) (s : LunState) : LunOp → Bool
  | .create uuid _ body =>
      !(createWellFormed san s uuid body && decide ((s.lunsOf body.backendId).length ≤ 1))
        || (validateSafeName body.name && decide (body.backendId = backendId))
  | .update lunId _ body =>
      (s.luns.get? lunId).all (fun lun =>
        (lun.status ≠ .ready && lun.status ≠ .active)
          || body.name.all (fun name => name = lun.name
            || s.luns.rows.any (fun l => l.name = name && l.id ≠ lunId)))
  | .unassign lunId =>
      (s.luns.get? lunId).all (fun lun => lun.assignedNodeId = none
        || s.luns.rows.all (fun l => l.id = lun.id
          || l.assignedNodeId ≠ lun.assignedNodeId))
  | _ => true

variable {san : San} {backendId : String} {s : LunState}

theorem LunOk.isAssigned_iff {l : IscsiLun} (h : LunOk san backendId l) :
    l.isAssigned = true ↔ l.assignedNodeId ≠ none := by
  unfold IscsiLun.isAssigned truthy
  cases hnode : l.assignedNodeId with
  | none => simp
  | some nodeId =>
      obtain ⟨n, hn, rfl⟩ := h.node nodeId hnode
      simpa using san.nodeIds n hn

/-- The tasks of a record, read off its status. -/
theorem AccessInv.task_iff (h : AccessInv san backendId s) {lun : IscsiLun}
    (hlun : lun ∈ s.luns.rows) :
    (.create lun.id ∈ s.tasks ↔ lun.status = .creating) ∧
      (.delete lun.id ∈ s.tasks ↔ lun.status = .deleting) := by
  have hown : ∀ status, (∃ l ∈ s.luns.rows, l.id = lun.id ∧ l.status = status)
      ↔ lun.status = status := by
    intro status
    constructor
    · rintro ⟨l, hl, hid, hstatus⟩
      rwa [s.luns.eq_of_key_eq hl hlun hid] at hstatus
    · intro hstatus
      exact ⟨lun, hlun, rfl, hstatus⟩
  exact ⟨(h.creating lun.id).trans (hown _), (h.deleting lun.id).trans (hown _)⟩

/-- The store of a record, read off its status. -/
theorem AccessInv.store_iff (h : AccessInv san backendId s) {lun : IscsiLun}
    (hlun : lun ∈ s.luns.rows) : lun.name ∈ s.target.stores ↔ lun.status ≠ .creating := by
  rw [h.stores]
  constructor
  · rintro ⟨l, hl, hname, hstatus⟩
    rwa [h.names l hl lun hlun hname] at hstatus
  · intro hstatus
    exact ⟨lun, hlun, rfl, hstatus⟩

/-- **A RECORD IS REWRITTEN**: the relation is kept if the tasks and the store follow the
status, and the access of each node the record and the others. -/
theorem AccessInv.put (h : AccessInv san backendId s) {lun : IscsiLun} (lun' : IscsiLun)
    (hlun : lun ∈ s.luns.rows) (hid : lun'.id = lun.id) (hname : lun'.name = lun.name)
    (hok : LunOk san backendId lun') {target : Target} {tasks : List LunTask}
    (hnodup : tasks.Nodup)
    (hcreate : .create lun.id ∈ tasks ↔ lun'.status = .creating)
    (hdelete : .delete lun.id ∈ tasks ↔ lun'.status = .deleting)
    (hothers : ∀ lunId ≠ lun.id, (.create lunId ∈ tasks ↔ .create lunId ∈ s.tasks) ∧
      (.delete lunId ∈ tasks ↔ .delete lunId ∈ s.tasks))
    (hstore : lun.name ∈ target.stores ↔ lun'.status ≠ .creating)
    (hstores : ∀ name ≠ lun.name, (name ∈ target.stores ↔ name ∈ s.target.stores))
    (hacls : ∀ n ∈ san.nodes.rows, n.initiator ∈ target.acls ↔ lun'.assignedNodeId = some n.id
      ∨ ∃ l ∈ s.luns.rows, l.id ≠ lun.id ∧ l.assignedNodeId = some n.id) :
    AccessInv san backendId { luns := s.luns.put lun', target, tasks } := by
  have hput : ∀ {P : IscsiLun → Prop}, (∃ l ∈ (s.luns.put lun').rows, P l)
      ↔ P lun' ∨ ∃ l ∈ s.luns.rows, l.id ≠ lun.id ∧ P l := Table.exists_mem_put_iff hlun hid
  have hmem : ∀ l ∈ (s.luns.put lun').rows, l = lun' ∨ (l ∈ s.luns.rows ∧ l.id ≠ lun.id) := by
    intro l hl
    have hor := (Table.mem_put_iff ⟨lun, hlun, hid.symm⟩).mp hl
    rwa [hid] at hor
  have hown : ∀ {status}, (∃ l ∈ (s.luns.put lun').rows, l.id = lun.id ∧ l.status = status)
      ↔ lun'.status = status := by
    intro status
    rw [hput]
    constructor
    · rintro (⟨-, hstatus⟩ | ⟨l, -, hne, hid, -⟩)
      · exact hstatus
      · exact absurd hid hne
    · intro hstatus
      exact .inl ⟨hid, hstatus⟩
  have hother : ∀ {status lunId}, lunId ≠ lun.id →
      ((∃ l ∈ (s.luns.put lun').rows, l.id = lunId ∧ l.status = status)
        ↔ ∃ l ∈ s.luns.rows, l.id = lunId ∧ l.status = status) := by
    intro status lunId hne
    refine Table.exists_mem_put_congr hlun hid ?_
    simp [hid, Ne.symm hne]
  constructor
  · intro l hl
    rcases hmem l hl with rfl | ⟨hl, -⟩
    · exact hok
    · exact h.rows l hl
  · -- the name of the record is still its own
    have hfresh : ∀ l ∈ s.luns.rows, l.id ≠ lun.id → l.name ≠ lun'.name := by
      intro l hl hne heq
      exact hne (congrArg IscsiLun.id (h.names l hl lun hlun (heq.trans hname)))
    intro l hl m hm heq
    rcases hmem l hl, hmem m hm with ⟨rfl | ⟨hl₀, hne⟩, rfl | ⟨hm₀, hne'⟩⟩
    · rfl
    · exact absurd heq.symm (hfresh m hm₀ hne')
    · exact absurd heq (hfresh l hl₀ hne)
    · exact h.names l hl₀ m hm₀ heq
  · exact hnodup
  -- the tasks follow the status of the row
  · intro lunId
    by_cases heq : lunId = lun.id
    · rw [heq, hcreate, hown]
    · rw [(hothers lunId heq).1, h.creating, hother heq]
  · intro lunId
    by_cases heq : lunId = lun.id
    · rw [heq, hdelete, hown]
    · rw [(hothers lunId heq).2, h.deleting, hother heq]
  -- no other record has the name, so the store follows this one
  · intro name
    by_cases heq : name = lun.name
    · rw [heq, hstore, hput]
      constructor
      · intro hstatus
        exact .inl ⟨hname, hstatus⟩
      · rintro (⟨-, hstatus⟩ | ⟨l, hl, hne, hname, -⟩)
        · exact hstatus
        · exact absurd (congrArg IscsiLun.id (h.names l hl lun hlun hname)) hne
    · have hnot : ∀ {l : IscsiLun}, l.name = lun.name → ¬ l.HasStore name := by
        rintro l hn ⟨rfl, -⟩
        exact heq hn
      rw [hstores name heq, h.stores]
      exact (Table.exists_mem_put_congr hlun hid
        (iff_of_false (hnot hname) (hnot rfl))).symm
  · intro n hn
    rw [hput]
    exact hacls n hn

/-- The access of a node, by a record and by the others. -/
theorem AccessInv.acls_iff (h : AccessInv san backendId s) {lun : IscsiLun}
    (hlun : lun ∈ s.luns.rows) {n : SanNode} (hn : n ∈ san.nodes.rows) :
    n.initiator ∈ s.target.acls ↔ lun.assignedNodeId = some n.id
      ∨ ∃ l ∈ s.luns.rows, l.id ≠ lun.id ∧ l.assignedNodeId = some n.id :=
  (h.acls n hn).trans (Table.exists_mem_iff hlun)

theorem createLun_accessInv {s' : LunState} (h : AccessInv san backendId s)
    {uuid secret : String} {body : IscsiLunCreate} {lun : IscsiLun}
    (hmeets : accessMeets san backendId s (.create uuid secret body) = true)
    (hc : Created san s uuid body lun s') : AccessInv san backendId s' := by
  obtain ⟨backend, hbackend, hiscsi⟩ := hc.backend
  have hwell : createWellFormed san s uuid body = true := by
    unfold createWellFormed
    simp only [hbackend, hiscsi, Option.any_some, Bool.and_eq_true, List.all_eq_true,
      decide_eq_true_eq, true_and]
    exact ⟨hc.unusedName, hc.unusedId⟩
  have hgood : validateSafeName body.name = true ∧ body.backendId = backendId := by
    simpa [accessMeets, hwell, hc.atMostOne] using hmeets
  -- rows are only added, so a question about all rows splits off the new one
  have hex : ∀ {P : IscsiLun → Prop},
      (∃ l ∈ s'.luns.rows, P l) ↔ (∃ l ∈ s.luns.rows, P l) ∨ P lun := by
    intro P
    rw [hc.rows]
    simp only [List.mem_append, List.mem_singleton, or_and_right, exists_or, exists_eq_left]
  have hmem : ∀ l ∈ s'.luns.rows, l ∈ s.luns.rows ∨ l = lun := by
    intro l hl
    rwa [hc.rows, List.mem_append, List.mem_singleton] at hl
  have hunused : ∀ l ∈ s.luns.rows, l.name ≠ lun.name := by
    rw [hc.name]
    exact hc.unusedName
  constructor
  · intro l hl
    rcases hmem l hl with hl | rfl
    · exact h.rows l hl
    · refine ⟨by simp [hc.status], by rw [hc.name]; exact hgood.1,
        hc.backendId.trans hgood.2, ⟨backend, ?_⟩, by simp [hc.status, hc.assigned],
        by simp [hc.assigned]⟩
      rw [hc.backendId]
      exact hbackend
  · intro l hl m hm heq
    rcases hmem l hl, hmem m hm with ⟨hl₀ | rfl, hm₀ | rfl⟩
    · exact h.names l hl₀ m hm₀ heq
    · exact absurd heq (hunused l hl₀)
    · exact absurd heq.symm (hunused m hm₀)
    · rfl
  -- the new task is none that was pending: no row had its id
  · rw [hc.tasks, List.nodup_append]
    refine ⟨h.tasks, List.nodup_singleton _, ?_⟩
    rintro task htask _ hnew rfl
    rw [List.mem_singleton.mp hnew, h.creating] at htask
    obtain ⟨l, hl, hid, -⟩ := htask
    exact hc.unusedId l hl hid
  · intro lunId
    rw [hc.tasks, List.mem_append, List.mem_singleton, h.creating, hex, hc.id, hc.status]
    simp [eq_comm]
  · intro lunId
    rw [hc.tasks, List.mem_append, List.mem_singleton, h.deleting, hex, hc.status]
    simp
  · intro name
    rw [hc.target, h.stores, hex]
    simp [IscsiLun.HasStore, hc.status]
  · intro n hn
    rw [hc.target, h.acls n hn, hex]
    simp [hc.assigned]

theorem updateLun_accessInv {s' : LunState} (h : AccessInv san backendId s)
    {lunId secret : String} {body : IscsiLunUpdate} {lun lun' : IscsiLun}
    (hmeets : accessMeets san backendId s (.update lunId secret body) = true)
    (hu : Updated s lunId body lun lun' s') : AccessInv san backendId s' := by
  obtain ⟨hlun, -⟩ := get?_mem hu.found
  -- the condition lets a LUN be renamed only where the endpoint refuses to
  have hname : lun'.name = lun.name := by
    rw [hu.name]
    cases hbody : body.name with
    | none => rfl
    | some name =>
        simp only [accessMeets, hu.found, hbody, Option.all_some, Bool.or_eq_true,
          Bool.and_eq_true, decide_eq_true_eq, List.any_eq_true] at hmeets
        rcases hmeets with ⟨hready, hactive⟩ | heq | ⟨l, hl, hother, hid⟩
        · exact absurd hu.settled (not_or.mpr ⟨hready, hactive⟩)
        · exact heq
        · exact absurd hother (hu.unused name hbody l hl hid)
  have hl := h.rows lun hlun
  have hok : LunOk san backendId lun' := by
    refine ⟨?_, ?_, hu.backendId.trans hl.home, ?_, ?_, ?_⟩
    · rw [hu.status]
      exact hl.noError
    · rw [hname]
      exact hl.safeName
    · rw [hu.backendId]
      exact hl.backend
    · rw [hu.status, hu.assigned]
      exact hl.active
    · rw [hu.assigned]
      exact hl.node
  rw [hu.state]
  refine h.put lun' hlun hu.id hname hok h.tasks ?_ ?_
    (fun _ _ => ⟨Iff.rfl, Iff.rfl⟩) ?_ (fun _ _ => Iff.rfl) ?_
  · rw [hu.status]
    exact (h.task_iff hlun).1
  · rw [hu.status]
    exact (h.task_iff hlun).2
  · rw [hu.status]
    exact h.store_iff hlun
  · intro n hn
    rw [h.acls_iff hlun hn, hu.assigned]

theorem LunOk.free {l : IscsiLun} (h : LunOk san backendId l) (hfree : l.isAssigned = false) :
    l.assignedNodeId = none := by
  by_contra hne
  rw [h.isAssigned_iff.mpr hne] at hfree
  cases hfree

theorem deleteLun_accessInv {s' : LunState} (h : AccessInv san backendId s) {lunId : String}
    {lun : IscsiLun} (hm : Marked s lunId lun s') : AccessInv san backendId s' := by
  obtain ⟨hlun, rfl⟩ := get?_mem hm.found
  have hl := h.rows lun hlun
  have hnone := hl.free hm.free
  have htasks := h.task_iff hlun
  rw [hm.state]
  refine h.put { lun with status := .deleting } hlun rfl rfl
    ⟨by simp, hl.safeName, hl.home, hl.backend, by simp [hnone], hl.node⟩ ?_ ?_ ?_ ?_ ?_
    (fun _ _ => Iff.rfl) ?_
  · rw [List.nodup_append]
    refine ⟨h.tasks, List.nodup_singleton _, ?_⟩
    rintro task htask _ hnew rfl
    rw [List.mem_singleton.mp hnew] at htask
    exact hm.notDeleting (htasks.2.mp htask)
  · rw [List.mem_append, htasks.1]
    simp [hm.notCreating]
  · simp
  · intro other hne
    simp [hne]
  · rw [show (s.saveLun _).target = s.target from rfl, h.store_iff hlun]
    simp [hm.notCreating]
  · intro n hn
    exact h.acls_iff hlun hn

/-- Nodes are told apart by their initiators. -/
theorem San.initiator_inj {n m : SanNode} (hn : n ∈ san.nodes.rows)
    (hm : m ∈ san.nodes.rows) : n.initiator = m.initiator ↔ n.id = m.id := by
  constructor
  · intro h
    rw [san.initiators n hn m hm h]
  · intro h
    rw [san.nodes.eq_of_key_eq hn hm h]

/-- The node of a LUN that is ready or active is replaced, with its access. -/
theorem AccessInv.reassign (h : AccessInv san backendId s) {lun : IscsiLun}
    (hlun : lun ∈ s.luns.rows) (hsettled : lun.status = .ready ∨ lun.status = .active)
    {nodeId : Option String} {status : LunStatus} (hstatus : status = .ready ∨ status = .active)
    (hok : LunOk san backendId { lun with assignedNodeId := nodeId, status })
    {t : Target} (hstores : t.stores = s.target.stores)
    (hacls : ∀ n ∈ san.nodes.rows, n.initiator ∈ t.acls ↔ nodeId = some n.id
      ∨ ∃ l ∈ s.luns.rows, l.id ≠ lun.id ∧ l.assignedNodeId = some n.id) :
    AccessInv san backendId
      ((s.setTarget t).saveLun { lun with assignedNodeId := nodeId, status }) := by
  have htasks := h.task_iff hlun
  have hkept : (s.setTarget t).target.stores = s.target.stores := hstores
  have hidle : .create lun.id ∉ s.tasks ∧ .delete lun.id ∉ s.tasks := by
    rw [htasks.1, htasks.2]
    rcases hsettled with heq | heq <;> simp [heq]
  refine h.put { lun with assignedNodeId := nodeId, status } hlun rfl rfl hok h.tasks
    (iff_of_false hidle.1 ?_) (iff_of_false hidle.2 ?_) (fun _ _ => ⟨Iff.rfl, Iff.rfl⟩) ?_ ?_ hacls
  · rcases hstatus with rfl | rfl <;> simp
  · rcases hstatus with rfl | rfl <;> simp
  · rw [hkept, h.store_iff hlun]
    rcases hsettled with heq | heq <;> rcases hstatus with rfl | rfl <;> simp [heq]
  · intro name _
    rw [hkept]

theorem assignLun_accessInv {s' : LunState} (h : AccessInv san backendId s)
    {lunId nodeId : String} {lun : IscsiLun} {node : SanNode}
    (ha : Assigned san s lunId nodeId lun node s') : AccessInv san backendId s' := by
  obtain ⟨hlun, rfl⟩ := get?_mem ha.found
  obtain ⟨hnode, -⟩ := Table.get?_eq_some_iff.mp ha.nodeFound
  have hl := h.rows lun hlun
  have hnone := hl.free ha.free
  have hok : LunOk san backendId
      { lun with assignedNodeId := some node.id, status := .active } := by
    refine ⟨by simp, hl.safeName, hl.home, hl.backend, by simp, ?_⟩
    rintro _ ⟨⟩
    exact ⟨node, hnode, rfl⟩
  rw [ha.state]
  refine h.reassign hlun ha.settled (.inr rfl) hok rfl ?_
  intro n hn
  show n.initiator ∈ List.insert node.initiator _ ↔ _
  rw [List.mem_insert_iff, h.acls_iff hlun hn, San.initiator_inj hn hnode]
  simp [hnone, eq_comm]

theorem unassignLun_accessInv (h : AccessInv san backendId s) {lunId : String} {lun : IscsiLun}
    (hmeets : accessMeets san backendId s (.unassign lunId) = true)
    (hfound : s.luns.get? lunId = some lun) (hassigned : lun.isAssigned = true) :
    AccessInv san backendId ((revokeAccess san s lun).saveLun
      { lun with assignedNodeId := none, status := .ready }) := by
  obtain ⟨hlun, rfl⟩ := get?_mem hfound
  have hl := h.rows lun hlun
  have hactive := hl.active.mpr (hl.isAssigned_iff.mp hassigned)
  obtain ⟨nodeId, hnodeId⟩ := Option.ne_none_iff_exists'.mp (hl.isAssigned_iff.mp hassigned)
  obtain ⟨node, hnode, rfl⟩ := hl.node nodeId hnodeId
  obtain ⟨backend, hbackend⟩ := hl.backend
  have hothers : ∀ l ∈ s.luns.rows, l.id ≠ lun.id → l.assignedNodeId ≠ some node.id := by
    simp only [accessMeets, hfound, hnodeId, Option.all_some, reduceCtorEq, decide_false,
      Bool.false_or, List.all_eq_true, Bool.or_eq_true, decide_eq_true_eq] at hmeets
    intro l hlrow hne
    exact (hmeets l hlrow).resolve_left hne
  have hrevoke : revokeAccess san s lun = s.setTarget (deleteAcl s.target node.initiator) := by
    unfold revokeAccess
    rw [hnodeId, Option.getD_some, Table.get?_eq_some_iff.mpr ⟨hnode, rfl⟩, hbackend]
    rfl
  rw [hrevoke]
  refine h.reassign hlun (.inr hactive) (.inl rfl)
    ⟨by simp, hl.safeName, hl.home, hl.backend, by simp, by simp⟩ rfl ?_
  intro n hn
  show n.initiator ∈ List.filter _ _ ↔ _
  rw [List.mem_filter, decide_eq_true_eq, h.acls_iff hlun hn, ne_eq, San.initiator_inj hn hnode]
  by_cases hsame : n.id = node.id
  · -- the node had no other LUN
    rw [hsame]
    constructor
    · rintro ⟨-, hne⟩
      exact absurd rfl hne
    · rintro (hnone | ⟨l, hlrow, hne, hlets⟩)
      · cases hnone
      · exact absurd hlets (hothers l hlrow hne)
  · simp [hsame, hnodeId, Ne.symm hsame]

/-- With a name that the target accepts, a creation comes to its end. -/
theorem createLunBackground_eq {lun : IscsiLun} (hlun : lun ∈ s.luns.rows)
    (hname : validateSafeName lun.name = true)
    (hbackend : ∃ b, san.backends.get? lun.backendId = some b) :
    ∃ t : Target, t.acls = s.target.acls ∧ t.stores = s.target.stores.insert lun.name ∧
      createLunBackground san s lun.id
        = (s.setTarget t).saveLun { lun with status := .ready, errorMessage := none } := by
  obtain ⟨backend, hbackend⟩ := hbackend
  have hstore : createBackingstore s.target lun.name
      = .ok { s.target with stores := s.target.stores.insert lun.name } := by
    unfold createBackingstore
    rw [if_neg (by simp [hname])]
  refine ⟨{ s.target with
      stores := s.target.stores.insert lun.name
      exports := s.target.exports.insert (lun.lunNumber, lun.name) }, rfl, rfl, ?_⟩
  unfold createLunBackground
  rw [Table.get?_eq_some_iff.mpr ⟨hlun, rfl⟩]
  dsimp only
  rw [hbackend]
  dsimp only
  rw [hstore]
  dsimp only [createExport]
  rw [if_neg (by simp [hname])]

theorem finishCreate_accessInv (h : AccessInv san backendId s) {lunId : String}
    (htask : .create lunId ∈ s.tasks) :
    AccessInv san backendId
      (createLunBackground san { s with tasks := s.tasks.erase (.create lunId) } lunId) := by
  obtain ⟨lun, hlun, rfl, hcreating⟩ := (h.creating lunId).mp htask
  have hl := h.rows lun hlun
  -- a LUN that is being created is assigned to nobody
  have hnone : lun.assignedNodeId = none := by
    by_contra hne
    have hactive := hl.active.mpr hne
    rw [hcreating] at hactive
    cases hactive
  obtain ⟨t, hacls, hstores, heq⟩ := createLunBackground_eq
    (s := { s with tasks := s.tasks.erase (.create lun.id) }) hlun hl.safeName hl.backend
  rw [heq]
  refine h.put { lun with status := .ready, errorMessage := none } hlun rfl rfl
    ⟨by simp, hl.safeName, hl.home, hl.backend, by simp [hnone], hl.node⟩ (h.tasks.erase _)
    ?_ ?_ ?_ ?_ ?_ ?_
  · show _ ∈ s.tasks.erase _ ↔ _
    rw [h.tasks.mem_erase_iff]
    simp
  · show _ ∈ s.tasks.erase _ ↔ _
    rw [h.tasks.mem_erase_iff, (h.task_iff hlun).2]
    simp [hcreating]
  · intro other hne
    show (_ ∈ s.tasks.erase _ ↔ _) ∧ (_ ∈ s.tasks.erase _ ↔ _)
    rw [h.tasks.mem_erase_iff, h.tasks.mem_erase_iff]
    simp [hne]
  -- the store of this row is new, the others are as they were
  · show _ ∈ t.stores ↔ _
    rw [hstores, List.mem_insert_iff]
    simp
  · intro name hne
    show _ ∈ t.stores ↔ _
    rw [hstores, List.mem_insert_iff]
    simp [hne]
  · intro n hn
    show _ ∈ t.acls ↔ _
    rw [hacls]
    exact h.acls_iff hlun hn

/-- With a name that the target accepts, a deletion leaves nothing. -/
theorem deleteLunBackground_eq {lun : IscsiLun} (hlun : lun ∈ s.luns.rows)
    (hname : validateSafeName lun.name = true)
    (hbackend : ∃ b, san.backends.get? lun.backendId = some b) :
    ∃ t : Target, t.acls = s.target.acls ∧
      t.stores = s.target.stores.filter (fun store => store ≠ lun.name) ∧
      deleteLunBackground san s lun.id
        = { s.setTarget t with luns := s.luns.delete (fun l => l.id = lun.id) } := by
  obtain ⟨backend, hbackend⟩ := hbackend
  refine ⟨{ deleteExport s.target lun.lunNumber with
    stores := s.target.stores.filter (fun store => store ≠ lun.name) }, rfl, rfl, ?_⟩
  have hstore : deleteBackingstore (deleteExport s.target lun.lunNumber) lun.name
      = .ok { deleteExport s.target lun.lunNumber with
        stores := s.target.stores.filter (fun store => store ≠ lun.name) } := by
    unfold deleteBackingstore
    rw [if_neg (by simp [hname])]
    rfl
  unfold deleteLunBackground
  rw [Table.get?_eq_some_iff.mpr ⟨hlun, rfl⟩]
  dsimp only
  rw [hbackend]
  dsimp only
  rw [hstore]
  rfl

theorem finishDelete_accessInv (h : AccessInv san backendId s) {lunId : String}
    (htask : .delete lunId ∈ s.tasks) :
    AccessInv san backendId
      (deleteLunBackground san { s with tasks := s.tasks.erase (.delete lunId) } lunId) := by
  obtain ⟨lun, hlun, rfl, hdeleting⟩ := (h.deleting lunId).mp htask
  have hl := h.rows lun hlun
  have hnone : lun.assignedNodeId = none := by
    by_contra hne
    have hactive := hl.active.mpr hne
    rw [hdeleting] at hactive
    cases hactive
  obtain ⟨t, hacls, hstores, heq⟩ := deleteLunBackground_eq
    (s := { s with tasks := s.tasks.erase (.delete lun.id) }) hlun hl.safeName hl.backend
  have hmem : ∀ {l : IscsiLun}, l ∈ (s.luns.delete (fun l => l.id = lun.id)).rows
      ↔ l ∈ s.luns.rows ∧ l.id ≠ lun.id := by
    intro l
    simp
  -- what holds of some record that is left, and of some record before
  have hex : ∀ {P : IscsiLun → Prop}, ¬ P lun →
      ((∃ l ∈ s.luns.rows, P l)
        ↔ ∃ l ∈ (s.luns.delete (fun l => l.id = lun.id)).rows, P l) := by
    intro P hP
    rw [Table.exists_mem_iff hlun]
    simp [hP, and_assoc]
  rw [heq]
  constructor
  · intro l hl
    exact h.rows l (hmem.mp hl).1
  · intro l hl m hm
    exact h.names l (hmem.mp hl).1 m (hmem.mp hm).1
  · exact h.tasks.erase _
  · intro lunId
    show _ ∈ s.tasks.erase _ ↔ _
    rw [h.tasks.mem_erase_iff, h.creating, hex (by simp [hdeleting])]
    simp
  · intro lunId
    show _ ∈ s.tasks.erase _ ↔ _
    rw [h.tasks.mem_erase_iff]
    by_cases hsame : lunId = lun.id
    · subst hsame
      refine iff_of_false (by simp) ?_
      rintro ⟨l, hl, hid, -⟩
      exact (hmem.mp hl).2 hid
    · rw [h.deleting, hex (by simp [Ne.symm hsame])]
      simp [hsame]
  · intro name
    show _ ∈ t.stores ↔ _
    rw [hstores, List.mem_filter]
    by_cases hsame : name = lun.name
    · -- the name of the record was its own
      subst hsame
      refine iff_of_false (by simp) ?_
      rintro ⟨l, hl, hname, -⟩
      obtain ⟨hl, hne⟩ := hmem.mp hl
      exact hne (congrArg IscsiLun.id (h.names l hl lun hlun hname))
    · have hnot : ¬ lun.HasStore name := fun hs => hsame hs.1.symm
      simpa [hsame] using (h.stores name).trans (hex hnot)
  · intro n hn
    show _ ∈ t.acls ↔ _
    rw [hacls]
    exact (h.acls n hn).trans (hex (by simp [hnone]))

/-! ## §3. Runs. -/

/-- **EVERY STEP** that meets the condition keeps the relation. -/
theorem lunStep_accessInv {op : LunOp} (h : AccessInv san backendId s)
    (hmeets : accessMeets san backendId s op = true) :
    AccessInv san backendId (lunStep san s op) := by
  cases op with
  | create uuid secret body =>
      exact commitOrRollback_preserves h
        (fun lun s' hr => createLun_accessInv h hmeets (createLun_eq_ok hr))
  | update lunId secret body =>
      refine commitOrRollback_preserves h (fun lun' s' hr => ?_)
      obtain ⟨lun, hu⟩ := updateLun_eq_ok hr
      exact updateLun_accessInv h hmeets hu
  | delete lunId =>
      refine commitOrRollback_preserves h (fun _ s' hr => ?_)
      obtain ⟨lun, hm⟩ := deleteLun_eq_ok hr
      exact deleteLun_accessInv h hm
  | assign lunId nodeId =>
      refine commitOrRollback_preserves h (fun lun' s' hr => ?_)
      obtain ⟨lun, node, ha⟩ := assignLun_eq_ok hr
      exact assignLun_accessInv h ha
  | unassign lunId =>
      refine commitOrRollback_preserves h (fun lun' s' hr => ?_)
      obtain ⟨lun, hfound, hassigned, rfl⟩ := unassignLun_eq_ok hr
      exact unassignLun_accessInv h hmeets hfound hassigned
  | finish task =>
      show AccessInv san backendId (if task ∈ s.tasks then _ else _)
      split
      next htask =>
        cases task with
        | create lunId => exact finishCreate_accessInv h htask
        | delete lunId => exact finishDelete_accessInv h htask
      next => exact h

/-- **ACCESS FOLLOWS ASSIGNMENT.**  In every run in which LUNs are created on the one backend
with names the target accepts, keep their names, and are taken from a node that has no other
one, access follows assignment whenever no task is left to run. -/
theorem lun_access_follows_assignment (san : San) (backendId : String) (ops : List LunOp)
    (hmeets : Along (lunStep san) (fun s op => accessMeets san backendId s op = true)
      LunState.empty ops) :
    Always (lunStep san) (fun s => s.tasks = [] → AccessOk san backendId s)
      LunState.empty ops :=
  (always_of_step (fun _ _ => lunStep_accessInv) (accessInv_empty san backendId) hmeets).mono
    (fun _ h => h.ok)

/-- A LUN is created, assigned, taken back and deleted. -/
theorem lun_access_follows_assignment_once :
    accessMeets smallSan "b" LunState.empty (newLun "aa") = true ∧
      Always (lunStep smallSan) (fun s => s.tasks = [] → AccessOk smallSan "b" s) LunState.empty
        [newLun "aa", .finish (.create "id-aa"), .assign "id-aa" "n", .unassign "id-aa",
          .delete "id-aa", .finish (.delete "id-aa")] :=
  ⟨by decide +kernel, lun_access_follows_assignment smallSan "b" _ (by decide +kernel)⟩

/-- A LUN is created. -/
def createdLun (name : String) : List LunOp := [newLun name, .finish (.create ("id-" ++ name))]

/-- A LUN is renamed, and then deleted. -/
def renamedRun : List LunOp :=
  createdLun "aa" ++
    [.update "id-aa" "" { name := some "bb" }, .delete "id-aa", .finish (.delete "id-aa")]

/-- A node has two LUNs, and one of them is taken back. -/
def sharedRun : List LunOp :=
  createdLun "aa" ++ createdLun "bb" ++
    [.assign "id-aa" "n", .assign "id-bb" "n", .unassign "id-aa"]

/-- Two iSCSI backends and one node. -/
def twoBackends : San :=
  { smallSan with backends := ⟨[{ id := "b" }, { id := "c" }], by decide⟩ }

/-- A node has a LUN of each backend, and that of the first is taken back. -/
def twoBackendsRun : List LunOp :=
  createdLun "aa" ++
    [.create "id-bb" "" { name := "bb", sizeGb := 1, backendId := "c", purpose := .bootFromSan },
      .finish (.create "id-bb"), .assign "id-aa" "n", .assign "id-bb" "n", .unassign "id-aa"]

/-- The store of a LUN that was renamed outlives it, and a node that one of its two LUNs is
taken from is cut off from the other, also where the two are on two backends. -/
theorem rename_and_unassign_break_access :
    ¬ Always (lunStep smallSan) (fun s => s.tasks = [] → AccessOk smallSan "b" s) LunState.empty
        renamedRun ∧
      ¬ Always (lunStep smallSan) (fun s => s.tasks = [] → AccessOk smallSan "b" s)
        LunState.empty sharedRun ∧
      ¬ Always (lunStep twoBackends) (fun s => s.tasks = [] → AccessOk twoBackends "c" s)
        LunState.empty twoBackendsRun := by
  have hnode : ({ id := "n", macAddress := "02:0A" } : SanNode) ∈ smallSan.nodes.rows := by
    decide +kernel
  refine ⟨?_, ?_, ?_⟩
  · intro h
    have hok := h.last (by decide +kernel)
    exact absurd ((hok.stores "aa").mp (by decide +kernel)) (by decide +kernel)
  · intro h
    have hok := h.last (by decide +kernel)
    exact absurd ((hok.acls _ hnode).mpr (by decide +kernel)) (by decide +kernel)
  · intro h
    have hok := h.last (by decide +kernel)
    exact absurd ((hok.acls _ hnode).mpr (by decide +kernel)) (by decide +kernel)

end PureBoot.Storage
