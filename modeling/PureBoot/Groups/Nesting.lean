/-
  PureBoot.Groups.Nesting — sites are nested under sites.

  `sites.py` accepts only a site as the parent of a site, when it creates one and
  when it moves one.  `groups.py` works on the same rows and has no such rule, but
  what it creates is no site, and an update that would move one answers 500 and is
  rolled back like every other (`exec_update`).

  Main results:
    * `nested_exec` — one request;
    * `sites_nested_run` — whole runs.
-/
import PureBoot.Groups.Tree

namespace PureBoot.Groups

open PureBoot.Lib

/-! ## §1. Nesting. -/

/-- Every site has no parent or a parent that is a site. -/
def Nested (db : DB) : Prop :=
  ∀ g ∈ db.groups.rows, g.isSite = true → ∀ p, g.parent? = some p →
    ∃ q ∈ db.groups.rows, q.id = p ∧ q.isSite = true

/-! ## §2. One request. -/

/-- A parent row that the site endpoints accept is a site. -/
theorem findParent_isSite {db : DB} {text : String × String → String} {parentId : String}
    {q : DeviceGroup} (h : sitesEndpoint.findParent db text parentId = .ok q) :
    q.isSite = true := by
  unfold Endpoint.findParent at h
  split at h
  next => simp at h
  next parent _ =>
    simp only [sitesEndpoint] at h
    split at h
    next hsite =>
      injection h with h
      rw [← h]
      exact hsite
    next => simp at h

/-- The parent a new row is created under. -/
theorem create_parent {ep : Endpoint} {db db' : DB} {uuid : String} {data : GroupCreate}
    {g : DeviceGroup} {p : String} (h : create ep db uuid data = .ok (g, db'))
    (hp : g.parent? = some p) :
    ∃ q, ep.findParent db Prod.fst p = .ok q := by
  obtain ⟨path, depth, hplace, -, rfl⟩ := create_spec h
  have hp : truthyId data.parentId = some p := hp
  unfold place at hplace
  rw [hp] at hplace
  obtain ⟨q, hq, -⟩ := bind_eq_ok.mp hplace
  exact ⟨q, hq⟩

theorem create_isSite {ep : Endpoint} {db db' : DB} {uuid : String} {data : GroupCreate}
    {g : DeviceGroup} (h : create ep db uuid data = .ok (g, db')) :
    g.isSite = ep.notUnderSite.isSome := by
  obtain ⟨path, depth, -, -, rfl⟩ := create_spec h
  rfl

theorem nested_create {ep : Endpoint} {db db' : DB} {uuid : String} {data : GroupCreate}
    {g : DeviceGroup} (hn : Nested db)
    (hparent : ∀ p q, ep.notUnderSite.isSome = true → ep.findParent db Prod.fst p = .ok q →
      q.isSite = true)
    (h : create ep db uuid data = .ok (g, db')) : Nested db' := by
  obtain ⟨hrows, -, -⟩ := create_ok h
  intro x hx hsite p hp
  rw [hrows] at hx ⊢
  rcases List.mem_append.mp hx with hx | hx
  · obtain ⟨q, hq, hqid, hqsite⟩ := hn x hx hsite p hp
    exact ⟨q, List.mem_append_left _ hq, hqid, hqsite⟩
  · obtain rfl := List.mem_singleton.mp hx
    obtain ⟨q, hq⟩ := create_parent h hp
    obtain ⟨hqmem, hqid⟩ := findParent_ok hq
    rw [create_isSite h] at hsite
    exact ⟨q, List.mem_append_left _ hqmem, hqid, hparent p q hsite hq⟩

theorem detach_isSite (groupId : String) (h : DeviceGroup) :
    (detach groupId h).isSite = h.isSite := by
  unfold detach
  split <;> rfl

theorem nested_deleteRow {db : DB} (hn : Nested db) (groupId : String) :
    Nested (deleteRow db groupId) := by
  intro x hx hsite p hp
  obtain ⟨y, hy, -, rfl⟩ := mem_deleteRow.mp hx
  rw [detach_isSite] at hsite
  obtain ⟨hparent, hne⟩ := detach_parent hp
  obtain ⟨q, hq, rfl, hqsite⟩ := hn y hy hsite p hparent
  refine ⟨detach groupId q, mem_deleteRow.mpr ⟨q, hq, hne, rfl⟩, detach_id groupId q, ?_⟩
  rw [detach_isSite]
  exact hqsite

/-- **ONE REQUEST.** -/
theorem nested_exec (db : DB) (op : Op) (hn : Nested db) : Nested (exec db op) := by
  cases op with
  | createGroup uuid data =>
      refine commitOrRollback_preserves hn (fun _ _ h => nested_create hn ?_ h)
      -- what `create_group` makes is no site
      intro p q hsite
      simp [groupsEndpoint] at hsite
  | createSite uuid data =>
      refine commitOrRollback_preserves hn (fun _ _ h => nested_create hn ?_ h)
      intro p q _ hq
      exact findParent_isSite hq
  | updateGroup groupId data =>
      show Nested (commitOrRollback db (update _ db groupId data))
      rw [exec_update]
      exact hn
  | updateSite siteId data =>
      show Nested (commitOrRollback db (update _ db siteId _))
      rw [exec_update]
      exact hn
  | deleteGroup groupId =>
      refine commitOrRollback_preserves hn (fun _ db' h => ?_)
      obtain ⟨-, -, -, -, rfl⟩ := deleteGroup_eq_ok.mp h
      exact nested_deleteRow hn groupId
  | deleteSite siteId =>
      refine commitOrRollback_preserves hn (fun _ db' h => ?_)
      obtain ⟨-, -, -, -, rfl⟩ := deleteSite_eq_ok.mp h
      exact nested_deleteRow hn siteId

/-! ## §3. Whole runs. -/

/-- **SITES STAY NESTED UNDER SITES** in every state of every run. -/
theorem sites_nested_run (nodes : Table NodeRef.id) (ops : List Op) :
    Always exec Nested (DB.start nodes) ops := by
  have h0 : Nested (DB.start nodes) := by
    intro g hg
    simp [DB.start] at hg
  exact always_of_step (fun db op hn _ => nested_exec db op hn) h0 (along_true _ ops)

/-- `update_group` passes all its checks on a site that it would move under a plain group. -/
example :
    let db := run exec (DB.start Table.empty)
      [.createSite "1" (oneLetter 's' none), .createGroup "2" (oneLetter 'g' none)]
    (updateGroup db "1" { parentId := some (some "2") }).map Prod.fst
      = .error .missingGreenlet := by decide

end PureBoot.Groups
