/-
  PureBoot.Groups.Faithful — the materialized path and depth say where a group is.

  `Groups.Tree` carries the paths along the parent relation.  This file adds the
  other half: the depth, and the roots.  A root must not be made by clearing the
  parent of a row that was not one, which is what `delete_site` does to the plain
  groups under the site (it counts only child SITES).  Such a row keeps the path and
  the depth it had, and no later request puts them right.

  Main results:
    * `faithful_exec`, `unfaithful_exec` — one request;
    * `groups_faithful_iff` — whole runs.
-/
import PureBoot.Groups.Tree

namespace PureBoot.Groups

open PureBoot.Lib

/-! ## §1. Faithful paths and depths. -/

/-- Path and depth of every group are those its parents give it. -/
structure Faithful (db : DB) : Prop where
  root : ∀ g ∈ db.groups.rows, g.parent? = none → g.path = '/' :: g.name ∧ g.depth = 0
  child : ∀ g ∈ db.groups.rows, ∀ p, g.parent? = some p →
    ∃ q ∈ db.groups.rows, q.id = p ∧ g.path = q.path ++ '/' :: g.name ∧ g.depth = q.depth + 1

/-- What `Faithful` says beyond `Linked`. -/
structure Depths (db : DB) : Prop where
  root : ∀ g ∈ db.groups.rows, g.parent? = none → g.path = '/' :: g.name ∧ g.depth = 0
  child : ∀ g ∈ db.groups.rows, ∀ p, g.parent? = some p →
    ∃ q ∈ db.groups.rows, q.id = p ∧ g.depth = q.depth + 1

theorem Faithful.linked {db : DB} (h : Faithful db) : Linked db := by
  intro g hg p hp
  obtain ⟨q, hq, hid, hpath, -⟩ := h.child g hg p hp
  exact ⟨q, hq, hid, hpath⟩

theorem faithful_of_linked {db : DB} (hl : Linked db) (hd : Depths db) : Faithful db where
  root := hd.root
  child := by
    intro g hg p hp
    obtain ⟨q, hq, hid, hpath⟩ := hl g hg p hp
    obtain ⟨q', hq', hid', hdepth⟩ := hd.child g hg p hp
    obtain rfl : q' = q := db.groups.eq_of_key_eq hq' hq (hid'.trans hid.symm)
    exact ⟨q', hq, hid, hpath, hdepth⟩

/-! ## §2. The request that breaks it. -/

/-- The deletion of the site would go through and leave groups that were under it. -/
def orphans (db : DB) (siteId : String) : Bool :=
  (sitesEndpoint.find db siteId).isSome
    && !db.groups.rows.any (fun h => h.parentId = some siteId ∧ h.isSite = true)
    && !db.nodes.rows.any (fun n => n.homeSiteId = some siteId)
    && db.groups.rows.any (fun h => h.parent? = some siteId)

/-- The request is such a deletion. -/
def misplaces (db : DB) : Op → Bool
  | .deleteSite siteId => orphans db siteId
  | _ => false

theorem orphans_iff {db : DB} {siteId : String} :
    orphans db siteId = true ↔
      (sitesEndpoint.find db siteId).isSome = true
        ∧ (∀ x ∈ db.groups.rows, ¬ (x.parentId = some siteId ∧ x.isSite = true))
        ∧ (∀ n ∈ db.nodes.rows, n.homeSiteId ≠ some siteId)
        ∧ ∃ x ∈ db.groups.rows, x.parent? = some siteId := by
  unfold orphans
  simp only [Bool.and_eq_true, Bool.not_eq_true', List.any_eq_true, List.any_eq_false,
    decide_eq_true_eq, and_assoc, ne_eq]

/-! ## §3. One request. -/

theorem parentId_of_parent {h : DeviceGroup} {p : String} (hp : h.parent? = some p) :
    h.parentId = some p := by
  unfold DeviceGroup.parent? truthyId at hp
  split at hp
  next p' hp' =>
    split at hp
    next => cases hp
    next => exact hp'.trans hp
  next => cases hp

/-- A group that was not under the deleted one keeps its parent. -/
theorem detach_parent_of_ne {groupId : String} {h : DeviceGroup}
    (hne : h.parent? ≠ some groupId) : (detach groupId h).parent? = h.parent? := by
  unfold detach
  split
  next heq =>
    -- the empty text is no parent
    show none = truthyId h.parentId
    unfold DeviceGroup.parent? at hne
    rw [heq] at hne ⊢
    unfold truthyId at hne ⊢
    dsimp only at hne ⊢
    split
    next => rfl
    next hid =>
      rw [if_neg hid] at hne
      exact absurd rfl hne
  next => rfl

/-- A root is not below anything. -/
theorem not_below_of_root {db : DB} {h : DeviceGroup} (hh : h ∈ db.groups.rows)
    (hroot : h.parent? = none) (id : String) : ¬ Below db h.id id := by
  intro hb
  obtain ⟨b, ⟨x, hx, hxid, hxp⟩, -⟩ := Relation.TransGen.head'_iff.mp hb
  obtain rfl : x = h := db.groups.eq_of_key_eq hx hh hxid
  rw [hroot] at hxp
  cases hxp

/-- A path ends with a slash and the name. -/
theorem path_name {db : DB} (hf : Faithful db) {g : DeviceGroup} (hg : g ∈ db.groups.rows) :
    ∃ up, g.path = up ++ '/' :: g.name := by
  cases hp : g.parent? with
  | none => exact ⟨[], (hf.root g hg hp).1⟩
  | some p =>
      obtain ⟨q, -, -, hpath, -⟩ := hf.child g hg p hp
      exact ⟨q.path, hpath⟩

theorem faithful_create {ep : Endpoint} {db db' : DB} {uuid : String} {data : GroupCreate}
    {g : DeviceGroup} (hf : Faithful db) (h : create ep db uuid data = .ok (g, db')) :
    Faithful db' := by
  refine faithful_of_linked (linked_create hf.linked h) ?_
  obtain ⟨hrows, -, hplace⟩ := create_ok h
  constructor
  · intro x hx hroot
    rw [hrows] at hx
    rcases List.mem_append.mp hx with hx | hx
    · exact hf.root x hx hroot
    · obtain rfl := List.mem_singleton.mp hx
      rcases hplace with ⟨-, hpath, hdepth⟩ | ⟨q, -, hparent, -⟩
      · exact ⟨hpath, hdepth⟩
      · exact absurd (hroot.symm.trans hparent) (by simp)
  · intro x hx p hp
    rw [hrows] at hx ⊢
    rcases List.mem_append.mp hx with hx | hx
    · obtain ⟨q, hq, hqid, -, hdepth⟩ := hf.child x hx p hp
      exact ⟨q, List.mem_append_left _ hq, hqid, hdepth⟩
    -- the new group has the place that `create` has computed from its parent
    · obtain rfl := List.mem_singleton.mp hx
      rcases hplace with ⟨hroot, -, -⟩ | ⟨q, hq, hparent, -, hdepth⟩
      · exact absurd (hroot.symm.trans hp) (by simp)
      · refine ⟨q, List.mem_append_left _ hq, ?_, hdepth⟩
        rw [hparent] at hp
        injection hp

/-- **A DELETION IS FAITHFUL** if the group it deletes has no children of either kind. -/
theorem faithful_deleteRow {db : DB} {groupId : String} (hf : Faithful db)
    (hleaf : ∀ x ∈ db.groups.rows, x.parent? ≠ some groupId) :
    Faithful (deleteRow db groupId) := by
  refine faithful_of_linked (linked_deleteRow hf.linked groupId) ?_
  constructor
  · intro x hx hroot
    obtain ⟨y, hy, -, rfl⟩ := mem_deleteRow.mp hx
    rw [detach_parent_of_ne (hleaf y hy)] at hroot
    obtain ⟨hpath, hname, hdepth⟩ := detach_fields groupId y
    rw [hpath, hname, hdepth]
    exact hf.root y hy hroot
  · intro x hx p hp
    obtain ⟨y, hy, -, rfl⟩ := mem_deleteRow.mp hx
    obtain ⟨hparent, hne⟩ := detach_parent hp
    obtain ⟨q, hq, rfl, -, hdepth⟩ := hf.child y hy p hparent
    refine ⟨detach groupId q, mem_deleteRow.mpr ⟨q, hq, hne, rfl⟩, detach_id groupId q, ?_⟩
    rw [(detach_fields groupId y).2.2, (detach_fields groupId q).2.2]
    exact hdepth

/-- **A DELETION FROM ABOVE A GROUP IS NOT**: the group is a root now, with a path that has
more than its name. -/
theorem not_faithful_deleteRow {db : DB} {groupId : String} (hf : Faithful db)
    {x : DeviceGroup} (hx : x ∈ db.groups.rows) (hparent : x.parent? = some groupId) :
    ¬ Faithful (deleteRow db groupId) := by
  intro hafter
  obtain ⟨q, hq, hid, hpath, -⟩ := hf.child x hx groupId hparent
  have hne : x.id ≠ groupId := by
    rintro rfl
    obtain rfl : q = x := db.groups.eq_of_key_eq hq hx hid
    exact absurd (length_lt_of_path hpath) (Nat.lt_irrefl _)
  have hrow : detach groupId x ∈ (deleteRow db groupId).groups.rows :=
    mem_deleteRow.mpr ⟨x, hx, hne, rfl⟩
  have hroot : (detach groupId x).parent? = none := by
    unfold detach
    rw [if_pos (parentId_of_parent hparent)]
    rfl
  obtain ⟨hroot, -⟩ := hafter.root _ hrow hroot
  obtain ⟨up, hup⟩ := path_name hf hq
  rw [(detach_fields groupId x).1, (detach_fields groupId x).2.1, hpath, hup] at hroot
  have hlong := congrArg List.length hroot
  simp only [List.length_append, List.length_cons] at hlong
  omega

/-- **ONE REQUEST.** -/
theorem faithful_exec (db : DB) (op : Op) (hf : Faithful db) (hguard : misplaces db op = false) :
    Faithful (exec db op) := by
  cases op with
  | createGroup uuid data =>
      exact commitOrRollback_preserves hf (fun _ _ h => faithful_create hf h)
  | createSite uuid data =>
      exact commitOrRollback_preserves hf (fun _ _ h => faithful_create hf h)
  | updateGroup groupId data =>
      show Faithful (commitOrRollback db (update _ db groupId data))
      rw [exec_update]
      exact hf
  | updateSite siteId data =>
      show Faithful (commitOrRollback db (update _ db siteId _))
      rw [exec_update]
      exact hf
  | deleteGroup groupId =>
      refine commitOrRollback_preserves hf (fun _ db' h => ?_)
      obtain ⟨-, hleaf, -, -, rfl⟩ := deleteGroup_eq_ok.mp h
      exact faithful_deleteRow hf (fun x hx hp => hleaf x hx (parentId_of_parent hp))
  | deleteSite siteId =>
      refine commitOrRollback_preserves hf (fun _ db' h => ?_)
      obtain ⟨hfound, hsites, hnodes, -, rfl⟩ := deleteSite_eq_ok.mp h
      apply faithful_deleteRow hf
      -- the deletion went through, so the guard can only mean that there is no child
      intro x hx hp
      have horphans : orphans db siteId = true :=
        orphans_iff.mpr ⟨hfound, hsites, hnodes, x, hx, hp⟩
      exact absurd (horphans.symm.trans hguard) (by simp)

/-- The other requests break it at once. -/
theorem unfaithful_exec (db : DB) (op : Op) (hf : Faithful db) (hbad : ¬ misplaces db op = false) :
    ¬ Faithful (exec db op) := by
  cases op with
  | deleteSite siteId =>
      obtain ⟨hfound, hsites, hnodes, x, hx, hp⟩ := orphans_iff.mp (eq_true_of_ne_false hbad)
      have hok : deleteSite db siteId = .ok (siteId, deleteRow db siteId) :=
        deleteSite_eq_ok.mpr ⟨hfound, hsites, hnodes, rfl, rfl⟩
      show ¬ Faithful (commitOrRollback db (deleteSite db siteId))
      rw [hok]
      exact not_faithful_deleteRow hf hx hp
  | _ => exact absurd rfl hbad

/-! ## §4. Whole runs. -/

theorem faithful_start (nodes : Table NodeRef.id) : Faithful (DB.start nodes) where
  root := by
    intro g hg
    cases hg
  child := by
    intro g hg
    cases hg

/-- **PATHS AND DEPTHS ARE FAITHFUL IN EVERY STATE** of exactly the runs in which no site is
deleted from above plain groups. -/
theorem groups_faithful_iff (nodes : Table NodeRef.id) (ops : List Op) :
    Always exec Faithful (DB.start nodes) ops
      ↔ Along exec (fun db op => misplaces db op = false) (DB.start nodes) ops :=
  always_iff_along (fun db op _ => faithful_exec db op) (fun _ h => h)
    (fun db op _ => unfaithful_exec db op) (L := fun _ => True) (fun _ _ => trivial)
    (faithful_start nodes)

/-- A site with a plain group under it is deleted. -/
def orphanRun : List Op :=
  [.createSite "1" { name := ['s'], validName := by decide },
   createOp "2" ['g'] (some "1") (by decide), .deleteSite "1"]

theorem groups_unfaithful_after_delete_site :
    ¬ Always exec Faithful (DB.start Table.empty) orphanRun := by
  intro h
  have hrows : (run exec (DB.start Table.empty) orphanRun).groups.rows
      = [{ id := "2", name := ['g'], path := ['/', 's', '/', 'g'], depth := 1 }] := by decide
  have hroot := h.last.root { id := "2", name := ['g'], path := ['/', 's', '/', 'g'], depth := 1 }
    (by rw [hrows]; exact List.mem_singleton_self _) rfl
  exact absurd hroot.2 (by decide)

/-- The group goes first, and then the site. -/
example : Along exec (fun db op => misplaces db op = false) (DB.start Table.empty)
    [.createSite "1" { name := ['s'], validName := by decide },
     createOp "2" ['g'] (some "1") (by decide), .deleteGroup "2", .deleteSite "1"] := by decide

end PureBoot.Groups
