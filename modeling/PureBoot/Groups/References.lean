/-
  PureBoot.Groups.References — what still refers to a group when it is deleted.

  A row of `device_groups` is referred to in three ways: as the parent of a group,
  as the group of a node and as the home site of a node.  Groups and sites are the
  same rows, yet each of the two delete endpoints looks for the references its own
  family makes: `delete_group` for children and nodes, `delete_site` for child
  SITES and home nodes.  The other endpoints attach anything to either.

  The node assignments are those of `api/routes/nodes.py` (`bulk_assign_group`,
  the `group_id` of `update_node`); no endpoint writes `home_site_id`, so that
  assignment is a write of the column.

  Main results:
    * `deleteSafe_iff` — one deletion;
    * `deletes_safe_iff` — whole runs.
-/
import PureBoot.Groups.Tree

namespace PureBoot.Groups

open PureBoot.Lib

/-! ## §1. Assigning nodes. -/

/-- `UPDATE nodes SET group_id = … WHERE id IN (…)`, on one row. -/
def assignGroup (nodeIds : List String) (groupId : Option String) (n : NodeRef) : NodeRef :=
  if n.id ∈ nodeIds then { n with groupId } else n

theorem assignGroup_id (nodeIds : List String) (groupId : Option String) (n : NodeRef) :
    (assignGroup nodeIds groupId n).id = n.id := by
  unfold assignGroup
  split <;> rfl

/-- `bulk_assign_group`: the group must exist unless the nodes are unassigned. -/
def bulkAssignGroup (db : DB) (nodeIds : List String) (groupId : Option String) :
    Except Exn (Nat × DB) :=
  if (truthyId groupId).any (fun id => (db.groups.get? id).isNone) then
    .error (.http 404 "Group not found")
  else
    .ok (db.nodes.rows.countP (fun n => n.id ∈ nodeIds),
      { db with nodes :=
        db.nodes.update (assignGroup nodeIds groupId) (assignGroup_id nodeIds groupId) })

/-- `update_node` with a `group_id`, which is not checked. -/
def updateNode (db : DB) (nodeId : String) (groupId : Option String) :
    Except Exn (NodeRef × DB) :=
  match db.nodes.get? nodeId with
  | none => .error (.http 404 "Node not found")
  | some n => .ok ({ n with groupId }, { db with nodes := db.nodes.put { n with groupId } })

/-- A write of `home_site_id`. -/
def assignHomeSite (db : DB) (nodeId : String) (siteId : Option String) : DB :=
  match db.nodes.get? nodeId with
  | none => db
  | some n => { db with nodes := db.nodes.put { n with homeSiteId := siteId } }

/-- Requests on groups and sites, and assignments of nodes. -/
inductive Request where
  | group (op : Op)
  | bulkAssignGroup (nodeIds : List String) (groupId : Option String)
  | updateNode (nodeId : String) (groupId : Option String)
  | assignHomeSite (nodeId : String) (siteId : Option String)

/-- One request in its own session. -/
def execRequest (db : DB) : Request → DB
  | .group op => exec db op
  | .bulkAssignGroup nodeIds groupId =>
      commitOrRollback db (bulkAssignGroup db nodeIds groupId)
  | .updateNode nodeId groupId => commitOrRollback db (updateNode db nodeId groupId)
  | .assignHomeSite nodeId siteId => assignHomeSite db nodeId siteId

/-! ## §2. Deletions that strand nothing. -/

/-- Nothing refers to the group. -/
structure Unreferenced (db : DB) (id : String) : Prop where
  noChild : ∀ h ∈ db.groups.rows, h.parentId ≠ some id
  noNode : ∀ n ∈ db.nodes.rows, n.groupId ≠ some id
  noHome : ∀ n ∈ db.nodes.rows, n.homeSiteId ≠ some id

/-- A deletion of `id` that goes through found nothing that refers to it, and changes no
other row. -/
def DeleteSafe (db : DB) (id : String) (result : Except Exn (String × DB)) : Prop :=
  ∀ ans db', result = .ok (ans, db') →
    Unreferenced db id ∧ db'.groups.rows = db.groups.rows.filter (fun h => h.id ≠ id)
      ∧ db'.nodes = db.nodes

/-- The request is no deletion, or a safe one. -/
def StepSafe (db : DB) : Request → Prop
  | .group (.deleteGroup groupId) => DeleteSafe db groupId (deleteGroup db groupId)
  | .group (.deleteSite siteId) => DeleteSafe db siteId (deleteSite db siteId)
  | _ => True

/-- `delete_group` passes its checks on a row that is the home site of a node, or
`delete_site` its own on a row that has plain groups or nodes in it. -/
def strands (db : DB) : Request → Bool
  | .group (.deleteGroup groupId) =>
      (groupsEndpoint.find db groupId).isSome
        && db.groups.rows.all (fun h => h.parentId ≠ some groupId)
        && db.nodes.rows.all (fun n => n.groupId ≠ some groupId)
        && db.nodes.rows.any (fun n => n.homeSiteId = some groupId)
  | .group (.deleteSite siteId) =>
      (sitesEndpoint.find db siteId).isSome
        && db.groups.rows.all (fun h => ¬ (h.parentId = some siteId ∧ h.isSite = true))
        && db.nodes.rows.all (fun n => n.homeSiteId ≠ some siteId)
        && (db.groups.rows.any (fun h => h.parentId = some siteId)
          || db.nodes.rows.any (fun n => n.groupId = some siteId))
  | _ => false

/-- Deleting a row that no group and no node is in leaves all others as they are. -/
theorem deleteRow_unreferenced {db : DB} {id : String}
    (hchild : ∀ h ∈ db.groups.rows, h.parentId ≠ some id)
    (hnode : ∀ n ∈ db.nodes.rows, n.groupId ≠ some id) :
    (deleteRow db id).groups.rows = db.groups.rows.filter (fun h => h.id ≠ id)
      ∧ (deleteRow db id).nodes = db.nodes := by
  have hgroups : db.groups.rows.map (detach id) = db.groups.rows := by
    conv_rhs => rw [← List.map_id db.groups.rows]
    exact List.map_congr_left (fun h hh => if_neg (hchild h hh))
  have hnodes : db.nodes.rows.map (detachNode id) = db.nodes.rows := by
    conv_rhs => rw [← List.map_id db.nodes.rows]
    exact List.map_congr_left (fun n hn => if_neg (hnode n hn))
  constructor
  · show (db.groups.rows.map (detach id)).filter (fun h => !decide (h.id = id)) = _
    rw [hgroups]
    simp
  · exact Table.ext hnodes

/-- **ONE REQUEST** is safe exactly if it does not strand. -/
theorem stepSafe_iff (db : DB) (r : Request) : StepSafe db r ↔ strands db r = false := by
  cases r with
  | group op =>
      cases op with
      | deleteGroup groupId =>
          constructor
          · intro hsafe
            by_contra hstrand
            simp only [strands, Bool.not_eq_false, Bool.and_eq_true, List.all_eq_true,
              List.any_eq_true, decide_eq_true_eq] at hstrand
            obtain ⟨⟨⟨hfind, hchild⟩, hnode⟩, n, hn, hhome⟩ := hstrand
            have hok := deleteGroup_eq_ok.mpr ⟨hfind, hchild, hnode, rfl, rfl⟩
            exact (hsafe _ _ hok).1.noHome n hn hhome
          · intro hguard ans db' hok
            obtain ⟨hfind, hchild, hnode, -, rfl⟩ := deleteGroup_eq_ok.mp hok
            refine ⟨⟨hchild, hnode, ?_⟩, deleteRow_unreferenced hchild hnode⟩
            intro n hn hhome
            have hstrand : strands db (.group (.deleteGroup groupId)) = true := by
              simp only [strands, Bool.and_eq_true, List.all_eq_true, List.any_eq_true,
                decide_eq_true_eq]
              exact ⟨⟨⟨hfind, hchild⟩, hnode⟩, n, hn, hhome⟩
            simp [hstrand] at hguard
      | deleteSite siteId =>
          constructor
          · intro hsafe
            by_contra hstrand
            simp only [strands, Bool.not_eq_false, Bool.and_eq_true, Bool.or_eq_true,
              List.all_eq_true, List.any_eq_true, decide_eq_true_eq] at hstrand
            obtain ⟨⟨⟨hfind, hsites⟩, hhomes⟩, hrest⟩ := hstrand
            have hok := deleteSite_eq_ok.mpr ⟨hfind, hsites, hhomes, rfl, rfl⟩
            obtain ⟨hfree, -⟩ := hsafe _ _ hok
            rcases hrest with ⟨h, hh, hparent⟩ | ⟨n, hn, hgroup⟩
            · exact hfree.noChild h hh hparent
            · exact hfree.noNode n hn hgroup
          · intro hguard ans db' hok
            obtain ⟨hfind, hsites, hhomes, -, rfl⟩ := deleteSite_eq_ok.mp hok
            -- the guard leaves neither plain groups nor nodes
            have hrest : ¬ ((∃ h ∈ db.groups.rows, h.parentId = some siteId)
                ∨ ∃ n ∈ db.nodes.rows, n.groupId = some siteId) := by
              intro hrest
              have hstrand : strands db (.group (.deleteSite siteId)) = true := by
                simp only [strands, Bool.and_eq_true, Bool.or_eq_true, List.all_eq_true,
                  List.any_eq_true, decide_eq_true_eq]
                exact ⟨⟨⟨hfind, hsites⟩, hhomes⟩, hrest⟩
              simp [hstrand] at hguard
            have hchild : ∀ h ∈ db.groups.rows, h.parentId ≠ some siteId :=
              fun h hh heq => hrest (.inl ⟨h, hh, heq⟩)
            have hnode : ∀ n ∈ db.nodes.rows, n.groupId ≠ some siteId :=
              fun n hn heq => hrest (.inr ⟨n, hn, heq⟩)
            exact ⟨⟨hchild, hnode, hhomes⟩, deleteRow_unreferenced hchild hnode⟩
      | _ => simp [StepSafe, strands]
  | _ => simp [StepSafe, strands]

/-! ## §3. Runs. -/

/-- **DELETIONS STRAND NOTHING** in a run, from any state, exactly if no `delete_group`
passes its checks on the home site of a node and no `delete_site` on a site with plain
groups or nodes in it. -/
theorem deletes_safe_iff (db : DB) (reqs : List Request) :
    Along execRequest StepSafe db reqs
      ↔ Along execRequest (fun db r => strands db r = false) db reqs :=
  along_congr stepSafe_iff db reqs

/-- One node, nowhere yet. -/
def oneNode : Table NodeRef.id :=
  (Table.empty.insert? { id := "n" }).getD Table.empty

/-- A node is put into a site, and the site is deleted: its group is cleared. -/
theorem delete_site_strands_node :
    ¬ Along execRequest StepSafe (DB.start oneNode)
      [.group (.createSite "1" { name := ['s'], validName := by decide }),
       .bulkAssignGroup ["n"] (some "1"), .group (.deleteSite "1")] := by
  rintro ⟨-, -, hsafe, -⟩
  rw [stepSafe_iff] at hsafe
  exact absurd hsafe (by decide)

/-- The same deletion after the node was moved out. -/
example :
    Along execRequest StepSafe (DB.start oneNode)
      [.group (.createSite "1" { name := ['s'], validName := by decide }),
       .bulkAssignGroup ["n"] (some "1"), .bulkAssignGroup ["n"] none,
       .group (.deleteSite "1")] :=
  (along_congr stepSafe_iff _ _).mpr (by decide)

end PureBoot.Groups
