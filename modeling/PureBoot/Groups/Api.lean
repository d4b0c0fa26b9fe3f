/-
  PureBoot.Groups.Api — device groups and sites, and the endpoints that build
  their tree.

  Embeds the `DeviceGroup` row of `db/models.py`, `api/routes/groups.py`
  (`create_group`, `update_group`, `delete_group`, `get_group_ancestors`,
  `compute_effective_settings`) and `api/routes/sites.py` (`create_site`,
  `update_site`, `delete_site`, `compute_effective_site_settings`).  A group
  stores its parent AND its materialized path and depth; a rename or a move
  rewrites the paths of "the descendants", which it finds with a `LIKE` query on
  the old path.  The two families of endpoints have the same bodies, so each is
  one definition over an `Endpoint`, which holds the family's texts and checks.

  An update that writes the group's row never commits: `updated_at` is set by the
  database (`onupdate=func.now()`), so the flush expires it, and the answer reads it
  outside of an `await`.  The session is rolled back with all it has rewritten.

  Names and paths are lists of characters.
-/
import PureBoot.Lib.Run
import PureBoot.Lib.Table
import PureBoot.Lib.Text

namespace PureBoot.Groups

open PureBoot.Lib

/-! ## §1. Rows. -/

/-- `db/models.py: DeviceGroup`, without the description and the columns of the
site agent. -/
structure DeviceGroup where
  id : String
  name : List Char
  parentId : Option String := none
  path : List Char
  depth : Int := 0
  defaultWorkflowId : Option String := none
  autoProvision : Option Bool := none
  isSite : Bool := false
  deriving DecidableEq, Repr

/-- `parent_id` as the code tests it: an empty text is no parent. -/
def truthyId (parentId : Option String) : Option String :=
  match parentId with
  | some p => if p = "" then none else some p
  | none => none

/-- The parent of a group, if it has one. -/
def DeviceGroup.parent? (g : DeviceGroup) : Option String :=
  truthyId g.parentId

/-- The columns of `Node` that refer to groups. -/
structure NodeRef where
  id : String
  groupId : Option String := none
  homeSiteId : Option String := none
  deriving DecidableEq, Repr

/-- The tables the group endpoints work on. -/
structure DB where
  groups : Table DeviceGroup.id
  nodes : Table NodeRef.id
  deriving DecidableEq

/-- No groups yet. -/
def DB.start (nodes : Table NodeRef.id) : DB where
  groups := Table.empty
  nodes := nodes

/-- The exceptions of the group endpoints. -/
inductive Exn where
  /-- `HTTPException(status_code, detail)`. -/
  | http (statusCode : Nat) (detail : String)
  /-- `sqlalchemy.exc.NoResultFound` of `scalar_one`. -/
  | noResultFound
  /-- `sqlalchemy.exc.IntegrityError`. -/
  | integrityError
  /-- `sqlalchemy.exc.MissingGreenlet`: an expired column is read outside of an `await`. -/
  | missingGreenlet
  deriving DecidableEq, Repr

/-- What differs between `groups.py` and `sites.py`. -/
structure Endpoint where
  notFound : String
  alreadyExists : String → String
  parentNotFound : String
  ownParent : String
  circular : String
  /-- Sites work on `is_site` rows only and accept only sites as parents; the texts of
  that refusal when creating and when moving. -/
  notUnderSite : Option (String × String)
  hasChildren : Nat → String
  hasNodes : Nat → String

/-- `groups.py`. -/
def groupsEndpoint : Endpoint where
  notFound := "Group not found"
  alreadyExists := fun name => "Group '" ++ name ++ "' already exists"
  parentNotFound := "Parent group not found"
  ownParent := "Cannot set group as its own parent"
  circular := "Cannot move group under itself or its descendant"
  notUnderSite := none
  hasChildren := fun n =>
    "Cannot delete group with " ++ toString n ++ " child group(s). Remove children first."
  hasNodes := fun n =>
    "Cannot delete group with " ++ toString n ++ " node(s). Remove nodes first."

/-- `sites.py`. -/
def sitesEndpoint : Endpoint where
  notFound := "Site not found"
  alreadyExists := fun name => "Site or group '" ++ name ++ "' already exists"
  parentNotFound := "Parent not found"
  ownParent := "Cannot set site as its own parent"
  circular := "Cannot move site under itself or its descendant"
  notUnderSite := some
    ("Sites can only be nested under other sites, not regular groups",
     "Sites can only be nested under other sites")
  hasChildren := fun n =>
    "Cannot delete site with " ++ toString n ++ " child site(s). Remove children first."
  hasNodes := fun n =>
    "Cannot delete site with " ++ toString n ++ " assigned node(s). Reassign nodes first."

/-- The row an endpoint finds under an id: the site endpoints filter on `is_site`. -/
def Endpoint.find (ep : Endpoint) (db : DB) (id : String) : Option DeviceGroup :=
  (db.groups.get? id).filter (fun g => ep.notUnderSite.isNone || g.isSite)

/-- The parent row of a new or moved group; `text` picks the refusal for a parent that
is not a site. -/
def Endpoint.findParent (ep : Endpoint) (db : DB) (text : String × String → String)
    (parentId : String) : Except Exn DeviceGroup :=
  match db.groups.get? parentId with
  | none => .error (.http 404 ep.parentNotFound)
  | some parent =>
      match ep.notUnderSite with
      | some texts =>
          if parent.isSite then .ok parent else .error (.http 400 (text texts))
      | none => .ok parent

/-! ## §2. Create. -/

/-- `DeviceGroupCreate` and `SiteCreate`, after `validate_name`. -/
structure GroupCreate where
  name : List Char
  parentId : Option String := none
  defaultWorkflowId : Option String := none
  autoProvision : Option Bool := none
  /-- "Name must be 1-100 characters". -/
  validName : name ≠ [] ∧ name.length ≤ 100

/-- Path and depth of a new group. -/
def place (ep : Endpoint) (db : DB) (data : GroupCreate) : Except Exn (List Char × Int) :=
  match truthyId data.parentId with
  | some parentId => do
      let parent ← ep.findParent db Prod.fst parentId
      .ok (parent.path ++ '/' :: data.name, parent.depth + 1)
  | none => .ok ('/' :: data.name, 0)

/-- `create_group` and `create_site`. -/
def create (ep : Endpoint) (db : DB) (uuid : String) (data : GroupCreate) :
    Except Exn (DeviceGroup × DB) :=
  if db.groups.rows.any (fun g => g.name = data.name) then
    .error (.http 409 (ep.alreadyExists (String.ofList data.name)))
  else do
    let (path, depth) ← place ep db data
    let group : DeviceGroup :=
      { id := uuid, name := data.name, parentId := data.parentId, path, depth,
        defaultWorkflowId := data.defaultWorkflowId,
        autoProvision := data.autoProvision, isSite := ep.notUnderSite.isSome }
    match db.groups.insert? group with
    | some groups => .ok (group, { db with groups })
    | none => .error .integrityError

/-- `create_group`. -/
def createGroup (db : DB) (uuid : String) (data : GroupCreate) :
    Except Exn (DeviceGroup × DB) :=
  create groupsEndpoint db uuid data

/-- `create_site`; a site is created without the two inheritable settings. -/
def createSite (db : DB) (uuid : String) (data : GroupCreate) :
    Except Exn (DeviceGroup × DB) :=
  create sitesEndpoint db uuid { data with defaultWorkflowId := none, autoProvision := none }

/-! ## §3. Rename and move. -/

/-- `DeviceGroupUpdate` and `SiteUpdate`: the outer `none` is a field the request did
not set, the inner one a null. -/
structure GroupUpdate where
  name : Option (Option (List Char)) := none
  parentId : Option (Option String) := none
  defaultWorkflowId : Option (Option String) := none
  autoProvision : Option (Option Bool) := none
  /-- The description or a column of the site agent gets a value it did not have. -/
  otherColumns : Bool := false
  deriving DecidableEq, Repr

/-- Where an update puts a group. -/
structure Target where
  path : List Char
  depth : Int
  parentId : Option String
  deriving DecidableEq, Repr

/-- The tokens of `LIKE` among the characters of a text that is not escaped. -/
def likeToken (c : Char) : LikeToken Char :=
  if c = '%' then .many else if c = '_' then .one else .lit c

/-- A text as `LIKE` compares it: SQLite does not tell the case of an ASCII letter. -/
def foldCase (text : List Char) : List Char := text.map Char.toLower

/-- `DeviceGroup.path.startswith(old_path + "/")`. -/
def selects (oldPath path : List Char) : Bool :=
  like (likePrefix likeToken (foldCase (oldPath ++ ['/']))) (foldCase path)

/-- What the update does to the path and depth of a row the query selects. -/
def rewrite (g : DeviceGroup) (t : Target) (h : DeviceGroup) : DeviceGroup :=
  if selects g.path h.path then
    { h with path := replaceFirst g.path t.path h.path, depth := h.depth + (t.depth - g.depth) }
  else h

/-- The name after the update; a null name is the text `None` in a path. -/
def GroupUpdate.newName (data : GroupUpdate) (g : DeviceGroup) : Option (List Char) :=
  data.name.getD (some g.name)

/-- `"None"`, the text of a null name in an f-string. -/
def noneText : List Char := ['N', 'o', 'n', 'e']

/-- Where `update_group` and `update_site` put the group, or the exception they raise
before any write; `none` if neither the name nor the parent is set. -/
def target (ep : Endpoint) (db : DB) (g : DeviceGroup) (data : GroupUpdate) :
    Except Exn (Option Target) :=
  let name := (data.newName g).getD noneText
  match data.parentId with
  | some newParentId =>
      -- reparent
      if newParentId = some g.id then .error (.http 400 ep.ownParent)
      else match truthyId newParentId with
        | some parentId => do
            let parent ← ep.findParent db Prod.snd parentId
            if g.path ++ ['/'] <+: parent.path ∨ parent.id = g.id then
              .error (.http 400 ep.circular)
            else .ok (some ⟨parent.path ++ '/' :: name, parent.depth + 1, newParentId⟩)
        | none => .ok (some ⟨'/' :: name, 0, newParentId⟩)
  | none =>
      match data.name with
      | some _ =>
          -- rename
          match g.parent? with
          | some parentId =>
              match db.groups.get? parentId with
              | some parent => .ok (some ⟨parent.path ++ '/' :: name, g.depth, g.parentId⟩)
              | none => .error .noResultFound
          | none => .ok (some ⟨'/' :: name, g.depth, g.parentId⟩)
      | none => .ok none

/-- Rewriting never touches a primary key. -/
theorem rewrite_id (g : DeviceGroup) (t : Target) (h : DeviceGroup) :
    (rewrite g t h).id = h.id := by
  unfold rewrite
  split <;> rfl

/-- The table after the path rewrite, before the group itself is written. -/
def rewriteAll (groups : Table DeviceGroup.id) (g : DeviceGroup) :
    Option Target → Table DeviceGroup.id
  | some t => groups.update (rewrite g t) (rewrite_id g t)
  | none => groups

/-- The group's own row after the update. -/
def updatedRow (g : DeviceGroup) (data : GroupUpdate) (name : List Char) (t : Option Target) :
    DeviceGroup :=
  { g with
    name
    path := (t.map Target.path).getD g.path
    depth := (t.map Target.depth).getD g.depth
    parentId := (t.map Target.parentId).getD g.parentId
    defaultWorkflowId := data.defaultWorkflowId.getD g.defaultWorkflowId
    autoProvision := data.autoProvision.getD g.autoProvision }

/-- `update_group` and `update_site`.  The session has flushed the rows `db'` when the answer
is built; a row that was written has lost its `updated_at`. -/
def update (ep : Endpoint) (db : DB) (groupId : String) (data : GroupUpdate) :
    Except Exn (DeviceGroup × DB) :=
  match ep.find db groupId with
  | none => .error (.http 404 ep.notFound)
  | some g =>
      -- the conflict check is skipped for an empty name
      if data.newName g ≠ some [] ∧ data.newName g ≠ some g.name
          ∧ db.groups.rows.any (fun h => some h.name = data.newName g) then
        .error (.http 409 (ep.alreadyExists (String.ofList ((data.newName g).getD []))))
      else do
        let t ← target ep db g data
        match data.newName g with
        | none => .error .integrityError
        | some name =>
            -- the unique constraint on the name
            if db.groups.rows.any (fun h => h.name = name ∧ h.id ≠ g.id) then
              .error .integrityError
            else
              let g' := updatedRow g data name t
              let db' := { db with groups := (rewriteAll db.groups g t).put g' }
              if g' ≠ g ∨ data.otherColumns = true then .error .missingGreenlet
              else .ok (g', db')

/-- `update_group`. -/
def updateGroup (db : DB) (groupId : String) (data : GroupUpdate) :
    Except Exn (DeviceGroup × DB) :=
  update groupsEndpoint db groupId data

/-- `update_site`; `SiteUpdate` has no inheritable settings. -/
def updateSite (db : DB) (siteId : String) (data : GroupUpdate) :
    Except Exn (DeviceGroup × DB) :=
  update sitesEndpoint db siteId { data with defaultWorkflowId := none, autoProvision := none }

/-! ## §4. Delete. -/

/-- What the ORM does to a child of a deleted group: `parent_id` is cleared. -/
def detach (groupId : String) (h : DeviceGroup) : DeviceGroup :=
  if h.parentId = some groupId then { h with parentId := none } else h

theorem detach_id (groupId : String) (h : DeviceGroup) : (detach groupId h).id = h.id := by
  unfold detach
  split <;> rfl

/-- What the ORM does to a node of a deleted group: `group_id` is cleared. -/
def detachNode (groupId : String) (n : NodeRef) : NodeRef :=
  if n.groupId = some groupId then { n with groupId := none } else n

theorem detachNode_id (groupId : String) (n : NodeRef) : (detachNode groupId n).id = n.id := by
  unfold detachNode
  split <;> rfl

/-- `db.delete(group)` and the flush. -/
def deleteRow (db : DB) (groupId : String) : DB where
  groups := (db.groups.update (detach groupId) (detach_id groupId)).delete
    (fun h => h.id = groupId)
  nodes := db.nodes.update (detachNode groupId) (detachNode_id groupId)

/-- `delete_group`. -/
def deleteGroup (db : DB) (groupId : String) : Except Exn (String × DB) :=
  match groupsEndpoint.find db groupId with
  | none => .error (.http 404 groupsEndpoint.notFound)
  | some _ =>
      let children := db.groups.rows.countP (fun h => h.parentId = some groupId)
      let nodes := db.nodes.rows.countP (fun n => n.groupId = some groupId)
      if 0 < children then .error (.http 400 (groupsEndpoint.hasChildren children))
      else if 0 < nodes then .error (.http 400 (groupsEndpoint.hasNodes nodes))
      else .ok (groupId, deleteRow db groupId)

/-- `delete_site`: it counts child SITES and home nodes. -/
def deleteSite (db : DB) (siteId : String) : Except Exn (String × DB) :=
  match sitesEndpoint.find db siteId with
  | none => .error (.http 404 sitesEndpoint.notFound)
  | some _ =>
      let children := db.groups.rows.countP (fun h => h.parentId = some siteId ∧ h.isSite = true)
      let nodes := db.nodes.rows.countP (fun n => n.homeSiteId = some siteId)
      if 0 < children then .error (.http 400 (sitesEndpoint.hasChildren children))
      else if 0 < nodes then .error (.http 400 (sitesEndpoint.hasNodes nodes))
      else .ok (siteId, deleteRow db siteId)

/-! ## §5. Walks up the tree. -/

/-- The loop of `get_group_ancestors`; `none` is a loop still running when the fuel
is used up. -/
def ancestorLoop (db : DB) : Nat → Option String → Option (List DeviceGroup)
  | 0, _ => none
  | fuel + 1, currentId =>
      match (truthyId currentId).bind db.groups.get? with
      | none => some []
      | some parent => (ancestorLoop db fuel parent.parentId).map (parent :: ·)

/-- `get_group_ancestors`. -/
def getGroupAncestors (fuel : Nat) (db : DB) (groupId : String) :
    Except Exn (Option (List DeviceGroup)) :=
  match db.groups.get? groupId with
  | none => .error (.http 404 "Group not found")
  | some g => .ok (ancestorLoop db fuel g.parentId)

/-- The loop of `compute_effective_settings`: it stops as soon as both settings are
known. -/
def settingsLoop (db : DB) : Nat → Option String → Option String → Option Bool →
    Option (Option String × Bool)
  | 0, _, _, _ => none
  | fuel + 1, currentId, workflowId, autoProvision =>
      if workflowId = none ∨ autoProvision = none then
        match (truthyId currentId).bind db.groups.get? with
        | none => some (workflowId, autoProvision.getD false)
        | some parent =>
            settingsLoop db fuel parent.parentId (workflowId.or parent.defaultWorkflowId)
              (autoProvision.or parent.autoProvision)
      else some (workflowId, autoProvision.getD false)

/-- `compute_effective_settings`, and `compute_effective_site_settings`, which has the
same body. -/
def computeEffectiveSettings (fuel : Nat) (db : DB) (g : DeviceGroup) :
    Option (Option String × Bool) :=
  settingsLoop db fuel g.parentId g.defaultWorkflowId g.autoProvision

/-! ## §6. Requests and their execution. -/

/-- The requests that change the tree. -/
inductive Op where
  | createGroup (uuid : String) (data : GroupCreate)
  | updateGroup (groupId : String) (data : GroupUpdate)
  | deleteGroup (groupId : String)
  | createSite (uuid : String) (data : GroupCreate)
  | updateSite (siteId : String) (data : GroupUpdate)
  | deleteSite (siteId : String)

/-- One request in its own session: commit on success, roll back on an exception. -/
def exec (db : DB) : Op → DB
  | .createGroup uuid data => commitOrRollback db (createGroup db uuid data)
  | .updateGroup groupId data => commitOrRollback db (updateGroup db groupId data)
  | .deleteGroup groupId => commitOrRollback db (deleteGroup db groupId)
  | .createSite uuid data => commitOrRollback db (createSite db uuid data)
  | .updateSite siteId data => commitOrRollback db (updateSite db siteId data)
  | .deleteSite siteId => commitOrRollback db (deleteSite db siteId)

end PureBoot.Groups
