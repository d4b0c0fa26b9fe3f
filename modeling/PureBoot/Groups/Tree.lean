/-
  PureBoot.Groups.Tree — the parent relation has no cycle.

  The endpoints never look at the parent relation to refuse a cycle: they compare
  materialized paths.  What carries acyclicity is therefore an invariant about
  paths (`Linked`): the path of a group with a parent is the parent's path, a
  slash, and its own name.  Paths then grow strictly downwards, so there is no
  cycle and every walk up ends.

  A rename or a move could break `Linked`, since the wildcards of `LIKE` make it
  rewrite other paths too.  It never gets to: an update that writes the group's row
  answers 500 and is rolled back, and one that leaves that row as it is rewrites
  nothing (`update_eq_ok`).

  Main results:
    * `treeOk_of_linked` — no cycle, and the walks end;
    * `linked_exec` — one request;
    * `groups_acyclic_run` — whole runs.
-/
import Mathlib.Logic.Relation
import PureBoot.Groups.Api

namespace PureBoot.Groups

open PureBoot.Lib

/-! ## §1. The parent relation. -/

/-- `a` is a group whose parent is `b`. -/
def Parent (db : DB) (a b : String) : Prop :=
  ∃ h ∈ db.groups.rows, h.id = a ∧ h.parent? = some b

/-- `a` is below `b`: one or more parent steps lead from `a` to `b`. -/
def Below (db : DB) : String → String → Prop :=
  Relation.TransGen (Parent db)

/-- Whether `n` parent steps from `id` meet `top`. -/
def isBelow (db : DB) : Nat → String → String → Bool
  | 0, _, _ => false
  | n + 1, id, top =>
      match (db.groups.get? id).bind DeviceGroup.parent? with
      | none => false
      | some p => p = top || isBelow db n p top

theorem below_of_isBelow {db : DB} {top : String} :
    ∀ {n : Nat} {id : String}, isBelow db n id top = true → Below db id top
  | 0, _, h => by cases h
  | n + 1, id, h => by
      unfold isBelow at h
      split at h
      next => cases h
      next p hp =>
        obtain ⟨g, hg, hparent⟩ := Option.bind_eq_some_iff.mp hp
        obtain ⟨hmem, hid⟩ := Table.get?_eq_some_iff.mp hg
        have hstep : Parent db id p := ⟨g, hmem, hid, hparent⟩
        rw [Bool.or_eq_true, decide_eq_true_eq] at h
        rcases h with rfl | h
        · exact .single hstep
        · exact .head hstep (below_of_isBelow h)

/-- The parent relation has no cycle, and the two walks up the tree end. -/
structure TreeOk (db : DB) : Prop where
  acyclic : ∀ id, ¬ Below db id id
  ancestors : ∀ g ∈ db.groups.rows, ∃ fuel as, getGroupAncestors fuel db g.id = .ok (some as)
  settings : ∀ g ∈ db.groups.rows, ∃ fuel s, computeEffectiveSettings fuel db g = some s

/-! ## §2. Linked paths. -/

/-- Every group with a parent has a parent row, and its path continues the
parent's. -/
def Linked (db : DB) : Prop :=
  ∀ h ∈ db.groups.rows, ∀ p, h.parent? = some p →
    ∃ q ∈ db.groups.rows, q.id = p ∧ h.path = q.path ++ '/' :: h.name

/-- **DESCENDANTS BY PARENT HAVE THE PATH PREFIX.** -/
theorem below_path {db : DB} (hl : Linked db) {h g : DeviceGroup} (hh : h ∈ db.groups.rows)
    (hg : g ∈ db.groups.rows) (hb : Below db h.id g.id) :
    ∃ rest, h.path = g.path ++ '/' :: rest := by
  generalize hb' : g.id = b at hb
  induction hb generalizing g with
  | single hp =>
      obtain ⟨x, hx, hid, hparent⟩ := hp
      obtain rfl : x = h := db.groups.eq_of_key_eq hx hh hid
      obtain ⟨q, hq, hqid, hpath⟩ := hl x hx _ hparent
      obtain rfl : q = g := db.groups.eq_of_key_eq hq hg (hqid.trans hb'.symm)
      exact ⟨x.name, hpath⟩
  | tail _ hp ih =>
      -- one more step above the row `x` reached so far
      obtain ⟨x, hx, hid, hparent⟩ := hp
      obtain ⟨rest, hrest⟩ := ih hx hid
      obtain ⟨q, hq, hqid, hpath⟩ := hl x hx _ hparent
      obtain rfl : q = g := db.groups.eq_of_key_eq hq hg (hqid.trans hb'.symm)
      refine ⟨x.name ++ '/' :: rest, ?_⟩
      rw [hrest, hpath, List.append_assoc, List.cons_append]

theorem length_lt_of_path {p q rest : List Char} (h : p = q ++ '/' :: rest) :
    q.length < p.length := by
  rw [h, List.length_append, List.length_cons]
  omega

theorem not_below_self {db : DB} (hl : Linked db) (id : String) : ¬ Below db id id := by
  intro hb
  obtain ⟨b, hp, -⟩ := Relation.TransGen.head'_iff.mp hb
  obtain ⟨h, hh, hid, -⟩ := hp
  subst hid
  obtain ⟨rest, hrest⟩ := below_path hl hh hh hb
  exact absurd (length_lt_of_path hrest) (Nat.lt_irrefl _)

/-- The row a walk looks at next has a shorter path than the row it came from. -/
theorem next_path {db : DB} (hl : Linked db) {h q : DeviceGroup} (hh : h ∈ db.groups.rows)
    (hnext : (truthyId h.parentId).bind db.groups.get? = some q) :
    q ∈ db.groups.rows ∧ q.path.length < h.path.length := by
  obtain ⟨p, hp, hget⟩ := Option.bind_eq_some_iff.mp hnext
  obtain ⟨hq, hqid⟩ := Table.get?_eq_some_iff.mp hget
  obtain ⟨q', hq', hqid', hpath⟩ := hl h hh p hp
  obtain rfl : q' = q := db.groups.eq_of_key_eq hq' hq (hqid'.trans hqid.symm)
  exact ⟨hq, length_lt_of_path hpath⟩

theorem ancestorLoop_ends {db : DB} (hl : Linked db) :
    ∀ (fuel : Nat) {h : DeviceGroup}, h ∈ db.groups.rows → h.path.length < fuel →
      ∃ as, ancestorLoop db fuel h.parentId = some as
  | 0, _, _, hlt => absurd hlt (Nat.not_lt_zero _)
  | fuel + 1, h, hh, hlt => by
      unfold ancestorLoop
      cases hnext : (truthyId h.parentId).bind db.groups.get? with
      | none => exact ⟨[], rfl⟩
      | some q =>
          obtain ⟨hq, hshort⟩ := next_path hl hh hnext
          obtain ⟨as, has⟩ := ancestorLoop_ends hl fuel hq (by omega)
          refine ⟨q :: as, ?_⟩
          dsimp only
          rw [has]
          rfl

theorem settingsLoop_ends {db : DB} (hl : Linked db) :
    ∀ (fuel : Nat) {h : DeviceGroup} (w : Option String) (a : Option Bool),
      h ∈ db.groups.rows → h.path.length < fuel →
      ∃ s, settingsLoop db fuel h.parentId w a = some s
  | 0, _, _, _, _, hlt => absurd hlt (Nat.not_lt_zero _)
  | fuel + 1, h, w, a, hh, hlt => by
      unfold settingsLoop
      by_cases hneed : w = none ∨ a = none
      · rw [if_pos hneed]
        cases hnext : (truthyId h.parentId).bind db.groups.get? with
        | none => exact ⟨_, rfl⟩
        | some q =>
            obtain ⟨hq, hshort⟩ := next_path hl hh hnext
            exact settingsLoop_ends hl fuel _ _ hq (by omega)
      · rw [if_neg hneed]
        exact ⟨_, rfl⟩

/-- **LINKED PATHS MAKE A TREE.** -/
theorem treeOk_of_linked {db : DB} (hl : Linked db) : TreeOk db where
  acyclic := not_below_self hl
  ancestors := by
    intro g hg
    obtain ⟨as, has⟩ := ancestorLoop_ends hl (g.path.length + 1) hg (Nat.lt_succ_self _)
    refine ⟨g.path.length + 1, as, ?_⟩
    unfold getGroupAncestors
    rw [Table.get?_eq_some_iff.mpr ⟨hg, rfl⟩]
    dsimp only
    rw [has]
  settings := by
    intro g hg
    obtain ⟨s, hs⟩ := settingsLoop_ends hl (g.path.length + 1) g.defaultWorkflowId
      g.autoProvision hg (Nat.lt_succ_self _)
    exact ⟨g.path.length + 1, s, hs⟩

/-! ## §3. An update. -/

theorem findParent_ok {ep : Endpoint} {db : DB} {text : String × String → String}
    {parentId : String} {q : DeviceGroup} (h : ep.findParent db text parentId = .ok q) :
    q ∈ db.groups.rows ∧ q.id = parentId := by
  unfold Endpoint.findParent at h
  split at h
  next => cases h
  next parent hget =>
    have hparent := Table.get?_eq_some_iff.mp hget
    split at h
    next =>
      split at h
      next =>
        injection h with h
        subst h
        exact hparent
      next => cases h
    next =>
      injection h with h
      subst h
      exact hparent

theorem find_ok {ep : Endpoint} {db : DB} {id : String} {g : DeviceGroup}
    (h : ep.find db id = some g) : g ∈ db.groups.rows ∧ g.id = id := by
  unfold Endpoint.find at h
  obtain ⟨hget, -⟩ := Option.filter_eq_some_iff.mp h
  exact Table.get?_eq_some_iff.mp hget

/-- A path that stays is replaced by itself. -/
theorem rewrite_eq_self {g : DeviceGroup} {t : Target} (hpath : t.path = g.path)
    (hdepth : t.depth = g.depth) (h : DeviceGroup) : rewrite g t h = h := by
  unfold rewrite
  rw [hpath, hdepth, replaceFirst_self, Int.sub_self, Int.add_zero]
  exact ite_self h

/-- If the group stays where it is, no row is rewritten. -/
theorem rewriteAll_eq_self {groups : Table DeviceGroup.id} {g : DeviceGroup} {t : Option Target}
    (hpath : (t.map Target.path).getD g.path = g.path)
    (hdepth : (t.map Target.depth).getD g.depth = g.depth) : rewriteAll groups g t = groups := by
  cases t with
  | none => rfl
  | some t => exact Table.ext ((List.map_congr_left
      (fun h _ => rewrite_eq_self hpath hdepth h)).trans (List.map_id groups.rows))

/-- **AN UPDATE THAT IS ANSWERED HAS CHANGED NOTHING.** -/
theorem update_eq_ok {ep : Endpoint} {db db' : DB} {groupId : String} {data : GroupUpdate}
    {g' : DeviceGroup} (h : update ep db groupId data = .ok (g', db')) :
    ep.find db groupId = some g' ∧ db' = db := by
  unfold update at h
  split at h
  next => cases h
  next g hfind =>
    split at h
    next => cases h
    next =>
      obtain ⟨t, -, h⟩ := bind_eq_ok.mp h
      split at h
      next => cases h
      next name _ =>
        obtain ⟨-, h⟩ := ite_error_eq_ok.mp h
        obtain ⟨hsame, h⟩ := ite_error_eq_ok.mp h
        -- the own row is as it was, so its path and depth are, and so is every other row
        have hrow : updatedRow g data name t = g := by
          by_contra hne
          exact hsame (.inl hne)
        have hall : rewriteAll db.groups g t = db.groups :=
          rewriteAll_eq_self (congrArg DeviceGroup.path hrow) (congrArg DeviceGroup.depth hrow)
        injection h with h
        injection h with hg' hdb'
        rw [hrow] at hg'
        subst hg'
        rw [hall, hrow, Table.put_self (find_ok hfind).1] at hdb'
        exact ⟨hfind, hdb'.symm⟩

/-- Whatever an update does, the rows stay as they are. -/
theorem exec_update (ep : Endpoint) (db : DB) (groupId : String) (data : GroupUpdate) :
    commitOrRollback db (update ep db groupId data) = db := by
  cases h : update ep db groupId data with
  | error e => rfl
  | ok r => exact (update_eq_ok h).2

/-! ## §4. One request. -/

theorem place_ok {ep : Endpoint} {db : DB} {data : GroupCreate} {path : List Char} {depth : Int}
    (h : place ep db data = .ok (path, depth)) :
    (truthyId data.parentId = none ∧ path = '/' :: data.name ∧ depth = 0) ∨
      ∃ q ∈ db.groups.rows, truthyId data.parentId = some q.id
        ∧ path = q.path ++ '/' :: data.name ∧ depth = q.depth + 1 := by
  unfold place at h
  split at h
  next parentId hparent =>
    obtain ⟨q, hq, h⟩ := bind_eq_ok.mp h
    obtain ⟨hmem, hid⟩ := findParent_ok hq
    injection h with h
    injection h with hpath hdepth
    subst hid
    exact .inr ⟨q, hmem, hparent, hpath.symm, hdepth.symm⟩
  next hparent =>
    injection h with h
    injection h with hpath hdepth
    exact .inl ⟨hparent, hpath.symm, hdepth.symm⟩

/-- The row that `create` inserts. -/
theorem create_spec {ep : Endpoint} {db db' : DB} {uuid : String} {data : GroupCreate}
    {g : DeviceGroup} (h : create ep db uuid data = .ok (g, db')) :
    ∃ path depth, place ep db data = .ok (path, depth) ∧
      db'.groups.rows = db.groups.rows ++ [g] ∧
      g = { id := uuid, name := data.name, parentId := data.parentId, path, depth,
            defaultWorkflowId := data.defaultWorkflowId, autoProvision := data.autoProvision,
            isSite := ep.notUnderSite.isSome } := by
  unfold create at h
  split at h
  next => cases h
  next =>
    obtain ⟨⟨path, depth⟩, hplace, h⟩ := bind_eq_ok.mp h
    dsimp only at h
    split at h
    next groups hins =>
      obtain ⟨-, hrows⟩ := Table.insert?_eq_some_iff.mp hins
      injection h with h
      injection h with hg hdb
      subst hdb
      subst hg
      exact ⟨path, depth, hplace, hrows, rfl⟩
    next => cases h

theorem create_ok {ep : Endpoint} {db db' : DB} {uuid : String} {data : GroupCreate}
    {g : DeviceGroup} (h : create ep db uuid data = .ok (g, db')) :
    db'.groups.rows = db.groups.rows ++ [g] ∧ g.name = data.name ∧
      ((g.parent? = none ∧ g.path = '/' :: g.name ∧ g.depth = 0) ∨
        ∃ q ∈ db.groups.rows, g.parent? = some q.id ∧ g.path = q.path ++ '/' :: g.name
          ∧ g.depth = q.depth + 1) := by
  obtain ⟨path, depth, hplace, hrows, rfl⟩ := create_spec h
  exact ⟨hrows, rfl, place_ok hplace⟩

theorem linked_create {ep : Endpoint} {db db' : DB} {uuid : String} {data : GroupCreate}
    {g : DeviceGroup} (hl : Linked db) (h : create ep db uuid data = .ok (g, db')) :
    Linked db' := by
  obtain ⟨hrows, -, hplace⟩ := create_ok h
  intro x hx p hp
  rw [hrows] at hx ⊢
  rcases List.mem_append.mp hx with hx | hx
  · obtain ⟨q, hq, hqid, hpath⟩ := hl x hx p hp
    exact ⟨q, List.mem_append_left _ hq, hqid, hpath⟩
  · obtain rfl := List.mem_singleton.mp hx
    rcases hplace with ⟨hroot, -, -⟩ | ⟨q, hq, hparent, hpath, -⟩
    · exact absurd (hroot.symm.trans hp) (by simp)
    · refine ⟨q, List.mem_append_left _ hq, ?_, hpath⟩
      rw [hparent] at hp
      injection hp

/-- A row after the deletion of `groupId` is a row from before it, the children now
without a parent. -/
theorem mem_deleteRow {db : DB} {groupId : String} {x : DeviceGroup} :
    x ∈ (deleteRow db groupId).groups.rows ↔
      ∃ y ∈ db.groups.rows, y.id ≠ groupId ∧ detach groupId y = x := by
  unfold deleteRow
  rw [Table.mem_delete, Table.mem_update]
  constructor
  · rintro ⟨⟨y, hy, rfl⟩, hid⟩
    rw [detach_id] at hid
    exact ⟨y, hy, by simpa using hid, rfl⟩
  · rintro ⟨y, hy, hid, rfl⟩
    refine ⟨⟨y, hy, rfl⟩, ?_⟩
    rw [detach_id]
    simpa using hid

theorem detach_fields (groupId : String) (h : DeviceGroup) :
    (detach groupId h).path = h.path ∧ (detach groupId h).name = h.name
      ∧ (detach groupId h).depth = h.depth := by
  unfold detach
  split
  next => exact ⟨rfl, rfl, rfl⟩
  next => exact ⟨rfl, rfl, rfl⟩

theorem detach_parent {groupId p : String} {h : DeviceGroup}
    (hp : (detach groupId h).parent? = some p) : h.parent? = some p ∧ p ≠ groupId := by
  unfold detach at hp
  split at hp
  next => cases hp
  next hne =>
    refine ⟨hp, ?_⟩
    rintro rfl
    apply hne
    unfold DeviceGroup.parent? truthyId at hp
    split at hp
    next p' hp' =>
      split at hp
      next => cases hp
      next =>
        injection hp with hp
        rw [hp', hp]
    next => cases hp

theorem linked_deleteRow {db : DB} (hl : Linked db) (groupId : String) :
    Linked (deleteRow db groupId) := by
  intro x hx p hp
  obtain ⟨y, hy, -, rfl⟩ := mem_deleteRow.mp hx
  obtain ⟨hparent, hne⟩ := detach_parent hp
  obtain ⟨q, hq, rfl, hpath⟩ := hl y hy p hparent
  refine ⟨detach groupId q, mem_deleteRow.mpr ⟨q, hq, hne, rfl⟩, detach_id groupId q, ?_⟩
  rw [(detach_fields groupId y).1, (detach_fields groupId y).2.1, (detach_fields groupId q).1]
  exact hpath

/-- A row is deleted where two counts are zero. -/
theorem countChecks_eq_ok {α β γ : Type} {xs : List α} {ys : List β} {p : α → Bool}
    {q : β → Bool} {e e' : Exn} {a b : γ} :
    (if 0 < xs.countP p then .error e else if 0 < ys.countP q then .error e' else .ok a
      : Except Exn γ) = .ok b ↔
      (∀ x ∈ xs, ¬ p x = true) ∧ (∀ y ∈ ys, ¬ q y = true) ∧ b = a := by
  rw [ite_error_eq_ok, ite_error_eq_ok, Nat.not_lt, Nat.le_zero, Nat.not_lt, Nat.le_zero,
    List.countP_eq_zero, List.countP_eq_zero, Except.ok.injEq, eq_comm]

/-- `delete_group` goes through exactly if the group is there and has neither a child nor
a node. -/
theorem deleteGroup_eq_ok {db db' : DB} {groupId id : String} :
    deleteGroup db groupId = .ok (id, db') ↔
      (groupsEndpoint.find db groupId).isSome = true
        ∧ (∀ x ∈ db.groups.rows, x.parentId ≠ some groupId)
        ∧ (∀ n ∈ db.nodes.rows, n.groupId ≠ some groupId)
        ∧ id = groupId ∧ db' = deleteRow db groupId := by
  unfold deleteGroup
  cases groupsEndpoint.find db groupId with
  | none => simp
  | some g =>
      dsimp only
      rw [countChecks_eq_ok]
      simp only [decide_eq_true_eq, Prod.mk.injEq, Option.isSome_some, true_and, ne_eq]

/-- `delete_site` goes through exactly if the site is there and has neither a child site
nor a home node. -/
theorem deleteSite_eq_ok {db db' : DB} {siteId id : String} :
    deleteSite db siteId = .ok (id, db') ↔
      (sitesEndpoint.find db siteId).isSome = true
        ∧ (∀ x ∈ db.groups.rows, ¬ (x.parentId = some siteId ∧ x.isSite = true))
        ∧ (∀ n ∈ db.nodes.rows, n.homeSiteId ≠ some siteId)
        ∧ id = siteId ∧ db' = deleteRow db siteId := by
  unfold deleteSite
  cases sitesEndpoint.find db siteId with
  | none => simp
  | some g =>
      dsimp only
      rw [countChecks_eq_ok]
      simp only [decide_eq_true_eq, Prod.mk.injEq, Option.isSome_some, true_and, ne_eq]

/-- **ONE REQUEST.** -/
theorem linked_exec (db : DB) (op : Op) (hl : Linked db) : Linked (exec db op) := by
  cases op with
  | createGroup uuid data =>
      exact commitOrRollback_preserves hl (fun _ _ h => linked_create hl h)
  | createSite uuid data =>
      exact commitOrRollback_preserves hl (fun _ _ h => linked_create hl h)
  | updateGroup groupId data =>
      show Linked (commitOrRollback db (update _ db groupId data))
      rw [exec_update]
      exact hl
  | updateSite siteId data =>
      show Linked (commitOrRollback db (update _ db siteId _))
      rw [exec_update]
      exact hl
  | deleteGroup groupId =>
      refine commitOrRollback_preserves hl (fun _ db' h => ?_)
      obtain ⟨-, -, -, -, rfl⟩ := deleteGroup_eq_ok.mp h
      exact linked_deleteRow hl groupId
  | deleteSite siteId =>
      refine commitOrRollback_preserves hl (fun _ db' h => ?_)
      obtain ⟨-, -, -, -, rfl⟩ := deleteSite_eq_ok.mp h
      exact linked_deleteRow hl siteId

/-! ## §5. Whole runs. -/

theorem linked_start (nodes : Table NodeRef.id) : Linked (DB.start nodes) := by
  intro h hh
  cases hh

/-- **NO CYCLE AND ALL WALKS END, IN EVERY STATE** of every run. -/
theorem groups_acyclic_run (nodes : Table NodeRef.id) (ops : List Op) :
    Always exec TreeOk (DB.start nodes) ops :=
  (always_of_step (fun db op hl _ => linked_exec db op hl) (linked_start nodes)
    (along_true _ ops)).mono (fun _ => treeOk_of_linked)

/-- A request that creates a group. -/
def createOp (uuid : String) (name : List Char) (parentId : Option String)
    (hname : name ≠ [] ∧ name.length ≤ 100) : Op :=
  .createGroup uuid { name, parentId, validName := hname }

/-- The data of a group whose name is one letter. -/
def oneLetter (letter : Char) (parentId : Option String) : GroupCreate :=
  { name := [letter], parentId, validName := ⟨List.cons_ne_nil letter [], by simp⟩ }

/-- A rename that would take the path of `p`, which is under `%x`, with it. -/
example :
    (run exec (DB.start Table.empty)
      [createOp "1" ['%'] none (by decide), createOp "2" ['%', 'x'] none (by decide),
       createOp "3" ['p'] (some "2") (by decide),
       .updateGroup "1" { name := some (some ['q']) }]).groups.rows.map DeviceGroup.path
      = [['/', '%'], ['/', '%', 'x'], ['/', '%', 'x', '/', 'p']] := by decide

end PureBoot.Groups
