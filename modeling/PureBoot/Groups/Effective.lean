/-
  PureBoot.Groups.Effective — the EFFECTIVE SETTINGS of a group, and where they are shown.

  A group that does not set its workflow or its provisioning takes it from the nearest group
  above that does.  `compute_effective_settings` looks for both in one loop, which stops when
  both are found; each comes out as if it were looked for alone.

  Embeds also the answers of `list_groups`, `get_group` and `update_group` with
  `DeviceGroupResponse.from_group` of `api/schemas.py`.  Only `get_group` computes the
  effective settings; the other two leave them to the defaults of `from_group`, which are
  those of a group that inherits nothing.

  Main results:
    * `effective_settings_nearest` — the loop ends, with the nearest settings upwards;
    * `settings_shown_iff` — when the three answers agree with it.
-/
import PureBoot.Groups.Tree
import PureBoot.Lib.Climb

namespace PureBoot.Groups

open PureBoot.Lib

/-! ## §1. The way up. -/

/-- The row above a group, if there is one. -/
def above (db : DB) (g : DeviceGroup) : Option DeviceGroup :=
  g.parent?.bind db.groups.get?

/-- `compute_effective_site_settings`. -/
def computeEffectiveSiteSettings (fuel : Nat) (db : DB) (site : DeviceGroup) :
    Option (Option String × Bool) :=
  computeEffectiveSettings fuel db site

/-- The first workflow and the first provisioning that are set on a path, with the defaults. -/
def nearestSettings (path : List DeviceGroup) : Option String × Bool :=
  (path.findSome? DeviceGroup.defaultWorkflowId,
    (path.findSome? DeviceGroup.autoProvision).getD false)

/-- The computation ends with these settings. -/
def Computes (compute : Nat → DB → DeviceGroup → Option (Option String × Bool)) (db : DB)
    (g : DeviceGroup) (s : Option String × Bool) : Prop :=
  ∃ n, ∀ fuel, n ≤ fuel → compute fuel db g = some s

variable {db : DB} {g : DeviceGroup}

theorem above_mem {h : DeviceGroup} (habove : above db g = some h) : h ∈ db.groups.rows := by
  obtain ⟨p, -, hget⟩ := Option.bind_eq_some_iff.mp habove
  exact (Table.get?_eq_some_iff.mp hget).1

theorem parent_of_above {h : DeviceGroup} (hg : g ∈ db.groups.rows)
    (habove : above db g = some h) : Parent db g.id h.id := by
  obtain ⟨p, hp, hget⟩ := Option.bind_eq_some_iff.mp habove
  obtain ⟨-, rfl⟩ := Table.get?_eq_some_iff.mp hget
  exact ⟨g, hg, rfl, hp⟩

/-- Whoever is reached by going up is above. -/
theorem below_of_stepsUp {h : DeviceGroup} (hg : g ∈ db.groups.rows)
    (hsteps : Relation.TransGen (StepUp (above db)) g h) : Below db g.id h.id := by
  induction hsteps with
  | single hstep => exact .single (parent_of_above hg hstep)
  | tail hsteps hstep ih =>
      -- a row that is above another one is in the table
      obtain ⟨x, -, hx⟩ := Relation.TransGen.tail'_iff.mp hsteps
      exact ih.tail (parent_of_above (above_mem hx) hstep)

/-- Without a cycle there is a path from every group to its root. -/
theorem exists_path (hacyclic : ∀ id, ¬ Below db id id) (hg : g ∈ db.groups.rows) :
    ∃ path, Climb (above db) g path ∧ path.length ≤ db.groups.rows.length := by
  refine exists_climb (fun _ _ _ => above_mem) (fun x hx => ?_) hg
  obtain ⟨y, -, hyx⟩ := Relation.TransGen.tail'_iff.mp hx
  exact hacyclic x.id (below_of_stepsUp (above_mem hyx) hx)

theorem findSome?_cons_or {β : Type*} (f : DeviceGroup → Option β) (h : DeviceGroup)
    (path : List DeviceGroup) : (h :: path).findSome? f = (f h).or (path.findSome? f) := by
  rw [List.findSome?_cons]
  cases f h <;> rfl

theorem climb_head {path : List DeviceGroup} (h : Climb (above db) g path) :
    path = g :: path.tail := by
  cases h with
  | top => rfl
  | up => rfl

/-! ## §2. The loop. -/

/-- **THE LOOP LOOKS FOR BOTH SETTINGS AT ONCE**: each is what was known, or the first that
is set above. -/
theorem settingsLoop_climb {path : List DeviceGroup} (hpath : Climb (above db) g path) :
    ∀ {fuel : Nat} (workflowId : Option String) (autoProvision : Option Bool),
      path.length ≤ fuel →
      settingsLoop db fuel g.parentId workflowId autoProvision
        = some (workflowId.or (path.tail.findSome? DeviceGroup.defaultWorkflowId),
            (autoProvision.or (path.tail.findSome? DeviceGroup.autoProvision)).getD false) := by
  induction hpath with
  | @top g hnone =>
      intro fuel workflowId autoProvision hfuel
      cases fuel with
      | zero => simp at hfuel
      | succ fuel =>
          have hnone : (truthyId g.parentId).bind db.groups.get? = none := hnone
          unfold settingsLoop
          rw [hnone, ite_self]
          simp
  | @up g h path hnext hrest ih =>
      intro fuel workflowId autoProvision hfuel
      cases fuel with
      | zero => simp at hfuel
      | succ fuel =>
          have hnext : (truthyId g.parentId).bind db.groups.get? = some h := hnext
          rw [List.length_cons] at hfuel
          unfold settingsLoop
          rw [hnext, List.tail_cons, climb_head hrest, findSome?_cons_or, findSome?_cons_or,
            ← Option.or_assoc, ← Option.or_assoc]
          split
          next =>
            -- what is missing is taken from the parent, if it sets it
            exact ih _ _ (by omega)
          next hknown =>
            -- both are known: nothing above is looked at
            obtain ⟨hworkflow, hauto⟩ := not_or.mp hknown
            obtain ⟨w, rfl⟩ := Option.ne_none_iff_exists'.mp hworkflow
            obtain ⟨a, rfl⟩ := Option.ne_none_iff_exists'.mp hauto
            rfl

theorem computes_settings {path : List DeviceGroup} (hpath : Climb (above db) g path) :
    Computes computeEffectiveSettings db g (nearestSettings path) := by
  refine ⟨path.length, fun fuel hfuel => ?_⟩
  unfold computeEffectiveSettings nearestSettings
  rw [settingsLoop_climb hpath _ _ hfuel, climb_head hpath, findSome?_cons_or, findSome?_cons_or]
  rfl

/-- **NEAREST SETTING UPWARDS.** -/
theorem effective_settings_nearest (hacyclic : ∀ id, ¬ Below db id id)
    (hg : g ∈ db.groups.rows) :
    ∃ path, Climb (above db) g path
      ∧ Computes computeEffectiveSettings db g (nearestSettings path)
      ∧ Computes computeEffectiveSiteSettings db g (nearestSettings path) := by
  obtain ⟨path, hpath, -⟩ := exists_path hacyclic hg
  exact ⟨path, hpath, computes_settings hpath, computes_settings hpath⟩

/-- Parents of smaller rank: no cycle. -/
theorem not_below_of_rank (rank : String → Nat)
    (hrank : ∀ h ∈ db.groups.rows, ∀ p ∈ h.parent?, rank p < rank h.id) (id : String) :
    ¬ Below db id id := by
  have hlt : ∀ {a b : String}, Below db a b → rank b < rank a := by
    intro a b hb
    induction hb with
    | single hp =>
        obtain ⟨h, hh, rfl, hparent⟩ := hp
        exact hrank h hh _ hparent
    | tail _ hp ih =>
        obtain ⟨h, hh, rfl, hparent⟩ := hp
        exact (hrank h hh _ hparent).trans ih
  exact fun hb => Nat.lt_irrefl _ (hlt hb)

/-- A group with neither setting. -/
def chainBottom : DeviceGroup where
  id := "aaaa"
  name := ['c']
  path := []
  parentId := some "aaa"

/-- It is under a group with a provisioning, and that one under a group with a workflow, whose
own parent is missing. -/
def chainRows : List DeviceGroup :=
  [chainBottom,
   { id := "aaa", name := ['b'], path := [], parentId := some "aa", autoProvision := some true },
   { id := "aa", name := ['a'], path := [], parentId := some "a",
     defaultWorkflowId := some "w", autoProvision := some false }]

def chainDB : DB where
  groups := ⟨chainRows, by decide⟩
  nodes := Table.empty

theorem chain_acyclic (id : String) : ¬ Below chainDB id id :=
  not_below_of_rank String.length (by decide) id

/-- Each setting comes from another level. -/
theorem effective_settings_nearest_chain :
    ∃ path, Climb (above chainDB) chainBottom path
      ∧ Computes computeEffectiveSettings chainDB chainBottom (nearestSettings path)
      ∧ Computes computeEffectiveSiteSettings chainDB chainBottom (nearestSettings path) :=
  effective_settings_nearest chain_acyclic (by decide)

/-! ## §3. The answers. -/

/-- `api/schemas.py: DeviceGroupResponse`. -/
structure DeviceGroupResponse where
  id : String
  name : List Char
  parentId : Option String
  path : List Char
  depth : Int
  childrenCount : Nat
  defaultWorkflowId : Option String
  autoProvision : Option Bool
  effectiveWorkflowId : Option String
  effectiveAutoProvision : Bool
  nodeCount : Nat
  deriving DecidableEq, Repr

/-- The two effective fields of an answer. -/
def DeviceGroupResponse.effective (r : DeviceGroupResponse) : Option String × Bool :=
  (r.effectiveWorkflowId, r.effectiveAutoProvision)

/-- `DeviceGroupResponse.from_group`: a workflow that is passed is shown unless it is an
empty text, a provisioning that is passed only if the group has none of its own. -/
def DeviceGroupResponse.fromGroup (g : DeviceGroup) (nodeCount childrenCount : Nat)
    (effectiveWorkflowId : Option String) (effectiveAutoProvision : Bool) :
    DeviceGroupResponse where
  id := g.id
  name := g.name
  parentId := g.parentId
  path := g.path
  depth := g.depth
  childrenCount
  defaultWorkflowId := g.defaultWorkflowId
  autoProvision := g.autoProvision
  effectiveWorkflowId := (truthyId effectiveWorkflowId).or g.defaultWorkflowId
  effectiveAutoProvision := g.autoProvision.getD effectiveAutoProvision
  nodeCount

/-- `select(func.count(Node.id))` of a group, grouped or not. -/
def nodeCount (db : DB) (groupId : String) : Nat :=
  db.nodes.rows.countP (fun n => n.groupId = some groupId)

/-- `select(func.count(DeviceGroup.id))` of the children of a group, grouped or not. -/
def childrenCount (db : DB) (groupId : String) : Nat :=
  db.groups.rows.countP (fun h => h.parentId = some groupId)

/-- The filters of `list_groups`. -/
def listed (rootOnly : Bool) (parentId : Option String) (h : DeviceGroup) : Bool :=
  if rootOnly then h.parentId = none
  else match truthyId parentId with
    | some p => h.parentId = some p
    | none => true

/-- `list_groups`: the rows, and `total`. -/
def listGroups (db : DB) (rootOnly : Bool) (parentId : Option String) :
    List DeviceGroupResponse × Nat :=
  let groups := db.groups.rows.filter (listed rootOnly parentId)
  (groups.map (fun g => .fromGroup g (nodeCount db g.id) (childrenCount db g.id) none false),
    groups.length)

/-- `get_group`; the inner `none` is a computation still running when the fuel is used up. -/
def getGroup (fuel : Nat) (db : DB) (groupId : String) :
    Except Exn (Option DeviceGroupResponse) :=
  match db.groups.get? groupId with
  | none => .error (.http 404 "Group not found")
  | some g =>
      .ok ((computeEffectiveSettings fuel db g).map (fun s =>
        .fromGroup g (nodeCount db groupId) (childrenCount db groupId) s.1 s.2))

/-- The answer of `update_group`, with the state after it. -/
def updateGroupResponse (db : DB) (groupId : String) (data : GroupUpdate) :
    Except Exn (DeviceGroupResponse × DB) := do
  let (g, db') ← updateGroup db groupId data
  .ok (.fromGroup g (nodeCount db' groupId) (childrenCount db' groupId) none false, db')

/-! ## §4. Agreement. -/

/-- Every answer about `g` in the state `db` shows the settings `s`; `update_group` answers
in the state it leads to. -/
structure Shows (db : DB) (g : DeviceGroup) (s : Option String × Bool) : Prop where
  list : ∀ rootOnly parentId, ∀ r ∈ (listGroups db rootOnly parentId).1, r.id = g.id →
    r.effective = s
  get : ∃ n, ∀ fuel, n ≤ fuel → ∃ r, getGroup fuel db g.id = .ok (some r) ∧ r.effective = s
  update : ∀ db₀ data r, updateGroupResponse db₀ g.id data = .ok (r, db) → r.effective = s

/-- The group inherits nothing from the groups above it: it sets its own workflow or none of
them sets one, and it sets its own provisioning or the first of them that sets one sets it
to false. -/
structure InheritsNothing (g : DeviceGroup) (ancestors : List DeviceGroup) : Prop where
  workflow : g.defaultWorkflowId = none → ∀ h ∈ ancestors, h.defaultWorkflowId = none
  autoProvision : g.autoProvision = none →
    ancestors.findSome? DeviceGroup.autoProvision ≠ some true

/-- What an answer shows to which nothing was passed. -/
def ownSettings (g : DeviceGroup) : Option String × Bool :=
  (g.defaultWorkflowId, g.autoProvision.getD false)

theorem effective_default (g : DeviceGroup) (nodes children : Nat) :
    (DeviceGroupResponse.fromGroup g nodes children none false).effective = ownSettings g := rfl

/-- The group's own settings are the effective ones exactly if it inherits nothing. -/
theorem ownSettings_eq_iff {g : DeviceGroup} {ancestors : List DeviceGroup} :
    ownSettings g = nearestSettings (g :: ancestors) ↔ InheritsNothing g ancestors := by
  have hworkflow : g.defaultWorkflowId
        = g.defaultWorkflowId.or (ancestors.findSome? DeviceGroup.defaultWorkflowId) ↔
      (g.defaultWorkflowId = none → ∀ h ∈ ancestors, h.defaultWorkflowId = none) := by
    cases g.defaultWorkflowId with
    | some w => simp
    | none =>
        rw [Option.none_or, eq_comm, List.findSome?_eq_none_iff]
        exact ⟨fun h _ => h, fun h => h rfl⟩
  have hauto : g.autoProvision.getD false
        = (g.autoProvision.or (ancestors.findSome? DeviceGroup.autoProvision)).getD false ↔
      (g.autoProvision = none → ancestors.findSome? DeviceGroup.autoProvision ≠ some true) := by
    cases g.autoProvision with
    | some a => simp
    | none =>
        cases ancestors.findSome? DeviceGroup.autoProvision with
        | none => simp
        | some a => simp [eq_comm]
  unfold ownSettings nearestSettings
  rw [findSome?_cons_or, findSome?_cons_or, Prod.mk.injEq, hworkflow, hauto]
  exact ⟨fun h => ⟨h.1, h.2⟩, fun h => ⟨h.workflow, h.autoProvision⟩⟩

theorem mem_listGroups {rootOnly : Bool} {parentId : Option String} {r : DeviceGroupResponse}
    (hr : r ∈ (listGroups db rootOnly parentId).1) :
    ∃ h ∈ db.groups.rows, r.id = h.id ∧ r.effective = ownSettings h := by
  obtain ⟨h, hh, rfl⟩ := List.mem_map.mp hr
  exact ⟨h, (List.mem_filter.mp hh).1, rfl, effective_default h _ _⟩

/-- Unfiltered, `list_groups` shows every group. -/
theorem mem_listGroups_of_mem (hg : g ∈ db.groups.rows) :
    ∃ r ∈ (listGroups db false none).1, r.id = g.id ∧ r.effective = ownSettings g :=
  ⟨_, List.mem_map.mpr ⟨g, List.mem_filter.mpr ⟨hg, rfl⟩, rfl⟩, rfl, effective_default g _ _⟩

/-- `update_group` answers, if it does, with the row it has found. -/
theorem updateGroupResponse_ok {db₀ : DB} {groupId : String} {data : GroupUpdate}
    {r : DeviceGroupResponse} (h : updateGroupResponse db₀ groupId data = .ok (r, db)) :
    ∃ g' ∈ db.groups.rows, g'.id = groupId ∧ r.effective = ownSettings g' := by
  obtain ⟨⟨g', db'⟩, hupdate, hanswer⟩ := bind_eq_ok.mp h
  injection hanswer with hanswer
  injection hanswer with hr hdb
  subst hdb
  obtain ⟨hfind, rfl⟩ := update_eq_ok hupdate
  obtain ⟨hg, hid⟩ := find_ok hfind
  refine ⟨g', hg, hid, ?_⟩
  rw [← hr]
  exact effective_default _ _ _

/-- `get_group` shows the effective settings unless they are an inherited empty text. -/
theorem getGroup_effective {fuel : Nat} {s : Option String × Bool} (hg : g ∈ db.groups.rows)
    (hs : computeEffectiveSettings fuel db g = some s) :
    getGroup fuel db g.id = .ok (some (.fromGroup g (nodeCount db g.id) (childrenCount db g.id)
      s.1 s.2)) := by
  unfold getGroup
  rw [Table.get?_eq_some_iff.mpr ⟨hg, rfl⟩]
  dsimp only
  rw [hs]
  rfl

/-- Passing its own settings changes nothing in the answer. -/
theorem effective_own (g : DeviceGroup) (nodes children : Nat) :
    (DeviceGroupResponse.fromGroup g nodes children (ownSettings g).1 (ownSettings g).2).effective
      = ownSettings g := by
  have hworkflow : (truthyId g.defaultWorkflowId).or g.defaultWorkflowId
      = g.defaultWorkflowId := by
    unfold truthyId
    split
    next w hw =>
      rw [hw]
      split <;> rfl
    next hw => rw [hw, Option.or_none]
  have hauto : g.autoProvision.getD (g.autoProvision.getD false) = g.autoProvision.getD false := by
    cases g.autoProvision <;> rfl
  exact Prod.ext hworkflow hauto

/-- Of a group that is in the table and shows its own settings nothing else is shown. -/
theorem shows_own (hg : g ∈ db.groups.rows)
    (hcomputes : Computes computeEffectiveSettings db g (ownSettings g)) :
    Shows db g (ownSettings g) where
  list := by
    intro rootOnly parentId r hr hid
    obtain ⟨h, hh, hrid, heffective⟩ := mem_listGroups hr
    obtain rfl : h = g := db.groups.eq_of_key_eq hh hg (hrid.symm.trans hid)
    exact heffective
  get := by
    obtain ⟨n, hn⟩ := hcomputes
    exact ⟨n, fun fuel hfuel => ⟨_, getGroup_effective hg (hn fuel hfuel), effective_own g _ _⟩⟩
  update := by
    intro db₀ data r hanswer
    obtain ⟨h, hh, hid, heffective⟩ := updateGroupResponse_ok hanswer
    obtain rfl : h = g := db.groups.eq_of_key_eq hh hg hid
    exact heffective

theorem Computes.unique {compute : Nat → DB → DeviceGroup → Option (Option String × Bool)}
    {s s' : Option String × Bool} (h : Computes compute db g s) (h' : Computes compute db g s') :
    s = s' := by
  obtain ⟨n, hn⟩ := h
  obtain ⟨n', hn'⟩ := h'
  exact Option.some.inj ((hn (max n n') (le_max_left _ _)).symm.trans
    (hn' (max n n') (le_max_right _ _)))

/-- **THE ANSWERS AGREE EXACTLY FOR A GROUP THAT INHERITS NOTHING.** -/
theorem settings_shown_iff (hacyclic : ∀ id, ¬ Below db id id) (hg : g ∈ db.groups.rows) :
    ∃ ancestors, Climb (above db) g (g :: ancestors) ∧
      ((∃ s, Computes computeEffectiveSettings db g s ∧ Shows db g s)
        ↔ InheritsNothing g ancestors) := by
  obtain ⟨path, hpath, -⟩ := exists_path hacyclic hg
  obtain ⟨ancestors, rfl⟩ : ∃ ancestors, path = g :: ancestors := ⟨_, climb_head hpath⟩
  have hcomputes := computes_settings hpath
  refine ⟨ancestors, hpath, ?_⟩
  rw [← ownSettings_eq_iff]
  constructor
  · rintro ⟨s, hs, hshows⟩
    -- the unfiltered list shows the group with its own settings
    obtain ⟨r, hr, hid, heffective⟩ := mem_listGroups_of_mem hg
    rw [← heffective, hshows.list _ _ r hr hid]
    exact hs.unique hcomputes
  · intro heq
    rw [← heq] at hcomputes
    exact ⟨ownSettings g, hcomputes, shows_own hg hcomputes⟩

/-- A child without settings. -/
def inheritingChild : DeviceGroup where
  id := "cc"
  name := ['c']
  path := ['/', 'p', '/', 'c']
  depth := 1
  parentId := some "p"

/-- Its parent has a workflow. -/
def inheritedParent : DeviceGroup where
  id := "p"
  name := ['p']
  path := ['/', 'p']
  defaultWorkflowId := some "w"

def inheritingDB : DB where
  groups := ⟨[inheritedParent, inheritingChild], by decide⟩
  nodes := Table.empty

theorem inheriting_acyclic (id : String) : ¬ Below inheritingDB id id :=
  not_below_of_rank String.length (by decide) id

theorem settings_shown_iff_inheriting :
    ∃ ancestors, Climb (above inheritingDB) inheritingChild (inheritingChild :: ancestors) ∧
      ((∃ s, Computes computeEffectiveSettings inheritingDB inheritingChild s
          ∧ Shows inheritingDB inheritingChild s)
        ↔ InheritsNothing inheritingChild ancestors) :=
  settings_shown_iff inheriting_acyclic (by decide)

/-- `compute_effective_settings` finds the parent's workflow, `list_groups` shows none. -/
theorem settings_differ_inheriting :
    (∀ id, ¬ Below inheritingDB id id) ∧ inheritingChild ∈ inheritingDB.groups.rows
      ∧ Computes computeEffectiveSettings inheritingDB inheritingChild (some "w", false)
      ∧ (∃ r ∈ (listGroups inheritingDB false none).1, r.id = inheritingChild.id
          ∧ r.effective = (none, false))
      ∧ ¬ ∃ s, Computes computeEffectiveSettings inheritingDB inheritingChild s
          ∧ Shows inheritingDB inheritingChild s := by
  have hclimb : Climb (above inheritingDB) inheritingChild
      [inheritingChild, inheritedParent] := .up (by decide) (.top (by decide))
  have hcomputes := computes_settings hclimb
  have hmem : inheritingChild ∈ inheritingDB.groups.rows := by decide
  refine ⟨inheriting_acyclic, hmem, hcomputes, mem_listGroups_of_mem hmem, ?_⟩
  rintro ⟨s, hs, hshows⟩
  obtain ⟨r, hr, hid, heffective⟩ := mem_listGroups_of_mem hmem
  have heq : ownSettings inheritingChild = s := heffective.symm.trans (hshows.list _ _ r hr hid)
  exact absurd (heq.trans (hs.unique hcomputes)) (by decide)

end PureBoot.Groups
