/-
  PureBoot.Accounts.LdapGroups — the groups of a user that come FROM LDAP.

  Embeds `LdapService.sync_user_groups` of `services/ldap.py`, on the tables of the user groups
  and of their members, whose keys are in their types.  The ids to add are a set difference,
  which is iterated over in an order of the interpreter's; what is added and deleted is written
  when the session is flushed, the new rows first.

  Main results:
    * `GroupTables.syncUserGroups_rows` — what a sync does to the memberships;
    * `syncUserGroups_members` — it is the one that the login makes;
    * `ldap_groups_synced` — a sync leaves the user in the mapped groups of the list, and a
      second one changes nothing.
-/
import PureBoot.Accounts.Login
import PureBoot.Lib.SetIter

namespace PureBoot.Accounts

open PureBoot.Lib

/-! ## §1. The operation. -/

/-- A row of `user_group_members`. -/
structure Membership extends UserGroupMember where
  createdAt : Int
  deriving DecidableEq, Repr

def Membership.key (m : Membership) : String × String := (m.userId, m.userGroupId)

structure GroupTables where
  userGroups : Table UserGroup.id
  members : Table Membership.key

/-- An order in which sets of ids are iterated over. -/
structure IdOrder where
  list : Finset String → List String
  lists : ∀ ids, Lists (list ids) ids

/-- `mapped_groups`. -/
def GroupTables.mappedGroups (s : GroupTables) : List UserGroup :=
  s.userGroups.rows.filter (fun g => g.ldapGroupDn.isSome)

/-- `target_group_ids`. -/
def targetGroupIds (ldapGroups : List String) (mappedGroups : List UserGroup) : Finset String :=
  mappedGroups.foldl (fun target group =>
    if group.ldapGroupDn.any ldapGroups.contains then insert group.id target else target) ∅

/-- `current_memberships`. -/
def GroupTables.currentMemberships (s : GroupTables) (user : User) : List Membership :=
  s.members.rows.filter (fun m => m.userId = user.id)

/-- `target_group_ids - current_group_ids`. -/
def GroupTables.missingIds (s : GroupTables) (user : User) (ldapGroups : List String) :
    Finset String :=
  targetGroupIds ldapGroups s.mappedGroups
    \ ((s.currentMemberships user).map (fun m => m.userGroupId)).toFinset

/-- What the first loop adds. -/
def GroupTables.added (now : Int) (order : IdOrder) (s : GroupTables) (user : User)
    (ldapGroups : List String) : List Membership :=
  (order.list (s.missingIds user ldapGroups)).map
    (fun groupId => { userId := user.id, userGroupId := groupId, createdAt := now })

/-- What the second loop deletes. -/
def GroupTables.stale (s : GroupTables) (user : User) (ldapGroups : List String) :
    List Membership :=
  let ldapMappedIds := (s.mappedGroups.map UserGroup.id).toFinset
  (s.currentMemberships user).filter
    (fun m => m.userGroupId ∈ ldapMappedIds
      ∧ m.userGroupId ∉ targetGroupIds ldapGroups s.mappedGroups)

/-- `sync_user_groups`, with the flush of what it added and deleted. -/
def GroupTables.syncUserGroups (now : Int) (order : IdOrder) (s : GroupTables) (user : User)
    (ldapGroups : List String) : Except Exn GroupTables :=
  match s.members.insertAll? (s.added now order user ldapGroups) with
  | none => .error .integrityError
  | some members =>
      .ok { s with members := members.deleteAll ((s.stale user ldapGroups).map Membership.key) }

/-! ## §2. What is asked of it. -/

/-- A membership that LDAP does not decide: of another user, or in a group that is not mapped. -/
def GroupTables.outside (s : GroupTables) (user : User) (m : Membership) : Bool :=
  m.userId ≠ user.id || !s.mappedGroups.any (fun g => g.id = m.userGroupId)

/-- **THE MEMBERSHIPS ARE SYNCED**: the user is a member, once, of the mapped groups whose DN is
in the list and of no other mapped group, and nothing else is changed. -/
structure Synced (s s' : GroupTables) (user : User) (ldapGroups : List String) : Prop where
  userGroups : s'.userGroups = s.userGroups
  mapped : ∀ g ∈ s.userGroups.rows, ∀ dn, g.ldapGroupDn = some dn →
    s'.members.rows.countP (fun m => m.userId = user.id ∧ m.userGroupId = g.id)
      = if dn ∈ ldapGroups then 1 else 0
  outside : s'.members.rows.filter (s.outside user) = s.members.rows.filter (s.outside user)

/-! ## §3. The sets. -/

section
variable {s : GroupTables} {user : User} {ldapGroups : List String} {id : String}

theorem mem_targetGroupIds {mappedGroups : List UserGroup} :
    id ∈ targetGroupIds ldapGroups mappedGroups
      ↔ ∃ g ∈ mappedGroups, g.ldapGroupDn.any ldapGroups.contains = true ∧ g.id = id := by
  have hloop : ∀ (groups : List UserGroup) (target : Finset String),
      id ∈ groups.foldl (fun target group =>
        if group.ldapGroupDn.any ldapGroups.contains then insert group.id target else target) target
        ↔ id ∈ target ∨ ∃ g ∈ groups, g.ldapGroupDn.any ldapGroups.contains = true ∧ g.id = id := by
    intro groups
    induction groups with
    | nil => simp
    | cons g groups ih =>
        intro target
        rw [List.foldl_cons, ih]
        split
        next hg =>
          rw [Finset.mem_insert, List.exists_mem_cons_iff, and_iff_right hg, @eq_comm _ id g.id,
            or_assoc, or_left_comm]
        next hg =>
          rw [List.exists_mem_cons_iff]
          exact or_congr_right (or_iff_right (fun h => hg h.1)).symm
  unfold targetGroupIds
  rw [hloop]
  simp

/-- A mapped group is a target exactly if its DN is in the list. -/
theorem GroupTables.mem_target_iff {g : UserGroup} {dn : String} (hg : g ∈ s.userGroups.rows)
    (hdn : g.ldapGroupDn = some dn) :
    g.id ∈ targetGroupIds ldapGroups s.mappedGroups ↔ dn ∈ ldapGroups := by
  rw [mem_targetGroupIds]
  constructor
  · rintro ⟨g', hmapped, hlisted, hid⟩
    obtain rfl : g' = g := s.userGroups.eq_of_key_eq (List.mem_filter.mp hmapped).1 hg hid
    rw [hdn] at hlisted
    exact List.contains_iff_mem.mp hlisted
  · intro hlisted
    refine ⟨g, List.mem_filter.mpr ⟨hg, by rw [hdn]; rfl⟩, ?_, rfl⟩
    rw [hdn]
    exact List.contains_iff_mem.mpr hlisted

theorem GroupTables.mem_missingIds :
    id ∈ s.missingIds user ldapGroups
      ↔ id ∈ targetGroupIds ldapGroups s.mappedGroups
        ∧ ¬ ∃ m ∈ s.members.rows, m.key = (user.id, id) := by
  unfold GroupTables.missingIds
  rw [Finset.mem_sdiff, List.mem_toFinset, List.mem_map]
  refine and_congr_right (fun _ => not_congr (exists_congr (fun m => ?_)))
  unfold GroupTables.currentMemberships Membership.key
  rw [List.mem_filter, decide_eq_true_eq, and_assoc, Prod.mk_inj]

/-- The row is not deleted. -/
def GroupTables.stays (s : GroupTables) (user : User) (ldapGroups : List String)
    (m : Membership) : Bool :=
  !((s.stale user ldapGroups).map Membership.key).any (fun key => m.key = key)

theorem GroupTables.stays_eq_false_iff {m : Membership} :
    s.stays user ldapGroups m = false
      ↔ (∃ m' ∈ s.members.rows, m'.key = m.key) ∧ m.userId = user.id
        ∧ m.userGroupId ∈ (s.mappedGroups.map UserGroup.id).toFinset
        ∧ m.userGroupId ∉ targetGroupIds ldapGroups s.mappedGroups := by
  unfold GroupTables.stays GroupTables.stale GroupTables.currentMemberships
  rw [Bool.not_eq_false', List.any_eq_true]
  constructor
  · rintro ⟨key, hkey, hm⟩
    obtain ⟨m', hm', rfl⟩ := List.mem_map.mp hkey
    obtain ⟨hcurrent, hscan⟩ := List.mem_filter.mp hm'
    obtain ⟨hrow, huser⟩ := List.mem_filter.mp hcurrent
    have heq : m.key = m'.key := of_decide_eq_true hm
    obtain ⟨huserId, hgroupId⟩ := Prod.mk_inj.mp heq
    rw [huserId, hgroupId]
    exact ⟨⟨m', hrow, heq.symm⟩, of_decide_eq_true huser, of_decide_eq_true hscan⟩
  · rintro ⟨⟨m', hrow, heq⟩, huser, hscan⟩
    obtain ⟨huserId, hgroupId⟩ := Prod.mk_inj.mp heq
    rw [← huserId] at huser
    rw [← hgroupId] at hscan
    refine ⟨m'.key, List.mem_map.mpr ⟨m', List.mem_filter.mpr
      ⟨List.mem_filter.mpr ⟨hrow, decide_eq_true huser⟩, decide_eq_true hscan⟩, rfl⟩, ?_⟩
    exact decide_eq_true heq.symm

end

/-! ## §4. What a sync does. -/

section
variable (now : Int) (order : IdOrder) (s : GroupTables) (user : User) (ldapGroups : List String)

theorem GroupTables.mem_added {m : Membership} (h : m ∈ s.added now order user ldapGroups) :
    m.userId = user.id ∧ m.userGroupId ∈ s.missingIds user ldapGroups := by
  obtain ⟨groupId, hmem, rfl⟩ := List.mem_map.mp h
  have hlists := (order.lists (s.missingIds user ldapGroups)).2
  refine ⟨rfl, ?_⟩
  rw [← hlists, List.mem_toFinset]
  exact hmem

/-- No membership is added twice, or is there. -/
theorem GroupTables.nodup_added :
    (s.members.rows.map Membership.key
      ++ (s.added now order user ldapGroups).map Membership.key).Nodup := by
  rw [List.nodup_append]
  refine ⟨s.members.nodup, ?_, ?_⟩
  · unfold GroupTables.added
    rw [List.map_map]
    refine (List.nodup_map_iff ?_).mpr (order.lists _).1
    intro id id' heq
    exact (Prod.mk_inj.mp heq).2
  · -- a missing id is one of which there is no row
    rintro key hold key' hnew rfl
    obtain ⟨m, hm, hkey⟩ := List.mem_map.mp hold
    obtain ⟨m', hm', rfl⟩ := List.mem_map.mp hnew
    obtain ⟨huser, hmissing⟩ := s.mem_added now order user ldapGroups hm'
    refine (GroupTables.mem_missingIds.mp hmissing).2 ⟨m, hm, ?_⟩
    rw [hkey, ← huser]
    rfl

/-- **WHAT A SYNC DOES**: the stale rows are deleted, the missing ones added. -/
theorem GroupTables.syncUserGroups_rows :
    ∃ s', s.syncUserGroups now order user ldapGroups = .ok s' ∧ s'.userGroups = s.userGroups
      ∧ s'.members.rows
        = s.members.rows.filter (s.stays user ldapGroups) ++ s.added now order user ldapGroups := by
  obtain ⟨members, hinsert, hrows⟩ :=
    Table.insertAll?_of_nodup (s.nodup_added now order user ldapGroups)
  refine ⟨{ s with members := members.deleteAll ((s.stale user ldapGroups).map Membership.key) },
    ?_, rfl, ?_⟩
  · unfold GroupTables.syncUserGroups
    rw [hinsert]
  · dsimp only
    rw [Table.rows_deleteAll, hrows, List.filter_append]
    congr 1
    refine List.filter_eq_self.mpr (fun m hm => ?_)
    -- what is added is a target
    have hstays : s.stays user ldapGroups m ≠ false := by
      intro hstale
      obtain ⟨-, -, -, hno⟩ := GroupTables.stays_eq_false_iff.mp hstale
      obtain ⟨-, hmissing⟩ := s.mem_added now order user ldapGroups hm
      exact hno (GroupTables.mem_missingIds.mp hmissing).1
    exact Bool.eq_true_of_not_eq_false hstays

end

section
variable {s s' : GroupTables} {user : User} {ldapGroups : List String} {now : Int}
  {order : IdOrder}

theorem GroupTables.rows_of_sync
    (h : s.syncUserGroups now order user ldapGroups = .ok s') :
    s'.userGroups = s.userGroups
      ∧ s'.members.rows
        = s.members.rows.filter (s.stays user ldapGroups) ++ s.added now order user ldapGroups := by
  obtain ⟨s'', hsync, hsynced⟩ := s.syncUserGroups_rows now order user ldapGroups
  obtain rfl : s' = s'' := Except.ok.inj (h.symm.trans hsync)
  exact hsynced

/-- The mapped groups of which the user is a member then. -/
theorem GroupTables.mem_of_sync (h : s.syncUserGroups now order user ldapGroups = .ok s')
    {id : String} (hmapped : id ∈ (s.mappedGroups.map UserGroup.id).toFinset) :
    (∃ m ∈ s'.members.rows, m.key = (user.id, id))
      ↔ id ∈ targetGroupIds ldapGroups s.mappedGroups := by
  rw [(GroupTables.rows_of_sync h).2]
  constructor
  · rintro ⟨m, hm, hkey⟩
    rcases List.mem_append.mp hm with hm | hm
    · -- it was there, and is not stale
      obtain ⟨hrow, hstays⟩ := List.mem_filter.mp hm
      obtain ⟨huser, rfl⟩ := Prod.mk_inj.mp hkey
      by_contra hno
      rw [GroupTables.stays_eq_false_iff.mpr ⟨⟨m, hrow, rfl⟩, huser, hmapped, hno⟩] at hstays
      cases hstays
    · obtain ⟨-, hmissing⟩ := s.mem_added now order user ldapGroups hm
      obtain ⟨-, rfl⟩ := Prod.mk_inj.mp hkey
      exact (GroupTables.mem_missingIds.mp hmissing).1
  · intro htarget
    by_cases hthere : ∃ m ∈ s.members.rows, m.key = (user.id, id)
    · -- a target is not stale
      obtain ⟨m, hrow, hkey⟩ := hthere
      obtain ⟨-, rfl⟩ := Prod.mk_inj.mp hkey
      refine ⟨m, List.mem_append_left _ (List.mem_filter.mpr ⟨hrow, ?_⟩), hkey⟩
      by_contra hstale
      obtain ⟨-, -, -, hno⟩ :=
        GroupTables.stays_eq_false_iff.mp (Bool.eq_false_of_not_eq_true hstale)
      exact hno htarget
    · -- it is one of those that are added
      have hmissing : id ∈ s.missingIds user ldapGroups :=
        GroupTables.mem_missingIds.mpr ⟨htarget, hthere⟩
      rw [← (order.lists (s.missingIds user ldapGroups)).2, List.mem_toFinset] at hmissing
      exact ⟨_, List.mem_append_right _ (List.mem_map.mpr ⟨id, hmissing, rfl⟩), rfl⟩

/-- A key is in the table once, if it is there. -/
theorem countP_member (members : Table Membership.key) (userId groupId : String) :
    members.rows.countP (fun m => m.userId = userId ∧ m.userGroupId = groupId)
      = if ∃ m ∈ members.rows, m.key = (userId, groupId) then 1 else 0 := by
  have hkey : members.rows.filter (fun m => m.userId = userId ∧ m.userGroupId = groupId)
      = (members.get? (userId, groupId)).toList := by
    rw [← Table.filter_key_eq]
    refine List.filter_congr (fun m _ => decide_eq_decide.mpr ?_)
    exact Prod.mk_inj.symm
  rw [List.countP_eq_length_filter, hkey]
  split
  next hthere =>
    obtain ⟨m, hm, hkey⟩ := hthere
    rw [Table.get?_eq_some_iff.mpr ⟨hm, hkey⟩]
    rfl
  next hnone =>
    cases hget : members.get? (userId, groupId) with
    | none => rfl
    | some m => exact absurd ⟨m, Table.get?_eq_some_iff.mp hget⟩ hnone

theorem GroupTables.mem_mappedIds {g : UserGroup} {dn : String} (hg : g ∈ s.userGroups.rows)
    (hdn : g.ldapGroupDn = some dn) : g.id ∈ (s.mappedGroups.map UserGroup.id).toFinset := by
  rw [List.mem_toFinset]
  exact List.mem_map.mpr ⟨g, List.mem_filter.mpr ⟨hg, by rw [hdn]; rfl⟩, rfl⟩

/-- A membership outside is neither stale nor added. -/
theorem GroupTables.outside_iff {m : Membership} :
    s.outside user m = true
      ↔ ¬ (m.userId = user.id ∧ m.userGroupId ∈ (s.mappedGroups.map UserGroup.id).toFinset) := by
  unfold GroupTables.outside
  rw [List.mem_toFinset, List.mem_map, not_and_or, Bool.or_eq_true, decide_eq_true_eq,
    Bool.not_eq_true', ← Bool.not_eq_true, List.any_eq_true]
  simp only [decide_eq_true_eq]

theorem targetGroupIds_subset :
    targetGroupIds ldapGroups s.mappedGroups ⊆ (s.mappedGroups.map UserGroup.id).toFinset := by
  intro id hid
  obtain ⟨g, hg, -, rfl⟩ := mem_targetGroupIds.mp hid
  exact List.mem_toFinset.mpr (List.mem_map.mpr ⟨g, hg, rfl⟩)

/-- **A SYNC** leaves the memberships synced. -/
theorem GroupTables.synced_of_sync (h : s.syncUserGroups now order user ldapGroups = .ok s') :
    Synced s s' user ldapGroups where
  userGroups := (GroupTables.rows_of_sync h).1
  mapped := by
    intro g hg dn hdn
    rw [countP_member]
    refine if_congr ?_ rfl rfl
    exact (GroupTables.mem_of_sync h (GroupTables.mem_mappedIds hg hdn)).trans
      (GroupTables.mem_target_iff hg hdn)
  outside := by
    rw [(GroupTables.rows_of_sync h).2, List.filter_append, List.filter_filter]
    have hnone : (s.added now order user ldapGroups).filter (s.outside user) = [] := by
      rw [List.filter_eq_nil_iff]
      intro m hm hout
      obtain ⟨huser, hmissing⟩ := s.mem_added now order user ldapGroups hm
      exact GroupTables.outside_iff.mp hout
        ⟨huser, targetGroupIds_subset (GroupTables.mem_missingIds.mp hmissing).1⟩
    rw [hnone, List.append_nil]
    refine List.filter_congr (fun m _ => ?_)
    rw [Bool.and_eq_left_iff_imp]
    intro hout
    by_contra hstale
    obtain ⟨-, huser, hmapped, -⟩ :=
      GroupTables.stays_eq_false_iff.mp (Bool.eq_false_of_not_eq_true hstale)
    exact GroupTables.outside_iff.mp hout ⟨huser, hmapped⟩

/-- **A SECOND SYNC** changes nothing. -/
theorem GroupTables.sync_again (h : s.syncUserGroups now order user ldapGroups = .ok s')
    (now' : Int) (order' : IdOrder) :
    s'.syncUserGroups now' order' user ldapGroups = .ok s' := by
  have hgroups : s'.mappedGroups = s.mappedGroups := by
    unfold GroupTables.mappedGroups
    rw [(GroupTables.rows_of_sync h).1]
  -- the targets are the mapped groups of the user, so there is nothing to add or delete
  have hmissing : s'.missingIds user ldapGroups = ∅ := by
    refine Finset.eq_empty_of_forall_notMem (fun id hid => ?_)
    obtain ⟨htarget, hnone⟩ := GroupTables.mem_missingIds.mp hid
    rw [hgroups] at htarget
    exact hnone ((GroupTables.mem_of_sync h (targetGroupIds_subset htarget)).mpr htarget)
  have hadded : s'.added now' order' user ldapGroups = [] := by
    have hlist : order'.list ∅ = [] := List.toFinset_eq_empty_iff _ |>.mp (order'.lists ∅).2
    unfold GroupTables.added
    rw [hmissing, hlist]
    rfl
  have hstays : s'.members.rows.filter (s'.stays user ldapGroups) = s'.members.rows := by
    refine List.filter_eq_self.mpr (fun m hm => ?_)
    by_contra hstale
    obtain ⟨-, huser, hmapped, hno⟩ :=
      GroupTables.stays_eq_false_iff.mp (Bool.eq_false_of_not_eq_true hstale)
    rw [hgroups] at hmapped hno
    refine hno ((GroupTables.mem_of_sync h hmapped).mp ⟨m, hm, ?_⟩)
    rw [← huser]
    rfl
  obtain ⟨s'', hsync, hgroups', hrows⟩ := s'.syncUserGroups_rows now' order' user ldapGroups
  rw [hadded, hstays, List.append_nil] at hrows
  rw [hsync]
  congr 1
  cases s''
  cases s'
  cases hgroups'
  exact congrArg _ (Table.ext hrows)

/-- The ids that the login adds are the missing ones. -/
theorem GroupTables.missing_perm (order : IdOrder) (s : GroupTables) (user : User)
    (ldapGroups : List String) :
    (((s.mappedGroups.filter (fun g => g.ldapGroupDn.any ldapGroups.contains)).filter
        (fun g => !s.members.rows.any (fun m => m.userId = user.id && m.userGroupId = g.id))).map
      UserGroup.id).Perm (order.list (s.missingIds user ldapGroups)) := by
  have hsublist : (((s.mappedGroups.filter (fun g => g.ldapGroupDn.any ldapGroups.contains)).filter
      (fun g => !s.members.rows.any (fun m => m.userId = user.id && m.userGroupId = g.id))).map
      UserGroup.id).Sublist (s.userGroups.rows.map UserGroup.id) :=
    ((List.filter_sublist.trans List.filter_sublist).trans List.filter_sublist).map _
  refine (List.perm_ext_iff_of_nodup (s.userGroups.nodup.sublist hsublist)
    (order.lists _).1).mpr (fun id => ?_)
  rw [← List.mem_toFinset (l := order.list _), (order.lists _).2, GroupTables.mem_missingIds,
    mem_targetGroupIds, List.mem_map]
  constructor
  · rintro ⟨g, hg, rfl⟩
    obtain ⟨htarget, hnew⟩ := List.mem_filter.mp hg
    obtain ⟨hmapped, hlisted⟩ := List.mem_filter.mp htarget
    refine ⟨⟨g, hmapped, hlisted, rfl⟩, ?_⟩
    rintro ⟨m, hm, hkey⟩
    obtain ⟨huser, hgroup⟩ := Prod.mk_inj.mp hkey
    rw [List.any_eq_true.mpr ⟨m, hm, by simp [huser, hgroup]⟩] at hnew
    cases hnew
  · rintro ⟨⟨g, hmapped, hlisted, rfl⟩, hnone⟩
    refine ⟨g, List.mem_filter.mpr ⟨List.mem_filter.mpr ⟨hmapped, hlisted⟩, ?_⟩, rfl⟩
    rw [Bool.not_eq_true', ← Bool.not_eq_true, List.any_eq_true]
    rintro ⟨m, hm, hkey⟩
    rw [Bool.and_eq_true, decide_eq_true_eq, decide_eq_true_eq] at hkey
    exact hnone ⟨m, hm, Prod.mk_inj.mpr hkey⟩

/-- The memberships that the login deletes are the stale ones. -/
theorem GroupTables.stays_eq {m : Membership} (hm : m ∈ s.members.rows) :
    s.stays user ldapGroups m
      = !(m.userId = user.id && s.mappedGroups.any (fun g => g.id = m.userGroupId)
        && (s.mappedGroups.filter (fun g => g.ldapGroupDn.any ldapGroups.contains)).all
          (fun g => g.id ≠ m.userGroupId)) := by
  rw [eq_comm, Bool.not_eq_eq_eq_not, Bool.eq_iff_iff, Bool.not_eq_true',
    GroupTables.stays_eq_false_iff, and_iff_right ⟨m, hm, rfl⟩]
  simp only [Bool.and_eq_true, decide_eq_true_eq, List.any_eq_true, List.all_eq_true, and_assoc]
  refine and_congr_right (fun _ => and_congr ?_ ?_)
  · rw [List.mem_toFinset, List.mem_map]
  · rw [mem_targetGroupIds]
    constructor
    · rintro hall ⟨g, hmapped, hlisted, hid⟩
      exact hall g (List.mem_filter.mpr ⟨hmapped, hlisted⟩) hid
    · intro hno g hg hid
      obtain ⟨hmapped, hlisted⟩ := List.mem_filter.mp hg
      exact hno ⟨g, hmapped, hlisted, hid⟩

/-- **THE SYNC OF A LOGIN** is this one, without the times and up to the order of what is
added. -/
theorem syncUserGroups_members {db : DB} (hgroups : db.userGroups = s.userGroups.rows)
    (hmembers : db.members = s.members.rows.map Membership.toUserGroupMember)
    (h : s.syncUserGroups now order user ldapGroups = .ok s') :
    (syncUserGroups db user ldapGroups).members.Perm
      (s'.members.rows.map Membership.toUserGroupMember) := by
  rw [(GroupTables.rows_of_sync h).2, List.map_append]
  unfold syncUserGroups
  rw [hgroups, hmembers]
  refine List.Perm.append (List.Perm.of_eq ?_) ?_
  · rw [List.filter_map]
    congr 1
    exact List.filter_congr (fun m hm => (GroupTables.stays_eq hm).symm)
  · have hadded : (s.added now order user ldapGroups).map Membership.toUserGroupMember
        = (order.list (s.missingIds user ldapGroups)).map (fun id => ⟨user.id, id⟩) := by
      unfold GroupTables.added
      rw [List.map_map]
      rfl
    rw [hadded]
    refine List.Perm.trans (List.Perm.of_eq ?_)
      ((GroupTables.missing_perm order s user ldapGroups).map _)
    rw [List.map_map]
    congr 1
    refine List.filter_congr (fun g _ => ?_)
    rw [List.all_filter, List.all_map, List.not_any_eq_all_not]
    congr 1
    funext m
    simp

end

/-! ## §5. A sync of any tables. -/

/-- **LDAP GROUPS ARE SYNCED**: for all groups, memberships and lists of DNs, the user is a
member, once, of a mapped group exactly if its DN is in the list, all else is unchanged, and a
second sync with the list changes nothing, whatever its time and order. -/
theorem ldap_groups_synced (now : Int) (order : IdOrder) (s : GroupTables) (user : User)
    (ldapGroups : List String) :
    ∃ s', s.syncUserGroups now order user ldapGroups = .ok s' ∧ Synced s s' user ldapGroups
      ∧ ∀ now' order', s'.syncUserGroups now' order' user ldapGroups = .ok s' := by
  obtain ⟨s', hsync, -⟩ := s.syncUserGroups_rows now order user ldapGroups
  exact ⟨s', hsync, GroupTables.synced_of_sync hsync, GroupTables.sync_again hsync⟩

end PureBoot.Accounts
