/-
  PureBoot.Accounts.Permissions — do PERMISSIONS FOLLOW THE ROLE?

  `require_permission` admits an account by the row that `role_id` refers to; the role an
  account is shown with, and given by `users.py`, is a name.  The two say the same of an
  account as long as the row it refers to and the row of that name grant the same; no
  handler but those of the service accounts writes both.

  For each request there is a condition on what it finds and on what it is given under
  which the two stay in step (`keepsInStep`), and it is exact: a request that is carried
  out without it puts some account out of step at once.

  Main results:
    * `follows_iff` — what the check comes to, account by account;
    * `inStep_request`, `inStep_seed` — one request, the seeding;
    * `permissions_follow_iff` — the runs in which permissions follow the role.
-/
import PureBoot.Accounts.Roles

namespace PureBoot.Accounts

open PureBoot.Lib PureBoot.Web

/-! ## §1. Two ways to the permissions. -/

/-- `require_permission` admits the user. -/
def Admits (s : Directory) (user : User) (resource action : String) : Prop :=
  ∃ u, requirePermission s resource action (some user.id) = .ok u

/-- **PERMISSIONS FOLLOW THE ROLE.** -/
def Follows (s : Directory) : Prop :=
  ∀ user ∈ s.db.users.rows, user.isActive = true → ∀ resource action,
    Admits s user resource action ↔ user.role = "admin" ∨
      ∃ role ∈ s.roles.rows, role.name = user.role ∧ s.allows role.id resource action = true

/-- The id and the name of a role grant the same, or the name is that of the admins. -/
def Agree (s : Directory) (role : String) (roleId : Option String) : Prop :=
  role = "admin" ∨ ∀ resource action,
    s.grants roleId resource action = s.named role resource action

/-- Every active account has an id and a name that agree. -/
def InStep (s : Directory) : Prop :=
  ∀ user ∈ s.db.users.rows, user.isActive = true → Agree s user.role (s.roleIdOf user)

/-- What the tables are otherwise. -/
structure DirectoryOk (s : Directory) : Prop where
  ids : ∀ user ∈ s.db.users.rows, user.id ≠ ""
  names : ∀ r ∈ s.roles.rows, ∀ r' ∈ s.roles.rows, r.name = r'.name → r = r'

section Tables

variable {s s' : Directory}

theorem named_iff {name resource action : String} : s.named name resource action = true ↔
    ∃ role ∈ s.roles.rows, role.name = name ∧ s.allows role.id resource action = true := by
  simp [Directory.named]

theorem allows_iff {roleId resource action : String} : s.allows roleId resource action = true ↔
    ∃ p ∈ s.permissions.rows, p.resource = resource ∧ p.action = action ∧
      (⟨roleId, p.id⟩ : RolePermission) ∈ s.rolePermissions := by
  simp [Directory.allows, and_assoc]

/-- What an id grants, if its role is there. -/
theorem grants_some (s : Directory) (roleId resource action : String) :
    s.grants (some roleId) resource action
      = (decide (∃ role ∈ s.roles.rows, role.id = roleId) && s.allows roleId resource action) := by
  unfold Directory.grants
  rw [Option.bind_some]
  cases hget : s.roles.get? roleId with
  | none =>
      have hnone : ¬ ∃ role ∈ s.roles.rows, role.id = roleId := by
        rintro ⟨role, hrole, hid⟩
        rw [Table.get?_eq_some_iff.mpr ⟨hrole, hid⟩] at hget
        cases hget
      rw [decide_eq_false hnone]
      rfl
  | some role =>
      obtain ⟨hrole, hid⟩ := Table.get?_eq_some_iff.mp hget
      have hsome : ∃ role ∈ s.roles.rows, role.id = roleId := ⟨role, hrole, hid⟩
      rw [decide_eq_true hsome, Bool.true_and, ← hid]
      rfl

/-- A role grants by its name what it grants by its id. -/
theorem named_eq_allows (h : DirectoryOk s) {role : Role} (hrole : role ∈ s.roles.rows)
    (resource action : String) :
    s.named role.name resource action = s.allows role.id resource action := by
  rw [Bool.eq_iff_iff, named_iff]
  constructor
  · rintro ⟨r, hr, hname, hallows⟩
    rwa [h.names r hr role hrole hname] at hallows
  · intro hallows
    exact ⟨role, hrole, rfl, hallows⟩

/-- A name that no role has grants nothing. -/
theorem named_of_no_role {name : String} (h : ∀ role ∈ s.roles.rows, role.name ≠ name)
    (resource action : String) : s.named name resource action = false := by
  rw [← Bool.not_eq_true, named_iff]
  rintro ⟨role, hrole, hname, -⟩
  exact h role hrole hname

theorem roleNamed_eq_none {name : String} :
    s.roleNamed name = none ↔ ∀ role ∈ s.roles.rows, role.name ≠ name := by
  simp [Directory.roleNamed]

/-- The role of an id and its name agree. -/
theorem agree_of_role (h : DirectoryOk s) {role : Role} (hrole : role ∈ s.roles.rows) :
    Agree s role.name (some role.id) := by
  refine .inr (fun resource action => ?_)
  have hsome : ∃ r ∈ s.roles.rows, r.id = role.id := ⟨role, hrole, rfl⟩
  rw [grants_some, decide_eq_true hsome, Bool.true_and, named_eq_allows h hrole]

/-- What the check comes to for an active user. -/
theorem admits_iff (h : DirectoryOk s) {user : User} (huser : user ∈ s.db.users.rows)
    (hactive : user.isActive = true) (resource action : String) :
    Admits s user resource action ↔
      user.role = "admin" ∨ s.grants (s.roleIdOf user) resource action = true := by
  -- the token names an account that is there and active
  have hload : getCurrentUserFromState s.db (some user.id) = .ok user := by
    unfold getCurrentUserFromState
    split
    next heq => cases heq
    next heq => exact absurd (Option.some.inj heq) (h.ids user huser)
    next heq =>
      cases heq
      unfold loadUser
      rw [Table.get?_eq_some_iff.mpr ⟨huser, rfl⟩]
      simp [hactive]
  unfold Admits requirePermission
  rw [hload, ok_bind]
  unfold checkPermission
  by_cases hadmin : user.role = "admin"
  · rw [if_pos hadmin]
    exact iff_of_true ⟨user, rfl⟩ (.inl hadmin)
  · rw [if_neg hadmin]
    by_cases hgrants : s.grants (s.roleIdOf user) resource action = true
    · rw [if_pos hgrants]
      exact iff_of_true ⟨user, rfl⟩ (.inr hgrants)
    · rw [if_neg hgrants]
      refine iff_of_false ?_ (not_or.mpr ⟨hadmin, hgrants⟩)
      rintro ⟨u, hu⟩
      cases hu

/-- **PERMISSIONS FOLLOW THE ROLE, EXACTLY IF** id and name of every active account agree. -/
theorem follows_iff (h : DirectoryOk s) : Follows s ↔ InStep s := by
  refine forall₃_congr (fun user huser hactive => ?_)
  constructor
  · intro hfollows
    by_cases hadmin : user.role = "admin"
    · exact .inl hadmin
    · refine .inr (fun resource action => ?_)
      have hiff := hfollows resource action
      rw [admits_iff h huser hactive, ← named_iff] at hiff
      rw [Bool.eq_iff_iff]
      constructor
      · intro hgrants
        exact (hiff.mp (.inr hgrants)).resolve_left hadmin
      · intro hnamed
        exact (hiff.mpr (.inr hnamed)).resolve_left hadmin
  · intro hagree resource action
    rw [admits_iff h huser hactive, ← named_iff]
    rcases hagree with hadmin | hsame
    · exact iff_of_true (.inl hadmin) (.inl hadmin)
    · rw [hsame]

end Tables

/-! ## §2. What keeps them in step. -/

/-- The permissions with these ids have one for this action on this resource. -/
def Directory.offers (s : Directory) (permissionIds : List String) (resource action : String) :
    Bool :=
  s.permissions.rows.any (fun p => p.resource = resource && p.action = action
    && permissionIds.contains p.id)

/-- Every active account that is no admin. -/
def ForAccounts (s : Directory) (C : User → Prop) : Prop :=
  ∀ user ∈ s.db.users.rows, user.isActive = true → user.role ≠ "admin" → C user

/-- The accounts agree once the role `role` is called `newName`, or is gone, and allows so. -/
def AgreeWith (s : Directory) (role : Role) (newName : Option String)
    (allowed : String → String → Bool) : Prop :=
  ForAccounts s (fun user => ∀ resource action,
    (if s.roleIdOf user = some role.id then allowed resource action
      else s.grants (s.roleIdOf user) resource action)
    = (if some user.role = newName then allowed resource action
      else if user.role = role.name then false
      else s.named user.role resource action))

/-- What the links of a role allow once they are replaced, if new ones are given. -/
def Directory.allowsWith (s : Directory) (roleId : String) :
    Option (List String) → String → String → Bool
  | none => s.allows roleId
  | some permissionIds => s.offers permissionIds

/-- **WHAT KEEPS ID AND NAME IN STEP**, for a request that is carried out. -/
def keepsInStep (s : Directory) : DirectoryEvent → Prop
  | .request r =>
      match r.op with
      -- a new user has no `role_id`
      | .createUser _ data => Agree s data.role none
      | .updateUser userId data =>
          ∀ user ∈ s.db.users.rows, user.id = userId → data.isActive.getD user.isActive = true →
            Agree s (data.role.getD user.role) (s.roleIdOf user)
      | .createServiceAccount _ data =>
          data.roleId = none ∨ data.roleId = some "" → Agree s "viewer" data.roleId
      | .updateServiceAccount accountId data =>
          data.roleId = none → ∀ user ∈ s.db.users.rows, user.id = accountId →
            data.isActive.getD user.isActive = true → Agree s user.role (s.roleIdOf user)
      | .createRole _ data =>
          ForAccounts s (fun user => user.role = data.name → ∀ resource action,
            s.grants (s.roleIdOf user) resource action
              = s.offers data.permissionIds resource action)
      | .updateRole roleId data =>
          ∀ role ∈ s.roles.rows, role.id = roleId →
            AgreeWith s role (some (data.name.getD role.name))
              (s.allowsWith roleId data.permissionIds)
      | .deleteRole roleId =>
          ∀ role ∈ s.roles.rows, role.id = roleId → AgreeWith s role none (fun _ _ => false)
      | _ => True
  | .seed _ _ =>
      ∀ r ∈ seededRoles, s.roleNamed r.name = none →
        ForAccounts s (fun user => user.role = r.name → ∀ resource action,
          s.grants (s.roleIdOf user) resource action = decide ((resource, action) ∈ r.permissions))

/-- A refused request keeps everything. -/
def KeepsInStep (s : Directory) (e : DirectoryEvent) : Prop :=
  (∃ out, performEvent s e = .ok out) → keepsInStep s e

/-- Nothing in the tables has this id, or refers to it. -/
structure IsNewId (s : Directory) (id : String) : Prop where
  notEmpty : id ≠ ""
  users : ∀ user ∈ s.db.users.rows, s.roleIdOf user ≠ some id
  links : ∀ rp ∈ s.rolePermissions, rp.roleId ≠ id ∧ rp.permissionId ≠ id

/-- The ids that are drawn are new (`uuid4`). -/
def DrawsNew (s : Directory) : DirectoryEvent → Prop
  | .request r =>
      match r.op with
      | .createUser uuid _ => IsNewId s uuid
      | .createServiceAccount uuid _ => IsNewId s uuid
      | .createRole uuid _ => IsNewId s uuid
      | _ => True
  | .seed ids _ =>
      (∀ p ∈ seededPermissions, IsNewId s (ids.permission p)) ∧
        (∀ r ∈ seededRoles, IsNewId s (ids.role r.name)) ∧ IsNewId s ids.admin

/-! ## §3. Users and service accounts. -/

section Accounts

variable {s s' : Directory}

/-- The tables of roles are the same. -/
structure SameRoles (s s' : Directory) : Prop where
  roles : s'.roles = s.roles
  permissions : s'.permissions = s.permissions
  rolePermissions : s'.rolePermissions = s.rolePermissions

theorem SameRoles.allows (h : SameRoles s s') (roleId resource action : String) :
    s'.allows roleId resource action = s.allows roleId resource action := by
  unfold Directory.allows
  rw [h.permissions, h.rolePermissions]

theorem SameRoles.agree (h : SameRoles s s') {role : String} {roleId : Option String} :
    Agree s' role roleId ↔ Agree s role roleId := by
  have hgrants : ∀ resource action,
      s'.grants roleId resource action = s.grants roleId resource action := by
    intro resource action
    unfold Directory.grants
    rw [h.roles]
    simp only [h.allows]
  have hnamed : ∀ resource action,
      s'.named role resource action = s.named role resource action := by
    intro resource action
    unfold Directory.named
    rw [h.roles]
    simp only [h.allows]
  unfold Agree
  simp only [hgrants, hnamed]

theorem SameRoles.ok (h : SameRoles s s') (hok : DirectoryOk s)
    (hids : ∀ user ∈ s'.db.users.rows, user.id ≠ "") : DirectoryOk s' where
  ids := hids
  names := by
    rw [h.roles]
    exact hok.names

/-- What is shown of the state after an event. -/
def Settles (s' : Directory) (C : Prop) : Prop := DirectoryOk s' ∧ (InStep s' ↔ C)

theorem Settles.congr {C C' : Prop} (h : Settles s' C) (hiff : C ↔ C') : Settles s' C' :=
  ⟨h.1, h.2.trans hiff⟩

/-- An account is added. -/
theorem settles_added {user : User} (hsame : SameRoles s s') (hok : DirectoryOk s)
    (hin : InStep s) (hid : user.id ≠ "") (hrows : s'.db.users.rows = s.db.users.rows ++ [user])
    (hold : ∀ u ∈ s.db.users.rows, s'.roleIdOf u = s.roleIdOf u) :
    Settles s' (user.isActive = true → Agree s user.role (s'.roleIdOf user)) := by
  have hmem : ∀ u, u ∈ s'.db.users.rows ↔ u ∈ s.db.users.rows ∨ u = user := by
    intro u
    rw [hrows, List.mem_append, List.mem_singleton]
  refine ⟨hsame.ok hok (fun u hu => ?_), ?_⟩
  · rcases (hmem u).mp hu with hu | rfl
    · exact hok.ids u hu
    · exact hid
  constructor
  · intro h hactive
    exact hsame.agree.mp (h user ((hmem user).mpr (.inr rfl)) hactive)
  · intro h u hu hactive
    rw [hsame.agree]
    rcases (hmem u).mp hu with hu | rfl
    · rw [hold u hu]
      exact hin u hu hactive
    · exact h hactive

/-- An account is changed. -/
theorem settles_changed {user user' : User} (hsame : SameRoles s s') (hok : DirectoryOk s)
    (hin : InStep s) (huser : user ∈ s.db.users.rows) (hid : user'.id = user.id)
    (hrows : s'.db.users = s.db.users.put user')
    (hold : ∀ u ∈ s.db.users.rows, u.id ≠ user.id → s'.roleIdOf u = s.roleIdOf u) :
    Settles s' (user'.isActive = true → Agree s user'.role (s'.roleIdOf user')) := by
  have hmem : ∀ u, u ∈ s'.db.users.rows ↔ u = user' ∨ (u ∈ s.db.users.rows ∧ u.id ≠ user.id) := by
    intro u
    rw [hrows]
    have hput : u ∈ (s.db.save user').users.rows ↔ _ := mem_save huser hid
    exact hput
  refine ⟨hsame.ok hok (fun u hu => ?_), ?_⟩
  · rcases (hmem u).mp hu with rfl | ⟨hu, -⟩
    · rw [hid]
      exact hok.ids user huser
    · exact hok.ids u hu
  constructor
  · intro h hactive
    exact hsame.agree.mp (h user' ((hmem user').mpr (.inl rfl)) hactive)
  · intro h u hu hactive
    rw [hsame.agree]
    rcases (hmem u).mp hu with rfl | ⟨hu, hne⟩
    · exact h hactive
    · rw [hold u hu hne]
      exact hin u hu hactive

/-- Accounts go. -/
theorem inStep_removed (hsame : SameRoles s s') (hin : InStep s)
    (hrows : ∀ u ∈ s'.db.users.rows, u ∈ s.db.users.rows ∧ s'.roleIdOf u = s.roleIdOf u) :
    InStep s' := by
  intro u hu hactive
  obtain ⟨hu, hroleId⟩ := hrows u hu
  rw [hsame.agree, hroleId]
  exact hin u hu hactive

theorem roleIdOf_setColumns_ne {uuid : String} {c : RoleColumns} {user : User}
    (h : user.id ≠ uuid) : (s.setColumns uuid c).roleIdOf user = s.roleIdOf user := by
  show (if user.id = uuid then c else s.columns user.id).roleId = _
  rw [if_neg h]
  rfl

theorem roleIdOf_setColumns_self {c : RoleColumns} {user : User} :
    (s.setColumns user.id c).roleIdOf user = c.roleId := by
  show (if user.id = user.id then c else s.columns user.id).roleId = _
  rw [if_pos rfl]

variable {x : Unit}

theorem settles_createUser {r : DirectoryRequest} {uuid : String} {data : UserCreate}
    (hok : DirectoryOk s) (hin : InStep s) (hnew : IsNewId s uuid)
    (h : asUser s r.credential (fun user => onUsers (s.setColumns uuid {})
      (createUser r.env.hashPassword r.ctx s.db user uuid data)) = .ok (x, s')) :
    Settles s' (Agree s data.role none) := by
  obtain ⟨current, sub, -, -, -, h⟩ := asUser_ok h
  obtain ⟨user, db', hcreate, rfl⟩ := onUsers_ok h
  obtain ⟨-, hid, hrole, hactive, hrows, hfresh, -⟩ := createUser_user hcreate
  have hsame : SameRoles s { s.setColumns uuid {} with db := db' } := ⟨rfl, rfl, rfl⟩
  have hnone : Directory.roleIdOf { s.setColumns uuid {} with db := db' } user = none := by
    rw [← hid]
    exact roleIdOf_setColumns_self
  refine (settles_added hsame hok hin ?_ hrows (fun u hu => ?_)).congr ?_
  · rw [hid]
    exact hnew.notEmpty
  · exact roleIdOf_setColumns_ne (by rw [← hid]; exact hfresh u hu)
  · rw [hnone, hrole]
    exact ⟨fun h => h hactive, fun h _ => h⟩

theorem settles_updateUser {r : DirectoryRequest} {userId : String} {data : UserUpdate}
    (hok : DirectoryOk s) (hin : InStep s)
    (h : asUser s r.credential (fun user =>
      onUsers s (updateUser r.ctx s.db user userId data)) = .ok (x, s')) :
    Settles s' (∀ user ∈ s.db.users.rows, user.id = userId →
      data.isActive.getD user.isActive = true →
      Agree s (data.role.getD user.role) (s.roleIdOf user)) := by
  obtain ⟨current, sub, -, -, -, h⟩ := asUser_ok h
  obtain ⟨user', db', hupdate, rfl⟩ := onUsers_ok h
  obtain ⟨user, huser, rfl, hupdated, hrows, -⟩ := updateUser_ok hupdate
  have hsame : SameRoles s { s with db := db' } := ⟨rfl, rfl, rfl⟩
  have hroleId : Directory.roleIdOf { s with db := db' } user' = s.roleIdOf user := by
    show (s.columns user'.id).roleId = _
    rw [hupdated.id]
    rfl
  refine (settles_changed hsame hok hin huser hupdated.id hrows (fun _ _ _ => rfl)).congr ?_
  rw [hroleId, hupdated.role, hupdated.isActive]
  refine Iff.symm ?_
  exact Table.forall_key_iff huser

/-- Users go, and nothing else changes. -/
theorem settles_removed {db : DB} (hok : DirectoryOk s) (hin : InStep s)
    (hrows : ∀ u ∈ db.users.rows, u ∈ s.db.users.rows) : Settles { s with db } True := by
  have hsame : SameRoles s { s with db } := ⟨rfl, rfl, rfl⟩
  refine ⟨hsame.ok hok (fun u hu => hok.ids u (hrows u hu)), iff_of_true ?_ trivial⟩
  exact inStep_removed hsame hin (fun u hu => ⟨hrows u hu, rfl⟩)

theorem settles_createServiceAccount {r : DirectoryRequest} {uuid : String}
    {data : ServiceAccountCreate} (hok : DirectoryOk s) (hin : InStep s) (hnew : IsNewId s uuid)
    (h : withPermission r s "create" (fun user =>
      stateOf (createServiceAccount r.env s user uuid data)) = .ok (x, s')) :
    Settles s' (data.roleId = none ∨ data.roleId = some "" → Agree s "viewer" data.roleId) := by
  obtain ⟨current, h⟩ := withPermission_ok h
  obtain ⟨account, h⟩ := stateOf_ok h
  obtain ⟨rfl, hactive, hrole, ⟨db, c, rfl, hc, hrows⟩, hfresh, -⟩ := createServiceAccount_ok h
  have hsame : SameRoles s (Directory.setColumns { s with db } account.id c) := ⟨rfl, rfl, rfl⟩
  refine (settles_added hsame hok hin hnew.notEmpty hrows
    (fun u hu => roleIdOf_setColumns_ne (hfresh u hu))).congr ?_
  rw [roleIdOf_setColumns_self, hc]
  rcases initialRole_ok hrole with ⟨hnone, hviewer⟩ | ⟨role, hmem, hne, hgiven, hname⟩
  · rw [hviewer]
    exact ⟨fun h _ => h hactive, fun h _ => h hnone⟩
  · -- name and id are those of one row
    refine iff_of_true (fun _ => ?_) ?_
    · rw [hgiven, hname]
      exact agree_of_role hok hmem
    · rw [hgiven]
      rintro (hnone | hempty)
      · cases hnone
      · exact absurd (Option.some.inj hempty) hne

theorem settles_updateServiceAccount {r : DirectoryRequest} {accountId : String}
    {data : ServiceAccountUpdate} (hok : DirectoryOk s) (hin : InStep s)
    (h : withPermission r s "update" (fun _ =>
      stateOf (updateServiceAccount r.env s accountId data)) = .ok (x, s')) :
    Settles s' (data.roleId = none → ∀ user ∈ s.db.users.rows, user.id = accountId →
      data.isActive.getD user.isActive = true → Agree s user.role (s.roleIdOf user)) := by
  obtain ⟨current, h⟩ := withPermission_ok h
  obtain ⟨account', h⟩ := stateOf_ok h
  obtain ⟨account, haccount, rfl, hid, hactive, roleId, c, hrole, hc, rfl, -⟩ :=
    updateServiceAccount_ok h
  have hsame : SameRoles s
      (Directory.setColumns { s with db := s.db.save account' } account.id c) := ⟨rfl, rfl, rfl⟩
  have hroleId : Directory.roleIdOf
      (Directory.setColumns { s with db := s.db.save account' } account.id c) account'
        = roleId := by
    rw [← hid, roleIdOf_setColumns_self, hc]
  refine (settles_changed hsame hok hin haccount hid rfl
    (fun u _ hne => roleIdOf_setColumns_ne hne)).congr ?_
  rw [hroleId, hactive]
  rcases updateRoleOf_ok hrole with ⟨hnone, hname, hsameId⟩ | ⟨role, hmem, hgiven, hname, hnew⟩
  · -- the role stays: the question is whether the account was in step
    rw [hname, hsameId, imp_iff_right hnone]
    refine Iff.symm ?_
    exact Table.forall_key_iff haccount
  · rw [hgiven, hname, hnew]
    refine iff_of_true (fun _ => agree_of_role hok hmem) (fun hnone => ?_)
    cases hnone

end Accounts

/-! ## §4. Roles. -/

section Roles

variable {s s' : Directory} {x : Unit}

theorem offers_iff {ids : List String} {resource action : String} :
    s.offers ids resource action = true ↔
      ∃ p ∈ s.permissions.rows, p.resource = resource ∧ p.action = action ∧ p.id ∈ ids := by
  simp [Directory.offers, and_assoc]

/-- The rows that link a role to these permissions. -/
def linksOf (roleId : String) (ids : List String) : List RolePermission :=
  ids.map (fun id => ⟨roleId, id⟩)

theorem mem_linksOf {roleId : String} {ids : List String} {rp : RolePermission} :
    rp ∈ linksOf roleId ids ↔ rp.roleId = roleId ∧ rp.permissionId ∈ ids := by
  unfold linksOf
  rw [List.mem_map]
  constructor
  · rintro ⟨id, hid, rfl⟩
    exact ⟨rfl, hid⟩
  · rintro ⟨rfl, hid⟩
    exact ⟨rp.permissionId, hid, rfl⟩

theorem link_ok {roleId : String} {ids : List String} (h : s.link roleId ids = .ok s') :
    s' = { s with rolePermissions := s.rolePermissions ++ linksOf roleId ids } := by
  unfold Directory.link at h
  dsimp only at h
  split at h
  next => exact (Except.ok.inj h).symm
  next => cases h

/-- A role without links allows what the new ones offer; other roles allow what they did. -/
theorem allows_append {roleId : String} {ids : List String}
    (h : ∀ rp ∈ s.rolePermissions, rp.roleId ≠ roleId) (rid resource action : String) :
    Directory.allows { s with rolePermissions := s.rolePermissions ++ linksOf roleId ids }
        rid resource action
      = if rid = roleId then s.offers ids resource action else s.allows rid resource action := by
  rw [Bool.eq_iff_iff, allows_iff]
  -- the links of other roles are not among the new ones
  by_cases hrid : rid = roleId
  · subst hrid
    rw [if_pos rfl, offers_iff]
    refine exists_congr (fun p => and_congr_right (fun _ => and_congr_right (fun _ =>
      and_congr_right (fun _ => ?_))))
    rw [List.mem_append, mem_linksOf]
    constructor
    · rintro (hold | hnew)
      · exact absurd rfl (h _ hold)
      · exact hnew.2
    · intro hid
      exact .inr ⟨rfl, hid⟩
  · rw [if_neg hrid, allows_iff]
    refine exists_congr (fun p => and_congr_right (fun _ => and_congr_right (fun _ =>
      and_congr_right (fun _ => ?_))))
    rw [List.mem_append, mem_linksOf]
    constructor
    · rintro (hold | hnew)
      · exact hold
      · exact absurd hnew.1 hrid
    · exact .inl

/-- Without its links a role allows nothing. -/
theorem allows_filter (roleId rid resource action : String) :
    Directory.allows
        { s with rolePermissions := s.rolePermissions.filter (fun rp => rp.roleId ≠ roleId) }
        rid resource action
      = if rid = roleId then false else s.allows rid resource action := by
  rw [Bool.eq_iff_iff, allows_iff]
  by_cases hrid : rid = roleId
  · rw [if_pos hrid]
    refine iff_of_false ?_ Bool.false_ne_true
    rintro ⟨p, -, -, -, hmem⟩
    have hne := (List.mem_filter.mp hmem).2
    simp [hrid] at hne
  · rw [if_neg hrid, allows_iff]
    simp [hrid]

theorem relink_ok {roleId : String} {given : Option (List String)}
    (h : s.relink roleId given = .ok s') :
    ∃ rolePermissions, s' = { s with rolePermissions } ∧ ∀ rid resource action,
      s'.allows rid resource action = if rid = roleId then s.allowsWith roleId given resource action
        else s.allows rid resource action := by
  cases given with
  | none =>
      cases h
      refine ⟨s.rolePermissions, rfl, fun rid resource action => ?_⟩
      by_cases hrid : rid = roleId
      · rw [if_pos hrid, hrid]
        rfl
      · rw [if_neg hrid]
  | some ids =>
      have hlink := link_ok h
      refine ⟨_, hlink, fun rid resource action => ?_⟩
      rw [hlink]
      refine (allows_append ?_ rid resource action).trans ?_
      · intro rp hrp
        simpa using (List.mem_filter.mp hrp).2
      · by_cases hrid : rid = roleId
        · rw [if_pos hrid, if_pos hrid]
          rfl
        · rw [if_neg hrid, if_neg hrid]
          refine (allows_filter roleId rid resource action).trans ?_
          rw [if_neg hrid]

/-- **A ROLE IS ADDED**, that allows so. -/
structure AddsRole (s s' : Directory) (role : Role) (allowed : String → String → Bool) :
    Prop where
  users : s'.db.users = s.db.users
  columns : s'.columns = s.columns
  permissions : s'.permissions = s.permissions
  roles : s'.roles.rows = s.roles.rows ++ [role]
  newName : ∀ r ∈ s.roles.rows, r.name ≠ role.name
  newId : ∀ r ∈ s.roles.rows, r.id ≠ role.id
  allows : ∀ rid resource action, s'.allows rid resource action
    = if rid = role.id then allowed resource action else s.allows rid resource action

namespace AddsRole

variable {role : Role} {allowed : String → String → Bool}

theorem named (h : AddsRole s s' role allowed) (name resource action : String) :
    s'.named name resource action
      = if name = role.name then allowed resource action else s.named name resource action := by
  rw [Bool.eq_iff_iff, named_iff, h.roles]
  by_cases hname : name = role.name
  · rw [if_pos hname]
    constructor
    · rintro ⟨r, hr, hrname, hallows⟩
      rw [List.mem_append, List.mem_singleton] at hr
      rcases hr with hr | rfl
      · exact absurd (hrname.trans hname) (h.newName r hr)
      · rwa [h.allows, if_pos rfl] at hallows
    · intro hallowed
      refine ⟨role, List.mem_append_right _ (List.mem_singleton_self role), hname.symm, ?_⟩
      rwa [h.allows, if_pos rfl]
  · rw [if_neg hname, named_iff]
    constructor
    · rintro ⟨r, hr, hrname, hallows⟩
      rw [List.mem_append, List.mem_singleton] at hr
      rcases hr with hr | rfl
      · rw [h.allows, if_neg (h.newId r hr)] at hallows
        exact ⟨r, hr, hrname, hallows⟩
      · exact absurd hrname.symm hname
    · rintro ⟨r, hr, hrname, hallows⟩
      refine ⟨r, List.mem_append_left _ hr, hrname, ?_⟩
      rwa [h.allows, if_neg (h.newId r hr)]

/-- What an id grants is as before, unless it is the new one. -/
theorem grants (h : AddsRole s s' role allowed) {roleId : Option String}
    (hne : roleId ≠ some role.id) (resource action : String) :
    s'.grants roleId resource action = s.grants roleId resource action := by
  cases roleId with
  | none => rfl
  | some rid =>
      have hrid : rid ≠ role.id := fun heq => hne (by rw [heq])
      rw [grants_some, grants_some, h.allows, if_neg hrid, h.roles]
      congr 1
      rw [decide_eq_decide]
      constructor
      · rintro ⟨r, hr, hid⟩
        rw [List.mem_append, List.mem_singleton] at hr
        rcases hr with hr | rfl
        · exact ⟨r, hr, hid⟩
        · exact absurd hid.symm hrid
      · rintro ⟨r, hr, hid⟩
        exact ⟨r, List.mem_append_left _ hr, hid⟩

theorem roleIdOf (h : AddsRole s s' role allowed) (user : User) :
    s'.roleIdOf user = s.roleIdOf user := by
  unfold Directory.roleIdOf
  rw [h.columns]

theorem ok (h : AddsRole s s' role allowed) (hok : DirectoryOk s) : DirectoryOk s' where
  ids := by
    rw [h.users]
    exact hok.ids
  names := by
    intro r hr r' hr' hname
    rw [h.roles, List.mem_append, List.mem_singleton] at hr hr'
    rcases hr with hr | rfl
    · rcases hr' with hr' | rfl
      · exact hok.names r hr r' hr' hname
      · exact absurd hname (h.newName r hr)
    · rcases hr' with hr' | rfl
      · exact absurd hname.symm (h.newName r' hr')
      · rfl

end AddsRole

theorem createRole_adds {uuid : String} {data : RoleCreate} {role : Role}
    (hnew : IsNewId s uuid) (h : createRole s uuid data = .ok (role, s')) :
    role.id = uuid ∧ role.name = data.name ∧ AddsRole s s' role (s.offers data.permissionIds) := by
  unfold createRole at h
  obtain ⟨hnone, h⟩ := ite_error_eq_ok.mp h
  rw [Option.not_isSome_iff_eq_none, roleNamed_eq_none] at hnone
  split at h
  next => cases h
  next roles hins =>
    obtain ⟨s₁, hlink, h⟩ := bind_eq_ok.mp h
    obtain ⟨rfl, rfl⟩ := ok_pair_inj h
    obtain ⟨hfresh, hrows⟩ := Table.insert?_eq_some_iff.mp hins
    have hs := link_ok hlink
    subst hs
    refine ⟨rfl, rfl, rfl, rfl, rfl, hrows, hnone, hfresh, fun rid resource action => ?_⟩
    exact allows_append (s := { s with roles }) (fun rp hrp => (hnew.links rp hrp).1) rid
      resource action

theorem settles_createRole {r : DirectoryRequest} {uuid : String} {data : RoleCreate}
    (hok : DirectoryOk s) (hin : InStep s) (hnew : IsNewId s uuid)
    (h : withPermission r s "create" (fun _ => stateOf (createRole s uuid data))
      = .ok (x, s')) :
    Settles s' (ForAccounts s (fun user => user.role = data.name → ∀ resource action,
      s.grants (s.roleIdOf user) resource action
        = s.offers data.permissionIds resource action)) := by
  obtain ⟨_, h⟩ := withPermission_ok h
  obtain ⟨role, h⟩ := stateOf_ok h
  obtain ⟨rfl, hname, hadds⟩ := createRole_adds hnew h
  refine ⟨hadds.ok hok, ?_⟩
  unfold InStep
  rw [hadds.users]
  refine forall₃_congr (fun user huser hactive => ?_)
  rw [hadds.roleIdOf]
  have hgrants := hadds.grants (hnew.users user huser)
  unfold Agree
  simp only [hgrants, hadds.named, hname]
  by_cases hadmin : user.role = "admin"
  · exact iff_of_true (.inl hadmin) (fun hne => absurd hadmin hne)
  · by_cases hrole : user.role = data.name
    · simp only [if_pos hrole]
      exact ⟨fun h _ _ => h.resolve_left hadmin, fun h => .inr (h hadmin hrole)⟩
    · simp only [if_neg hrole]
      exact iff_of_true (hin user huser hactive) (fun _ heq => absurd heq hrole)

/-- **A ROLE IS EDITED**: it is called `newName`, or is gone, and allows so. -/
structure EditsRole (s s' : Directory) (role : Role) (newName : Option String)
    (allowed : String → String → Bool) : Prop where
  users : s'.db.users = s.db.users
  columns : s'.columns = s.columns
  grants : ∀ rid resource action, s'.grants (some rid) resource action
    = if rid = role.id then allowed resource action else s.grants (some rid) resource action
  named : ∀ name resource action, s'.named name resource action
    = if some name = newName then allowed resource action
      else if name = role.name then false else s.named name resource action

theorem EditsRole.inStep_iff {role : Role} {newName : Option String}
    {allowed : String → String → Bool} (h : EditsRole s s' role newName allowed) :
    InStep s' ↔ AgreeWith s role newName allowed := by
  unfold InStep AgreeWith ForAccounts
  rw [h.users]
  refine forall₃_congr (fun user huser hactive => ?_)
  have hroleId : s'.roleIdOf user = s.roleIdOf user := by
    unfold Directory.roleIdOf
    rw [h.columns]
  have hgrants : ∀ resource action, s'.grants (s.roleIdOf user) resource action
      = if s.roleIdOf user = some role.id then allowed resource action
        else s.grants (s.roleIdOf user) resource action := by
    intro resource action
    cases s.roleIdOf user with
    | none => rfl
    | some rid =>
        rw [h.grants]
        simp only [Option.some.injEq]
  unfold Agree
  rw [hroleId]
  simp only [hgrants, h.named]
  exact or_iff_not_imp_left

/-- A role is given a name that no other role has, and allows so. -/
structure RenamesRole (s s' : Directory) (role : Role) (newName : String)
    (allowed : String → String → Bool) : Prop where
  mem : role ∈ s.roles.rows
  users : s'.db.users = s.db.users
  columns : s'.columns = s.columns
  roles : s'.roles = s.roles.put { role with name := newName }
  alone : ∀ r ∈ s.roles.rows, r.name = newName → r.id = role.id
  allows : ∀ rid resource action, s'.allows rid resource action
    = if rid = role.id then allowed resource action else s.allows rid resource action

namespace RenamesRole

variable {role : Role} {newName : String} {allowed : String → String → Bool}

theorem mem_roles (h : RenamesRole s s' role newName allowed) {r : Role} :
    r ∈ s'.roles.rows ↔
      r = { role with name := newName } ∨ (r ∈ s.roles.rows ∧ r.id ≠ role.id) := by
  rw [h.roles]
  exact Table.mem_put_iff ⟨role, h.mem, by rfl⟩

theorem exists_id (h : RenamesRole s s' role newName allowed) {rid : String} :
    (∃ r ∈ s'.roles.rows, r.id = rid) ↔ ∃ r ∈ s.roles.rows, r.id = rid := by
  constructor
  · rintro ⟨r, hr, hid⟩
    rcases h.mem_roles.mp hr with rfl | ⟨hr, -⟩
    · exact ⟨role, h.mem, hid⟩
    · exact ⟨r, hr, hid⟩
  · rintro ⟨r, hr, hid⟩
    by_cases hrid : r.id = role.id
    · exact ⟨_, h.mem_roles.mpr (.inl rfl), hrid.symm.trans hid⟩
    · exact ⟨r, h.mem_roles.mpr (.inr ⟨hr, hrid⟩), hid⟩

theorem ok (h : RenamesRole s s' role newName allowed) (hok : DirectoryOk s) : DirectoryOk s' where
  ids := by
    rw [h.users]
    exact hok.ids
  names := by
    intro r hr r' hr' hname
    rcases h.mem_roles.mp hr with rfl | ⟨hr, hne⟩
    · rcases h.mem_roles.mp hr' with rfl | ⟨hr', hne'⟩
      · rfl
      · exact absurd (h.alone r' hr' hname.symm) hne'
    · rcases h.mem_roles.mp hr' with rfl | ⟨hr', -⟩
      · exact absurd (h.alone r hr hname) hne
      · exact hok.names r hr r' hr' hname

theorem grants (h : RenamesRole s s' role newName allowed) (rid resource action : String) :
    s'.grants (some rid) resource action
      = if rid = role.id then allowed resource action
        else s.grants (some rid) resource action := by
  rw [grants_some, grants_some, h.allows, decide_eq_decide.mpr h.exists_id]
  by_cases hrid : rid = role.id
  · have hsome : ∃ r ∈ s.roles.rows, r.id = rid := ⟨role, h.mem, hrid.symm⟩
    rw [if_pos hrid, if_pos hrid, decide_eq_true hsome, Bool.true_and]
  · rw [if_neg hrid, if_neg hrid]

/-- The new name grants what the role now allows. -/
theorem named_new (h : RenamesRole s s' role newName allowed) (resource action : String) :
    s'.named newName resource action = allowed resource action := by
  rw [Bool.eq_iff_iff, named_iff]
  constructor
  · rintro ⟨r, hr, hrname, hallowed⟩
    rcases h.mem_roles.mp hr with rfl | ⟨hr, hne⟩
    · rwa [h.allows, if_pos rfl] at hallowed
    · exact absurd (h.alone r hr hrname) hne
  · intro hallowed
    refine ⟨_, h.mem_roles.mpr (.inl rfl), rfl, ?_⟩
    rwa [h.allows, if_pos rfl]

/-- The old name, if it is another one, grants nothing any more. -/
theorem named_old (h : RenamesRole s s' role newName allowed) (hok : DirectoryOk s)
    (hne : role.name ≠ newName) (resource action : String) :
    s'.named role.name resource action = false := by
  refine named_of_no_role (fun r hr hrname => ?_) resource action
  rcases h.mem_roles.mp hr with rfl | ⟨hr, hid⟩
  · exact hne hrname.symm
  · exact hid (by rw [hok.names r hr role h.mem hrname])

/-- Other names grant what they did. -/
theorem named_other (h : RenamesRole s s' role newName allowed) {name : String}
    (hnew : name ≠ newName) (hold : name ≠ role.name) (resource action : String) :
    s'.named name resource action = s.named name resource action := by
  rw [Bool.eq_iff_iff, named_iff, named_iff]
  constructor
  · rintro ⟨r, hr, hrname, hallowed⟩
    rcases h.mem_roles.mp hr with rfl | ⟨hr, hne⟩
    · exact absurd hrname.symm hnew
    · rw [h.allows, if_neg hne] at hallowed
      exact ⟨r, hr, hrname, hallowed⟩
  · rintro ⟨r, hr, hrname, hallowed⟩
    have hne : r.id ≠ role.id := by
      intro hid
      rw [s.roles.eq_of_key_eq hr h.mem hid] at hrname
      exact hold hrname.symm
    refine ⟨r, h.mem_roles.mpr (.inr ⟨hr, hne⟩), hrname, ?_⟩
    rwa [h.allows, if_neg hne]

theorem edits (h : RenamesRole s s' role newName allowed) (hok : DirectoryOk s) :
    EditsRole s s' role (some newName) allowed where
  users := h.users
  columns := h.columns
  grants := h.grants
  named := by
    intro name resource action
    by_cases hnew : name = newName
    · rw [if_pos (by rw [hnew]), hnew, h.named_new]
    · rw [if_neg (fun heq => hnew (Option.some.inj heq))]
      by_cases hold : name = role.name
      · rw [if_pos hold, hold, h.named_old hok (by rw [← hold]; exact hnew)]
      · rw [if_neg hold, h.named_other hnew hold]

end RenamesRole

theorem updateRole_renames {roleId : String} {data : RoleUpdate} {role' : Role}
    (hok : DirectoryOk s) (h : updateRole s roleId data = .ok (role', s')) :
    ∃ role, role.id = roleId ∧ RenamesRole s s' role (data.name.getD role.name)
      (s.allowsWith roleId data.permissionIds) := by
  unfold updateRole at h
  split at h
  next => cases h
  next role hget =>
    obtain ⟨hrole, hid⟩ := Table.get?_eq_some_iff.mp hget
    obtain ⟨-, h⟩ := ite_error_eq_ok.mp h
    obtain ⟨hunique, h⟩ := ite_error_eq_ok.mp h
    obtain ⟨s₁, hrelink, h⟩ := bind_eq_ok.mp h
    obtain ⟨-, rfl⟩ := ok_pair_inj h
    obtain ⟨rolePermissions, rfl, hallows⟩ := relink_ok hrelink
    rw [hid.symm] at hunique hallows ⊢
    refine ⟨role, rfl, hrole, rfl, rfl, rfl, ?_, hallows⟩
    intro r hr hname
    cases hdata : data.name with
    | none =>
        rw [hdata] at hname
        rw [hok.names r hr role hrole hname]
    | some n =>
        by_contra hne
        refine hunique (List.any_eq_true.mpr ⟨r, hr, decide_eq_true ⟨?_, hne⟩⟩)
        rw [hname, hdata]
        rfl

theorem settles_updateRole {r : DirectoryRequest} {roleId : String} {data : RoleUpdate}
    (hok : DirectoryOk s)
    (h : withPermission r s "update" (fun _ => stateOf (updateRole s roleId data))
      = .ok (x, s')) :
    Settles s' (∀ role ∈ s.roles.rows, role.id = roleId →
      AgreeWith s role (some (data.name.getD role.name))
        (s.allowsWith roleId data.permissionIds)) := by
  obtain ⟨_, h⟩ := withPermission_ok h
  obtain ⟨_, h⟩ := stateOf_ok h
  obtain ⟨role, rfl, hrenames⟩ := updateRole_renames hok h
  refine ⟨hrenames.ok hok, ?_⟩
  rw [(hrenames.edits hok).inStep_iff]
  refine Iff.symm ?_
  exact Table.forall_key_iff hrenames.mem

theorem deleteRole_edits {roleId : String} (hok : DirectoryOk s)
    (h : deleteRole s roleId = .ok (x, s')) :
    ∃ role ∈ s.roles.rows, role.id = roleId ∧ DirectoryOk s' ∧
      EditsRole s s' role none (fun _ _ => false) := by
  unfold deleteRole at h
  split at h
  next => cases h
  next role hget =>
    obtain ⟨hrole, rfl⟩ := Table.get?_eq_some_iff.mp hget
    obtain ⟨-, h⟩ := ite_error_eq_ok.mp h
    obtain ⟨-, rfl⟩ := ok_pair_inj h
    have hmem : ∀ r, r ∈ (s.roles.delete (fun r => r.id = role.id)).rows ↔
        r ∈ s.roles.rows ∧ r.id ≠ role.id := by
      intro r
      rw [Table.mem_delete, decide_eq_false_iff_not]
    refine ⟨role, hrole, rfl, ⟨hok.ids, ?_⟩, rfl, rfl, ?_, ?_⟩
    · intro r hr r' hr' hname
      exact hok.names r ((hmem r).mp hr).1 r' ((hmem r').mp hr').1 hname
    -- By id: the row is gone, and with it the grants that refer to it.
    · intro rid resource action
      rw [grants_some, grants_some]
      by_cases hrid : rid = role.id
      · rw [if_pos hrid, decide_eq_false, Bool.false_and]
        rintro ⟨r, hr, hid⟩
        exact ((hmem r).mp hr).2 (hid.trans hrid)
      · rw [if_neg hrid]
        congr 1
        · rw [decide_eq_decide]
          refine exists_congr (fun r => and_congr_left (fun hid => ?_))
          rw [hmem r]
          exact and_iff_left (fun heq => hrid (hid.symm.trans heq))
        · refine (allows_filter role.id rid resource action).trans ?_
          rw [if_neg hrid]
    -- By name: no other row has the name, and the rows of other names keep theirs.
    · intro name resource action
      rw [if_neg (fun heq => nomatch heq)]
      by_cases hname : name = role.name
      · rw [if_pos hname]
        refine named_of_no_role (fun r hr hrname => ?_) resource action
        refine ((hmem r).mp hr).2 ?_
        rw [hok.names r ((hmem r).mp hr).1 role hrole (hrname.trans hname)]
      · rw [if_neg hname, Bool.eq_iff_iff, named_iff, named_iff]
        constructor
        · rintro ⟨r, hr, hrname, hallowed⟩
          obtain ⟨hr, hne⟩ := (hmem r).mp hr
          refine ⟨r, hr, hrname, ?_⟩
          have hsame := allows_filter (s := s) role.id r.id resource action
          rw [if_neg hne] at hsame
          exact hsame.symm.trans hallowed
        · rintro ⟨r, hr, hrname, hallowed⟩
          have hne : r.id ≠ role.id := by
            intro hid
            rw [s.roles.eq_of_key_eq hr hrole hid] at hrname
            exact hname hrname.symm
          refine ⟨r, (hmem r).mpr ⟨hr, hne⟩, hrname, ?_⟩
          have hsame := allows_filter (s := s) role.id r.id resource action
          rw [if_neg hne] at hsame
          exact hsame.trans hallowed

theorem settles_deleteRole {r : DirectoryRequest} {roleId : String} (hok : DirectoryOk s)
    (h : withPermission r s "delete" (fun _ => deleteRole s roleId) = .ok (x, s')) :
    Settles s' (∀ role ∈ s.roles.rows, role.id = roleId →
      AgreeWith s role none (fun _ _ => false)) := by
  obtain ⟨_, h⟩ := withPermission_ok h
  obtain ⟨role, hrole, rfl, hok', hedits⟩ := deleteRole_edits hok h
  refine ⟨hok', ?_⟩
  rw [hedits.inStep_iff]
  refine Iff.symm ?_
  exact Table.forall_key_iff hrole

end Roles

/-! ## §5. The seeding. -/

section Seeding

variable {s s' : Directory} {ids : SeedIds} {x : Unit}

/-- The rows of `seed_permissions`: those that were there, and new ones with drawn ids. -/
structure SeededRows (ids : SeedIds) (rows rows' : Table Permission.id)
    (done : List (String × String)) : Prop where
  old : ∀ p ∈ rows.rows, p ∈ rows'.rows
  drawn : ∀ p ∈ rows'.rows, p ∈ rows.rows ∨ ∃ q ∈ done, p.id = ids.permission q
  all : ∀ q ∈ done, ∃ p ∈ rows'.rows, p.resource = q.1 ∧ p.action = q.2

theorem seedPermission_ok {rows rows' : Table Permission.id} {q : String × String}
    (h : seedPermission ids rows q = .ok rows') : SeededRows ids rows rows' [q] := by
  unfold seedPermission at h
  split at h
  next hany =>
    cases h
    refine ⟨fun _ hp => hp, fun _ hp => .inl hp, fun q' hq' => ?_⟩
    rw [List.mem_singleton.mp hq']
    simpa using hany
  next =>
    split at h
    next => cases h
    next rows₁ hins =>
      cases h
      have hrows := (Table.insert?_eq_some_iff.mp hins).2
      have hmem : ∀ p, p ∈ rows'.rows ↔
          p ∈ rows.rows ∨ p = { id := ids.permission q, resource := q.1, action := q.2 } := by
        intro p
        rw [hrows, List.mem_append, List.mem_singleton]
      refine ⟨fun p hp => (hmem p).mpr (.inl hp), fun p hp => ?_, fun q' hq' => ?_⟩
      · refine ((hmem p).mp hp).imp_right (fun heq => ⟨q, List.mem_singleton_self q, ?_⟩)
        rw [heq]
      · rw [List.mem_singleton.mp hq']
        exact ⟨_, (hmem _).mpr (.inr rfl), rfl, rfl⟩

/-- The loop of `seed_permissions`. -/
theorem seedPermissions_ok : ∀ {qs : List (String × String)} {rows rows' : Table Permission.id},
    qs.foldlM (seedPermission ids) rows = .ok rows' → SeededRows ids rows rows' qs := by
  intro qs
  induction qs with
  | nil =>
      intro rows rows' h
      cases h
      exact ⟨fun _ hp => hp, fun _ hp => .inl hp, fun _ hq => (nomatch hq)⟩
  | cons q qs ih =>
      intro rows rows' h
      rw [List.foldlM_cons] at h
      obtain ⟨rows₁, hfirst, hrest⟩ := bind_eq_ok.mp h
      have h₁ := seedPermission_ok hfirst
      have h₂ := ih hrest
      refine ⟨fun p hp => h₂.old p (h₁.old p hp), fun p hp => ?_, fun q' hq' => ?_⟩
      · rcases h₂.drawn p hp with hp | ⟨q', hq', hid⟩
        · refine (h₁.drawn p hp).imp_right ?_
          rintro ⟨q', hq', hid⟩
          rw [List.mem_singleton.mp hq'] at hid
          exact ⟨q, List.mem_cons_self, hid⟩
        · exact .inr ⟨q', List.mem_cons_of_mem q hq', hid⟩
      · rcases List.mem_cons.mp hq' with rfl | hq'
        · obtain ⟨p, hp, hq⟩ := h₁.all q' (List.mem_singleton_self q')
          exact ⟨p, h₂.old p hp, hq⟩
        · exact h₂.all q' hq'

/-- New permissions that nothing refers to allow nothing. -/
theorem allows_seeded {permissions : Table Permission.id}
    (h : SeededRows ids s.permissions permissions seededPermissions)
    (hnew : ∀ q ∈ seededPermissions, IsNewId s (ids.permission q))
    (roleId resource action : String) :
    Directory.allows { s with permissions } roleId resource action
      = s.allows roleId resource action := by
  rw [Bool.eq_iff_iff, allows_iff, allows_iff]
  constructor
  · rintro ⟨p, hp, hresource, haction, hlink⟩
    rcases h.drawn p hp with hp | ⟨q, hq, hid⟩
    · exact ⟨p, hp, hresource, haction, hlink⟩
    · exact absurd hid ((hnew q hq).links _ hlink).2
  · rintro ⟨p, hp, hrest⟩
    exact ⟨p, h.old p hp, hrest⟩

/-- The permissions of a role that is seeded are those of its definition. -/
theorem offers_seeded {permissions : List (String × String)}
    (hall : ∀ q ∈ permissions, ∃ p ∈ s.permissions.rows, p.resource = q.1 ∧ p.action = q.2)
    (resource action : String) :
    s.offers (permissions.filterMap (fun q => (s.permissionFor q).map Permission.id))
        resource action
      = decide ((resource, action) ∈ permissions) := by
  have hfor : ∀ q p, s.permissionFor q = some p →
      p ∈ s.permissions.rows ∧ p.resource = q.1 ∧ p.action = q.2 := by
    intro q p hp
    refine ⟨List.mem_of_find?_eq_some hp, ?_⟩
    simpa using List.find?_some hp
  rw [Bool.eq_iff_iff, offers_iff, decide_eq_true_eq]
  constructor
  · rintro ⟨p, hp, rfl, rfl, hid⟩
    obtain ⟨q, hq, hsome⟩ := List.mem_filterMap.mp hid
    obtain ⟨p', hp', hsame⟩ := Option.map_eq_some_iff.mp hsome
    obtain ⟨hmem, hresource, haction⟩ := hfor q p' hp'
    rw [s.permissions.eq_of_key_eq hmem hp hsame] at hresource haction
    rw [hresource, haction]
    exact hq
  -- the row that the seeding finds need not be the one we know, but it says the same
  · intro hq
    obtain ⟨p₀, hp₀, hres₀, hact₀⟩ := hall _ hq
    have hsome : (s.permissionFor (resource, action)).isSome = true := by
      unfold Directory.permissionFor
      rw [List.find?_isSome]
      exact ⟨p₀, hp₀, by simp [hres₀, hact₀]⟩
    obtain ⟨p, hp⟩ := Option.isSome_iff_exists.mp hsome
    obtain ⟨hmem, hresource, haction⟩ := hfor _ p hp
    refine ⟨p, hmem, hresource, haction, List.mem_filterMap.mpr ⟨_, hq, ?_⟩⟩
    rw [hp]
    rfl

/-- The tables after the roles `done` of `ROLES`, from the tables `s`. -/
structure SeededTo (ids : SeedIds) (s s' : Directory) (done : List SeededRole) : Prop where
  users : s'.db = s.db
  columns : s'.columns = s.columns
  permissions : s'.permissions = s.permissions
  ok : DirectoryOk s'
  grants : ∀ roleId, (∀ r ∈ seededRoles, roleId ≠ some (ids.role r.name)) →
    ∀ resource action, s'.grants roleId resource action = s.grants roleId resource action
  /-- A role that was not there is as it is defined. -/
  new : ∀ d ∈ done, s.roleNamed d.name = none → ∀ resource action,
    s'.named d.name resource action = decide ((resource, action) ∈ d.permissions)
  other : ∀ name, (∀ d ∈ done, s.roleNamed d.name = none → d.name ≠ name) →
    ∀ resource action, s'.named name resource action = s.named name resource action
  names : ∀ name, s'.roleNamed name = none ↔
    s.roleNamed name = none ∧ ∀ d ∈ done, d.name ≠ name
  links : ∀ rp ∈ s'.rolePermissions, rp ∈ s.rolePermissions ∨
    ∃ role ∈ s'.roles.rows, role.id = rp.roleId

theorem SeededTo.refl (hok : DirectoryOk s) : SeededTo ids s s [] where
  users := rfl
  columns := rfl
  permissions := rfl
  ok := hok
  grants := fun _ _ _ _ => rfl
  new := fun _ h => (nomatch h)
  other := fun _ _ _ _ => rfl
  names := fun _ => ⟨fun h => ⟨h, fun _ hd => (nomatch hd)⟩, And.left⟩
  links := fun _ h => .inl h

/-- One turn of the loop of `seed_roles`: nothing, or a role is added. -/
theorem seedRole_ok {s₁ s₂ : Directory} {done : List SeededRole} {d : SeededRole}
    (hd : d ∈ seededRoles) (h₁ : SeededTo ids s s₁ done)
    (hall : ∀ q ∈ d.permissions, ∃ p ∈ s.permissions.rows, p.resource = q.1 ∧ p.action = q.2)
    (hnew : ∀ r ∈ seededRoles, IsNewId s (ids.role r.name)) (h : seedRole ids s₁ d = .ok s₂) :
    (s₁.roleNamed d.name ≠ none ∧ s₂ = s₁) ∨
      (s₁.roleNamed d.name = none ∧ s₂.db = s₁.db ∧
        AddsRole s₁ s₂ { id := ids.role d.name, name := d.name, isSystemRole := true }
          (fun resource action => decide ((resource, action) ∈ d.permissions)) ∧
        ∀ rp ∈ s₂.rolePermissions, rp ∈ s₁.rolePermissions ∨ rp.roleId = ids.role d.name) := by
  unfold seedRole at h
  split at h
  next hsome =>
    cases h
    exact .inl ⟨Option.isSome_iff_ne_none.mp hsome, rfl⟩
  next hnone =>
    rw [Option.not_isSome_iff_eq_none] at hnone
    split at h
    next => cases h
    next roles hins =>
      obtain ⟨hfresh, hrows⟩ := Table.insert?_eq_some_iff.mp hins
      have hs := link_ok h
      subst hs
      -- neither an old link nor one of a role added before is of the drawn id
      have hunlinked : ∀ rp ∈ s₁.rolePermissions, rp.roleId ≠ ids.role d.name := by
        intro rp hrp heq
        rcases h₁.links rp hrp with hold | ⟨role, hrole, hid⟩
        · exact ((hnew d hd).links rp hold).1 heq
        · exact hfresh role hrole (hid.trans heq)
      refine .inr ⟨hnone, rfl, ⟨rfl, rfl, rfl, hrows, roleNamed_eq_none.mp hnone, hfresh, ?_⟩, ?_⟩
      · intro rid resource action
        refine (allows_append (s := { s₁ with roles }) hunlinked rid resource action).trans ?_
        congr 1
        refine offers_seeded (s := s₁) ?_ resource action
        rw [h₁.permissions]
        exact hall
      · intro rp hrp
        rcases List.mem_append.mp hrp with hrp | hrp
        · exact .inl hrp
        · exact .inr (mem_linksOf.mp hrp).1

/-- The roles of `ROLES` have different names. -/
theorem seededRoles_names : (seededRoles.map SeededRole.name).Nodup := by decide

theorem SeededTo.step {s₁ s₂ : Directory} {done : List SeededRole} {d : SeededRole}
    (hd : d ∈ seededRoles) (hname : ∀ d' ∈ done, d'.name ≠ d.name) (h₁ : SeededTo ids s s₁ done)
    (hall : ∀ q ∈ d.permissions, ∃ p ∈ s.permissions.rows, p.resource = q.1 ∧ p.action = q.2)
    (hnew : ∀ r ∈ seededRoles, IsNewId s (ids.role r.name)) (h : seedRole ids s₁ d = .ok s₂) :
    SeededTo ids s s₂ (done ++ [d]) := by
  have hmem : ∀ d', d' ∈ done ++ [d] ↔ d' ∈ done ∨ d' = d := by
    intro d'
    rw [List.mem_append, List.mem_singleton]
  rcases seedRole_ok hd h₁ hall hnew h with ⟨hthere, rfl⟩ | ⟨hnone, hdb, hadds, hlinks⟩
  · -- a role of that name was there from the start
    have hold : s.roleNamed d.name ≠ none := by
      intro hnone
      exact hthere ((h₁.names d.name).mpr ⟨hnone, hname⟩)
    refine { h₁ with new := ?_, other := ?_, names := ?_ }
    · intro d' hd' hnone
      rcases (hmem d').mp hd' with hd' | rfl
      · exact h₁.new d' hd' hnone
      · exact absurd hnone hold
    · intro name hother
      exact h₁.other name (fun d' hd' => hother d' ((hmem d').mpr (.inl hd')))
    · intro name
      rw [h₁.names]
      refine and_congr_right (fun hnone => ?_)
      constructor
      · intro hdone d' hd'
        rcases (hmem d').mp hd' with hd' | rfl
        · exact hdone d' hd'
        · intro heq
          rw [heq] at hold
          exact hold hnone
      · intro hdone d' hd'
        exact hdone d' ((hmem d').mpr (.inl hd'))
  · refine ⟨hdb.trans h₁.users, hadds.columns.trans h₁.columns,
      hadds.permissions.trans h₁.permissions, hadds.ok h₁.ok, ?_, ?_, ?_, ?_, ?_⟩
    · intro roleId hne resource action
      rw [hadds.grants (hne d hd), h₁.grants roleId hne]
    · intro d' hd' hnone' resource action
      rw [hadds.named]
      rcases (hmem d').mp hd' with hd' | rfl
      · rw [if_neg (hname d' hd'), h₁.new d' hd' hnone']
      · rw [if_pos rfl]
    · intro name hother resource action
      have hstart := (h₁.names d.name).mp hnone
      have hne : name ≠ d.name :=
        fun heq => hother d ((hmem d).mpr (.inr rfl)) hstart.1 heq.symm
      rw [hadds.named, if_neg hne]
      exact h₁.other name (fun d' hd' => hother d' ((hmem d').mpr (.inl hd'))) resource action
    · intro name
      have hrows : s₂.roleNamed name = none ↔ s₁.roleNamed name = none ∧ d.name ≠ name := by
        rw [roleNamed_eq_none, roleNamed_eq_none, hadds.roles]
        simp only [List.mem_append, List.mem_singleton, or_imp, forall_and, forall_eq]
      rw [hrows, h₁.names, and_assoc]
      refine and_congr_right (fun _ => ?_)
      constructor
      · rintro ⟨hdone, hne⟩ d' hd'
        rcases (hmem d').mp hd' with hd' | rfl
        · exact hdone d' hd'
        · exact hne
      · intro hdone
        exact ⟨fun d' hd' => hdone d' ((hmem d').mpr (.inl hd')), hdone d ((hmem d).mpr (.inr rfl))⟩
    · intro rp hrp
      rcases hlinks rp hrp with hold | heq
      · refine (h₁.links rp hold).imp_right ?_
        rintro ⟨role, hrole, hid⟩
        exact ⟨role, by rw [hadds.roles]; exact List.mem_append_left _ hrole, hid⟩
      · refine .inr ⟨{ id := ids.role d.name, name := d.name, isSystemRole := true }, ?_, heq.symm⟩
        rw [hadds.roles]
        exact List.mem_append_right _ (List.mem_singleton_self _)

/-- The loop of `seed_roles`. -/
theorem SeededTo.fold (hnew : ∀ r ∈ seededRoles, IsNewId s (ids.role r.name))
    (hall : ∀ d ∈ seededRoles, ∀ q ∈ d.permissions,
      ∃ p ∈ s.permissions.rows, p.resource = q.1 ∧ p.action = q.2) :
    ∀ {rest done : List SeededRole} {s₁ s₂ : Directory}, seededRoles = done ++ rest →
      SeededTo ids s s₁ done → rest.foldlM (seedRole ids) s₁ = .ok s₂ →
      SeededTo ids s s₂ seededRoles := by
  intro rest
  induction rest with
  | nil =>
      intro done s₁ s₂ hsplit h₁ h
      cases h
      rw [hsplit, List.append_nil]
      exact h₁
  | cons d rest ih =>
      intro done s₁ s₂ hsplit h₁ h
      rw [List.foldlM_cons] at h
      obtain ⟨s₃, hfirst, hrest⟩ := bind_eq_ok.mp h
      have hd : d ∈ seededRoles := by
        rw [hsplit]
        exact List.mem_append_right _ List.mem_cons_self
      -- no two of `ROLES` have one name, so this one is not among those that are done
      have hname : ∀ d' ∈ done, d'.name ≠ d.name := by
        intro d' hd'
        have hnodup := seededRoles_names
        rw [hsplit, List.map_append, List.map_cons] at hnodup
        intro heq
        refine List.disjoint_of_nodup_append hnodup (List.mem_map_of_mem hd') ?_
        rw [heq]
        exact List.mem_cons_self
      refine ih ?_ (h₁.step hd hname (hall d hd) hnew hfirst) hrest
      rw [hsplit, List.append_assoc]
      rfl

/-- The permissions of the roles are among those that are seeded. -/
theorem seededRoles_permissions :
    ∀ d ∈ seededRoles, ∀ q ∈ d.permissions, q ∈ seededPermissions := by
  decide

/-- The first user is an admin. -/
theorem seedAdminUser_ok {hashPassword : String → String}
    (h : seedAdminUser ids hashPassword s = .ok s') :
    s' = s ∨ s.db.users.rows = [] ∧ SameRoles s s' ∧
      ∀ u ∈ s'.db.users.rows, u.id = ids.admin ∧ u.role = "admin" := by
  unfold seedAdminUser at h
  split at h
  next => exact .inl (Except.ok.inj h).symm
  next hnone =>
    rw [not_not] at hnone
    obtain ⟨db, hadd, h⟩ := bind_eq_ok.mp h
    cases h
    refine .inr ⟨hnone, ⟨rfl, rfl, rfl⟩, fun u hu => ?_⟩
    change u ∈ db.users.rows at hu
    rw [(addUser_ok hadd).1, hnone, List.nil_append, List.mem_singleton] at hu
    rw [hu]
    exact ⟨rfl, rfl⟩

theorem settles_seed {hashPassword : String → String} (hok : DirectoryOk s) (hin : InStep s)
    (hpermissions : ∀ q ∈ seededPermissions, IsNewId s (ids.permission q))
    (hroles : ∀ r ∈ seededRoles, IsNewId s (ids.role r.name)) (hadmin : IsNewId s ids.admin)
    (h : seedDatabase ids hashPassword s = .ok (x, s')) :
    Settles s' (∀ r ∈ seededRoles, s.roleNamed r.name = none →
      ForAccounts s (fun user => user.role = r.name → ∀ resource action,
        s.grants (s.roleIdOf user) resource action
          = decide ((resource, action) ∈ r.permissions))) := by
  obtain ⟨permissions, hfold, h⟩ := bind_eq_ok.mp h
  obtain ⟨s₁, hseed, h⟩ := bind_eq_ok.mp h
  obtain ⟨s₂, hfirst, h⟩ := bind_eq_ok.mp h
  obtain ⟨-, rfl⟩ := ok_pair_inj h
  have hrows := seedPermissions_ok hfold
  have hallows := allows_seeded hrows hpermissions
  -- the new permissions change nothing for the roles that are there
  have hgrants : ∀ roleId resource action, Directory.grants { s with permissions } roleId
      resource action = s.grants roleId resource action := by
    intro roleId resource action
    unfold Directory.grants
    simp only [hallows]
  have hnamed : ∀ name resource action, Directory.named { s with permissions } name
      resource action = s.named name resource action := by
    intro name resource action
    unfold Directory.named
    simp only [hallows]
  have hall : ∀ d ∈ seededRoles, ∀ q ∈ d.permissions,
      ∃ p ∈ permissions.rows, p.resource = q.1 ∧ p.action = q.2 :=
    fun d hd q hq => hrows.all q (seededRoles_permissions d hd q hq)
  have hok₀ : DirectoryOk { s with permissions } := ⟨hok.ids, hok.names⟩
  have hnew : ∀ r ∈ seededRoles, IsNewId { s with permissions } (ids.role r.name) :=
    fun r hr => ⟨(hroles r hr).notEmpty, (hroles r hr).users, (hroles r hr).links⟩
  have hto := SeededTo.fold hnew hall rfl (SeededTo.refl hok₀) hseed
  have hstart : ∀ name, Directory.roleNamed { s with permissions } name = s.roleNamed name :=
    fun _ => rfl
  have hone : InStep s₁ ↔ ∀ r ∈ seededRoles, s.roleNamed r.name = none →
      ForAccounts s (fun user => user.role = r.name → ∀ resource action,
        s.grants (s.roleIdOf user) resource action
          = decide ((resource, action) ∈ r.permissions)) := by
    have hids : ∀ user ∈ s.db.users.rows, ∀ resource action,
        s₁.grants (s₁.roleIdOf user) resource action
          = s.grants (s.roleIdOf user) resource action := by
      intro user huser resource action
      have hroleId : s₁.roleIdOf user = s.roleIdOf user := by
        unfold Directory.roleIdOf
        rw [hto.columns]
      rw [hroleId, hto.grants _ (fun r hr => (hroles r hr).users user huser), hgrants]
    have husers : s₁.db.users = s.db.users := by rw [hto.users]
    constructor
    · intro hin₁ r hr hnone user huser hactive hnot hrole resource action
      have hagree := (hin₁ user (by rw [husers]; exact huser) hactive).resolve_left hnot
      rw [← hids user huser, hagree resource action, hrole]
      exact hto.new r hr hnone resource action
    · intro hcond user huser hactive
      rw [husers] at huser
      by_cases hnot : user.role = "admin"
      · exact .inl hnot
      · refine .inr (fun resource action => ?_)
        rw [hids user huser]
        by_cases hseeded : ∃ r ∈ seededRoles, s.roleNamed r.name = none ∧ r.name = user.role
        · obtain ⟨r, hr, hnone, hname⟩ := hseeded
          rw [hcond r hr hnone user huser hactive hnot hname.symm, ← hname]
          exact (hto.new r hr hnone resource action).symm
        · have hother := hto.other user.role (fun r hr hnone hname =>
            hseeded ⟨r, hr, hnone, hname⟩) resource action
          rw [hother, hnamed]
          exact (hin user huser hactive).resolve_left hnot resource action
  rcases seedAdminUser_ok hfirst with rfl | ⟨hempty, hsame, hadmins⟩
  · exact ⟨hto.ok, hone⟩
  · -- the tables had no user: whatever is asked holds of none
    refine ⟨hsame.ok hto.ok (fun u hu => by rw [(hadmins u hu).1]; exact hadmin.notEmpty), ?_⟩
    refine iff_of_true (fun u hu _ => .inl (hadmins u hu).2) (fun r _ _ user huser => ?_)
    rw [hto.users] at hempty
    change s.db.users.rows = [] at hempty
    rw [hempty] at huser
    cases huser

end Seeding

/-! ## §6. Events and runs. -/

section Events

variable {s s' : Directory} {x : Unit}

/-- **ONE EVENT** that is carried out: the tables stay in order, and id and name stay in step
exactly if the condition holds. -/
theorem settles_event {e : DirectoryEvent} (hok : DirectoryOk s) (hin : InStep s)
    (hnew : DrawsNew s e) (h : performEvent s e = .ok (x, s')) :
    Settles s' (keepsInStep s e) := by
  cases e with
  | seed ids hashPassword => exact settles_seed hok hin hnew.1 hnew.2.1 hnew.2.2 h
  | request r =>
      obtain ⟨env, ctx, credential, op⟩ := r
      cases op with
      | createUser uuid data => exact settles_createUser hok hin hnew h
      | updateUser userId data => exact settles_updateUser hok hin h
      | deleteUser userId =>
          obtain ⟨current, sub, -, -, -, h⟩ := asUser_ok h
          obtain ⟨_, db, hdelete, rfl⟩ := onUsers_ok h
          refine settles_removed hok hin (fun u hu => ?_)
          rw [(deleteUser_ok hdelete).2.2] at hu
          exact (Table.mem_delete.mp hu).1
      | createRole uuid data => exact settles_createRole hok hin hnew h
      | updateRole roleId data => exact settles_updateRole hok h
      | deleteRole roleId => exact settles_deleteRole hok h
      | createServiceAccount uuid data => exact settles_createServiceAccount hok hin hnew h
      | updateServiceAccount accountId data => exact settles_updateServiceAccount hok hin h
      | deleteServiceAccount accountId =>
          obtain ⟨_, h⟩ := withPermission_ok h
          obtain ⟨db, rfl, hrows⟩ := deleteServiceAccount_ok h
          exact settles_removed hok hin (fun u hu => (hrows u hu).1)
      | createApiKey accountId drawn data =>
          obtain ⟨_, h⟩ := withPermission_ok h
          obtain ⟨_, h⟩ := stateOf_ok h
          obtain ⟨-, -, -, -, -, -, apiKeys, rfl, -⟩ := createApiKey_ok h
          exact ⟨⟨hok.ids, hok.names⟩, iff_of_true hin trivial⟩
      | revokeApiKey accountId keyId =>
          obtain ⟨_, h⟩ := withPermission_ok h
          obtain rfl := revokeApiKey_ok h
          exact ⟨⟨hok.ids, hok.names⟩, iff_of_true hin trivial⟩
      | editUserGroups action userGroups members =>
          obtain ⟨_, h⟩ := withPermission_ok h
          obtain ⟨-, rfl⟩ := ok_pair_inj h
          exact settles_removed hok hin (fun u hu => hu)

/-- What a run keeps. -/
structure DirectoryInv (s : Directory) : Prop where
  ok : DirectoryOk s
  inStep : InStep s

theorem eventStep_ok {e : DirectoryEvent} {out : Unit × Directory}
    (h : performEvent s e = .ok out) : eventStep s e = out.2 := by
  unfold eventStep
  rw [h]
  rfl

/-- The tables stay in order, whatever happens. -/
theorem directoryOk_step {e : DirectoryEvent} (hinv : DirectoryInv s) (hnew : DrawsNew s e) :
    DirectoryOk (eventStep s e) :=
  commitOrRollback_preserves hinv.ok
    (fun _ _ h => (settles_event hinv.ok hinv.inStep hnew h).1)

theorem directoryInv_step {e : DirectoryEvent} (hinv : DirectoryInv s) (hnew : DrawsNew s e)
    (hkeeps : KeepsInStep s e) : DirectoryInv (eventStep s e) := by
  refine ⟨directoryOk_step hinv hnew, ?_⟩
  refine commitOrRollback_preserves hinv.inStep (fun x s' h => ?_)
  exact (settles_event hinv.ok hinv.inStep hnew h).2.mpr (hkeeps ⟨_, h⟩)

/-- An event that is carried out without the condition puts an account out of step. -/
theorem not_follows_step {e : DirectoryEvent} (hinv : DirectoryInv s) (hnew : DrawsNew s e)
    (hkeeps : ¬ KeepsInStep s e) : ¬ Follows (eventStep s e) := by
  obtain ⟨⟨⟨x, s'⟩, h⟩, hnot⟩ := Classical.not_imp.mp hkeeps
  rw [follows_iff (directoryOk_step hinv hnew), eventStep_ok h]
  exact fun hin => hnot ((settles_event hinv.ok hinv.inStep hnew h).2.mp hin)

end Events

instance (s : Directory) (id : String) : Decidable (IsNewId s id) :=
  decidable_of_iff (id ≠ "" ∧ (∀ user ∈ s.db.users.rows, s.roleIdOf user ≠ some id) ∧
      ∀ rp ∈ s.rolePermissions, rp.roleId ≠ id ∧ rp.permissionId ≠ id)
    ⟨fun h => ⟨h.1, h.2.1, h.2.2⟩, fun h => ⟨h.notEmpty, h.users, h.links⟩⟩

/-- **PERMISSIONS FOLLOW THE ROLE, EXACTLY IF** every request of the run that is carried out,
and every seeding, keeps id and name in step; from empty tables, with new ids drawn. -/
theorem permissions_follow_iff (events : List DirectoryEvent)
    (hnew : Along eventStep DrawsNew {} events) :
    Always eventStep Follows {} events ↔ Along eventStep KeepsInStep {} events := by
  have h0 : DirectoryInv {} := ⟨⟨fun _ h => (nomatch h), fun _ h => (nomatch h)⟩,
    fun _ h => (nomatch h)⟩
  exact always_iff_along_of (fun _ _ hnew hinv => directoryInv_step hinv hnew)
    (fun _ hinv => (follows_iff hinv.ok).mpr hinv.inStep)
    (fun _ _ hnew hinv => not_follows_step hinv hnew) hnew h0

/-! The seeded tables, and one request of the first admin. -/

def plainIds : SeedIds where
  permission := fun p => "p-" ++ p.1 ++ "-" ++ p.2
  role := fun name => "r-" ++ name
  admin := "1"

def plainEnv : DirectoryEnv where
  hashPassword := fun password => password
  parseTime := fun _ => none
  utcnow := 0

/-- A request of the first admin. -/
def byAdmin (op : DirectoryOp) : DirectoryEvent :=
  .request { env := plainEnv, credential := .token "1", op := op }

/-- The tables after the seeding. -/
def seededTables : Directory := eventStep {} (.seed plainIds (fun password => password))

theorem drawsNew_seed : DrawsNew {} (.seed plainIds (fun password => password)) :=
  ⟨by decide +kernel, by decide +kernel, by decide +kernel⟩

theorem keepsInStep_seed : KeepsInStep {} (.seed plainIds (fun password => password)) :=
  fun _ _ _ _ _ h => (nomatch h)

/-- A service account with the id of a role keeps them in step. -/
theorem permissions_follow_account :
    Along eventStep DrawsNew {} [.seed plainIds (fun password => password),
      byAdmin (.createServiceAccount "2" { username := "ci", roleId := some "r-viewer" })] ∧
    Always eventStep Follows {} [.seed plainIds (fun password => password),
      byAdmin (.createServiceAccount "2" { username := "ci", roleId := some "r-viewer" })] := by
  have hnew : Along eventStep DrawsNew {} [.seed plainIds (fun password => password),
      byAdmin (.createServiceAccount "2" { username := "ci", roleId := some "r-viewer" })] := by
    refine ⟨drawsNew_seed, ?_, trivial⟩
    show IsNewId seededTables "2"
    decide +kernel
  refine ⟨hnew, (permissions_follow_iff _ hnew).mpr ⟨keepsInStep_seed, ?_, trivial⟩⟩
  rintro - (hnone | hempty)
  · cases hnone
  · exact absurd (Option.some.inj hempty) (by decide)

/-- A user who is made an operator may not even look at the nodes. -/
theorem operator_without_permissions :
    ¬ Always eventStep Follows {} [.seed plainIds (fun password => password),
      byAdmin (.createUser "2" { username := "bob", password := "password", role := "operator" })]
    := by
  intro h
  have hlast := h.last
  rw [run_cons, run_cons, run_nil] at hlast
  generalize htables : eventStep (eventStep {} (.seed plainIds (fun password => password)))
    (byAdmin (.createUser "2" { username := "bob", password := "password", role := "operator" }))
      = s at hlast
  have hbob : ∃ user ∈ s.db.users.rows, user.isActive = true ∧
      (∃ role ∈ s.roles.rows, role.name = user.role ∧ s.allows role.id "node" "read" = true) ∧
      (requirePermission s "node" "read" (some user.id)).isOk = false := by
    rw [← htables]
    decide +kernel
  obtain ⟨user, huser, hactive, hrole, hrefused⟩ := hbob
  obtain ⟨u, hu⟩ := (hlast user huser hactive "node" "read").mpr (.inr hrole)
  rw [hu] at hrefused
  cases hrefused

end PureBoot.Accounts
