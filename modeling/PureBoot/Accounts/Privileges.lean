/-
  PureBoot.Accounts.Privileges — can an account make itself, or another, an ADMIN?

  `users.py` lets only an admin choose a role.  The service accounts are behind the
  ordinary permissions `user:create` and `user:update`, and both handlers write the name
  of whatever role the request refers to.  An account that may create service accounts
  creates one that is an admin, and the key of that account does the rest.

  A run is a sequence of requests of accounts of a set `S`, none of them an admin, and of
  accounts and keys that the run has created.  Beside the tables it keeps which these are.

  Main results:
    * `outcome_of_request` — where an account in the tables after a request comes from;
    * `isAdmin_request`, `promoted` — who is an admin after a request of somebody else;
    * `no_escalation_iff` — the runs that leave no new admin.
-/
import PureBoot.Accounts.Permissions

namespace PureBoot.Accounts

open PureBoot.Lib PureBoot.Web

/-! ## §1. Where an account comes from. -/

/-- The account whose row a request writes. -/
def DirectoryOp.account : DirectoryOp → Option String
  | .createUser uuid _ => some uuid
  | .updateUser userId _ => some userId
  | .deleteUser userId => some userId
  | .createServiceAccount uuid _ => some uuid
  | .updateServiceAccount accountId _ => some accountId
  | .deleteServiceAccount accountId => some accountId
  | _ => none

/-- The user of a request with a token. -/
structure Acts (s : Directory) (credential : Credential) (current : User) : Prop where
  mem : current ∈ s.db.users.rows
  token : credential = .token current.id

/-- An account after a request that was carried out: the request has not written it, or it
is what the request has made of it. -/
inductive Outcome (s : Directory) (r : DirectoryRequest) (u : User) : Prop where
  | kept (mem : u ∈ s.db.users.rows) (other : r.op.account ≠ some u.id)
  | created {current : User} {data : UserCreate} (op : r.op = .createUser u.id data)
      (acts : Acts s r.credential current) (admin : current.role = "admin")
  | updated {current v : User} {data : UserUpdate} (op : r.op = .updateUser u.id data)
      (acts : Acts s r.credential current) (mem : v ∈ s.db.users.rows) (id : v.id = u.id)
      (role : u.role = data.role.getD v.role) (active : u.isActive = data.isActive.getD v.isActive)
      (plain : current.role ≠ "admin" → data.role = none)
  | accountCreated {data : ServiceAccountCreate} (op : r.op = .createServiceAccount u.id data)
      (role : s.initialRole data.roleId = .ok u.role)
  | accountUpdated {v : User} {data : ServiceAccountUpdate} {roleId : Option String}
      (op : r.op = .updateServiceAccount u.id data) (mem : v ∈ s.db.users.rows)
      (id : v.id = u.id) (role : s.updateRoleOf v data.roleId = .ok (u.role, roleId))
      (active : u.isActive = data.isActive.getD v.isActive)

section Outcomes

variable {s s' : Directory} {r : DirectoryRequest} {x : Unit} {u : User}

/-- A request that writes no account leaves each as it is. -/
theorem Outcome.of_no_account (hu : u ∈ s.db.users.rows) (hop : r.op.account = none) :
    Outcome s r u := by
  refine .kept hu ?_
  rw [hop]
  exact fun heq => nomatch heq

/-- What the handlers of roles leave alone. -/
structure SameAccounts (s s' : Directory) : Prop where
  db : s'.db = s.db
  columns : s'.columns = s.columns
  apiKeys : s'.apiKeys = s.apiKeys

theorem createRole_same {uuid : String} {data : RoleCreate} {role : Role}
    (h : createRole s uuid data = .ok (role, s')) : SameAccounts s s' := by
  unfold createRole at h
  obtain ⟨-, h⟩ := ite_error_eq_ok.mp h
  split at h
  next => cases h
  next roles hins =>
    obtain ⟨s₁, hlink, h⟩ := bind_eq_ok.mp h
    obtain ⟨-, rfl⟩ := ok_pair_inj h
    rw [link_ok hlink]
    exact ⟨rfl, rfl, rfl⟩

theorem updateRole_same {roleId : String} {data : RoleUpdate} {role : Role}
    (h : updateRole s roleId data = .ok (role, s')) : SameAccounts s s' := by
  unfold updateRole at h
  split at h
  next => cases h
  next role₀ hget =>
    obtain ⟨-, h⟩ := ite_error_eq_ok.mp h
    obtain ⟨-, h⟩ := ite_error_eq_ok.mp h
    obtain ⟨s₁, hrelink, h⟩ := bind_eq_ok.mp h
    obtain ⟨-, rfl⟩ := ok_pair_inj h
    obtain ⟨rolePermissions, rfl, -⟩ := relink_ok hrelink
    exact ⟨rfl, rfl, rfl⟩

theorem deleteRole_same {roleId : String} (h : deleteRole s roleId = .ok (x, s')) :
    SameAccounts s s' := by
  unfold deleteRole at h
  split at h
  next => cases h
  next role hget =>
    obtain ⟨-, h⟩ := ite_error_eq_ok.mp h
    obtain ⟨-, rfl⟩ := ok_pair_inj h
    exact ⟨rfl, rfl, rfl⟩

theorem outcome_createUser {uuid : String} {data : UserCreate} {current user : User} {db : DB}
    (hop : r.op = .createUser uuid data) (hacts : Acts s r.credential current)
    (h : createUser r.env.hashPassword r.ctx s.db current uuid data = .ok (user, db))
    (hu : u ∈ db.users.rows) : Outcome s r u := by
  obtain ⟨hadmin, hid, -, -, hrows, hfresh, -⟩ := createUser_user h
  rw [hrows, List.mem_append, List.mem_singleton] at hu
  rcases hu with hold | rfl
  · refine .kept hold ?_
    rw [hop, ← hid]
    exact fun heq => hfresh u hold (Option.some.inj heq).symm
  · exact .created (hid ▸ hop) hacts hadmin

theorem outcome_updateUser {userId : String} {data : UserUpdate} {current user' : User} {db : DB}
    (hop : r.op = .updateUser userId data) (hacts : Acts s r.credential current)
    (h : updateUser r.ctx s.db current userId data = .ok (user', db))
    (hu : u ∈ db.users.rows) : Outcome s r u := by
  obtain ⟨user, huser, rfl, hupdated, hrows, hplain, -⟩ := updateUser_ok h
  rw [hrows, mem_save huser hupdated.id] at hu
  rcases hu with rfl | ⟨hold, hne⟩
  · rw [← hupdated.id] at hop
    exact .updated hop hacts huser hupdated.id.symm hupdated.role hupdated.isActive
      (fun hnot => (hplain hnot).1)
  · refine .kept hold ?_
    rw [hop]
    exact fun heq => hne (Option.some.inj heq).symm

theorem outcome_createServiceAccount {uuid : String} {data : ServiceAccountCreate}
    {current account : User} (hop : r.op = .createServiceAccount uuid data)
    (h : createServiceAccount r.env s current uuid data = .ok (account, s'))
    (hu : u ∈ s'.db.users.rows) : Outcome s r u := by
  obtain ⟨rfl, -, hrole, ⟨db, c, rfl, -, hrows⟩, hfresh, -⟩ := createServiceAccount_ok h
  change u ∈ db.users.rows at hu
  rw [hrows, List.mem_append, List.mem_singleton] at hu
  rcases hu with hold | rfl
  · refine .kept hold ?_
    rw [hop]
    exact fun heq => hfresh u hold (Option.some.inj heq).symm
  · exact .accountCreated hop hrole

theorem outcome_updateServiceAccount {accountId : String} {data : ServiceAccountUpdate}
    {account' : User} (hop : r.op = .updateServiceAccount accountId data)
    (h : updateServiceAccount r.env s accountId data = .ok (account', s'))
    (hu : u ∈ s'.db.users.rows) : Outcome s r u := by
  obtain ⟨account, haccount, rfl, hid, hactive, roleId, c, hrole, -, rfl, -⟩ :=
    updateServiceAccount_ok h
  change u ∈ (s.db.save account').users.rows at hu
  rw [mem_save haccount hid] at hu
  rcases hu with rfl | ⟨hold, hne⟩
  · rw [← hid] at hop
    exact .accountUpdated hop haccount hid.symm hrole hactive
  · refine .kept hold ?_
    rw [hop]
    exact fun heq => hne (Option.some.inj heq).symm

/-- **WHERE AN ACCOUNT COMES FROM**, one case for each kind of request. -/
theorem outcome_of_request (h : performRequest s r = .ok (x, s')) (hu : u ∈ s'.db.users.rows) :
    Outcome s r u := by
  cases performed h with
  | createUser op actor mem ok => exact outcome_createUser op ⟨mem, actor⟩ ok hu
  | updateUser op actor mem ok => exact outcome_updateUser op ⟨mem, actor⟩ ok hu
  | deleteUser op ok =>
      rw [(deleteUser_ok ok).2.2, Table.mem_delete, decide_eq_false_iff_not] at hu
      refine .kept hu.1 ?_
      rw [op]
      exact fun heq => hu.2 (Option.some.inj heq).symm
  | createServiceAccount op ok => exact outcome_createServiceAccount op ok hu
  | updateServiceAccount op ok => exact outcome_updateServiceAccount op ok hu
  | deleteServiceAccount op ok =>
      obtain ⟨db, rfl, hrows⟩ := deleteServiceAccount_ok ok
      refine .kept (hrows u hu).1 ?_
      rw [op]
      exact fun heq => (hrows u hu).2 (Option.some.inj heq).symm
  -- roles, keys and groups leave every user as it is
  | createRole op ok =>
      rw [(createRole_same ok).db] at hu
      exact .of_no_account hu (by rw [op]; rfl)
  | updateRole op ok =>
      rw [(updateRole_same ok).db] at hu
      exact .of_no_account hu (by rw [op]; rfl)
  | deleteRole op ok =>
      rw [(deleteRole_same ok).db] at hu
      exact .of_no_account hu (by rw [op]; rfl)
  | createApiKey op ok =>
      obtain ⟨-, -, -, -, -, -, apiKeys, rfl, -⟩ := createApiKey_ok ok
      exact .of_no_account hu (by rw [op]; rfl)
  | revokeApiKey op ok =>
      rw [revokeApiKey_ok ok] at hu
      exact .of_no_account hu (by rw [op]; rfl)
  | editUserGroups op => exact .of_no_account hu (by rw [op]; rfl)

end Outcomes

/-! ## §2. Who becomes an admin. -/

/-- The account has the role of the admins. -/
def IsAdmin (s : Directory) (id : String) : Prop :=
  ∃ user ∈ s.db.users.rows, user.id = id ∧ user.role = "admin"

/-- The request refers to the role of the admins. -/
def RefersToAdmin (s : Directory) (roleId : Option String) : Prop :=
  ∃ role ∈ s.roles.rows, role.name = "admin" ∧ roleId = some role.id

/-- The request gives the account the role of the admins. -/
def Promotes (s : Directory) (id : String) : DirectoryOp → Prop
  -- an empty id is none
  | .createServiceAccount uuid data =>
      uuid = id ∧ data.roleId ≠ some "" ∧ RefersToAdmin s data.roleId
  | .updateServiceAccount accountId data => accountId = id ∧ RefersToAdmin s data.roleId
  | _ => False

section Promotion

variable {s s' : Directory} {r : DirectoryRequest} {x : Unit} {id : String}

theorem refersToAdmin_of_initialRole {roleId : Option String}
    (h : s.initialRole roleId = .ok "admin") : roleId ≠ some "" ∧ RefersToAdmin s roleId := by
  rcases initialRole_ok h with ⟨-, hviewer⟩ | ⟨role, hrole, hne, rfl, hname⟩
  · exact absurd hviewer (by decide)
  · exact ⟨fun heq => hne (Option.some.inj heq), role, hrole, hname.symm, rfl⟩

/-- **NO ADMIN FROM NOWHERE**: after a request that no admin has sent with a token, the
admins are those from before, and the account it has promoted. -/
theorem isAdmin_request (h : performRequest s r = .ok (x, s'))
    (hactor : ∀ sub, r.credential = .token sub → ¬ IsAdmin s sub) (hid : IsAdmin s' id) :
    IsAdmin s id ∨ Promotes s id r.op := by
  obtain ⟨u, hu, rfl, hadmin⟩ := hid
  cases outcome_of_request h hu with
  | kept hmem => exact .inl ⟨u, hmem, rfl, hadmin⟩
  | created hop hacts hcurrent =>
      exact absurd ⟨_, hacts.mem, rfl, hcurrent⟩ (hactor _ hacts.token)
  | updated hop hacts hmem hid hrole _ hplain =>
      -- who is no admin does not set the role
      have hnone := hplain (fun hcurrent => hactor _ hacts.token ⟨_, hacts.mem, rfl, hcurrent⟩)
      rw [hnone, hadmin] at hrole
      exact .inl ⟨_, hmem, hid, hrole.symm⟩
  | accountCreated hop hrole =>
      rw [hadmin] at hrole
      refine .inr ?_
      rw [hop]
      exact ⟨rfl, refersToAdmin_of_initialRole hrole⟩
  | accountUpdated hop hmem hid hrole =>
      rw [hadmin] at hrole
      rcases updateRoleOf_ok hrole with ⟨-, hsame, -⟩ | ⟨role, hrow, hgiven, hname, -⟩
      · exact .inl ⟨_, hmem, hid, hsame.symm⟩
      · refine .inr ?_
        rw [hop]
        exact ⟨rfl, role, hrow, hname.symm, hgiven⟩

theorem RefersToAdmin.name {role : Role} (h : RefersToAdmin s (some role.id))
    (hmem : role ∈ s.roles.rows) : role.name = "admin" := by
  obtain ⟨row, hrow, hname, hid⟩ := h
  rw [s.roles.eq_of_key_eq hmem hrow (Option.some.inj hid), hname]

theorem RefersToAdmin.initialRole {roleId : Option String} (h : RefersToAdmin s roleId)
    (hne : roleId ≠ some "") {name : String} (hrole : s.initialRole roleId = .ok name) :
    name = "admin" := by
  rcases initialRole_ok hrole with ⟨hnone | hempty, -⟩ | ⟨role, hmem, -, rfl, rfl⟩
  · obtain ⟨row, -, -, hsome⟩ := h
    rw [hnone] at hsome
    cases hsome
  · exact absurd hempty hne
  · exact h.name hmem

theorem RefersToAdmin.updateRoleOf {given roleId : Option String} (h : RefersToAdmin s given)
    {account : User} {name : String} (hrole : s.updateRoleOf account given = .ok (name, roleId)) :
    name = "admin" := by
  rcases updateRoleOf_ok hrole with ⟨hnone, -⟩ | ⟨role, hmem, rfl, rfl, -⟩
  · obtain ⟨row, -, -, hsome⟩ := h
    rw [hnone] at hsome
    cases hsome
  · exact h.name hmem

/-- **THE PROMOTED ACCOUNT IS AN ADMIN.** -/
theorem promoted (h : performRequest s r = .ok (x, s')) (hpromotes : Promotes s id r.op) :
    IsAdmin s' id := by
  cases performed h with
  | createServiceAccount op ok =>
      rw [op] at hpromotes
      obtain ⟨rfl, hne, hadmin⟩ := hpromotes
      obtain ⟨hid, -, hrole, ⟨db, c, rfl, -, hrows⟩, -⟩ := createServiceAccount_ok ok
      refine ⟨_, ?_, hid, hadmin.initialRole hne hrole⟩
      show _ ∈ db.users.rows
      rw [hrows]
      exact List.mem_append_right _ List.mem_cons_self
  | updateServiceAccount op ok =>
      rw [op] at hpromotes
      obtain ⟨rfl, hadmin⟩ := hpromotes
      obtain ⟨account, haccount, hid, hid', -, roleId, c, hrole, -, rfl, -⟩ :=
        updateServiceAccount_ok ok
      exact ⟨_, (mem_save haccount hid').mpr (.inl rfl), hid'.trans hid,
        hadmin.updateRoleOf hrole⟩
  | _ op =>
      rw [op] at hpromotes
      exact hpromotes.elim

end Promotion

/-! ## §3. Runs of accounts that are no admins. -/

/-- The tables, with the accounts and the keys that the run has created. -/
structure Delegation where
  tables : Directory
  accounts : List String := []
  keys : List String := []

/-- The accounts a request creates. -/
def DirectoryOp.newAccounts : DirectoryOp → List String
  | .createUser uuid _ => [uuid]
  | .createServiceAccount uuid _ => [uuid]
  | _ => []

/-- The keys a request creates. -/
def DirectoryOp.newKeys : DirectoryOp → List String
  | .createApiKey _ drawn _ => [drawn.id]
  | _ => []

/-- One request; what it creates is recorded if it is carried out. -/
def delegationStep (d : Delegation) (r : DirectoryRequest) : Delegation :=
  commitOrRollback d ((performRequest d.tables r).map (fun out => (out.1,
    { tables := out.2, accounts := d.accounts ++ r.op.newAccounts
      keys := d.keys ++ r.op.newKeys })))

/-- The request is authenticated by an account of `S`, by one that the run has created, by a
key of these, or by a key that the run has created. -/
def AuthenticatedBy (S : Set String) (d : Delegation) (r : DirectoryRequest) : Prop :=
  match r.credential with
  | .token sub => sub ∈ S ∨ sub ∈ d.accounts
  | .apiKey keyId => keyId ∈ d.keys ∨ ∃ key ∈ d.tables.apiKeys.rows, key.id = keyId ∧
      (key.serviceAccountId ∈ S ∨ key.serviceAccountId ∈ d.accounts)

/-- The ids of the accounts that a request creates are those of no account of `s₀`. -/
def DrawsUnused (s₀ : Directory) (r : DirectoryRequest) : Prop :=
  ∀ id ∈ r.op.newAccounts, ∀ user ∈ s₀.db.users.rows, user.id ≠ id

/-- **NO NEW ADMIN.** -/
def NoNewAdmin (s₀ s : Directory) : Prop := ∀ id, IsAdmin s id → IsAdmin s₀ id

/-- The request is carried out, and promotes an account that was no admin. -/
def Escalates (s₀ s : Directory) (r : DirectoryRequest) : Prop :=
  (∃ out, performRequest s r = .ok out) ∧ ∃ id, Promotes s id r.op ∧ ¬ IsAdmin s₀ id

section Runs

variable {s₀ : Directory} {S : Set String} {d : Delegation} {r : DirectoryRequest}

/-- What a run keeps. -/
structure DelegationInv (s₀ : Directory) (d : Delegation) : Prop where
  noNewAdmin : NoNewAdmin s₀ d.tables
  accounts : ∀ id ∈ d.accounts, ¬ IsAdmin s₀ id

/-- What a request of the run is. -/
structure Allowed (S : Set String) (s₀ : Directory) (d : Delegation) (r : DirectoryRequest) :
    Prop where
  authenticated : AuthenticatedBy S d r
  unused : DrawsUnused s₀ r

theorem delegationStep_ok {x : Unit} {s' : Directory}
    (h : performRequest d.tables r = .ok (x, s')) :
    delegationStep d r = { tables := s', accounts := d.accounts ++ r.op.newAccounts
                           keys := d.keys ++ r.op.newKeys } := by
  unfold delegationStep
  rw [h]
  rfl

theorem delegationStep_error {e : Exn} (h : performRequest d.tables r = .error e) :
    delegationStep d r = d := by
  unfold delegationStep
  rw [h]
  rfl

/-- Nobody in the run has a token of an admin. -/
theorem no_admin_acts (hS : ∀ id ∈ S, ¬ IsAdmin s₀ id) (hinv : DelegationInv s₀ d)
    (hauth : AuthenticatedBy S d r) (sub : String) (htoken : r.credential = .token sub) :
    ¬ IsAdmin d.tables sub := by
  intro hadmin
  have hbefore := hinv.noNewAdmin sub hadmin
  unfold AuthenticatedBy at hauth
  rw [htoken] at hauth
  rcases hauth with hmem | hcreated
  · exact hS sub hmem hbefore
  · exact hinv.accounts sub hcreated hbefore

theorem newAccounts_unused (h : DrawsUnused s₀ r) {id : String} (hid : id ∈ r.op.newAccounts) :
    ¬ IsAdmin s₀ id := by
  rintro ⟨user, huser, heq, -⟩
  exact h id hid user huser heq

theorem delegationInv_step (hS : ∀ id ∈ S, ¬ IsAdmin s₀ id) (hr : Allowed S s₀ d r)
    (hinv : DelegationInv s₀ d) (hkeeps : ¬ Escalates s₀ d.tables r) :
    DelegationInv s₀ (delegationStep d r) := by
  cases h : performRequest d.tables r with
  | error e =>
      rw [delegationStep_error h]
      exact hinv
  | ok out =>
      obtain ⟨x, s'⟩ := out
      rw [delegationStep_ok h]
      constructor
      · intro id hid
        rcases isAdmin_request h (no_admin_acts hS hinv hr.authenticated) hid with hold | hnew
        · exact hinv.noNewAdmin id hold
        · by_contra hnot
          exact hkeeps ⟨⟨_, h⟩, id, hnew, hnot⟩
      · intro id hid
        rcases List.mem_append.mp hid with hold | hnew
        · exact hinv.accounts id hold
        · exact newAccounts_unused hr.unused hnew

/-- One escalation is enough. -/
theorem newAdmin_of_escalates (h : Escalates s₀ d.tables r) :
    ¬ NoNewAdmin s₀ (delegationStep d r).tables := by
  obtain ⟨⟨⟨x, s'⟩, hok⟩, id, hpromotes, hnot⟩ := h
  rw [delegationStep_ok hok]
  exact fun hnone => hnot (hnone id (promoted hok hpromotes))

end Runs

/-- **NO ESCALATION TO ADMIN, EXACTLY IF** no request that is carried out creates or updates a
service account with the role of the admins, unless the account was an admin at the start;
from any tables, for requests of accounts that are no admins and of what they create. -/
theorem no_escalation_iff (s₀ : Directory) (S : Set String) (requests : List DirectoryRequest)
    (hS : ∀ id ∈ S, ¬ IsAdmin s₀ id)
    (hrun : Along delegationStep (Allowed S s₀) { tables := s₀ } requests) :
    Always delegationStep (fun d => NoNewAdmin s₀ d.tables) { tables := s₀ } requests ↔
      Along delegationStep (fun d r => ¬ Escalates s₀ d.tables r) { tables := s₀ } requests := by
  have h0 : DelegationInv s₀ { tables := s₀ } := ⟨fun _ h => h, fun _ h => (nomatch h)⟩
  exact always_iff_along_of (fun _ _ hr hinv => delegationInv_step hS hr hinv)
    (fun _ hinv => hinv.noNewAdmin)
    (fun _ _ _ _ hbad => newAdmin_of_escalates (not_not.mp hbad)) hrun h0

/-! A helpdesk that may create service accounts, and its key. -/

/-- The seeded tables, with a role `helpdesk`, an account of it and a key of the account. -/
def helpdeskTables : Directory :=
  run eventStep seededTables
    [byAdmin (.createRole "r-helpdesk"
       { name := "helpdesk", permissionIds := ["p-user-create", "p-user-update"] }),
     byAdmin (.createServiceAccount "2" { username := "desk", roleId := some "r-helpdesk" }),
     byAdmin (.createApiKey "2" { id := "k", keyPrefix := ['k'], keyHash := ['h'] }
       { name := "desk" })]

/-- The helpdesk creates a service account. -/
def byHelpdesk (roleId : String) : DirectoryRequest where
  env := plainEnv
  credential := .apiKey "k"
  op := .createServiceAccount "3" { username := "ci", roleId := some roleId }

/-- What the tables hold: they are evaluated once. -/
theorem helpdeskTables_hold :
    (∀ user ∈ helpdeskTables.db.users.rows, user.id = "2" → user.role ≠ "admin") ∧
    (∀ user ∈ helpdeskTables.db.users.rows, user.id ≠ "3") ∧
    (∃ key ∈ helpdeskTables.apiKeys.rows, key.id = "k" ∧ key.serviceAccountId = "2") ∧
    (∀ role ∈ helpdeskTables.roles.rows, role.id = "r-viewer" → role.name ≠ "admin") ∧
    ∀ seeded ∈ seededRoles, ∃ role ∈ helpdeskTables.roles.rows, role.name = seeded.name := by
  decide +kernel

theorem helpdesk_no_admin : ∀ id ∈ ({"2"} : Set String), ¬ IsAdmin helpdeskTables id := by
  rintro _ rfl ⟨user, huser, hid, hrole⟩
  exact helpdeskTables_hold.1 user huser hid hrole

theorem helpdesk_allowed (roleId : String) :
    Along delegationStep (Allowed {"2"} helpdeskTables) { tables := helpdeskTables }
      [byHelpdesk roleId] := by
  obtain ⟨-, hunused, ⟨key, hmem, hid, haccount⟩, -⟩ := helpdeskTables_hold
  refine ⟨⟨.inr ⟨key, hmem, hid, .inl haccount⟩, ?_⟩, trivial⟩
  intro id hid
  obtain rfl := List.mem_singleton.mp hid
  exact hunused

/-- A service account with the role of the viewers is no escalation. -/
theorem no_escalation_viewer :
    (∀ id ∈ ({"2"} : Set String), ¬ IsAdmin helpdeskTables id) ∧
    Along delegationStep (Allowed {"2"} helpdeskTables) { tables := helpdeskTables }
      [byHelpdesk "r-viewer"] ∧
    Always delegationStep (fun d => NoNewAdmin helpdeskTables d.tables)
      { tables := helpdeskTables } [byHelpdesk "r-viewer"] := by
  refine ⟨helpdesk_no_admin, helpdesk_allowed _,
    (no_escalation_iff _ _ _ helpdesk_no_admin (helpdesk_allowed _)).mpr ⟨?_, trivial⟩⟩
  rintro ⟨-, id, ⟨-, -, role, hrole, hname, hid⟩, -⟩
  obtain ⟨-, -, -, hviewer, -⟩ := helpdeskTables_hold
  exact hviewer role hrole (Option.some.inj hid).symm hname

/-- The helpdesk creates an admin. -/
theorem helpdesk_creates_admin :
    (∀ seeded ∈ seededRoles, ∃ role ∈ helpdeskTables.roles.rows, role.name = seeded.name) ∧
    (∀ id ∈ ({"2"} : Set String), ¬ IsAdmin helpdeskTables id) ∧
    Along delegationStep (Allowed {"2"} helpdeskTables) { tables := helpdeskTables }
      [byHelpdesk "r-admin"] ∧
    ¬ Always delegationStep (fun d => NoNewAdmin helpdeskTables d.tables)
      { tables := helpdeskTables } [byHelpdesk "r-admin"] := by
  obtain ⟨-, hunused, -, -, hseeded⟩ := helpdeskTables_hold
  refine ⟨hseeded, helpdesk_no_admin, helpdesk_allowed _, fun h => ?_⟩
  have hnew : ∃ user ∈ (delegationStep { tables := helpdeskTables }
      (byHelpdesk "r-admin")).tables.db.users.rows, user.id = "3" ∧ user.role = "admin" := by
    decide +kernel
  have hlast := h.last
  rw [run_cons, run_nil] at hlast
  obtain ⟨user, huser, hid, -⟩ := hlast "3" hnew
  exact hunused user huser hid

end PureBoot.Accounts
