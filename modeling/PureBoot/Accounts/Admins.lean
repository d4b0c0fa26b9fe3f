/-
  PureBoot.Accounts.Admins — is there always an ADMINISTRATOR who can log in?

  Three checks of `api/routes/users.py` are there for this.  A request that writes
  another user is made by an active admin, who stays; so only what an admin does to
  their own account matters, and there deletion is refused and deactivation counts the
  active admins.  Demotion counts ALL admins: the last active one may step down as long
  as a disabled admin is left.

  Main results:
    * `hasAdmin_exec`, `not_hasAdmin_exec` — one request;
    * `admin_remains_iff` — whole runs.
-/
import PureBoot.Accounts.Users

namespace PureBoot.Accounts

open PureBoot.Lib PureBoot.Web

/-! ## §1. What a request does to the users. -/

/-- The current user is an active user of the table. -/
theorem getCurrentUser_ok {env : AuthEnv} {db : DB} {authorization : Option (List Char)}
    {current : User} (h : getCurrentUser env db authorization = .ok current) :
    current ∈ db.users.rows ∧ current.isActive = true := by
  unfold getCurrentUser at h
  split at h
  next => cases h
  next header =>
    split at h
    next => cases h
    next =>
      split at h
      next => cases h
      next => cases h
      next payload =>
        split at h
        next => cases h
        next sub =>
          split at h
          next => cases h
          next user huser =>
            split at h
            next => cases h
            next hactive =>
              injection h with h
              subst h
              exact ⟨(Table.get?_eq_some_iff.mp huser).1, by simpa using hactive⟩

theorem createUser_ok {hashPassword : String → String} {ctx : RequestContext} {db db' : DB}
    {current user : User} {uuid : String} {data : UserCreate}
    (h : createUser hashPassword ctx db current uuid data = .ok (user, db')) :
    db'.users.rows = db.users.rows ++ [user] := by
  unfold createUser at h
  obtain ⟨-, h⟩ := ite_error_eq_ok.mp h
  obtain ⟨-, h⟩ := ite_error_eq_ok.mp h
  obtain ⟨-, h⟩ := ite_error_eq_ok.mp h
  obtain ⟨-, h⟩ := ite_error_eq_ok.mp h
  obtain ⟨-, h⟩ := ite_error_eq_ok.mp h
  obtain ⟨db₁, hadd, h⟩ := bind_eq_ok.mp h
  obtain ⟨rfl, rfl⟩ := ok_pair_inj h
  unfold DB.addUser at hadd
  obtain ⟨-, hadd⟩ := ite_error_eq_ok.mp hadd
  split at hadd
  next users hinsert =>
    injection hadd with hadd
    rw [← hadd]
    exact (Table.insert?_eq_some_iff.mp hinsert).2
  next => cases hadd

theorem deleteUser_ok {ctx : RequestContext} {db db' : DB} {current : User} {userId : String}
    {u : Unit} (h : deleteUser ctx db current userId = .ok (u, db')) :
    current.role = "admin" ∧ current.id ≠ userId ∧
      db'.users = db.users.delete (fun u => u.id = userId) := by
  unfold deleteUser at h
  obtain ⟨hadmin, h⟩ := ite_error_eq_ok.mp h
  obtain ⟨hself, h⟩ := ite_error_eq_ok.mp h
  split at h
  next => cases h
  next user huser =>
    obtain ⟨-, h⟩ := ite_error_eq_ok.mp h
    obtain ⟨-, rfl⟩ := ok_pair_inj h
    exact ⟨not_not.mp hadmin, hself, rfl⟩

/-- The email of an update is not that of another user. -/
def emailFree (db : DB) (userId : String) (email : Option String) : Bool :=
  email.all (fun email =>
    email = "" || db.users.rows.all (fun u => u.email ≠ some email || u.id = userId))

/-- The parts of `update_user` that went through, for a user that is now `user'`. -/
structure Updated (db : DB) (data : UserUpdate) (user user' : User) : Prop where
  id : user'.id = user.id
  role : user'.role = data.role.getD user.role
  isActive : user'.isActive = data.isActive.getD user.isActive
  free : emailFree db user.id data.email = true
  valid : ∀ role, data.role = some role → role ∈ validRoles
  demoted : user.role = "admin" → user'.role ≠ "admin" → 1 < db.adminCount
  disabled : user'.role = "admin" → data.isActive = some false →
    ∃ u ∈ db.users.rows, u.role = "admin" ∧ u.isActive = true ∧ u.id ≠ user.id

theorem applyEmail_ok {db : DB} {user user' : User} {email : Option String}
    (h : applyEmail db user email = .ok user') :
    user'.id = user.id ∧ user'.role = user.role ∧ user'.isActive = user.isActive ∧
      emailFree db user.id email = true := by
  unfold applyEmail at h
  split at h
  next =>
    injection h with h
    subst h
    exact ⟨rfl, rfl, rfl, rfl⟩
  next email =>
    split at h
    next => cases h
    next htaken =>
      injection h with h
      subst h
      refine ⟨rfl, rfl, rfl, ?_⟩
      by_cases hempty : email = ""
      · simp [emailFree, hempty]
      · simpa [emailFree, hempty, not_or, imp_iff_not_or] using htaken

/-- An email that nobody else has is taken. -/
theorem applyEmail_of_free {db : DB} {user : User} {email : Option String}
    (h : emailFree db user.id email = true) : ∃ user', applyEmail db user email = .ok user' := by
  cases email with
  | none => exact ⟨user, rfl⟩
  | some email =>
      have hfree : ¬ (email ≠ "" ∧
          db.users.rows.any (fun u => u.email = some email && u.id ≠ user.id) = true) := by
        simpa [emailFree, imp_iff_not_or] using h
      exact ⟨{ user with email := if email = "" then none else some email }, if_neg hfree⟩

theorem applyRole_ok {db : DB} {user user' : User} {role : Option String}
    (h : applyRole db user role = .ok user') :
    user'.id = user.id ∧ user'.role = role.getD user.role ∧ user'.isActive = user.isActive ∧
      (∀ r, role = some r → r ∈ validRoles) ∧
      (user.role = "admin" → user'.role ≠ "admin" → 1 < db.adminCount) := by
  unfold applyRole at h
  split at h
  next =>
    injection h with h
    subst h
    exact ⟨rfl, rfl, rfl, nofun, fun hadmin hnot => absurd hadmin hnot⟩
  next role =>
    split at h
    next => cases h
    next hvalid =>
      split at h
      next => cases h
      next hlast =>
        injection h with h
        subst h
        refine ⟨rfl, rfl, rfl, ?_, fun hadmin hnot => ?_⟩
        · intro r hr
          rw [← Option.some.inj hr]
          exact not_not.mp hvalid
        by_contra hcount
        exact hlast ⟨hadmin, hnot, Nat.le_of_not_lt hcount⟩

theorem applyActive_ok {db : DB} {user user' : User} {isActive : Option Bool}
    (h : applyActive db user isActive = .ok user') :
    user'.id = user.id ∧ user'.role = user.role ∧ user'.isActive = isActive.getD user.isActive ∧
      (user'.role = "admin" → isActive = some false → 1 < db.activeAdminCount) := by
  unfold applyActive at h
  split at h
  next =>
    injection h with h
    subst h
    exact ⟨rfl, rfl, rfl, fun _ hfalse => by cases hfalse⟩
  next isActive =>
    split at h
    next => cases h
    next hlast =>
      injection h with h
      subst h
      refine ⟨rfl, rfl, rfl, fun hadmin hfalse => ?_⟩
      by_contra hcount
      exact hlast ⟨hadmin, Option.some.inj hfalse, Nat.le_of_not_lt hcount⟩

/-- None of the parts touches what decides a login. -/
theorem applyEmail_sameLogin {db : DB} {user user' : User} {email : Option String}
    (h : applyEmail db user email = .ok user') : SameLogin user user' := by
  unfold applyEmail at h
  split at h
  next =>
    cases h
    exact ⟨rfl, rfl, rfl, rfl⟩
  next email =>
    obtain ⟨-, h⟩ := ite_error_eq_ok.mp h
    cases h
    exact ⟨rfl, rfl, rfl, rfl⟩

theorem applyRole_sameLogin {db : DB} {user user' : User} {role : Option String}
    (h : applyRole db user role = .ok user') : SameLogin user user' := by
  unfold applyRole at h
  split at h
  next =>
    cases h
    exact ⟨rfl, rfl, rfl, rfl⟩
  next role =>
    obtain ⟨-, h⟩ := ite_error_eq_ok.mp h
    obtain ⟨-, h⟩ := ite_error_eq_ok.mp h
    cases h
    exact ⟨rfl, rfl, rfl, rfl⟩

theorem applyActive_sameLogin {db : DB} {user user' : User} {isActive : Option Bool}
    (h : applyActive db user isActive = .ok user') : SameLogin user user' := by
  unfold applyActive at h
  split at h
  next =>
    cases h
    exact ⟨rfl, rfl, rfl, rfl⟩
  next isActive =>
    obtain ⟨-, h⟩ := ite_error_eq_ok.mp h
    cases h
    exact ⟨rfl, rfl, rfl, rfl⟩

/-- A row of the table after one row was overwritten. -/
theorem mem_save {db : DB} {user user' u : User} (huser : user ∈ db.users.rows)
    (hid : user'.id = user.id) :
    u ∈ (db.save user').users.rows ↔ u = user' ∨ (u ∈ db.users.rows ∧ u.id ≠ user.id) := by
  rw [← hid]
  exact Table.mem_put_iff ⟨user, huser, hid.symm⟩

theorem updateUser_ok {ctx : RequestContext} {db db' : DB} {current user' : User}
    {userId : String} {data : UserUpdate}
    (h : updateUser ctx db current userId data = .ok (user', db')) :
    ∃ user, user ∈ db.users.rows ∧ user.id = userId ∧ Updated db data user user' ∧
      db'.users = (db.save user').users ∧
      (current.role ≠ "admin" → data.role = none ∧ data.isActive = none) ∧
      SameLogin user user' := by
  have haudited : ∀ (user : User) (db₁ : DB),
      (updateUser.audited ctx data user db₁).users = db₁.users := by
    intro user db₁
    unfold updateUser.audited
    split <;> rfl
  unfold updateUser at h
  split at h
  next => cases h
  next =>
    split at h
    next => cases h
    next user hget =>
      obtain ⟨huser, hid⟩ := Table.get?_eq_some_iff.mp hget
      split at h
      next hrole =>
        split at h
        next => cases h
        next hnone =>
          obtain ⟨user₁, hemail, h⟩ := bind_eq_ok.mp h
          obtain ⟨rfl, rfl⟩ := ok_pair_inj h
          obtain ⟨hid₁, hrole₁, hactive₁, hfree⟩ := applyEmail_ok hemail
          obtain ⟨hdata, hdata'⟩ : data.role = none ∧ data.isActive = none := by
            simpa [not_or] using hnone
          refine ⟨user, huser, hid, ⟨hid₁, ?_, ?_, hfree, ?_, ?_, ?_⟩, haudited _ _,
            fun _ => ⟨hdata, hdata'⟩, applyEmail_sameLogin hemail⟩
          · rw [hdata, hrole₁]
            rfl
          · rw [hdata', hactive₁]
            rfl
          · intro role hr
            rw [hdata] at hr
            cases hr
          · intro hadmin hnot
            rw [hrole₁] at hnot
            exact absurd hadmin hnot
          · intro _ hfalse
            rw [hdata'] at hfalse
            cases hfalse
      next hadmin =>
        obtain ⟨user₁, hemail, h⟩ := bind_eq_ok.mp h
        obtain ⟨user₂, hrole, h⟩ := bind_eq_ok.mp h
        obtain ⟨user₃, hactive, h⟩ := bind_eq_ok.mp h
        obtain ⟨rfl, rfl⟩ := ok_pair_inj h
        obtain ⟨hid₁, hrole₁, hactive₁, hfree⟩ := applyEmail_ok hemail
        obtain ⟨hid₂, hrole₂, hactive₂, hvalid, hdemote⟩ := applyRole_ok hrole
        obtain ⟨hid₃, hrole₃, hactive₃, hdisable⟩ := applyActive_ok hactive
        refine ⟨user, huser, hid, ⟨?_, ?_, ?_, hfree, hvalid, ?_, ?_⟩, haudited _ _,
          fun hnot => absurd hnot hadmin, (applyEmail_sameLogin hemail).trans
            ((applyRole_sameLogin hrole).trans (applyActive_sameLogin hactive))⟩
        · rw [hid₃, hid₂, hid₁]
        · rw [hrole₃, hrole₂, hrole₁]
        · rw [hactive₃, hactive₂, hactive₁]
        · intro hwas hnot
          rw [hrole₃] at hnot
          rw [← hrole₁] at hwas
          have hcount := hdemote hwas hnot
          -- the new email does not change who is an admin
          have hsame : (db.save user₁).adminCount = db.adminCount :=
            Table.countP_put huser hid₁ (by rw [hrole₁])
          rwa [hsame] at hcount
        · intro hnow hfalse
          have hcount := hdisable hnow hfalse
          obtain ⟨u, hu, hpu, hne⟩ := Table.exists_ne_of_one_lt_countP hcount user.id
          rw [Bool.and_eq_true, decide_eq_true_eq] at hpu
          rcases (mem_save huser (hid₂.trans hid₁)).mp hu with rfl | ⟨hu, -⟩
          · exact absurd (hid₂.trans hid₁) hne
          · exact ⟨u, hu, hpu.1, hpu.2, hne⟩

/-! ## §2. One request. -/

/-- Somebody with role `admin` is active. -/
def HasAdmin (db : DB) : Prop := ∃ u ∈ db.users.rows, u.role = "admin" ∧ u.isActive = true

instance (db : DB) : Decidable (HasAdmin db) :=
  inferInstanceAs (Decidable (∃ u ∈ db.users.rows, _))

/-- The only active admin gives up the role, and a disabled admin is left. -/
def stepsDown (db : DB) (r : Request) : Bool :=
  match getCurrentUser r.env db r.authorization, r.op with
  | .ok current, .updateUser userId data =>
      current.role = "admin" && current.id = userId
        && data.role.any (fun role => validRoles.contains role && role ≠ "admin")
        && emailFree db userId data.email
        && db.users.rows.any (fun u => u.role = "admin" && u.id ≠ userId)
        && db.users.rows.all (fun u => !(u.role = "admin" && u.isActive) || u.id = userId)
  | _, _ => false

/-- An admin who is not the one written stays. -/
theorem hasAdmin_save {db : DB} {user user' u : User} (huser : user ∈ db.users.rows)
    (hid : user'.id = user.id) (hu : u ∈ db.users.rows) (hrole : u.role = "admin")
    (hactive : u.isActive = true) (hne : u.id ≠ user.id) : HasAdmin (db.save user') :=
  ⟨u, (mem_save huser hid).mpr (.inr ⟨hu, hne⟩), hrole, hactive⟩

/-- An admin other than the current user is nobody's to remove but an admin's, who stays. -/
theorem hasAdmin_update {ctx : RequestContext} {db db' : DB} {current user' : User}
    {userId : String} {data : UserUpdate} (hcurrent : current ∈ db.users.rows)
    (hactive : current.isActive = true) (hadmin : HasAdmin db)
    (hother : current.role = "admin" → current.id = userId →
      (∃ role, data.role = some role ∧ role ∈ validRoles ∧ role ≠ "admin") →
      emailFree db userId data.email = true →
      (∃ u ∈ db.users.rows, u.role = "admin" ∧ u.id ≠ userId) →
      ∃ u ∈ db.users.rows, u.role = "admin" ∧ u.isActive = true ∧ u.id ≠ userId)
    (h : updateUser ctx db current userId data = .ok (user', db')) : HasAdmin db' := by
  obtain ⟨user, huser, rfl, hup, husers, hplain, -⟩ := updateUser_ok h
  suffices hsave : HasAdmin (db.save user') by
    obtain ⟨u, hu, hrole, hact⟩ := hsave
    exact ⟨u, by rw [husers]; exact hu, hrole, hact⟩
  have hself : user'.role = "admin" → user'.isActive = true → HasAdmin (db.save user') :=
    fun hrole hact => ⟨user', (mem_save huser hup.id).mpr (.inl rfl), hrole, hact⟩
  by_cases hrole : current.role = "admin"
  · by_cases hid : current.id = user.id
    · obtain rfl : current = user := db.users.eq_of_key_eq hcurrent huser hid
      by_cases hrole' : user'.role = "admin"
      · by_cases hact' : user'.isActive = true
        · exact hself hrole' hact'
        · -- deactivated: another active admin was counted
          have hfalse : data.isActive = some false := by
            have hnow := hup.isActive
            rw [Bool.not_eq_true] at hact'
            cases hdata : data.isActive with
            | none =>
                rw [hdata, hact', hactive] at hnow
                cases hnow
            | some b =>
                rw [hdata, hact'] at hnow
                rw [show b = false from hnow.symm]
          obtain ⟨u, hu, hru, hau, hne⟩ := hup.disabled hrole' hfalse
          exact hasAdmin_save huser hup.id hu hru hau hne
      · -- demoted: another admin was counted, active or not
        have hgiven : ∃ role, data.role = some role ∧ role ∈ validRoles ∧ role ≠ "admin" := by
          cases hdata : data.role with
          | none =>
              have hnow := hup.role
              rw [hdata] at hnow
              exact absurd (hnow.trans hrole) hrole'
          | some role =>
              have hnow := hup.role
              rw [hdata] at hnow
              exact ⟨role, rfl, hup.valid role hdata, fun heq => hrole' (hnow.trans heq)⟩
        obtain ⟨u, hu, hpu, hne⟩ :=
          Table.exists_ne_of_one_lt_countP (hup.demoted hrole hrole') current.id
        obtain ⟨v, hv, hrv, hav, hnev⟩ :=
          hother hrole rfl hgiven hup.free ⟨u, hu, by simpa using hpu, hne⟩
        exact hasAdmin_save huser hup.id hv hrv hav hnev
    · exact hasAdmin_save huser hup.id hcurrent hrole hactive hid
  · -- no admin: role and status are left alone
    obtain ⟨hdata, hdata'⟩ := hplain hrole
    have hrole' : user'.role = user.role := by
      rw [hup.role, hdata]
      rfl
    have hact' : user'.isActive = user.isActive := by
      rw [hup.isActive, hdata']
      rfl
    obtain ⟨u, hu, hru, hau⟩ := hadmin
    by_cases hid : u.id = user.id
    · obtain rfl : u = user := db.users.eq_of_key_eq hu huser hid
      exact hself (hrole'.trans hru) (hact'.trans hau)
    · exact hasAdmin_save huser hup.id hu hru hau hid

/-- What `stepsDown` says. -/
theorem stepsDown_update {db : DB} {r : Request} {current : User} {userId : String}
    {data : UserUpdate} (hcurrent : getCurrentUser r.env db r.authorization = .ok current)
    (hop : r.op = .updateUser userId data) :
    stepsDown db r = true ↔ current.role = "admin" ∧ current.id = userId ∧
      (∃ role, data.role = some role ∧ role ∈ validRoles ∧ role ≠ "admin") ∧
      emailFree db userId data.email = true ∧
      (∃ u ∈ db.users.rows, u.role = "admin" ∧ u.id ≠ userId) ∧
      ∀ u ∈ db.users.rows, u.role = "admin" → u.isActive = true → u.id = userId := by
  have hgiven : data.role.any (fun role => validRoles.contains role && role ≠ "admin") = true ↔
      ∃ role, data.role = some role ∧ role ∈ validRoles ∧ role ≠ "admin" := by
    cases data.role with
    | none => simp
    | some role => simp
  have hleft : db.users.rows.any (fun u => u.role = "admin" && u.id ≠ userId) = true ↔
      ∃ u ∈ db.users.rows, u.role = "admin" ∧ u.id ≠ userId := by
    simp
  have honly : db.users.rows.all (fun u => !(u.role = "admin" && u.isActive) || u.id = userId)
      = true ↔ ∀ u ∈ db.users.rows, u.role = "admin" → u.isActive = true → u.id = userId := by
    simp [imp_iff_not_or, or_assoc]
  unfold stepsDown
  rw [hcurrent, hop]
  dsimp only
  rw [Bool.and_eq_true, Bool.and_eq_true, Bool.and_eq_true, Bool.and_eq_true, Bool.and_eq_true,
    decide_eq_true_eq, decide_eq_true_eq, hgiven, hleft, honly]
  simp only [and_assoc]

/-- A request after which nobody was left, had nobody stepped down. -/
theorem hasAdmin_exec (db : DB) (r : Request) (hadmin : HasAdmin db)
    (hguard : stepsDown db r = false) : HasAdmin (exec db r) := by
  unfold exec
  split
  next => exact hadmin
  next current hcurrent =>
    obtain ⟨hmem, hactive⟩ := getCurrentUser_ok hcurrent
    unfold performAs
    split
    next uuid data hop =>
      refine commitOrRollback_preserves hadmin (fun user db' h => ?_)
      obtain ⟨u, hu, hru, hau⟩ := hadmin
      refine ⟨u, ?_, hru, hau⟩
      rw [createUser_ok h]
      exact List.mem_append_left _ hu
    next userId data hop =>
      refine commitOrRollback_preserves hadmin (fun user db' h => ?_)
      refine hasAdmin_update hmem hactive hadmin ?_ h
      intro hrole hid hgiven hfree hleft
      -- had there been no other admin, the caller would have stepped down
      by_contra hnone
      have hsteps : stepsDown db r = true := by
        refine (stepsDown_update hcurrent hop).mpr ⟨hrole, hid, hgiven, hfree, hleft, ?_⟩
        intro u hu hru hau
        by_contra hne
        exact hnone ⟨u, hu, hru, hau, hne⟩
      rw [hsteps] at hguard
      cases hguard
    next userId hop =>
      refine commitOrRollback_preserves hadmin (fun u db' h => ?_)
      -- only an admin deletes, and nobody deletes oneself: the caller remains
      obtain ⟨hrole, hne, husers⟩ := deleteUser_ok h
      refine ⟨current, ?_, hrole, hactive⟩
      rw [husers]
      exact Table.mem_delete.mpr ⟨hmem, by simpa using hne⟩

/-- An admin who is not the last one may give up the role. -/
theorem updateUser_steps_down (ctx : RequestContext) {db : DB} {current u : User}
    {data : UserUpdate} {role : String} (hcurrent : current ∈ db.users.rows)
    (hadmin : current.role = "admin") (hdata : data.role = some role) (hvalid : role ∈ validRoles)
    (hrole : role ≠ "admin") (hfree : emailFree db current.id data.email = true)
    (hu : u ∈ db.users.rows) (hru : u.role = "admin") (hne : u.id ≠ current.id) :
    ∃ user' db', updateUser ctx db current current.id data = .ok (user', db') := by
  obtain ⟨user₁, hemail⟩ := applyEmail_of_free hfree
  obtain ⟨hid₁, hrole₁, -⟩ := applyEmail_ok hemail
  have hcount : 1 < (db.save user₁).adminCount := by
    have hsame : (db.save user₁).adminCount = db.adminCount :=
      Table.countP_put hcurrent hid₁ (by rw [hrole₁])
    rw [hsame]
    exact Table.one_lt_countP hu hcurrent (by simpa using hru) (by simpa using hadmin) hne
  have hrole₂ : applyRole (db.save user₁) user₁ data.role = .ok { user₁ with role } := by
    rw [hdata]
    unfold applyRole
    dsimp only
    rw [if_neg (not_not.mpr hvalid), if_neg]
    rintro ⟨-, -, hle⟩
    omega
  -- without the role the status is not checked any more
  have hactive : ∃ user₃, applyActive (db.save { user₁ with role }) { user₁ with role }
      data.isActive = .ok user₃ := by
    cases data.isActive with
    | none => exact ⟨_, rfl⟩
    | some isActive =>
        refine ⟨_, if_neg ?_⟩
        rintro ⟨hstill, -⟩
        exact hrole hstill
  obtain ⟨user₃, hactive⟩ := hactive
  have hget : db.users.get? current.id = some current :=
    Table.get?_eq_some_iff.mpr ⟨hcurrent, rfl⟩
  refine ⟨user₃, updateUser.audited ctx data user₃ (db.save user₃), ?_⟩
  unfold updateUser
  rw [if_neg (fun h => h.1 rfl), hget]
  dsimp only
  rw [if_neg (not_not.mpr hadmin)]
  exact bind_eq_ok.mpr ⟨user₁, hemail,
    bind_eq_ok.mpr ⟨_, hrole₂, bind_eq_ok.mpr ⟨user₃, hactive, rfl⟩⟩⟩

/-- **THE LAST ACTIVE ADMIN STEPS DOWN**, and nobody is left. -/
theorem not_hasAdmin_exec (db : DB) (r : Request) (hsteps : stepsDown db r = true) :
    ¬ HasAdmin (exec db r) := by
  cases hget : getCurrentUser r.env db r.authorization with
  | error e =>
      unfold stepsDown at hsteps
      rw [hget] at hsteps
      cases hsteps
  | ok current =>
      cases hop : r.op with
      -- only an update can be the step down
      | createUser uuid data =>
          unfold stepsDown at hsteps
          rw [hget, hop] at hsteps
          cases hsteps
      | deleteUser userId =>
          unfold stepsDown at hsteps
          rw [hget, hop] at hsteps
          cases hsteps
      | updateUser userId data =>
          obtain ⟨hadmin, rfl, ⟨role, hdata, hvalid, hrole⟩, hfree, ⟨u, hu, hru, hne⟩, honly⟩ :=
            (stepsDown_update hget hop).mp hsteps
          obtain ⟨hcurrent, -⟩ := getCurrentUser_ok hget
          obtain ⟨user', db', hok⟩ := updateUser_steps_down r.ctx hcurrent hadmin hdata
            hvalid hrole hfree hu hru hne
          obtain ⟨user, huser, hid, hup, husers, -⟩ := updateUser_ok hok
          have hexec : exec db r = db' := by
            unfold exec performAs
            rw [hget]
            dsimp only
            rw [hop]
            dsimp only
            rw [hok]
            rfl
          rw [hexec]
          -- an admin left over would be the caller, whose role is another now
          rintro ⟨v, hv, hrv, hav⟩
          rw [husers, mem_save huser hup.id] at hv
          rcases hv with rfl | ⟨hv, hnev⟩
          · rw [hup.role, hdata] at hrv
            exact hrole hrv
          · exact hnev ((honly v hv hrv hav).trans hid.symm)

/-! ## §3. Runs. -/

/-- **AN ADMINISTRATOR REMAINS** in every state of a run, from any state that has one,
exactly if in no step the only active admin gives up the role while a disabled admin is
left. -/
theorem admin_remains_iff (db : DB) (h0 : HasAdmin db) (reqs : List Request) :
    Always exec HasAdmin db reqs ↔ Along exec (fun db r => stepsDown db r = false) db reqs := by
  have hstep : ∀ db r, True → HasAdmin db → stepsDown db r = false → HasAdmin (exec db r) :=
    fun db r _ => hasAdmin_exec db r
  have hbreak : ∀ db r, True → HasAdmin db → ¬ stepsDown db r = false →
      ¬ HasAdmin (exec db r) := by
    intro db r _ _ hguard
    exact not_hasAdmin_exec db r (by simpa using hguard)
  exact always_iff_along hstep (fun _ h => h) hbreak (fun _ _ => trivial) h0

/-- A server that takes the token for the id of the user. -/
def plainTokenEnv : AuthEnv where
  now := 0
  utcnow := 0
  checkpw := fun _ _ => false
  jwtAvailable := true
  jwtDecode := fun token => some [("sub", token)]
  parseInt := fun _ => none
  hasSessionFactory := true

/-- A request by the user with this id. -/
def requestBy (id : String) (op : Op) : Request where
  env := plainTokenEnv
  hashPassword := fun password => password
  authorization := some ("Bearer ".toList ++ id.toList)
  op := op

/-- Two admins, of whom one is disabled. -/
def twoAdmins : DB where
  users := ⟨[{ id := "1", username := "ann", passwordHash := "", role := "admin" },
    { id := "2", username := "bob", passwordHash := "", role := "admin", isActive := false }],
    by decide⟩

/-- The active one creates another admin and then steps down. -/
theorem admin_remains_iff_successor :
    HasAdmin twoAdmins ∧
      Always exec HasAdmin twoAdmins
        [requestBy "1" (.createUser "3"
          { username := "eve", password := "password", role := "admin" }),
         requestBy "1" (.updateUser "1" { role := some "viewer" })] :=
  ⟨by decide, (admin_remains_iff twoAdmins (by decide) _).mpr (by decide)⟩

/-- The active one steps down at once. -/
theorem last_active_admin_steps_down :
    HasAdmin twoAdmins ∧
      ¬ HasAdmin (exec twoAdmins (requestBy "1" (.updateUser "1" { role := some "viewer" }))) :=
  ⟨by decide, not_hasAdmin_exec _ _ (by decide)⟩

end PureBoot.Accounts
