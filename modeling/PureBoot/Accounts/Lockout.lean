/-
  PureBoot.Accounts.Lockout — LOCKING an account after wrong passwords.

  `login` counts wrong passwords, sets the time until which the account is locked and
  writes an audit record, all in the session that it then aborts with the 401 it
  answers; `get_db` rolls the session back.  So nothing a refused login writes to the
  database stays, and no number of wrong passwords locks an account.  Only the copies of
  the audit record in the audit file and at the SIEM are left, where these are
  configured.

  A run of logins is watched for one user name: how many wrong passwords in a row there
  were, and when such a row became long enough to lock the account.

  Main results:
    * `execLogin_refused` — what a refused login leaves behind;
    * `lockout_iff` — the runs that keep the law of the lockout.
-/
import PureBoot.Accounts.Login

namespace PureBoot.Accounts

open PureBoot.Lib

variable (service : AuditService)

/-! ## §1. The law. -/

/-- The login is refused. -/
def Refused (s : Server) (l : Login) : Prop :=
  ∃ e, (login service l.env l.ctx s l.data).1 = .error e

/-- The records that a request has left, in the database or elsewhere. -/
def newRecords (before after : Server) : List AuditLog :=
  after.db.auditLogs.drop before.db.auditLogs.length ++ after.outside.drop before.outside.length

/-- A wrong password for a local account. -/
def wrongPassword (s : Server) (l : Login) : Bool :=
  (ldapAuthenticate l.env s.db l.data.username l.data.password).isNone
    && (s.db.userByName l.data.username).any (fun user => user.authSource ≠ .ldap
      && !passwordTaken l.env user l.data.password)

/-- The server, and what is known of the logins of one user name. -/
structure Watch where
  server : Server
  /-- The wrong passwords in a row, up to now. -/
  streak : Nat := 0
  /-- When a wrong password made the row at least `MAX_FAILED_ATTEMPTS` long. -/
  locks : List Int := []

/-- One more login. -/
def Watch.exec (username : String) (w : Watch) (l : Login) : Watch :=
  let server := execLogin service w.server l
  if l.data.username ≠ username then { w with server }
  else if wrongPassword w.server l then
    { server
      streak := w.streak + 1
      locks := if maxFailedAttempts ≤ w.streak + 1 then w.locks ++ [l.env.now] else w.locks }
  else { w with server, streak := 0 }

/-- The time is less than `LOCKOUT_DURATION_MINUTES` after such a row. -/
def Watch.mustBeLocked (w : Watch) (now : Int) : Bool :=
  w.locks.any (fun t => t ≤ now && now < t + lockoutDurationMinutes * minute)

/-- **THE LAW OF THE LOCKOUT**, for one login. -/
structure Lawful (username : String) (w : Watch) (l : Login) : Prop where
  locked : l.data.username = username → w.mustBeLocked l.env.now = true →
    Refused service w.server l
  recorded : Refused service w.server l →
    ∃ row ∈ newRecords w.server (execLogin service w.server l), row.result = .failure

/-! ## §2. One login. -/

/-- A copy of an audit record is taken outside the database. -/
def AuditService.takes (env : LoginEnv) : Bool :=
  service.file && env.fileTaken || service.siem && env.siemTaken

/-- The login keeps the law: it is refused where the account must be locked, by what was
stored before, and if it is refused, a copy of its record is taken. -/
def keepsLaw (username : String) (w : Watch) (l : Login) : Bool :=
  if (grantee l.env w.server.db l.data).isSome then
    !(l.data.username = username && w.mustBeLocked l.env.now)
  else !raises l.env w.server.db l.data && service.takes l.env

variable {service}

theorem refused_iff {s : Server} {l : Login} :
    Refused service s l ↔ grantee l.env s.db l.data = none := by
  unfold Refused
  constructor
  · rintro ⟨e, he⟩
    cases hgrantee : grantee l.env s.db l.data with
    | none => rfl
    | some user =>
        obtain ⟨tokens, s', hlogin, -⟩ := login_of_grantee service l.ctx hgrantee
        rw [hlogin] at he
        cases he
  · intro hgrantee
    cases hlogin : login service l.env l.ctx s l.data with
    | mk result s' =>
        cases result with
        | error e => exact ⟨e, rfl⟩
        | ok tokens =>
            obtain ⟨user, hsome, -⟩ := grantee_of_login hlogin
            rw [hgrantee] at hsome
            cases hsome

/-- **A REFUSED LOGIN LEAVES THE DATABASE AS IT WAS**, and copies of its record outside. -/
theorem execLogin_refused (service : AuditService) {s : Server} {l : Login}
    (h : grantee l.env s.db l.data = none) :
    (execLogin service s l).db = s.db ∧
      if raises l.env s.db l.data then (execLogin service s l).outside = s.outside
      else ∃ row, row.result = .failure ∧
        (execLogin service s l).outside = s.outside ++ service.copies l.env row := by
  have houtcome := login_outcome service l.env l.ctx s l.data
  unfold execLogin
  cases hlogin : login service l.env l.ctx s l.data with
  | mk result s' =>
      rw [hlogin] at houtcome
      cases houtcome with
      | granted user s' hgrantee =>
          rw [h] at hgrantee
          cases hgrantee
      | refused e s' row _ hraises hrow houtside =>
          rw [hraises]
          exact ⟨rfl, row, hrow, houtside⟩
      | raised e s' _ hraises houtside =>
          rw [hraises]
          exact ⟨rfl, houtside⟩

theorem mem_copies {env : LoginEnv} {row x : AuditLog} :
    x ∈ service.copies env row ↔ x = row ∧ service.takes env = true := by
  unfold AuditService.copies AuditService.takes
  cases service.file && env.fileTaken <;> cases service.siem && env.siemTaken <;> simp

/-- What is new after a refused login. -/
theorem recorded_iff {s : Server} {l : Login} (h : grantee l.env s.db l.data = none) :
    (∃ row ∈ newRecords s (execLogin service s l), row.result = .failure) ↔
      raises l.env s.db l.data = false ∧ service.takes l.env = true := by
  obtain ⟨hdb, hcopies⟩ := execLogin_refused service h
  unfold newRecords
  rw [hdb, List.drop_length, List.nil_append]
  cases hraises : raises l.env s.db l.data with
  | true =>
      rw [hraises] at hcopies
      have hcopies : (execLogin service s l).outside = s.outside := hcopies
      rw [hcopies, List.drop_length]
      simp
  | false =>
      rw [hraises] at hcopies
      obtain ⟨row, hrow, houtside⟩ := hcopies
      rw [houtside, List.drop_left]
      simp only [mem_copies, true_and]
      constructor
      · rintro ⟨x, ⟨-, htakes⟩, -⟩
        exact htakes
      · intro htakes
        exact ⟨row, ⟨rfl, htakes⟩, hrow⟩

theorem lawful_iff (username : String) (w : Watch) (l : Login) :
    Lawful service username w l ↔ keepsLaw service username w l = true := by
  unfold keepsLaw
  cases hgrantee : grantee l.env w.server.db l.data with
  | some user =>
      -- a login that is granted can only break the lock,
      have hnot : ¬ Refused service w.server l := by
        rw [refused_iff, hgrantee]
        exact Option.some_ne_none user
      simp only [Option.isSome_some, if_true, Bool.not_eq_true', Bool.and_eq_false_iff,
        decide_eq_false_iff_not]
      constructor
      · intro hlaw
        by_cases hname : l.data.username = username
        · right
          rw [← Bool.not_eq_true]
          exact fun hmust => hnot (hlaw.locked hname hmust)
        · exact .inl hname
      · intro hopen
        refine ⟨fun hname hmust => ?_, fun hrefused => absurd hrefused hnot⟩
        rcases hopen with hne | hfree
        · exact absurd hname hne
        · rw [hmust] at hfree
          cases hfree
  | none =>
      -- and one that is refused can only go unrecorded
      have hrefused : Refused service w.server l := refused_iff.mpr hgrantee
      simp only [Option.isSome_none, Bool.false_eq_true, if_false, Bool.and_eq_true,
        Bool.not_eq_true']
      rw [← recorded_iff hgrantee]
      exact ⟨fun hlaw => hlaw.recorded hrefused, fun h => ⟨fun _ _ => hrefused, fun _ => h⟩⟩

/-! ## §3. Runs. -/

/-- **THE LOCKOUT**, for every user name and every run of logins from any state: the law
holds at each login exactly if each login that is refused goes to the audit file or the
SIEM, and no login that the stored account (or LDAP) accepts comes while the account must
be locked. -/
theorem lockout_iff (service : AuditService) (username : String) (s : Server) (ls : List Login) :
    Along (Watch.exec service username) (Lawful service username) { server := s } ls ↔
      Along (Watch.exec service username) (fun w l => keepsLaw service username w l = true)
        { server := s } ls :=
  along_congr (lawful_iff username) _ ls

/-- An active account with the password `secret`. -/
def oneAccount : Server where
  db := { users := ⟨[{ id := "1", username := "ann", passwordHash := "secret" }], by decide⟩ }

/-- A login to it. -/
def loginAs (now : Int) (password : String) : Login where
  env := plainLoginEnv now "r"
  data := ⟨"ann", password⟩

/-- Five wrong passwords, and then the right one: it is accepted, though every refusal went
to the audit file.  Without that file one wrong password leaves nothing at all. -/
theorem not_locked_after_five :
    ¬ Along (Watch.exec { file := true } "ann") (Lawful { file := true } "ann")
        { server := oneAccount }
        [loginAs 1 "a", loginAs 2 "b", loginAs 3 "c", loginAs 4 "d", loginAs 5 "e",
         loginAs 6 "secret"] ∧
      ¬ Along (Watch.exec {} "ann") (Lawful {} "ann") { server := oneAccount } [loginAs 1 "a"] := by
  rw [along_congr (lawful_iff "ann"), along_congr (lawful_iff "ann")]
  exact ⟨by decide, by decide⟩

end PureBoot.Accounts
