/-
  PureBoot.Approvals.Escalation — an approval is escalated before it expires.

  Three paths react to a deadline that has passed.  The escalation job gives the
  approval a new period, `max_escalations` times, and expires it only then; a vote
  is refused, and what it had flushed is rolled back; but the sweep that list and
  stats requests start with expires every pending approval at once, whatever its
  escalation count.  So it depends on which comes first after the deadline.

  Main results:
    * `escalatedFirst_exec` — one request that does not sweep early;
    * `escalated_first_iff` — the runs in which an approval made from a rule is
      escalated first are exactly the runs without an early sweep.
-/
import PureBoot.Approvals.Steps

namespace PureBoot.Approvals

open PureBoot.Lib

/-! ## §1. The property, and the request that breaks it. -/

/-- The approval `id` is not expired, or had all its escalations. -/
def EscalatedFirst (id : String) (db : DB) : Prop :=
  ∀ a ∈ db.approvals.rows, a.id = id → a.status = .expired → maxEscalations ≤ a.escalationCount

instance (id : String) (db : DB) : Decidable (EscalatedFirst id db) :=
  inferInstanceAs (Decidable (∀ a ∈ db.approvals.rows, _))

/-- The request is a list or stats request, and the approval is past its deadline with
escalations left. -/
def sweepsEarly (id : String) (db : DB) (r : Request) : Bool :=
  sweeps r.op && db.approvals.rows.any (fun a =>
    a.id = id ∧ a.status = .pending ∧ a.isExpired r.now = true
      ∧ a.escalationCount < maxEscalations)

/-! ## §2. One request. -/

theorem Effect.id_eq {db : DB} {r : Request} {a a' : Approval} (h : Effect db r a a') :
    a'.id = a.id := by
  cases h with
  | voted v _ _ => exact (resolve_same r.now _).1
  | escalated _ _ _ hesc => exact (escalateApproval_ok hesc).1.id
  | ruleCleared ruleId => exact clearRule_id ruleId a
  | _ => rfl

/-- The threshold check never expires an approval. -/
theorem resolve_not_expired {now : Int} {a : Approval} (hp : a.status = .pending) :
    (a.resolve now).status ≠ .expired := by
  unfold Approval.resolve Approval.outcome
  by_cases happ : a.requiredApprovers ≤ a.approveCount
  · rw [if_pos happ]
    simp [Approval.close]
  · rw [if_neg happ]
    by_cases hrej : a.requiredApprovers ≤ a.rejectCount
    · rw [if_pos hrej]
      simp [Approval.close]
    · rw [if_neg hrej]
      simp [hp]

/-- What an approval that is expired after a request was before it. -/
theorem Effect.of_expired {db : DB} {r : Request} {a a' : Approval} (h : Effect db r a a')
    (hexp : a'.status = .expired) :
    (a.status = .expired ∧ a'.escalationCount = a.escalationCount)
      ∨ maxEscalations ≤ a'.escalationCount
      ∨ (sweeps r.op = true ∧ a.status = .pending ∧ a.isExpired r.now = true
          ∧ a'.escalationCount = a.escalationCount) := by
  cases h with
  | same => exact .inl ⟨hexp, rfl⟩
  | voted v hp _ =>
      exact absurd hexp (resolve_not_expired (a := { a with votes := a.votes ++ [v] }) hp)
  | cancelled _ => simp [Approval.close] at hexp
  | swept hop hp hlate => exact .inr (.inr ⟨hop, hp, hlate, rfl⟩)
  | escalated _ hp _ hesc =>
      rw [(escalateApproval_ok hesc).1.status, hp] at hexp
      simp at hexp
  | timedOut _ hcount => exact .inr (.inl hcount)
  | ruleCleared ruleId =>
      unfold clearRule at hexp ⊢
      split at hexp
      next hrule =>
        rw [if_pos hrule]
        exact .inl ⟨hexp, rfl⟩
      next hrule =>
        rw [if_neg hrule]
        exact .inl ⟨hexp, rfl⟩

/-- **ONE REQUEST** that does not sweep the approval early. -/
theorem escalatedFirst_exec {id : String} (db : DB) (r : Request) (hinv : EscalatedFirst id db)
    (hguard : sweepsEarly id db r = false) : EscalatedFirst id (exec db r) := by
  intro a' ha' hid hexp
  rcases (exec_effect db r).prev a' ha' with ⟨a, ha, heff⟩ | hnew
  · have haid : a.id = id := heff.id_eq.symm.trans hid
    rcases heff.of_expired hexp with ⟨hold, hcount⟩ | hcount | ⟨hop, hp, hlate, hcount⟩
    · rw [hcount]
      exact hinv a ha haid hold
    · exact hcount
    · -- a sweep: the guard leaves only approvals without escalations left
      by_contra hleft
      rw [hcount, Nat.not_le] at hleft
      have hearly : sweepsEarly id db r = true := by
        unfold sweepsEarly
        rw [hop, Bool.true_and, List.any_eq_true]
        exact ⟨a, ha, by simp [haid, hp, hlate, hleft]⟩
      rw [hearly] at hguard
      simp at hguard
  · rw [hnew.status] at hexp
    simp at hexp

/-- A request that sweeps leaves the table swept. -/
theorem exec_of_sweeps {db : DB} {r : Request} (h : sweeps r.op = true) :
    (exec db r).approvals = (expireOldApprovals r.now db).approvals := by
  obtain ⟨now, op⟩ := r
  cases op with
  | getApprovalStats => rfl
  | listApprovals query =>
      show (commitOrRollback db (listApprovals now db query)).approvals = _
      unfold listApprovals
      by_cases hmine : query.myPending = true
      · cases huser : query.userId with
        | none => simp [sweeps, hmine, huser, truthy] at h
        | some userId =>
            have hne : userId ≠ "" := by simpa [sweeps, hmine, huser, truthy] using h
            simp [hmine, hne]
      · simp [hmine]
  | _ => simp [sweeps] at h

/-- **AN EARLY SWEEP BREAKS IT** at once. -/
theorem not_escalatedFirst_exec {id : String} {db : DB} {r : Request}
    (h : sweepsEarly id db r = true) : ¬ EscalatedFirst id (exec db r) := by
  unfold sweepsEarly at h
  rw [Bool.and_eq_true, List.any_eq_true] at h
  obtain ⟨hop, a, ha, hearly⟩ := h
  rw [decide_eq_true_eq] at hearly
  obtain ⟨hid, hp, hlate, hleft⟩ := hearly
  intro hall
  have hmem : a.close r.now .expired ∈ (exec db r).approvals.rows := by
    rw [exec_of_sweeps hop, expireOldApprovals, Table.mem_update]
    exact ⟨a, ha, if_pos ⟨hp, hlate⟩⟩
  have hcount : maxEscalations ≤ a.escalationCount :=
    hall (a.close r.now .expired) hmem hid rfl
  omega

/-! ## §3. Runs. -/

/-- **ESCALATED BEFORE EXPIRED.**  For an approval created from a rule and any sequence
of requests and job passes after that: in every state it is expired only after
`max_escalations` escalations, exactly if no list or stats request comes while it is
past its deadline with escalations left. -/
theorem escalated_first_iff {now : Int} {db db' : DB} {uuid : String} {rule : ApprovalRule}
    {operationType requesterId requesterName : String} {a : Approval}
    (hcreate : createApprovalRequest now db uuid rule operationType requesterId requesterName
      = .ok (a, db')) (reqs : List Request) :
    Always exec (EscalatedFirst uuid) db' reqs
      ↔ Along exec (fun db r => sweepsEarly uuid db r = false) db' reqs := by
  have h0 : EscalatedFirst uuid db' := by
    obtain ⟨hnew, haid, approvals, hins, rfl⟩ := createApprovalRequest_ok hcreate
    obtain ⟨-, hrows⟩ := Table.insert?_eq_some_iff.mp hins
    have hmem : a ∈ approvals.rows := by
      rw [hrows]
      simp
    intro x hx hid hexp
    obtain rfl : x = a := approvals.eq_of_key_eq hx hmem (hid.trans haid.symm)
    rw [hnew.status] at hexp
    simp at hexp
  refine always_iff_along (L := fun _ => True) ?_ (fun _ h => h) ?_ (fun _ _ => trivial) h0
  · intro db r _ hinv hguard
    exact escalatedFirst_exec db r hinv hguard
  · intro db r _ _ hguard
    rw [Bool.not_eq_false] at hguard
    exact not_escalatedFirst_exec hguard

/-- A rule that gives an hour to vote and an hour for each escalation. -/
def hourRule : ApprovalRule :=
  { id := "r", name := "hourly", scopeType := .global, operations := ["bulk_wipe"],
    escalationTimeoutHours := 1 }

/-- The table with that rule. -/
def hourRuleDB : DB :=
  { DB.empty with rules := (Table.empty.insert? hourRule).getD Table.empty }

/-- The request alice makes under the rule. -/
def hourApproval : Approval :=
  { id := "a", ruleId := some "r", operationType := "bulk_wipe", actionType := "bulk_wipe",
    requesterId := some "1", requesterName := "alice", requiredApprovers := 1,
    expiresAt := 3600000000, createdAt := 0 }

/-- The table with that request. -/
def hourDB : DB :=
  { hourRuleDB with approvals := (Table.empty.insert? hourApproval).getD Table.empty }

/-- Four passes of the job, each after the deadline set by the one before. -/
def fourPasses : List Request :=
  [⟨4000000000, .processEscalations⟩, ⟨8000000000, .processEscalations⟩,
   ⟨12000000000, .processEscalations⟩, ⟨16000000000, .processEscalations⟩,
   ⟨17000000000, .getApprovalStats⟩]

theorem escalated_first_four_passes :
    (run exec hourDB fourPasses).approvals.rows.map (fun a => (a.status, a.escalationCount))
        = [(.expired, 3)]
      ∧ Always exec (EscalatedFirst "a") hourDB fourPasses := by
  have hcreate : createApprovalRequest 0 hourRuleDB "a" hourRule "bulk_wipe" "1" "alice"
      = .ok (hourApproval, hourDB) := by decide
  exact ⟨by decide, (escalated_first_iff hcreate fourPasses).mpr (by decide)⟩

/-- Somebody opens the page of approvals after the deadline: the approval is expired and
was never escalated. -/
theorem expired_by_stats_before_escalation :
    createApprovalRequest 0 hourRuleDB "a" hourRule "bulk_wipe" "1" "alice"
        = .ok (hourApproval, hourDB)
      ∧ ¬ Always exec (EscalatedFirst "a") hourDB [⟨4000000000, .getApprovalStats⟩] := by
  refine ⟨by decide, ?_⟩
  intro h
  exact absurd h.last (by decide)

end PureBoot.Approvals
