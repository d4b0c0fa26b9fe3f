/-
  PureBoot.Approvals.Resolution — how an approval is resolved, and that it is
  resolved once.

  While an approval is pending neither side has reached `required_approvers`; the
  vote that reaches it resolves the approval in the same request, so the winning
  side's count is EXACTLY the required one.  An approval that is not pending is
  never written to again.

  Main results:
    * `resolution_change`, `resolution_exec` — one change, one request;
    * `settled_run` — what is settled stays settled;
    * `approval_resolution` — both, over whole runs.
-/
import PureBoot.Approvals.Steps

namespace PureBoot.Approvals

open PureBoot.Lib

/-! ## §1. Status and counts. -/

/-- How the status of an approval and its votes are related. -/
structure Resolution (a : Approval) : Prop where
  pending : a.status = .pending →
    a.resolvedAt = none ∧ (a.approveCount : Int) < a.requiredApprovers
      ∧ (a.rejectCount : Int) < a.requiredApprovers
  approved : a.status = .approved → (a.approveCount : Int) = a.requiredApprovers
  rejected : a.status = .rejected →
    (a.rejectCount : Int) = a.requiredApprovers ∧ (a.approveCount : Int) < a.requiredApprovers

theorem countVotes_append (kind : VoteKind) (votes : List ApprovalVote) (v : ApprovalVote) :
    countVotes kind (votes ++ [v]) = countVotes kind votes + if v.vote = kind then 1 else 0 := by
  unfold countVotes
  rw [List.countP_append, List.countP_singleton]
  simp only [decide_eq_true_eq]

/-- A vote adds one to one of the two counts. -/
theorem addVote_counts (a : Approval) (v : ApprovalVote) :
    ({ a with votes := a.votes ++ [v] } : Approval).approveCount
        + ({ a with votes := a.votes ++ [v] } : Approval).rejectCount
      = a.approveCount + a.rejectCount + 1
    ∧ a.approveCount ≤ ({ a with votes := a.votes ++ [v] } : Approval).approveCount
    ∧ a.rejectCount ≤ ({ a with votes := a.votes ++ [v] } : Approval).rejectCount := by
  unfold Approval.approveCount Approval.rejectCount
  rw [countVotes_append, countVotes_append]
  cases v.vote with
  | approve => simp; omega
  | reject => simp; omega

/-- The threshold check after one more vote of a pending approval. -/
theorem resolution_addVote {now : Int} {a : Approval} {v : ApprovalVote}
    (hp : a.status = .pending) (h : Resolution a) : Resolution (a.addVote now v) := by
  obtain ⟨hnone, hap, hrj⟩ := h.pending hp
  obtain ⟨hsum, hap', hrj'⟩ := addVote_counts a v
  unfold Approval.addVote
  generalize hb : ({ a with votes := a.votes ++ [v] } : Approval) = b at hsum hap' hrj'
  have hreq : b.requiredApprovers = a.requiredApprovers := by rw [← hb]
  have hbp : b.status = .pending := by rw [← hb]; exact hp
  have hbn : b.resolvedAt = none := by rw [← hb]; exact hnone
  unfold Approval.resolve Approval.outcome
  by_cases happ : b.requiredApprovers ≤ b.approveCount
  · -- the approve side reached the threshold, by this vote and so exactly
    rw [if_pos happ]
    refine ⟨fun h => ?_, fun _ => ?_, fun h => ?_⟩
    · cases h
    · show (b.approveCount : Int) = b.requiredApprovers
      rw [hreq] at happ ⊢
      omega
    · cases h
  · rw [if_neg happ]
    by_cases hrej : b.requiredApprovers ≤ b.rejectCount
    · rw [if_pos hrej]
      refine ⟨fun h => ?_, fun h => ?_, fun _ => ⟨?_, ?_⟩⟩
      · cases h
      · cases h
      · show (b.rejectCount : Int) = b.requiredApprovers
        rw [hreq] at hrej ⊢
        omega
      · show (b.approveCount : Int) < b.requiredApprovers
        omega
    · rw [if_neg hrej]
      show Resolution b
      refine ⟨fun _ => ⟨hbn, by omega, by omega⟩, fun h => ?_, fun h => ?_⟩
      · rw [hbp] at h
        cases h
      · rw [hbp] at h
        cases h

theorem resolution_new {a : Approval} (hreq : 1 ≤ a.requiredApprovers) (h : IsNew a) :
    Resolution a := by
  have happ : a.approveCount = 0 := by
    unfold Approval.approveCount
    rw [h.votes]
    rfl
  have hrej : a.rejectCount = 0 := by
    unfold Approval.rejectCount
    rw [h.votes]
    rfl
  refine ⟨fun _ => ⟨h.resolvedAt, by omega, by omega⟩, fun hs => ?_, fun hs => ?_⟩
  · rw [h.status] at hs
    cases hs
  · rw [h.status] at hs
    cases hs

theorem Change.requiredApprovers_eq {Q : Approval → ApprovalVote → Prop} {now : Int}
    {a a' : Approval} (h : Change Q now a a') : a'.requiredApprovers = a.requiredApprovers := by
  cases h with
  | kept _ h => exact h.requiredApprovers
  | closed _ _ _ => rfl
  | voted v _ _ => exact (resolve_same now _).2.2.2.1

/-- **ONE CHANGE** keeps status and counts related. -/
theorem resolution_change {Q : Approval → ApprovalVote → Prop} {now : Int} {a a' : Approval}
    (hinv : Resolution a) (h : Change Q now a a') : Resolution a' := by
  cases h with
  | kept _ h =>
      have happ : a'.approveCount = a.approveCount := by
        unfold Approval.approveCount
        rw [h.votes]
      have hrej : a'.rejectCount = a.rejectCount := by
        unfold Approval.rejectCount
        rw [h.votes]
      refine ⟨?_, ?_, ?_⟩
      · rw [h.status, h.resolvedAt, happ, hrej, h.requiredApprovers]
        exact hinv.pending
      · rw [h.status, happ, h.requiredApprovers]
        exact hinv.approved
      · rw [h.status, happ, hrej, h.requiredApprovers]
        exact hinv.rejected
  | closed status _ hstatus =>
      have hne : ∀ s, status = s → s = .expired ∨ s = .cancelled := fun s hs => hs ▸ hstatus
      refine ⟨fun h => ?_, fun h => ?_, fun h => ?_⟩
      · exact absurd (hne _ h) (by decide)
      · exact absurd (hne _ h) (by decide)
      · exact absurd (hne _ h) (by decide)
  | voted v hp _ => exact resolution_addVote hp hinv

/-! ## §2. Settled approvals. -/

/-- `a'` is the same approval with the same outcome: status, resolution time and
votes. -/
def SameResult (a a' : Approval) : Prop :=
  a'.id = a.id ∧ a'.status = a.status ∧ a'.resolvedAt = a.resolvedAt ∧ a'.votes = a.votes

/-- An approval that is not pending only changes in what does not decide it. -/
theorem settled_change {Q : Approval → ApprovalVote → Prop} {now : Int} {a a' : Approval}
    (hs : a.status ≠ .pending) (h : Change Q now a a') : SameResult a a' := by
  cases h with
  | kept _ h => exact ⟨h.id, h.status, h.resolvedAt, h.votes⟩
  | closed _ hp _ => exact absurd hp hs
  | voted _ hp _ => exact absurd hp hs

/-- Every request makes a step of the table, whoever votes. -/
theorem exec_step_any (db : DB) (r : Request) :
    Step (fun _ _ => True) r.now db (exec db r) :=
  exec_step db r (fun _ _ _ => trivial) (fun _ _ _ _ _ _ _ => trivial)

/-- **SETTLED STAYS SETTLED**, through any further sequence of requests. -/
theorem settled_run (reqs : List Request) :
    ∀ {db : DB} {a : Approval}, a ∈ db.approvals.rows → a.status ≠ .pending →
      ∃ a' ∈ (run exec db reqs).approvals.rows, SameResult a a' := by
  induction reqs with
  | nil =>
      intro db a ha _
      exact ⟨a, ha, rfl, rfl, rfl, rfl⟩
  | cons r reqs ih =>
      intro db a ha hs
      obtain ⟨a₁, ha₁, hc⟩ := (exec_step_any db r).next a ha
      obtain ⟨hid, hst, hres, hvotes⟩ := settled_change hs hc
      have hs₁ : a₁.status ≠ .pending := by
        rw [hst]
        exact hs
      obtain ⟨a₂, ha₂, hid₂, hst₂, hres₂, hvotes₂⟩ := ih ha₁ hs₁
      exact ⟨a₂, ha₂, hid₂.trans hid, hst₂.trans hst, hres₂.trans hres, hvotes₂.trans hvotes⟩

/-! ## §3. Runs. -/

/-- Status and counts are related in every approval that requires an approver. -/
def ResolutionOk (db : DB) : Prop :=
  ∀ a ∈ db.approvals.rows, 1 ≤ a.requiredApprovers → Resolution a

theorem resolution_exec (db : DB) (r : Request) (hinv : ResolutionOk db) :
    ResolutionOk (exec db r) := by
  intro a' ha' hreq
  rcases (exec_step_any db r).prev a' ha' with ⟨a, ha, hc⟩ | hnew
  · rw [hc.requiredApprovers_eq] at hreq
    exact resolution_change (hinv a ha hreq) hc
  · exact resolution_new hreq hnew

/-- **RESOLUTION OF APPROVALS**: after any sequence of requests, an approval that
requires at least one approver is pending with both counts below the requirement
and no resolution time, or approved with exactly the required approvals, or
rejected with exactly the required rejections and fewer approvals, or closed; and
once it is not pending, no further sequence of requests changes its status, its
resolution time or its votes. -/
theorem approval_resolution (reqs : List Request) (a : Approval)
    (ha : a ∈ (run exec DB.empty reqs).approvals.rows) (hreq : 1 ≤ a.requiredApprovers) :
    Resolution a ∧ (a.status ≠ .pending → ∀ later : List Request,
      ∃ a' ∈ (run exec DB.empty (reqs ++ later)).approvals.rows, SameResult a a') := by
  have h0 : ResolutionOk DB.empty := by
    intro a ha
    simp [DB.empty] at ha
  have hinv : ResolutionOk (run exec DB.empty reqs) := run_invariant' resolution_exec reqs h0
  refine ⟨hinv a ha hreq, ?_⟩
  intro hs later
  rw [run_append]
  exact settled_run later ha hs

/-- Alice asks for a bulk wipe; Bob and Carol approve it, each by one of the two
vote paths. -/
def twoApprovals : List Request :=
  [⟨0, .createApproval "a" { actionType := "bulk_wipe", requesterName := "alice" }⟩,
   ⟨1, .voteOnApproval "a" "approve" none (some "2") (some "bob")⟩,
   ⟨2, .approveRequest "a" { userName := "carol" }⟩]

/-- The request they approved. -/
def approvedByTwo : Approval :=
  { id := "a", actionType := "bulk_wipe", operationType := "bulk_wipe", requesterId := none,
    requesterName := "alice", status := .approved, expiresAt := 86400000000,
    resolvedAt := some 2, createdAt := 0,
    votes := [⟨some "2", "bob", .approve, none, false⟩, ⟨none, "carol", .approve, none, false⟩] }

/-- Two approvals of two resolve the request, and a later rejection finds it
settled. -/
theorem approval_resolution_two_of_two :
    approvedByTwo ∈ (run exec DB.empty twoApprovals).approvals.rows ∧ Resolution approvedByTwo
      ∧ ∃ a' ∈ (run exec DB.empty
          (twoApprovals ++ [⟨3, .rejectRequest "a" { userName := "dave" }⟩])).approvals.rows,
        SameResult approvedByTwo a' := by
  have hmem : approvedByTwo ∈ (run exec DB.empty twoApprovals).approvals.rows := by decide
  have h := approval_resolution twoApprovals approvedByTwo hmem (by decide)
  exact ⟨hmem, h.1, h.2 (by decide) _⟩

end PureBoot.Approvals
